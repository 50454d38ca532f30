import Mathlib.Data.String.Basic
import Playfield.Proofs.Effects

/-!
Output grows. Nothing that a machine does takes printed text back, so a host that takes the fresh
text after every step has, put together, the whole text.
-/

namespace Playfield

namespace Output

/-- The whole text has been handed out. -/
def Drained (output : Output) : Prop := output.flushed = output.text.utf8ByteSize

theorem drained_flush (output : Output) : output.flush.Drained := rfl

/-- If the mark is behind some text, then what follows that text is fresh. -/
theorem fresh_eq {output : Output} {handed rest : String} (text : output.text = handed ++ rest)
    (mark : output.flushed = handed.utf8ByteSize) : output.fresh = rest := by
  have start : output.flushed = String.utf8Len handed.toList := by
    rw [mark, ← String.utf8ByteSize_ofList, String.ofList_toList]
  have stop : (handed ++ rest).rawEndPos =
      ⟨String.utf8Len handed.toList + String.utf8Len rest.toList⟩ := by
    rw [← String.utf8Len_append, ← String.toList_append, ← String.rawEndPos_ofList,
      String.ofList_toList]
  have cut := String.extract_of_valid handed.toList rest.toList []
  rw [List.append_nil, ← String.toList_append, String.ofList_toList, String.ofList_toList] at cut
  rw [fresh, text, start, stop, cut]

theorem fresh_append {output : Output} (drained : output.Drained) (piece : String) :
    (output.append piece).fresh = piece :=
  fresh_eq rfl drained

theorem Grows.text {before after : Output} (grows : before.Grows after)
    (drained : before.Drained) : after.text = before.text ++ after.fresh := by
  obtain ⟨piece, rfl⟩ := grows
  rw [fresh_append drained]
  rfl

end Output

namespace Machine

theorem step_output (machine : Machine) : machine.output.Grows machine.step.2.output := by
  by_cases active : machine.Active
  · have grows := (machine.execute_effect machine.current.value).output
    rw [step_of_active active]
    generalize machine.execute machine.current.value = executed at grows
    rcases executed with ⟨fault | _ | request, after⟩
    · exact grows
    · obtain ⟨position, state, complete⟩ := after.complete_frame
      simp only [finish, complete]
      exact grows
    · exact grows
  · rw [step_of_not_active active]
    exact .refl _

end Machine

end Playfield
