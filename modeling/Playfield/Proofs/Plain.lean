import Playfield.Proofs.Breakpoints
import Playfield.Proofs.Invariant
import Playfield.Proofs.Pooling

/-!
Plain machines. A host may stop its machine at breakpoints and may hold replies back. The plain
machine has no breakpoints and has all replies from the start, and it takes the same steps: one
step for each instruction that the host's machine completes, and none while that one waits.
-/

namespace Playfield.Machine

-- A machine as a plain run has it, with the given replies still to come.
def plain (machine : Machine) (extra : List String) : Machine :=
  machine.unmarked.resume.pooled extra

theorem plain_resume (machine : Machine) (extra : List String) :
    machine.resume.plain extra = machine.plain extra := by
  rw [plain, plain, resume_unmarked, resume_unmarked, resume_resume]

theorem plain_of_not_paused {machine : Machine} (unpaused : machine.state ≠ .paused)
    (extra : List String) : machine.plain extra = machine.unmarked.pooled extra := by
  have alsoUnpaused : machine.unmarked.state ≠ .paused := unpaused
  rw [plain, resume_of_not_paused alsoUnpaused]

theorem agrees_plain (machine : Machine) (extra : List String) :
    machine.Agrees (machine.plain extra) := by
  obtain ⟨state, resumed⟩ := machine.unmarked.resume_frame
  rw [plain, resumed]
  exact ⟨machine.grid.sameValues_unmarked, rfl, rfl, rfl, rfl, rfl, rfl⟩

/-- What a step does to an active machine and to its plain ones. -/
inductive Advance (machine : Machine) : Prop where
  | completed (ends : ∀ request, machine.step.1 ≠ .ok (.awaiting request))
      (plain : ∀ extra, (machine.plain extra).step =
        (machine.step.1.unpaused, machine.step.2.plain extra))
  | suspended (request : Request) (result : machine.step.1 = .ok (.awaiting request))
      (steps : machine.step.2.steps = machine.steps)
      (plain : ∀ extra, (machine.plain extra).step = (machine.step.2.plain extra).step)

theorem advances {machine : Machine} (active : machine.Active) : Advance machine := by
  have alsoActive : machine.unmarked.Active := active
  have result : machine.unmarked.step.1 = machine.step.1.unpaused :=
    congrArg Prod.fst (step_unmarked active.1)
  have after : machine.unmarked.step.2 = machine.step.2.unmarked.resume :=
    congrArg Prod.snd (step_unmarked active.1)
  have now := plain_of_not_paused active.1
  -- Which of the two it is shows in the number of completed instructions, on both sides.
  have steps : machine.unmarked.step.2.steps = machine.step.2.steps := by
    obtain ⟨state, resumed⟩ := machine.step.2.unmarked.resume_frame
    rw [after, resumed]
    rfl
  have before : machine.unmarked.steps = machine.steps := rfl
  cases counted active with
  | counts counts ends =>
      refine .completed ends ?_
      intro extra
      cases progress alsoActive with
      | completed _ pools => rw [now, pools, result, after, plain]
      | suspended waits _ _ _ => omega
  | waits waits request _ awaiting =>
      refine .suspended request awaiting waits ?_
      intro extra
      cases progress alsoActive with
      | completed counts _ => omega
      | suspended _ _ _ pools => rw [now, pools, after, plain]

-- A reply that arrives is the first of those that were still to come.
theorem step_plain_supply {machine : Machine} {request : Request} (consistent : machine.Consistent)
    (awaiting : machine.state = .awaiting request) (reply : String) (rest : List String) :
    ((machine.supply reply).plain rest).step = (machine.plain (reply :: rest)).step := by
  have unpaused : machine.state ≠ .paused := by simp [awaiting]
  have running : (machine.supply reply).state = .running := by
    rw [supply_of_awaiting reply awaiting]
  have alsoAwaiting : machine.unmarked.state = .awaiting request := awaiting
  have empty : machine.unmarked.replies = ⟨[], []⟩ := consistent.replies_of_awaiting awaiting
  rw [plain_of_not_paused (by simp [running]), plain_of_not_paused unpaused, ← supply_unmarked]
  exact step_pooled_supply reply rest alsoAwaiting empty

-- Without a further reply a plain machine goes on waiting, too.
theorem step_plain_nil {machine : Machine} {request : Request} (consistent : machine.Consistent)
    (awaiting : machine.state = .awaiting request) :
    (machine.plain []).step = (.ok (.awaiting request), machine.plain []) := by
  have unpaused : machine.state ≠ .paused := by simp [awaiting]
  have alsoUnpaused : machine.unmarked.state ≠ .paused := unpaused
  have unsupplied : machine.unmarked.replies.supplied = [] :=
    (consistent.awaiting request awaiting).2.1
  have alone : machine.plain [] = machine.unmarked := by
    rw [plain_of_not_paused unpaused, pooled_nil unsupplied]
  rw [alone, step_unmarked unpaused, consistent.step_of_awaiting awaiting,
    resume_of_not_paused alsoUnpaused]
  rfl

end Playfield.Machine
