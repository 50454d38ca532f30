import Playfield.Proofs.Lines
import Playfield.Proofs.Output

/-!
Handing out what was printed. Printing and taking may alternate in any way: the pieces that are
taken, with one more at the end, are the text once and in order. The mark between what was taken
and what was not is counted in bytes, while printed characters have one to four of them, so it has
to be shown that it never falls inside a character.

For display the same text is cut into lines.
-/

namespace Playfield.Output

/-! Rows of uses. -/

inductive Use where
  | printNumber (value : Int64)
  | printChar (character : Char)
  | take

/-- The text that a use prints. -/
def Use.printed : Use → String
  | printNumber value => Decimal.ofInt value.toInt
  | printChar character => String.singleton character
  | take => ""

/-- The pieces that a use hands out. -/
def Use.taken (output : Output) : Use → List String
  | take => [output.fresh]
  | printNumber _ | printChar _ => []

def use (output : Output) : Use → Output
  | .printNumber value => output.printNumber value
  | .printChar character => output.printChar character
  | .take => output.flush

def afterUses (output : Output) (uses : List Use) : Output := uses.foldl use output

/-- All pieces that are handed out, in order. -/
def taken (output : Output) : List Use → List String
  | [] => []
  | use :: later => use.taken output ++ (output.use use).taken later

/-! The mark. -/

/-- This much of the text was handed out, and the mark is behind it. -/
structure Handed (output : Output) (handed : String) : Prop where
  starts : ∃ rest, output.text = handed ++ rest
  mark : output.flushed = handed.utf8ByteSize

section Marking
variable {output : Output} {handed : String}

theorem Handed.text (marked : output.Handed handed) : handed ++ output.fresh = output.text := by
  obtain ⟨rest, text⟩ := marked.starts
  rw [fresh_eq text marked.mark, text]

theorem Handed.isValid (marked : output.Handed handed) :
    String.Pos.Raw.IsValid output.text ⟨output.flushed⟩ := by
  obtain ⟨rest, text⟩ := marked.starts
  rw [marked.mark]
  exact String.Pos.Raw.isValid_iff_exists_append.mpr ⟨handed, rest, text, rfl⟩

theorem Handed.grows {after : Output} (marked : output.Handed handed)
    (grows : output.Grows after) : after.Handed handed := by
  obtain ⟨rest, text⟩ := marked.starts
  obtain ⟨piece, rfl⟩ := grows
  refine ⟨⟨rest ++ piece, ?_⟩, marked.mark⟩
  rw [append, text, String.append_assoc]

theorem Handed.flush (marked : output.Handed handed) :
    output.flush.Handed (handed ++ output.fresh) := by
  rw [marked.text]
  exact ⟨⟨"", String.append_empty.symm⟩, rfl⟩

theorem Handed.use (marked : output.Handed handed) (use : Use) :
    (output.use use).Handed (handed ++ String.join (use.taken output)) := by
  cases use with
  | printNumber value =>
      rw [Use.taken, String.join_nil, String.append_empty]
      exact marked.grows (output.grows_printNumber value)
  | printChar character =>
      rw [Use.taken, String.join_nil, String.append_empty]
      exact marked.grows (output.grows_printChar character)
  | take =>
      rw [Use.taken, String.join_cons, String.join_nil, String.append_empty]
      exact marked.flush

theorem use_text (output : Output) (use : Use) :
    (output.use use).text = output.text ++ use.printed := by
  cases use with
  | printNumber value => rfl
  | printChar character => exact String.append_singleton.symm
  | take => exact String.append_empty.symm

theorem afterUses_text (output : Output) (uses : List Use) :
    (output.afterUses uses).text = output.text ++ String.join (uses.map Use.printed) := by
  induction uses generalizing output with
  | nil => exact String.append_empty.symm
  | cons use later ih =>
      rw [List.map_cons, String.join_cons, ← String.append_assoc, ← use_text]
      exact ih (output.use use)

theorem Handed.afterUses (marked : output.Handed handed) (uses : List Use) :
    (output.afterUses uses).Handed (handed ++ String.join (output.taken uses)) := by
  induction uses generalizing output handed with
  | nil =>
      rw [taken, String.join_nil, String.append_empty]
      exact marked
  | cons use later ih =>
      rw [taken, String.join_append, ← String.append_assoc]
      exact ih (marked.use use)

end Marking

theorem empty_handed : empty.Handed "" := ⟨⟨"", rfl⟩, rfl⟩

/-! Lines. -/

theorem lines_of_empty {output : Output} (blank : output.text = "") : output.lines = [] :=
  if_pos (String.isEmpty_iff.mpr blank)

theorem lines_of_filled {output : Output} (filled : output.text ≠ "") :
    output.lines =
      (Lines.split '\n' (Lines.stripFinal '\n' output.text.toList)).map String.ofList := by
  have characters : output.text.toList ≠ [] := mt String.toList_eq_nil_iff.mp filled
  have unblank : ¬ output.isEmpty = true := mt String.isEmpty_iff.mp filled
  rw [lines, if_neg unblank, Lines.split_stripFinal characters]

theorem lines_eq_nil_iff (output : Output) : output.lines = [] ↔ output.text = "" := by
  by_cases blank : output.text = ""
  · exact iff_of_true (lines_of_empty blank) blank
  · rw [lines_of_filled blank, List.map_eq_nil_iff]
    exact iff_of_false (Lines.split_ne_nil _ _) blank

theorem lines_clean (output : Output) : ∀ line ∈ output.lines, '\n' ∉ line.toList := by
  intro line shown
  by_cases blank : output.text = ""
  · rw [lines_of_empty blank] at shown
    cases shown
  · rw [lines_of_filled blank] at shown
    obtain ⟨piece, listed, rfl⟩ := List.mem_map.mp shown
    rw [String.toList_ofList]
    exact Lines.not_mem_of_mem_split listed

/-- The lines make up the text again, but for a line feed at its very end. -/
theorem lines_joined (output : Output) :
    Lines.Strips '\n' output.text.toList ("\n".intercalate output.lines).toList := by
  by_cases blank : output.text = ""
  · rw [lines_of_empty blank, blank]
    exact Or.inr ⟨rfl, nofun⟩
  · rw [Lines.strips_iff, lines_of_filled blank, String.toList_intercalate, List.map_map]
    have same : String.toList ∘ String.ofList = id := funext fun _ => String.toList_ofList
    rw [same, List.map_id]
    exact Lines.join_split '\n' _

/-- Output is handed out without loss or repetition, however printing and taking alternate: the
pieces taken so far and one more piece are the text, which is everything that was printed, in
order. The mark lies between two characters of the text and not behind its end. The lines of the
text have no line feeds in them, and joined by line feeds they are the text without a last one; only
the empty text has no lines at all. -/
theorem drained_in_order (uses : List Use) :
    let output := empty.afterUses uses
    String.join (empty.taken uses ++ [output.fresh]) = output.text ∧
      output.text = String.join (uses.map Use.printed) ∧
      String.Pos.Raw.IsValid output.text ⟨output.flushed⟩ ∧
      output.flushed ≤ output.text.utf8ByteSize ∧
      (∀ line ∈ output.lines, '\n' ∉ line.toList) ∧
      Lines.Strips '\n' output.text.toList ("\n".intercalate output.lines).toList ∧
      (output.lines = [] ↔ output.text = "") := by
  intro output
  have marked : output.Handed ("" ++ String.join (empty.taken uses)) := empty_handed.afterUses uses
  rw [String.empty_append] at marked
  refine ⟨?_, ?_, marked.isValid, marked.isValid.le_rawEndPos, output.lines_clean,
    output.lines_joined, output.lines_eq_nil_iff⟩
  · rw [String.join_append, String.join_cons, String.join_nil, String.append_empty]
    exact marked.text
  · exact (empty.afterUses_text uses).trans String.empty_append

/-- Taking between a number, an accented letter and two line feeds. -/
theorem drained_in_order_accent :
    let uses : List Use := [.printNumber (-3), .take, .printChar 'é', .printChar '\n', .take, .take,
      .printChar '\n']
    let output := empty.afterUses uses
    empty.taken uses = ["-3", "é\n", ""] ∧ output.fresh = "\n" ∧ output.flushed = 5 ∧
      String.Pos.Raw.IsValid output.text ⟨5⟩ ∧ output.lines = ["-3é", ""] ∧
      '\n' ∉ "-3é".toList ∧
      Lines.Strips '\n' output.text.toList ("\n".intercalate output.lines).toList := by
  intro uses output
  obtain ⟨_, _, valid, _, clean, joined, _⟩ := drained_in_order uses
  have shown : output.lines = ["-3é", ""] := by decide +kernel
  exact ⟨by decide +kernel, by decide +kernel, by decide +kernel, valid, shown,
    clean "-3é" (shown ▸ List.mem_cons_self), joined⟩

end Playfield.Output
