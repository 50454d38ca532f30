import Playfield.Proofs.Rectangles

/-!
Line endings. Reading does not notice whether a line ends with a line feed alone or with a carriage
return before it, nor whether the last line has an ending at all, and every line may choose for
itself. Writing puts a line feed after each row but the last, and leaves the characters of the row
as they are. A carriage return at the end of a row is therefore taken for a part of the ending when
the text is read again: a text that was read comes back exactly if none of its lines had two of
them at its end.
-/

namespace Playfield.ProgramText

open Scalar (code)
open Lines (Cuts Strips)

inductive Ending where
  | feed
  | returnFeed
  deriving DecidableEq

def Ending.text : Ending → List Char
  | feed => ['\n']
  | returnFeed => ['\r', '\n']

/-- A text that is made of the given lines. Each one has an ending of its own, which only the last
one can do without. -/
inductive Spells : List (List Char) → List Char → Prop where
  | bare (line : List Char) : Spells [line] line
  | ended (line : List Char) (ending : Ending) : Spells [line] (line ++ ending.text)
  | cons (line : List Char) (ending : Ending) {later : List (List Char)} {text : List Char}
      (rest : Spells later text) : Spells (line :: later) (line ++ ending.text ++ text)

/-- A line that can be told from its ending. -/
def Clean (line : List Char) : Prop := '\n' ∉ line ∧ line.getLast? ≠ some '\r'

instance (line : List Char) : Decidable (Clean line) :=
  inferInstanceAs (Decidable (_ ∧ _))

/-- What stands before the line feed is the line again once a carriage return is dropped. -/
theorem Ending.piece (ending : Ending) {line : List Char} (clean : Clean line) :
    ∃ piece, line ++ ending.text = piece ++ ['\n'] ∧ '\n' ∉ piece ∧ Strips '\r' piece line := by
  cases ending with
  | feed => exact ⟨line, rfl, clean.1, Or.inr ⟨rfl, clean.2⟩⟩
  | returnFeed =>
      refine ⟨line ++ ['\r'], ?_, ?_, Or.inl rfl⟩
      · simp [text]
      · simpa using clean.1

theorem Spells.ne_nil {lines : List (List Char)} {text : List Char} (spelled : Spells lines text) :
    lines ≠ [] := by
  cases spelled with
  | bare => exact List.cons_ne_nil _ _
  | ended => exact List.cons_ne_nil _ _
  | cons => exact List.cons_ne_nil _ _

-- Only the empty line without an ending leaves nothing to read.
theorem Spells.text_ne_nil {lines : List (List Char)} {text : List Char}
    (spelled : Spells lines text) (filled : lines.getLast? ≠ some []) : text ≠ [] := by
  have ended : ∀ (line : List Char) (ending : Ending), line ++ ending.text ≠ [] := by
    intro line ending empty
    have none := (List.append_eq_nil_iff.mp empty).2
    cases ending <;> cases none
  cases spelled with
  | bare =>
      rintro rfl
      exact filled rfl
  | ended line ending => exact ended line ending
  | cons line ending =>
      intro empty
      exact ended line ending (List.append_eq_nil_iff.mp empty).1

theorem isLines_of_spells {lines : List (List Char)} {text : List Char}
    (spelled : Spells lines text) (clean : ∀ line ∈ lines, Clean line)
    (filled : lines.getLast? ≠ some []) : IsLines text lines := by
  induction spelled with
  | bare line =>
      have alone := clean line List.mem_cons_self
      exact isLines_of_line alone.1 alone.2
  | ended line ending =>
      obtain ⟨piece, written, whole, strips⟩ := ending.piece (clean line List.mem_cons_self)
      exact ⟨piece, [piece], Or.inl written, Cuts.singleton whole, .cons strips .nil⟩
  | @cons line ending later text rest ih =>
      obtain ⟨piece, written, whole, strips⟩ := ending.piece (clean line List.mem_cons_self)
      obtain ⟨first, others, rfl⟩ := List.exists_cons_of_ne_nil rest.ne_nil
      rw [List.getLast?_cons_cons] at filled
      obtain ⟨body, pieces, unended, cuts, lines⟩ :=
        ih (fun other listed => clean other (List.mem_cons_of_mem line listed)) filled
      refine ⟨piece ++ '\n' :: body, piece :: pieces, ?_, cuts.cons whole, .cons strips lines⟩
      have before := unended.append (rest.text_ne_nil filled) (piece ++ ['\n'])
      rw [written]
      simpa using before

/-- Line endings do not matter. Lines without line feeds, none of which ends with a carriage
return and the last of which is not empty, are read alike in every spelling, and what is read are
these lines. -/
theorem parse_of_spellings {lines : List (List Char)} (clean : ∀ line ∈ lines, Clean line)
    (filled : lines.getLast? ≠ some []) {first second : List Char} (one : Spells lines first)
    (other : Spells lines second) :
    parse (String.ofList first) = parse (String.ofList second) ∧
      parse (String.ofList first) = Grid.ofRows (lines.map fun line => line.map code) := by
  have read : ∀ text, Spells lines text →
      parse (String.ofList text) = Grid.ofRows (lines.map fun line => line.map code) := by
    intro text spelled
    have same := (isLines_iff text lines).mp (isLines_of_spells spelled clean filled)
    rw [parse, String.toList_ofList, ← same]
  exact ⟨(read first one).trans (read second other).symm, read first one⟩

/-- The second of these lines is too short, however the two are ended. -/
theorem parse_of_spellings_ragged :
    parse "ab\r\nc" = parse "ab\nc\r\n" ∧ parse "ab\r\nc" = .error (.ragged 2 2 1) :=
  parse_of_spellings (by decide) (by decide)
    (.cons ['a', 'b'] .returnFeed (.bare ['c']))
    (.cons ['a', 'b'] .feed (.ended ['c'] .returnFeed))

/-! Reading, writing and reading again. -/

/-- A text that was read is written with its lines as they were read, and those of them that still
end with a carriage return lose it when they are read again. So it is the same playfield again
exactly if no line of the text does, after one carriage return was dropped. -/
theorem parse_render_of_parse {text : String} {grid : Grid} (read : parse text = .ok grid) :
    parse (render grid) = Grid.ofRows
        ((lines text.toList).map fun line => (Lines.stripFinal '\r' line).map code) ∧
      (parse (render grid) = .ok grid ↔
        ∀ line ∈ lines text.toList, line.getLast? ≠ some '\r') := by
  have clean := clean_of_parse read
  have rows := (parse_eq_ok_iff text grid).mp read
  constructor
  · have again : lines (render grid).toList =
        (lines text.toList).map (Lines.stripFinal '\r') := by
      rw [lines_render clean, ← glyphs_of_parse read, List.map_map]
      rfl
    rw [parse, again, List.map_map]
    rfl
  · rw [parse_render_of_clean clean, rows]
    constructor
    · intro fixed line listed carriage
      have row := fixed _ (List.mem_map_of_mem listed)
      rw [glyphs_of_line line] at row
      have length := congrArg List.length row
      rw [List.length_map, List.length_map] at length
      exact Nat.ne_of_lt (Lines.length_stripFinal_lt carriage) length
    · intro unreturned row listed
      obtain ⟨line, inText, rfl⟩ := List.mem_map.mp listed
      rw [glyphs_of_line line, Lines.stripFinal_of_ne (unreturned line inText)]

/-- A carriage return inside a line does no harm. -/
theorem parse_render_of_parse_inner :
    parse "\ra\r\n" = .ok (Grid.ofRow 13 [97]) ∧
      parse (render (Grid.ofRow 13 [97])) = .ok (Grid.ofRow 13 [97]) := by
  have read : parse "\ra\r\n" = .ok (Grid.ofRow 13 [97]) := rfl
  exact ⟨read, (parse_render_of_parse read).2.mpr (by decide)⟩

/-- Of two carriage returns at the end of a line the first is a cell, and it is lost when the
playfield is written and read. -/
theorem carriage_return_lost :
    parse "a\r\r\n" = .ok (Grid.ofRow 97 [13]) ∧
      parse (render (Grid.ofRow 97 [13])) = .ok (Grid.ofRow 97 []) ∧
      parse (render (Grid.ofRow 97 [13])) ≠ .ok (Grid.ofRow 97 [13]) := by
  have shorter : parse (render (Grid.ofRow 97 [13])) = .ok (Grid.ofRow 97 []) := rfl
  refine ⟨rfl, shorter, ?_⟩
  rw [shorter]
  intro same
  have width := congrArg Grid.width (Except.ok.inj same)
  exact absurd width (by decide)

end Playfield.ProgramText
