import Mathlib.Data.List.Forall2
import Playfield.Proofs.ProgramText

/-!
Which texts are programs. The lines of a text are told here without cutting it: they are what was
joined by line feeds, after the endings that reading forgives. A text is refused if its first line
is empty, or else for the first line that is not as long as the first; any other text is the
playfield that holds its lines.
-/

namespace Playfield.ProgramText

open Scalar (code toInt_code)
open Lines (Cuts Strips)

/-- The lines of a text. One line feed at its end is dropped, and one carriage return at the end of
each line. -/
def IsLines (text : List Char) (lines : List (List Char)) : Prop :=
  ∃ body pieces, Strips '\n' text body ∧ Cuts '\n' body pieces ∧
    List.Forall₂ (Strips '\r') pieces lines

theorem forall₂_strips_iff (item : Char) (pieces rests : List (List Char)) :
    List.Forall₂ (Strips item) pieces rests ↔ rests = pieces.map (Lines.stripFinal item) := by
  induction pieces generalizing rests with
  | nil => cases rests <;> simp
  | cons piece later ih =>
      cases rests with
      | nil => simp
      | cons rest others =>
          simp only [List.forall₂_cons, List.map_cons, List.cons.injEq, Lines.strips_iff, ih]

theorem isLines_iff (text : List Char) (others : List (List Char)) :
    IsLines text others ↔ others = lines text := by
  simp only [IsLines, Lines.strips_iff, Lines.cuts_iff, forall₂_strips_iff]
  constructor
  · rintro ⟨_, _, rfl, rfl, rfl⟩
    rfl
  · rintro rfl
    exact ⟨_, _, rfl, rfl, rfl⟩

theorem isLines_of_line {line : List Char} (whole : '\n' ∉ line)
    (unreturned : line.getLast? ≠ some '\r') : IsLines line [line] := by
  refine ⟨line, [line], Or.inr ⟨rfl, ?_⟩, .singleton whole, .cons (Or.inr ⟨rfl, unreturned⟩) .nil⟩
  intro feed
  exact whole (List.mem_of_getLast? feed)

/-- The playfield has these lines as its rows, and they are its text. -/
structure Holds (grid : Grid) (lines : List (List Char)) : Prop where
  width : ∀ line ∈ lines, grid.width = line.length
  height : grid.height = lines.length
  unmarked : ∀ place, (grid.cell place).breakpoint = false
  value : ∀ y row, lines[y]? = some row → ∀ x character, row[x]? = some character →
    (grid.cell ⟨x, y⟩).value.toInt = character.toNat
  text : render grid = String.ofList (Lines.join '\n' lines)

theorem holds_of_parse {text : String} {grid : Grid} (read : parse text = .ok grid) :
    Holds grid (lines text.toList) := by
  have rows := (parse_eq_ok_iff text grid).mp read
  have glyphs := glyphs_of_parse read
  generalize lines text.toList = lines at rows glyphs
  constructor
  · intro line listed
    have member : line.map (fun character => Cell.ofValue (code character)) ∈ grid.rows := by
      rw [rows]
      exact List.mem_map_of_mem listed
    rw [← Grid.length_of_mem_rows member, List.length_map]
  · rw [← grid.length_rows, rows, List.length_map]
  · intro place
    obtain ⟨character, _, same⟩ := cell_of_parse read place
    rw [same]
    rfl
  · intro y line listed x character inLine
    have row : grid.rows[y]? = some (line.map fun character => Cell.ofValue (code character)) := by
      rw [rows, List.getElem?_map, listed]
      rfl
    have cell : (grid.row y)[x]? = some (Cell.ofValue (code character)) := by
      rw [← Grid.eq_row_of_getElem? row, List.getElem?_map, inLine]
      rfl
    rw [← Grid.eq_cell_of_getElem? cell]
    exact toInt_code character
  · rw [render, glyphs]

end Playfield.ProgramText
