import Playfield.ProgramText
import Playfield.Proofs.Lines
import Playfield.Proofs.Rows

/-!
Programs as text and back. Writing loses every breakpoint and every value that is no character;
reading takes a line feed, and a carriage return at the end of a line, for line endings. That is
all that can go wrong: a playfield survives being written and read exactly if none of these
occurs in it.
-/

namespace Playfield

namespace Scalar

/-- The code points of characters: all up to U+10FFFF but the surrogates. -/
def IsScalar (value : Int64) : Prop :=
  0 ≤ value.toInt ∧ value.toInt < 0x110000 ∧ ¬ (0xd800 ≤ value.toInt ∧ value.toInt ≤ 0xdfff)

theorem toInt_code (character : Char) : (code character).toInt = character.toNat := by
  have valid : character.toNat.isValidChar := character.valid
  apply Int64.toInt_ofNat_of_lt
  unfold Nat.isValidChar at valid
  omega

theorem isScalar_code (character : Char) : IsScalar (code character) := by
  have valid : character.toNat.isValidChar := character.valid
  unfold Nat.isValidChar at valid
  unfold IsScalar
  rw [toInt_code]
  omega

theorem code_injective {first second : Char} (same : code first = code second) :
    first = second := by
  have points : first.toNat = second.toNat := by
    apply Int.ofNat_inj.mp
    rw [← toInt_code, ← toInt_code, same]
  rw [← Char.ofNat_toNat first, points, Char.ofNat_toNat]

theorem char?_code (character : Char) : char? (code character) = some character := by
  have valid : character.toNat.isValidChar := character.valid
  have positive : 0 ≤ code character := by
    apply Int64.le_iff_toInt_le.mpr
    rw [toInt_code]
    exact Int.natCast_nonneg _
  have natural : (code character).toNatClampNeg = character.toNat :=
    congrArg Int.toNat (toInt_code character)
  rw [char?, natural, if_pos ⟨positive, valid⟩, Char.ofNat_toNat]

theorem code_glyph {value : Int64} (scalar : IsScalar value) : code (glyph value) = value := by
  obtain ⟨low, high, proper⟩ := scalar
  have positive : 0 ≤ value := Int64.le_iff_toInt_le.mpr low
  have natural : (value.toNatClampNeg : Int) = value.toInt := Int.toNat_of_nonneg low
  have valid : value.toNatClampNeg.isValidChar := by
    unfold Nat.isValidChar
    omega
  have found : char? value = some (Char.ofNat value.toNatClampNeg) := if_pos ⟨positive, valid⟩
  have point : (Char.ofNat value.toNatClampNeg).toNat = value.toNatClampNeg := by
    rw [Char.ofNat, dif_pos valid]
    rfl
  rw [glyph, found, Option.getD_some, code, point, Int64.ofNat_toNatClampNeg value positive]

theorem glyph_code (character : Char) : glyph (code character) = character :=
  code_injective (code_glyph (isScalar_code character))

end Scalar

namespace ProgramText

open Scalar

theorem parse_eq_ok_iff (text : String) (grid : Grid) :
    parse text = .ok grid ↔
      grid.rows = (lines text.toList).map fun line => line.map fun character =>
        Cell.ofValue (code character) := by
  rw [parse, Grid.ofRows_eq_ok_iff, List.map_map]
  simp only [Function.comp_def, List.map_map]

/-- Every cell that is read holds a character, but no line feed, and has no breakpoint. -/
theorem cell_of_parse {text : String} {grid : Grid} (read : parse text = .ok grid)
    (place : Position) :
    ∃ character, character ≠ '\n' ∧ grid.cell place = Cell.ofValue (code character) := by
  have listed := grid.row_mem_rows place.y
  rw [(parse_eq_ok_iff text grid).mp read] at listed
  obtain ⟨line, inText, row⟩ := List.mem_map.mp listed
  have member := grid.cell_mem_row place
  rw [← row] at member
  obtain ⟨character, inLine, cell⟩ := List.mem_map.mp member
  refine ⟨character, ?_, cell.symm⟩
  rintro rfl
  obtain ⟨piece, cut, rfl⟩ := List.mem_map.mp inText
  exact Lines.not_mem_of_mem_split cut (Lines.mem_of_mem_stripFinal inLine)

theorem clean_of_parse {text : String} {grid : Grid} (read : parse text = .ok grid) :
    ∀ row ∈ grid.rows, '\n' ∉ row.map Cell.glyph := by
  intro row listed feed
  obtain ⟨cell, member, glyph⟩ := List.mem_map.mp feed
  obtain ⟨place, rfl⟩ := Grid.mem_rows listed member
  obtain ⟨character, other, same⟩ := cell_of_parse read place
  rw [same, Cell.glyph, Cell.ofValue, glyph_code] at glyph
  exact other glyph

theorem glyphs_of_line (line : List Char) :
    (line.map fun character => Cell.ofValue (code character)).map Cell.glyph = line := by
  simp [Cell.glyph, Cell.ofValue, glyph_code, Function.comp_def]

theorem glyphs_of_parse {text : String} {grid : Grid} (read : parse text = .ok grid) :
    (grid.rows.map fun row => row.map Cell.glyph) = lines text.toList := by
  rw [(parse_eq_ok_iff text grid).mp read, List.map_map]
  refine (List.map_inj_left.mpr ?_).trans (List.map_id _)
  intro line _
  exact glyphs_of_line line

theorem lines_render {grid : Grid}
    (clean : ∀ row ∈ grid.rows, '\n' ∉ row.map Cell.glyph) :
    lines (render grid).toList =
      grid.rows.map fun row => Lines.stripFinal '\r' (row.map Cell.glyph) := by
  have filled : grid.rows ≠ [] := by
    intro empty
    have height := grid.length_rows
    rw [empty] at height
    exact Nat.ne_of_lt grid.height_pos height
  obtain ⟨last, final⟩ : ∃ last, grid.rows.getLast? = some last :=
    ⟨_, List.getLast?_eq_some_getLast filled⟩
  have listed : last ∈ grid.rows := List.mem_of_getLast? final
  have wide : last.map Cell.glyph ≠ [] := by
    intro empty
    have width := Grid.length_of_mem_rows listed
    rw [List.map_eq_nil_iff.mp empty] at width
    exact Nat.ne_of_lt grid.width_pos width
  -- The text does not end with a line feed, because its last line is not empty.
  have ending : (grid.rows.map fun row => row.map Cell.glyph).getLast? =
      some (last.map Cell.glyph) := by
    rw [List.getLast?_map, final]
    rfl
  have unended : (Lines.join '\n' (grid.rows.map fun row => row.map Cell.glyph)).getLast? ≠
      some '\n' := by
    rw [Lines.getLast?_join '\n' ending wide]
    intro feed
    exact clean last listed (List.mem_of_getLast? feed)
  rw [lines, render, String.toList_ofList, Lines.stripFinal_of_ne unended, Lines.split_join,
    List.map_map]
  · rfl
  · simpa using filled
  · intro piece member
    obtain ⟨row, inGrid, rfl⟩ := List.mem_map.mp member
    exact clean row inGrid

-- Without line feeds among its characters, a playfield is read back row by row.
theorem parse_render_of_clean {grid : Grid}
    (clean : ∀ row ∈ grid.rows, '\n' ∉ row.map Cell.glyph) :
    parse (render grid) = .ok grid ↔
      ∀ row ∈ grid.rows, (Lines.stripFinal '\r' (row.map Cell.glyph)).map
        (fun character => Cell.ofValue (code character)) = row := by
  rw [parse_eq_ok_iff, lines_render clean, List.map_map, eq_comm]
  constructor
  · intro same row listed
    have fixed := same.trans (List.map_id grid.rows).symm
    exact List.map_inj_left.mp fixed row listed
  · intro fixed
    exact (List.map_inj_left.mpr fixed).trans (List.map_id grid.rows)

theorem unreturned_of_parse {grid : Grid} (read : parse (render grid) = .ok grid) (y : Nat) :
    (grid.cell ⟨grid.width - 1, y⟩).value ≠ 13 := by
  intro carriage
  have clean := clean_of_parse read
  have fixed := (parse_render_of_clean clean).mp read (grid.row y) (grid.row_mem_rows y)
  have final : ((grid.row y).map Cell.glyph).getLast? = some '\r' := by
    rw [List.getLast?_map, Grid.getLast?_row, Option.map_some, Cell.glyph, carriage]
    rfl
  -- The carriage return is taken for a part of the line ending, so the row comes back shorter.
  have shorter := Lines.length_stripFinal_lt final
  have length := congrArg List.length fixed
  rw [List.length_map] at length shorter
  omega

theorem parse_of_harmless {grid : Grid} (scalar : ∀ place, IsScalar (grid.cell place).value)
    (unfed : ∀ place, (grid.cell place).value ≠ 10)
    (unreturned : ∀ y, (grid.cell ⟨grid.width - 1, y⟩).value ≠ 13)
    (unmarked : ∀ place, (grid.cell place).breakpoint = false) :
    parse (render grid) = .ok grid := by
  have glyph : ∀ (place : Position) (character : Char),
      (grid.cell place).glyph = character → (grid.cell place).value = code character := by
    intro place character same
    rw [← same, Cell.glyph, code_glyph (scalar place)]
  apply (parse_render_of_clean _).mpr
  · intro row listed
    obtain ⟨y, _, rfl⟩ := List.mem_map.mp listed
    have final : ((grid.row y).map Cell.glyph).getLast? ≠ some '\r' := by
      rw [List.getLast?_map, Grid.getLast?_row, Option.map_some]
      intro carriage
      exact unreturned y (glyph _ '\r' (Option.some.inj carriage))
    rw [Lines.stripFinal_of_ne final, List.map_map]
    refine (List.map_inj_left.mpr ?_).trans (List.map_id _)
    intro cell member
    obtain ⟨place, rfl⟩ := Grid.mem_rows listed member
    have value := code_glyph (scalar place)
    have mark := unmarked place
    generalize grid.cell place = cell at value mark
    cases cell
    cases mark
    exact congrArg Cell.ofValue value
  · intro row listed feed
    obtain ⟨cell, member, same⟩ := List.mem_map.mp feed
    obtain ⟨place, rfl⟩ := Grid.mem_rows listed member
    exact unfed place (glyph place '\n' same)

/-- A playfield is read back from its own text exactly if it holds characters only, none of them
a line feed and none at the end of a row a carriage return, and has no breakpoints. -/
theorem parse_render_iff (grid : Grid) :
    parse (render grid) = .ok grid ↔
      (∀ place, IsScalar (grid.cell place).value) ∧
      (∀ place, (grid.cell place).value ≠ 10) ∧
      (∀ y, (grid.cell ⟨grid.width - 1, y⟩).value ≠ 13) ∧
      ∀ place, (grid.cell place).breakpoint = false := by
  constructor
  · intro read
    refine ⟨?_, ?_, unreturned_of_parse read, ?_⟩
    · intro place
      obtain ⟨character, _, same⟩ := cell_of_parse read place
      rw [same]
      exact isScalar_code character
    · intro place feed
      obtain ⟨character, other, same⟩ := cell_of_parse read place
      rw [same] at feed
      exact other (code_injective feed)
    · intro place
      obtain ⟨character, _, same⟩ := cell_of_parse read place
      rw [same]
      rfl
  · rintro ⟨scalar, unfed, unreturned, unmarked⟩
    exact parse_of_harmless scalar unfed unreturned unmarked

end ProgramText

end Playfield
