import Playfield.Proofs.Grid

/-!
A playfield row by row. A row lists the cells at its positions, the rows together are the buffer,
and a playfield is made from rows of values exactly if these are its own rows.
-/

namespace Playfield.Grid

theorem row_eq_map (grid : Grid) (y : Nat) :
    grid.row y = (List.range grid.width).map fun x => grid.cell ⟨x, y⟩ := by
  have inside : (y % grid.height) * grid.width + grid.width ≤ grid.cells.size := by
    have below : y % grid.height + 1 ≤ grid.height := Nat.mod_lt y grid.height_pos
    have rows := Nat.mul_le_mul_right grid.width below
    rw [grid.size_eq, Nat.mul_comm grid.width]
    rw [Nat.add_mul, Nat.one_mul] at rows
    exact rows
  apply List.ext_getElem?
  intro x
  by_cases column : x < grid.width
  · have stored := getElem?_index grid ⟨x, y⟩
    have place : grid.index ⟨x, y⟩ = (y % grid.height) * grid.width + x := by
      rw [index, Nat.mod_eq_of_lt column]
    rw [place] at stored
    have read : (grid.cells.extract ((y % grid.height) * grid.width)
        ((y % grid.height) * grid.width + grid.width))[x]? = some (grid.cell ⟨x, y⟩) := by
      rw [Array.getElem?_extract, if_pos (by omega), stored]
    rw [row, Array.getElem?_toList, read, List.getElem?_map, List.getElem?_range column]
    rfl
  · rw [row, Array.getElem?_toList, Array.getElem?_eq_none, List.getElem?_eq_none]
    · simp only [List.length_map, List.length_range]
      omega
    · simp only [Array.size_extract]
      omega

theorem length_row (grid : Grid) (y : Nat) : (grid.row y).length = grid.width := by
  rw [row_eq_map, List.length_map, List.length_range]

theorem length_rows (grid : Grid) : grid.rows.length = grid.height := by
  rw [rows, List.length_map, List.length_range]

theorem eq_row_of_getElem? {grid : Grid} {y : Nat} {row : List Cell}
    (listed : grid.rows[y]? = some row) : row = grid.row y := by
  rw [rows, List.getElem?_map] at listed
  obtain ⟨index, found, rfl⟩ := Option.map_eq_some_iff.mp listed
  obtain ⟨inside, rfl⟩ := List.getElem?_eq_some_iff.mp found
  rw [List.getElem_range]

theorem eq_cell_of_getElem? {grid : Grid} {x y : Nat} {cell : Cell}
    (listed : (grid.row y)[x]? = some cell) : cell = grid.cell ⟨x, y⟩ := by
  rw [row_eq_map, List.getElem?_map] at listed
  obtain ⟨index, found, rfl⟩ := Option.map_eq_some_iff.mp listed
  obtain ⟨inside, rfl⟩ := List.getElem?_eq_some_iff.mp found
  rw [List.getElem_range]

theorem flatten_rows (grid : Grid) : grid.rows.flatten = grid.cells.toList := by
  have start : ∀ count ≤ grid.height,
      ((List.range count).map grid.row).flatten = grid.cells.toList.take (count * grid.width) := by
    intro count inside
    induction count with
    | zero => simp
    | succ count ih =>
        have row : grid.row count =
            (grid.cells.toList.drop (count * grid.width)).take grid.width := by
          rw [Grid.row, Nat.mod_eq_of_lt inside, Array.toList_extract, List.extract_eq_take_drop,
            Nat.add_sub_cancel_left]
        rw [List.range_succ, List.map_append, List.flatten_append, ih (Nat.le_of_succ_le inside),
          List.map_singleton, List.flatten_singleton, row, Nat.succ_mul, List.take_add]
  have size : grid.cells.toList.length = grid.height * grid.width := by
    rw [Array.length_toList, grid.size_eq, Nat.mul_comm]
  rw [rows, start grid.height (Nat.le_refl _), List.take_of_length_le (Nat.le_of_eq size)]

theorem mem_rows {grid : Grid} {row : List Cell} {cell : Cell} (listed : row ∈ grid.rows)
    (member : cell ∈ row) : ∃ place, grid.cell place = cell := by
  obtain ⟨y, _, rfl⟩ := List.mem_map.mp listed
  rw [row_eq_map] at member
  obtain ⟨x, _, read⟩ := List.mem_map.mp member
  exact ⟨⟨x, y⟩, read⟩

theorem length_of_mem_rows {grid : Grid} {row : List Cell} (listed : row ∈ grid.rows) :
    row.length = grid.width := by
  obtain ⟨y, _, rfl⟩ := List.mem_map.mp listed
  exact grid.length_row y

theorem row_mod (grid : Grid) (y : Nat) : grid.row (y % grid.height) = grid.row y := by
  rw [row, row, Nat.mod_mod]

theorem getElem?_rows (grid : Grid) (y : Nat) :
    grid.rows[y % grid.height]? = some (grid.row y) := by
  have below := Nat.mod_lt y grid.height_pos
  rw [rows, List.getElem?_map, List.getElem?_range below, Option.map_some, row_mod]

theorem getElem?_row (grid : Grid) (x y : Nat) :
    (grid.row y)[x % grid.width]? = some (grid.cell ⟨x, y⟩) := by
  have column := Nat.mod_lt x grid.width_pos
  have same : grid.cell ⟨x % grid.width, y⟩ = grid.cell ⟨x, y⟩ := by
    apply cell_of_index
    rw [index, index, Nat.mod_mod]
  rw [row_eq_map, List.getElem?_map, List.getElem?_range column, Option.map_some, same]

theorem row_mem_rows (grid : Grid) (y : Nat) : grid.row y ∈ grid.rows :=
  List.mem_of_getElem? (grid.getElem?_rows y)

theorem cell_mem_row (grid : Grid) (place : Position) : grid.cell place ∈ grid.row place.y :=
  List.mem_of_getElem? (grid.getElem?_row place.x place.y)

theorem getLast?_row (grid : Grid) (y : Nat) :
    (grid.row y).getLast? = some (grid.cell ⟨grid.width - 1, y⟩) := by
  have last : grid.width - 1 < grid.width := Nat.sub_lt grid.width_pos Nat.one_pos
  rw [row_eq_map, List.getLast?_eq_getElem?, List.length_map, List.length_range,
    List.getElem?_map, List.getElem?_range last]
  rfl

/-! Making a playfield from its rows. -/

theorem map_length_rows (grid : Grid) :
    grid.rows.map List.length = List.replicate grid.height grid.width := by
  apply List.eq_replicate_iff.mpr
  constructor
  · rw [List.length_map, length_rows]
  · intro length member
    obtain ⟨row, listed, rfl⟩ := List.mem_map.mp member
    exact length_of_mem_rows listed

theorem eq_of_rows {first second : Grid} (rows : first.rows = second.rows) : first = second := by
  have height : first.height = second.height := by
    rw [← length_rows, ← length_rows, rows]
  have width : first.width = second.width := by
    have listed : first.row 0 ∈ second.rows := rows ▸ first.row_mem_rows 0
    rw [← first.length_row 0, length_of_mem_rows listed]
  have cells : first.cells = second.cells := by
    apply Array.toList_inj.mp
    rw [← flatten_rows, ← flatten_rows, rows]
  cases first
  cases second
  cases width
  cases height
  cases cells
  rfl

theorem rows_of_ofRows {rows : List (List Int64)} {grid : Grid}
    (made : ofRows rows = .ok grid) : grid.rows = rows.map fun row => row.map Cell.ofValue := by
  simp only [ofRows] at made
  split at made
  · rename_i sides
    split at made
    · cases made
    · rename_i misfit
      cases made
      apply List.eq_iff_flatten_eq.mpr
      constructor
      · rw [flatten_rows]
        simp [List.map_flatten]
      · rw [map_length_rows]
        symm
        apply List.eq_replicate_iff.mpr
        constructor
        · simp
        · intro length member
          simp only [List.map_map, List.mem_map, Function.comp_apply, List.length_map] at member
          obtain ⟨row, listed, rfl⟩ := member
          simpa using List.findIdx?_eq_none_iff.mp misfit row listed
  · cases made

/-! Which rows make a playfield. The first row decides about the width. -/

section FirstRow
variable {first : List Int64} {later : List (List Int64)}

theorem sides_of_wide (wide : first ≠ []) :
    0 < ((first :: later).headD []).length ∧ 0 < (first :: later).length :=
  ⟨List.length_pos_iff.mpr wide, Nat.succ_pos later.length⟩

theorem ofRows_of_even (wide : first ≠ []) (even : ∀ row ∈ later, row.length = first.length) :
    ∃ grid, ofRows (first :: later) = .ok grid := by
  simp only [ofRows, dif_pos (sides_of_wide wide)]
  split
  · rename_i row misfit
    obtain ⟨inside, differs, _⟩ := List.findIdx?_eq_some_iff_getElem.mp misfit
    have same : ∀ row ∈ first :: later, row.length = first.length :=
      List.forall_mem_cons.mpr ⟨rfl, even⟩
    simp [same _ (List.getElem_mem inside)] at differs
  · exact ⟨_, rfl⟩

end FirstRow

theorem sides_of_rows {rows : List (List Int64)} {grid : Grid}
    (same : grid.rows = rows.map fun row => row.map Cell.ofValue) :
    (∀ row ∈ rows, row.length = grid.width) ∧ rows.length = grid.height := by
  constructor
  · intro row listed
    have member : row.map Cell.ofValue ∈ grid.rows := same ▸ List.mem_map_of_mem listed
    rw [← length_of_mem_rows member, List.length_map]
  · rw [← grid.length_rows, same, List.length_map]

theorem ofRows_of_rows {rows : List (List Int64)} {grid : Grid}
    (same : grid.rows = rows.map fun row => row.map Cell.ofValue) : ofRows rows = .ok grid := by
  obtain ⟨even, height⟩ := sides_of_rows same
  cases rows with
  | nil => exact absurd height (Nat.ne_of_lt grid.height_pos)
  | cons first later =>
      obtain ⟨width, others⟩ := List.forall_mem_cons.mp even
      have wide : first ≠ [] := List.length_pos_iff.mp (width ▸ grid.width_pos)
      obtain ⟨other, made⟩ := ofRows_of_even wide (width ▸ others)
      rw [made, eq_of_rows ((rows_of_ofRows made).trans same.symm)]

theorem ofRows_eq_ok_iff (rows : List (List Int64)) (grid : Grid) :
    ofRows rows = .ok grid ↔ grid.rows = rows.map fun row => row.map Cell.ofValue :=
  ⟨rows_of_ofRows, ofRows_of_rows⟩

end Playfield.Grid
