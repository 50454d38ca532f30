import Mathlib.Data.List.Defs
import Playfield.Proofs.Updates

/-!
Three ways to read a playfield: the buffer cut into pieces as long as the playfield is wide, the
slice of the buffer that belongs to a row, and the place of a single cell. However a playfield was
made and changed, they give the same cells.
-/

namespace Playfield.Grid

/-! Cutting a buffer into rows of one length. -/

section Pieces
variable {α : Type} {size : Nat}

-- A piece takes up what comes next for as long as there is room in it.
theorem toChunks_go_append (taken further : List α) (piece : Array α) (done : Array (List α))
    (room : piece.size + taken.length ≤ size) :
    List.toChunks.go size (taken ++ further) piece done =
      List.toChunks.go size further (piece ++ taken) done := by
  induction taken generalizing piece with
  | nil => simp
  | cons cell taken ih =>
      rw [List.length_cons] at room
      have roomy : piece.size ≠ size := by omega
      have pushed := ih (piece.push cell) (by rw [Array.size_push]; omega)
      simpa [List.toChunks.go, roomy] using pushed

theorem toChunks_go_row {cell : α} {rest : List α} (width : (cell :: rest).length = size)
    (further : List α) (done : Array (List α)) :
    List.toChunks.go size (rest ++ further) #[cell] done =
      List.toChunks.go size further (cell :: rest).toArray done := by
  rw [List.length_cons, Nat.add_comm] at width
  rw [toChunks_go_append rest further #[cell] done (Nat.le_of_eq width)]
  simp

theorem toChunks_go_flatten (positive : 0 < size) (rows : List (List α))
    (even : ∀ row ∈ rows, row.length = size) (piece : Array α) (done : Array (List α))
    (full : piece.size = size) :
    List.toChunks.go size rows.flatten piece done = done.toList ++ piece.toList :: rows := by
  induction rows generalizing piece done with
  | nil => simp [List.toChunks.go]
  | cons row later ih =>
      obtain ⟨width, others⟩ := List.forall_mem_cons.mp even
      obtain ⟨cell, rest, rfl⟩ := List.exists_cons_of_length_pos (width ▸ positive)
      -- The piece before is full, so the first cell of the row begins a new one.
      have begun : List.toChunks.go size ((cell :: rest) :: later).flatten piece done =
          List.toChunks.go size (rest ++ later.flatten) #[cell] (done.push piece.toList) := by
        simp [List.toChunks.go, full]
      rw [begun, toChunks_go_row width, ih others (cell :: rest).toArray _ width]
      simp

theorem toChunks_flatten (positive : 0 < size) {rows : List (List α)}
    (even : ∀ row ∈ rows, row.length = size) : rows.flatten.toChunks size = rows := by
  cases rows with
  | nil => rfl
  | cons row later =>
      obtain ⟨width, others⟩ := List.forall_mem_cons.mp even
      obtain ⟨cell, rest, rfl⟩ := List.exists_cons_of_length_pos (width ▸ positive)
      have begun : ((cell :: rest) :: later).flatten.toChunks size =
          List.toChunks.go size (rest ++ later.flatten) #[cell] #[] := by
        simp [List.toChunks, Nat.ne_of_gt positive]
      rw [begun, toChunks_go_row width,
        toChunks_go_flatten positive later others (cell :: rest).toArray #[] width]
      simp

end Pieces

theorem toChunks_cells (grid : Grid) : grid.cells.toList.toChunks grid.width = grid.rows := by
  rw [← flatten_rows]
  exact toChunks_flatten grid.width_pos fun _ listed => length_of_mem_rows listed

/-- All ways to read a playfield give the same cells. -/
structure ReadsAlike (grid : Grid) : Prop where
  count : grid.rows.length = grid.height
  even : ∀ row ∈ grid.rows, row.length = grid.width
  whole : grid.rows.flatten = grid.cells.toList
  pieces : grid.cells.toList.toChunks grid.width = grid.rows
  row : ∀ y, grid.rows[y % grid.height]? = some (grid.row y)
  cell : ∀ x y, (grid.row y)[x % grid.width]? = some (grid.cell ⟨x, y⟩)

theorem readsAlike (grid : Grid) : grid.ReadsAlike where
  count := grid.length_rows
  even := fun _ listed => length_of_mem_rows listed
  whole := grid.flatten_rows
  pieces := grid.toChunks_cells
  row := grid.getElem?_rows
  cell := grid.getElem?_row

/-! The sides and the values that a playfield is made with. -/

theorem sides_of_blank {width height memory : Nat} {grid : Grid}
    (made : blank width height memory = .ok grid) :
    grid.width = width ∧ grid.height = height := by
  simp only [blank] at made
  split at made
  · split at made
    · cases made
      exact ⟨rfl, rfl⟩
    · cases made
  · cases made

theorem values_of_ofRows {rows : List (List Int64)} {grid : Grid} (made : ofRows rows = .ok grid) :
    (grid.rows.map fun row => row.map Cell.value) = rows := by
  have read (row : List Int64) : (row.map Cell.ofValue).map Cell.value = row := by
    rw [List.map_map]
    exact List.map_id row
  rw [rows_of_ofRows made, List.map_map]
  exact (List.map_congr_left fun row _ => read row).trans (List.map_id rows)

/-- Rows, slices and single cells agree on every playfield that was made blank, in whatever memory
there is, or from rows, and then changed by any updates: there are as many rows as the playfield is
high, all as long as it is wide; together they are the buffer, and they are the pieces that it falls
into; a row is the one at its number modulo the height, and a cell the one at its column modulo the
width. A playfield that was just made from rows of values has these rows. -/
theorem access_agrees (updates : List Update) :
    (∀ (width height memory : Nat) (grid : Grid), blank width height memory = .ok grid →
      let after := grid.updated updates
      after.width = width ∧ after.height = height ∧ after.ReadsAlike) ∧
    ∀ (rows : List (List Int64)) (grid : Grid), ofRows rows = .ok grid →
      (grid.rows.map fun row => row.map Cell.value) = rows ∧
      let after := grid.updated updates
      (∀ row ∈ rows, row.length = after.width) ∧ after.height = rows.length ∧
        after.ReadsAlike := by
  constructor
  · intro width height memory grid made
    obtain ⟨keptWidth, keptHeight⟩ := grid.updated_sides updates
    obtain ⟨rfl, rfl⟩ := sides_of_blank made
    exact ⟨keptWidth, keptHeight, readsAlike _⟩
  · intro rows grid made
    obtain ⟨keptWidth, keptHeight⟩ := grid.updated_sides updates
    obtain ⟨even, count⟩ := sides_of_rows (rows_of_ofRows made)
    refine ⟨values_of_ofRows made, ?_, keptHeight.trans count.symm, readsAlike _⟩
    intro row member
    exact (even row member).trans keptWidth.symm

/-- Two rows with a write and a toggle beyond the sides, and a blank playfield of one cell where
there is memory for no more. -/
theorem access_agrees_folded :
    let updates : List Update := [.set ⟨4, 3⟩ 7, .toggle ⟨3, 0⟩]
    ∃ grid single : Grid, ofRows [[49, 50, 51], [52, 53, 54]] = .ok grid ∧
      blank 1 1 1 = .ok single ∧
      (grid.rows.map fun row => row.map Cell.value) = [[49, 50, 51], [52, 53, 54]] ∧
      (grid.updated updates).ReadsAlike ∧ (single.updated updates).ReadsAlike ∧
      (grid.updated updates).rows =
        [[⟨49, true⟩, ⟨50, false⟩, ⟨51, false⟩], [⟨52, false⟩, ⟨7, false⟩, ⟨54, false⟩]] := by
  intro updates
  obtain ⟨fromBlank, fromRows⟩ := access_agrees updates
  obtain ⟨values, _, _, alike⟩ := fromRows [[49, 50, 51], [52, 53, 54]] _ rfl
  obtain ⟨_, _, single⟩ := fromBlank 1 1 1 _ rfl
  exact ⟨_, _, rfl, rfl, values, alike, single, by decide⟩

end Playfield.Grid
