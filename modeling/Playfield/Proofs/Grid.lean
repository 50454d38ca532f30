import Playfield.Grid.Basic

/-!
The playfield as a store. Reading after an update is decided by the place where a cell is
stored, so two positions that wrap to one cell need no case of their own.

Values and breakpoints are independent: two playfields have the same values exactly if they
are equal once all breakpoints are cleared.
-/

namespace Playfield.Grid

structure Contains (grid : Grid) (position : Position) : Prop where
  column : position.x < grid.width
  row : position.y < grid.height

theorem getElem?_index (grid : Grid) (position : Position) :
    grid.cells[grid.index position]? = some (grid.cell position) :=
  Array.getElem?_eq_getElem (grid.index_lt position)

theorem cell_of_index {grid : Grid} {first second : Position}
    (same : grid.index first = grid.index second) : grid.cell first = grid.cell second := by
  apply Option.some.inj
  rw [← getElem?_index, ← getElem?_index, same]

theorem cell_modify (grid : Grid) (place position : Position) (change : Cell → Cell) :
    (grid.modify place change).cell position =
      if grid.index place = grid.index position then change (grid.cell position)
      else grid.cell position := by
  have read := getElem?_index (grid.modify place change) position
  have kept : (grid.modify place change).index position = grid.index position := rfl
  rw [kept, modify, Array.getElem?_set] at read
  by_cases same : grid.index place = grid.index position
  · have stored : grid.cell place = grid.cell position := cell_of_index same
    rw [if_pos same, Option.some.injEq] at read
    rw [if_pos same, ← stored]
    exact read.symm
  · rw [if_neg same, getElem?_index, Option.some.injEq] at read
    rw [if_neg same]
    exact read.symm

theorem breakpoint_setValue (grid : Grid) (place position : Position) (value : Int64) :
    ((grid.setValue place value).cell position).breakpoint = (grid.cell position).breakpoint := by
  rw [setValue, cell_modify]
  split <;> rfl

/-- Every place of the buffer belongs to a position inside the playfield. -/
theorem index_row_column (grid : Grid) (place : Nat) (inside : place < grid.cells.size) :
    grid.index ⟨place % grid.width, place / grid.width⟩ = place := by
  have row : place / grid.width < grid.height := by
    apply Nat.div_lt_of_lt_mul
    rw [← grid.size_eq]
    exact inside
  rw [index, Nat.mod_eq_of_lt row, Nat.mod_mod, Nat.mul_comm]
  exact Nat.div_add_mod place grid.width

/-! Clearing breakpoints. -/

def unmarked (grid : Grid) : Grid :=
  { grid with
    cells := grid.cells.map fun cell => { cell with breakpoint := false }
    size_eq := by rw [Array.size_map, grid.size_eq] }

theorem cell_unmarked (grid : Grid) (position : Position) :
    grid.unmarked.cell position = { grid.cell position with breakpoint := false } := by
  have read := getElem?_index grid.unmarked position
  have kept : grid.unmarked.index position = grid.index position := rfl
  rw [kept, unmarked, Array.getElem?_map, getElem?_index, Option.map_some,
    Option.some.injEq] at read
  exact read.symm

theorem unmarked_setValue (grid : Grid) (place : Position) (value : Int64) :
    (grid.setValue place value).unmarked = grid.unmarked.setValue place value := by
  have cleared := cell_unmarked grid place
  simp only [setValue, modify, unmarked, mk.injEq, true_and, Array.map_set] at cleared ⊢
  congr 1
  exact congrArg (fun cell : Cell => ({ cell with value := value } : Cell)) cleared.symm

/-- Equal sides and equal values; breakpoints may differ. -/
def SameValues (first second : Grid) : Prop :=
  first.width = second.width ∧ first.height = second.height ∧
    ∀ position, (first.cell position).value = (second.cell position).value

theorem sameValues_unmarked (grid : Grid) : grid.SameValues grid.unmarked := by
  refine ⟨rfl, rfl, ?_⟩
  intro position
  rw [cell_unmarked]

theorem sameValues_toggleBreakpoint (grid : Grid) (place : Position) :
    grid.SameValues (grid.toggleBreakpoint place) := by
  refine ⟨rfl, rfl, ?_⟩
  intro position
  rw [toggleBreakpoint, cell_modify]
  split <;> rfl

theorem SameValues.trans {first second third : Grid} (left : first.SameValues second)
    (right : second.SameValues third) : first.SameValues third :=
  ⟨left.1.trans right.1, left.2.1.trans right.2.1,
    fun position => (left.2.2 position).trans (right.2.2 position)⟩

theorem SameValues.symm {first second : Grid} (same : first.SameValues second) :
    second.SameValues first :=
  ⟨same.1.symm, same.2.1.symm, fun position => (same.2.2 position).symm⟩

theorem unmarked_eq_iff (first second : Grid) :
    first.unmarked = second.unmarked ↔ first.SameValues second := by
  constructor
  · intro equal
    have right := second.sameValues_unmarked.symm
    rw [← equal] at right
    exact first.sameValues_unmarked.trans right
  · rintro ⟨width, height, values⟩
    have size : first.cells.size = second.cells.size := by
      rw [first.size_eq, second.size_eq, width, height]
    have cells : first.unmarked.cells = second.unmarked.cells := by
      apply Array.ext
      · simpa [unmarked] using size
      · intro place left right
        have inFirst : place < first.cells.size := by simpa [unmarked] using left
        have inSecond : place < second.cells.size := by simpa [unmarked] using right
        -- The position of a place is the same in both, because the widths are.
        have read := values ⟨place % first.width, place / first.width⟩
        have fromFirst := getElem?_index first ⟨place % first.width, place / first.width⟩
        have fromSecond := getElem?_index second ⟨place % first.width, place / first.width⟩
        rw [index_row_column first place inFirst, Array.getElem?_eq_getElem inFirst,
          Option.some.injEq] at fromFirst
        rw [width, index_row_column second place inSecond, Array.getElem?_eq_getElem inSecond,
          Option.some.injEq, ← width] at fromSecond
        simp [unmarked, fromFirst, fromSecond, read]
    simp only [unmarked, mk.injEq] at cells ⊢
    exact ⟨width, height, cells⟩

def ofRow (first : Int64) (rest : List Int64) : Grid where
  width := (first :: rest).length
  height := 1
  cells := ((first :: rest).map Cell.ofValue).toArray
  width_pos := Nat.succ_pos rest.length
  height_pos := Nat.one_pos
  size_eq := by simp

end Playfield.Grid
