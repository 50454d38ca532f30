import Mathlib.Data.Finset.Card
import Mathlib.Data.List.Nodup
import Mathlib.Logic.Function.Iterate
import Playfield.Proofs.Rows
import Playfield.Proofs.Torus

/-!
The playfield as a map from positions to cells, under any row of updates. A cell has the value that
was last set at a position congruent to its own, and its breakpoint has been flipped once for each
toggle at such a position. Values and breakpoints do not disturb each other, so toggles may come in
any order and anywhere between the writes. Counting breakpoints in the buffer counts positions,
because the buffer has one cell for each of them.
-/

namespace Playfield.Grid

inductive Update where
  | set (place : Position) (value : Int64)
  | toggle (place : Position)
  deriving DecidableEq

def Update.isSet : Update → Bool
  | set _ _ => true
  | toggle _ => false

def update (grid : Grid) : Update → Grid
  | .set place value => grid.setValue place value
  | .toggle place => grid.toggleBreakpoint place

def updated (grid : Grid) (updates : List Update) : Grid := updates.foldl update grid

/-- The two positions differ by multiples of the sides. -/
def Congruent (grid : Grid) (first second : Position) : Prop :=
  first.x % grid.width = second.x % grid.width ∧ first.y % grid.height = second.y % grid.height

instance (grid : Grid) (first second : Position) : Decidable (grid.Congruent first second) :=
  inferInstanceAs (Decidable (_ ∧ _))

/-- The value that an update sets at a position. -/
def written? (grid : Grid) (position : Position) : Update → Option Int64
  | .set place value => if grid.Congruent place position then some value else none
  | .toggle _ => none

/-- Whether an update toggles the breakpoint of a position. -/
def flips (grid : Grid) (position : Position) : Update → Bool
  | .set _ _ => false
  | .toggle place => grid.Congruent place position

/-! One update. -/

theorem cell_modify_congruent (grid : Grid) (place position : Position) (change : Cell → Cell) :
    (grid.modify place change).cell position =
      if grid.Congruent place position then change (grid.cell position)
      else grid.cell position := by
  rw [cell_modify]
  exact if_congr (grid.index_eq_iff place position) rfl rfl

theorem update_width (grid : Grid) (update : Update) :
    (grid.update update).width = grid.width := by
  cases update <;> rfl

theorem update_height (grid : Grid) (update : Update) :
    (grid.update update).height = grid.height := by
  cases update <;> rfl

theorem written?_update (grid : Grid) (update : Update) :
    (grid.update update).written? = grid.written? := by
  cases update <;> rfl

theorem flips_update (grid : Grid) (update : Update) :
    (grid.update update).flips = grid.flips := by
  cases update <;> rfl

theorem value_update (grid : Grid) (update : Update) (position : Position) :
    ((grid.update update).cell position).value =
      (grid.written? position update).getD (grid.cell position).value := by
  cases update with
  | set place value =>
      rw [Grid.update, setValue, cell_modify_congruent, written?]
      split <;> rfl
  | toggle place =>
      rw [Grid.update, toggleBreakpoint, cell_modify_congruent]
      split <;> rfl

theorem breakpoint_update (grid : Grid) (update : Update) (position : Position) :
    ((grid.update update).cell position).breakpoint =
      if grid.flips position update then !(grid.cell position).breakpoint
      else (grid.cell position).breakpoint := by
  cases update with
  | set place value => exact grid.breakpoint_setValue place position value
  | toggle place =>
      rw [Grid.update, toggleBreakpoint, cell_modify_congruent]
      simp only [flips, decide_eq_true_eq]
      split <;> rfl

/-! A row of updates. -/

theorem updated_sides (grid : Grid) (updates : List Update) :
    (grid.updated updates).width = grid.width ∧ (grid.updated updates).height = grid.height := by
  induction updates generalizing grid with
  | nil => exact ⟨rfl, rfl⟩
  | cons first later ih =>
      obtain ⟨width, height⟩ := ih (grid.update first)
      exact ⟨width.trans (grid.update_width first), height.trans (grid.update_height first)⟩

theorem value_updated (grid : Grid) (updates : List Update) (position : Position) :
    ((grid.updated updates).cell position).value =
      (updates.filterMap (grid.written? position)).getLast?.getD (grid.cell position).value := by
  induction updates generalizing grid with
  | nil => rfl
  | cons first later ih =>
      have further := ih (grid.update first)
      rw [written?_update, value_update] at further
      refine further.trans ?_
      -- What the first update sets is what a cell has if no later one sets it.
      rw [List.filterMap_cons]
      cases grid.written? position first with
      | none => rfl
      | some value => rw [List.getLast?_cons, Option.getD_some, Option.getD_some]

theorem breakpoint_updated (grid : Grid) (updates : List Update) (position : Position) :
    ((grid.updated updates).cell position).breakpoint =
      not^[updates.countP (grid.flips position)] (grid.cell position).breakpoint := by
  induction updates generalizing grid with
  | nil => rfl
  | cons first later ih =>
      have further := ih (grid.update first)
      rw [flips_update, breakpoint_update] at further
      refine further.trans ?_
      rw [List.countP_cons]
      split
      · exact (Function.iterate_succ_apply not _ _).symm
      · rfl

/-! Positions and the buffer. -/

theorem rows_eq_map (grid : Grid) :
    grid.rows = (List.range grid.height).map fun y =>
      (List.range grid.width).map fun x => grid.cell ⟨x, y⟩ :=
  List.map_congr_left fun y _ => grid.row_eq_map y

theorem map_cell_positions (grid : Grid) : grid.positions.map grid.cell = grid.cells.toList := by
  rw [← flatten_rows, rows_eq_map, positions, List.map_flatMap, List.flatMap_def]
  simp only [List.map_map]
  rfl

theorem mem_positions (grid : Grid) (position : Position) :
    position ∈ grid.positions ↔ grid.Contains position := by
  simp only [positions, List.mem_flatMap, List.mem_map, List.mem_range]
  constructor
  · rintro ⟨y, row, x, column, rfl⟩
    exact ⟨column, row⟩
  · intro inside
    exact ⟨position.y, inside.row, position.x, inside.column, rfl⟩

theorem nodup_positions (grid : Grid) : grid.positions.Nodup := by
  rw [positions, List.nodup_flatMap]
  constructor
  · intro y _
    refine List.nodup_range.map ?_
    intro x other same
    exact congrArg Position.x same
  · refine List.nodup_range.imp ?_
    intro y other different position first second
    obtain ⟨_, _, rfl⟩ := List.mem_map.mp first
    obtain ⟨_, _, same⟩ := List.mem_map.mp second
    exact different (congrArg Position.y same).symm

theorem eq_of_cells {first second : Grid} (width : first.width = second.width)
    (height : first.height = second.height)
    (same : ∀ position, first.cell position = second.cell position) : first = second := by
  apply eq_of_rows
  rw [rows_eq_map, rows_eq_map, width, height]
  simp only [same]

theorem breakpointCount_eq_card (grid : Grid) : ∃ marked : Finset Position,
    marked.card = grid.breakpointCount ∧
      ∀ position, position ∈ marked ↔
        grid.Contains position ∧ (grid.cell position).breakpoint = true := by
  have nodup : grid.breakpoints.Nodup := grid.nodup_positions.filter _
  refine ⟨grid.breakpoints.toFinset, ?_, ?_⟩
  · rw [List.toFinset_card_of_nodup nodup, breakpointCount, ← Array.countP_toList,
      ← map_cell_positions, List.countP_map, List.countP_eq_length_filter]
    rfl
  · intro position
    rw [List.mem_toFinset, breakpoints, List.mem_filter, mem_positions]

/-! The order of updates. -/

theorem filterMap_written? (grid : Grid) (position : Position) (updates : List Update) :
    updates.filterMap (grid.written? position) =
      (updates.filter Update.isSet).filterMap (grid.written? position) := by
  rw [List.filterMap_filter]
  refine List.filterMap_congr ?_
  rintro (⟨place, value⟩ | place) _ <;> rfl

theorem countP_flips (grid : Grid) (position : Position) (updates : List Update) :
    updates.countP (grid.flips position) =
      (updates.filter (!·.isSet)).countP (grid.flips position) := by
  rw [List.countP_filter]
  refine List.countP_congr ?_
  rintro (⟨place, value⟩ | place) _ <;> simp [flips, Update.isSet]

theorem updated_congr (grid : Grid) {updates other : List Update}
    (writes : other.filter Update.isSet = updates.filter Update.isSet)
    (toggles : (other.filter (!·.isSet)).Perm (updates.filter (!·.isSet))) :
    grid.updated other = grid.updated updates := by
  obtain ⟨width, height⟩ := grid.updated_sides updates
  obtain ⟨otherWidth, otherHeight⟩ := grid.updated_sides other
  refine eq_of_cells (otherWidth.trans width.symm) (otherHeight.trans height.symm) ?_
  intro position
  rw [Cell.mk.injEq]
  constructor
  · rw [value_updated, value_updated, filterMap_written?, writes, ← filterMap_written?]
  · rw [breakpoint_updated, breakpoint_updated, countP_flips, toggles.countP_eq, ← countP_flips]

/-- The playfield is a faithful store. After any updates a position has the value that was last set
at a position congruent to it, and the value from before if there is none; its breakpoint has been
flipped once for each toggle at a congruent position. How the toggles are ordered, and how they are
mixed with the writes, makes no difference. The breakpoints that are counted are those of the
positions on the playfield. -/
theorem updated_faithfully (grid : Grid) (updates : List Update) :
    let after := grid.updated updates
    after.width = grid.width ∧ after.height = grid.height ∧
    (∀ position,
      (after.cell position).value =
        (updates.filterMap (grid.written? position)).getLast?.getD (grid.cell position).value ∧
      (after.cell position).breakpoint =
        not^[updates.countP (grid.flips position)] (grid.cell position).breakpoint) ∧
    (∀ other : List Update, other.filter Update.isSet = updates.filter Update.isSet →
      (other.filter (!·.isSet)).Perm (updates.filter (!·.isSet)) →
        grid.updated other = after) ∧
    ∃ marked : Finset Position, marked.card = after.breakpointCount ∧
      ∀ position, position ∈ marked ↔
        after.Contains position ∧ (after.cell position).breakpoint = true := by
  intro after
  obtain ⟨width, height⟩ := grid.updated_sides updates
  refine ⟨width, height, ?_, ?_, after.breakpointCount_eq_card⟩
  · intro position
    exact ⟨grid.value_updated updates position, grid.breakpoint_updated updates position⟩
  · intro other writes toggles
    exact grid.updated_congr writes toggles

/-- Two writes to one cell, two toggles of it and one of its neighbour, at positions beyond the
sides, and the same with the toggles elsewhere. -/
theorem updated_faithfully_folded :
    let grid := Grid.ofRow 49 [50]
    let updates : List Update := [.toggle ⟨3, 5⟩, .set ⟨1, 0⟩ 7, .toggle ⟨1, 1⟩, .set ⟨5, 9⟩ 8,
      .toggle ⟨0, 0⟩]
    let other : List Update := [.toggle ⟨0, 0⟩, .set ⟨1, 0⟩ 7, .set ⟨5, 9⟩ 8, .toggle ⟨1, 1⟩,
      .toggle ⟨3, 5⟩]
    grid.updated other = grid.updated updates ∧
      (grid.updated updates).cell ⟨1, 0⟩ = ⟨8, false⟩ ∧
      (grid.updated updates).cell ⟨0, 0⟩ = ⟨49, true⟩ := by
  intro grid updates other
  obtain ⟨_, _, cells, reordered, _⟩ := updated_faithfully grid updates
  have written : (grid.updated updates).cell ⟨1, 0⟩ = ⟨8, false⟩ := by
    rw [Cell.mk.injEq, (cells ⟨1, 0⟩).1, (cells ⟨1, 0⟩).2]
    decide
  have toggled : (grid.updated updates).cell ⟨0, 0⟩ = ⟨49, true⟩ := by
    rw [Cell.mk.injEq, (cells ⟨0, 0⟩).1, (cells ⟨0, 0⟩).2]
    decide
  exact ⟨reordered other (by decide) (by decide), written, toggled⟩

end Playfield.Grid
