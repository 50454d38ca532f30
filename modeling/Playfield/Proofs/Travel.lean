import Mathlib.Algebra.BigOperators.Group.List.Basic
import Mathlib.Algebra.Group.Int.Defs
import Playfield.Editor
import Playfield.Proofs.Torus

/-!
Travelling on the torus. Every move folds its coordinates back into the sides before the next one
starts. Folding once at the end gives the same place, so a journey is told by the sums of its
offsets: their order does not matter, and a move backwards takes a move back. Cursor and program
counter travel in this way.
-/

namespace Playfield

theorem natCast_wrap {size : Nat} (positive : 0 < size) (small : size < 2 ^ 63) (value : Int) :
    (wrap value size : Int) = value % size := by
  rw [wrap_of_lt value size small]
  exact Int.toNat_of_nonneg (Int.emod_nonneg _ (by omega))

theorem wrap_wrap_add {size : Nat} (positive : 0 < size) (small : size < 2 ^ 63)
    (value more : Int) : wrap (wrap value size + more) size = wrap (value + more) size := by
  rw [wrap_eq_iff positive small, natCast_wrap positive small]
  exact (Int.mod_modEq value size).add_right more

namespace Grid

/-- One move after the other. -/
def travel (grid : Grid) (start : Position) (moves : List (Int × Int)) : Position :=
  moves.foldl (fun position move => grid.offset position move.1 move.2) start

section Travel
variable {grid : Grid} (width : grid.width < 2 ^ 63) (height : grid.height < 2 ^ 63)
include width height

theorem contains_wrapPosition (x y : Int) : grid.Contains (grid.wrapPosition x y) :=
  ⟨wrap_lt x grid.width grid.width_pos width, wrap_lt y grid.height grid.height_pos height⟩

theorem wrapPosition_of_contains {position : Position} (inside : grid.Contains position) :
    grid.wrapPosition position.x position.y = position := by
  rw [wrapPosition, wrap_natCast width, wrap_natCast height, Nat.mod_eq_of_lt inside.column,
    Nat.mod_eq_of_lt inside.row]

/-- A move from folded coordinates ends where the sums are folded to. -/
theorem offset_wrapPosition (x y dx dy : Int) :
    grid.offset (grid.wrapPosition x y) dx dy = grid.wrapPosition (x + dx) (y + dy) := by
  obtain ⟨column, row⟩ := contains_wrapPosition width height x y
  -- Both coordinates are below the sides, so that they are read as they stand.
  rw [offset, signedWord_of_lt _ (column.trans width), signedWord_of_lt _ (row.trans height)]
  simp only [wrapPosition]
  rw [wrap_wrap_add grid.width_pos width, wrap_wrap_add grid.height_pos height]

theorem travel_wrapPosition (x y : Int) (moves : List (Int × Int)) :
    grid.travel (grid.wrapPosition x y) moves =
      grid.wrapPosition (x + (moves.map Prod.fst).sum) (y + (moves.map Prod.snd).sum) := by
  induction moves generalizing x y with
  | nil => simp [travel]
  | cons move later ih =>
      have first := offset_wrapPosition width height x y move.1 move.2
      calc grid.travel (grid.wrapPosition x y) (move :: later)
          = grid.travel (grid.wrapPosition (x + move.1) (y + move.2)) later :=
            congrArg (grid.travel · later) first
        _ = grid.wrapPosition (x + move.1 + (later.map Prod.fst).sum)
              (y + move.2 + (later.map Prod.snd).sum) := ih _ _
        _ = _ := by simp only [List.map_cons, List.sum_cons, Int.add_assoc]

theorem travel_of_contains {start : Position} (inside : grid.Contains start)
    (moves : List (Int × Int)) :
    grid.travel start moves =
      grid.wrapPosition (start.x + (moves.map Prod.fst).sum)
        (start.y + (moves.map Prod.snd).sum) := by
  have journey := travel_wrapPosition width height start.x start.y moves
  rw [wrapPosition_of_contains width height inside] at journey
  exact journey

theorem travel_permuted {start : Position} (inside : grid.Contains start)
    {moves other : List (Int × Int)} (order : moves.Perm other) :
    grid.travel start moves = grid.travel start other := by
  rw [travel_of_contains width height inside, travel_of_contains width height inside,
    (order.map Prod.fst).sum_eq, (order.map Prod.snd).sum_eq]

theorem offset_back {start : Position} (inside : grid.Contains start) (dx dy : Int) :
    grid.offset (grid.offset start dx dy) (-dx) (-dy) = start := by
  have there : grid.offset start dx dy = grid.wrapPosition (start.x + dx) (start.y + dy) := by
    have folded := offset_wrapPosition width height start.x start.y dx dy
    rw [wrapPosition_of_contains width height inside] at folded
    exact folded
  rw [there, offset_wrapPosition width height, Int.add_neg_cancel_right,
    Int.add_neg_cancel_right, wrapPosition_of_contains width height inside]

end Travel

end Grid

theorem Editor.foldl_move (editor : Editor) (moves : List (Int × Int)) :
    moves.foldl (fun editor move => editor.move move.1 move.2) editor =
      { editor with cursor := editor.grid.travel editor.cursor moves } := by
  induction moves generalizing editor with
  | nil => rfl
  | cons move later ih => exact ih (editor.move move.1 move.2)

theorem Machine.foldl_advance (machine : Machine) (headings : List Heading) :
    (headings.foldl (fun machine heading => (machine.turn heading).advance) machine).position =
      machine.grid.travel machine.position (headings.map Heading.delta) := by
  induction headings generalizing machine with
  | nil => rfl
  | cons heading later ih => exact ih (machine.turn heading).advance

/-- Where a journey ends. The coordinates of its start and all offsets are added up and folded
once, whatever the offsets are and in whatever order they come; the same offsets backwards undo a
move. A cursor that is moved so, and a program counter that advances along a row of headings,
ends there. -/
theorem Grid.travel_adds_up (grid : Grid) (width : grid.width < 2 ^ 63)
    (height : grid.height < 2 ^ 63) (start : Position) (inside : grid.Contains start)
    (moves : List (Int × Int)) :
    let last := grid.travel start moves
    (last.x : Int) = (start.x + (moves.map Prod.fst).sum) % grid.width ∧
    (last.y : Int) = (start.y + (moves.map Prod.snd).sum) % grid.height ∧
    grid.Contains last ∧
    (∀ other, moves.Perm other → grid.travel start other = last) ∧
    (∀ dx dy, grid.offset (grid.offset start dx dy) (-dx) (-dy) = start) ∧
    (∀ editor : Editor, editor.grid = grid → editor.cursor = start →
      moves.foldl (fun editor move => editor.move move.1 move.2) editor =
        { editor with cursor := last }) ∧
    ∀ (machine : Machine) (headings : List Heading), machine.grid = grid →
      machine.position = start → headings.map Heading.delta = moves →
        (headings.foldl (fun machine heading => (machine.turn heading).advance) machine).position =
          last := by
  intro last
  have journey : last = grid.wrapPosition _ _ := travel_of_contains width height inside moves
  refine ⟨?_, ?_, ?_, ?_, offset_back width height inside, ?_, ?_⟩
  · rw [journey]
    exact natCast_wrap grid.width_pos width _
  · rw [journey]
    exact natCast_wrap grid.height_pos height _
  · rw [journey]
    exact contains_wrapPosition width height _ _
  · intro other order
    exact (travel_permuted width height inside order).symm
  · rintro editor rfl rfl
    exact editor.foldl_move moves
  · rintro machine headings rfl rfl rfl
    exact machine.foldl_advance headings

/-- A journey in a row of three cells, to the end of what a signed word can hold and back. -/
theorem Grid.travel_adds_up_far :
    let grid := Grid.ofRow 49 [50, 51]
    let moves := [(9223372036854775805, -1), (-9223372036854775808, 4)]
    grid.width < 2 ^ 63 ∧ grid.height < 2 ^ 63 ∧ grid.Contains ⟨2, 0⟩ ∧
      grid.travel ⟨2, 0⟩ moves = ⟨2, 0⟩ ∧ grid.travel ⟨2, 0⟩ moves.reverse = ⟨2, 0⟩ := by
  intro grid moves
  have inside : grid.Contains ⟨2, 0⟩ := ⟨by decide, by decide⟩
  obtain ⟨column, row, _, reordered, _⟩ :=
    travel_adds_up grid (by decide) (by decide) ⟨2, 0⟩ inside moves
  have ends : grid.travel ⟨2, 0⟩ moves = ⟨2, 0⟩ := by
    rw [Position.mk.injEq]
    exact ⟨Int.ofNat_inj.mp (column.trans (by decide)), Int.ofNat_inj.mp (row.trans (by decide))⟩
  exact ⟨by decide, by decide, inside, ends,
    (reordered moves.reverse (List.reverse_perm moves).symm).trans ends⟩

end Playfield
