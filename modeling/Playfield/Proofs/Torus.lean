import Mathlib.Algebra.Group.Nat.Defs
import Mathlib.Data.Int.ModEq
import Playfield.Proofs.Execution

/-!
Putting and getting on the torus. The operands are signed and may lie anywhere; each of them is
folded into its side before the cell is looked up, and looking up takes the remainder once more.
Two pairs of operands name one cell exactly if they are congruent modulo the sides, so what is put
is what every congruent pair gets, and no other pair notices.
-/

namespace Playfield

theorem wrap_eq_iff {size : Nat} (positive : 0 < size) (small : size < 2 ^ 63) (a b : Int) :
    wrap a size = wrap b size ↔ a ≡ b [ZMOD size] := by
  have nonzero : (size : Int) ≠ 0 := by omega
  have first := Int.emod_nonneg a nonzero
  have second := Int.emod_nonneg b nonzero
  rw [wrap_of_lt a size small, wrap_of_lt b size small, Int.ModEq]
  omega

theorem wrap_natCast {size : Nat} (small : size < 2 ^ 63) (value : Nat) :
    wrap value size = value % size := by
  rw [wrap_of_lt _ size small]
  exact Int.toNat_natCast (value % size)

namespace Grid

theorem index_eq_iff (grid : Grid) (first second : Position) :
    grid.index first = grid.index second ↔
      first.x % grid.width = second.x % grid.width ∧
        first.y % grid.height = second.y % grid.height := by
  constructor
  · intro same
    have column := congrArg (· % grid.width) same
    have row := congrArg (· / grid.width) same
    have left := Nat.mod_lt first.x grid.width_pos
    have right := Nat.mod_lt second.x grid.width_pos
    simp only [index, Nat.mul_comm _ grid.width, Nat.mul_add_mod, Nat.mod_mod,
      Nat.mul_add_div grid.width_pos, Nat.div_eq_of_lt left, Nat.div_eq_of_lt right] at column row
    exact ⟨column, row⟩
  · rintro ⟨column, row⟩
    rw [index, index, column, row]

variable {grid : Grid} (width : grid.width < 2 ^ 63) (height : grid.height < 2 ^ 63)
include width height

theorem index_wrapPosition_eq_iff (x y x' y' : Int) :
    grid.index (grid.wrapPosition x y) = grid.index (grid.wrapPosition x' y') ↔
      x ≡ x' [ZMOD grid.width] ∧ y ≡ y' [ZMOD grid.height] := by
  have column : ∀ x, wrap x grid.width % grid.width = wrap x grid.width :=
    fun x => Nat.mod_eq_of_lt (wrap_lt x grid.width grid.width_pos width)
  have row : ∀ y, wrap y grid.height % grid.height = wrap y grid.height :=
    fun y => Nat.mod_eq_of_lt (wrap_lt y grid.height grid.height_pos height)
  simp only [index_eq_iff, wrapPosition, column, row, wrap_eq_iff grid.width_pos width,
    wrap_eq_iff grid.height_pos height]

theorem value_setValue_wrapPosition (value : Int64) (x y x' y' : Int) :
    ((grid.setValue (grid.wrapPosition x y) value).cell (grid.wrapPosition x' y')).value =
      if x ≡ x' [ZMOD grid.width] ∧ y ≡ y' [ZMOD grid.height] then value
      else (grid.cell (grid.wrapPosition x' y')).value := by
  have congruent := index_wrapPosition_eq_iff width height x y x' y'
  rw [setValue, cell_modify]
  by_cases same : x ≡ x' [ZMOD grid.width] ∧ y ≡ y' [ZMOD grid.height]
  · rw [if_pos (congruent.mpr same), if_pos same]
  · rw [if_neg (mt congruent.mp same), if_neg same]

theorem cell_wrapPosition_natCast (x y : Nat) :
    grid.cell (grid.wrapPosition x y) = grid.cell ⟨x, y⟩ := by
  apply cell_of_index
  rw [index_eq_iff, wrapPosition, wrap_natCast width, wrap_natCast height]
  exact ⟨Nat.mod_mod _ _, Nat.mod_mod _ _⟩

end Grid

namespace Machine

open Scalar (code)

section Access
variable (machine : Machine) (unquoted : machine.counter.stringMode = false)
  (unskipped : machine.counter.skipNext = false)
include unquoted unskipped

theorem execute_put (stack : Stack) (value x y : Int64) :
    { machine with stack := ((stack.push value).push x).push y }.execute (code 'p') =
      (.ok .done, { machine with
        stack
        grid := machine.grid.setValue (machine.grid.wrapPosition x.toInt y.toInt) value }) := by
  have decoded : ∀ extended, Instruction.decode extended (code 'p') = some .put := by decide
  have dispatched : { machine with stack := ((stack.push value).push x).push y }.Dispatches
      (code 'p') .put := ⟨unquoted, unskipped, decoded machine.extended⟩
  exact execute_of_dispatches dispatched

theorem execute_get (stack : Stack) (x y : Int64) :
    { machine with stack := (stack.push x).push y }.execute (code 'g') =
      (.ok .done, { machine with
        stack := stack.push
          (machine.grid.cell (machine.grid.wrapPosition x.toInt y.toInt)).value }) := by
  have decoded : ∀ extended, Instruction.decode extended (code 'g') = some .get := by decide
  have dispatched : { machine with stack := (stack.push x).push y }.Dispatches
      (code 'g') .get := ⟨unquoted, unskipped, decoded machine.extended⟩
  exact execute_of_dispatches dispatched

/-- What is put at `x`, `y` is got at `x'`, `y'` if the two are congruent modulo the sides, and
otherwise what would have been got there before the put. For operands that are not negative it is
the value of the cell at that position. -/
theorem put_then_get (width : machine.grid.width < 2 ^ 63) (height : machine.grid.height < 2 ^ 63)
    (value x y x' y' : Int64) (stack under : Stack) :
    ∃ after before now,
      { machine with stack := ((stack.push value).push x).push y }.execute (code 'p') =
        (.ok .done, after) ∧ after.stack = stack ∧
      { machine with stack := (under.push x').push y' }.execute (code 'g') =
        (.ok .done, { machine with stack := under.push before }) ∧
      { after with stack := (under.push x').push y' }.execute (code 'g') =
        (.ok .done, { after with stack := under.push now }) ∧
      now = (if x.toInt ≡ x'.toInt [ZMOD machine.grid.width] ∧
        y.toInt ≡ y'.toInt [ZMOD machine.grid.height] then value else before) ∧
      ∀ column row : Nat, x'.toInt = column → y'.toInt = row →
        now = (after.grid.cell ⟨column, row⟩).value := by
  obtain ⟨after, put⟩ : ∃ after, after = { machine with
      stack
      grid := machine.grid.setValue (machine.grid.wrapPosition x.toInt y.toInt) value } := ⟨_, rfl⟩
  have gets := after.execute_get (by rw [put]; exact unquoted) (by rw [put]; exact unskipped)
    under x' y'
  refine ⟨after, _, _, ?_, congrArg Machine.stack put,
    machine.execute_get unquoted unskipped under x' y', gets, ?_, ?_⟩
  · rw [put]
    exact machine.execute_put unquoted unskipped stack value x y
  · -- The put leaves the sides alone, so the operands of the get are folded as before.
    rw [put]
    exact Grid.value_setValue_wrapPosition width height value x.toInt y.toInt x'.toInt y'.toInt
  · intro column row left right
    rw [left, right, Grid.cell_wrapPosition_natCast]
    · rw [put]
      exact width
    · rw [put]
      exact height

end Access

/-- In a row of two cells the operands -1 and 3 name the second cell, as 1 and 0 do. -/
theorem put_then_get_folded :
    let machine := start (Grid.ofRow 38 [64]) false 0 []
    ∃ after, { machine with stack := ((Stack.empty.push 7).push (-1)).push 3 }.execute (code 'p') =
        (.ok .done, after) ∧
      { after with stack := (Stack.empty.push 1).push 0 }.execute (code 'g') =
        (.ok .done, { after with stack := Stack.empty.push 7 }) ∧
      (after.grid.cell ⟨1, 0⟩).value = 7 := by
  obtain ⟨after, _, now, put, _, _, got, stored, read⟩ :=
    put_then_get (start (Grid.ofRow 38 [64]) false 0 []) rfl rfl (by decide) (by decide)
      7 (-1) 3 1 0 .empty .empty
  have seven : now = 7 := stored.trans (if_pos (by decide))
  rw [seven] at got read
  exact ⟨after, put, got, (read 1 0 rfl rfl).symm⟩

end Machine

end Playfield
