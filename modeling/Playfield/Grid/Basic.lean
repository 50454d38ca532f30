import Playfield.Grid.Position
import Playfield.Text.Scalar

/-!
The playfield: a rectangle of cells on a torus. Its sides are fixed when it is made and are
at least one; what changes later are the values of cells and their breakpoints.

Cells are stored row by row. Any position names a cell, because both coordinates are taken
modulo the sides.
-/

namespace Playfield

/-- A cell holds any 64-bit integer, not only code points. -/
structure Cell where
  value : Int64
  breakpoint : Bool
  deriving DecidableEq

namespace Cell

def blankValue : Int64 := 32

def blank : Cell := ⟨blankValue, false⟩

def ofValue (value : Int64) : Cell := ⟨value, false⟩

def glyph (cell : Cell) : Char := Scalar.glyph cell.value

end Cell

inductive GridError where
  | zeroSize (width height : Nat)
  | tooLarge (width height : Nat)
  /-- The first line whose length differs from that of line 1. -/
  | ragged (line expected found : Nat)
  deriving DecidableEq

def GridError.message : GridError → String
  | .zeroSize width height => s!"Grid must be at least 1x1, got {width}x{height}"
  | .tooLarge width height => s!"Grid of {width}x{height} cells is too large"
  | .ragged line expected found => s!"Line {line} has {found} characters, expected {expected}"

structure Grid where
  width : Nat
  height : Nat
  cells : Array Cell
  width_pos : 0 < width
  height_pos : 0 < height
  size_eq : cells.size = width * height
  deriving DecidableEq

namespace Grid

def index (grid : Grid) (position : Position) : Nat :=
  (position.y % grid.height) * grid.width + position.x % grid.width

theorem index_lt (grid : Grid) (position : Position) :
    grid.index position < grid.cells.size := by
  have row := Nat.mod_lt position.y grid.height_pos
  have column := Nat.mod_lt position.x grid.width_pos
  have rows : (position.y % grid.height + 1) * grid.width ≤ grid.height * grid.width :=
    Nat.mul_le_mul_right _ row
  rw [grid.size_eq, index, Nat.mul_comm grid.width]
  rw [Nat.add_mul] at rows
  omega

def cell (grid : Grid) (position : Position) : Cell :=
  have inside := grid.index_lt position
  grid.cells[grid.index position]

def modify (grid : Grid) (position : Position) (change : Cell → Cell) : Grid :=
  { grid with
    cells := grid.cells.set (grid.index position) (change (grid.cell position))
      (grid.index_lt position)
    size_eq := by rw [Array.size_set, grid.size_eq] }

/-- Overwrites a value and keeps the breakpoint. -/
def setValue (grid : Grid) (position : Position) (value : Int64) : Grid :=
  grid.modify position fun cell => { cell with value := value }

def toggleBreakpoint (grid : Grid) (position : Position) : Grid :=
  grid.modify position fun cell => { cell with breakpoint := !cell.breakpoint }

/-! Making a playfield. -/

/-- The cells that a process could address at all, with sixteen bytes for a cell. -/
def capacity : Nat := 0x80000000000

/-- A playfield without values. How many cells there is memory for depends on the machine. -/
def blank (width height : Nat) (memory : Nat := capacity) : Except GridError Grid :=
  if sides : 0 < width ∧ 0 < height then
    if width * height ≤ memory then
      .ok {
        width, height
        cells := Array.replicate (width * height) Cell.blank
        width_pos := sides.1
        height_pos := sides.2
        size_eq := Array.size_replicate }
    else
      .error (.tooLarge width height)
  else
    .error (.zeroSize width height)

theorem length_flatten_of_forall (rows : List (List Int64)) (width : Nat)
    (even : ∀ row ∈ rows, row.length = width) : rows.flatten.length = width * rows.length := by
  induction rows with
  | nil => rfl
  | cons row rest ih =>
      have first := even row List.mem_cons_self
      have later := ih fun other member => even other (List.mem_cons_of_mem row member)
      simp [first, later, Nat.mul_add, Nat.add_comm]

/-- A playfield from rows of values, all as long as the first one. -/
def ofRows (rows : List (List Int64)) : Except GridError Grid :=
  let width := (rows.headD []).length
  if sides : 0 < width ∧ 0 < rows.length then
    match misfit : rows.findIdx? (fun row => row.length != width) with
    | some row => .error (.ragged (row + 1) width (rows.getD row []).length)
    | none =>
        .ok {
          width
          height := rows.length
          cells := (rows.flatten.map Cell.ofValue).toArray
          width_pos := sides.1
          height_pos := sides.2
          size_eq := by
            rw [List.size_toArray, List.length_map]
            apply length_flatten_of_forall
            intro row member
            simpa using List.findIdx?_eq_none_iff.mp misfit row member }
  else
    .error (.zeroSize width rows.length)

/-! Moving. -/

/-- The position that a pair of signed coordinates names. -/
def wrapPosition (grid : Grid) (x y : Int) : Position :=
  ⟨wrap x grid.width, wrap y grid.height⟩

def offset (grid : Grid) (position : Position) (dx dy : Int) : Position :=
  grid.wrapPosition (signedWord position.x + dx) (signedWord position.y + dy)

/-! Reading a playfield row by row. -/

def row (grid : Grid) (y : Nat) : List Cell :=
  let start := (y % grid.height) * grid.width
  (grid.cells.extract start (start + grid.width)).toList

def rows (grid : Grid) : List (List Cell) :=
  (List.range grid.height).map grid.row

def breakpointCount (grid : Grid) : Nat :=
  grid.cells.countP Cell.breakpoint

def positions (grid : Grid) : List Position :=
  (List.range grid.height).flatMap fun y => (List.range grid.width).map fun x => ⟨x, y⟩

def breakpoints (grid : Grid) : List Position :=
  grid.positions.filter fun position => (grid.cell position).breakpoint

end Grid

end Playfield
