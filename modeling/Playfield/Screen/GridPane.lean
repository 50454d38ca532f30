import Playfield.Grid.Basic
import Playfield.Screen.Picture

/-!
The playfield on screen. A playfield that does not fit is scrolled, so that the focus (the
cursor of the editor, or the program counter) stays in view, in the middle where possible.
-/

namespace Playfield.Screen

def viewportOrigin (focus extent visible : Nat) : Nat :=
  if visible = 0 ∨ extent ≤ visible then 0 else min (focus - visible / 2) (extent - visible)

/-- The character that shows a value. Control characters would disturb the screen. -/
def displayGlyph (value : Int64) : Char :=
  let glyph := Scalar.glyph value
  if Scalar.isControl glyph then '·' else glyph

namespace GridPane

/-- How a cell is shown: breakpoints are bold, and the focus has its own background. -/
def tile (cell : Cell) (focused : Bool) (focusColor : Color) : Tile :=
  let style :=
    if cell.breakpoint then (Style.ink Theme.breakpoint).inBold else Style.ink Theme.text
  let style :=
    if focused then { style with background := some focusColor, foreground := some .black }
    else style
  .ofChar (displayGlyph cell.value) style

def visibleRange (focus extent visible : Nat) : List Nat :=
  let first := viewportOrigin focus extent visible
  List.range' first (min (first + visible) extent - first)

def window (grid : Grid) (focus : Position) (focusColor : Color) (width height : Nat) : Picture :=
  (visibleRange focus.y grid.height height).map fun y =>
    (visibleRange focus.x grid.width width).map fun x =>
      tile (grid.cell ⟨x, y⟩) (focus = ⟨x, y⟩) focusColor

def draw (grid : Grid) (focus : Position) (title : String) (focusColor : Color)
    (focused : Bool) (width height : Nat) : Picture :=
  bordered focused title width height
    (Picture.fit (width - 2) (height - 2) .plain
      (window grid focus focusColor (width - 2) (height - 2)))

end GridPane

end Playfield.Screen
