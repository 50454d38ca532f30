import Playfield.Machine.Output
import Playfield.Screen.Picture

/-!
The output of a program on screen. The pane shows as many lines as fit, from a scroll offset
that drawing clamps, so an offset beyond the end shows the last lines.
-/

namespace Playfield.Screen.OutputPane

def clampScroll (total visible scroll : Nat) : Nat :=
  if visible < total then min scroll (total - visible) else 0

/-- The picture, and the scroll offset after drawing. Without output the offset stays. -/
def draw (output : Output) (focused : Bool) (scroll width height : Nat) : Picture × Nat :=
  let innerWidth := width - 2
  let innerHeight := height - 2
  let lines := output.lines
  if lines.isEmpty then
    let style := Style.ink Theme.comment
    let inner := Picture.fit innerWidth innerHeight style [Row.ofText style "(no output)"]
    (bordered focused " Output " width height inner, scroll)
  else
    let visible := max innerHeight 1
    let scroll := clampScroll lines.length visible scroll
    let style := Style.ink Theme.text
    -- One column on the left stays free.
    let rows := ((lines.drop scroll).take visible).map fun line =>
      Tile.blank .plain
        :: Row.write (Cluster.split line.toList) (List.replicate (innerWidth - 1) (.blank style))
    let inner := Picture.fit innerWidth innerHeight .plain rows
    (bordered focused " Output " width height inner, scroll)

end Playfield.Screen.OutputPane
