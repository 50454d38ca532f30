import Playfield.Machine.Stack
import Playfield.Screen.Picture
import Playfield.Text.Decimal

/-!
The stack on screen, top first. Large values are shortened to six digits with an exponent, so
that each one fits its column. A stack that does not fit ends in dots.
-/

namespace Playfield.Screen.StackPane

def threshold : Nat := 10000000000

def entryWidth : Nat := 11

/-- A value for display. Digits that are left out are cut off, not rounded. -/
def valueText (value : Int64) : String :=
  let magnitude := value.toInt.natAbs
  if magnitude < threshold then
    Decimal.ofInt value.toInt
  else
    let digits := (Nat.repr magnitude).toList
    let sign := if value.toInt < 0 then ['-'] else []
    String.ofList (sign ++ digits.take 1 ++ ['.'] ++ (digits.drop 1).take 5 ++ ['e'])
      ++ Nat.repr (digits.length - 1)

def alignRight (width : Nat) (text : List Char) : List Char :=
  List.replicate (width - text.length) ' ' ++ text

def center (width : Nat) (text : List Char) : List Char :=
  let free := width - text.length
  List.replicate (free / 2) ' ' ++ text ++ List.replicate (free - free / 2) ' '

def draw (stack : Stack) (focused : Bool) (width height : Nat) : Picture :=
  let innerWidth := width - 2
  let innerHeight := height - 2
  let inner :=
    if stack.isEmpty then
      let style := Style.ink Theme.comment
      Picture.fit innerWidth innerHeight style
        [Row.fitRight innerWidth style (Row.ofText style "(empty)")]
    else
      let visible := max innerHeight 1
      let entry := max innerWidth entryWidth
      let truncated := visible < stack.size
      let shown := if truncated then visible - 1 else stack.size
      let line (color : Color) (text : List Char) : Row :=
        Row.fit innerWidth (.ink color) (text.map fun symbol => .ofChar symbol (.ink color))
      let values := (stack.values.take shown).map fun value =>
        line Theme.number (alignRight entry (valueText value).toList)
      let dots := if truncated then [line Theme.comment (center entry "...".toList)] else []
      Picture.fit innerWidth innerHeight .plain (values ++ dots)
  bordered focused " Stack " width height inner

end Playfield.Screen.StackPane
