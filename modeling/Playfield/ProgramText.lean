import Playfield.Grid.Basic
import Playfield.Text.Lines

/-!
Programs as text: one line per row, all lines equally long. One line feed at the end and one
carriage return at the end of each line are forgiven on reading. Writing puts line feeds
between the rows and none at the end.
-/

namespace Playfield.ProgramText

def lines (text : List Char) : List (List Char) :=
  (Lines.split '\n' (Lines.stripFinal '\n' text)).map (Lines.stripFinal '\r')

def parse (text : String) : Except GridError Grid :=
  Grid.ofRows ((lines text.toList).map fun line => line.map Scalar.code)

/-- A value without a character is written as U+FFFD. -/
def render (grid : Grid) : String :=
  String.ofList (Lines.join '\n' (grid.rows.map fun row => row.map Cell.glyph))

end Playfield.ProgramText
