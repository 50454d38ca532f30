import Playfield.Screen.Style
import Playfield.Text.Cluster
import Playfield.Text.Columns
import Playfield.Text.Lines

/-!
Pictures made of tiles. A picture is a list of equally long rows; panes are pictures of a given
size, and a screen is put together from panes side by side and one above the other.
-/

namespace Playfield.Screen

/-- One place of the screen, with the cluster that begins there. -/
structure Tile where
  symbol : String
  style : Style
  deriving DecidableEq

abbrev Row := List Tile

abbrev Picture := List Row

namespace Tile

def ofChar (symbol : Char) (style : Style) : Tile := ⟨String.singleton symbol, style⟩

def blank (style : Style) : Tile := .ofChar ' ' style

def covered : Tile := blank .plain

def columns (tile : Tile) : Nat := Columns.count tile.symbol.toList

end Tile

namespace Row

def ofText (style : Style) (text : String) : Row :=
  text.toList.map fun symbol => .ofChar symbol style

def fit (width : Nat) (fill : Style) (row : Row) : Row :=
  row.take width ++ List.replicate (width - row.length) (.blank fill)

def fitRight (width : Nat) (fill : Style) (row : Row) : Row :=
  List.replicate (width - row.length) (.blank fill) ++ row.take width

/-- Writes clusters over a row from its front, in the styles that the row has. The first one that
does not fit ends the writing. -/
def write : List (List Char) → Row → Row
  | [], row => row
  | cluster :: rest, row =>
      match Columns.count cluster, row with
      | 0, row => write rest row
      | _ + 1, [] => []
      | further + 1, tile :: row =>
          if (row.take further).length = further then
            { tile with symbol := String.ofList cluster }
              :: (List.replicate further .covered ++ write rest (row.drop further))
          else
            tile :: row

/-- Writes texts over a row, each one as many columns after the one before as that takes. -/
def writeAll : List (List Char) → Row → Row
  | [], row => row
  | text :: rest, row =>
      let written := write (Cluster.split text) row
      let columns := Columns.count text
      written.take columns ++ writeAll rest (written.drop columns)

/-- Hides each tile after one that takes more than a column. -/
def settle (hidden : Bool) : Row → Row
  | [] => []
  | tile :: rest => (if hidden then .covered else tile) :: settle (1 < tile.columns) rest

end Row

namespace Picture

def fit (width height : Nat) (fill : Style) (picture : Picture) : Picture :=
  (picture.take height).map (Row.fit width fill)
    ++ List.replicate (height - picture.length) (List.replicate width (.blank fill))

def beside (left right : Picture) : Picture :=
  List.zipWith (· ++ ·) left right

end Picture

/-! Borders. -/

def borderStyle (focused : Bool) : Style :=
  if focused then (Style.ink Theme.focusedBorder).inBold else Style.ink Theme.normalBorder

/-- A border line of the given width between two corners, with a caption after the first one. The
caption gets as many columns as its texts take, counted in 16 bits. -/
def borderLine (style : Style) (width : Nat) (first last : Char) (caption : List (List Char)) :
    Row :=
  let line := List.replicate (width - 2) (Tile.ofChar '─' style)
  let columns := (caption.map Columns.count).foldr (· + ·) 0 % UInt16.size
  let middle := Row.settle false (Row.writeAll caption (line.take columns)) ++ line.drop columns
  ((Tile.ofChar first style :: middle) ++ [Tile.ofChar last style]).take width

/-- A bordered picture of the given size around an inner picture, which has to be two rows and
two columns smaller. The lines of the title follow one another. -/
def bordered (focused : Bool) (title : String) (width height : Nat) (inner : Picture) : Picture :=
  let style := borderStyle focused
  let top := borderLine style width '┌' '┐' (Lines.terminated title.toList)
  let bottom := borderLine style width '└' '┘' []
  let side := Tile.ofChar '│' style
  let rows := (inner.take (height - 2)).map fun row => ((side :: row) ++ [side]).take width
  ([top] ++ rows ++ [bottom]).take height

end Playfield.Screen
