import Playfield.Text.Lines

/-!
Paths are texts with slashes. They are shown exactly as they were given; only their parts are
read here.
-/

namespace Playfield.Path

def pieces (path : String) : List (List Char) :=
  Lines.split '/' path.toList

/-- The last piece that names something. Empty pieces and single dots do not. -/
def fileName? (path : String) : Option (List Char) :=
  match ((pieces path).filter fun piece => piece ≠ [] ∧ piece ≠ ['.']).getLast? with
  | some ['.', '.'] => none
  | name => name

/-- The text after the last dot of the file name. A dot at its very front does not count. -/
def extension? (path : String) : Option (List Char) :=
  match fileName? path with
  | none => none
  | some name =>
      let backward := name.reverse
      match backward.dropWhile (· ≠ '.') with
      | _ :: _ :: _ => some (backward.takeWhile (· ≠ '.')).reverse
      | _ => none

def endsInSlash (path : String) : Bool :=
  path.toList.getLast? = some '/'

def isAbsolute (path : String) : Bool :=
  path.toList.head? = some '/'

/-- The pieces before the last name. An empty piece at the end makes them name a folder. -/
def folders (path : String) : List (List Char) :=
  ((pieces path).reverse.dropWhile (· = [])).tail.reverse ++ [[]]

/-! Limits, in bytes. -/

def byteLength (text : List Char) : Nat :=
  (text.map Char.utf8Size).foldr (· + ·) 0

def nameLimit : Nat := 255

def pathLimit : Nat := 4095

end Playfield.Path
