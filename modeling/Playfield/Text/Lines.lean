/-!
Sequences cut at a separator: characters into lines, fields and path pieces, bytes into lines.
`stripFinal` drops one item from the end, which is how a last line ending and the carriage
return of a line are forgiven.
-/

namespace Playfield.Lines

variable {α : Type} [DecidableEq α]

def extend (item : α) : List (List α) → List (List α)
  | [] => [[item]]
  | piece :: pieces => (item :: piece) :: pieces

/-- The pieces between separators. There is always one more piece than there are separators. -/
def split (separator : α) (items : List α) : List (List α) :=
  items.foldr
    (fun item pieces => if item = separator then [] :: pieces else extend item pieces)
    [[]]

def join (separator : α) (pieces : List (List α)) : List α :=
  List.intercalate [separator] pieces

def stripFinal (item : α) (items : List α) : List α :=
  if items.getLast? = some item then items.dropLast else items

/-- The lines that a text is made of. A line ends with a line feed, and one carriage return
before that belongs to the ending. A last line without an ending counts unless it is empty. -/
def terminated (text : List Char) : List (List Char) :=
  let pieces := split '\n' text
  let ended := pieces.dropLast.map (stripFinal '\r')
  match pieces.getLast? with
  | some (first :: rest) => ended ++ [first :: rest]
  | _ => ended

theorem split_nil (separator : α) : split separator [] = [[]] := rfl

theorem split_cons (separator item : α) (rest : List α) :
    split separator (item :: rest) =
      if item = separator then [] :: split separator rest
      else extend item (split separator rest) := rfl

theorem split_ne_nil (separator : α) (items : List α) : split separator items ≠ [] := by
  cases items with
  | nil => simp [split_nil]
  | cons item rest =>
      rw [split_cons]
      split
      · simp
      · cases split separator rest <;> simp [extend]

end Playfield.Lines
