import Playfield.Text.Ranges

/-!
How many columns a text takes. Every character counts for one, but for line breaks, which take
none, and for two letters that are written as one. A letter is written as one with the last letters
of a text first, so that none belongs to two pairs. Characters that are narrower or wider by
themselves are not provided for.
-/

namespace Playfield.Columns

def lam : Ranges :=
  [(0x644, 0x644), (0x6b5, 0x6b8), (0x76a, 0x76a), (0x8a6, 0x8a6), (0x8c7, 0x8c7)]

def alef : Ranges :=
  [(0x622, 0x623), (0x625, 0x625), (0x627, 0x627), (0x671, 0x673), (0x675, 0x675),
   (0x773, 0x774), (0x870, 0x882)]

/-- The first and the second letter of a tone in the Lisu script. -/
def toneStart : Ranges := [(0xa4f8, 0xa4fb)]

def toneEnd : Ranges := [(0xa4fc, 0xa4fd)]

/-- The letters of the Tifinagh script that are written as one with a joiner between them. -/
def joinable : Ranges := [(0x2d31, 0x2d65), (0x2d6f, 0x2d6f)]

def joiner : Nat := 0x2d7f

/-- What a character would have to be to share a column with those after it. -/
inductive Partner where
  | nothing
  | carriageReturn
  | lam
  | toneStart
  | joiner
  | joinable

structure Tally where
  columns : Nat
  partner : Partner

def Tally.place (tally : Tally) (character : Char) : Tally :=
  let point := character.toNat
  if character = '\n' then ⟨tally.columns, .carriageReturn⟩
  else if alef.contains point then ⟨tally.columns + 1, .lam⟩
  else if toneEnd.contains point then ⟨tally.columns + 1, .toneStart⟩
  else if joinable.contains point then ⟨tally.columns + 1, .joiner⟩
  else ⟨tally.columns + 1, .nothing⟩

/-- Counts the character before those counted. A joiner has a column of its own until a letter
before it makes all three share one. -/
def Tally.add (character : Char) (tally : Tally) : Tally :=
  let point := character.toNat
  match tally.partner with
  | .nothing => tally.place character
  | .carriageReturn =>
      if character = '\r' then ⟨tally.columns, .nothing⟩ else tally.place character
  | .lam => if lam.contains point then ⟨tally.columns, .nothing⟩ else tally.place character
  | .toneStart =>
      if toneStart.contains point then ⟨tally.columns, .nothing⟩ else tally.place character
  | .joiner =>
      if point = joiner then ⟨tally.columns + 1, .joinable⟩ else tally.place character
  | .joinable =>
      if joinable.contains point then ⟨tally.columns - 1, .nothing⟩ else tally.place character

def count (text : List Char) : Nat :=
  (text.foldr Tally.add ⟨0, .nothing⟩).columns

end Playfield.Columns
