/-!
Characters and the integers that stand for them. A cell, a stack entry and a printed value
are 64-bit integers; only some of them are code points of a character.
-/

namespace Playfield.Scalar

def replacement : Char := '�'

def code (character : Char) : Int64 :=
  Int64.ofNat character.toNat

/-- The character with the given code point. Surrogates and values out of range have none. -/
def char? (value : Int64) : Option Char :=
  if 0 ≤ value ∧ value.toNatClampNeg.isValidChar then
    some (Char.ofNat value.toNatClampNeg)
  else
    none

def glyph (value : Int64) : Char :=
  (char? value).getD replacement

/-- The control characters: U+0000 to U+001F and U+007F to U+009F. -/
def isControl (character : Char) : Bool :=
  let point := character.toNat
  point ≤ 0x1f || (0x7f ≤ point && point ≤ 0x9f)

end Playfield.Scalar
