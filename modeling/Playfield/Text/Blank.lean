/-!
White space: the characters that trimming removes. A zero width space is not among them.
-/

namespace Playfield.Blank

def isBlank (character : Char) : Bool :=
  let point := character.toNat
  (0x9 ≤ point && point ≤ 0xd) || point == 0x20 || point == 0x85 || point == 0xa0
    || point == 0x1680 || (0x2000 ≤ point && point ≤ 0x200a) || point == 0x2028
    || point == 0x2029 || point == 0x202f || point == 0x205f || point == 0x3000

/-- The text without white space at its two ends. -/
def trim (text : List Char) : List Char :=
  ((text.dropWhile isBlank).reverse.dropWhile isBlank).reverse

end Playfield.Blank
