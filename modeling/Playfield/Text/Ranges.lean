/-!
Sets of characters as ranges of code points, both ends included.
-/

namespace Playfield

abbrev Ranges := List (Nat × Nat)

def Ranges.contains (ranges : Ranges) (point : Nat) : Bool :=
  ranges.any fun range => range.1 ≤ point && point ≤ range.2

end Playfield
