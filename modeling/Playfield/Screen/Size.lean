/-!
The size of a screen.
-/

namespace Playfield.Screen

structure Size where
  width : Nat
  height : Nat
  deriving DecidableEq

namespace Size

def capacity : Nat := 65535

/-- The size in which a screen is drawn. One with too many tiles shrinks to about the capacity
and keeps its proportions. Both sides are computed as floating point numbers and cut off, so a
side that would come out exact may be one less. -/
def shrink (size : Size) : Size :=
  if size.width * size.height ≤ capacity then size
  else
    let ratio := Float.ofNat size.width / Float.ofNat size.height
    let height := (Float.ofNat capacity / ratio).sqrt
    ⟨(height * ratio).toUInt16.toNat, height.toUInt16.toNat⟩

end Size

end Playfield.Screen
