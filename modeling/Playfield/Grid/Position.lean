/-!
Coordinates on a torus.

A playfield has no outside: a coordinate that leaves it on one side comes back on the
other. `wrap` folds a signed coordinate into a side. Sides and coordinates are 64-bit
words, and `wrap` reads the side as a signed word; below `2 ^ 63` that is the side itself.
-/

namespace Playfield

/-- A place on a playfield: `x` grows to the right and `y` downwards. -/
structure Position where
  x : Nat
  y : Nat
  deriving DecidableEq

namespace Position

def origin : Position := ⟨0, 0⟩

def text (position : Position) : String :=
  s!"({position.x}, {position.y})"

end Position

/-- The signed reading of a 64-bit word. -/
def signedWord (word : Nat) : Int :=
  if word < 0x8000000000000000 then word else word - 0x10000000000000000

/-- The remainder of `value` by the side `size`, never negative. -/
def wrap (value : Int) (size : Nat) : Nat :=
  (value % signedWord size).toNat

theorem signedWord_of_lt (word : Nat) (small : word < 0x8000000000000000) :
    signedWord word = word := by
  exact if_pos small

theorem wrap_of_lt (value : Int) (size : Nat) (small : size < 0x8000000000000000) :
    wrap value size = (value % size).toNat := by
  simp [wrap, signedWord_of_lt size small]

theorem wrap_lt (value : Int) (size : Nat) (positive : 0 < size)
    (small : size < 0x8000000000000000) : wrap value size < size := by
  rw [wrap_of_lt value size small]
  have low := Int.emod_nonneg value (Int.ofNat_ne_zero.mpr (Nat.ne_of_gt positive))
  have high := Int.emod_lt_of_pos value (Int.natCast_pos.mpr positive)
  omega

end Playfield
