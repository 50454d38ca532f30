/-!
The value stack. Taking from an empty stack gives zero and leaves it empty, so a program may
count on zeros beneath everything that it pushed.
-/

namespace Playfield

/-- Values with the top one first. -/
structure Stack where
  values : List Int64
  deriving DecidableEq

namespace Stack

def empty : Stack := ⟨[]⟩

def push (stack : Stack) (value : Int64) : Stack := ⟨value :: stack.values⟩

def top (stack : Stack) : Int64 := stack.values.headD 0

def rest (stack : Stack) : Stack := ⟨stack.values.tail⟩

def size (stack : Stack) : Nat := stack.values.length

def isEmpty (stack : Stack) : Bool := stack.values.isEmpty

end Stack

end Playfield
