/-!
Arithmetic on 64-bit integers. Sums, differences and products wrap around. A quotient is cut
off toward zero and the remainder takes the sign of the dividend; both wrap around too, which
shows only for the least integer divided by minus one.
-/

namespace Playfield

inductive Operator where
  | add
  | subtract
  | multiply
  | divide
  | remainder
  deriving DecidableEq

namespace Operator

/-- The result for operands `a` and `b`; none for a divisor of zero. -/
def apply : Operator → Int64 → Int64 → Option Int64
  | add, a, b => some (a + b)
  | subtract, a, b => some (a - b)
  | multiply, a, b => some (a * b)
  | divide, a, b => if b = 0 then none else some (a / b)
  | remainder, a, b => if b = 0 then none else some (a % b)

def name : Operator → String
  | add => "addition"
  | subtract => "subtraction"
  | multiply => "multiplication"
  | divide => "division"
  | remainder => "remainder"

end Operator

end Playfield
