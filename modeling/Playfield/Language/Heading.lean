/-!
The four directions in which a program counter can travel.
-/

namespace Playfield

inductive Heading where
  | up
  | down
  | left
  | right
  deriving DecidableEq

namespace Heading

/-- One step in this direction as `(dx, dy)`; `y` grows downwards. -/
def delta : Heading → Int × Int
  | up => (0, -1)
  | down => (0, 1)
  | left => (-1, 0)
  | right => (1, 0)

def arrow : Heading → Char
  | up => '↑'
  | down => '↓'
  | left => '←'
  | right => '→'

end Heading

end Playfield
