import Playfield.Grid.Position
import Playfield.Language.Operator
import Playfield.Language.Request
import Playfield.Text.Quoted
import Playfield.Text.Scalar

/-!
Notices that a machine leaves for its host. Each one has a cause, the position of the program
counter and the number of steps completed by then. A journal keeps the latest notices and
counts all of them.
-/

namespace Playfield

inductive Severity where
  | info
  | warning
  | error
  deriving DecidableEq

def Severity.label : Severity → String
  | info => "info"
  | warning => "warning"
  | error => "error"

/-- A division or remainder by zero, which ends a program. -/
structure ArithmeticFault where
  operator : Operator
  position : Position
  deriving DecidableEq

def ArithmeticFault.message (fault : ArithmeticFault) : String :=
  s!"Arithmetic fault: {fault.operator.name} by zero at {fault.position.text}"

inductive Cause where
  | completed
  | unprintable (value : Int64)
  /-- A reply of which only the first character is used. -/
  | surplusCharacters (reply : String)
  | malformedReply (request : Request) (reply : String)
  | invalidInstruction (value : Int64)
  | fault (operator : Operator)
  deriving DecidableEq

namespace Cause

def severity : Cause → Severity
  | completed => .info
  | fault _ => .error
  | _ => .warning

def message (position : Position) : Cause → String
  | completed => "Execution completed"
  | unprintable value =>
      Decimal.ofInt value.toInt ++ " is not a valid character, printing U+FFFD"
  | surplusCharacters reply =>
      let first := String.ofList (reply.toList.take 1)
      "Only one character expected, got " ++ Quoted.quote reply ++ "; using '" ++ first ++ "'"
  | malformedReply request reply =>
      "Expected " ++ request.text ++ ", got " ++ Quoted.quote reply
  | invalidInstruction value =>
      "Invalid instruction '" ++ String.singleton (Scalar.glyph value) ++ "' (code point "
        ++ Decimal.ofInt value.toInt ++ ") at " ++ position.text
  | fault operator => ArithmeticFault.message ⟨operator, position⟩

end Cause

structure Notice where
  cause : Cause
  position : Position
  step : Nat
  deriving DecidableEq

namespace Notice

def severity (notice : Notice) : Severity := notice.cause.severity

def message (notice : Notice) : String := notice.cause.message notice.position

def text (notice : Notice) : String :=
  s!"[{notice.severity.label}] {notice.message} (step {notice.step}, at {notice.position.text})"

end Notice

/-- The latest notices, oldest first, and the number of all notices ever recorded. -/
structure Journal where
  recent : Array Notice
  total : Nat
  deriving DecidableEq

namespace Journal

/-- How many notices are kept; the oldest one goes first. -/
def capacity : Nat := 256

def empty : Journal := ⟨#[], 0⟩

def record (journal : Journal) (notice : Notice) : Journal :=
  let kept :=
    if journal.recent.size < capacity then journal.recent
    else journal.recent.extract 1 journal.recent.size
  ⟨kept.push notice, journal.total + 1⟩

def notices (journal : Journal) : List Notice := journal.recent.toList

def last? (journal : Journal) : Option Notice := journal.recent.back?

end Journal

end Playfield
