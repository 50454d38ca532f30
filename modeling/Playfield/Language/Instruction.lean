import Playfield.Language.Heading
import Playfield.Language.Operator
import Playfield.Language.Request

/-!
The instruction set. A cell value is decoded by its character; the digits `a` to `f` count
only in extended mode.
-/

namespace Playfield

inductive Instruction where
  | literal (value : Int64)
  | arithmetic (operator : Operator)
  | isZero
  /-- 1 if the lower operand is greater than the upper one. -/
  | greater
  | go (heading : Heading)
  | goRandom
  | branchHorizontal
  | branchVertical
  | duplicate
  | discard
  | printNumber
  | printCharacter
  | read (request : Request)
  | get
  | put
  | openString
  | bridge
  | pass
  | halt
  deriving DecidableEq

namespace Instruction

def quote : Int64 := Scalar.code '"'

def ofChar? (extended : Bool) (character : Char) : Option Instruction :=
  if '0' ≤ character ∧ character ≤ '9' then
    some (.literal (Scalar.code character - Scalar.code '0'))
  else if extended ∧ 'a' ≤ character ∧ character ≤ 'f' then
    some (.literal (Scalar.code character - Scalar.code 'a' + 10))
  else
    match character with
    | '+' => some (.arithmetic .add)
    | '-' => some (.arithmetic .subtract)
    | '*' => some (.arithmetic .multiply)
    | '/' => some (.arithmetic .divide)
    | '%' => some (.arithmetic .remainder)
    | '!' => some .isZero
    | '\x60' => some .greater
    | '>' => some (.go .right)
    | '<' => some (.go .left)
    | '^' => some (.go .up)
    | 'v' => some (.go .down)
    | '?' => some .goRandom
    | '_' => some .branchHorizontal
    | '|' => some .branchVertical
    | ':' => some .duplicate
    | '$' => some .discard
    | '.' => some .printNumber
    | ',' => some .printCharacter
    | '&' => some (.read .integer)
    | '~' => some (.read .character)
    | 'g' => some .get
    | 'p' => some .put
    | '"' => some .openString
    | '#' => some .bridge
    | ' ' => some .pass
    | '@' => some .halt
    | _ => none

/-- The instruction in a cell. Values that are no character, and other characters, have none. -/
def decode (extended : Bool) (value : Int64) : Option Instruction :=
  (Scalar.char? value).bind (ofChar? extended)

end Instruction

end Playfield
