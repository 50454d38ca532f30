import Playfield.Text.Decimal
import Playfield.Text.Scalar

/-!
What an input instruction asks for, and which replies it takes.
-/

namespace Playfield

inductive Request where
  | integer
  | character
  deriving DecidableEq

namespace Request

def text : Request → String
  | integer => "an integer"
  | character => "a character"

def prompt : Request → String
  | integer => "Insert a number"
  | character => "Insert a character"

/-- The value that a reply stands for. Of a longer text only the first character counts. -/
def value? : Request → String → Option Int64
  | integer, reply => Decimal.readSigned? reply
  | character, reply => reply.toList.head?.map Scalar.code

/-- Whether a usable reply has more characters than are used. -/
def hasSurplus : Request → String → Bool
  | integer, _ => false
  | character, reply => 1 < reply.toList.length

end Request

end Playfield
