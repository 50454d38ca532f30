/-!
Decimal numbers in text. Unsigned words are read with a cause for every refusal. Signed words
are read by a stricter grammar: an optional minus sign and at least one digit, nothing else.
-/

namespace Playfield.Decimal

inductive ReadError where
  | empty
  | invalidDigit
  | tooLarge
  deriving DecidableEq

def ReadError.message : ReadError → String
  | empty => "cannot parse integer from empty string"
  | invalidDigit => "invalid digit found in string"
  | tooLarge => "number too large to fit in target type"

def digit? (character : Char) : Option Nat :=
  if '0' ≤ character ∧ character ≤ '9' then some (character.toNat - '0'.toNat) else none

/-- Reads on from the number `so_far`. The first character that is no digit, or that makes the
number too large, decides the error. -/
def readDigits (so_far : Nat) : List Char → Except ReadError Nat
  | [] => .ok so_far
  | character :: rest =>
      match digit? character with
      | none => .error .invalidDigit
      | some digit =>
          let next := so_far * 10 + digit
          if next < UInt64.size then readDigits next rest else .error .tooLarge

/-- An unsigned 64-bit number. One plus sign may stand in front of its digits. -/
def readWord (text : String) : Except ReadError Nat :=
  match text.toList with
  | [] => .error .empty
  | ['+'] => .error .invalidDigit
  | '+' :: digits => readDigits 0 digits
  | digits => readDigits 0 digits

def value (digits : List Char) : Nat :=
  digits.foldl (fun so_far character => so_far * 10 + (character.toNat - '0'.toNat)) 0

def isDigits (text : List Char) : Bool :=
  !text.isEmpty && text.all fun character => (digit? character).isSome

/-- A signed 64-bit number: a minus sign or nothing, then digits. -/
def readSigned? (text : String) : Option Int64 :=
  match text.toList with
  | '-' :: digits =>
      if isDigits digits ∧ value digits ≤ 0x8000000000000000 then
        some (Int64.ofInt (-(value digits)))
      else none
  | digits =>
      if isDigits digits ∧ value digits < 0x8000000000000000 then
        some (Int64.ofInt (value digits))
      else none

def ofInt (number : Int) : String :=
  if number < 0 then "-" ++ Nat.repr number.natAbs else Nat.repr number.natAbs

end Playfield.Decimal
