import Playfield.Storage.Disk
import Playfield.Text.Blank
import Playfield.Text.Decimal
import Playfield.Text.Quoted

/-!
Settings come from a text with one `KEY, VALUE` entry a line. Lines that start with `#` and
blank lines are skipped, and so is everything after a second comma. Unknown keys have no
effect. Of several entries with one key the last one counts.

A line that is no entry is reported before any value is looked at; values are then checked in
the order of `Settings.Key`.
-/

namespace Playfield

structure Settings where
  width : Nat
  height : Nat
  extended : Bool
  /-- Milliseconds between automatic steps. -/
  stepTime : Nat
  /-- Without a seed, chance decides. -/
  seed : Option UInt64
  deriving DecidableEq

namespace Settings

def standard : Settings := ⟨80, 25, false, 100, none⟩

def standardPath : String := "config/config.csv"

inductive Key where
  | width
  | height
  | extendedMode
  | stepTime
  | seed
  deriving DecidableEq

def Key.name : Key → String
  | width => "WIDTH"
  | height => "HEIGHT"
  | extendedMode => "EXTENDED_MODE"
  | stepTime => "STEP_TIME"
  | seed => "SEED"

inductive Reason where
  | zero
  | notBoolean
  | notNumber (error : Decimal.ReadError)
  deriving DecidableEq

def Reason.message : Reason → String
  | zero => "must be at least 1"
  | notBoolean => "expected true or false"
  | notNumber error => error.message

inductive Failure where
  | unreadable (path : String) (cause : FileError)
  | malformedLine (number : Nat) (line : String)
  | invalidValue (key : Key) (value : String) (reason : Reason)
  deriving DecidableEq

namespace Failure

def message : Failure → String
  | unreadable path cause => "Cannot read configuration file " ++ path ++ ": " ++ cause.message
  | malformedLine number line =>
      "Configuration file incorrectly formatted at line " ++ Nat.repr number ++ ": "
        ++ Quoted.quote line
  | invalidValue key value reason =>
      "Invalid value " ++ Quoted.quote value ++ " for " ++ key.name ++ ": " ++ reason.message

def source? : Failure → Option String
  | unreadable _ cause => some cause.message
  | _ => none

end Failure

/-! Entries. -/

inductive Line where
  | skipped
  | entry (key value : String)
  | malformed
  deriving DecidableEq

def Line.ofChars (line : List Char) : Line :=
  if line.head? = some '#' ∨ Blank.trim line = [] then .skipped
  else
    match Lines.split ',' line with
    | key :: value :: _ =>
        if Blank.trim key = [] then .malformed
        else .entry (String.ofList (Blank.trim key)) (String.ofList (Blank.trim value))
    | _ => .malformed

/-- The entries of the given lines, the first of which has the given number. -/
def entries (number : Nat) : List (List Char) → Except Failure (List (String × String))
  | [] => .ok []
  | line :: rest =>
      match Line.ofChars line with
      | .skipped => entries (number + 1) rest
      | .malformed => .error (.malformedLine number (String.ofList line))
      | .entry key value => (entries (number + 1) rest).map ((key, value) :: ·)

def lastValue? (entries : List (String × String)) (key : Key) : Option String :=
  entries.reverse.lookup key.name

/-! Values. -/

def readWord (key : Key) (value : String) : Except Failure Nat :=
  (Decimal.readWord value).mapError fun error => .invalidValue key value (.notNumber error)

def readSide (key : Key) (value : String) : Except Failure Nat :=
  match readWord key value with
  | .ok 0 => .error (.invalidValue key value .zero)
  | side => side

def readFlag (key : Key) (value : String) : Except Failure Bool :=
  if value = "true" then .ok true
  else if value = "false" then .ok false
  else .error (.invalidValue key value .notBoolean)

/-- The value of the last entry with this key as `read` understands it, or the standard one. -/
def valueOr {α : Type} (entries : List (String × String)) (key : Key) (standard : α)
    (read : Key → String → Except Failure α) : Except Failure α :=
  match lastValue? entries key with
  | some value => read key value
  | none => .ok standard

def ofEntries (found : List (String × String)) : Except Failure Settings := do
  let width ← valueOr found .width standard.width readSide
  let height ← valueOr found .height standard.height readSide
  let extended ← valueOr found .extendedMode standard.extended readFlag
  let stepTime ← valueOr found .stepTime standard.stepTime readWord
  let seed ← valueOr found .seed standard.seed fun key value =>
    (readWord key value).map fun seed => some (UInt64.ofNat seed)
  return { width, height, extended, stepTime, seed }

def parse (text : String) : Except Failure Settings :=
  (entries 1 (Lines.terminated text.toList)).bind ofEntries

/-! Files. -/

def ofContent (path : String) (content : FileContent) : Except Failure Settings := do
  let text ← (content.bind decodeText).mapError (.unreadable path)
  parse text

/-- A file that does not exist gives the standard settings. -/
def ofContentOrStandard (path : String) (content : FileContent) : Except Failure Settings :=
  match content with
  | .error .notFound => .ok standard
  | content => ofContent path content

end Settings

end Playfield
