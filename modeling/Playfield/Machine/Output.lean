import Playfield.Text.Decimal
import Playfield.Text.Lines

/-!
What a program has printed. The whole text is kept; `flushed` is the number of its bytes that
have been handed out, so that a host can pass on each piece once.
-/

namespace Playfield

structure Output where
  text : String
  flushed : Nat
  deriving DecidableEq

namespace Output

def empty : Output := ⟨"", 0⟩

def append (output : Output) (piece : String) : Output :=
  { output with text := output.text ++ piece }

def printNumber (output : Output) (value : Int64) : Output :=
  output.append (Decimal.ofInt value.toInt)

def printChar (output : Output) (character : Char) : Output :=
  { output with text := output.text.push character }

def isEmpty (output : Output) : Bool := output.text.isEmpty

/-- The text that has not been handed out yet. -/
def fresh (output : Output) : String :=
  String.Pos.Raw.extract output.text ⟨output.flushed⟩ output.text.rawEndPos

/-- Marks the whole text as handed out. -/
def flush (output : Output) : Output :=
  { output with flushed := output.text.utf8ByteSize }

/-- The text as lines for display. A line feed at the very end opens no further line. -/
def lines (output : Output) : List String :=
  if output.isEmpty then []
  else
    let pieces := Lines.split '\n' output.text.toList
    let shown := if pieces.getLast? = some [] then pieces.dropLast else pieces
    shown.map String.ofList

end Output

end Playfield
