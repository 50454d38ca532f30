import Playfield.Machine.Step

/-!
Running a program without a screen. Output goes out as it is printed, breakpoints are passed,
and every reply is a line that the program is prompted for. The run ends when the program
does, when it has completed enough instructions, or when it waits for a line and there is none.
-/

namespace Playfield.Batch

inductive Ending where
  /-- The program halted or reached the limit of instructions. -/
  | finished
  | inputClosed (request : Request)
  | faulted (fault : ArithmeticFault)
  deriving DecidableEq

inductive Next where
  | goOn
  | ask (request : Request)
  | ended (ending : Ending)
  deriving DecidableEq

structure Turn where
  printed : String
  machine : Machine
  next : Next

def turn (limit : Option Nat) (machine : Machine) : Turn :=
  if limit.any (· ≤ machine.steps) then
    ⟨"", machine, .ended .finished⟩
  else
    let stepped := machine.step
    let taken := stepped.2.takeOutput
    match stepped.1 with
    | .ok .running => ⟨taken.1, taken.2, .goOn⟩
    | .ok .paused => ⟨taken.1, taken.2.resume, .goOn⟩
    | .ok (.awaiting request) => ⟨taken.1, taken.2, .ask request⟩
    | .ok .halted => ⟨taken.1, taken.2, .ended .finished⟩
    | .error fault => ⟨taken.1, taken.2, .ended (.faulted fault)⟩

def promptText (request : Request) : String := request.prompt ++ ": "

structure Transcript where
  output : String
  prompts : String
  deriving DecidableEq

def Transcript.empty : Transcript := ⟨"", ""⟩

def Transcript.print (transcript : Transcript) (text : String) : Transcript :=
  { transcript with output := transcript.output ++ text }

def Transcript.prompt (transcript : Transcript) (request : Request) : Transcript :=
  { transcript with prompts := transcript.prompts ++ promptText request }

/-- A run on the given lines of input; nothing if it takes more than `fuel` turns. -/
def run (limit : Option Nat) : Nat → List String → Machine → Transcript →
    Option (Transcript × Ending)
  | 0, _, _, _ => none
  | fuel + 1, lines, machine, transcript =>
      let taken := turn limit machine
      let transcript := transcript.print taken.printed
      match taken.next, lines with
      | .goOn, lines => run limit fuel lines taken.machine transcript
      | .ended ending, _ => some (transcript, ending)
      | .ask request, [] => some (transcript.prompt request, .inputClosed request)
      | .ask request, line :: rest =>
          run limit fuel rest (taken.machine.supply line) (transcript.prompt request)

/-! Lines of input. -/

def stripEnding (line : String) : String :=
  String.ofList (line.toList.reverse.dropWhile fun character =>
    character = '\n' ∨ character = '\r').reverse

/-- The lines up to the first one that is no text, which closes the input. -/
def textLines : List (List UInt8) → List String
  | [] => []
  | line :: rest =>
      match String.fromUTF8? ⟨line.toArray⟩ with
      | some text => stripEnding text :: textLines rest
      | none => []

/-- The lines of an input. Bytes after the last line feed are a line if there are any. -/
def inputLines (input : ByteArray) : List String :=
  let pieces := Lines.split (10 : UInt8) input.toList
  textLines (if pieces.getLast? = some [] then pieces.dropLast else pieces)

end Playfield.Batch
