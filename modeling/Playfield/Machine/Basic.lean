import Playfield.Grid.Basic
import Playfield.Language.Generator
import Playfield.Language.Instruction
import Playfield.Machine.Journal
import Playfield.Machine.Output
import Playfield.Machine.Replies
import Playfield.Machine.Stack

/-!
The state of a running program: its own copy of the playfield, a stack, a program counter,
the replies and the output, and the journal. Everything that a step reads or changes is here,
so a step is a function.
-/

namespace Playfield

structure Counter where
  position : Position
  heading : Heading
  /-- Between two quotes: values are pushed and not executed. -/
  stringMode : Bool
  /-- After a bridge: the next cell is passed over. -/
  skipNext : Bool
  halted : Bool
  deriving DecidableEq

def Counter.start : Counter := ⟨.origin, .right, false, false, false⟩

/-- What a host may do next with a machine. -/
inductive RunState where
  | running
  | paused
  | awaiting (request : Request)
  | halted
  deriving DecidableEq

def RunState.text : RunState → String
  | running => "running"
  | paused => "paused"
  | awaiting request => "awaiting " ++ request.text
  | halted => "halted"

structure Machine where
  grid : Grid
  stack : Stack
  counter : Counter
  state : RunState
  extended : Bool
  generator : Generator
  replies : Replies
  output : Output
  journal : Journal
  steps : Nat
  deriving DecidableEq

namespace Machine

def start (grid : Grid) (extended : Bool) (seed : UInt64) (script : List String) : Machine where
  grid
  stack := .empty
  counter := .start
  state := .running
  extended
  generator := .ofSeed seed
  replies := .ofScript script
  output := .empty
  journal := .empty
  steps := 0

def position (machine : Machine) : Position := machine.counter.position

def isHalted (machine : Machine) : Bool := machine.state == .halted

def current (machine : Machine) : Cell := machine.grid.cell machine.position

def push (machine : Machine) (value : Int64) : Machine :=
  { machine with stack := machine.stack.push value }

def pop (machine : Machine) : Machine :=
  { machine with stack := machine.stack.rest }

def turn (machine : Machine) (heading : Heading) : Machine :=
  { machine with counter.heading := heading }

/-- Records a notice stamped with the counter's position and the steps completed so far. -/
def note (machine : Machine) (cause : Cause) : Machine :=
  { machine with
    journal := machine.journal.record ⟨cause, machine.position, machine.steps⟩ }

def advance (machine : Machine) : Machine :=
  let delta := machine.counter.heading.delta
  { machine with counter.position := machine.grid.offset machine.position delta.1 delta.2 }

def takeOutput (machine : Machine) : String × Machine :=
  (machine.output.fresh, { machine with output := machine.output.flush })

end Machine

end Playfield
