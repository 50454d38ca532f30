import Playfield.Editor
import Playfield.Machine.Step
import Playfield.Settings

/-!
An interactive session: an editor, and while a program runs also a runner that works on a copy
of the editor's playfield. Keys and clock ticks are events; each one turns a session into the
next. Times are milliseconds on a clock of the host.
-/

namespace Playfield

inductive KeyCode where
  | up
  | down
  | left
  | right
  | home
  | endKey
  | pageUp
  | pageDown
  | enter
  | backspace
  | escape
  | function (number : Nat)
  | char (character : Char)
  | other
  deriving DecidableEq

structure Key where
  code : KeyCode
  control : Bool
  deriving DecidableEq

structure Status where
  message : String
  isError : Bool
  deriving DecidableEq

structure Runner where
  machine : Machine
  /-- Whether ticks take steps. -/
  automatic : Bool
  lastStep : Int
  input : String
  scroll : Nat

/-- The largest scroll offset. Drawing takes it as the end of the output. -/
def Runner.scrollEnd : Nat := UInt64.size - 1

def Runner.start (machine : Machine) (now : Int) : Runner := ⟨machine, false, now, "", 0⟩

structure Session where
  editor : Editor
  runner : Option Runner
  settings : Settings
  /-- The seed of a runner when the settings name none. -/
  chance : UInt64
  disk : Disk
  status : Status
  quit : Bool

namespace Session

def start (editor : Editor) (settings : Settings) (disk : Disk) (chance : UInt64) : Session where
  editor
  runner := none
  settings
  chance
  disk
  status := ⟨"Ready!", false⟩
  quit := false

def say (session : Session) (message : String) : Session :=
  { session with status := ⟨message, false⟩ }

/-! Running. -/

def openRunner (session : Session) (now : Int) : Session :=
  let seed := session.settings.seed.getD session.chance
  let machine := Machine.start session.editor.grid session.settings.extended seed []
  { session with runner := some (.start machine now) }.say "F1 to step, F5 to run automatically"

def closeRunner (session : Session) : Session :=
  { session with runner := none }.say "Back to the editor"

/-- What the status says about a step: its fault, else the last notice that it raised, else the
state that it led to. -/
def stepStatus (before after : Machine) (automatic : Bool) : StepResult → Status
  | .error fault => ⟨fault.message, true⟩
  | .ok state =>
      let raised :=
        if before.journal.total < after.journal.total then after.journal.last? else none
      match raised, state with
      | some notice, _ => ⟨notice.message, notice.severity = .error⟩
      | none, .paused => ⟨"Breakpoint reached", false⟩
      | none, .awaiting request => ⟨"Waiting for " ++ request.text, false⟩
      | none, .halted => ⟨"Program halted", false⟩
      | none, .running => ⟨if automatic then "Playing..." else "Stepped", false⟩

/-- Takes one step, leaving a breakpoint if need be. Anything but a running machine ends
automatic stepping. -/
def stepRunner (session : Session) (runner : Runner) (now : Int) : Session :=
  let before := runner.machine.resume
  let stepped := before.step
  let automatic :=
    match stepped.1 with
    | .ok .running => runner.automatic
    | _ => false
  { session with
    runner := some { runner with
      machine := stepped.2
      automatic
      lastStep := now
      scroll := Runner.scrollEnd }
    status := stepStatus before stepped.2 automatic stepped.1 }

def tick (session : Session) (now : Int) : Session :=
  match session.runner with
  | some runner =>
      if runner.automatic ∧ session.settings.stepTime ≤ (now - runner.lastStep).toNat then
        session.stepRunner runner now
      else
        session
  | none => session

/-! Keys. -/

def save (session : Session) : Session :=
  let saved := session.editor.save session.disk
  let session := { session with editor := saved.editor, disk := saved.disk }
  match saved.result with
  | .ok (some path) => session.say ("Program saved to " ++ path)
  | .ok none => session.say "No file to save to; start with a .bf path"
  | .error error => { session with status := ⟨error.message, true⟩ }

def edit (session : Session) (change : Editor → Editor) : Session :=
  { session with editor := change session.editor }

def toggleBreakpoint (session : Session) : Session :=
  let session := session.edit Editor.toggleBreakpoint
  session.say (if session.editor.onBreakpoint then "Breakpoint set" else "Breakpoint cleared")

def pressInEditor (session : Session) (now : Int) (key : Key) : Session :=
  match key.code with
  | .up => session.edit (·.move 0 (-1))
  | .down => session.edit (·.move 0 1)
  | .left => session.edit (·.move (-1) 0)
  | .right => session.edit (·.move 1 0)
  | .home => session.edit Editor.rowStart
  | .endKey => session.edit Editor.rowEnd
  | .pageUp => session.edit Editor.columnTop
  | .pageDown => session.edit Editor.columnBottom
  | .char character => if key.control then session else session.edit (·.write character)
  | .function 1 => session.openRunner now
  | .function 8 => session.toggleBreakpoint
  | .function 12 => session.save
  | .escape => { session with quit := true }
  | _ => session

def pressInInput (session : Session) (runner : Runner) (now : Int) (key : Key) : Session :=
  match key.code with
  | .char character =>
      { session with runner := some { runner with input := runner.input.push character } }
  | .backspace =>
      let shorter := String.ofList runner.input.toList.dropLast
      { session with runner := some { runner with input := shorter } }
  | .enter =>
      let machine := runner.machine.supply runner.input
      session.stepRunner { runner with machine, input := "" } now
  | .escape => session.closeRunner
  | _ => session

/-- Switches automatic stepping. Switching it on makes the next step due at once. -/
def toggleAutomatic (session : Session) (runner : Runner) (now : Int) : Session :=
  if runner.machine.isHalted then
    session.say "Program halted"
  else if runner.automatic then
    { session with runner := some { runner with automatic := false } }.say "Stopped"
  else
    { session with
      runner := some { runner with
        automatic := true
        machine := runner.machine.resume
        lastStep := now - session.settings.stepTime } }.say "Playing..."

def pressInRunner (session : Session) (runner : Runner) (now : Int) (key : Key) : Session :=
  match key.code with
  | .function 1 => session.stepRunner { runner with automatic := false } now
  | .function 5 => session.toggleAutomatic runner now
  | .up => { session with runner := some { runner with scroll := runner.scroll - 1 } }
  | .down =>
      { session with
        runner := some { runner with scroll := min (runner.scroll + 1) Runner.scrollEnd } }
  | .escape => session.closeRunner
  | _ => session

def isQuitKey (key : Key) : Bool :=
  key.control && (key.code == .char 'q' || key.code == .char 'c')

def press (session : Session) (now : Int) (key : Key) : Session :=
  if isQuitKey key then
    { session with quit := true }
  else
    match session.runner with
    | none => session.pressInEditor now key
    | some runner =>
        match runner.machine.state with
        | .awaiting _ => session.pressInInput runner now key
        | _ => session.pressInRunner runner now key

end Session

end Playfield
