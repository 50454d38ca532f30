import Playfield.CommandLine

/-!
The executable. It creates and reads the files that the options name, and hands a headless
program one line of standard input for each prompt. All decisions are made by
`Playfield.CommandLine` and `Playfield.Batch`.

It has no screen of its own: a host that has one drives `Playfield.Session` and shows its
frames.
-/

namespace Playfield.Main

open CommandLine

/-- Whether an error code has the given number. Some calls report it negated. -/
def hasNumber (code number : UInt32) : Bool := code = number || code = 0 - number

def fileError : IO.Error → FileError
  | .noFileOrDirectory .. => .notFound
  | .inappropriateType _ code details =>
      if hasNumber code 20 then .notADirectory
      else if hasNumber code 21 then .isADirectory
      else .other details
  | .invalidArgument _ code details =>
      if hasNumber code 36 then .nameTooLong else .other details
  | error => .other (toString error)

def readContent (path : String) : IO FileContent := do
  try
    return .ok (← IO.FS.readBinFile path)
  catch error =>
    return .error (fileError error)

def createFile (path : String) : IO (Except FileError Unit) := do
  try
    IO.FS.writeFile path ""
    return .ok ()
  catch error =>
    return .error (fileError error)

def findFiles (options : Options) : IO Findings := do
  let logFile ← if options.headless then pure (.ok ()) else createFile options.logFile
  let config ← readContent options.config
  let program ← options.file.mapM fun path => return (path, ← readContent path)
  return { logFile, config, program }

/-- The next line of standard input; nothing at its end or if it is no text. -/
def readReply : IO (Option String) := do
  try
    let line ← (← IO.getStdin).getLine
    return if line.isEmpty then none else some (Batch.stripEnding line)
  catch _ =>
    return none

partial def runTurns (limit : Option Nat) (machine : Machine) : IO Batch.Ending := do
  let { printed, machine, next } := Batch.turn limit machine
  unless printed.isEmpty do
    let stdout ← IO.getStdout
    stdout.putStr printed
    stdout.flush
  match next with
  | .goOn => runTurns limit machine
  | .ended ending => return ending
  | .ask request =>
      let stderr ← IO.getStderr
      stderr.putStr (Batch.promptText request)
      stderr.flush
      match ← readReply with
      | some reply => runTurns limit (machine.supply reply)
      | none => return .inputClosed request

def reportFailure (failure : Failure) : IO UInt32 := do
  (← IO.getStderr).putStr failure.report
  return 1

def randomSeed : IO UInt64 := do
  return UInt64.ofNat (← IO.rand 0 (UInt64.size - 1))

def runOptions (options : Options) : IO UInt32 := do
  match start options (← findFiles options) with
  | .error failure => reportFailure failure
  | .ok (.interactive ..) =>
      IO.eprintln "Error: there is no screen for the editor, use --headless"
      return 1
  | .ok (.headless grid settings) =>
      let machine := headlessMachine grid settings (← randomSeed)
      match endingFailure? (← runTurns options.maxSteps machine) with
      | none => return 0
      | some failure => reportFailure failure

end Playfield.Main

def main (arguments : List String) : IO UInt32 := do
  match Playfield.CommandLine.Options.parse arguments with
  | .ok options => Playfield.Main.runOptions options
  | .error error =>
      (← IO.getStderr).putStr (Playfield.CommandLine.Outcome.ofUsage error).errors
      return 2
