import Playfield.Batch
import Playfield.Editor
import Playfield.Settings

/-!
The command line: reading the arguments, starting up, and the report of a failure.
-/

namespace Playfield.CommandLine

/-! Arguments. -/

inductive Flag where
  | config
  | width
  | height
  | extended
  | stepTime
  | seed
  | headless
  | maxSteps
  | logFile
  deriving DecidableEq

namespace Flag

def all : List Flag :=
  [config, width, height, extended, stepTime, seed, headless, maxSteps, logFile]

def name : Flag → String
  | config => "--config"
  | width => "--width"
  | height => "--height"
  | extended => "--extended"
  | stepTime => "--step-time"
  | seed => "--seed"
  | headless => "--headless"
  | maxSteps => "--max-steps"
  | logFile => "--log-file"

def ofName? (text : String) : Option Flag := all.find? fun flag => flag.name = text

/-- Switches take no value. -/
def isSwitch : Flag → Bool
  | extended | headless => true
  | _ => false

end Flag

inductive UsageError where
  | unknownOption (argument : String)
  | missingValue (flag : Flag)
  | unexpectedValue (flag : Flag)
  | repeated (flag : Flag)
  | invalidNumber (flag : Flag) (error : Decimal.ReadError)
  | emptyPath
  | severalFiles
  deriving DecidableEq

def UsageError.message : UsageError → String
  | unknownOption argument => "unexpected argument " ++ argument
  | missingValue flag => flag.name ++ " needs a value"
  | unexpectedValue flag => flag.name ++ " takes no value"
  | repeated flag => flag.name ++ " is given more than once"
  | invalidNumber flag error => "invalid value for " ++ flag.name ++ ": " ++ error.message
  | emptyPath => "a path is empty"
  | severalFiles => "more than one program file"

/-- Flags with their values, and the arguments that are no flags, all in order. -/
structure Arguments where
  flags : List (Flag × String)
  files : List String

/-- Whether an argument looks like an option. A single dash does not. -/
def looksLikeOption (argument : String) : Bool :=
  match argument.toList with
  | '-' :: _ :: _ => true
  | _ => false

def splitOption (argument : String) : String × Option String :=
  let characters := argument.toList
  let name := String.ofList (characters.takeWhile (· ≠ '='))
  match characters.dropWhile (· ≠ '=') with
  | _ :: value => (name, some (String.ofList value))
  | [] => (name, none)

def Arguments.scan : List String → Except UsageError Arguments
  | [] => .ok ⟨[], []⟩
  | argument :: rest =>
      if argument = "--" then
        .ok ⟨[], rest⟩
      else if looksLikeOption argument then
        let (name, value) := splitOption argument
        match Flag.ofName? name, value with
        | none, _ => .error (.unknownOption argument)
        | some flag, some value =>
            if flag.isSwitch then .error (.unexpectedValue flag)
            else (scan rest).map fun later => { later with flags := (flag, value) :: later.flags }
        | some flag, none =>
            if flag.isSwitch then
              (scan rest).map fun later => { later with flags := (flag, "") :: later.flags }
            else
              match rest with
              | [] => .error (.missingValue flag)
              | value :: rest =>
                  if looksLikeOption value then .error (.missingValue flag)
                  else
                    (scan rest).map fun later => { later with flags := (flag, value) :: later.flags }
      else
        (scan rest).map fun later => { later with files := argument :: later.files }

structure Options where
  file : Option String
  config : String
  width : Option Nat
  height : Option Nat
  extended : Bool
  stepTime : Option Nat
  seed : Option Nat
  headless : Bool
  maxSteps : Option Nat
  logFile : String
  deriving DecidableEq

namespace Arguments

/-- The value of a flag, which may be given once. -/
def value? (arguments : Arguments) (flag : Flag) : Except UsageError (Option String) :=
  match arguments.flags.filter fun given => given.1 = flag with
  | [] => .ok none
  | [given] => .ok (some given.2)
  | _ => .error (.repeated flag)

def number? (arguments : Arguments) (flag : Flag) : Except UsageError (Option Nat) := do
  match ← arguments.value? flag with
  | none => return none
  | some value =>
      match Decimal.readWord value with
      | .ok number => return some number
      | .error error => throw (.invalidNumber flag error)

def path (arguments : Arguments) (flag : Flag) (standard : String) : Except UsageError String := do
  match ← arguments.value? flag with
  | none => return standard
  | some path => if path.isEmpty then throw .emptyPath else return path

def file? (arguments : Arguments) : Except UsageError (Option String) :=
  match arguments.files with
  | [] => .ok none
  | [path] => if path.isEmpty then .error .emptyPath else .ok (some path)
  | _ => .error .severalFiles

end Arguments

def standardLogFile : String := "fungetty.log"

def Options.parse (arguments : List String) : Except UsageError Options := do
  let given ← Arguments.scan arguments
  return {
    file := ← given.file?
    config := ← given.path .config Settings.standardPath
    width := ← given.number? .width
    height := ← given.number? .height
    extended := (← given.value? .extended).isSome
    stepTime := ← given.number? .stepTime
    seed := ← given.number? .seed
    headless := (← given.value? .headless).isSome
    maxSteps := ← given.number? .maxSteps
    logFile := ← given.path .logFile standardLogFile }

/-! Failures. -/

inductive Failure where
  | logFile (path : String) (cause : FileError)
  | settings (path : String) (cause : Settings.Failure)
  | blankGrid (cause : GridError)
  | program (cause : ProgramFileError)
  | programNotFound (path : String)
  | programMissing
  | inputClosed (request : Request)
  | faulted (fault : ArithmeticFault)
  deriving DecidableEq

namespace Failure

def message : Failure → String
  | logFile path _ => "cannot create log file " ++ path
  | settings path _ => "loading " ++ path
  | blankGrid _ => "cannot create a blank grid"
  | program cause => cause.message
  | programNotFound path => "program file " ++ path ++ " not found"
  | programMissing => "--headless needs a program file"
  | inputClosed request => "input closed while waiting for " ++ request.text
  | faulted _ => "program stopped"

def causes : Failure → List String
  | logFile _ cause => [cause.message]
  | settings _ cause => cause.message :: cause.source?.toList
  | blankGrid cause => [cause.message]
  | program cause => cause.source?.toList
  | faulted fault => [fault.message]
  | _ => []

def indent (indentation : String) (text : String) : String :=
  String.ofList (text.toList.flatMap fun character =>
    if character = '\n' then '\n' :: indentation.toList else [character])

/-- The report of a failure. Several causes are numbered. -/
def report (failure : Failure) : String :=
  let reported :=
    match failure.causes with
    | [] => ""
    | [cause] => "\nCaused by:\n    " ++ indent "    " cause ++ "\n"
    | causes =>
        "\nCaused by:\n" ++ String.join (causes.zipIdx.map fun (cause, number) =>
          "    " ++ Nat.repr number ++ ": " ++ indent "       " cause ++ "\n")
  "Error: " ++ failure.message ++ "\n" ++ reported

end Failure

/-! Starting up. -/

/-- What start-up finds in the working folder, in the order in which it looks. -/
structure Findings where
  /-- Whether the log file could be created, which is not tried for a headless run. -/
  logFile : Except FileError Unit
  config : FileContent
  program : Option (String × FileContent)

def findings (options : Options) (disk : Disk) : Findings × Disk :=
  let (logFile, disk) :=
    if options.headless then (.ok (), disk)
    else
      match disk.write options.logFile .empty with
      | .ok disk => (.ok (), disk)
      | .error error => (.error error, disk)
  (⟨logFile, disk.read options.config, options.file.map fun path => (path, disk.read path)⟩, disk)

/-- Options win over settings from a file. -/
def override (options : Options) (settings : Settings) : Settings where
  width := options.width.getD settings.width
  height := options.height.getD settings.height
  extended := options.extended || settings.extended
  stepTime := options.stepTime.getD settings.stepTime
  seed := (options.seed.map UInt64.ofNat).or settings.seed

def blankGrid (settings : Settings) : Except Failure Grid :=
  (Grid.blank settings.width settings.height).mapError .blankGrid

def isAbsent : FileContent → Bool
  | .error error => error.isAbsence
  | .ok _ => false

/-- The program to start with: the named file, or a blank playfield if there is none yet. A
headless run needs the file. -/
def openProgram (headless : Bool) (settings : Settings) :
    Option (String × FileContent) → Except Failure Grid
  | none => blankGrid settings
  | some (path, content) => do
      if isAbsent content then
        if headless then
          throw (.programNotFound path)
        (ProgramFile.checkExtension path).mapError .program
        blankGrid settings
      else
        (ProgramFile.ofContent path content).mapError .program

inductive Start where
  | headless (grid : Grid) (settings : Settings)
  | interactive (editor : Editor) (settings : Settings)

def start (options : Options) (found : Findings) : Except Failure Start := do
  found.logFile.mapError (.logFile options.logFile)
  let settings ← (Settings.ofContentOrStandard options.config found.config).mapError
    (.settings options.config)
  let settings := override options settings
  let grid ← openProgram options.headless settings found.program
  if options.headless then
    if options.file.isNone then
      throw .programMissing
    return .headless grid settings
  else
    return .interactive (.start grid options.file) settings

/-- The machine of a headless run. Without a seed, `chance` is used. -/
def headlessMachine (grid : Grid) (settings : Settings) (chance : UInt64) : Machine :=
  Machine.start grid settings.extended (settings.seed.getD chance) []

def endingFailure? : Batch.Ending → Option Failure
  | .finished => none
  | .inputClosed request => some (.inputClosed request)
  | .faulted fault => some (.faulted fault)

/-! A whole run. -/

structure Outcome where
  exitCode : UInt8
  output : String
  errors : String
  deriving DecidableEq

namespace Outcome

def ofUsage (error : UsageError) : Outcome := ⟨2, "", "error: " ++ error.message ++ "\n"⟩

def ofFailure (failure : Failure) (transcript : Batch.Transcript) : Outcome :=
  ⟨1, transcript.output, transcript.prompts ++ failure.report⟩

def ofEnding (transcript : Batch.Transcript) (ending : Batch.Ending) : Outcome :=
  match endingFailure? ending with
  | none => ⟨0, transcript.output, transcript.prompts⟩
  | some failure => ofFailure failure transcript

end Outcome

inductive Run where
  | ended (outcome : Outcome)
  | interactive (editor : Editor) (settings : Settings)
  /-- The program needs more turns than it was given. -/
  | unfinished

def run (arguments : List String) (disk : Disk) (input : ByteArray) (chance : UInt64)
    (fuel : Nat) : Run :=
  match Options.parse arguments with
  | .error error => .ended (.ofUsage error)
  | .ok options =>
      match start options (findings options disk).1 with
      | .error failure => .ended (.ofFailure failure .empty)
      | .ok (.interactive editor settings) => .interactive editor settings
      | .ok (.headless grid settings) =>
          let machine := headlessMachine grid settings chance
          match Batch.run options.maxSteps fuel (Batch.inputLines input) machine .empty with
          | none => .unfinished
          | some (transcript, ending) => .ended (.ofEnding transcript ending)

end Playfield.CommandLine
