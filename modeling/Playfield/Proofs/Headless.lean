import Playfield.CommandLine
import Playfield.Proofs.InputLines
import Playfield.Proofs.Lockstep
import Playfield.Proofs.Output
import Playfield.Proofs.Plain

/-!
A headless run agrees with a plain one. Both loops take the same steps, but the headless one tests
its limit before a step and not after it, passes breakpoints, hands out text as it is printed, and
prompts for one line at a time.

A turn of the headless run either is a step of the plain run or uses up a line. So one ends if the
other one does, and the fuel that it needs is known.
-/

namespace Playfield

namespace Machine

/-! Handing out text. -/

/-- The machine as if none of its text had been handed out. -/
def unflushed (machine : Machine) : Machine :=
  { machine with output := { machine.output with flushed := 0 } }

theorem unflushed_lockstep : Lockstep fun first second => second = first.unflushed := by
  constructor
  · constructor <;> rintro first _ rfl
    all_goals intros
    all_goals rfl
  all_goals rintro first _ rfl
  all_goals intros
  all_goals rfl

theorem step_unflushed (machine : Machine) :
    machine.unflushed.step = (machine.step.1, machine.step.2.unflushed) := by
  have same : machine.unflushed = machine.unflushed := rfl
  obtain ⟨result, after⟩ := unflushed_lockstep.step same
  exact Prod.ext result.symm after

theorem takeOutput_resume (machine : Machine) :
    machine.takeOutput.2.resume = machine.resume.takeOutput.2 :=
  resume_map (fun machine => machine.takeOutput.2) machine rfl rfl

theorem takeOutput_supply (machine : Machine) (reply : String) :
    machine.takeOutput.2.supply reply = (machine.supply reply).takeOutput.2 := by
  simp only [supply, takeOutput]
  cases machine.state <;> rfl

theorem takeOutput_consistent {machine : Machine} (consistent : machine.Consistent) :
    machine.takeOutput.2.Consistent where
  modes := consistent.modes
  halted := consistent.halted
  paused := consistent.paused
  awaiting request awaiting := by
    obtain ⟨⟨unquoted, unskipped, decoded⟩, replies⟩ := consistent.awaiting request awaiting
    exact ⟨⟨unquoted, unskipped, decoded⟩, replies⟩
  ended halted := by
    obtain ⟨notice, last, position, cause⟩ := consistent.ended halted
    exact ⟨notice, last, position, cause⟩

/-! The plain machine beside a headless run that has the given lines left. -/

def counterpart (machine : Machine) (lines : List String) : Machine :=
  (machine.plain lines).unflushed

theorem counterpart_takeOutput (machine : Machine) (lines : List String) :
    machine.takeOutput.2.counterpart lines = machine.counterpart lines := by
  have unmarked : machine.takeOutput.2.unmarked = machine.unmarked.takeOutput.2 := rfl
  rw [counterpart, counterpart, plain, plain, unmarked, takeOutput_resume]
  rfl

theorem counterpart_resume (machine : Machine) (lines : List String) :
    machine.resume.counterpart lines = machine.counterpart lines := by
  rw [counterpart, plain_resume, counterpart]

theorem counterpart_text (machine : Machine) (lines : List String) :
    (machine.counterpart lines).output.text = machine.output.text :=
  (congrArg Output.text (machine.agrees_plain lines).output).symm

theorem counterpart_steps (machine : Machine) (lines : List String) :
    (machine.counterpart lines).steps = machine.steps :=
  (machine.agrees_plain lines).steps.symm

/-! Testing the limit before a step. -/

/-- A run that tests its goal also before the first step. -/
def runFrom (goal : Option Nat) (fuel : Nat) (machine : Machine) : Option (StepResult × Machine) :=
  if goal.any (· ≤ machine.steps) then some (.ok .running, machine) else runTo goal fuel machine

theorem runFrom_of_early {goal : Option Nat} {machine : Machine}
    (early : goal.any (· ≤ machine.steps) = false) (lines : List String) (fuel : Nat) :
    runFrom goal fuel (machine.counterpart lines) =
      runTo goal fuel (machine.counterpart lines) := by
  rw [runFrom, counterpart_steps, early]
  rfl

theorem runFrom_of_reached {goal : Option Nat} {machine : Machine}
    (reached : goal.any (· ≤ machine.steps) = true) (lines : List String) (fuel : Nat) :
    runFrom goal fuel (machine.counterpart lines) =
      some (.ok .running, machine.counterpart lines) := by
  rw [runFrom, counterpart_steps, if_pos reached]

theorem runTo_of_running {goal : Option Nat} {machine : Machine}
    (running : machine.step.1 = .ok .running) (fuel : Nat) :
    runTo goal (fuel + 1) machine = runFrom goal fuel machine.step.2 := by
  simp only [runTo, running, runFrom]
  split
  · rw [← running]
  · rfl

end Machine

namespace Batch

open Machine

/-! Turns. -/

/-- The machine is at the start of a turn, and all its text is in the transcript. -/
structure Ready (machine : Machine) (transcript : Transcript) : Prop where
  running : machine.state = .running
  consistent : machine.Consistent
  drained : machine.output.Drained
  written : transcript.output = machine.output.text

theorem ready_takeOutput {machine : Machine} {transcript : Transcript}
    (running : machine.state = .running) (consistent : machine.Consistent)
    (written : transcript.output = machine.output.text) :
    Ready machine.takeOutput.2 transcript :=
  ⟨running, takeOutput_consistent consistent, machine.output.drained_flush, written⟩

/-- The ending that a result of the plain run comes with. A plain run is never paused. -/
inductive Concludes : StepResult → Ending → Prop where
  | halted : Concludes (.ok .halted) .finished
  | running : Concludes (.ok .running) .finished
  | awaiting (request : Request) : Concludes (.ok (.awaiting request)) (.inputClosed request)
  | fault (fault : ArithmeticFault) : Concludes (.error fault) (.faulted fault)

/-- What a turn is for the plain run. -/
inductive Turned (limit : Option Nat) (lines : List String) (machine : Machine)
    (transcript : Transcript) : Prop where
  | ended {written : Transcript} {ending : Ending} {result : StepResult} {after : Machine}
      (closes : ∀ fuel, run limit (fuel + 1) lines machine transcript = some (written, ending))
      (ends : ∀ fuel, runTo limit (fuel + 1) (machine.counterpart lines) = some (result, after))
      (concludes : Concludes result ending) (text : written.output = after.output.text)
  | stepped {next : Machine} {later : Transcript} (ready : Ready next later)
      (turns : ∀ fuel, run limit (fuel + 1) lines machine transcript =
        run limit fuel lines next later)
      (steps : ∀ fuel, runTo limit (fuel + 1) (machine.counterpart lines) =
        runFrom limit fuel (next.counterpart lines))
  | answered {line : String} {rest : List String} {next : Machine} {later : Transcript}
      (used : lines = line :: rest) (ready : Ready next later) (same : next.steps = machine.steps)
      (turns : ∀ fuel, run limit (fuel + 1) lines machine transcript =
        run limit fuel rest next later)
      (waits : ∀ fuel, runTo limit fuel (machine.counterpart lines) =
        runTo limit fuel (next.counterpart rest))

section Turns
variable {limit : Option Nat} {machine : Machine} {transcript : Transcript}

theorem turn_of_reached (reached : limit.any (· ≤ machine.steps) = true) :
    turn limit machine = ⟨"", machine, .ended .finished⟩ := by
  simp [turn, reached]

theorem turn_of_passed (early : limit.any (· ≤ machine.steps) = false)
    (passes : machine.step.1.unpaused = .ok .running) :
    turn limit machine =
      ⟨machine.step.2.output.fresh, machine.step.2.resume.takeOutput.2, .goOn⟩ := by
  rcases result : machine.step.1 with fault | state
  · rw [result] at passes
    cases passes
  · rw [result] at passes
    have arrived := step_state result
    cases state with
    | running =>
        rw [resume_of_not_paused (by simp [arrived])]
        simp [turn, early, result, takeOutput]
    | paused =>
        rw [← takeOutput_resume]
        simp [turn, early, result, takeOutput]
    | awaiting request => cases passes
    | halted => cases passes

theorem turn_of_waits {request : Request} (early : limit.any (· ≤ machine.steps) = false)
    (result : machine.step.1 = .ok (.awaiting request)) :
    turn limit machine =
      ⟨machine.step.2.output.fresh, machine.step.2.takeOutput.2, .ask request⟩ := by
  simp [turn, early, result, takeOutput]

theorem written_of_step (ready : Ready machine transcript) :
    (transcript.print machine.step.2.output.fresh).output = machine.step.2.output.text := by
  rw [machine.step_output.text ready.drained, Transcript.print, ready.written]

theorem turned_of_passed (ready : Ready machine transcript)
    (early : limit.any (· ≤ machine.steps) = false)
    (passes : machine.step.1.unpaused = .ok .running) (lines : List String)
    (moves : (machine.counterpart lines).step =
      (machine.step.1.unpaused, machine.step.2.counterpart lines)) :
    Turned limit lines machine transcript := by
  have turns := turn_of_passed early passes
  have running : machine.step.2.resume.state = .running := by
    rcases result : machine.step.1 with fault | state
    · rw [result] at passes
      cases passes
    · rw [result] at passes
      rw [resume_state, step_state result]
      exact Except.ok.inj passes
  have text : machine.step.2.resume.output = machine.step.2.output := by
    obtain ⟨state, resumed⟩ := machine.step.2.resume_frame
    rw [resumed]
  have consistent := resume_consistent _ (step_consistent machine ready.consistent)
  have written := written_of_step ready
  rw [← text] at written
  refine .stepped (ready_takeOutput running consistent written) ?_ ?_
  · intro fuel
    simp only [run, turns]
    rw [text]
  · intro fuel
    have goesOn : (machine.counterpart lines).step.1 = .ok .running := by rw [moves, passes]
    rw [runTo_of_running goesOn, moves, counterpart_takeOutput, counterpart_resume]

theorem turned_of_ended {lines : List String} {written : Transcript} {ending : Ending}
    {result : StepResult} (concludes : Concludes result ending)
    (closes : ∀ fuel, run limit (fuel + 1) lines machine transcript = some (written, ending))
    (text : written.output = machine.step.2.output.text)
    (moves : (machine.counterpart lines).step = (result, machine.step.2.counterpart lines))
    (stops : result ≠ .ok .running) : Turned limit lines machine transcript := by
  rw [← machine.step.2.counterpart_text lines] at text
  exact .ended closes (runTo_of_stops moves stops) concludes text

theorem turned_of_waits {request : Request} (ready : Ready machine transcript)
    (early : limit.any (· ≤ machine.steps) = false) (lines : List String)
    (result : machine.step.1 = .ok (.awaiting request))
    (counts : machine.step.2.steps = machine.steps)
    (stays : (machine.counterpart lines).step = (machine.step.2.counterpart lines).step) :
    Turned limit lines machine transcript := by
  have turns := turn_of_waits early result
  have consistent := step_consistent machine ready.consistent
  have awaiting := step_state result
  have written : ((transcript.print machine.step.2.output.fresh).prompt request).output =
      machine.step.2.output.text := written_of_step ready
  cases lines with
  | nil =>
      refine turned_of_ended (.awaiting request) ?_ written ?_ nofun
      · intro fuel
        simp only [run, turns]
      · rw [stays, counterpart, step_unflushed, step_plain_nil consistent awaiting]
  | cons line rest =>
      have supplied := supply_of_awaiting line awaiting
      have text : (machine.step.2.supply line).output = machine.step.2.output := by rw [supplied]
      have running : (machine.step.2.supply line).state = .running := by rw [supplied]
      have steps : (machine.step.2.supply line).steps = machine.steps := by rwa [supplied]
      have stillConsistent := supply_consistent machine.step.2 line consistent
      have level : (machine.counterpart (line :: rest)).step =
          ((machine.step.2.supply line).takeOutput.2.counterpart rest).step := by
        rw [stays, counterpart_takeOutput, counterpart, counterpart, step_unflushed,
          step_unflushed, step_plain_supply consistent awaiting]
      rw [← text] at written
      refine .answered rfl (ready_takeOutput running stillConsistent written) steps ?_ ?_
      · intro fuel
        simp only [run, turns, takeOutput_supply, text]
      · exact runTo_congr level limit

theorem turned (ready : Ready machine transcript)
    (early : limit.any (· ≤ machine.steps) = false) (lines : List String) :
    Turned limit lines machine transcript := by
  cases advances (active_of_running ready.running) with
  | completed ends plain =>
      have moves : (machine.counterpart lines).step =
          (machine.step.1.unpaused, machine.step.2.counterpart lines) := by
        rw [counterpart, step_unflushed, plain]
        rfl
      have written := written_of_step ready
      rcases result : machine.step.1 with fault | state
      · rw [result] at moves
        refine turned_of_ended (.fault fault) ?_ written moves nofun
        intro fuel
        simp [run, turn, early, result, takeOutput]
      · cases state with
        | running =>
            exact turned_of_passed ready early (congrArg StepResult.unpaused result) lines moves
        | paused =>
            exact turned_of_passed ready early (congrArg StepResult.unpaused result) lines moves
        | awaiting request => exact absurd result (ends request)
        | halted =>
            rw [result] at moves
            refine turned_of_ended .halted ?_ written moves nofun
            intro fuel
            simp [run, turn, early, result, takeOutput]
  | suspended request result steps plain =>
      apply turned_of_waits ready early lines result steps
      rw [counterpart, step_unflushed, plain, counterpart, step_unflushed]

end Turns

/-! Runs. -/

section Runs
variable {limit : Option Nat} {machine : Machine} {transcript : Transcript} {lines : List String}

theorem run_of_reached (reached : limit.any (· ≤ machine.steps) = true) (fuel : Nat) :
    run limit (fuel + 1) lines machine transcript = some (transcript, .finished) := by
  simp only [run, turn_of_reached reached, Transcript.print, String.append_empty]

/-- Beside a headless run that ends there is a plain one, for which the same fuel is enough. -/
theorem ends_of_closes {fuel : Nat} {written : Transcript} {ending : Ending}
    (ready : Ready machine transcript)
    (closes : run limit fuel lines machine transcript = some (written, ending)) :
    ∃ result after, runFrom limit fuel (machine.counterpart lines) = some (result, after) ∧
      Concludes result ending ∧ written.output = after.output.text := by
  induction fuel generalizing lines machine transcript with
  | zero => cases closes
  | succ fuel ih =>
      cases reached : limit.any (· ≤ machine.steps) with
      | true =>
          rw [run_of_reached reached] at closes
          cases closes
          exact ⟨_, _, runFrom_of_reached reached lines _, .running,
            ready.written.trans (machine.counterpart_text lines).symm⟩
      | false =>
          rw [runFrom_of_early reached]
          cases turned ready reached lines with
          | ended always ends concludes text =>
              rw [always] at closes
              cases closes
              exact ⟨_, _, ends fuel, concludes, text⟩
          | stepped next turns steps =>
              rw [turns] at closes
              rw [steps]
              exact ih next closes
          | @answered line rest after later used next same turns waits =>
              rw [turns] at closes
              obtain ⟨result, last, ends, concludes, text⟩ := ih next closes
              rw [← same] at reached
              rw [runFrom_of_early reached, ← waits] at ends
              exact ⟨result, last, runTo_more ends 1, concludes, text⟩

/-- If the plain run ends, so does the headless run: it takes a turn for each step, one for each
line, and one to see that the limit is reached. -/
theorem closes_of_ends {fuel total : Nat} {outcome : StepResult × Machine}
    (ready : Ready machine transcript) (enough : fuel + lines.length < total)
    (ends : runFrom limit fuel (machine.counterpart lines) = some outcome) :
    ∃ closed, run limit total lines machine transcript = some closed := by
  induction total generalizing fuel lines machine transcript with
  | zero => cases enough
  | succ total ih =>
      cases reached : limit.any (· ≤ machine.steps) with
      | true => exact ⟨_, run_of_reached reached total⟩
      | false =>
          rw [runFrom_of_early reached] at ends
          cases fuel with
          | zero => cases ends
          | succ fuel =>
              cases turned ready reached lines with
              | ended always _ _ _ => exact ⟨_, always total⟩
              | stepped next turns steps =>
                  rw [steps] at ends
                  rw [turns]
                  exact ih next (by omega) ends
              | @answered line rest after later used next same turns waits =>
                  rw [← same] at reached
                  rw [waits, ← runFrom_of_early reached] at ends
                  rw [used, List.length_cons] at enough
                  rw [turns]
                  exact ih next (by omega) ends

end Runs

end Batch

namespace CommandLine

open Machine

-- The messages that a run can end with have different lengths.
theorem request_of_message {first second : Request}
    (same : (Failure.inputClosed first).message = (Failure.inputClosed second).message) :
    first = second := by
  have lengths := congrArg String.length same
  cases first <;> cases second
  · rfl
  · exact absurd lengths (by decide)
  · exact absurd lengths (by decide)
  · rfl

theorem message_faulted_ne (fault : ArithmeticFault) (request : Request) :
    (Failure.faulted fault).message ≠ (Failure.inputClosed request).message := by
  intro same
  have lengths : "program stopped".length = _ := congrArg String.length same
  cases request
  · exact absurd lengths (by decide)
  · exact absurd lengths (by decide)

/-- What a headless run reports when the plain run returns the given result. -/
structure Reports (failure : Option Failure) (result : StepResult) : Prop where
  success : failure = none ↔ result = .ok .halted ∨ result = .ok .running
  closed : ∀ request, failure.map Failure.message =
    some ("input closed while waiting for " ++ request.text) ↔ result = .ok (.awaiting request)
  faulted : ∀ fault, failure = some (.faulted fault) ↔ result = .error fault

theorem reports_of_concludes {result : StepResult} {ending : Batch.Ending}
    (concludes : Batch.Concludes result ending) : Reports (endingFailure? ending) result := by
  cases concludes with
  | halted | running =>
      constructor
      · simp [endingFailure?]
      · simp [endingFailure?]
      · simp [endingFailure?]
  | awaiting request =>
      constructor
      · simp [endingFailure?]
      · intro other
        constructor
        · intro same
          rw [request_of_message (Option.some.inj same)]
        · intro same
          cases same
          rfl
      · simp [endingFailure?]
  | fault fault =>
      constructor
      · simp [endingFailure?]
      · intro request
        constructor
        · intro same
          exact absurd (Option.some.inj same) (message_faulted_ne fault request)
        · exact nofun
      · simp [endingFailure?]

section Agreement
variable (grid : Grid) (settings : Settings) (chance : UInt64) (text : String)

/-- The headless run with a text as its standard input. -/
def headlessRun (limit : Option Nat) (fuel : Nat) : Option (Batch.Transcript × Batch.Ending) :=
  Batch.run limit fuel (Batch.inputLines text.toUTF8) (headlessMachine grid settings chance) .empty

/-- The plain run: the playfield has no breakpoints, and the lines of the text are the script. -/
def plainRun (limit : Option Nat) (fuel : Nat) : Option (StepResult × Machine) :=
  (Machine.start grid.unmarked settings.extended (settings.seed.getD chance)
    (Batch.replies text)).run limit fuel

-- A fresh machine has completed nothing, so a test before the first step changes nothing.
theorem runFrom_headlessMachine {limit : Option Nat} (positive : limit ≠ some 0) (fuel : Nat) :
    runFrom limit fuel
        ((headlessMachine grid settings chance).counterpart (Batch.inputLines text.toUTF8)) =
      plainRun grid settings chance text limit fuel := by
  have early : limit.any (· ≤ (headlessMachine grid settings chance).steps) = false := by
    cases limit with
    | none => rfl
    | some count =>
        have counts : count ≠ 0 := fun zero => positive (congrArg some zero)
        exact decide_eq_false (Nat.not_le_of_gt (Nat.pos_of_ne_zero counts))
  have goal : limit.map (0 + ·) = limit := by
    cases limit with
    | none => rfl
    | some count => exact congrArg some (Nat.zero_add count)
  have scripted : plainRun grid settings chance text limit fuel =
      runTo (limit.map (0 + ·)) fuel
        ((headlessMachine grid settings chance).counterpart (Batch.replies text)) := rfl
  rw [runFrom_of_early early, Batch.inputLines_toUTF8, scripted, goal]

theorem headlessMachine_ready : Batch.Ready (headlessMachine grid settings chance) .empty :=
  ⟨rfl, start_consistent _ _ _ _, rfl, rfl⟩

theorem headlessRun_of_plainRun {limit : Option Nat} (positive : limit ≠ some 0)
    (ends : ∃ fuel outcome, plainRun grid settings chance text limit fuel = some outcome) :
    ∃ fuel closed, headlessRun grid settings chance text limit fuel = some closed := by
  obtain ⟨fuel, outcome, ends⟩ := ends
  rw [← runFrom_headlessMachine grid settings chance text positive] at ends
  exact ⟨_, Batch.closes_of_ends (headlessMachine_ready grid settings chance)
    (Nat.lt_succ_self _) ends⟩

theorem plainRun_of_headlessRun {limit : Option Nat} (positive : limit ≠ some 0) {fuel : Nat}
    {transcript : Batch.Transcript} {ending : Batch.Ending}
    (closed : headlessRun grid settings chance text limit fuel = some (transcript, ending)) :
    ∃ result after, plainRun grid settings chance text limit fuel = some (result, after) ∧
      Batch.Concludes result ending ∧ transcript.output = after.output.text := by
  rw [← runFrom_headlessMachine grid settings chance text positive]
  exact Batch.ends_of_closes (headlessMachine_ready grid settings chance) closed

theorem plainRun_limited (limit : Nat) :
    ∃ fuel outcome, plainRun grid settings chance text (some limit) fuel = some outcome :=
  ⟨limit + 1, runTo_limited (0 + limit) limit _ (Nat.le_refl _)⟩

/-- Under a limit both runs end; without one, one ends if the other does. Then the headless run
has written what the plain one has printed, and reports its result. With a limit of no
instructions at all, nothing is executed and nothing is written. -/
theorem headless_agrees :
    (∀ limit, limit ≠ 0 →
      (∃ fuel closed, headlessRun grid settings chance text (some limit) fuel = some closed) ∧
        ∃ fuel outcome, plainRun grid settings chance text (some limit) fuel = some outcome) ∧
    ((∃ fuel closed, headlessRun grid settings chance text none fuel = some closed) ↔
      ∃ fuel outcome, plainRun grid settings chance text none fuel = some outcome) ∧
    (∀ limit, limit ≠ some 0 → ∀ fuel more transcript ending result after,
      headlessRun grid settings chance text limit fuel = some (transcript, ending) →
      plainRun grid settings chance text limit more = some (result, after) →
        transcript.output = after.output.text ∧ Reports (endingFailure? ending) result) ∧
    Batch.turn (some 0) (headlessMachine grid settings chance) =
      ⟨"", headlessMachine grid settings chance, .ended .finished⟩ ∧
    ∀ fuel, headlessRun grid settings chance text (some 0) (fuel + 1) =
      some (.empty, .finished) := by
  have unlimited : (none : Option Nat) ≠ some 0 := nofun
  refine ⟨?_, ⟨?_, headlessRun_of_plainRun grid settings chance text unlimited⟩, ?_,
    Batch.turn_of_reached rfl, Batch.run_of_reached rfl⟩
  · intro limit positive
    have limited : some limit ≠ some 0 := fun zero => positive (Option.some.inj zero)
    have ends := plainRun_limited grid settings chance text limit
    exact ⟨headlessRun_of_plainRun grid settings chance text limited ends, ends⟩
  · rintro ⟨fuel, ⟨transcript, ending⟩, closed⟩
    obtain ⟨result, after, ends, _⟩ :=
      plainRun_of_headlessRun grid settings chance text unlimited closed
    exact ⟨fuel, _, ends⟩
  · intro limit positive fuel more transcript ending result after closed ends
    obtain ⟨_, _, alsoEnds, concludes, written⟩ :=
      plainRun_of_headlessRun grid settings chance text positive closed
    cases runTo_unique ends alsoEnds
    exact ⟨written, reports_of_concludes concludes⟩

end Agreement

-- The first line is refused, a breakpoint follows, and the step that halts reaches the limit.
theorem headless_agrees_retry :
    let grid := (Grid.ofRow 38 [46, 64]).toggleBreakpoint ⟨1, 0⟩
    ∃ fuel prompts, headlessRun grid .standard 0 "x\n7\r\n" (some 3) fuel =
      some (⟨"7", prompts⟩, .finished) := by
  intro grid
  obtain ⟨limited, _, agrees, _⟩ := headless_agrees grid .standard 0 "x\n7\r\n"
  obtain ⟨⟨fuel, ⟨transcript, ending⟩, closed⟩, _⟩ := limited 3 (by decide)
  have ran : (plainRun grid .standard 0 "x\n7\r\n" (some 3) 3).map
      (fun outcome => (outcome.1, outcome.2.output.text)) = some (.ok .halted, "7") := by
    decide +kernel
  obtain ⟨⟨result, after⟩, ends, shown⟩ := Option.map_eq_some_iff.mp ran
  obtain ⟨halted, text⟩ := Prod.mk.inj shown
  obtain ⟨written, reports⟩ := agrees (some 3) (by decide) fuel 3 _ _ _ _ closed ends
  have success : endingFailure? ending = none := reports.success.mpr (Or.inl halted)
  cases ending with
  | finished =>
      refine ⟨fuel, transcript.prompts, ?_⟩
      rw [closed, ← written.trans text]
  | inputClosed request => cases success
  | faulted fault => cases success

end CommandLine

end Playfield
