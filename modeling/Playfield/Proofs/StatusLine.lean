import Playfield.Proofs.Faults
import Playfield.Proofs.Log
import Playfield.Proofs.Scheduling

/-!
The status line after a step. A session cannot ask its machine which notices a step raised: it
compares how many the journal has counted before and after, and takes the last one if there are
more. The journal forgets old notices and counts all of them, so this is the last notice of that
very step, however many came before. A notice of a step that returns a state is never an error,
so the line is one exactly if the step failed.
-/

namespace Playfield

namespace Journal

theorem total_recordAll (journal : Journal) (notices : List Notice) :
    (journal.recordAll notices).total = journal.total + notices.length := by
  induction notices generalizing journal with
  | nil => rfl
  | cons notice later ih =>
      have further := ih (journal.record notice)
      rw [List.length_cons, Nat.add_comm later.length, ← Nat.add_assoc]
      exact further

theorem last?_recordAll (journal : Journal) {notices : List Notice} {notice : Notice}
    (last : notices.getLast? = some notice) : (journal.recordAll notices).last? = some notice := by
  obtain ⟨earlier, rfl⟩ := List.getLast?_eq_some_iff.mp last
  rw [recordAll_append]
  exact last?_record _ notice

end Journal

namespace Machine

theorem resume_journal (machine : Machine) : machine.resume.journal = machine.journal :=
  machine.act_journal .resume

theorem supply_journal (machine : Machine) (reply : String) :
    (machine.supply reply).journal = machine.journal :=
  machine.act_journal (.supply reply)

theorem resume_of_supply {machine : Machine} {request : Request}
    (awaiting : machine.state = .awaiting request) (reply : String) :
    (machine.supply reply).resume = machine.supply reply := by
  apply resume_of_not_paused
  rw [supply_of_awaiting reply awaiting]
  exact RunState.noConfusion

theorem harmless_of_raised {machine : Machine} {state : RunState} {notice : Notice}
    (returned : machine.step.1 = .ok state) (raised : notice ∈ machine.raised .step) :
    notice.severity ≠ .error := by
  by_cases active : machine.Active
  · have faultless : machine.faultNotices = [] := by rw [faultNotices, returned]
    rw [raised_of_active active, faultless, List.append_nil] at raised
    obtain ⟨cause, reported, rfl⟩ := List.mem_map.mp raised
    exact severity_of_causes reported
  · rw [raised_of_not_active active] at raised
    cases raised

theorem step_shows {machine : Machine} {log : List Notice} (shows : machine.journal.Shows log) :
    machine.step.2.journal.Shows (log ++ machine.raised .step) := by
  rw [step_journal]
  exact shows.recordAll _

end Machine

/-- A move is a short history. -/
theorem Move.history {before after : Machine} {replies : List String}
    (move : Move before replies after) : ∃ history, after = before.after history := by
  cases move with
  | idle => exact ⟨[], rfl⟩
  | resumed => exact ⟨[.resume], rfl⟩
  | stepped => exact ⟨[.resume, .step], rfl⟩
  | answered reply _ => exact ⟨[.supply reply, .resume, .step], rfl⟩

/-! What is to be said about a step. -/

def Event.isTick : Event → Bool
  | .tick _ => true
  | .press _ _ | .frame _ _ => false

/-- What is said of a step that raised no notice, by the state that it led to. -/
def Event.quietText (event : Event) : RunState → String
  | .paused => "Breakpoint reached"
  | .awaiting request => "Waiting for " ++ request.text
  | .halted => "Program halted"
  | .running => if event.isTick then "Playing..." else "Stepped"

/-- The status tells what came of the step that the machine takes on an event. -/
structure Status.Tells (status : Status) (event : Event) (machine : Machine) : Prop where
  error : status.isError = true ↔ ∃ fault, machine.step.1 = .error fault
  fault : ∀ fault, machine.step.1 = .error fault → status.message = fault.message
  notice : ∀ state notice, machine.step.1 = .ok state →
    (machine.raised .step).getLast? = some notice → status.message = notice.message
  quiet : ∀ state, machine.step.1 = .ok state → machine.raised .step = [] →
    status.message = event.quietText state

theorem Status.Tells.of_quiet {status : Status} {event : Event} {machine : Machine}
    {state : RunState} (tells : status.Tells event machine)
    (returned : machine.step.1 = .ok state) (nothing : machine.raised .step = []) :
    status = ⟨event.quietText state, false⟩ := by
  have message := tells.quiet state returned nothing
  have harmless : status.isError = false := by
    apply Bool.eq_false_iff.mpr
    intro error
    obtain ⟨fault, failed⟩ := tells.error.mp error
    cases returned.symm.trans failed
  cases status
  cases message
  cases harmless
  rfl

theorem Status.Tells.of_halted {status : Status} {event : Event} {machine : Machine}
    (tells : status.Tells event machine) (halted : machine.state = .halted) :
    status = ⟨"Program halted", false⟩ := by
  have result := congrArg Prod.fst (Machine.step_of_halted halted)
  exact tells.of_quiet result (Machine.raised_of_not_active fun active => active.2 halted)

namespace Session

/-- The event makes an open runner step: it is asked to while its machine does not wait, an
automatic step is due, or a reply is entered. The machine is the one that takes the step. -/
inductive Steps (session : Session) (runner : Runner) : Event → Machine → Prop where
  | asked (now : Int) (control : Bool)
      (busy : ∀ request, runner.machine.state ≠ .awaiting request) :
      Steps session runner (.press now ⟨.function 1, control⟩) runner.machine.resume
  | due (now : Int) (automatic : runner.automatic = true)
      (elapsed : session.settings.stepTime ≤ (now - runner.lastStep).toNat) :
      Steps session runner (.tick now) runner.machine.resume
  | answered (now : Int) (control : Bool) {request : Request}
      (awaiting : runner.machine.state = .awaiting request) :
      Steps session runner (.press now ⟨.enter, control⟩) (runner.machine.supply runner.input)

/-! What the status says. -/

section Statuses
variable {machine : Machine} {event : Event} {state : RunState} {automatic : Bool}

theorem tells_of_fault {fault : ArithmeticFault} (failed : machine.step.1 = .error fault) :
    (⟨fault.message, true⟩ : Status).Tells event machine := by
  constructor
  · exact ⟨fun _ => ⟨fault, failed⟩, fun _ => rfl⟩
  · intro other same
    cases failed.symm.trans same
    rfl
  · intro state _ returned
    cases failed.symm.trans returned
  · intro state returned
    cases failed.symm.trans returned

theorem tells_of_state {message : String} (returned : machine.step.1 = .ok state)
    (last : ∀ notice, (machine.raised .step).getLast? = some notice → message = notice.message)
    (quiet : machine.raised .step = [] → message = event.quietText state) :
    (⟨message, false⟩ : Status).Tells event machine := by
  have unfailed : ∀ fault, machine.step.1 ≠ .error fault := by
    intro fault failed
    cases returned.symm.trans failed
  constructor
  · exact iff_of_false Bool.false_ne_true fun ⟨fault, failed⟩ => unfailed fault failed
  · exact fun fault failed => absurd failed (unfailed fault)
  · exact fun _ notice _ raised => last notice raised
  · intro other same nothing
    cases returned.symm.trans same
    exact quiet nothing

theorem stepStatus_of_raised {notice : Notice} (returned : machine.step.1 = .ok state)
    (last : (machine.raised .step).getLast? = some notice) :
    stepStatus machine machine.step.2 automatic (.ok state) = ⟨notice.message, false⟩ := by
  have raised := List.mem_of_getLast? last
  have more : machine.journal.total < machine.step.2.journal.total := by
    rw [machine.step_journal, Journal.total_recordAll]
    exact Nat.lt_add_of_pos_right (List.length_pos_of_mem raised)
  have shown : machine.step.2.journal.last? = some notice := by
    rw [machine.step_journal]
    exact machine.journal.last?_recordAll last
  have harmless := Machine.harmless_of_raised returned raised
  simp only [stepStatus, if_pos more, shown, harmless, decide_false]

theorem stepStatus_of_quiet (mode : state = .running → automatic = event.isTick)
    (nothing : machine.raised .step = []) :
    stepStatus machine machine.step.2 automatic (.ok state) = ⟨event.quietText state, false⟩ := by
  have same : ¬ machine.journal.total < machine.step.2.journal.total := by
    rw [machine.step_journal, nothing]
    exact Nat.lt_irrefl _
  simp only [stepStatus, if_neg same]
  cases state with
  | running =>
      rw [mode rfl]
      rfl
  | paused | awaiting _ | halted => rfl

theorem stepStatus_tells (machine : Machine)
    (mode : machine.step.1 = .ok .running → automatic = event.isTick) :
    (stepStatus machine machine.step.2 automatic machine.step.1).Tells event machine := by
  cases result : machine.step.1 with
  | error fault => exact tells_of_fault result
  | ok state =>
      cases last : (machine.raised .step).getLast? with
      | some notice =>
          rw [stepStatus_of_raised result last]
          apply tells_of_state result
          · intro other same
            cases last.symm.trans same
            rfl
          · intro nothing
            rw [nothing] at last
            cases last
      | none =>
          have nothing := List.getLast?_eq_none_iff.mp last
          rw [stepStatus_of_quiet (fun running => mode (running ▸ result)) nothing]
          apply tells_of_state result
          · intro notice raised
            cases last.symm.trans raised
          · exact fun _ => rfl

end Statuses

section Runners
variable {session : Session} {runner : Runner} {event : Event} {machine : Machine}

/-- The runner has taken a step of the given machine, and the status tells what came of it. -/
structure Reported (session : Session) (event : Event) (machine : Machine) : Prop where
  stepped : ∃ next, session.runner = some next ∧ next.machine = machine.step.2
  told : session.status.Tells event machine

theorem stepRunner_reported (session : Session) (runner : Runner) (now : Int)
    (mode : runner.automatic = event.isTick) :
    (session.stepRunner runner now).Reported event runner.machine.resume := by
  refine ⟨⟨_, rfl, rfl⟩, ?_⟩
  apply stepStatus_tells
  intro running
  rw [running]
  exact mode

theorem press_of_busy (opened : session.runner = some runner)
    (busy : ∀ request, runner.machine.state ≠ .awaiting request) (now : Int) {key : Key}
    (stays : isQuitKey key = false) :
    session.press now key = session.pressInRunner runner now key := by
  rw [press, stays, opened]
  cases state : runner.machine.state with
  | awaiting request => exact absurd state (busy request)
  | running | paused | halted => simp only [state, Bool.false_eq_true, ↓reduceIte]

theorem press_of_awaiting (opened : session.runner = some runner) {request : Request}
    (awaiting : runner.machine.state = .awaiting request) (now : Int) {key : Key}
    (stays : isQuitKey key = false) :
    session.press now key = session.pressInInput runner now key := by
  simp only [press, stays, opened, awaiting, Bool.false_eq_true, ↓reduceIte]

theorem handle_reported (opened : session.runner = some runner) (settled : runner.Settled)
    (steps : session.Steps runner event machine) :
    (session.handle event).Reported event machine := by
  cases steps with
  | asked now control busy =>
      have stays : isQuitKey ⟨.function 1, control⟩ = false := by
        cases control <;> rfl
      rw [handle, press_of_busy opened busy now stays]
      exact session.stepRunner_reported { runner with automatic := false } now rfl
  | due now automatic elapsed =>
      simp only [handle, tick, opened, automatic, elapsed, and_self, ↓reduceIte]
      exact session.stepRunner_reported runner now automatic
  | answered now control awaiting =>
      have stays : isQuitKey ⟨.enter, control⟩ = false := by
        cases control <;> rfl
      -- A runner that waits does not step by itself.
      have unasked : runner.automatic = false := by
        apply Bool.eq_false_iff.mpr
        intro automatic
        cases awaiting.symm.trans (settled.automatic automatic)
      rw [handle, press_of_awaiting opened awaiting now stays,
        ← Machine.resume_of_supply awaiting runner.input]
      exact session.stepRunner_reported
        { runner with machine := runner.machine.supply runner.input, input := "" } now unasked

/-- No other event steps: unless it closes the runner it leaves the machine alone, or at most
makes it leave a breakpoint. -/
theorem handle_still (opened : session.runner = some runner) (stays : ¬ event.Closes)
    (still : ∀ machine, ¬ session.Steps runner event machine) :
    ∃ next, (session.handle event).runner = some next ∧
      (next.machine = runner.machine ∨ next.machine = runner.machine.resume) := by
  cases event with
  | frame width height =>
      simp only [handle, frame, opened]
      exact ⟨_, rfl, .inl rfl⟩
  | tick now =>
      simp only [handle, tick, opened]
      split
      · rename_i due
        exact absurd (.due now due.1 due.2) (still _)
      · exact ⟨runner, opened, .inl rfl⟩
  | press now key =>
      obtain ⟨code, control⟩ := key
      rw [handle]
      by_cases quits : isQuitKey ⟨code, control⟩ = true
      · simp only [press, quits, ↓reduceIte]
        exact ⟨runner, opened, .inl rfl⟩
      · have unquit := Bool.eq_false_iff.mpr quits
        rcases runner.machine.waits_or_busy with ⟨request, awaiting⟩ | busy
        · rw [press_of_awaiting opened awaiting now unquit]
          cases code with
          | enter => exact absurd (.answered now control awaiting) (still _)
          | escape => exact absurd rfl stays
          | char _ | backspace => exact ⟨_, rfl, .inl rfl⟩
          | up | down | left | right | home | endKey | pageUp | pageDown | function _ | other =>
              exact ⟨runner, opened, .inl rfl⟩
        · rw [press_of_busy opened busy now unquit]
          unfold pressInRunner
          split
          · rename_i first
            cases first
            exact absurd (.asked now control busy) (still _)
          · simp only [toggleAutomatic]
            split
            · exact ⟨runner, opened, .inl rfl⟩
            · split
              · exact ⟨_, rfl, .inl rfl⟩
              · exact ⟨_, rfl, .inr rfl⟩
          · exact ⟨_, rfl, .inl rfl⟩
          · exact ⟨_, rfl, .inl rfl⟩
          · rename_i escape
            exact absurd escape stays
          · exact ⟨runner, opened, .inl rfl⟩

/-! The log behind the journal of a runner. -/

/-- The journal of an open runner shows the log of all that its machine has reported. -/
def Logged (session : Session) : Prop :=
  ∀ runner, session.runner = some runner → ∃ log, runner.machine.journal.Shows log

theorem logged_of_closed (closed : session.runner = none) : session.Logged := by
  intro runner opened
  cases closed.symm.trans opened

theorem handle_logged (logged : session.Logged) (event : Event) :
    (session.handle event).Logged := by
  intro next stillOpened
  cases opened : session.runner with
  | none =>
      cases handle_edited opened event with
      | edited _ _ closed _ => exact logged_of_closed closed next stillOpened
      | opened now outcome =>
          rw [outcome] at stillOpened
          cases stillOpened
          exact ⟨[], rfl, rfl⟩
  | some runner =>
      by_cases closes : event.Closes
      · have closed := (handle_closes_iff opened event).mpr closes
        exact logged_of_closed closed next stillOpened
      · obtain ⟨other, same, move⟩ := handle_moved event opened closes
        cases same.symm.trans stillOpened
        obtain ⟨log, shows⟩ := logged runner opened
        obtain ⟨history, reached⟩ := move.history
        refine ⟨log ++ runner.machine.logged history, ?_⟩
        rw [reached, Machine.after_journal]
        exact shows.recordAll _

theorem Steps.journal (steps : session.Steps runner event machine) :
    machine.journal = runner.machine.journal := by
  cases steps with
  | asked => exact runner.machine.resume_journal
  | due => exact runner.machine.resume_journal
  | answered => exact runner.machine.supply_journal runner.input

theorem Steps.machine_of_halted (steps : session.Steps runner event machine)
    (halted : runner.machine.state = .halted) : machine = runner.machine := by
  have unpaused : runner.machine.state ≠ .paused := by
    rw [halted]
    exact RunState.noConfusion
  cases steps with
  | asked => exact Machine.resume_of_not_paused unpaused
  | due => exact Machine.resume_of_not_paused unpaused
  | answered now control awaiting => cases halted.symm.trans awaiting

end Runners

/-- The status line tells the step just taken. After any events, an event that steps an open runner
leaves a status that is an error exactly if the step failed. It says the fault, else the last of
the notices that this step added to the log, else what the new state stands for; on a machine that
had halted it says that. The journal shows the log before and after, so it does not matter how many
notices it has already dropped. No other event steps. -/
theorem status_tells_step (editor : Editor) (settings : Settings) (disk : Disk) (chance : UInt64)
    (events : List Event) :
    let session := play events (start editor settings disk chance)
    ∀ runner, session.runner = some runner → ∀ event,
      (∀ machine, session.Steps runner event machine →
        ∃ next log, (session.handle event).runner = some next ∧
          next.machine = machine.step.2 ∧ machine.journal.Shows log ∧
          next.machine.journal.Shows (log ++ machine.raised .step) ∧
          (session.handle event).status.Tells event machine ∧
          (runner.machine.state = .halted → next.machine = runner.machine ∧
            (session.handle event).status = ⟨"Program halted", false⟩)) ∧
      (¬ event.Closes → (∀ machine, ¬ session.Steps runner event machine) →
        ∃ next, (session.handle event).runner = some next ∧
          (next.machine = runner.machine ∨ next.machine = runner.machine.resume)) := by
  intro session runner opened event
  have settled : session.Settled :=
    play_keeps Settled (fun _ event settled => handle_settled settled event)
      (settled_of_closed rfl) events
  have logged : session.Logged :=
    play_keeps Logged (fun _ event logged => handle_logged logged event)
      (logged_of_closed rfl) events
  refine ⟨?_, handle_still opened⟩
  intro machine steps
  obtain ⟨⟨next, stillOpened, stepped⟩, told⟩ :=
    handle_reported opened (settled runner opened) steps
  obtain ⟨log, shows⟩ := logged runner opened
  rw [← steps.journal] at shows
  refine ⟨next, log, stillOpened, stepped, shows, ?_, told, ?_⟩
  · rw [stepped]
    exact Machine.step_shows shows
  · intro halted
    have same := steps.machine_of_halted halted
    rw [← same] at halted ⊢
    refine ⟨?_, told.of_halted halted⟩
    rw [stepped, Machine.step_of_halted halted]

/-- The program `&@` has refused a reply and said so. The reply `5` is good, and the status does
not repeat the old notice, which the journal still has. -/
theorem status_tells_step_answered :
    let first := start (.start (Grid.ofRow 38 [64]) none) .standard .fresh 0
    let session := play [.press 0 ⟨.function 1, false⟩, .press 0 ⟨.function 1, false⟩,
      .press 0 ⟨.char 'x', false⟩, .press 0 ⟨.enter, false⟩, .press 0 ⟨.char '5', false⟩] first
    session.status = ⟨"Expected an integer, got \"x\"", false⟩ ∧
      (∃ runner machine, session.runner = some runner ∧
        session.Steps runner (.press 0 ⟨.enter, false⟩) machine ∧
        machine.journal.notices = [⟨.malformedReply .integer "x", ⟨0, 0⟩, 0⟩]) ∧
      (session.handle (.press 0 ⟨.enter, false⟩)).status = ⟨"Stepped", false⟩ := by
  intro first session
  have waits : session.runner.map (·.machine.state) = some (.awaiting .integer) := by
    decide +kernel
  obtain ⟨runner, opened, awaiting⟩ := Option.map_eq_some_iff.mp waits
  have steps : session.Steps runner (.press 0 ⟨.enter, false⟩)
      (runner.machine.supply runner.input) := .answered 0 false awaiting
  have step : session.runner.map (fun runner =>
      let machine := runner.machine.supply runner.input
      (machine.journal.notices, machine.step.1, machine.raised .step)) =
      some ([⟨.malformedReply .integer "x", ⟨0, 0⟩, 0⟩], .ok .running, []) := by
    decide +kernel
  rw [opened, Option.map_some, Option.some.injEq, Prod.mk.injEq, Prod.mk.injEq] at step
  obtain ⟨notices, returned, nothing⟩ := step
  obtain ⟨_, _, _, _, _, _, told, _⟩ := (status_tells_step (.start (Grid.ofRow 38 [64]) none)
    .standard .fresh 0 _ runner opened (.press 0 ⟨.enter, false⟩)).1 _ steps
  have said : session.status = ⟨"Expected an integer, got \"x\"", false⟩ := by decide +kernel
  exact ⟨said, ⟨runner, _, opened, steps, notices⟩, told.of_quiet returned nothing⟩

end Session

end Playfield
