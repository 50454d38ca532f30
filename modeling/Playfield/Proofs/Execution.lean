import Playfield.Machine.Step
import Playfield.Proofs.Grid

/-!
What executing a cell and taking a step can do. `Outcome` lists the four ways in which an
instruction ends, with everything that later invariants need to know about each; no other
proof has to go through the instruction set for them.

Reading is the one instruction with a loop. It is brought into a closed form first: the
replies that a search passes over are recorded in the journal, in order, and nothing else
changes until a usable one is found.
-/

namespace Playfield

/-! Looking for a usable reply. -/

namespace Replies

theorem search_of_found_none (request : Request) (replies : List String)
    (missing : (search request replies).found = none) :
    search request replies = ⟨replies, none, []⟩ := by
  induction replies with
  | nil => rfl
  | cons reply rest ih =>
      cases value : request.value? reply with
      | some number => simp [search, value] at missing
      | none =>
          simp only [search, value] at missing ⊢
          rw [ih missing]

theorem search_append (request : Request) (first second : List String) :
    search request (first ++ second) =
      match (search request first).found with
      | some found => ⟨(search request first).refused, some found,
          (search request first).rest ++ second⟩
      | none => ⟨first ++ (search request second).refused, (search request second).found,
          (search request second).rest⟩ := by
  induction first with
  | nil => rfl
  | cons reply rest ih =>
      cases value : request.value? reply with
      | some number => simp [search, value]
      | none =>
          simp only [List.cons_append, search, value, ih]
          cases (search request rest).found <;> rfl

theorem take_ofScript (request : Request) (script : List String) :
    (ofScript script).take request =
      ⟨(search request script).refused, (search request script).found,
        ofScript (search request script).rest⟩ := rfl

/-- Only the order of use matters, not which replies were supplied and which are scripted. -/
theorem take_queue (replies : Replies) (request : Request) :
    (replies.take request).refused = (search request replies.queue).refused ∧
      (replies.take request).found = (search request replies.queue).found ∧
      (replies.take request).rest.queue = (search request replies.queue).rest := by
  rw [queue, search_append]
  cases found : (search request replies.supplied).found with
  | some usable => simp [take, found, queue]
  | none => simp [take, queue, search_of_found_none request _ found]

theorem search_rest (request : Request) (replies : List String) :
    (search request replies).rest <:+ replies := by
  induction replies with
  | nil => exact List.suffix_rfl
  | cons reply rest ih =>
      cases value : request.value? reply with
      | some number =>
          simp only [search, value]
          exact List.suffix_cons reply rest
      | none =>
          simp only [search, value]
          exact ih.trans (List.suffix_cons reply rest)

theorem take_of_found_none (replies : Replies) (request : Request)
    (missing : (replies.take request).found = none) :
    replies.take request = ⟨replies.queue, none, ⟨[], []⟩⟩ := by
  have unfound := (take_queue replies request).2.1.symm.trans missing
  cases supplied : (search request replies.supplied).found with
  | some usable => simp [take, supplied] at missing
  | none =>
      simp only [queue, search_append, supplied] at unfound
      simp [take, queue, search_of_found_none request _ supplied,
        search_of_found_none request _ unfound]

end Replies

namespace Journal

@[simp] theorem last?_record (journal : Journal) (notice : Notice) :
    (journal.record notice).last? = some notice := by
  simp [record, last?]

/-- The journal after a search has passed over the given replies. -/
def refuse (journal : Journal) (request : Request) (position : Position) (step : Nat)
    (replies : List String) : Journal :=
  replies.foldl
    (fun journal reply => journal.record ⟨.malformedReply request reply, position, step⟩) journal

def accept (journal : Journal) (request : Request) (position : Position) (step : Nat)
    (reply : String) : Journal :=
  if request.hasSurplus reply then journal.record ⟨.surplusCharacters reply, position, step⟩
  else journal

theorem refuse_append (journal : Journal) (request : Request) (position : Position) (step : Nat)
    (first second : List String) :
    journal.refuse request position step (first ++ second) =
      (journal.refuse request position step first).refuse request position step second := by
  simp [refuse, List.foldl_append]

end Journal

/-- At most one of the two modes is on. -/
def Counter.OneMode (counter : Counter) : Prop :=
  ¬ (counter.stringMode = true ∧ counter.skipNext = true)

namespace Machine

/-! Reading. -/

theorem foldl_note (machine : Machine) (request : Request) (replies : List String) :
    replies.foldl (fun machine reply => machine.note (.malformedReply request reply)) machine =
      { machine with
        journal := machine.journal.refuse request machine.position machine.steps replies } := by
  induction replies generalizing machine with
  | nil => rfl
  | cons reply rest ih => rw [List.foldl_cons, ih]; rfl

theorem read_of_found {machine : Machine} {request : Request} {reply : String} {value : Int64}
    (found : (machine.replies.take request).found = some (reply, value)) :
    machine.read request = (.done, { machine with
      stack := machine.stack.push value
      replies := (machine.replies.take request).rest
      journal := (machine.journal.refuse request machine.position machine.steps
        (machine.replies.take request).refused).accept request machine.position machine.steps
          reply }) := by
  simp only [read, found, foldl_note]
  by_cases surplus : request.hasSurplus reply
  · simp [surplus, Journal.accept, note, push, position]
  · simp [surplus, Journal.accept, push, position]

/-- The machine after it has refused all of its replies. -/
def waiting (machine : Machine) (request : Request) : Machine :=
  { machine with
    replies := ⟨[], []⟩
    journal := machine.journal.refuse request machine.position machine.steps
      machine.replies.queue }

theorem read_of_missing {machine : Machine} {request : Request}
    (missing : (machine.replies.take request).found = none) :
    machine.read request = (.suspended request, machine.waiting request) := by
  simp only [read, missing, foldl_note]
  rw [Replies.take_of_found_none machine.replies request missing]
  rfl

/-! Executing. -/

/-- A cell value is executed as the given instruction: it is neither quoted nor passed over. -/
structure Dispatches (machine : Machine) (value : Int64) (instruction : Instruction) : Prop where
  unquoted : machine.counter.stringMode = false
  unskipped : machine.counter.skipNext = false
  decoded : Instruction.decode machine.extended value = some instruction

/-- The ways in which a machine may take a cell value. -/
inductive Role (machine : Machine) (value : Int64) : Prop where
  | closing (quoted : machine.counter.stringMode = true) (quote : value = Instruction.quote)
  | quoted (quoted : machine.counter.stringMode = true) (other : value ≠ Instruction.quote)
  | skipped (unquoted : machine.counter.stringMode = false)
      (skipped : machine.counter.skipNext = true)
  | invalid (unquoted : machine.counter.stringMode = false)
      (unskipped : machine.counter.skipNext = false)
      (undecoded : Instruction.decode machine.extended value = none)
  | dispatched {instruction : Instruction} (dispatched : machine.Dispatches value instruction)

theorem role (machine : Machine) (value : Int64) : Role machine value := by
  cases quoted : machine.counter.stringMode with
  | true =>
      by_cases closing : value = Instruction.quote
      · exact .closing quoted closing
      · exact .quoted quoted closing
  | false =>
      cases skipped : machine.counter.skipNext with
      | true => exact .skipped quoted skipped
      | false =>
          cases decoded : Instruction.decode machine.extended value with
          | none => exact .invalid quoted skipped decoded
          | some instruction => exact .dispatched ⟨quoted, skipped, decoded⟩

section Roles
variable {machine : Machine} {value : Int64}

theorem execute_of_closing (quoted : machine.counter.stringMode = true)
    (quote : value = Instruction.quote) :
    machine.execute value = (.ok .done, { machine with counter.stringMode := false }) := by
  simp [execute, quoted, quote]

theorem execute_of_quoted (quoted : machine.counter.stringMode = true)
    (other : value ≠ Instruction.quote) :
    machine.execute value = (.ok .done, machine.push value) := by
  simp [execute, quoted, other]

theorem execute_of_skipped (unquoted : machine.counter.stringMode = false)
    (skipped : machine.counter.skipNext = true) :
    machine.execute value = (.ok .done, { machine with counter.skipNext := false }) := by
  simp [execute, unquoted, skipped]

theorem execute_of_invalid (unquoted : machine.counter.stringMode = false)
    (unskipped : machine.counter.skipNext = false)
    (undecoded : Instruction.decode machine.extended value = none) :
    machine.execute value = (.ok .done, machine.note (.invalidInstruction value)) := by
  simp [execute, unquoted, unskipped, undecoded]

theorem execute_of_dispatches {instruction : Instruction}
    (dispatched : machine.Dispatches value instruction) :
    machine.execute value = machine.perform instruction := by
  simp [execute, dispatched.unquoted, dispatched.unskipped, dispatched.decoded]

end Roles

/-- What no instruction changes. Its one effect on the playfield is on values. -/
structure Kept (before after : Machine) : Prop where
  position : after.counter.position = before.counter.position
  state : after.state = before.state
  steps : after.steps = before.steps
  extended : after.extended = before.extended
  width : after.grid.width = before.grid.width
  height : after.grid.height = before.grid.height
  breakpoint : ∀ place, (after.grid.cell place).breakpoint = (before.grid.cell place).breakpoint

/-- How an instruction ends. Only dispatched instructions end a program or wait for a reply. -/
inductive Outcome (before : Machine) (value : Int64) :
    Except ArithmeticFault Flow × Machine → Prop where
  | done {after : Machine} (kept : Kept before after)
      (running : after.counter.halted = before.counter.halted)
      (modes : before.counter.OneMode → after.counter.OneMode)
      (queue : after.replies.queue <:+ before.replies.queue) :
      Outcome before value (.ok .done, after)
  | halted (dispatched : before.Dispatches value .halt) :
      Outcome before value (.ok .done, { before with counter.halted := true }.note .completed)
  | suspended {request : Request} (dispatched : before.Dispatches value (.read request))
      (missing : (before.replies.take request).found = none) :
      Outcome before value (.ok (.suspended request), before.waiting request)
  | fault {operator : Operator} (dispatched : before.Dispatches value (.arithmetic operator))
      (divides : operator = .divide ∨ operator = .remainder) (zero : before.stack.top = 0) :
      Outcome before value (.error ⟨operator, before.position⟩, before.pop.pop)

-- Most instructions leave the playfield, the replies and the modes alone.
theorem Outcome.of_update (before : Machine) (value : Int64) (stack : Stack) (heading : Heading)
    (generator : Generator) (output : Output) (journal : Journal) :
    Outcome before value (.ok .done,
      { before with stack, counter.heading := heading, generator, output, journal }) :=
  .done ⟨rfl, rfl, rfl, rfl, rfl, rfl, fun _ => rfl⟩ rfl id List.suffix_rfl

theorem Outcome.of_modes (before : Machine) (value : Int64) (stringMode skipNext : Bool)
    (modes : stringMode = false ∨ skipNext = false) :
    Outcome before value (.ok .done,
      { before with counter.stringMode := stringMode, counter.skipNext := skipNext }) := by
  refine .done ⟨rfl, rfl, rfl, rfl, rfl, rfl, fun _ => rfl⟩ rfl ?_ List.suffix_rfl
  intro _ both
  rcases modes with off | off
  · exact Bool.false_ne_true (off.symm.trans both.1)
  · exact Bool.false_ne_true (off.symm.trans both.2)

theorem apply_eq_none {operator : Operator} {a b : Int64} (undefined : operator.apply a b = none) :
    (operator = .divide ∨ operator = .remainder) ∧ b = 0 := by
  cases operator with
  | divide => simpa [Operator.apply] using undefined
  | remainder => simpa [Operator.apply] using undefined
  | add => simp [Operator.apply] at undefined
  | subtract => simp [Operator.apply] at undefined
  | multiply => simp [Operator.apply] at undefined

theorem perform_outcome {machine : Machine} {value : Int64} {instruction : Instruction}
    (dispatched : machine.Dispatches value instruction) :
    Outcome machine value (machine.perform instruction) := by
  cases instruction with
  | arithmetic operator =>
      simp only [perform, calculate]
      split
      · exact .of_update ..
      · rename_i undefined
        obtain ⟨divides, zero⟩ := apply_eq_none undefined
        exact .fault dispatched divides zero
  | read request =>
      simp only [perform]
      cases found : (machine.replies.take request).found with
      | some usable =>
          rw [read_of_found found]
          refine .done ⟨rfl, rfl, rfl, rfl, rfl, rfl, fun _ => rfl⟩ rfl id ?_
          have rest := (machine.replies.take_queue request).2.2
          exact rest ▸ Replies.search_rest request machine.replies.queue
      | none =>
          rw [read_of_missing found]
          exact .suspended dispatched found
  | printCharacter =>
      simp only [perform, printCharacter]
      split
      · exact .of_update ..
      · exact .of_update ..
  | put =>
      refine .done ⟨rfl, rfl, rfl, rfl, rfl, rfl, ?_⟩ rfl id List.suffix_rfl
      intro place
      exact machine.grid.breakpoint_setValue machine.target place machine.stack.rest.rest.top
  -- Dispatching means that the other mode is off.
  | openString => exact .of_modes _ _ true _ (Or.inr dispatched.unskipped)
  | bridge => exact .of_modes _ _ _ true (Or.inl dispatched.unquoted)
  | halt => exact .halted dispatched
  | _ => exact .of_update ..

theorem execute_outcome (machine : Machine) (value : Int64) :
    Outcome machine value (machine.execute value) := by
  cases machine.role value with
  | closing quoted quote =>
      rw [execute_of_closing quoted quote]
      exact .of_modes _ _ false _ (Or.inl rfl)
  | quoted quoted other =>
      rw [execute_of_quoted quoted other]
      exact .of_update ..
  | skipped unquoted skipped =>
      rw [execute_of_skipped unquoted skipped]
      exact .of_modes _ _ _ false (Or.inr rfl)
  | invalid unquoted unskipped undecoded =>
      rw [execute_of_invalid unquoted unskipped undecoded]
      exact .of_update ..
  | dispatched dispatched =>
      rw [execute_of_dispatches dispatched]
      exact perform_outcome dispatched

theorem execute_kept (machine : Machine) (value : Int64) :
    Kept machine (machine.execute value).2 := by
  have outcome := machine.execute_outcome value
  generalize machine.execute value = executed at outcome
  cases outcome with
  | done kept _ _ _ => exact kept
  | halted _ => exact ⟨rfl, rfl, rfl, rfl, rfl, rfl, fun _ => rfl⟩
  | suspended _ _ => exact ⟨rfl, rfl, rfl, rfl, rfl, rfl, fun _ => rfl⟩
  | fault _ _ _ => exact ⟨rfl, rfl, rfl, rfl, rfl, rfl, fun _ => rfl⟩

theorem dispatches_of_suspended {machine : Machine} {value : Int64} {request : Request}
    (waits : (machine.execute value).1 = .ok (.suspended request)) :
    machine.Dispatches value (.read request) ∧ (machine.replies.take request).found = none ∧
      (machine.execute value).2 = machine.waiting request := by
  have outcome := machine.execute_outcome value
  generalize machine.execute value = executed at outcome waits
  cases outcome with
  | done _ _ _ _ => cases waits
  | halted _ => cases waits
  | suspended dispatched missing =>
      cases waits
      exact ⟨dispatched, missing, rfl⟩
  | fault _ _ _ => cases waits

/-! Stepping. -/

/-- A step of this machine executes something. -/
def Active (machine : Machine) : Prop :=
  machine.state ≠ .paused ∧ machine.state ≠ .halted

def finish (executed : Except ArithmeticFault Flow × Machine) : StepResult × Machine :=
  match executed.1 with
  | .ok .done => (.ok executed.2.complete.state, executed.2.complete)
  | .ok (.suspended request) =>
      (.ok (.awaiting request), { executed.2 with state := .awaiting request })
  | .error fault => (.error fault, executed.2.stop fault)

theorem step_of_active {machine : Machine} (active : machine.Active) :
    machine.step = finish (machine.execute machine.current.value) := by
  unfold step
  split
  · rename_i paused
    exact absurd paused active.1
  · rename_i halted
    exact absurd halted active.2
  · rfl

theorem step_of_not_active {machine : Machine} (idle : ¬ machine.Active) :
    machine.step = (.ok machine.state, machine) := by
  unfold step
  split
  · rename_i paused
    rw [paused]
  · rename_i halted
    rw [halted]
  · rename_i notPaused notHalted
    exact absurd ⟨notPaused, notHalted⟩ idle

theorem active_of_running {machine : Machine} (running : machine.state = .running) :
    machine.Active := by
  simp [Active, running]

theorem active_of_awaiting {machine : Machine} {request : Request}
    (awaiting : machine.state = .awaiting request) : machine.Active := by
  simp [Active, awaiting]

theorem active_iff (machine : Machine) :
    machine.Active ↔ machine.state = .running ∨ ∃ request, machine.state = .awaiting request := by
  cases state : machine.state with
  | running => simp [Active, state]
  | paused => simp [Active, state]
  | awaiting request => simp [Active, state]
  | halted => simp [Active, state]

theorem waits_or_busy (machine : Machine) :
    (∃ request, machine.state = .awaiting request) ∨
      ∀ request, machine.state ≠ .awaiting request := by
  cases machine.state with
  | awaiting request => exact Or.inl ⟨request, rfl⟩
  | running | paused | halted => exact Or.inr nofun

theorem resume_of_not_paused {machine : Machine} (unpaused : machine.state ≠ .paused) :
    machine.resume = machine := by
  unfold resume
  split
  · rename_i paused
    exact absurd paused unpaused
  · rfl

theorem resume_of_paused {machine : Machine} (paused : machine.state = .paused) :
    machine.resume = { machine with state := .running } := by
  simp [resume, paused]

theorem resume_not_paused (machine : Machine) : machine.resume.state ≠ .paused := by
  by_cases paused : machine.state = .paused
  · simp [resume_of_paused paused]
  · rw [resume_of_not_paused paused]
    exact paused

theorem resume_resume (machine : Machine) : machine.resume.resume = machine.resume :=
  resume_of_not_paused machine.resume_not_paused

theorem resume_frame (machine : Machine) : ∃ state, machine.resume = { machine with state } := by
  by_cases paused : machine.state = .paused
  · exact ⟨.running, resume_of_paused paused⟩
  · exact ⟨machine.state, resume_of_not_paused paused⟩

theorem supply_of_awaiting {machine : Machine} {request : Request} (reply : String)
    (awaiting : machine.state = .awaiting request) :
    machine.supply reply = { machine with
      replies := machine.replies.supply reply
      state := .running } := by
  simp [supply, awaiting]

theorem supply_of_not_awaiting {machine : Machine} (reply : String)
    (busy : ∀ request, machine.state ≠ .awaiting request) :
    machine.supply reply = { machine with replies := machine.replies.supply reply } := by
  -- The equation of the last case has `busy` as its condition.
  simp only [supply]

theorem complete_of_halted {machine : Machine} (halted : machine.counter.halted = true) :
    machine.complete = { machine with steps := machine.steps + 1, state := .halted } := by
  simp [complete, halted]

def moved (machine : Machine) : Machine := { machine with steps := machine.steps + 1 }.advance

theorem complete_of_running {machine : Machine} (running : machine.counter.halted = false) :
    machine.complete = { machine.moved with
      state := if machine.moved.current.breakpoint then .paused else .running } := by
  simp only [complete, running, Bool.false_eq_true, ↓reduceIte]
  rfl

theorem step_of_done {machine after : Machine} (active : machine.Active)
    (executed : machine.execute machine.current.value = (.ok .done, after))
    (running : after.counter.halted = false) :
    let state : RunState := if after.moved.current.breakpoint then .paused else .running
    machine.step = (.ok state, { after.moved with state }) := by
  rw [step_of_active active, executed, finish, complete_of_running running]

-- Completing an instruction moves the counter and counts the step; it touches nothing else.
theorem complete_frame (machine : Machine) : ∃ position state,
    machine.complete =
      { machine with counter.position := position, state, steps := machine.steps + 1 } := by
  cases halted : machine.counter.halted with
  | true => exact ⟨machine.position, .halted, complete_of_halted halted⟩
  | false => exact ⟨_, _, complete_of_running halted⟩

theorem finish_frame (executed : Except ArithmeticFault Flow × Machine) :
    (finish executed).2.grid = executed.2.grid ∧
      (finish executed).2.replies = executed.2.replies := by
  rcases executed with ⟨fault | _ | request, after⟩
  · exact ⟨rfl, rfl⟩
  · obtain ⟨position, state, complete⟩ := after.complete_frame
    simp only [finish, complete, and_self]
  · exact ⟨rfl, rfl⟩

theorem complete_not_awaiting (machine : Machine) (request : Request) :
    machine.complete.state ≠ .awaiting request := by
  cases halted : machine.counter.halted with
  | true =>
      rw [complete_of_halted halted]
      exact nofun
  | false =>
      rw [complete_of_running halted]
      dsimp only
      split <;> exact nofun

theorem step_state {machine : Machine} {state : RunState} (result : machine.step.1 = .ok state) :
    machine.step.2.state = state := by
  by_cases active : machine.Active
  · rw [step_of_active active] at result ⊢
    generalize machine.execute machine.current.value = executed at result
    rcases executed with ⟨fault | _ | request, after⟩
    · cases result
    · exact Except.ok.inj result
    · exact Except.ok.inj result
  · rw [step_of_not_active active] at result ⊢
    exact Except.ok.inj result

/-- A step of an active machine counts unless it has to wait. -/
inductive Counted (machine : Machine) : Prop where
  | counts (steps : machine.step.2.steps = machine.steps + 1)
      (ends : ∀ request, machine.step.1 ≠ .ok (.awaiting request))
  | waits (steps : machine.step.2.steps = machine.steps) (request : Request)
      (suspended : (machine.execute machine.current.value).1 = .ok (.suspended request))
      (result : machine.step.1 = .ok (.awaiting request))

theorem counted {machine : Machine} (active : machine.Active) : Counted machine := by
  have kept := machine.execute_kept machine.current.value
  have stepped := step_of_active active
  rcases executed : machine.execute machine.current.value with ⟨fault | _ | request, after⟩
  · rw [executed] at kept stepped
    refine .counts ?_ ?_
    · rw [stepped]
      exact congrArg (· + 1) kept.steps
    · rw [stepped]
      exact nofun
  · rw [executed] at kept stepped
    refine .counts ?_ ?_
    · obtain ⟨position, state, complete⟩ := after.complete_frame
      rw [stepped]
      simp only [finish, complete]
      exact congrArg (· + 1) kept.steps
    · intro request waits
      rw [stepped, finish, Except.ok.injEq] at waits
      exact after.complete_not_awaiting request waits
  · rw [executed] at kept stepped
    refine .waits ?_ request (congrArg Prod.fst executed) ?_
    · rw [stepped]
      exact kept.steps
    · rw [stepped, finish]

-- Replies are used from the front.
theorem step_queue (machine : Machine) :
    machine.step.2.replies.queue <:+ machine.replies.queue := by
  by_cases active : machine.Active
  · rw [step_of_active active, (finish_frame _).2]
    have outcome := machine.execute_outcome machine.current.value
    generalize machine.execute machine.current.value = executed at outcome
    cases outcome with
    | done _ _ _ queue => exact queue
    | halted _ => exact List.suffix_rfl
    | suspended _ _ => exact List.nil_suffix
    | fault _ _ _ => exact List.suffix_rfl
  · exact ⟨[], by rw [step_of_not_active active, List.nil_append]⟩

/-! Calls of a host. A call of `run` may never return, so that a call leads to a machine is a
relation. -/

inductive Call where
  | step
  | run (limit : Option Nat)
  | resume
  | supply (reply : String)

/-- What a call returns, if it returns anything, and the machine after it. -/
inductive Answers : Machine → Call → Option StepResult → Machine → Prop where
  | step (machine : Machine) : Answers machine .step (some machine.step.1) machine.step.2
  | run {machine after : Machine} {limit : Option Nat} {result : StepResult} (fuel : Nat)
      (finished : machine.run limit fuel = some (result, after)) :
      Answers machine (.run limit) (some result) after
  | resume (machine : Machine) : Answers machine .resume none machine.resume
  | supply (machine : Machine) (reply : String) :
      Answers machine (.supply reply) none (machine.supply reply)

/-- The second machine is the first one after some calls. -/
inductive Driven (first : Machine) : Machine → Prop where
  | start : Driven first first
  | call {machine after : Machine} {call : Call} {result : Option StepResult}
      (earlier : Driven first machine) (answered : Answers machine call result after) :
      Driven first after

theorem runTo_keeps {property : Machine → Prop}
    (step : ∀ machine, property machine → property machine.step.2)
    (goal : Option Nat) (fuel : Nat) (machine : Machine) (result : StepResult) (after : Machine)
    (holds : property machine) (finished : runTo goal fuel machine = some (result, after)) :
    property after := by
  induction fuel generalizing machine with
  | zero => simp [runTo] at finished
  | succ fuel ih =>
      have next := step machine holds
      -- The run ends with this step or goes on after it; it has taken it in both cases.
      have ended : some machine.step = some (result, after) → property after := by
        intro last
        rw [Option.some.injEq] at last
        rwa [last] at next
      simp only [runTo] at finished
      split at finished
      · split at finished
        · exact ended finished
        · exact ih machine.step.2 next finished
      · exact ended finished

/-- A property that steps, resuming and supplied replies keep holds after all calls. -/
theorem driven_keeps {property : Machine → Prop}
    (step : ∀ machine, property machine → property machine.step.2)
    (resume : ∀ machine, property machine → property machine.resume)
    (supply : ∀ machine reply, property machine → property (machine.supply reply))
    {first machine : Machine} (initial : property first) (driven : Driven first machine) :
    property machine := by
  induction driven with
  | start => exact initial
  | call _ answered ih =>
      cases answered with
      | step => exact step _ ih
      | run fuel finished => exact runTo_keeps step _ fuel _ _ _ ih finished
      | resume => exact resume _ ih
      | supply reply => exact supply _ reply ih

end Machine

end Playfield
