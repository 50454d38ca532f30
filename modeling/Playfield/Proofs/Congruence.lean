import Playfield.Proofs.Execution

/-!
Comparing two machines. A congruence is a relation between machines that agree on everything
an instruction looks at and that is kept by everything an instruction does. Two instructions
are special: a random turn draws from the generator, and reading takes replies. Relations that
concern either say for themselves what happens there.

The relations in use are graphs of functions, such as clearing all breakpoints. For these the
conclusion is that executing commutes with the function.
-/

namespace Playfield.Machine

structure Congruence (related : Machine → Machine → Prop) : Prop where
  counter : ∀ {first second}, related first second → first.counter = second.counter
  extended : ∀ {first second}, related first second → first.extended = second.extended
  width : ∀ {first second}, related first second → first.grid.width = second.grid.width
  height : ∀ {first second}, related first second → first.grid.height = second.grid.height
  value : ∀ {first second}, related first second →
    ∀ place, (first.grid.cell place).value = (second.grid.cell place).value
  top : ∀ {first second}, related first second → first.stack.top = second.stack.top
  push : ∀ {first second}, related first second →
    ∀ value, related (first.push value) (second.push value)
  pop : ∀ {first second}, related first second → related first.pop second.pop
  move : ∀ {first second}, related first second →
    ∀ counter, related { first with counter } { second with counter }
  note : ∀ {first second}, related first second →
    ∀ cause, related (first.note cause) (second.note cause)
  printNumber : ∀ {first second}, related first second →
    ∀ value, related { first with output := first.output.printNumber value }
      { second with output := second.output.printNumber value }
  printChar : ∀ {first second}, related first second →
    ∀ character, related { first with output := first.output.printChar character }
      { second with output := second.output.printChar character }
  put : ∀ {first second}, related first second →
    ∀ place value, related { first with grid := first.grid.setValue place value }
      { second with grid := second.grid.setValue place value }

namespace Congruence

variable {related : Machine → Machine → Prop} {first second : Machine}

theorem target (congruence : Congruence related) (same : related first second) :
    first.target = second.target := by
  have upper := congruence.top same
  have lower : first.stack.rest.top = second.stack.rest.top := congruence.top (congruence.pop same)
  simp only [Machine.target, Grid.wrapPosition, upper, lower, congruence.width same,
    congruence.height same]

theorem turn (congruence : Congruence related) (same : related first second) (heading : Heading) :
    related (first.turn heading) (second.turn heading) := by
  unfold Machine.turn
  rw [← congruence.counter same]
  exact congruence.move same _

theorem perform (congruence : Congruence related) (same : related first second)
    (instruction : Instruction)
    (drawn : instruction = .goRandom → first.generator = second.generator ∧
      ∀ generator, related { first with generator } { second with generator })
    (read : ∀ request, instruction = .read request →
      (first.read request).1 = (second.read request).1 ∧
        related (first.read request).2 (second.read request).2) :
    (first.perform instruction).1 = (second.perform instruction).1 ∧
      related (first.perform instruction).2 (second.perform instruction).2 := by
  have counter := congruence.counter same
  have top := congruence.top same
  have popped := congruence.pop same
  have lower : first.stack.rest.top = second.stack.rest.top := congruence.top popped
  have twice := congruence.pop popped
  cases instruction with
  | literal value => exact ⟨rfl, congruence.push same value⟩
  | arithmetic operator =>
      simp only [Machine.perform, calculate, top, lower]
      cases operator.apply second.stack.rest.top second.stack.top with
      | some result => exact ⟨rfl, congruence.push twice result⟩
      | none => exact ⟨by simp only [position, counter], twice⟩
  | isZero =>
      simp only [Machine.perform, top, true_and]
      exact congruence.push popped _
  | greater =>
      simp only [Machine.perform, top, lower, true_and]
      exact congruence.push twice _
  | go heading => exact ⟨rfl, congruence.turn same heading⟩
  | goRandom =>
      obtain ⟨generator, kept⟩ := drawn rfl
      simp only [Machine.perform, generator, true_and]
      exact congruence.turn (kept _) _
  | branchHorizontal =>
      simp only [Machine.perform, top, true_and]
      exact congruence.turn popped _
  | branchVertical =>
      simp only [Machine.perform, top, true_and]
      exact congruence.turn popped _
  | duplicate =>
      simp only [Machine.perform, top, true_and]
      exact congruence.push (congruence.push popped _) _
  | discard => exact ⟨rfl, popped⟩
  | printNumber =>
      simp only [Machine.perform, top, true_and]
      exact congruence.printNumber popped _
  | printCharacter =>
      simp only [Machine.perform, printCharacter, top, true_and]
      split
      · exact congruence.printChar popped _
      · exact congruence.printChar (congruence.note popped _) _
  | read request =>
      obtain ⟨flow, kept⟩ := read request rfl
      exact ⟨congrArg Except.ok flow, kept⟩
  | get =>
      simp only [Machine.perform, congruence.target same, congruence.value same, true_and]
      exact congruence.push twice _
  | put =>
      have value : first.stack.rest.rest.top = second.stack.rest.rest.top := congruence.top twice
      simp only [Machine.perform, congruence.target same, value, true_and]
      exact congruence.put (congruence.pop twice) _ _
  | openString =>
      simp only [Machine.perform, counter, true_and]
      exact congruence.move same _
  | bridge =>
      simp only [Machine.perform, counter, true_and]
      exact congruence.move same _
  | pass => exact ⟨rfl, same⟩
  | halt =>
      simp only [Machine.perform, counter, true_and]
      exact congruence.note (congruence.move same _) _

theorem execute (congruence : Congruence related) (same : related first second) (value : Int64)
    (drawn : first.Dispatches value .goRandom → first.generator = second.generator ∧
      ∀ generator, related { first with generator } { second with generator })
    (read : ∀ request, first.Dispatches value (.read request) →
      (first.read request).1 = (second.read request).1 ∧
        related (first.read request).2 (second.read request).2) :
    (first.execute value).1 = (second.execute value).1 ∧
      related (first.execute value).2 (second.execute value).2 := by
  have counter := congruence.counter same
  have extended := congruence.extended same
  cases first.role value with
  | closing quoted quote =>
      rw [execute_of_closing quoted quote]
      rw [counter] at quoted
      rw [execute_of_closing quoted quote, counter]
      exact ⟨rfl, congruence.move same _⟩
  | quoted quoted other =>
      rw [execute_of_quoted quoted other]
      rw [counter] at quoted
      rw [execute_of_quoted quoted other]
      exact ⟨rfl, congruence.push same value⟩
  | skipped unquoted skipped =>
      rw [execute_of_skipped unquoted skipped]
      rw [counter] at unquoted skipped
      rw [execute_of_skipped unquoted skipped, counter]
      exact ⟨rfl, congruence.move same _⟩
  | invalid unquoted unskipped undecoded =>
      rw [execute_of_invalid unquoted unskipped undecoded]
      rw [counter] at unquoted unskipped
      rw [extended] at undecoded
      rw [execute_of_invalid unquoted unskipped undecoded]
      exact ⟨rfl, congruence.note same _⟩
  | @dispatched instruction dispatched =>
      have alsoDispatched : second.Dispatches value instruction := by
        obtain ⟨unquoted, unskipped, decoded⟩ := dispatched
        rw [counter] at unquoted unskipped
        rw [extended] at decoded
        exact ⟨unquoted, unskipped, decoded⟩
      rw [execute_of_dispatches dispatched, execute_of_dispatches alsoDispatched]
      apply congruence.perform same instruction
      · intro random
        subst random
        exact drawn dispatched
      · intro request reading
        subst reading
        exact read request dispatched

-- Reading takes replies, records the refused ones and pushes a value.
theorem read (congruence : Congruence related) (replies : first.replies = second.replies)
    (kept : ∀ replies, related { first with replies } { second with replies })
    (request : Request) :
    (first.read request).1 = (second.read request).1 ∧
      related (first.read request).2 (second.read request).2 := by
  let record (machine : Machine) (reply : String) := machine.note (.malformedReply request reply)
  have noted : ∀ (refused : List String) {left right : Machine}, related left right →
      related (refused.foldl record left) (refused.foldl record right) := by
    intro refused
    induction refused with
    | nil => exact id
    | cons reply rest ih =>
        intro left right same
        exact ih (congruence.note same _)
  simp only [Machine.read, ← replies]
  have after := noted (first.replies.take request).refused (kept (first.replies.take request).rest)
  cases (first.replies.take request).found with
  | none => exact ⟨rfl, after⟩
  | some usable =>
      refine ⟨rfl, congruence.push ?_ usable.2⟩
      split
      · exact congruence.note after _
      · exact after

-- For the graph of a function the two runs are one run and its image.
theorem execute_map {change : Machine → Machine}
    (congruence : Congruence fun first second => second = change first)
    (machine : Machine) (value : Int64)
    (drawn : machine.generator = (change machine).generator ∧
      ∀ generator, { change machine with generator } = change { machine with generator })
    (read : ∀ request, machine.Dispatches value (.read request) →
      (change machine).read request =
        ((machine.read request).1, change (machine.read request).2)) :
    (change machine).execute value =
      ((machine.execute value).1, change (machine.execute value).2) := by
  have both := congruence.execute rfl value (fun _ => drawn) (by
    intro request dispatched
    rw [read request dispatched]
    exact ⟨rfl, rfl⟩)
  exact Prod.ext both.1.symm both.2

theorem read_map {change : Machine → Machine}
    (congruence : Congruence fun first second => second = change first)
    (machine : Machine) (replies : machine.replies = (change machine).replies)
    (kept : ∀ replies, { change machine with replies } = change { machine with replies })
    (request : Request) :
    (change machine).read request =
      ((machine.read request).1, change (machine.read request).2) := by
  have both := congruence.read replies kept request
  exact Prod.ext both.1.symm both.2

end Congruence

theorem resume_map (change : Machine → Machine) (machine : Machine)
    (state : (change machine).state = machine.state)
    (running : { change machine with state := .running } =
      change { machine with state := .running }) :
    (change machine).resume = change machine.resume := by
  by_cases paused : machine.state = .paused
  · rw [resume_of_paused paused, resume_of_paused (state.trans paused), running]
  · rw [resume_of_not_paused paused, resume_of_not_paused (state ▸ paused)]

/-! The state of a machine. A step of an active machine ends in a state of its own, so the one
that it started in leaves no trace. -/

def withState (machine : Machine) (state : RunState) : Machine := { machine with state }

theorem withState_congruence (state : RunState) :
    Congruence fun first second => second = first.withState state := by
  constructor <;> rintro first _ rfl
  all_goals intros
  all_goals rfl

theorem execute_withState (machine : Machine) (state : RunState) (value : Int64) :
    (machine.withState state).execute value =
      ((machine.execute value).1, (machine.execute value).2.withState state) :=
  (withState_congruence state).execute_map machine value ⟨rfl, fun _ => rfl⟩
    (fun request _ => (withState_congruence state).read_map machine rfl (fun _ => rfl) request)

theorem complete_withState (machine : Machine) (state : RunState) :
    (machine.withState state).complete = machine.complete := by
  cases halted : machine.counter.halted with
  | true =>
      have alsoHalted : (machine.withState state).counter.halted = true := halted
      rw [complete_of_halted halted, complete_of_halted alsoHalted]
      rfl
  | false =>
      have alsoRunning : (machine.withState state).counter.halted = false := halted
      rw [complete_of_running halted, complete_of_running alsoRunning]
      rfl

theorem finish_withState (result : Except ArithmeticFault Flow) (machine : Machine)
    (state : RunState) : finish (result, machine.withState state) = finish (result, machine) := by
  cases result with
  | error fault => rfl
  | ok flow =>
      cases flow with
      | done => simp only [finish, complete_withState]
      | suspended request => rfl

theorem step_withState {machine : Machine} {state : RunState} (active : machine.Active)
    (alsoActive : (machine.withState state).Active) :
    (machine.withState state).step = machine.step := by
  rw [step_of_active active, step_of_active alsoActive]
  have current : (machine.withState state).current = machine.current := rfl
  rw [current, execute_withState, finish_withState]

end Playfield.Machine
