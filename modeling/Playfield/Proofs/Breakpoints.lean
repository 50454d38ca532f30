import Playfield.Proofs.Congruence

/-!
Breakpoints stop a host and nothing else. Clearing all of them commutes with every step, up to
the one state that a breakpoint causes; so two machines whose playfields differ in breakpoints
only are told apart by nothing that a program computes.
-/

namespace Playfield

def RunState.unpaused : RunState → RunState
  | .paused => .running
  | state => state

def StepResult.unpaused (result : StepResult) : StepResult := result.map RunState.unpaused

theorem RunState.unpaused_of_ne {state : RunState} (other : state ≠ .paused) :
    state.unpaused = state := by
  cases state with
  | paused => exact absurd rfl other
  | running | awaiting | halted => rfl

namespace Machine

def unmarked (machine : Machine) : Machine := { machine with grid := machine.grid.unmarked }

theorem unmarked_congruence : Congruence fun first second => second = first.unmarked where
  counter := by rintro first _ rfl; rfl
  extended := by rintro first _ rfl; rfl
  width := by rintro first _ rfl; rfl
  height := by rintro first _ rfl; rfl
  value := by
    rintro first _ rfl place
    exact first.grid.sameValues_unmarked.2.2 place
  top := by rintro first _ rfl; rfl
  push := by rintro first _ rfl value; rfl
  pop := by rintro first _ rfl; rfl
  move := by rintro first _ rfl counter; rfl
  note := by rintro first _ rfl cause; rfl
  printNumber := by rintro first _ rfl value; rfl
  printChar := by rintro first _ rfl character; rfl
  put := by
    rintro first _ rfl place value
    simp only [unmarked, Grid.unmarked_setValue]

theorem execute_unmarked (machine : Machine) (value : Int64) :
    machine.unmarked.execute value =
      ((machine.execute value).1, (machine.execute value).2.unmarked) :=
  unmarked_congruence.execute_map machine value ⟨rfl, fun _ => rfl⟩
    (fun request _ => unmarked_congruence.read_map machine rfl (fun _ => rfl) request)

theorem resume_state (machine : Machine) : machine.resume.state = machine.state.unpaused := by
  by_cases paused : machine.state = .paused
  · rw [resume_of_paused paused, paused]
    rfl
  · rw [resume_of_not_paused paused, RunState.unpaused_of_ne paused]

theorem resume_unmarked (machine : Machine) : machine.unmarked.resume = machine.resume.unmarked :=
  resume_map unmarked machine rfl rfl

theorem supply_unmarked (machine : Machine) (reply : String) :
    machine.unmarked.supply reply = (machine.supply reply).unmarked := by
  simp only [supply, unmarked]
  cases machine.state <;> rfl

-- A breakpoint is looked at in one place, and what it changes there is undone by resuming.
theorem complete_unmarked (machine : Machine) :
    machine.unmarked.complete = machine.complete.unmarked.resume := by
  cases halted : machine.counter.halted with
  | true =>
      have alsoHalted : machine.unmarked.counter.halted = true := halted
      rw [complete_of_halted halted, complete_of_halted alsoHalted]
      rfl
  | false =>
      have alsoRunning : machine.unmarked.counter.halted = false := halted
      have clear : machine.unmarked.moved.current.breakpoint = false :=
        congrArg Cell.breakpoint (machine.moved.grid.cell_unmarked machine.moved.position)
      rw [complete_of_running halted, complete_of_running alsoRunning, clear]
      cases machine.moved.current.breakpoint <;> rfl

theorem step_unmarked {machine : Machine} (unpaused : machine.state ≠ .paused) :
    machine.unmarked.step = (machine.step.1.unpaused, machine.step.2.unmarked.resume) := by
  by_cases active : machine.Active
  · have alsoActive : machine.unmarked.Active := active
    have value : machine.unmarked.current.value = machine.current.value :=
      (machine.grid.sameValues_unmarked.2.2 machine.position).symm
    rw [step_of_active active, step_of_active alsoActive, value, execute_unmarked]
    rcases machine.execute machine.current.value with ⟨_ | _ | request, after⟩
    · rfl
    · simp only [finish, complete_unmarked, resume_state]
      rfl
    · rfl
  · have alsoIdle : ¬ machine.unmarked.Active := active
    have alsoUnpaused : machine.unmarked.state ≠ .paused := unpaused
    rw [step_of_not_active active, step_of_not_active alsoIdle, resume_of_not_paused alsoUnpaused]
    exact congrArg (fun state => (Except.ok state, machine.unmarked))
      (RunState.unpaused_of_ne unpaused).symm

/-! Rounds of a host: it may supply replies, takes a step, and leaves a breakpoint at once. -/

def round (replies : List String) (machine : Machine) : StepResult × Machine :=
  let stepped := (replies.foldl supply machine).step
  (stepped.1, stepped.2.resume)

/-- Rounds with the given supplied replies, one list for each round: the results of all steps,
and the machine after the last one. -/
def rounds : List (List String) → Machine → List StepResult × Machine
  | [], machine => ([], machine)
  | replies :: later, machine =>
      let first := machine.round replies
      let rest := rounds later first.2
      (first.1 :: rest.1, rest.2)

theorem supplied_unmarked (replies : List String) (machine : Machine) :
    replies.foldl supply machine.unmarked = (replies.foldl supply machine).unmarked := by
  induction replies generalizing machine with
  | nil => rfl
  | cons reply rest ih => rw [List.foldl_cons, List.foldl_cons, supply_unmarked, ih]

theorem supplied_not_paused (replies : List String) (machine : Machine)
    (unpaused : machine.state ≠ .paused) : (replies.foldl supply machine).state ≠ .paused := by
  induction replies generalizing machine with
  | nil => exact unpaused
  | cons reply rest ih =>
      apply ih
      simp only [supply]
      split
      · simp
      · exact unpaused

theorem round_unmarked (replies : List String) (machine : Machine)
    (unpaused : machine.state ≠ .paused) :
    machine.unmarked.round replies =
      ((machine.round replies).1.unpaused, (machine.round replies).2.unmarked) := by
  have stepped := step_unmarked (supplied_not_paused replies machine unpaused)
  have resumed : ∀ after : Machine, after.unmarked.resume.resume = after.resume.unmarked := by
    intro after
    rw [resume_unmarked, resume_unmarked, resume_resume]
  simp only [round, supplied_unmarked, stepped, resumed]

theorem rounds_unmarked (feeds : List (List String)) (machine : Machine)
    (unpaused : machine.state ≠ .paused) :
    rounds feeds machine.unmarked =
      ((rounds feeds machine).1.map StepResult.unpaused, (rounds feeds machine).2.unmarked) := by
  induction feeds generalizing machine with
  | nil => rfl
  | cons replies later ih =>
      have next : (machine.round replies).2.state ≠ .paused :=
        resume_not_paused (replies.foldl supply machine).step.2
      simp only [rounds, round_unmarked replies machine unpaused, ih _ next, List.map_cons]

-- Two machines that have computed the same. Nothing is said about breakpoints and about the
-- state, in which a breakpoint may show, nor about the replies that are left.
structure Agrees (first second : Machine) : Prop where
  values : first.grid.SameValues second.grid
  stack : first.stack = second.stack
  counter : first.counter = second.counter
  generator : first.generator = second.generator
  output : first.output = second.output
  journal : first.journal = second.journal
  steps : first.steps = second.steps

theorem agrees_of_unmarked {first second : Machine} (same : first.unmarked = second.unmarked) :
    first.Agrees second := by
  simp only [unmarked, mk.injEq] at same
  obtain ⟨grid, stack, counter, _, _, generator, _, output, journal, steps⟩ := same
  exact ⟨(Grid.unmarked_eq_iff _ _).mp grid, stack, counter, generator, output, journal, steps⟩

/-! The breakpoints themselves. -/

theorem step_breakpoint (machine : Machine) (place : Position) :
    (machine.step.2.grid.cell place).breakpoint = (machine.grid.cell place).breakpoint := by
  by_cases active : machine.Active
  · rw [step_of_active active, (finish_frame _).1]
    exact (machine.execute_kept machine.current.value).breakpoint place
  · rw [step_of_not_active active]

theorem answers_breakpoint {machine after : Machine} {call : Call} {result : Option StepResult}
    (answered : Answers machine call result after) (place : Position) :
    (after.grid.cell place).breakpoint = (machine.grid.cell place).breakpoint := by
  cases answered with
  | step => exact machine.step_breakpoint place
  | run fuel finished =>
      have step : ∀ earlier : Machine,
          (earlier.grid.cell place).breakpoint = (machine.grid.cell place).breakpoint →
          (earlier.step.2.grid.cell place).breakpoint = (machine.grid.cell place).breakpoint := by
        intro earlier same
        rw [step_breakpoint]
        exact same
      exact runTo_keeps step _ fuel machine _ after rfl finished
  | resume =>
      simp only [resume]
      split <;> rfl
  | supply reply =>
      simp only [supply]
      split <;> rfl

/-- Two machines on playfields with equal values compute the same in equal rounds, whatever
their breakpoints, and no operation changes a breakpoint. -/
theorem breakpoints_irrelevant :
    (∀ (first second : Grid), first.SameValues second →
      ∀ (extended : Bool) (seed : UInt64) (script : List String) (feeds : List (List String)),
        let left := rounds feeds (start first extended seed script)
        let right := rounds feeds (start second extended seed script)
        left.2.Agrees right.2 ∧ left.2.replies = right.2.replies ∧
          left.1.map StepResult.unpaused = right.1.map StepResult.unpaused) ∧
    ∀ (machine : Machine) (place : Position),
      (∀ call result after, Answers machine call result after →
        (after.grid.cell place).breakpoint = (machine.grid.cell place).breakpoint) ∧
      (∀ value, ((machine.execute value).2.grid.cell place).breakpoint =
        (machine.grid.cell place).breakpoint) ∧
      (machine.takeOutput.2.grid.cell place).breakpoint =
        (machine.grid.cell place).breakpoint := by
  constructor
  · intro first second same extended seed script feeds left right
    have started : (start first extended seed script).unmarked =
        (start second extended seed script).unmarked := by
      simp only [start, unmarked, (Grid.unmarked_eq_iff first second).mpr same]
    have fromLeft := rounds_unmarked feeds (start first extended seed script) nofun
    have fromRight := rounds_unmarked feeds (start second extended seed script) nofun
    rw [started, fromRight, Prod.mk.injEq] at fromLeft
    exact ⟨agrees_of_unmarked fromLeft.2.symm, (congrArg replies fromLeft.2).symm,
      fromLeft.1.symm⟩
  · intro machine place
    exact ⟨fun _ _ _ answered => answers_breakpoint answered place,
      fun value => (machine.execute_kept value).breakpoint place, rfl⟩

/-- The program `&@` with and without a breakpoint on its second cell, and a reply supplied
before the first round. -/
theorem breakpoints_irrelevant_reading :
    let plain := Grid.ofRow 38 [64]
    let marked := plain.toggleBreakpoint ⟨1, 0⟩
    let left := rounds [["7"], []] (start plain false 0 [])
    let right := rounds [["7"], []] (start marked false 0 [])
    left.1 = [.ok .running, .ok .halted] ∧ right.1 = [.ok .paused, .ok .halted] ∧
      left.2.Agrees right.2 :=
  ⟨rfl, rfl, (breakpoints_irrelevant.1 _ _ (Grid.sameValues_toggleBreakpoint _ ⟨1, 0⟩)
    false 0 [] [["7"], []]).1⟩

end Machine

end Playfield
