import Mathlib.Algebra.Group.Nat.Defs
import Playfield.Proofs.Execution

/-!
What holds of a machine after any calls of its host. Programs overwrite their own cells, so an
invariant cannot speak about the program; it speaks about the cell under the counter at the
moment when the machine stopped there, and nothing can overwrite that cell while it stands.
-/

namespace Playfield.Machine

/-- The playfield keeps its sides, and the counter is inside it. -/
structure Within (grid : Grid) (machine : Machine) : Prop where
  width : machine.grid.width = grid.width
  height : machine.grid.height = grid.height
  size : machine.grid.cells.size = grid.width * grid.height
  column : machine.position.x < grid.width
  row : machine.position.y < grid.height

/-- The cell under the counter ended the program, and the last notice says so there. -/
structure Ended (machine : Machine) (notice : Notice) : Prop where
  last : machine.journal.last? = some notice
  position : notice.position = machine.position
  cause :
    (Instruction.decode machine.extended machine.current.value = some .halt ∧
      notice.cause = .completed ∧ notice.severity = .info) ∨
    ∃ operator, (operator = .divide ∨ operator = .remainder) ∧
      Instruction.decode machine.extended machine.current.value = some (.arithmetic operator) ∧
      notice.cause = .fault operator ∧ notice.severity = .error

structure Consistent (machine : Machine) : Prop where
  modes : machine.counter.OneMode
  halted : machine.counter.halted = true ↔ machine.state = .halted
  paused : machine.state = .paused → machine.current.breakpoint = true
  awaiting : ∀ request, machine.state = .awaiting request →
    machine.Dispatches machine.current.value (.read request) ∧
      machine.replies.supplied = [] ∧ machine.replies.script = []
  ended : machine.state = .halted → ∃ notice, machine.Ended notice

theorem Consistent.unhalted {machine : Machine} (consistent : machine.Consistent)
    (active : machine.Active) : machine.counter.halted = false := by
  cases halted : machine.counter.halted with
  | false => rfl
  | true => exact absurd (consistent.halted.mp halted) active.2

/-- While a machine runs, only its modes are constrained. -/
theorem Consistent.of_running {machine : Machine} (running : machine.state = .running)
    (modes : machine.counter.OneMode) (unhalted : machine.counter.halted = false) :
    machine.Consistent := by
  refine ⟨modes, ?_, ?_, ?_, ?_⟩
  · simp [running, unhalted]
  · simp [running]
  · simp [running]
  · simp [running]

theorem Consistent.of_ended {machine : Machine} (state : machine.state = .halted)
    (modes : machine.counter.OneMode) (halted : machine.counter.halted = true)
    {notice : Notice} (ended : machine.Ended notice) : machine.Consistent := by
  refine ⟨modes, ?_, ?_, ?_, fun _ => ⟨notice, ended⟩⟩
  · simp [state, halted]
  · simp [state]
  · simp [state]

theorem Consistent.of_awaiting {machine : Machine} {request : Request}
    (state : machine.state = .awaiting request) (unhalted : machine.counter.halted = false)
    (dispatched : machine.Dispatches machine.current.value (.read request))
    (replies : machine.replies = ⟨[], []⟩) : machine.Consistent := by
  refine ⟨?_, ?_, ?_, ?_, ?_⟩
  · intro both
    exact Bool.false_ne_true (dispatched.unquoted.symm.trans both.1)
  · simp [state, unhalted]
  · simp [state]
  · intro other waits
    rw [state] at waits
    cases waits
    exact ⟨dispatched, congrArg Replies.supplied replies, congrArg Replies.script replies⟩
  · simp [state]

/-! Steps. -/

theorem complete_consistent {machine : Machine} (modes : machine.counter.OneMode)
    (unhalted : machine.counter.halted = false) : machine.complete.Consistent := by
  rw [complete_of_running unhalted]
  by_cases marked : machine.moved.current.breakpoint = true
  · simp only [marked, ↓reduceIte]
    refine ⟨modes, ?_, fun _ => marked, ?_, ?_⟩
    · simp [moved, advance, unhalted]
    · simp
    · simp
  · simp only [marked, Bool.false_eq_true, ↓reduceIte]
    exact .of_running rfl modes unhalted

theorem halt_consistent {machine : Machine} (modes : machine.counter.OneMode)
    (dispatched : machine.Dispatches machine.current.value .halt) :
    ({ machine with counter.halted := true }.note .completed).complete.Consistent := by
  rw [complete_of_halted rfl]
  refine .of_ended rfl modes rfl ⟨Journal.last?_record _ _, rfl, ?_⟩
  exact Or.inl ⟨dispatched.decoded, rfl, rfl⟩

theorem stop_consistent {machine : Machine} {operator : Operator}
    (modes : machine.counter.OneMode)
    (dispatched : machine.Dispatches machine.current.value (.arithmetic operator))
    (divides : operator = .divide ∨ operator = .remainder) :
    (machine.pop.pop.stop ⟨operator, machine.position⟩).Consistent := by
  refine .of_ended rfl modes rfl ⟨Journal.last?_record _ _, rfl, ?_⟩
  exact Or.inr ⟨operator, divides, dispatched.decoded, rfl, rfl⟩

theorem step_consistent (machine : Machine) (consistent : machine.Consistent) :
    machine.step.2.Consistent := by
  by_cases active : machine.Active
  · have unhalted := consistent.unhalted active
    rw [step_of_active active]
    have outcome := machine.execute_outcome machine.current.value
    generalize machine.execute machine.current.value = executed at outcome
    cases outcome with
    | done kept running modes _ =>
        exact complete_consistent (modes consistent.modes) (running.trans unhalted)
    | halted dispatched => exact halt_consistent consistent.modes dispatched
    | suspended dispatched missing =>
        -- Suspending leaves the cell, the counter and both modes as they were.
        exact .of_awaiting rfl unhalted
          ⟨dispatched.unquoted, dispatched.unskipped, dispatched.decoded⟩ rfl
    | fault dispatched divides zero => exact stop_consistent consistent.modes dispatched divides
  · rw [step_of_not_active active]
    exact consistent

theorem resume_consistent (machine : Machine) (consistent : machine.Consistent) :
    machine.resume.Consistent := by
  by_cases paused : machine.state = .paused
  · have unhalted : machine.counter.halted = false := by
      apply Bool.eq_false_iff.mpr
      intro halted
      have ended := consistent.halted.mp halted
      rw [paused] at ended
      cases ended
    rw [resume_of_paused paused]
    exact .of_running rfl consistent.modes unhalted
  · rw [resume_of_not_paused paused]
    exact consistent

theorem supply_consistent (machine : Machine) (reply : String) (consistent : machine.Consistent) :
    (machine.supply reply).Consistent := by
  rcases machine.waits_or_busy with ⟨request, awaiting⟩ | busy
  · have unhalted := consistent.unhalted (active_of_awaiting awaiting)
    rw [supply_of_awaiting reply awaiting]
    exact .of_running rfl consistent.modes unhalted
  · rw [supply_of_not_awaiting reply busy]
    refine ⟨consistent.modes, consistent.halted, consistent.paused, ?_, ?_⟩
    · intro request awaiting
      exact absurd awaiting (busy request)
    · intro halted
      obtain ⟨notice, ended⟩ := consistent.ended halted
      exact ⟨notice, ended.last, ended.position, ended.cause⟩

theorem start_consistent (grid : Grid) (extended : Bool) (seed : UInt64) (script : List String) :
    (start grid extended seed script).Consistent := by
  refine .of_running rfl ?_ rfl
  intro both
  exact Bool.false_ne_true both.1

/-- A machine that waits has no reply left, so a host's next reply is its only one. -/
theorem Consistent.replies_of_awaiting {machine : Machine} (consistent : machine.Consistent)
    {request : Request} (awaiting : machine.state = .awaiting request) :
    machine.replies = ⟨[], []⟩ := by
  obtain ⟨_, supplied, script⟩ := consistent.awaiting request awaiting
  cases replies : machine.replies with
  | mk first second =>
      rw [replies] at supplied script
      cases supplied
      cases script
      rfl

-- Without a further reply a machine that waits goes on waiting.
theorem Consistent.step_of_awaiting {machine : Machine} (consistent : machine.Consistent)
    {request : Request} (awaiting : machine.state = .awaiting request) :
    machine.step = (.ok (.awaiting request), machine) := by
  have empty := consistent.replies_of_awaiting awaiting
  have missing : (machine.replies.take request).found = none := by
    rw [empty]
    rfl
  have unchanged : machine.waiting request = machine := by
    cases machine
    cases empty
    rfl
  have stays : { machine with state := .awaiting request } = machine := by
    cases machine
    cases awaiting
    rfl
  rw [step_of_active (active_of_awaiting awaiting),
    execute_of_dispatches (consistent.awaiting request awaiting).1, perform,
    read_of_missing missing, unchanged]
  exact congrArg (Prod.mk _) stays

/-! The counter. Both sides of the playfield have to be signed words for it to stay inside. -/

theorem Within.congr {grid : Grid} {before after : Machine} (within : before.Within grid)
    (width : after.grid.width = before.grid.width)
    (height : after.grid.height = before.grid.height)
    (position : after.position = before.position) : after.Within grid := by
  have sameWidth := width.trans within.width
  have sameHeight := height.trans within.height
  refine ⟨sameWidth, sameHeight, ?_, ?_, ?_⟩
  · rw [after.grid.size_eq, sameWidth, sameHeight]
  · rw [position]
    exact within.column
  · rw [position]
    exact within.row

theorem advance_within {grid : Grid} (width : grid.width < 2 ^ 63) (height : grid.height < 2 ^ 63)
    {machine : Machine} (sameWidth : machine.grid.width = grid.width)
    (sameHeight : machine.grid.height = grid.height) : machine.advance.Within grid := by
  refine ⟨sameWidth, sameHeight, ?_, ?_, ?_⟩
  · change machine.grid.cells.size = _
    rw [machine.grid.size_eq, sameWidth, sameHeight]
  · have inside := wrap_lt (signedWord machine.position.x + machine.counter.heading.delta.1)
      machine.grid.width machine.grid.width_pos (by rw [sameWidth]; exact width)
    rw [← sameWidth]
    exact inside
  · have inside := wrap_lt (signedWord machine.position.y + machine.counter.heading.delta.2)
      machine.grid.height machine.grid.height_pos (by rw [sameHeight]; exact height)
    rw [← sameHeight]
    exact inside

theorem complete_within {grid : Grid} (width : grid.width < 2 ^ 63) (height : grid.height < 2 ^ 63)
    {machine : Machine} (within : machine.Within grid) : machine.complete.Within grid := by
  cases halted : machine.counter.halted with
  | true =>
      rw [complete_of_halted halted]
      exact within.congr rfl rfl rfl
  | false =>
      have inside : machine.moved.Within grid :=
        advance_within width height within.width within.height
      rw [complete_of_running halted]
      exact inside.congr rfl rfl rfl

theorem step_within {grid : Grid} (width : grid.width < 2 ^ 63) (height : grid.height < 2 ^ 63)
    (machine : Machine) (within : machine.Within grid) : machine.step.2.Within grid := by
  by_cases active : machine.Active
  · rw [step_of_active active]
    have outcome := machine.execute_outcome machine.current.value
    generalize machine.execute machine.current.value = executed at outcome
    cases outcome with
    | done kept _ _ _ =>
        exact complete_within width height (within.congr kept.width kept.height kept.position)
    | halted _ =>
        have inside : ({ machine with counter.halted := true }.note .completed).Within grid :=
          within.congr rfl rfl rfl
        exact complete_within width height inside
    | suspended _ _ => exact within.congr rfl rfl rfl
    | fault _ _ _ => exact within.congr rfl rfl rfl
  · rw [step_of_not_active active]
    exact within

theorem resume_within {grid : Grid} (machine : Machine) (within : machine.Within grid) :
    machine.resume.Within grid := by
  by_cases paused : machine.state = .paused
  · rw [resume_of_paused paused]
    exact within.congr rfl rfl rfl
  · rw [resume_of_not_paused paused]
    exact within

theorem supply_within {grid : Grid} (machine : Machine) (reply : String)
    (within : machine.Within grid) : (machine.supply reply).Within grid := by
  simp only [supply]
  split
  · exact within.congr rfl rfl rfl
  · exact within.congr rfl rfl rfl

theorem start_within (grid : Grid) (extended : Bool) (seed : UInt64) (script : List String) :
    (start grid extended seed script).Within grid :=
  ⟨rfl, rfl, grid.size_eq, grid.width_pos, grid.height_pos⟩

/-- Whatever a host does with a machine, the playfield keeps its shape, the counter stays inside
it, and the state of the machine agrees with its modes, its replies, its journal and the cell
under its counter. -/
theorem driven_consistent (grid : Grid) (width : grid.width < 2 ^ 63)
    (height : grid.height < 2 ^ 63) (extended : Bool) (seed : UInt64) (script : List String)
    (machine : Machine) (driven : Driven (start grid extended seed script) machine) :
    machine.Within grid ∧ machine.Consistent := by
  constructor
  · exact driven_keeps (step_within width height) resume_within supply_within
      (start_within grid extended seed script) driven
  · exact driven_keeps step_consistent resume_consistent supply_consistent
      (start_consistent grid extended seed script) driven

/-- The program `&@` waits for a reply after its first step. -/
theorem driven_consistent_reading :
    let grid := Grid.ofRow 38 [64]
    let machine := (start grid false 0 []).step.2
    machine.state = .awaiting .integer ∧ machine.Within grid ∧ machine.Consistent :=
  ⟨by decide, driven_consistent (Grid.ofRow 38 [64]) (by decide) (by decide) false 0 [] _
    (.call .start (.step _))⟩

end Playfield.Machine
