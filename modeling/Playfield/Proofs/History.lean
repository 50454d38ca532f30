import Mathlib.Data.List.Forall2
import Playfield.Proofs.Execution

/-!
Histories of a machine. A host calls a machine and may also execute values in place. What comes
of a row of such operations is a relation, because a run need not return. An operation that
returns comes down to single acts, and what these lead to is a function, so a history that is
told by its acts can be replayed.
-/

namespace Playfield.Machine

/-! The fuel of a run bounds it and does nothing else. -/

/-- After this step a run takes another one. -/
def GoesOn (goal : Option Nat) (stepped : StepResult × Machine) : Prop :=
  stepped.1 = .ok .running ∧ goal.any (· ≤ stepped.2.steps) = false

theorem runTo_of_goesOn {goal : Option Nat} {machine : Machine}
    (goesOn : GoesOn goal machine.step) (fuel : Nat) :
    runTo goal (fuel + 1) machine = runTo goal fuel machine.step.2 := by
  simp only [runTo, goesOn.1, goesOn.2, Bool.false_eq_true, ↓reduceIte]

theorem runTo_of_ends {goal : Option Nat} {machine : Machine}
    (ends : ¬ GoesOn goal machine.step) (fuel : Nat) :
    runTo goal (fuel + 1) machine = some machine.step := by
  simp only [runTo]
  split
  · rename_i running
    split
    · rfl
    · rename_i early
      exact absurd ⟨running, Bool.eq_false_iff.mpr early⟩ ends
  · rfl

theorem runTo_more {goal : Option Nat} {fuel : Nat} {machine : Machine}
    {outcome : StepResult × Machine} (finished : runTo goal fuel machine = some outcome)
    (extra : Nat) : runTo goal (fuel + extra) machine = some outcome := by
  induction fuel generalizing machine with
  | zero => simp [runTo] at finished
  | succ fuel ih =>
      rw [Nat.succ_add]
      by_cases goesOn : GoesOn goal machine.step
      · rw [runTo_of_goesOn goesOn] at finished ⊢
        exact ih finished
      · rw [runTo_of_ends goesOn] at finished ⊢
        exact finished

theorem runTo_unique {goal : Option Nat} {fuel more : Nat} {machine : Machine}
    {first second : StepResult × Machine} (one : runTo goal fuel machine = some first)
    (other : runTo goal more machine = some second) : first = second := by
  have together := runTo_more one more
  rw [Nat.add_comm, runTo_more other fuel] at together
  exact (Option.some.inj together).symm

theorem runTo_of_stops {goal : Option Nat} {machine after : Machine} {result : StepResult}
    (stepped : machine.step = (result, after)) (stops : result ≠ .ok .running) (fuel : Nat) :
    runTo goal (fuel + 1) machine = some (result, after) := by
  rw [← stepped]
  apply runTo_of_ends
  intro goesOn
  rw [stepped] at goesOn
  exact stops goesOn.1

-- Only the step decides what comes next, so machines that take the same step run alike.
theorem runTo_congr {first second : Machine} (same : first.step = second.step)
    (goal : Option Nat) (fuel : Nat) : runTo goal fuel first = runTo goal fuel second := by
  cases fuel with
  | zero => rfl
  | succ fuel => simp only [runTo, same]

theorem steps_of_goesOn {goal : Option Nat} {machine : Machine}
    (goesOn : GoesOn goal machine.step) : machine.step.2.steps = machine.steps + 1 := by
  have running := goesOn.1
  by_cases active : machine.Active
  · cases counted active with
    | counts steps _ => exact steps
    | waits _ _ _ result =>
        rw [result] at running
        cases running
  · have state : machine.state = .running := by
      rw [step_of_not_active active] at running
      exact Except.ok.inj running
    exact absurd (active_of_running state) active

/-- A run with a goal ends, because every step that it goes on after counts. -/
theorem runTo_limited (goal fuel : Nat) (machine : Machine) (enough : goal ≤ machine.steps + fuel) :
    ∃ outcome, runTo (some goal) (fuel + 1) machine = some outcome := by
  induction fuel generalizing machine with
  | zero =>
      by_cases goesOn : GoesOn (some goal) machine.step
      · have counts := steps_of_goesOn goesOn
        have early := goesOn.2
        simp only [Option.any_some, decide_eq_false_iff_not] at early
        omega
      · exact ⟨_, runTo_of_ends goesOn 0⟩
  | succ fuel ih =>
      by_cases goesOn : GoesOn (some goal) machine.step
      · have counts := steps_of_goesOn goesOn
        rw [runTo_of_goesOn goesOn]
        apply ih
        omega
      · exact ⟨_, runTo_of_ends goesOn (fuel + 1)⟩

/-! Operations. -/

inductive Operation where
  | call (call : Call)
  | execute (value : Int64)

inductive Returned where
  | result (result : Option StepResult)
  | flow (flow : Except ArithmeticFault Flow)

inductive Performs : Machine → Operation → Returned → Machine → Prop where
  | call {machine after : Machine} {call : Call} {result : Option StepResult}
      (answered : Answers machine call result after) :
      Performs machine (.call call) (.result result) after
  | execute (machine : Machine) (value : Int64) :
      Performs machine (.execute value) (.flow (machine.execute value).1)
        (machine.execute value).2

/-- The operations returned what is listed, one after the other, and led from the first machine
to the last. -/
inductive Performed : Machine → List Operation → List Returned → Machine → Prop where
  | nil (machine : Machine) : Performed machine [] [] machine
  | cons {machine next last : Machine} {operation : Operation} {returned : Returned}
      {operations : List Operation} {answers : List Returned}
      (performs : Performs machine operation returned next)
      (later : Performed next operations answers last) :
      Performed machine (operation :: operations) (returned :: answers) last

theorem Performs.unique {machine first second : Machine} {operation : Operation}
    {one other : Returned} (left : Performs machine operation one first)
    (right : Performs machine operation other second) : one = other ∧ first = second := by
  cases left with
  | execute value =>
      cases right
      exact ⟨rfl, rfl⟩
  | call answered =>
      cases right with
      | call alsoAnswered =>
          cases answered with
          | step | resume | supply =>
              cases alsoAnswered
              exact ⟨rfl, rfl⟩
          | run fuel finished =>
              cases alsoAnswered with
              | run more alsoFinished =>
                  cases runTo_unique finished alsoFinished
                  exact ⟨rfl, rfl⟩

theorem Performed.unique {machine first second : Machine} {operations : List Operation}
    {one other : List Returned} (left : Performed machine operations one first)
    (right : Performed machine operations other second) : one = other ∧ first = second := by
  induction left generalizing other second with
  | nil =>
      cases right
      exact ⟨rfl, rfl⟩
  | cons performs _ ih =>
      cases right with
      | cons alsoPerforms later =>
          obtain ⟨rfl, rfl⟩ := performs.unique alsoPerforms
          obtain ⟨rfl, rfl⟩ := ih later
          exact ⟨rfl, rfl⟩

/-! Acts. A run is a row of steps. -/

inductive Act where
  | step
  | resume
  | supply (reply : String)
  | execute (value : Int64)

def act (machine : Machine) : Act → Machine
  | .step => machine.step.2
  | .resume => machine.resume
  | .supply reply => machine.supply reply
  | .execute value => (machine.execute value).2

def after (machine : Machine) (history : List Act) : Machine := history.foldl act machine

theorem after_append (machine : Machine) (past later : List Act) :
    machine.after (past ++ later) = (machine.after past).after later :=
  List.foldl_append

/-! The one history of a row of operations. Which acts they come down to is fixed by the machine,
to the last step. -/

/-- How many steps a run takes. -/
inductive Took (goal : Option Nat) : Machine → Nat → Prop where
  | ends {machine : Machine} (ends : ¬ GoesOn goal machine.step) : Took goal machine 1
  | goesOn {machine : Machine} {count : Nat} (goesOn : GoesOn goal machine.step)
      (later : Took goal machine.step.2 count) : Took goal machine (count + 1)

/-- The acts of an operation. -/
inductive Traces (machine : Machine) : Operation → List Act → Prop where
  | step : Traces machine (.call .step) [.step]
  | run {limit : Option Nat} {count : Nat}
      (took : Took (limit.map (machine.steps + ·)) machine count) :
      Traces machine (.call (.run limit)) (List.replicate count .step)
  | resume : Traces machine (.call .resume) [.resume]
  | supply (reply : String) : Traces machine (.call (.supply reply)) [.supply reply]
  | execute (value : Int64) : Traces machine (.execute value) [.execute value]

/-- The history of a row of operations. -/
inductive Traced : Machine → List Operation → List Act → Prop where
  | nil (machine : Machine) : Traced machine [] []
  | cons {machine : Machine} {operation : Operation} {operations : List Operation}
      {acts history : List Act} (traces : Traces machine operation acts)
      (later : Traced (machine.after acts) operations history) :
      Traced machine (operation :: operations) (acts ++ history)

theorem Took.unique {goal : Option Nat} {machine : Machine} {count other : Nat}
    (took : Took goal machine count) (alsoTook : Took goal machine other) : count = other := by
  induction took generalizing other with
  | ends ends =>
      cases alsoTook with
      | ends => rfl
      | goesOn goesOn _ => exact absurd goesOn ends
  | goesOn goesOn _ ih =>
      cases alsoTook with
      | ends ends => exact absurd goesOn ends
      | goesOn _ later => exact congrArg (· + 1) (ih later)

theorem Traces.unique {machine : Machine} {operation : Operation} {acts others : List Act}
    (traces : Traces machine operation acts) (alsoTraces : Traces machine operation others) :
    acts = others := by
  cases traces with
  | run took =>
      cases alsoTraces with
      | run alsoTook => rw [took.unique alsoTook]
  | step | resume | supply | execute =>
      cases alsoTraces
      rfl

theorem Traced.unique {machine : Machine} {operations : List Operation}
    {history other : List Act} (traced : Traced machine operations history)
    (alsoTraced : Traced machine operations other) : history = other := by
  induction traced generalizing other with
  | nil =>
      cases alsoTraced
      rfl
  | cons traces _ ih =>
      cases alsoTraced with
      | cons alsoTraces later =>
          obtain rfl := traces.unique alsoTraces
          rw [ih later]

theorem runTo_took {goal : Option Nat} {fuel : Nat} {machine last : Machine}
    {result : StepResult} (finished : runTo goal fuel machine = some (result, last)) :
    ∃ count, Took goal machine count ∧ machine.after (List.replicate count .step) = last := by
  induction fuel generalizing machine with
  | zero => cases finished
  | succ fuel ih =>
      by_cases goesOn : GoesOn goal machine.step
      · rw [runTo_of_goesOn goesOn] at finished
        obtain ⟨count, took, reached⟩ := ih finished
        exact ⟨count + 1, .goesOn goesOn took, reached⟩
      · rw [runTo_of_ends goesOn] at finished
        exact ⟨1, .ends goesOn, congrArg Prod.snd (Option.some.inj finished)⟩

theorem Performs.traced {machine last : Machine} {operation : Operation} {returned : Returned}
    (performs : Performs machine operation returned last) :
    ∃ acts, Traces machine operation acts ∧ machine.after acts = last := by
  cases performs with
  | execute value => exact ⟨_, .execute value, rfl⟩
  | call answered =>
      cases answered with
      | step => exact ⟨_, .step, rfl⟩
      | resume => exact ⟨_, .resume, rfl⟩
      | supply reply => exact ⟨_, .supply reply, rfl⟩
      | run fuel finished =>
          obtain ⟨count, took, reached⟩ := runTo_took finished
          exact ⟨_, .run took, reached⟩

theorem Performs.reaches {machine last : Machine} {operation : Operation} {returned : Returned}
    {acts : List Act} (performs : Performs machine operation returned last)
    (traces : Traces machine operation acts) : machine.after acts = last := by
  obtain ⟨others, alsoTraces, reached⟩ := performs.traced
  rw [traces.unique alsoTraces]
  exact reached

theorem Performed.traced {machine last : Machine} {operations : List Operation}
    {answers : List Returned} (performed : Performed machine operations answers last) :
    ∃ history, Traced machine operations history ∧ machine.after history = last := by
  induction performed with
  | nil machine => exact ⟨[], .nil machine, rfl⟩
  | cons performs _ ih =>
      obtain ⟨acts, traces, rfl⟩ := performs.traced
      obtain ⟨history, later, reached⟩ := ih
      refine ⟨acts ++ history, .cons traces later, ?_⟩
      rw [after_append]
      exact reached

/-! Histories that are told operation by operation. -/

/-- The acts that an operation comes down to. How many steps a run takes is for the machine to
decide. -/
inductive Unfolds : Operation → List Act → Prop where
  | step : Unfolds (.call .step) [.step]
  | run (limit : Option Nat) (count : Nat) :
      Unfolds (.call (.run limit)) (List.replicate count .step)
  | resume : Unfolds (.call .resume) [.resume]
  | supply (reply : String) : Unfolds (.call (.supply reply)) [.supply reply]
  | execute (value : Int64) : Unfolds (.execute value) [.execute value]

theorem Traces.unfolds {machine : Machine} {operation : Operation} {acts : List Act}
    (traces : Traces machine operation acts) : Unfolds operation acts := by
  cases traces with
  | step => exact .step
  | run _ => exact .run _ _
  | resume => exact .resume
  | supply reply => exact .supply reply
  | execute value => exact .execute value

theorem Performs.unfolds {machine last : Machine} {operation : Operation} {returned : Returned}
    (performs : Performs machine operation returned last) :
    ∃ acts, Unfolds operation acts ∧ machine.after acts = last := by
  obtain ⟨acts, traces, reached⟩ := performs.traced
  exact ⟨acts, traces.unfolds, reached⟩

/-- A history passes through the machines between the operations. -/
theorem Performed.unfolds {machine last : Machine} {operations : List Operation}
    {answers : List Returned} (performed : Performed machine operations answers last) :
    ∃ history : List (List Act), List.Forall₂ Unfolds operations history ∧
      machine.after history.flatten = last ∧
      ∀ count ≤ operations.length,
        Performed machine (operations.take count) (answers.take count)
          (machine.after (history.take count).flatten) := by
  induction performed with
  | nil machine =>
      refine ⟨[], .nil, rfl, ?_⟩
      intro count _
      rw [List.take_nil, List.take_nil, List.take_nil]
      exact .nil machine
  | @cons machine next last operation returned operations answers performs _ ih =>
      obtain ⟨acts, unfolds, reached⟩ := performs.unfolds
      obtain ⟨history, later, finish, moments⟩ := ih
      refine ⟨acts :: history, .cons unfolds later, ?_, ?_⟩
      · rw [List.flatten_cons, after_append, reached]
        exact finish
      · intro count inside
        cases count with
        | zero => exact .nil machine
        | succ count =>
            rw [List.take_succ_cons, List.take_succ_cons, List.take_succ_cons,
              List.flatten_cons, after_append, reached]
            exact .cons performs (moments count (Nat.le_of_succ_le_succ inside))

end Playfield.Machine
