import Playfield.Proofs.Congruence
import Playfield.Proofs.Grid
import Playfield.Proofs.Instructions
import Playfield.Proofs.Sampling

/-!
Random turns. The generator is read by one instruction only, and each time that it is read it
gives the next heading of its stream. What a machine did before its first random turn it would
therefore have done with any other generator.
-/

namespace Playfield

namespace Machine

/-- The heading that an act sets at random. -/
def turn? (machine : Machine) (act : Act) : Option Heading :=
  match machine.finished? act with
  | some .goRandom => some (machine.act act).counter.heading
  | _ => none

/-- The headings that a history sets at random, in order. -/
def turns (machine : Machine) (history : List Act) : List Heading :=
  (machine.moments history).filterMap fun moment => moment.1.turn? moment.2

/-! The headings of a history are those of the generator. -/

theorem execute_of_random {machine : Machine} {value : Int64}
    (dispatched : machine.dispatched? value = some .goRandom) :
    machine.execute value = (.ok .done,
      { machine with generator := machine.generator.heading.2 }.turn machine.generator.heading.1) :=
  execute_of_dispatches (dispatched?_eq_some.mp dispatched)

/-- What an act means for the generator. -/
inductive Chance (machine : Machine) (act : Act) : Prop where
  | draws (turn : machine.turn? act = some machine.generator.heading.1)
      (generator : (machine.act act).generator = machine.generator.heading.2)
  | leaves (turn : machine.turn? act = none)
      (generator : (machine.act act).generator = machine.generator)
      (plain : ∀ value, machine.subject? act = some value →
        machine.dispatched? value ≠ some .goRandom)

theorem chance (machine : Machine) (act : Act) : machine.Chance act := by
  cases subject : machine.subject? act with
  | none =>
      obtain ⟨state, acted⟩ := act_of_idle subject
      apply Chance.leaves
      · simp only [turn?, finished?, subject]
      · rw [acted]
      · intro value executes
        cases executes.symm.trans subject
  | some value =>
      have follows := act_follows subject
      by_cases random : machine.dispatched? value = some .goRandom
      · rw [execute_of_random random] at follows
        apply Chance.draws
        · simp only [turn?, finished?, subject, execute_of_random random, random, follows.heading]
          rfl
        · exact follows.generator
      · apply Chance.leaves
        · simp only [turn?, finished?, subject]
          split
          · rename_i finished
            split at finished
            · cases finished
            · exact absurd finished random
          · rfl
        · exact follows.generator.trans (execute_generator random)
        · rintro other executes
          cases executes.symm.trans subject
          exact random

theorem turns_cons_of_draws {machine : Machine} {act : Act} {heading : Heading}
    (turn : machine.turn? act = some heading) (later : List Act) :
    machine.turns (act :: later) = heading :: (machine.act act).turns later :=
  List.filterMap_cons_some turn

theorem turns_cons_of_leaves {machine : Machine} {act : Act}
    (turn : machine.turn? act = none) (later : List Act) :
    machine.turns (act :: later) = (machine.act act).turns later :=
  List.filterMap_cons_none turn

theorem turns_eq_headings (machine : Machine) (history : List Act) :
    machine.turns history = machine.generator.headings (machine.turns history).length := by
  induction history generalizing machine with
  | nil => rfl
  | cons act later ih =>
      have rest := ih (machine.act act)
      cases machine.chance act with
      | draws turn generator =>
          rw [generator] at rest
          rw [turns_cons_of_draws turn, List.length_cons]
          exact congrArg (machine.generator.heading.1 :: ·) rest
      | leaves turn generator _ =>
          rw [generator] at rest
          rw [turns_cons_of_leaves turn]
          exact rest

theorem turns_append (machine : Machine) (past later : List Act) :
    machine.turns (past ++ later) = machine.turns past ++ (machine.after past).turns later := by
  simp only [turns, moments_append, List.filterMap_append]

/-! Another generator. -/

def withGenerator (machine : Machine) (generator : Generator) : Machine := { machine with generator }

theorem withGenerator_congruence (generator : Generator) :
    Congruence fun first second => second = first.withGenerator generator := by
  constructor <;> rintro first _ rfl
  all_goals intros
  all_goals rfl

section Twin
variable {machine : Machine} (generator : Generator)

theorem execute_withGenerator {value : Int64}
    (plain : machine.dispatched? value ≠ some .goRandom) :
    (machine.withGenerator generator).execute value =
      ((machine.execute value).1, (machine.execute value).2.withGenerator generator) := by
  have congruence := withGenerator_congruence generator
  have same : machine.withGenerator generator = machine.withGenerator generator := rfl
  have both := congruence.execute same value
    (fun random => absurd (dispatched?_eq_some.mpr random) plain) (by
    intro request _
    rw [congruence.read_map machine rfl (fun _ => rfl) request]
    exact ⟨rfl, rfl⟩)
  exact Prod.ext both.1.symm both.2

theorem complete_withGenerator (machine : Machine) :
    (machine.withGenerator generator).complete = machine.complete.withGenerator generator := by
  cases halted : machine.counter.halted with
  | true =>
      have alsoHalted : (machine.withGenerator generator).counter.halted = true := halted
      rw [complete_of_halted halted, complete_of_halted alsoHalted]
      rfl
  | false =>
      have alsoRunning : (machine.withGenerator generator).counter.halted = false := halted
      rw [complete_of_running halted, complete_of_running alsoRunning]
      rfl

theorem finish_withGenerator (result : Except ArithmeticFault Flow) (machine : Machine) :
    finish (result, machine.withGenerator generator) =
      ((finish (result, machine)).1, (finish (result, machine)).2.withGenerator generator) := by
  rcases result with fault | _ | request
  · rfl
  · simp only [finish, complete_withGenerator]
    rfl
  · rfl

theorem step_withGenerator (unturned : machine.turn? .step = none) :
    (machine.withGenerator generator).step =
      (machine.step.1, machine.step.2.withGenerator generator) := by
  by_cases active : machine.Active
  · have alsoActive : (machine.withGenerator generator).Active := active
    have current : (machine.withGenerator generator).current = machine.current := rfl
    cases machine.chance .step with
    | draws turn _ => cases turn.symm.trans unturned
    | leaves _ _ plain =>
        have executed := execute_withGenerator generator (plain _ (subject?_of_active active))
        rw [step_of_active active, step_of_active alsoActive, current, executed,
          finish_withGenerator]
  · have alsoIdle : ¬ (machine.withGenerator generator).Active := active
    rw [step_of_not_active active, step_of_not_active alsoIdle]
    rfl

theorem resume_withGenerator (machine : Machine) :
    (machine.withGenerator generator).resume = machine.resume.withGenerator generator :=
  resume_map (·.withGenerator generator) machine rfl rfl

theorem supply_withGenerator (machine : Machine) (reply : String) :
    (machine.withGenerator generator).supply reply =
      (machine.supply reply).withGenerator generator := by
  simp only [supply, withGenerator]
  cases machine.state <;> rfl

theorem act_withGenerator {act : Act} (unturned : machine.turn? act = none) :
    (machine.withGenerator generator).act act = (machine.act act).withGenerator generator := by
  cases act with
  | step => exact congrArg Prod.snd (step_withGenerator generator unturned)
  | resume => exact resume_withGenerator generator machine
  | supply reply => exact supply_withGenerator generator machine reply
  | execute value =>
      cases machine.chance (.execute value) with
      | draws turn _ => cases turn.symm.trans unturned
      | leaves _ _ plain => exact congrArg Prod.snd (execute_withGenerator generator (plain _ rfl))

theorem unturned_cons {act : Act} {later : List Act}
    (unturned : machine.turns (act :: later) = []) :
    machine.turn? act = none ∧ (machine.act act).turns later = [] := by
  cases machine.chance act with
  | draws turn _ =>
      rw [turns_cons_of_draws turn] at unturned
      cases unturned
  | leaves turn _ _ =>
      rw [turns_cons_of_leaves turn] at unturned
      exact ⟨turn, unturned⟩

theorem after_withGenerator {history : List Act} (unturned : machine.turns history = []) :
    (machine.withGenerator generator).after history =
      (machine.after history).withGenerator generator := by
  induction history generalizing machine with
  | nil => rfl
  | cons act later ih =>
      obtain ⟨first, rest⟩ := unturned_cons unturned
      have acted := act_withGenerator generator first
      exact (congrArg (·.after later) acted).trans (ih rest)

end Twin

/-! Operations. -/

section Operations
variable {machine last : Machine} (generator : Generator)

theorem runTo_withGenerator {goal : Option Nat} {count fuel : Nat} {result : StepResult}
    (took : Took goal machine count) (unturned : machine.turns (List.replicate count .step) = [])
    (finished : runTo goal fuel machine = some (result, last)) :
    runTo goal fuel (machine.withGenerator generator) =
      some (result, last.withGenerator generator) := by
  induction took generalizing fuel with
  | @ends machine ends =>
      have stepped := step_withGenerator generator (unturned_cons unturned).1
      have alsoEnds : ¬ GoesOn goal (machine.withGenerator generator).step := by
        rw [stepped]
        exact ends
      cases fuel with
      | zero => cases finished
      | succ fuel =>
          rw [runTo_of_ends ends, Option.some.injEq] at finished
          rw [runTo_of_ends alsoEnds, stepped, finished]
  | @goesOn machine count goesOn _ ih =>
      obtain ⟨first, rest⟩ := unturned_cons unturned
      have stepped := step_withGenerator generator first
      have alsoGoesOn : GoesOn goal (machine.withGenerator generator).step := by
        rw [stepped]
        exact goesOn
      cases fuel with
      | zero => cases finished
      | succ fuel =>
          rw [runTo_of_goesOn goesOn] at finished
          rw [runTo_of_goesOn alsoGoesOn, stepped]
          exact ih rest finished

theorem performs_withGenerator {operation : Operation} {returned : Returned} {acts : List Act}
    (performs : Performs machine operation returned last) (traces : Traces machine operation acts)
    (unturned : machine.turns acts = []) :
    Performs (machine.withGenerator generator) operation returned
      (last.withGenerator generator) := by
  cases traces with
  | step =>
      cases performs with
      | call answered =>
          cases answered
          have again := Performs.call (Answers.step (machine.withGenerator generator))
          rwa [step_withGenerator generator (unturned_cons unturned).1] at again
  | run took =>
      cases performs with
      | call answered =>
          cases answered with
          | run fuel finished =>
              exact .call (.run fuel (runTo_withGenerator generator took unturned finished))
  | resume =>
      cases performs with
      | call answered =>
          cases answered
          rw [← resume_withGenerator]
          exact .call (.resume _)
  | supply reply =>
      cases performs with
      | call answered =>
          cases answered
          rw [← supply_withGenerator]
          exact .call (.supply _ reply)
  | execute value =>
      cases performs
      cases machine.chance (.execute value) with
      | draws turn _ => cases turn.symm.trans (unturned_cons unturned).1
      | leaves _ _ plain =>
          have again := Performs.execute (machine.withGenerator generator) value
          rwa [execute_withGenerator generator (plain value rfl)] at again

theorem performed_withGenerator {operations : List Operation} {answers : List Returned}
    {history : List Act} (performed : Performed machine operations answers last)
    (traced : Traced machine operations history) (unturned : machine.turns history = []) :
    Performed (machine.withGenerator generator) operations answers
      (last.withGenerator generator) := by
  induction performed generalizing history with
  | nil => exact .nil _
  | cons performs _ ih =>
      cases traced with
      | cons traces later =>
          rw [turns_append, List.append_eq_nil_iff] at unturned
          obtain ⟨first, rest⟩ := unturned
          rw [performs.reaches traces] at later rest
          exact .cons (performs_withGenerator generator performs traces first) (ih later rest)

end Operations

/-- The random headings of a machine come from its seed and from nothing else. Whatever is done
to the machine, the headings that it sets at random are the first ones of the stream of its seed;
each is chosen by the first accepted word behind the word that chose the one before it; and with
another seed the machine would, as long as it has set none, be the same but for the generator and
return the same. -/
theorem random_turns_of_seed (grid : Grid) (extended : Bool) (seed : UInt64)
    (script : List String) :
    let first := start grid extended seed script
    (∀ acts count, (first.turns acts).length ≤ count →
      first.turns acts <+: Generator.headings count (.ofSeed seed)) ∧
    (∀ acts, Generator.Streams (.ofSeed seed) (first.turns acts)) ∧
    ∀ other : UInt64,
      let second := start grid extended other script
      (∀ acts, first.turns acts = [] →
        second.after acts = (first.after acts).withGenerator (.ofSeed other)) ∧
      ∀ operations answers last, Performed first operations answers last →
        ∃ history, Traced first operations history ∧ first.after history = last ∧
          (first.turns history = [] →
            Performed second operations answers (last.withGenerator (.ofSeed other))) := by
  intro first
  refine ⟨?_, ?_, ?_⟩
  · intro acts count enough
    have drawn := first.turns_eq_headings acts
    have stream := Generator.headings_prefix enough first.generator
    rwa [← drawn] at stream
  · intro acts
    rw [first.turns_eq_headings acts]
    exact Generator.headings_streams _ first.generator
  · intro other second
    constructor
    · intro acts unturned
      exact after_withGenerator (.ofSeed other) unturned
    · intro operations answers last performed
      obtain ⟨history, traced, reached⟩ := performed.traced
      exact ⟨history, traced, reached, performed_withGenerator (.ofSeed other) performed traced⟩

/-- The program `"?"#??` meets a question mark that is quoted, one that is skipped, and then one
that turns. A run over the quoted one returns the same for two seeds. -/
theorem random_turns_of_seed_unquoted :
    let first := start (Grid.ofRow 34 [63, 34, 35, 63, 63]) false 1 []
    let second := start (Grid.ofRow 34 [63, 34, 35, 63, 63]) false 2 []
    let quiet := List.replicate 5 Act.step
    let operations : List Operation := [.call (.run (some 2))]
    let answers : List Returned := [.result (some (.ok .running))]
    first.turns quiet = [] ∧ (first.turns (quiet ++ [.step])).length = 1 ∧
      first.turns (quiet ++ [.step]) <+: Generator.headings 2 (.ofSeed 1) ∧
      Generator.Streams (.ofSeed 1) (first.turns (quiet ++ [.step])) ∧
      second.after quiet = (first.after quiet).withGenerator (.ofSeed 2) ∧
      Performed second operations answers (first.step.2.step.2.withGenerator (.ofSeed 2)) := by
  intro first second quiet operations answers
  have unturned : first.turns quiet = [] := by decide +kernel
  have turned : (first.turns (quiet ++ [.step])).length = 1 := by decide +kernel
  have few : (first.turns (quiet ++ [.step])).length ≤ 2 := by omega
  have ran : first.run (some 2) 2 = some (.ok .running, first.step.2.step.2) := by decide +kernel
  have performed : Performed first operations answers first.step.2.step.2 :=
    .cons (.call (.run 2 ran)) (.nil _)
  have took : Took ((some 2).map (first.steps + ·)) first 2 :=
    .goesOn ⟨by decide +kernel, by decide +kernel⟩
      (.ends fun goesOn => absurd goesOn.2 (by decide +kernel))
  have traces := Traces.run took
  have traced : Traced first operations [.step, .step] := .cons traces (.nil _)
  obtain ⟨drawn, sampled, twins⟩ := random_turns_of_seed (Grid.ofRow 34 [63, 34, 35, 63, 63]) false 1 []
  obtain ⟨states, results⟩ := twins 2
  obtain ⟨history, alsoTraced, _, same⟩ := results operations answers _ performed
  rw [← traced.unique alsoTraced] at same
  exact ⟨unturned, turned, drawn _ 2 few, sampled _, states _ unturned, same (by decide +kernel)⟩

end Machine

end Playfield
