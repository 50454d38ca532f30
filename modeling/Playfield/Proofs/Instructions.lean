import Playfield.Proofs.Effects
import Playfield.Proofs.History

/-!
The instructions of a history. Most acts do not get to an instruction: resuming and supplying
execute nothing, a paused or halted machine does not step, and a quoted or skipped value is not
dispatched. An instruction that has to wait is dispatched and not finished. What an act finishes
is therefore at most one instruction, and only two kinds of instruction reach beyond the stack,
the playfield and the output: reading takes replies, and a random turn draws from the generator.
-/

namespace Playfield.Machine

def subject? (machine : Machine) : Act → Option Int64
  | .step =>
      match machine.state with
      | .paused | .halted => none
      | _ => some machine.current.value
  | .execute value => some value
  | .resume | .supply _ => none

/-- The instruction that an act dispatches and does not leave waiting. -/
def finished? (machine : Machine) (act : Act) : Option Instruction :=
  match machine.subject? act with
  | none => none
  | some value =>
      match (machine.execute value).1 with
      | .ok (.suspended _) => none
      | _ => machine.dispatched? value

/-- Every act of a history with the machine that it is done to. -/
def moments (machine : Machine) : List Act → List (Machine × Act)
  | [] => []
  | act :: later => (machine, act) :: (machine.act act).moments later

theorem moments_append (machine : Machine) (past later : List Act) :
    machine.moments (past ++ later) =
      machine.moments past ++ (machine.after past).moments later := by
  induction past generalizing machine with
  | nil => rfl
  | cons act rest ih =>
      simp only [List.cons_append, moments, ih]
      rfl

/-! Dispatching. -/

section Dispatching
variable {machine : Machine} {value : Int64}

theorem suspends_iff {request : Request} :
    (machine.execute value).1 = .ok (.suspended request) ↔
      machine.dispatched? value = some (.read request) ∧
        (machine.replies.take request).found = none := by
  constructor
  · intro waits
    obtain ⟨dispatched, missing, _⟩ := dispatches_of_suspended waits
    exact ⟨dispatched?_eq_some.mpr dispatched, missing⟩
  · rintro ⟨dispatched, missing⟩
    rw [execute_of_dispatches (dispatched?_eq_some.mp dispatched), perform,
      read_of_missing missing]

/-! Replies and the generator. -/

theorem read_replies (machine : Machine) (request : Request) :
    (machine.read request).2.replies = (machine.replies.take request).rest := by
  cases found : (machine.replies.take request).found with
  | some usable => rw [read_of_found found]
  | none =>
      rw [read_of_missing found, Replies.take_of_found_none machine.replies request found]
      rfl

theorem execute_replies_of_read {request : Request}
    (dispatched : machine.dispatched? value = some (.read request)) :
    (machine.execute value).2.replies = (machine.replies.take request).rest := by
  rw [execute_of_dispatches (dispatched?_eq_some.mp dispatched)]
  exact machine.read_replies request

theorem execute_replies (other : ∀ request, machine.dispatched? value ≠ some (.read request)) :
    (machine.execute value).2.replies = machine.replies := by
  rcases (machine.execute_effect value).replies with same | ⟨request, dispatched, _⟩
  · exact same
  · exact absurd dispatched (other request)

theorem execute_generator (other : machine.dispatched? value ≠ some .goRandom) :
    (machine.execute value).2.generator = machine.generator :=
  (machine.execute_effect value).generator.resolve_right other

end Dispatching

/-! Acts. -/

theorem subject?_of_active {machine : Machine} (active : machine.Active) :
    machine.subject? .step = some machine.current.value := by
  simp only [subject?]
  split
  · rename_i paused
    exact absurd paused active.1
  · rename_i halted
    exact absurd halted active.2
  · rfl

theorem subject?_of_not_active {machine : Machine} (idle : ¬ machine.Active) :
    machine.subject? .step = none := by
  simp only [subject?]
  split
  · rfl
  · rfl
  · rename_i notPaused notHalted
    exact absurd ⟨notPaused, notHalted⟩ idle

/-- What an act that executes a value leaves as the execution left it. -/
structure Follows (executed after : Machine) : Prop where
  replies : after.replies = executed.replies
  generator : after.generator = executed.generator
  heading : after.counter.heading = executed.counter.heading

theorem finish_follows (executed : Except ArithmeticFault Flow × Machine) :
    Follows executed.2 (finish executed).2 := by
  rcases executed with ⟨fault | _ | request, after⟩
  · exact ⟨rfl, rfl, rfl⟩
  · obtain ⟨position, state, complete⟩ := after.complete_frame
    simp only [finish, complete]
    exact ⟨rfl, rfl, rfl⟩
  · exact ⟨rfl, rfl, rfl⟩

theorem act_follows {machine : Machine} {act : Act} {value : Int64}
    (subject : machine.subject? act = some value) :
    Follows (machine.execute value).2 (machine.act act) := by
  cases act with
  | resume => cases subject
  | supply reply => cases subject
  | execute other =>
      cases subject
      exact ⟨rfl, rfl, rfl⟩
  | step =>
      by_cases active : machine.Active
      · rw [subject?_of_active active] at subject
        cases subject
        simp only [Machine.act, step_of_active active]
        exact finish_follows _
      · rw [subject?_of_not_active active] at subject
        cases subject

/-- An act that executes nothing can change the state and add a reply. -/
theorem act_of_idle {machine : Machine} {act : Act} (idle : machine.subject? act = none) :
    ∃ state, machine.act act =
      { machine with
        state
        replies := match act with
          | .supply reply => machine.replies.supply reply
          | _ => machine.replies } := by
  cases act with
  | execute value => cases idle
  | resume => exact machine.resume_frame
  | supply reply =>
      rcases machine.waits_or_busy with ⟨request, awaiting⟩ | busy
      · exact ⟨_, supply_of_awaiting reply awaiting⟩
      · exact ⟨_, supply_of_not_awaiting reply busy⟩
  | step =>
      by_cases active : machine.Active
      · rw [subject?_of_active active] at idle
        cases idle
      · refine ⟨machine.state, ?_⟩
        simp only [Machine.act, step_of_not_active active]

end Playfield.Machine
