import Playfield.Proofs.Consumption

/-!
Division by zero. It is the only way in which a step fails: the operands are gone by then, the
machine halts on the spot, the step is counted, and the journal gets one notice, an error. A
machine that has halted, for this reason or another, stays as it is whatever its host calls; it
only collects the replies that it is still given.
-/

namespace Playfield.Machine

/-- A step of this machine divides by zero. The divisor is on top of the stack, and an empty stack
has a zero there. -/
structure DividesByZero (machine : Machine) (operator : Operator) : Prop where
  awake : machine.state = .running ∨ ∃ request, machine.state = .awaiting request
  unquoted : machine.counter.stringMode = false
  unskipped : machine.counter.skipNext = false
  decoded : Instruction.decode machine.extended machine.current.value =
    some (.arithmetic operator)
  divides : operator = .divide ∨ operator = .remainder
  zero : machine.stack.top = 0

theorem apply_zero {operator : Operator} (divides : operator = .divide ∨ operator = .remainder)
    (a : Int64) : operator.apply a 0 = none := by
  rcases divides with rfl | rfl
  · rfl
  · rfl

theorem dividesByZero_of_error {machine : Machine} {fault : ArithmeticFault}
    (failed : machine.step.1 = .error fault) : ∃ operator, machine.DividesByZero operator := by
  by_cases active : machine.Active
  · rw [step_of_active active] at failed
    have outcome := machine.execute_outcome machine.current.value
    generalize machine.execute machine.current.value = executed at outcome failed
    cases outcome with
    | done _ _ _ _ => cases failed
    | halted _ => cases failed
    | suspended _ _ => cases failed
    | @fault operator dispatched divides zero =>
        exact ⟨operator, machine.active_iff.mp active, dispatched.unquoted, dispatched.unskipped,
          dispatched.decoded, divides, zero⟩
  · rw [step_of_not_active active] at failed
    cases failed

theorem DividesByZero.step {machine : Machine} {operator : Operator}
    (zero : machine.DividesByZero operator) :
    machine.step =
      (.error ⟨operator, machine.position⟩,
        { machine with
          stack := ⟨machine.stack.values.drop 2⟩
          counter.halted := true
          state := .halted
          steps := machine.steps + 1
          journal := machine.journal.record
            ⟨.fault operator, machine.position, machine.steps + 1⟩ }) := by
  have dispatched : machine.Dispatches machine.current.value (.arithmetic operator) :=
    ⟨zero.unquoted, zero.unskipped, zero.decoded⟩
  have popped : machine.stack.rest.rest = ⟨machine.stack.values.drop 2⟩ := by
    rw [Stack.rest, Stack.rest, ← List.drop_one, ← List.drop_one, List.drop_drop]
  have undefined := apply_zero zero.divides machine.stack.rest.top
  rw [step_of_active (machine.active_iff.mpr zero.awake), execute_of_dispatches dispatched, perform,
    calculate, zero.zero, undefined, ← popped]
  rfl

/-! A halted machine. -/

/-- What a call of a halted machine returns. -/
def Call.halted : Call → Option StepResult
  | .step | .run _ => some (.ok .halted)
  | .resume | .supply _ => none

def given (machine : Machine) (replies : List String) : Machine :=
  { machine with replies.supplied := machine.replies.supplied ++ replies }

theorem given_nil (machine : Machine) : machine.given [] = machine := by
  rw [given, List.append_nil]

theorem given_append (machine : Machine) (first second : List String) :
    machine.given (first ++ second) = (machine.given first).given second := by
  simp only [given, List.append_assoc]

theorem step_of_halted {machine : Machine} (halted : machine.state = .halted) :
    machine.step = (.ok .halted, machine) := by
  rw [step_of_not_active fun active => active.2 halted, halted]

theorem answers_of_halted {machine : Machine} (halted : machine.state = .halted) (call : Call) :
    Answers machine call call.halted (machine.given (Operation.supplies (.call call))) := by
  have stays := step_of_halted halted
  cases call with
  | step =>
      have answered := Answers.step machine
      rw [stays] at answered
      rw [Operation.supplies, given_nil]
      exact answered
  | run limit =>
      rw [Operation.supplies, given_nil]
      exact .run 1 (runTo_of_stops stays nofun 0)
  | resume =>
      have answered := Answers.resume machine
      rw [resume_of_not_paused (halted ▸ nofun)] at answered
      rw [Operation.supplies, given_nil]
      exact answered
  | supply reply =>
      have answered := Answers.supply machine reply
      rw [supply_of_not_awaiting reply (halted ▸ nofun)] at answered
      exact answered

/-- Whatever its host calls, a halted machine answers that it has halted and changes nothing but
the replies that it is given. -/
theorem performed_of_halted {machine : Machine} (halted : machine.state = .halted)
    (calls : List Call) :
    Performed machine (calls.map .call) (calls.map fun call => .result call.halted)
      (machine.given ((calls.map .call).flatMap Operation.supplies)) := by
  induction calls generalizing machine with
  | nil =>
      rw [List.map_nil, List.flatMap_nil, given_nil]
      exact .nil machine
  | cons call later ih =>
      have first := answers_of_halted halted call
      rw [List.map_cons, List.flatMap_cons, given_append]
      exact .cons (.call first) (ih halted)

/-- A step fails exactly if it divides by zero. The error names the operation and its place; the
two operands are gone, as far as there were any, the machine has halted after one more step, and
the journal has one notice more, an error. After that every step and every run returns that the
machine has halted, and no call changes anything but the replies supplied by the host. -/
theorem faults_exactly (machine : Machine) :
    ((∃ fault, machine.step.1 = .error fault) ↔ ∃ operator, machine.DividesByZero operator) ∧
    ∀ operator, machine.DividesByZero operator →
      let fault : ArithmeticFault := ⟨operator, machine.position⟩
      let notice : Notice := ⟨.fault operator, machine.position, machine.steps + 1⟩
      let after : Machine := { machine with
        stack := ⟨machine.stack.values.drop 2⟩
        counter.halted := true
        state := .halted
        steps := machine.steps + 1
        journal := machine.journal.record notice }
      machine.step = (.error fault, after) ∧
      notice.severity = .error ∧ notice.message = fault.message ∧
      ∀ (calls : List Call) (answers : List Returned) (last : Machine),
        let operations := calls.map Operation.call
        Performed after operations answers last ↔
          answers = calls.map (fun call => .result call.halted) ∧
            last = { after with
              replies.supplied :=
                machine.replies.supplied ++ operations.flatMap Operation.supplies } := by
  constructor
  · constructor
    · rintro ⟨fault, failed⟩
      exact dividesByZero_of_error failed
    · rintro ⟨operator, zero⟩
      exact ⟨_, congrArg Prod.fst zero.step⟩
  · intro operator zero fault notice after
    refine ⟨zero.step, rfl, rfl, ?_⟩
    intro calls answers last operations
    have stays : Performed after operations _ _ := performed_of_halted rfl calls
    constructor
    · intro performed
      exact performed.unique stays
    · rintro ⟨rfl, rfl⟩
      exact stays

/-- The program `760/` divides six by zero in its fourth step. The seven stays on the stack, and a
run, a reply and a step find a halted machine. -/
theorem faults_exactly_division :
    let machine := (start (Grid.ofRow 55 [54, 48, 47]) false 0 ["r"]).step.2.step.2.step.2
    let after := machine.step.2
    machine.DividesByZero .divide ∧
      machine.step.1 = .error ⟨.divide, ⟨3, 0⟩⟩ ∧ after.stack = ⟨[7]⟩ ∧ after.steps = 4 ∧
      Performed after [.call (.run none), .call (.supply "x"), .call .step]
        [.result (some (.ok .halted)), .result none, .result (some (.ok .halted))]
        { after with replies := ⟨["x"], ["r"]⟩ } := by
  intro machine after
  have zero : machine.DividesByZero .divide :=
    ⟨Or.inl (by decide), by decide, by decide, by decide, Or.inl rfl, by decide⟩
  obtain ⟨stepped, _, _, stays⟩ := (faults_exactly machine).2 .divide zero
  refine ⟨zero, by rw [stepped]; decide, by decide, by decide, ?_⟩
  have reached : after = _ := congrArg Prod.snd stepped
  rw [reached]
  exact (stays [.run none, .supply "x", .step] _ _).mpr ⟨rfl, rfl⟩

end Playfield.Machine
