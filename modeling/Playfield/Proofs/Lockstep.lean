import Playfield.Proofs.Congruence
import Playfield.Proofs.History

/-!
Machines in lockstep. A congruence speaks about one instruction. If related machines also stop
at the same breakpoints, draw the same random turns and have the same replies, then every
operation of a host returns the same from both and leaves them related.
-/

namespace Playfield.Machine

structure Lockstep (related : Machine → Machine → Prop) : Prop extends Congruence related where
  state : ∀ {first second}, related first second → first.state = second.state
  breakpoint : ∀ {first second}, related first second →
    ∀ place, (first.grid.cell place).breakpoint = (second.grid.cell place).breakpoint
  generator : ∀ {first second}, related first second → first.generator = second.generator
  replies : ∀ {first second}, related first second → first.replies = second.replies
  draw : ∀ {first second}, related first second →
    ∀ generator, related { first with generator } { second with generator }
  refill : ∀ {first second}, related first second →
    ∀ replies, related { first with replies } { second with replies }
  enter : ∀ {first second}, related first second →
    ∀ state, related { first with state } { second with state }
  count : ∀ {first second}, related first second →
    related { first with steps := first.steps + 1 } { second with steps := second.steps + 1 }
  steps : ∀ {first second}, related first second → first.steps = second.steps

namespace Lockstep

variable {related : Machine → Machine → Prop} {first second : Machine}

theorem symm (lockstep : Lockstep related) :
    Lockstep fun first second => related second first where
  counter same := (lockstep.counter same).symm
  extended same := (lockstep.extended same).symm
  width same := (lockstep.width same).symm
  height same := (lockstep.height same).symm
  value same place := (lockstep.value same place).symm
  top same := (lockstep.top same).symm
  push same := lockstep.push same
  pop same := lockstep.pop same
  move same := lockstep.move same
  note same := lockstep.note same
  printNumber same := lockstep.printNumber same
  printChar same := lockstep.printChar same
  put same := lockstep.put same
  state same := (lockstep.state same).symm
  breakpoint same place := (lockstep.breakpoint same place).symm
  generator same := (lockstep.generator same).symm
  replies same := (lockstep.replies same).symm
  draw same := lockstep.draw same
  refill same := lockstep.refill same
  enter same := lockstep.enter same
  count same := lockstep.count same
  steps same := (lockstep.steps same).symm

theorem execute (lockstep : Lockstep related) (same : related first second) (value : Int64) :
    (first.execute value).1 = (second.execute value).1 ∧
      related (first.execute value).2 (second.execute value).2 := by
  apply lockstep.toCongruence.execute same value
  · intro _
    exact ⟨lockstep.generator same, lockstep.draw same⟩
  · intro request _
    exact lockstep.toCongruence.read (lockstep.replies same) (lockstep.refill same) request

theorem advance (lockstep : Lockstep related) (same : related first second) :
    related first.advance second.advance := by
  unfold Machine.advance
  simp only [position, Grid.offset, Grid.wrapPosition, lockstep.counter same,
    lockstep.width same, lockstep.height same]
  exact lockstep.move same _

theorem complete (lockstep : Lockstep related) (same : related first second) :
    related first.complete second.complete := by
  have counter := lockstep.counter same
  have counted := lockstep.count same
  cases halted : first.counter.halted with
  | true =>
      rw [complete_of_halted halted, complete_of_halted (counter ▸ halted)]
      exact lockstep.enter counted .halted
  | false =>
      have moved : related first.moved second.moved := lockstep.advance counted
      -- Both arrive at one position, and the cell there has the same mark.
      have current : first.moved.current.breakpoint = second.moved.current.breakpoint := by
        have position : first.moved.position = second.moved.position :=
          congrArg Counter.position (lockstep.counter moved)
        unfold Machine.current
        rw [position]
        exact lockstep.breakpoint moved second.moved.position
      rw [complete_of_running halted, complete_of_running (counter ▸ halted), current]
      exact lockstep.enter moved _

theorem stop (lockstep : Lockstep related) (same : related first second)
    (fault : ArithmeticFault) : related (first.stop fault) (second.stop fault) := by
  unfold Machine.stop
  rw [lockstep.counter same]
  apply lockstep.note
  exact lockstep.enter (lockstep.count (lockstep.move same _)) .halted

theorem finish (lockstep : Lockstep related) (same : related first second)
    (result : Except ArithmeticFault Flow) :
    (finish (result, first)).1 = (finish (result, second)).1 ∧
      related (finish (result, first)).2 (finish (result, second)).2 := by
  rcases result with fault | _ | request
  · exact ⟨rfl, lockstep.stop same fault⟩
  · have completed := lockstep.complete same
    exact ⟨congrArg Except.ok (lockstep.state completed), completed⟩
  · exact ⟨rfl, lockstep.enter same (.awaiting request)⟩

theorem step (lockstep : Lockstep related) (same : related first second) :
    first.step.1 = second.step.1 ∧ related first.step.2 second.step.2 := by
  have state := lockstep.state same
  by_cases active : first.Active
  · have alsoActive : second.Active := by
      unfold Active at active ⊢
      rw [← state]
      exact active
    have value : first.current.value = second.current.value := by
      have position : first.position = second.position :=
        congrArg Counter.position (lockstep.counter same)
      unfold Machine.current
      rw [position]
      exact lockstep.value same second.position
    obtain ⟨result, after⟩ := lockstep.execute same first.current.value
    rw [step_of_active active, step_of_active alsoActive, ← value]
    rcases executed : second.execute first.current.value with ⟨outcome, left⟩
    rcases alsoExecuted : first.execute first.current.value with ⟨_, right⟩
    rw [executed, alsoExecuted] at result after
    subst result
    exact lockstep.finish after _
  · have alsoIdle : ¬ second.Active := by
      unfold Active at active ⊢
      rw [← state]
      exact active
    rw [step_of_not_active active, step_of_not_active alsoIdle]
    exact ⟨congrArg Except.ok state, same⟩

theorem resume (lockstep : Lockstep related) (same : related first second) :
    related first.resume second.resume := by
  have state := lockstep.state same
  by_cases paused : first.state = .paused
  · rw [resume_of_paused paused, resume_of_paused (state ▸ paused)]
    exact lockstep.enter same .running
  · rw [resume_of_not_paused paused, resume_of_not_paused (state ▸ paused)]
    exact same

theorem supply (lockstep : Lockstep related) (same : related first second) (reply : String) :
    related (first.supply reply) (second.supply reply) := by
  have state := lockstep.state same
  have refilled := lockstep.refill same (first.replies.supply reply)
  rcases first.waits_or_busy with ⟨request, awaiting⟩ | busy
  · rw [supply_of_awaiting reply awaiting, supply_of_awaiting reply (state ▸ awaiting),
      ← lockstep.replies same]
    exact lockstep.enter refilled .running
  · rw [supply_of_not_awaiting reply busy, supply_of_not_awaiting reply (state ▸ busy),
      ← lockstep.replies same]
    exact refilled

/-- Two runs end after equally many steps or not at all. -/
theorem runTo (lockstep : Lockstep related) (same : related first second) (goal : Option Nat)
    (fuel : Nat) :
    Machine.runTo goal fuel first = none ∧ Machine.runTo goal fuel second = none ∨
      ∃ result left right, Machine.runTo goal fuel first = some (result, left) ∧
        Machine.runTo goal fuel second = some (result, right) ∧ related left right := by
  induction fuel generalizing first second with
  | zero => exact Or.inl ⟨rfl, rfl⟩
  | succ fuel ih =>
      obtain ⟨result, after⟩ := lockstep.step same
      have goesOn : GoesOn goal first.step ↔ GoesOn goal second.step := by
        unfold GoesOn
        rw [result, lockstep.steps after]
      by_cases further : GoesOn goal first.step
      · rw [runTo_of_goesOn further, runTo_of_goesOn (goesOn.mp further)]
        exact ih after
      · rw [runTo_of_ends further, runTo_of_ends (mt goesOn.mpr further)]
        refine Or.inr ⟨first.step.1, first.step.2, second.step.2, rfl, ?_, after⟩
        rw [result]

/-- Whatever the first machine does, the second one does too. -/
theorem performs (lockstep : Lockstep related) (same : related first second)
    {operation : Operation} {returned : Returned} {after : Machine}
    (performs : Performs first operation returned after) :
    ∃ other, Performs second operation returned other ∧ related after other := by
  cases performs with
  | execute value =>
      obtain ⟨flow, kept⟩ := lockstep.execute same value
      rw [flow]
      exact ⟨_, .execute second value, kept⟩
  | call answered =>
      cases answered with
      | step =>
          obtain ⟨result, kept⟩ := lockstep.step same
          rw [result]
          exact ⟨_, .call (.step second), kept⟩
      | resume => exact ⟨_, .call (.resume second), lockstep.resume same⟩
      | supply reply => exact ⟨_, .call (.supply second reply), lockstep.supply same reply⟩
      | @run _ limit _ fuel finished =>
          unfold Machine.run at finished
          rw [lockstep.steps same] at finished
          rcases lockstep.runTo same (limit.map (second.steps + ·)) fuel with
            ⟨unfinished, _⟩ | ⟨result, left, right, ended, alsoEnded, kept⟩
          · rw [unfinished] at finished
            cases finished
          · rw [ended] at finished
            cases finished
            exact ⟨right, .call (.run fuel alsoEnded), kept⟩

theorem performed (lockstep : Lockstep related) {operations : List Operation}
    {answers : List Returned} {last : Machine} (same : related first second)
    (performed : Performed first operations answers last) :
    ∃ other, Performed second operations answers other ∧ related last other := by
  induction performed generalizing second with
  | nil => exact ⟨second, .nil second, same⟩
  | cons performs _ ih =>
      obtain ⟨next, alsoPerforms, stillSame⟩ := lockstep.performs same performs
      obtain ⟨other, later, kept⟩ := ih stillSame
      exact ⟨other, .cons alsoPerforms later, kept⟩

end Lockstep

end Playfield.Machine
