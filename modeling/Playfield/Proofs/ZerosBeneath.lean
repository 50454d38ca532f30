import Playfield.Proofs.Lockstep

/-!
A program cannot find the bottom of its stack. Zeros laid beneath everything that it pushed are
the ones that an empty stack gives anyway, so a machine with more of them runs in lockstep with
one that has fewer. Taking a value from the empty stack uses up one zero of the other, which is
why the two differ by some number of zeros and not by a fixed one.
-/

namespace Playfield

namespace Stack

def deepened (stack : Stack) (zeros : Nat) : Stack := ⟨stack.values ++ List.replicate zeros 0⟩

theorem top_deepened (stack : Stack) (zeros : Nat) : (stack.deepened zeros).top = stack.top := by
  rcases stack with ⟨_ | ⟨value, rest⟩⟩
  · cases zeros with
    | zero => rfl
    | succ zeros => rfl
  · rfl

theorem rest_deepened (stack : Stack) (zeros : Nat) :
    ∃ left, (stack.deepened zeros).rest = stack.rest.deepened left := by
  rcases stack with ⟨_ | ⟨value, rest⟩⟩
  · refine ⟨zeros - 1, ?_⟩
    cases zeros with
    | zero => rfl
    | succ zeros => rfl
  · exact ⟨zeros, rfl⟩

end Stack

namespace Machine

def deepened (machine : Machine) (zeros : Nat) : Machine :=
  { machine with stack := machine.stack.deepened zeros }

theorem deepened_lockstep :
    Lockstep fun first second => ∃ zeros, second = first.deepened zeros where
  counter := by rintro first _ ⟨zeros, rfl⟩; rfl
  extended := by rintro first _ ⟨zeros, rfl⟩; rfl
  width := by rintro first _ ⟨zeros, rfl⟩; rfl
  height := by rintro first _ ⟨zeros, rfl⟩; rfl
  value := by rintro first _ ⟨zeros, rfl⟩ place; rfl
  top := by
    rintro first _ ⟨zeros, rfl⟩
    exact (first.stack.top_deepened zeros).symm
  push := by rintro first _ ⟨zeros, rfl⟩ value; exact ⟨zeros, rfl⟩
  pop := by
    rintro first _ ⟨zeros, rfl⟩
    obtain ⟨left, rest⟩ := first.stack.rest_deepened zeros
    refine ⟨left, ?_⟩
    simp only [pop, deepened, rest]
  move := by rintro first _ ⟨zeros, rfl⟩ counter; exact ⟨zeros, rfl⟩
  note := by rintro first _ ⟨zeros, rfl⟩ cause; exact ⟨zeros, rfl⟩
  printNumber := by rintro first _ ⟨zeros, rfl⟩ value; exact ⟨zeros, rfl⟩
  printChar := by rintro first _ ⟨zeros, rfl⟩ character; exact ⟨zeros, rfl⟩
  put := by rintro first _ ⟨zeros, rfl⟩ place value; exact ⟨zeros, rfl⟩
  state := by rintro first _ ⟨zeros, rfl⟩; rfl
  breakpoint := by rintro first _ ⟨zeros, rfl⟩ place; rfl
  generator := by rintro first _ ⟨zeros, rfl⟩; rfl
  replies := by rintro first _ ⟨zeros, rfl⟩; rfl
  draw := by rintro first _ ⟨zeros, rfl⟩ generator; exact ⟨zeros, rfl⟩
  refill := by rintro first _ ⟨zeros, rfl⟩ replies; exact ⟨zeros, rfl⟩
  enter := by rintro first _ ⟨zeros, rfl⟩ state; exact ⟨zeros, rfl⟩
  count := by rintro first _ ⟨zeros, rfl⟩; exact ⟨zeros, rfl⟩
  steps := by rintro first _ ⟨zeros, rfl⟩; rfl

/-- Zeros beneath a stack are found by no operation: with and without them the same operations
return, they return the same, and the machines after them differ by zeros beneath the stack and
by nothing else. -/
theorem zeros_beneath_unnoticed (machine : Machine) (zeros : Nat) (operations : List Operation) :
    ((∃ answers last, Performed machine operations answers last) ↔
      ∃ answers last, Performed (machine.deepened zeros) operations answers last) ∧
    ∀ answers last others deeper, Performed machine operations answers last →
      Performed (machine.deepened zeros) operations others deeper →
      answers = others ∧ ∃ left, deeper = last.deepened left := by
  have follows : ∀ answers last, Performed machine operations answers last →
      ∃ deeper, Performed (machine.deepened zeros) operations answers deeper ∧
        ∃ left, deeper = last.deepened left :=
    fun _ _ performed => deepened_lockstep.performed ⟨zeros, rfl⟩ performed
  refine ⟨⟨?_, ?_⟩, ?_⟩
  · rintro ⟨answers, last, performed⟩
    obtain ⟨deeper, alsoPerformed, _⟩ := follows answers last performed
    exact ⟨answers, deeper, alsoPerformed⟩
  · rintro ⟨answers, deeper, performed⟩
    obtain ⟨last, alsoPerformed, _⟩ := deepened_lockstep.symm.performed ⟨zeros, rfl⟩ performed
    exact ⟨answers, last, alsoPerformed⟩
  · intro answers last others deeper performed alsoPerformed
    obtain ⟨found, deepPerformed, kept⟩ := follows answers last performed
    obtain ⟨rfl, rfl⟩ := deepPerformed.unique alsoPerformed
    exact ⟨rfl, kept⟩

/-- The program `$%@` after a duplicate executed in place. It divides by zero and empties the
stack; of five zeros beneath it three are left. -/
theorem zeros_beneath_unnoticed_division :
    let machine := start (Grid.ofRow 36 [37, 64]) false 0 []
    let operations : List Operation := [.execute 58, .call (.run none)]
    let answers : List Returned :=
      [.flow (.ok .done), .result (some (.error ⟨.remainder, ⟨1, 0⟩⟩))]
    let last := (machine.execute 58).2.step.2.step.2
    let deeper := ((machine.deepened 5).execute 58).2.step.2.step.2
    last.stack.values = [] ∧ deeper.stack.values = [0, 0, 0] ∧
      Performed machine operations answers last ∧
      Performed (machine.deepened 5) operations answers deeper ∧
      ∃ left, deeper = last.deepened left := by
  intro machine operations answers last deeper
  have ran : (machine.execute 58).2.run none 2 =
      some (.error ⟨.remainder, ⟨1, 0⟩⟩, last) := by decide +kernel
  have alsoRan : ((machine.deepened 5).execute 58).2.run none 2 =
      some (.error ⟨.remainder, ⟨1, 0⟩⟩, deeper) := by decide +kernel
  have performed : Performed machine operations answers last :=
    .cons (.execute machine 58) (.cons (.call (.run 2 ran)) (.nil last))
  have alsoPerformed : Performed (machine.deepened 5) operations answers deeper :=
    .cons (.execute _ 58) (.cons (.call (.run 2 alsoRan)) (.nil deeper))
  refine ⟨by decide +kernel, by decide +kernel, performed, alsoPerformed, ?_⟩
  exact ((zeros_beneath_unnoticed machine 5 operations).2 answers last answers deeper performed
    alsoPerformed).2

end Machine

end Playfield
