import Playfield.Proofs.Log

/-!
Runs with a limit. Such a run is one step after the other: it ends with the first step that does
not leave the machine running, or with the last one that its limit allows. The limit is tested
after a step, so even a limit of zero allows one.

Every step that leaves the machine running counts, which is why such a run ends. Where the limit
ended it, a second run goes on as if there had been no seam between the two.
-/

namespace Playfield.Machine

/-- What `step` returns when it is called again and again, for the call with the given number.
The first one has the number zero. -/
def stepAt (machine : Machine) (number : Nat) : StepResult × Machine :=
  (machine.after (List.replicate number .step)).step

/-- The call of `step` with which a row of calls ends: the first one that does not leave the
machine running, or the last one that is allowed. -/
structure EndsWith (machine : Machine) (allowed last : Nat) : Prop where
  inside : last < allowed
  running : ∀ earlier < last, (machine.stepAt earlier).1 = .ok .running
  ended : (machine.stepAt last).1 ≠ .ok .running ∨ last + 1 = allowed

section Calls
variable {machine : Machine} {allowed last : Nat}

theorem stepAt_succ (machine : Machine) (number : Nat) :
    machine.stepAt (number + 1) = machine.step.2.stepAt number := rfl

theorem stepAt_add (machine : Machine) (first second : Nat) :
    machine.stepAt (first + second) =
      (machine.after (List.replicate first .step)).stepAt second := by
  rw [stepAt, stepAt, ← List.replicate_append_replicate, after_append]

theorem after_stepAt (machine : Machine) (number : Nat) :
    machine.after (List.replicate (number + 1) .step) = (machine.stepAt number).2 := by
  rw [List.replicate_succ', after_append]
  rfl

theorem EndsWith.cons (first : machine.step.1 = .ok .running)
    (later : machine.step.2.EndsWith allowed last) : machine.EndsWith (allowed + 1) (last + 1) where
  inside := Nat.succ_lt_succ later.inside
  running := by
    intro earlier before
    cases earlier with
    | zero => exact first
    | succ earlier => exact later.running earlier (Nat.lt_of_succ_lt_succ before)
  ended := later.ended.imp id (congrArg (· + 1))

theorem EndsWith.tail (ends : machine.EndsWith (allowed + 1) (last + 1)) :
    machine.step.2.EndsWith allowed last where
  inside := Nat.lt_of_succ_lt_succ ends.inside
  running earlier before := ends.running (earlier + 1) (Nat.succ_lt_succ before)
  ended := ends.ended.imp id Nat.succ.inj

theorem exists_endsWith (machine : Machine) (positive : 0 < allowed) :
    ∃ last, machine.EndsWith allowed last := by
  induction allowed generalizing machine with
  | zero => exact absurd positive (Nat.lt_irrefl 0)
  | succ allowed ih =>
      by_cases running : machine.step.1 = .ok .running
      · cases allowed with
        | zero => exact ⟨0, Nat.one_pos, nofun, Or.inr rfl⟩
        | succ more =>
            obtain ⟨last, later⟩ := ih machine.step.2 more.succ_pos
            exact ⟨last + 1, later.cons running⟩
      · exact ⟨0, Nat.succ_pos allowed, nofun, Or.inl running⟩

theorem EndsWith.append {second later : Nat} {middle : Machine}
    (ends : machine.EndsWith allowed last) (reached : machine.stepAt last = (.ok .running, middle))
    (further : middle.EndsWith second later) :
    machine.EndsWith (allowed + second) (allowed + later) ∧
      machine.stepAt (allowed + later) = middle.stepAt later := by
  have running : (machine.stepAt last).1 = .ok .running := congrArg Prod.fst reached
  have full : last + 1 = allowed := ends.ended.resolve_left (not_not_intro running)
  have seam : ∀ number, machine.stepAt (allowed + number) = middle.stepAt number := by
    intro number
    rw [stepAt_add, ← full, after_stepAt, reached]
  refine ⟨⟨Nat.add_lt_add_left further.inside allowed, ?_, ?_⟩, seam later⟩
  · intro earlier before
    rcases Nat.lt_or_ge earlier last with early | late
    · exact ends.running earlier early
    · rcases Nat.eq_or_lt_of_le late with rfl | behind
      · exact running
      · obtain ⟨number, rfl⟩ := Nat.exists_eq_add_of_le (full ▸ behind : allowed ≤ earlier)
        rw [seam]
        exact further.running number (Nat.lt_of_add_lt_add_left before)
  · rw [seam]
    rcases further.ended with stops | all
    · exact Or.inl stops
    · exact Or.inr (congrArg (allowed + ·) all)

/-! Counting. -/

theorem completions_of_running (running : machine.step.1 = .ok .running) :
    machine.completions .step = 1 := by
  by_cases active : machine.Active
  · exact completions_of_active active fun request waits => nomatch running.symm.trans waits
  · rw [step_of_not_active active, Except.ok.injEq] at running
    exact absurd (active_of_running running) active

theorem completions_step_le (machine : Machine) : machine.completions .step ≤ 1 := by
  by_cases active : machine.Active
  · cases counted active with
    | counts _ ends => exact Nat.le_of_eq (completions_of_active active ends)
    | waits _ request _ result => exact completions_of_waits result ▸ Nat.zero_le 1
  · exact completions_of_not_active active ▸ Nat.zero_le 1

theorem completed_replicate_le (machine : Machine) (count : Nat) :
    machine.completed (List.replicate count .step) ≤ count := by
  induction count generalizing machine with
  | zero => exact Nat.le_refl 0
  | succ count ih =>
      have one := machine.completions_step_le
      have others := ih (machine.act .step)
      rw [List.replicate_succ, completed]
      omega

/-! The run. -/

theorem run_of_endsWith {limit : Nat} (bound : allowed = max limit 1)
    (ends : machine.EndsWith allowed last) (fuel : Nat) :
    machine.run (some limit) fuel = if last < fuel then some (machine.stepAt last) else none := by
  rw [run, Option.map_some]
  induction last generalizing machine allowed limit fuel with
  | zero =>
      cases fuel with
      | zero => rfl
      | succ fuel =>
          rw [if_pos fuel.succ_pos]
          apply runTo_of_ends
          intro goesOn
          have counts := steps_of_goesOn goesOn
          have early := goesOn.2
          have full : 0 + 1 = allowed := ends.ended.resolve_left (not_not_intro goesOn.1)
          rw [Option.any_some, decide_eq_false_iff_not] at early
          omega
  | succ last ih =>
      -- Only a limit of at least two lets the run reach this call.
      have inside := ends.inside
      obtain ⟨rest, rfl⟩ : ∃ rest, limit = rest + 1 := ⟨limit - 1, by omega⟩
      have more : allowed = max rest 1 + 1 := by omega
      have running : machine.step.1 = .ok .running := ends.running 0 last.succ_pos
      have counts : machine.step.2.steps = machine.steps + 1 := by
        rw [step_steps, completions_of_running running]
      have goesOn : GoesOn (some (machine.steps + (rest + 1))) machine.step := by
        refine ⟨running, ?_⟩
        rw [Option.any_some, decide_eq_false_iff_not]
        omega
      rw [more] at ends
      cases fuel with
      | zero => rfl
      | succ fuel =>
          have later := ih rfl ends.tail fuel
          have goal : machine.steps + (rest + 1) = machine.step.2.steps + rest := by omega
          rw [runTo_of_goesOn goesOn, goal, later, stepAt_succ]
          simp only [Nat.succ_lt_succ_iff]

theorem run_add {first second fuel : Nat} {middle : Machine} (some_first : 0 < first)
    (some_second : 0 < second)
    (ran : machine.run (some first) fuel = some (.ok .running, middle)) (more : Nat) :
    machine.run (some (first + second)) (first + more) = middle.run (some second) more := by
  obtain ⟨last, ends⟩ := machine.exists_endsWith some_first
  obtain ⟨later, further⟩ := middle.exists_endsWith some_second
  have reached : machine.stepAt last = (.ok .running, middle) := by
    rw [run_of_endsWith (by omega) ends] at ran
    split at ran
    · exact Option.some.inj ran
    · cases ran
  obtain ⟨whole, seam⟩ := ends.append reached further
  rw [run_of_endsWith (by omega) whole, run_of_endsWith (by omega) further, seam]
  simp only [Nat.add_lt_add_iff_left]

end Calls

/-- A run with a limit is a row of steps. It returns what the last of them does, which is the first
one that does not leave the machine running or the one that exhausts the limit; a limit of zero
allows one step. It completes no more instructions than that. If it leaves the machine running,
then a second run gives what one run with both limits together would have given. -/
theorem run_repeats_step (machine : Machine) :
    (∀ limit, ∃ last, machine.EndsWith (max limit 1) last ∧
      (∀ fuel, machine.run (some limit) fuel =
        if last < fuel then some (machine.stepAt last) else none) ∧
      let steps := List.replicate (last + 1) Act.step
      (machine.stepAt last).2.steps = machine.steps + machine.completed steps ∧
        machine.completed steps ≤ max limit 1) ∧
    ∀ first second, 1 ≤ first → 1 ≤ second → ∀ fuel middle,
      machine.run (some first) fuel = some (.ok .running, middle) →
      ∀ more, machine.run (some (first + second)) (first + more) =
        middle.run (some second) more := by
  constructor
  · intro limit
    have positive : 0 < max limit 1 := by omega
    obtain ⟨last, ends⟩ := machine.exists_endsWith positive
    refine ⟨last, ends, run_of_endsWith rfl ends, ?_, ?_⟩
    · rw [← after_stepAt, after_steps]
    · exact Nat.le_trans (machine.completed_replicate_le (last + 1)) ends.inside
  · intro first second some_first some_second fuel middle ran more
    exact run_add some_first some_second ran more

/-- The program `12+.@` runs on after two steps. A limit of five is then more than it needs, as is
one of seven from the start. -/
theorem run_repeats_step_seam :
    let machine := start (Grid.ofRow 49 [50, 43, 46, 64]) false 0 []
    let middle := machine.step.2.step.2
    machine.run (some 2) 2 = some (.ok .running, middle) ∧
      machine.run (some (2 + 5)) (2 + 5) = middle.run (some 5) 5 ∧
      (middle.run (some 5) 5).any (fun ended => ended.1 = .ok .halted ∧ ended.2.steps = 5) := by
  intro machine middle
  have ran : machine.run (some 2) 2 = some (.ok .running, middle) := by decide +kernel
  exact ⟨ran, (run_repeats_step machine).2 2 5 (by decide) (by decide) 2 middle ran 5,
    by decide +kernel⟩

end Playfield.Machine
