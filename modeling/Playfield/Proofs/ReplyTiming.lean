import Mathlib.Logic.Function.Iterate
import Playfield.Proofs.Invariant
import Playfield.Proofs.Pooling

/-!
The time at which replies arrive does not matter. A host may have put all replies into the
script, may supply all of them at once, or may hold them back until the machine asks. Either
way it follows one reference, the machine that has all replies from the start: between two
completed instructions it is behind the reference by refused replies and waits only.
-/

namespace Playfield

/-- A machine and the replies that its host holds back. -/
structure Host where
  machine : Machine
  held : List String

namespace Host

/-- One call of the host: it leaves breakpoints, answers when it is asked and has an answer, and
takes a step otherwise. -/
def turn (host : Host) : Host :=
  match host.machine.state, host.held with
  | .paused, _ => { host with machine := host.machine.resume }
  | .awaiting _, reply :: rest => ⟨host.machine.supply reply, rest⟩
  | _, _ => { host with machine := host.machine.step.2 }

/-- The replies that no instruction has used. -/
def left (host : Host) : List String := host.machine.replies.queue ++ host.held

/-- The second host is the first one just after its instruction of the given number. -/
def Completes (host : Host) (count : Nat) (after : Host) : Prop :=
  ∃ turns, (turn^[turns] host).machine.steps + 1 = count ∧
    turn^[turns + 1] host = after ∧ after.machine.steps = count

theorem turn_of_paused {host : Host} (paused : host.machine.state = .paused) :
    host.turn = { host with machine := host.machine.resume } := by
  simp [turn, paused]

theorem turn_of_asked {machine : Machine} {request : Request} {reply : String}
    {rest : List String} (awaiting : machine.state = .awaiting request) :
    turn ⟨machine, reply :: rest⟩ = ⟨machine.supply reply, rest⟩ := by
  simp [turn, awaiting]

theorem turn_of_silent {machine : Machine} (unpaused : machine.state ≠ .paused) :
    turn ⟨machine, []⟩ = ⟨machine.step.2, []⟩ := by
  cases state : machine.state with
  | paused => exact absurd state unpaused
  | running | awaiting _ | halted => simp [turn, state]

theorem turn_of_busy {host : Host} (unpaused : host.machine.state ≠ .paused)
    (busy : ∀ request, host.machine.state ≠ .awaiting request) :
    host.turn = { host with machine := host.machine.step.2 } := by
  cases state : host.machine.state with
  | paused => exact absurd state unpaused
  | awaiting request => exact absurd state (busy request)
  | running | halted => simp [turn, state]

/-! Following a reference. -/

def pool (host : Host) : Machine := host.machine.pooled host.held

/-- The host has yet to complete the instruction that the reference executes next. -/
structure Follows (reference : Machine) (host : Host) : Prop where
  consistent : host.machine.Consistent
  steps : host.machine.steps = reference.steps
  next : host.pool.resume.step = reference.resume.step

/-- The host has just completed that instruction. -/
structure Reaches (reference : Machine) (host : Host) : Prop where
  consistent : host.machine.Consistent
  steps : host.machine.steps = reference.steps + 1
  level : host.pool = reference.resume.step.2

theorem follows_step {reference : Machine} {host : Host} (follows : Follows reference host)
    (active : host.machine.Active) :
    Follows reference { host with machine := host.machine.step.2 } ∧
        (∃ request, host.machine.step.2.state = .awaiting request) ∨
      Reaches reference { host with machine := host.machine.step.2 } := by
  have consistent := Machine.step_consistent _ follows.consistent
  have unpaused : host.pool.resume = host.pool := Machine.resume_of_not_paused active.1
  have next := follows.next
  rw [unpaused] at next
  cases Machine.progress active with
  | completed steps pools =>
      refine Or.inr ⟨consistent, steps.trans (congrArg (· + 1) follows.steps), ?_⟩
      rw [← next]
      exact (congrArg Prod.snd (pools host.held)).symm
  | suspended steps request awaiting pools =>
      refine Or.inl ⟨⟨consistent, steps.trans follows.steps, ?_⟩, request, awaiting⟩
      rw [← next, Machine.resume_of_not_paused]
      · exact (pools host.held).symm
      · exact awaiting ▸ nofun

theorem follows_resume {reference : Machine} {host : Host} (follows : Follows reference host) :
    Follows reference { host with machine := host.machine.resume } := by
  refine ⟨Machine.resume_consistent _ follows.consistent, ?_, ?_⟩
  · obtain ⟨state, resumed⟩ := host.machine.resume_frame
    rw [resumed]
    exact follows.steps
  · rw [← follows.next, pool, pool, Machine.resume_pooled, Machine.resume_pooled,
      Machine.resume_resume]

theorem follows_supply {reference machine : Machine} {request : Request} {reply : String}
    {rest : List String} (follows : Follows reference ⟨machine, reply :: rest⟩)
    (awaiting : machine.state = .awaiting request) :
    Follows reference ⟨machine.supply reply, rest⟩ := by
  have empty := follows.consistent.replies_of_awaiting awaiting
  have asked : (machine.pooled (reply :: rest)).state ≠ .paused :=
    (Machine.active_of_awaiting awaiting).1
  have running : (machine.supply reply).state = .running := by
    rw [Machine.supply_of_awaiting reply awaiting]
  have answered : ((machine.supply reply).pooled rest).state ≠ .paused :=
    (Machine.active_of_running running).1
  refine ⟨Machine.supply_consistent _ reply follows.consistent, ?_, ?_⟩
  · rw [Machine.supply_of_awaiting reply awaiting]
    exact follows.steps
  · rw [← follows.next, pool, pool, Machine.resume_of_not_paused answered,
      Machine.resume_of_not_paused asked, Machine.step_pooled_supply reply rest awaiting empty]

/-! A reference that goes on is followed: every turn that does not complete the instruction
uses up a held reply or a wait between two of them. -/

def rank (host : Host) : Nat :=
  match host.machine.state with
  | .paused => 2 * host.held.length + 2
  | .running => 2 * host.held.length + 1
  | _ => 2 * host.held.length

-- A host is stuck once its program has ended or waits for a reply that the host does not have;
-- its reference is at the end of its instructions too.
inductive Turned (reference : Machine) (host : Host) : Prop where
  | nearer (follows : Follows reference host.turn) (smaller : host.turn.rank < host.rank)
  | reached (reaches : Reaches reference host.turn)
  | stuck (same : host.turn = host) (ends : reference.resume.step.2.steps = reference.steps)

theorem follows_turned {reference : Machine} {host : Host} (follows : Follows reference host) :
    Turned reference host := by
  rcases host with ⟨machine, held⟩
  cases state : machine.state with
  | paused =>
      apply Turned.nearer
      · rw [turn_of_paused state]
        exact follows_resume follows
      · rw [turn_of_paused state]
        simp [rank, state, Machine.resume_of_paused state]
  | running =>
      have active := Machine.active_of_running state
      have turned : turn ⟨machine, held⟩ = ⟨machine.step.2, held⟩ :=
        turn_of_busy active.1 (state ▸ nofun)
      rcases follows_step follows active with ⟨still, request, awaiting⟩ | arrived
      · apply Turned.nearer
        · rw [turned]
          exact still
        · rw [turned]
          simp [rank, state, awaiting]
      · apply Turned.reached
        rw [turned]
        exact arrived
  | halted =>
      have idle : ¬ machine.Active := fun active => active.2 state
      have alsoIdle : ¬ (pool ⟨machine, held⟩).Active := idle
      apply Turned.stuck
      · rw [turn_of_busy (state ▸ nofun) (state ▸ nofun), Machine.step_of_not_active idle]
      · rw [← follows.next, Machine.resume_of_not_paused (state ▸ nofun),
          Machine.step_of_not_active alsoIdle]
        exact follows.steps
  | awaiting request =>
      cases held with
      | nil =>
          have consistent : machine.Consistent := follows.consistent
          have stays := consistent.step_of_awaiting state
          apply Turned.stuck
          · rw [turn_of_silent (state ▸ nofun), stays]
          · rw [← follows.next, pool, Machine.pooled_nil (consistent.awaiting request state).2.1,
              Machine.resume_of_not_paused (state ▸ nofun), stays]
            exact follows.steps
      | cons reply rest =>
          apply Turned.nearer
          · rw [turn_of_asked state]
            exact follows_supply follows state
          · rw [turn_of_asked state]
            simp [rank, state, Machine.supply_of_awaiting reply state]
            omega

theorem follows_turn {reference : Machine} {host : Host} (follows : Follows reference host) :
    Follows reference host.turn ∨ Reaches reference host.turn := by
  cases follows_turned follows with
  | nearer still _ => exact Or.inl still
  | reached arrived => exact Or.inr arrived
  | stuck same _ =>
      rw [same]
      exact Or.inl follows

/-- The next instruction of the reference is completed after finitely many turns, the last of
which completes it. -/
theorem follows_reaches {reference : Machine} {host : Host} (follows : Follows reference host)
    (goesOn : reference.resume.step.2.steps = reference.steps + 1) :
    ∃ turns, Follows reference (turn^[turns] host) ∧
      Reaches reference (turn^[turns + 1] host) := by
  induction size : host.rank using Nat.strongRecOn generalizing host with
  | ind size ih =>
      subst size
      cases follows_turned follows with
      | nearer still smaller =>
          obtain ⟨turns, before, after⟩ := ih host.turn.rank smaller still rfl
          exact ⟨turns + 1, before, after⟩
      | reached arrived => exact ⟨0, follows, arrived⟩
      | stuck _ ends => omega

end Host

/-! Runs by instructions. A reference has all replies, so each of its instructions completes in
one step or never. -/

namespace Machine

def next? (machine : Machine) : Option Machine :=
  let after := machine.resume.step.2
  if after.steps = machine.steps + 1 then some after else none

/-- The machine just after its instruction of the given number, if it completes so many. -/
def after? (machine : Machine) : Nat → Option Machine
  | 0 => some machine
  | count + 1 => (machine.after? count).bind next?

theorem next?_eq_some {machine after : Machine} (next : machine.next? = some after) :
    machine.resume.step.2 = after ∧ after.steps = machine.steps + 1 := by
  simp only [next?] at next
  split at next
  · rename_i completed
    cases next
    exact ⟨rfl, completed⟩
  · cases next

theorem after?_queue {machine after : Machine} {count : Nat}
    (reached : machine.after? count = some after) :
    after.replies.queue <:+ machine.replies.queue := by
  induction count generalizing after with
  | zero =>
      cases reached
      exact List.suffix_rfl
  | succ count ih =>
      obtain ⟨before, earlier, next⟩ := Option.bind_eq_some_iff.mp reached
      obtain ⟨rfl, _⟩ := next?_eq_some next
      obtain ⟨state, resumed⟩ := before.resume_frame
      have kept : before.resume.replies = before.replies := by rw [resumed]
      have used := before.resume.step_queue
      rw [kept] at used
      exact used.trans (ih earlier)

end Machine

namespace Host

theorem next?_of_reaches {reference : Machine} {host : Host} (reached : Reaches reference host) :
    reference.next? = some host.pool := by
  have steps : reference.resume.step.2.steps = reference.steps + 1 := by
    rw [← reached.level]
    exact reached.steps
  rw [Machine.next?, if_pos steps, reached.level]

theorem follows_of_consistent {host : Host} (consistent : host.machine.Consistent) :
    Follows host.pool host :=
  ⟨consistent, rfl, rfl⟩

variable {host : Host}

/-- After any number of turns a fresh host follows the reference that has completed as many
instructions. -/
theorem turns_follow (consistent : host.machine.Consistent) (fresh : host.machine.steps = 0)
    (turns : Nat) :
    ∃ reference, host.pool.after? (turn^[turns] host).machine.steps = some reference ∧
      Follows reference (turn^[turns] host) := by
  induction turns with
  | zero =>
      refine ⟨host.pool, ?_, follows_of_consistent consistent⟩
      rw [Function.iterate_zero, id, fresh]
      rfl
  | succ turns ih =>
      obtain ⟨reference, reached, follows⟩ := ih
      rw [Function.iterate_succ_apply']
      rcases follows_turn follows with still | arrived
      · refine ⟨reference, ?_, still⟩
        rw [still.steps, ← follows.steps]
        exact reached
      · refine ⟨(turn (turn^[turns] host)).pool, ?_, follows_of_consistent arrived.consistent⟩
        rw [arrived.steps, ← follows.steps, Machine.after?, reached]
        exact next?_of_reaches arrived

theorem after?_of_completes (consistent : host.machine.Consistent)
    (fresh : host.machine.steps = 0) {count : Nat} {after : Host}
    (completes : host.Completes count after) : host.pool.after? count = some after.pool := by
  obtain ⟨turns, before, turned, steps⟩ := completes
  obtain ⟨reference, reached, follows⟩ := turns_follow consistent fresh turns
  rw [Function.iterate_succ_apply'] at turned
  rcases follows_turn follows with still | arrived
  · have same := still.steps.trans follows.steps.symm
    rw [turned] at same
    omega
  · rw [turned] at arrived
    rw [← before, Machine.after?, reached]
    exact next?_of_reaches arrived

/-- Every instruction of the reference is completed by the host too. -/
theorem turns_reach (consistent : host.machine.Consistent) (fresh : host.machine.steps = 0)
    {count : Nat} {reference : Machine} (reached : host.pool.after? count = some reference) :
    ∃ turns, Follows reference (turn^[turns] host) ∧ (turn^[turns] host).machine.steps = count ∧
      (0 < count → ∃ after, host.Completes count after) := by
  induction count generalizing reference with
  | zero =>
      cases reached
      exact ⟨0, follows_of_consistent consistent, fresh, fun positive => absurd positive (by omega)⟩
  | succ count ih =>
      obtain ⟨before, earlier, next⟩ := Option.bind_eq_some_iff.mp reached
      obtain ⟨turns, follows, steps, _⟩ := ih earlier
      obtain ⟨rfl, goesOn⟩ := Machine.next?_eq_some next
      obtain ⟨more, last, arrived⟩ := follows_reaches follows goesOn
      rw [← Function.iterate_add_apply] at last arrived
      have before := last.steps.trans (follows.steps.symm.trans steps)
      have after := arrived.steps.trans (congrArg (· + 1) (follows.steps.symm.trans steps))
      rw [Nat.add_right_comm] at arrived after
      refine ⟨more + turns + 1, ?_, after, fun _ => ?_⟩
      · rw [← arrived.level]
        exact follows_of_consistent arrived.consistent
      · exact ⟨_, more + turns, congrArg (· + 1) before, rfl, after⟩

theorem completes_iff (consistent : host.machine.Consistent) (fresh : host.machine.steps = 0)
    (count : Nat) :
    (∃ after, host.Completes count after) ↔ 0 < count ∧ (host.pool.after? count).isSome := by
  constructor
  · rintro ⟨after, completes⟩
    have positive : 0 < count := by
      obtain ⟨turns, before, _⟩ := completes
      omega
    refine ⟨positive, ?_⟩
    rw [after?_of_completes consistent fresh completes]
    rfl
  · rintro ⟨positive, reached⟩
    obtain ⟨reference, reached⟩ := Option.isSome_iff_exists.mp reached
    obtain ⟨_, _, _, completes⟩ := turns_reach consistent fresh reached
    exact completes positive

/-! Three hosts with the same replies. -/

section Timing
variable (grid : Grid) (extended : Bool) (seed : UInt64) (replies : List String)

def scripted : Host := ⟨.start grid extended seed replies, []⟩

def supplied : Host := ⟨replies.foldl Machine.supply (.start grid extended seed []), []⟩

def prompted : Host := ⟨.start grid extended seed [], replies⟩

theorem supplied_running (machine : Machine) (running : machine.state = .running) :
    replies.foldl Machine.supply machine =
      { machine with
        replies := ⟨machine.replies.supplied ++ replies, machine.replies.script⟩ } := by
  induction replies generalizing machine with
  | nil => simp
  | cons reply rest ih =>
      have busy : ∀ request, machine.state ≠ .awaiting request := running ▸ nofun
      rw [List.foldl_cons, Machine.supply_of_not_awaiting reply busy]
      refine (ih _ ?_).trans ?_
      · exact running
      · simp [Replies.supply]

structure Starts (host : Host) : Prop where
  consistent : host.machine.Consistent
  fresh : host.machine.steps = 0
  pool : host.pool = .start grid extended seed replies

theorem scripted_starts : Starts grid extended seed replies (scripted grid extended seed replies) :=
  ⟨Machine.start_consistent grid extended seed replies, rfl, Machine.pooled_nil rfl⟩

theorem prompted_starts : Starts grid extended seed replies (prompted grid extended seed replies) :=
  ⟨Machine.start_consistent grid extended seed [], rfl, rfl⟩

theorem supplied_starts :
    Starts grid extended seed replies (supplied grid extended seed replies) := by
  have all := supplied_running replies (.start grid extended seed []) rfl
  unfold supplied
  rw [all]
  refine ⟨.of_running rfl ?_ rfl, rfl, ?_⟩
  · exact (Machine.start_consistent grid extended seed []).modes
  · simp [Host.pool, Machine.pooled, Machine.start, Replies.queue, Replies.ofScript]

end Timing

/-- Two hosts whose machines differ at most in where their unused replies are. -/
structure Level (first second : Host) : Prop where
  grid : first.machine.grid = second.machine.grid
  stack : first.machine.stack = second.machine.stack
  counter : first.machine.counter = second.machine.counter
  state : first.machine.state = second.machine.state
  generator : first.machine.generator = second.machine.generator
  output : first.machine.output = second.machine.output
  journal : first.machine.journal = second.machine.journal
  steps : first.machine.steps = second.machine.steps
  left : first.left = second.left

theorem level_of_pool {first second : Host} (same : first.pool = second.pool) :
    first.Level second := by
  simp only [pool, Machine.pooled, Replies.ofScript, Machine.mk.injEq, Replies.mk.injEq] at same
  obtain ⟨grid, stack, counter, state, _, generator, ⟨_, left⟩, output, journal, steps⟩ := same
  exact ⟨grid, stack, counter, state, generator, output, journal, steps, left⟩

/-- Hosts with the same replies complete the same instructions, and after each of them they are
level and have used the same replies, the first ones. -/
theorem reply_timing_irrelevant (grid : Grid) (extended : Bool) (seed : UInt64)
    (replies : List String) (count : Nat) :
    let first := scripted grid extended seed replies
    let second := supplied grid extended seed replies
    let third := prompted grid extended seed replies
    ((∃ x, first.Completes count x) ↔ ∃ y, second.Completes count y) ∧
    ((∃ x, first.Completes count x) ↔ ∃ z, third.Completes count z) ∧
    ∀ x y z, first.Completes count x → second.Completes count y → third.Completes count z →
      x.Level y ∧ x.Level z ∧
        ∃ used, replies = used ++ x.left ∧ replies = used ++ y.left ∧ replies = used ++ z.left := by
  intro first second third
  have atFirst : Starts grid extended seed replies first := scripted_starts ..
  have atSecond : Starts grid extended seed replies second := supplied_starts ..
  have atThird : Starts grid extended seed replies third := prompted_starts ..
  refine ⟨?_, ?_, ?_⟩
  · rw [completes_iff atFirst.consistent atFirst.fresh, completes_iff atSecond.consistent
      atSecond.fresh, atFirst.pool, atSecond.pool]
  · rw [completes_iff atFirst.consistent atFirst.fresh, completes_iff atThird.consistent
      atThird.fresh, atFirst.pool, atThird.pool]
  · intro x y z byFirst bySecond byThird
    have atX := after?_of_completes atFirst.consistent atFirst.fresh byFirst
    have atY := after?_of_completes atSecond.consistent atSecond.fresh bySecond
    have atZ := after?_of_completes atThird.consistent atThird.fresh byThird
    rw [atFirst.pool] at atX
    rw [atSecond.pool, atX, Option.some.injEq] at atY
    rw [atThird.pool, atX, Option.some.injEq] at atZ
    have toY := level_of_pool atY
    have toZ := level_of_pool atZ
    obtain ⟨used, whole⟩ := Machine.after?_queue atX
    refine ⟨toY, toZ, used, whole.symm, ?_, ?_⟩
    · rw [← toY.left]
      exact whole.symm
    · rw [← toZ.left]
      exact whole.symm

/-- The program `&@` with a reply that it refuses and one that it takes. The host that is asked
needs five turns for the first instruction. -/
theorem reply_timing_irrelevant_retry :
    let grid := Grid.ofRow 38 [64]
    let x := turn^[1] (scripted grid false 0 ["x", "7"])
    let y := turn^[1] (supplied grid false 0 ["x", "7"])
    let z := turn^[5] (prompted grid false 0 ["x", "7"])
    (scripted grid false 0 ["x", "7"]).Completes 1 x ∧
      (supplied grid false 0 ["x", "7"]).Completes 1 y ∧
      (prompted grid false 0 ["x", "7"]).Completes 1 z ∧ x.Level y ∧ x.Level z := by
  intro grid x y z
  have byFirst : (scripted grid false 0 ["x", "7"]).Completes 1 x :=
    ⟨0, by decide +kernel, rfl, by decide +kernel⟩
  have bySecond : (supplied grid false 0 ["x", "7"]).Completes 1 y :=
    ⟨0, by decide +kernel, rfl, by decide +kernel⟩
  have byThird : (prompted grid false 0 ["x", "7"]).Completes 1 z :=
    ⟨4, by decide +kernel, rfl, by decide +kernel⟩
  have level := (reply_timing_irrelevant grid false 0 ["x", "7"] 1).2.2 x y z byFirst bySecond
    byThird
  exact ⟨byFirst, bySecond, byThird, level.1, level.2.1⟩

end Host

end Playfield
