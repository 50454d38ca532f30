import Playfield.Proofs.Congruence

/-!
Replies that have not arrived yet. `pooled` hands a machine, behind all of its own replies,
those that a host still holds back. An instruction that completes does the same to the pooled
machine. One that has to wait has recorded the refused replies and dropped them; the pooled
machine goes on exactly as it would have before.
-/

namespace Playfield.Machine

def pooled (machine : Machine) (extra : List String) : Machine :=
  { machine with replies := .ofScript (machine.replies.queue ++ extra) }

theorem pooled_congruence (extra : List String) :
    Congruence fun first second => second = first.pooled extra := by
  constructor <;> rintro first _ rfl
  all_goals intros
  all_goals rfl

theorem pooled_nil {machine : Machine} (unsupplied : machine.replies.supplied = []) :
    machine.pooled [] = machine := by
  have queue : machine.replies.queue ++ [] = machine.replies.script := by
    rw [Replies.queue, unsupplied, List.append_nil, List.nil_append]
  have same : Replies.ofScript machine.replies.script = machine.replies := by
    rw [Replies.ofScript, ← unsupplied]
  rw [pooled, queue, same]

/-! Reading from a pool. -/

theorem take_pooled_of_found {machine : Machine} {request : Request} {usable : String × Int64}
    (extra : List String) (found : (machine.replies.take request).found = some usable) :
    (machine.pooled extra).replies.take request =
      ⟨(machine.replies.take request).refused, some usable,
        .ofScript ((machine.replies.take request).rest.queue ++ extra)⟩ := by
  obtain ⟨refused, sameFound, rest⟩ := machine.replies.take_queue request
  rw [found] at sameFound
  rw [pooled, Replies.take_ofScript, Replies.search_append, ← sameFound, ← refused, ← rest]

theorem take_pooled_of_missing {machine : Machine} {request : Request} (extra : List String)
    (missing : (machine.replies.take request).found = none) :
    (machine.pooled extra).replies.take request =
      ⟨machine.replies.queue ++ (Replies.search request extra).refused,
        (Replies.search request extra).found, .ofScript (Replies.search request extra).rest⟩ := by
  have sameMissing := (machine.replies.take_queue request).2.1
  rw [missing] at sameMissing
  rw [pooled, Replies.take_ofScript, Replies.search_append, ← sameMissing]

theorem read_pooled_of_found {machine : Machine} {request : Request} {usable : String × Int64}
    (extra : List String) (found : (machine.replies.take request).found = some usable) :
    (machine.pooled extra).read request =
      ((machine.read request).1, (machine.read request).2.pooled extra) := by
  have taken := take_pooled_of_found extra found
  have alsoFound : ((machine.pooled extra).replies.take request).found = some usable := by
    rw [taken]
  rw [read_of_found found, read_of_found alsoFound, taken]
  rfl

-- The notices of the replies that were refused before the wait come first either way.
theorem read_pooled_of_missing {machine : Machine} {request : Request} (extra : List String)
    (missing : (machine.replies.take request).found = none) :
    (machine.pooled extra).read request =
      ((machine.waiting request).pooled extra).read request := by
  have taken := take_pooled_of_missing extra missing
  have again : ((machine.waiting request).pooled extra).replies.take request =
      ⟨(Replies.search request extra).refused, (Replies.search request extra).found,
        .ofScript (Replies.search request extra).rest⟩ := rfl
  cases found : (Replies.search request extra).found with
  | some usable =>
      rw [read_of_found ((congrArg Replies.Taken.found taken).trans found),
        read_of_found ((congrArg Replies.Taken.found again).trans found), taken, again,
        Journal.refuse_append]
      rfl
  | none =>
      rw [read_of_missing ((congrArg Replies.Taken.found taken).trans found),
        read_of_missing ((congrArg Replies.Taken.found again).trans found)]
      simp only [waiting, pooled, Replies.ofScript, Replies.queue, List.nil_append,
        Journal.refuse_append, position]

/-! Executing and stepping with a pool. -/

theorem execute_pooled {machine : Machine} {value : Int64} (extra : List String)
    (ends : ∀ request, (machine.execute value).1 ≠ .ok (.suspended request)) :
    (machine.pooled extra).execute value =
      ((machine.execute value).1, (machine.execute value).2.pooled extra) := by
  refine (pooled_congruence extra).execute_map machine value ⟨rfl, fun _ => rfl⟩ ?_
  intro request dispatched
  cases found : (machine.replies.take request).found with
  | some usable => exact read_pooled_of_found extra found
  | none =>
      refine absurd ?_ (ends request)
      rw [execute_of_dispatches dispatched, perform, read_of_missing found]

theorem execute_pooled_of_suspended {machine : Machine} {value : Int64} {request : Request}
    (extra : List String) (waits : (machine.execute value).1 = .ok (.suspended request)) :
    (machine.pooled extra).execute value =
      ((machine.execute value).2.pooled extra).execute value := by
  obtain ⟨dispatched, missing, after⟩ := dispatches_of_suspended waits
  have inPool : (machine.pooled extra).Dispatches value (.read request) :=
    ⟨dispatched.unquoted, dispatched.unskipped, dispatched.decoded⟩
  have stillThere : ((machine.waiting request).pooled extra).Dispatches value (.read request) :=
    ⟨dispatched.unquoted, dispatched.unskipped, dispatched.decoded⟩
  rw [after, execute_of_dispatches inPool, execute_of_dispatches stillThere, perform, perform,
    read_pooled_of_missing extra missing]

theorem complete_pooled (machine : Machine) (extra : List String) :
    (machine.pooled extra).complete = machine.complete.pooled extra := by
  cases halted : machine.counter.halted with
  | true =>
      have alsoHalted : (machine.pooled extra).counter.halted = true := halted
      rw [complete_of_halted halted, complete_of_halted alsoHalted]
      rfl
  | false =>
      have alsoRunning : (machine.pooled extra).counter.halted = false := halted
      rw [complete_of_running halted, complete_of_running alsoRunning]
      rfl

theorem finish_pooled (result : Except ArithmeticFault Flow) (machine : Machine)
    (extra : List String) :
    finish (result, machine.pooled extra) =
      ((finish (result, machine)).1, (finish (result, machine)).2.pooled extra) := by
  rcases result with fault | _ | request
  · rfl
  · simp only [finish, complete_pooled]
    rfl
  · rfl

theorem resume_pooled (machine : Machine) (extra : List String) :
    (machine.pooled extra).resume = machine.resume.pooled extra :=
  resume_map (fun machine => machine.pooled extra) machine rfl rfl

-- Supplying the first reply of a pool takes it out of the pool; the state that goes with it
-- leaves no trace.
theorem step_pooled_supply {machine : Machine} {request : Request} (reply : String)
    (rest : List String) (awaiting : machine.state = .awaiting request)
    (empty : machine.replies = ⟨[], []⟩) :
    ((machine.supply reply).pooled rest).step = (machine.pooled (reply :: rest)).step := by
  have answered : (machine.supply reply).pooled rest =
      (machine.pooled (reply :: rest)).withState .running := by
    rw [supply_of_awaiting reply awaiting]
    simp only [pooled, withState, Replies.supply, Replies.queue, empty, List.nil_append,
      List.append_nil, List.cons_append]
  have asked : (machine.pooled (reply :: rest)).Active := active_of_awaiting awaiting
  rw [answered]
  exact step_withState asked (active_of_running rfl)

/-- What a step does to an active machine and to its pools: it completes the instruction in all
of them, or it waits and leaves all of them where they were. -/
inductive Progress (machine : Machine) : Prop where
  | completed (steps : machine.step.2.steps = machine.steps + 1)
      (pools : ∀ extra, (machine.pooled extra).step =
        (machine.step.1, machine.step.2.pooled extra))
  | suspended (steps : machine.step.2.steps = machine.steps) (request : Request)
      (awaiting : machine.step.2.state = .awaiting request)
      (pools : ∀ extra, (machine.pooled extra).step = (machine.step.2.pooled extra).step)

theorem progress {machine : Machine} (active : machine.Active) : Progress machine := by
  have stepped := step_of_active active
  have inPool : ∀ extra, (machine.pooled extra).step =
      finish ((machine.pooled extra).execute machine.current.value) :=
    fun _ => step_of_active active
  cases counted active with
  | counts steps ends =>
      -- A completed instruction, also one that met a fault, does the same in every pool.
      have unsuspended : ∀ request,
          (machine.execute machine.current.value).1 ≠ .ok (.suspended request) := by
        intro request waits
        apply ends request
        simp only [stepped, finish, waits]
      refine .completed steps ?_
      intro extra
      rw [inPool, execute_pooled extra unsuspended, finish_pooled, stepped]
  | waits steps request suspended result =>
      have after := (dispatches_of_suspended suspended).2.2
      have left : machine.step.2 = (machine.waiting request).withState (.awaiting request) := by
        simp only [stepped, finish, suspended, after]
        rfl
      refine .suspended steps request (step_state result) ?_
      intro extra
      have stillActive : ((machine.waiting request).pooled extra).Active := active
      have awaiting : (((machine.waiting request).pooled extra).withState
          (.awaiting request)).Active := active_of_awaiting rfl
      rw [inPool, execute_pooled_of_suspended extra suspended, after, left]
      exact (step_of_active stillActive).symm.trans (step_withState stillActive awaiting).symm

end Playfield.Machine
