import Playfield.Proofs.Consumption

/-!
What a step of an instruction that reads does, told by the replies that are waiting. The replies
up to the first good one leave their queues, those before it with a warning each; a machine without
a good reply has nothing left afterwards but its warnings, and everything else is as it was.

An instruction asks for one reply after the other and knows no end of its own. `Replies.ask` is
that loop with a limit on the questions, and one question more than there are replies suffices.
-/

namespace Playfield

namespace Request

def symbol : Request → Char
  | integer => '&'
  | character => '~'

def Good : Request → String → Prop
  | integer, reply => (Decimal.readSigned? reply).isSome
  | character, reply => reply ≠ ""

/-- What a good reply stands for: its number, or the code point of its first character. -/
def Means : Request → String → Int64 → Prop
  | integer, reply, value => Decimal.readSigned? reply = some value
  | character, reply, value =>
      ∃ first rest, reply.toList = first :: rest ∧ value = Scalar.code first

theorem decode_symbol (request : Request) (extended : Bool) :
    Instruction.decode extended (Scalar.code request.symbol) = some (.read request) := by
  cases request <;> cases extended <;> rfl

theorem value?_eq_none_iff (request : Request) (reply : String) :
    request.value? reply = none ↔ ¬ request.Good reply := by
  cases request with
  | integer => simp [value?, Good]
  | character => simp [value?, Good]

theorem value?_eq_some_iff (request : Request) (reply : String) (value : Int64) :
    request.value? reply = some value ↔ request.Means reply value := by
  cases request with
  | integer => rfl
  | character =>
      simp only [value?, Means]
      cases reply.toList with
      | nil => simp
      | cons first rest => simp [eq_comm]

end Request

namespace Replies

/-! The loop. -/

/-- Asks for one reply after the other until one is usable or none is left; nothing if that takes
more questions than the limit allows. -/
def ask (request : Request) : Nat → Replies → Option Taken
  | 0, _ => none
  | limit + 1, replies =>
      match replies.next with
      | (none, rest) => some ⟨[], none, rest⟩
      | (some reply, rest) =>
          match request.value? reply with
          | some value => some ⟨[], some (reply, value), rest⟩
          | none =>
              (ask request limit rest).map fun later =>
                { later with refused := reply :: later.refused }

theorem ask_eq_take (request : Request) (replies : Replies) (limit : Nat)
    (enough : replies.queue.length < limit) :
    ask request limit replies = some (replies.take request) := by
  induction limit generalizing replies with
  | zero => exact absurd enough (Nat.not_lt_zero _)
  | succ limit ih =>
      obtain ⟨supplied, script⟩ := replies
      cases supplied with
      | cons reply rest =>
          cases value : request.value? reply with
          | some number => simp [ask, next, take, search, value]
          | none =>
              have later := ih ⟨rest, script⟩ (Nat.lt_of_succ_lt_succ enough)
              simp only [ask, next, value, later, take, search, Option.map_some]
              cases (search request rest).found <;> rfl
      | nil =>
          cases script with
          | nil => rfl
          | cons reply rest =>
              cases value : request.value? reply with
              | some number => simp [ask, next, take, search, value]
              | none =>
                  have later := ih ⟨[], rest⟩ (Nat.lt_of_succ_lt_succ enough)
                  simp [ask, next, value, later, take, search]

/-! What is taken. -/

theorem search_of_refused {request : Request} {refused : List String}
    (unusable : ∀ reply ∈ refused, request.value? reply = none) (later : List String) :
    search request (refused ++ later) =
      ⟨refused ++ (search request later).refused, (search request later).found,
        (search request later).rest⟩ := by
  induction refused with
  | nil => rfl
  | cons reply rest ih =>
      have first := unusable reply List.mem_cons_self
      have others := ih fun other member => unusable other (List.mem_cons_of_mem reply member)
      simp only [List.cons_append, search, first, others]

/-- The replies that are taken leave the front of the supplied ones, and the front of the script
once those are used up. -/
theorem take_rest (replies : Replies) (request : Request) :
    let count := (replies.take request).refused.length +
      ((replies.take request).found.map Prod.fst).toList.length
    (replies.take request).rest =
      ⟨replies.supplied.drop count, replies.script.drop (count - replies.supplied.length)⟩ := by
  intro count
  obtain ⟨supplied, script, fromHost, fromScript, patient, parts⟩ := replies.take_parts request
  have taken : supplied.length + script.length = count := by
    rw [← List.length_append, parts, List.length_append]
  generalize (replies.take request).rest = rest at fromHost fromScript patient
  obtain ⟨restSupplied, restScript⟩ := rest
  rw [fromHost, fromScript, ← taken, mk.injEq]
  rcases patient with rfl | rfl
  · simp
  · simp

theorem take_of_good {replies : Replies} {request : Request} {refused rest : List String}
    {reply : String} {value : Int64} (queue : replies.queue = refused ++ reply :: rest)
    (unusable : ∀ other ∈ refused, request.value? other = none)
    (usable : request.value? reply = some value) :
    replies.take request =
      ⟨refused, some (reply, value),
        ⟨replies.supplied.drop (refused.length + 1),
          replies.script.drop (refused.length + 1 - replies.supplied.length)⟩⟩ := by
  have searched : search request replies.queue = ⟨refused, some (reply, value), rest⟩ := by
    rw [queue, search_of_refused unusable]
    simp [search, usable]
  have before : (replies.take request).refused = refused := by
    rw [(replies.take_queue request).1, searched]
  have found : (replies.take request).found = some (reply, value) := by
    rw [(replies.take_queue request).2.1, searched]
  have left := replies.take_rest request
  rw [before, found] at left
  generalize replies.take request = taken at before found left
  cases taken
  cases before
  cases found
  exact congrArg (Taken.mk _ _) left

theorem found_of_refused {replies : Replies} {request : Request}
    (unusable : ∀ reply ∈ replies.queue, request.value? reply = none) :
    (replies.take request).found = none := by
  have searched := search_of_refused unusable []
  rw [List.append_nil] at searched
  rw [(replies.take_queue request).2.1, searched]
  rfl

end Replies

namespace Machine

/-- What a machine has to report about a good reply and the replies refused before it. -/
def warnings (request : Request) (refused : List String) (reply : String) : List Cause :=
  refused.map (.malformedReply request) ++
    if request = .character ∧ 1 < reply.length then [.surplusCharacters reply] else []

theorem severity_of_warnings {request : Request} {refused : List String} {reply : String}
    {cause : Cause} (reported : cause ∈ warnings request refused reply) :
    cause.severity = .warning := by
  rcases List.mem_append.mp reported with early | late
  · obtain ⟨other, _, rfl⟩ := List.mem_map.mp early
    rfl
  · split at late
    · cases List.mem_singleton.mp late
      rfl
    · cases late

theorem hasSurplus_iff (request : Request) (reply : String) :
    request.hasSurplus reply = true ↔ request = .character ∧ 1 < reply.length := by
  cases request with
  | integer => simp [Request.hasSurplus]
  | character => simp [Request.hasSurplus, String.length_toList]

theorem reports_of_good {machine : Machine} {request : Request} {refused : List String}
    {reply : String} {value : Int64} {rest : Replies}
    (taken : machine.replies.take request = ⟨refused, some (reply, value), rest⟩) :
    machine.reports (.read request) = warnings request refused reply := by
  simp only [reports, taken, warnings, hasSurplus_iff]

theorem read_of_good {machine : Machine} {request : Request} {refused : List String}
    {reply : String} {value : Int64} {rest : Replies}
    (taken : machine.replies.take request = ⟨refused, some (reply, value), rest⟩) :
    machine.read request = (.done, { machine with
      stack := machine.stack.push value
      replies := rest
      journal := machine.journal.recordAll
        (machine.stamped (warnings request refused reply)) }) := by
  have found : (machine.replies.take request).found = some (reply, value) := by rw [taken]
  have journal := machine.read_journal request
  have read := read_of_found found
  rw [reports_of_good taken, read] at journal
  rw [read, ← journal, taken]

/-- A step at an instruction that reads. It asks for at most one reply more than there are. The
first good reply is used up with all before it, from the supplied replies and then from the
script; each of those before it is reported, and so is a good one of which only the first character
counts; its value is pushed and the counter moves on. Without a good reply the machine waits: every
reply is reported and gone, and nothing else has changed. -/
theorem reads_first_good (machine : Machine) (request : Request)
    (awake : machine.state = .running ∨ ∃ other, machine.state = .awaiting other)
    (unquoted : machine.counter.stringMode = false)
    (unskipped : machine.counter.skipNext = false)
    (unhalted : machine.counter.halted = false)
    (reading : machine.current.value = Scalar.code request.symbol) :
    let supplied := machine.replies.supplied
    let script := machine.replies.script
    let delta := machine.counter.heading.delta
    let position := machine.grid.offset machine.position delta.1 delta.2
    let state : RunState := if (machine.grid.cell position).breakpoint then .paused else .running
    Replies.ask request ((supplied ++ script).length + 1) machine.replies =
      some (machine.replies.take request) ∧
    (∀ refused reply rest, supplied ++ script = refused ++ reply :: rest →
      (∀ other ∈ refused, ¬ request.Good other) → request.Good reply →
        let count := refused.length + 1
        ∃ value, request.Means reply value ∧
          machine.step = (.ok state, { machine with
            stack := machine.stack.push value
            counter.position := position
            state
            replies := ⟨supplied.drop count, script.drop (count - supplied.length)⟩
            journal := machine.journal.recordAll
              (machine.stamped (warnings request refused reply))
            steps := machine.steps + 1 }) ∧
          ∀ cause ∈ warnings request refused reply, cause.severity = .warning) ∧
    ((∀ reply ∈ supplied ++ script, ¬ request.Good reply) →
      machine.step = (.ok (.awaiting request), { machine with
        state := .awaiting request
        replies := ⟨[], []⟩
        journal := machine.journal.recordAll
          (machine.stamped ((supplied ++ script).map (.malformedReply request))) })) := by
  intro supplied script delta position state
  have active := machine.active_iff.mpr awake
  have dispatched : machine.Dispatches machine.current.value (.read request) :=
    ⟨unquoted, unskipped, reading ▸ request.decode_symbol machine.extended⟩
  have executed := execute_of_dispatches dispatched
  refine ⟨machine.replies.ask_eq_take request _ (Nat.lt_succ_self _), ?_, ?_⟩
  · intro refused reply rest queue unusable good count
    obtain ⟨value, usable⟩ : ∃ value, request.value? reply = some value := by
      apply Option.ne_none_iff_exists'.mp
      intro missing
      exact (request.value?_eq_none_iff reply).mp missing good
    have taken := Replies.take_of_good queue
      (fun other member => (request.value?_eq_none_iff other).mpr (unusable other member)) usable
    refine ⟨value, (request.value?_eq_some_iff reply value).mp usable, ?_,
      fun _ => severity_of_warnings⟩
    rw [perform, read_of_good taken] at executed
    exact step_of_done active executed unhalted
  · intro bad
    have missing : (machine.replies.take request).found = none :=
      Replies.found_of_refused fun reply member =>
        (request.value?_eq_none_iff reply).mpr (bad reply member)
    rw [perform, read_of_missing missing] at executed
    rw [step_of_active active, executed, ← refuse_eq_recordAll]
    rfl

/-- The program `~@`. It refuses an empty reply from its host and another one from the script, uses
the first character of the third and leaves the fourth. With only the first two it has to wait. -/
theorem reads_first_good_surplus :
    let machine := (start (Grid.ofRow 126 [64]) false 0 ["", "xyz", "w"]).supply ""
    let starved := (start (Grid.ofRow 126 [64]) false 0 [""]).supply ""
    machine.step.1 = .ok .running ∧ machine.step.2.replies = ⟨[], ["w"]⟩ ∧
      machine.step.2.stack = ⟨[120]⟩ ∧
      machine.step.2.journal.notices.map Notice.cause =
        [.malformedReply .character "", .malformedReply .character "",
          .surplusCharacters "xyz"] ∧
      starved.step.1 = .ok (.awaiting .character) ∧ starved.step.2.stack = starved.stack := by
  intro machine starved
  obtain ⟨_, uses, _⟩ := reads_first_good machine .character (Or.inl (by decide)) (by decide)
    (by decide) (by decide) (by decide)
  obtain ⟨_, _, waits⟩ := reads_first_good starved .character (Or.inl (by decide)) (by decide)
    (by decide) (by decide) (by decide)
  obtain ⟨_, ⟨first, later, spelled, rfl⟩, stepped, _⟩ :=
    uses ["", ""] "xyz" ["w"] (by decide) (by simp [Request.Good]) (by simp [Request.Good])
  have starving := waits (by
    simp [starved, supply, start, Replies.ofScript, Replies.supply, Request.Good])
  have letter : first = 'x' := by
    have letters : "xyz".toList = ['x', 'y', 'z'] := by decide
    rw [letters] at spelled
    cases spelled
    rfl
  rw [stepped, starving, letter]
  exact ⟨by decide, by decide, by decide, by decide, rfl, rfl⟩

end Machine

end Playfield
