import Playfield.Proofs.Instructions
import Playfield.Proofs.Log

/-!
Where replies go. A reply leaves its queue in one way only: an instruction that reads draws it,
from the front of the supplied replies or, once none of those is waiting, from the front of the
script. It is then used or refused. A use finishes the instruction and a refusal is reported, so
the replies that are gone are as many as the finished readings and the reports together, also
when a step draws many replies and has to wait in the end.
-/

namespace Playfield

namespace Replies

inductive Source where
  | host
  | script
  deriving DecidableEq

structure Draw where
  source : Source
  reply : String
  deriving DecidableEq

/-- Replies drawn one after the other. A reply of the script is drawn only while no supplied
reply is waiting. -/
inductive Draws : Replies → List Draw → Replies → Prop where
  | nil (replies : Replies) : Draws replies [] replies
  | host {reply : String} {rest script : List String} {draws : List Draw} {last : Replies}
      (later : Draws ⟨rest, script⟩ draws last) :
      Draws ⟨reply :: rest, script⟩ (⟨.host, reply⟩ :: draws) last
  | script {reply : String} {rest : List String} {draws : List Draw} {last : Replies}
      (later : Draws ⟨[], rest⟩ draws last) :
      Draws ⟨[], reply :: rest⟩ (⟨.script, reply⟩ :: draws) last

/-- The replies at the front of either queue that are not there any more. -/
def gone (before after : Replies) : List Draw :=
  (before.supplied.take (before.supplied.length - after.supplied.length)).map (Draw.mk .host) ++
    (before.script.take (before.script.length - after.script.length)).map (Draw.mk .script)

def drawnFrom (source : Source) (draws : List Draw) : List String :=
  (draws.filter (·.source = source)).map Draw.reply

theorem drawnFrom_append (source : Source) (first second : List Draw) :
    drawnFrom source (first ++ second) = drawnFrom source first ++ drawnFrom source second := by
  simp [drawnFrom]

theorem gone_eq {before after : Replies} {supplied script : List String}
    (fromHost : before.supplied = supplied ++ after.supplied)
    (fromScript : before.script = script ++ after.script) :
    gone before after = supplied.map (Draw.mk .host) ++ script.map (Draw.mk .script) := by
  simp [gone, fromHost, fromScript]

theorem gone_self (replies : Replies) : gone replies replies = [] := by
  simp [gone]

theorem gone_supply (replies : Replies) (reply : String) :
    gone replies (replies.supply reply) = [] := by
  simp [gone, supply]

/-! What taking a reply draws. -/

theorem search_parts (request : Request) (replies : List String) :
    replies = (search request replies).refused ++
      ((search request replies).found.map Prod.fst).toList ++ (search request replies).rest := by
  induction replies with
  | nil => rfl
  | cons reply rest ih =>
      cases value : request.value? reply with
      | some number => simp [search, value]
      | none =>
          simp only [search, value, List.cons_append, List.cons.injEq, true_and]
          exact ih

/-- The replies that are taken come from the two queues, and from the script only if the supplied
ones do not suffice. -/
theorem take_parts (replies : Replies) (request : Request) :
    ∃ supplied script, replies.supplied = supplied ++ (replies.take request).rest.supplied ∧
      replies.script = script ++ (replies.take request).rest.script ∧
      (script = [] ∨ (replies.take request).rest.supplied = []) ∧
      supplied ++ script = (replies.take request).refused ++
        ((replies.take request).found.map Prod.fst).toList := by
  have first := search_parts request replies.supplied
  cases found : (search request replies.supplied).found with
  | some usable =>
      have taken : replies.take request = ⟨(search request replies.supplied).refused, some usable,
          ⟨(search request replies.supplied).rest, replies.script⟩⟩ := by
        simp [take, found]
      rw [taken]
      rw [found] at first
      exact ⟨_, [], first, rfl, Or.inl rfl, List.append_nil _⟩
  | none =>
      have second := search_parts request replies.script
      have all := search_of_found_none request replies.supplied found
      have taken : replies.take request =
          ⟨replies.supplied ++ (search request replies.script).refused,
            (search request replies.script).found, ⟨[], (search request replies.script).rest⟩⟩ := by
        simp [take, all]
      rw [taken]
      refine ⟨replies.supplied, _, (List.append_nil _).symm, second, Or.inr rfl, ?_⟩
      rw [List.append_assoc]

theorem draws_of_parts (supplied : List String) {script : List String} {after : Replies}
    (patient : script = [] ∨ after.supplied = []) :
    Draws ⟨supplied ++ after.supplied, script ++ after.script⟩
      (supplied.map (Draw.mk .host) ++ script.map (Draw.mk .script)) after := by
  induction supplied with
  | cons reply rest ih => exact .host ih
  | nil =>
      induction script with
      | nil => exact .nil after
      | cons reply rest ih =>
          rcases patient with absurdity | empty
          · cases absurdity
          · rw [empty] at ih ⊢
            exact .script (ih (Or.inr rfl))

theorem take_draws (replies : Replies) (request : Request) :
    Draws replies (gone replies (replies.take request).rest) (replies.take request).rest := by
  obtain ⟨supplied, script, fromHost, fromScript, patient, _⟩ := replies.take_parts request
  have drawn := draws_of_parts supplied patient
  rw [← fromHost, ← fromScript, ← gone_eq fromHost fromScript] at drawn
  exact drawn

theorem length_gone_take (replies : Replies) (request : Request) :
    (gone replies (replies.take request).rest).length =
      (replies.take request).refused.length +
        ((replies.take request).found.map Prod.fst).toList.length := by
  obtain ⟨supplied, script, fromHost, fromScript, _, parts⟩ := replies.take_parts request
  have lengths := congrArg List.length parts
  rw [gone_eq fromHost fromScript]
  simpa using lengths

/-- Draws leave each queue without a front part, in order. -/
theorem Draws.supplied {before after : Replies} {draws : List Draw}
    (drawn : Draws before draws after) :
    drawnFrom .host draws ++ after.supplied = before.supplied := by
  induction drawn with
  | nil => rfl
  | host _ ih => simpa [drawnFrom] using ih
  | script _ ih => simpa [drawnFrom] using ih

theorem Draws.scripted {before after : Replies} {draws : List Draw}
    (drawn : Draws before draws after) :
    drawnFrom .script draws ++ after.script = before.script := by
  induction drawn with
  | nil => rfl
  | host _ ih => simpa [drawnFrom] using ih
  | script _ ih => simpa [drawnFrom] using ih

end Replies

def Cause.isRefusal : Cause → Bool
  | .malformedReply _ _ => true
  | _ => false

def Machine.Act.supplies : Machine.Act → List String
  | .supply reply => [reply]
  | .step | .resume | .execute _ => []

def Machine.Operation.supplies : Machine.Operation → List String
  | .call (.supply reply) => [reply]
  | .call .step | .call (.run _) | .call .resume | .execute _ => []

namespace Machine

open Replies (Draw Draws drawnFrom)

def draws (machine : Machine) (act : Act) : List Draw :=
  machine.replies.gone (machine.act act).replies

def reads (machine : Machine) (act : Act) : Bool :=
  match machine.finished? act with
  | some (.read _) => true
  | _ => false

def allDraws (machine : Machine) (history : List Act) : List Draw :=
  (machine.moments history).flatMap fun moment => moment.1.draws moment.2

/-- How many instructions that read a history finishes. -/
def allReads (machine : Machine) (history : List Act) : Nat :=
  (machine.moments history).countP fun moment => moment.1.reads moment.2

/-! One act. -/

theorem refusals_stamped (machine : Machine) (causes : List Cause) :
    (machine.stamped causes).countP (·.cause.isRefusal) = causes.countP Cause.isRefusal := by
  rw [stamped, List.countP_map]
  rfl

theorem refusals_faultNotices (machine : Machine) :
    machine.faultNotices.countP (·.cause.isRefusal) = 0 := by
  simp only [faultNotices]
  split <;> rfl

theorem refusals_of_subject {machine : Machine} {act : Act} {value : Int64}
    (subject : machine.subject? act = some value) :
    (machine.raised act).countP (·.cause.isRefusal) =
      (machine.causes value).countP Cause.isRefusal := by
  cases act with
  | resume => cases subject
  | supply reply => cases subject
  | execute other =>
      cases subject
      exact machine.refusals_stamped _
  | step =>
      by_cases active : machine.Active
      · rw [subject?_of_active active] at subject
        cases subject
        rw [raised_of_active active, List.countP_append, refusals_stamped, refusals_faultNotices,
          Nat.add_zero]
      · rw [subject?_of_not_active active] at subject
        cases subject

theorem refusals_of_read {machine : Machine} {value : Int64} {request : Request}
    (dispatched : machine.dispatched? value = some (.read request)) :
    (machine.causes value).countP Cause.isRefusal =
      (machine.replies.take request).refused.length := by
  have read := dispatched?_eq_some.mp dispatched
  have refused : ((machine.replies.take request).refused.map
      (Cause.malformedReply request)).countP Cause.isRefusal =
        (machine.replies.take request).refused.length := by
    rw [List.countP_map]
    exact List.countP_eq_length.mpr fun _ _ => rfl
  simp only [causes, read.unquoted, read.unskipped, read.decoded, reports, Bool.or_self,
    Bool.false_eq_true, ↓reduceIte, List.countP_append, refused]
  split
  · split <;> rfl
  · rfl

theorem refusals_of_other {machine : Machine} {value : Int64}
    (other : ∀ request, machine.dispatched? value ≠ some (.read request)) :
    (machine.causes value).countP Cause.isRefusal = 0 := by
  simp only [dispatched?] at other
  simp only [causes]
  split
  · rfl
  · rename_i plain
    rw [if_neg plain] at other
    split
    · rename_i instruction decoded
      cases instruction with
      | read request => exact absurd decoded (other request)
      | printCharacter =>
          simp only [reports]
          split <;> rfl
      | _ => rfl
    · rfl

theorem reads_of_read {machine : Machine} {act : Act} {value : Int64} {request : Request}
    (subject : machine.subject? act = some value)
    (dispatched : machine.dispatched? value = some (.read request)) :
    machine.reads act = (machine.replies.take request).found.isSome := by
  simp only [reads, finished?, subject]
  cases found : (machine.replies.take request).found with
  | none =>
      rw [suspends_iff.mpr ⟨dispatched, found⟩]
      rfl
  | some usable =>
      rw [execute_of_dispatches (dispatched?_eq_some.mp dispatched), perform,
        read_of_found found, dispatched]
      rfl

theorem reads_of_other {machine : Machine} {act : Act} {value : Int64}
    (subject : machine.subject? act = some value)
    (other : ∀ request, machine.dispatched? value ≠ some (.read request)) :
    machine.reads act = false := by
  simp only [reads, finished?, subject]
  split
  · rename_i request finished
    split at finished
    · cases finished
    · exact absurd finished (other request)
  · rfl

/-- What an act does to the replies: it draws some for a request, it supplies one, or it leaves
them alone. -/
inductive Custody (machine : Machine) (act : Act) : Prop where
  | draws (request : Request) (silent : act.supplies = [])
      (replies : (machine.act act).replies = (machine.replies.take request).rest)
      (reads : machine.reads act = (machine.replies.take request).found.isSome)
      (refusals : (machine.raised act).countP (·.cause.isRefusal) =
        (machine.replies.take request).refused.length)
  | supplies (reply : String) (supplies : act = .supply reply)
  | leaves (silent : act.supplies = []) (replies : (machine.act act).replies = machine.replies)
      (reads : machine.reads act = false)
      (refusals : (machine.raised act).countP (·.cause.isRefusal) = 0)

theorem custody (machine : Machine) (act : Act) : machine.Custody act := by
  cases subject : machine.subject? act with
  | some value =>
      have silent : act.supplies = [] := by
        cases act with
        | supply reply => cases subject
        | _ => rfl
      have follows := (act_follows subject).replies
      by_cases reading : ∃ request, machine.dispatched? value = some (.read request)
      · obtain ⟨request, dispatched⟩ := reading
        apply Custody.draws request silent
        · exact follows.trans (execute_replies_of_read dispatched)
        · exact reads_of_read subject dispatched
        · exact (refusals_of_subject subject).trans (refusals_of_read dispatched)
      · have other : ∀ request, machine.dispatched? value ≠ some (.read request) :=
          fun request dispatched => reading ⟨request, dispatched⟩
        apply Custody.leaves silent
        · exact follows.trans (execute_replies other)
        · exact reads_of_other subject other
        · exact (refusals_of_subject subject).trans (refusals_of_other other)
  | none =>
      have reads : machine.reads act = false := by
        simp only [Machine.reads, finished?, subject]
      obtain ⟨state, acted⟩ := act_of_idle subject
      cases act with
      | supply reply => exact .supplies reply rfl
      | execute value => cases subject
      | resume => exact .leaves rfl (by rw [acted]) reads rfl
      | step =>
          apply Custody.leaves rfl (by rw [acted]) reads
          by_cases active : machine.Active
          · rw [subject?_of_active active] at subject
            cases subject
          · rw [raised_of_not_active active]
            rfl

theorem draws_of_silent {machine : Machine} {act : Act} (silent : act.supplies = []) :
    Draws machine.replies (machine.draws act) (machine.act act).replies := by
  cases machine.custody act with
  | draws request _ replies _ _ =>
      rw [Machine.draws, replies]
      exact machine.replies.take_draws request
  | supplies reply supplies =>
      rw [supplies] at silent
      cases silent
  | leaves _ replies _ _ =>
      rw [Machine.draws, replies, Replies.gone_self]
      exact .nil _

theorem supply_replies (machine : Machine) (reply : String) :
    (machine.supply reply).replies = machine.replies.supply reply := by
  rcases machine.waits_or_busy with ⟨request, awaiting⟩ | busy
  · rw [supply_of_awaiting reply awaiting]
  · rw [supply_of_not_awaiting reply busy]

theorem draws_of_supply (machine : Machine) (reply : String) :
    machine.draws (.supply reply) = [] := by
  simp only [draws, act, supply_replies, Replies.gone_supply]

/-- A reply is drawn for every instruction that is finished by one and for every refusal. -/
theorem length_draws (machine : Machine) (act : Act) :
    (machine.draws act).length =
      (if machine.reads act then 1 else 0) +
        (machine.raised act).countP (·.cause.isRefusal) := by
  cases machine.custody act with
  | draws request _ replies reads refusals =>
      have drawn := machine.replies.length_gone_take request
      rw [Machine.draws, replies, reads, refusals, drawn, Nat.add_comm]
      cases (machine.replies.take request).found <;> rfl
  | supplies reply supplies =>
      subst supplies
      rw [draws_of_supply]
      rfl
  | leaves _ replies reads refusals =>
      rw [Machine.draws, replies, reads, refusals, Replies.gone_self]
      rfl

theorem draws_supplied (machine : Machine) (act : Act) :
    drawnFrom .host (machine.draws act) ++ (machine.act act).replies.supplied =
      machine.replies.supplied ++ act.supplies := by
  cases act with
  | supply reply =>
      rw [draws_of_supply, Machine.act, supply_replies]
      rfl
  | step | resume | execute value =>
      exact (draws_of_silent rfl).supplied.trans (List.append_nil _).symm

theorem draws_scripted (machine : Machine) (act : Act) :
    drawnFrom .script (machine.draws act) ++ (machine.act act).replies.script =
      machine.replies.script := by
  cases act with
  | supply reply =>
      rw [draws_of_supply, Machine.act, supply_replies]
      rfl
  | step | resume | execute value => exact (draws_of_silent rfl).scripted

/-! Histories. -/

theorem allDraws_cons (machine : Machine) (act : Act) (later : List Act) :
    machine.allDraws (act :: later) = machine.draws act ++ (machine.act act).allDraws later :=
  List.flatMap_cons

theorem allReads_cons (machine : Machine) (act : Act) (later : List Act) :
    machine.allReads (act :: later) =
      (machine.act act).allReads later + (if machine.reads act then 1 else 0) :=
  List.countP_cons ..

theorem length_allDraws (machine : Machine) (history : List Act) :
    (machine.allDraws history).length =
      machine.allReads history + (machine.logged history).countP (·.cause.isRefusal) := by
  induction history generalizing machine with
  | nil => rfl
  | cons act later ih =>
      have first := machine.length_draws act
      have rest := ih (machine.act act)
      rw [allDraws_cons, allReads_cons, logged, List.length_append, List.countP_append]
      omega

theorem allDraws_supplied (machine : Machine) (history : List Act) :
    drawnFrom .host (machine.allDraws history) ++ (machine.after history).replies.supplied =
      machine.replies.supplied ++ history.flatMap Act.supplies := by
  induction history generalizing machine with
  | nil => exact (List.append_nil _).symm
  | cons act later ih =>
      have rest := ih (machine.act act)
      rw [allDraws_cons, Replies.drawnFrom_append, List.flatMap_cons, List.append_assoc,
        ← List.append_assoc machine.replies.supplied, ← draws_supplied, List.append_assoc]
      exact congrArg (_ ++ ·) rest

theorem allDraws_scripted (machine : Machine) (history : List Act) :
    drawnFrom .script (machine.allDraws history) ++ (machine.after history).replies.script =
      machine.replies.script := by
  induction history generalizing machine with
  | nil => rfl
  | cons act later ih =>
      have rest := ih (machine.act act)
      rw [allDraws_cons, Replies.drawnFrom_append, List.append_assoc, ← draws_scripted machine act]
      exact congrArg (_ ++ ·) rest

theorem Traces.supplies {machine : Machine} {operation : Operation} {acts : List Act}
    (traces : Traces machine operation acts) :
    acts.flatMap Act.supplies = operation.supplies := by
  cases traces with
  | run took =>
      apply List.flatMap_eq_nil_iff.mpr
      intro act inside
      rw [List.eq_of_mem_replicate inside]
      rfl
  | step | resume | supply | execute => rfl

theorem Traced.supplies {machine : Machine} {operations : List Operation} {history : List Act}
    (traced : Traced machine operations history) :
    history.flatMap Act.supplies = operations.flatMap Operation.supplies := by
  induction traced with
  | nil => rfl
  | cons traces _ ih => rw [List.flatMap_append, List.flatMap_cons, traces.supplies, ih]

/-- No reply is lost, used twice or dropped without a report. Over any operations, from any
machine, the replies that are gone from the two queues are as many as the instructions that were
finished by a reply and the refusals that were recorded. The supplied replies went in the order
in which they were supplied and the others in the order of the script, and each of the latter at
a time when no supplied reply was waiting. -/
theorem replies_accounted {first last : Machine} {operations : List Operation}
    {answers : List Returned} (performed : Performed first operations answers last) :
    ∃ history, Traced first operations history ∧ first.after history = last ∧
      let drawn := first.allDraws history
      last.journal = first.journal.recordAll (first.logged history) ∧
      drawn.length =
        first.allReads history + (first.logged history).countP (·.cause.isRefusal) ∧
      drawnFrom .host drawn ++ last.replies.supplied =
        first.replies.supplied ++ operations.flatMap Operation.supplies ∧
      drawnFrom .script drawn ++ last.replies.script = first.replies.script ∧
      ∀ moment ∈ first.moments history, moment.2.supplies = [] →
        Draws moment.1.replies (moment.1.draws moment.2) (moment.1.act moment.2).replies := by
  obtain ⟨history, traced, rfl⟩ := performed.traced
  refine ⟨history, traced, rfl, first.after_journal _, first.length_allDraws _, ?_,
    first.allDraws_scripted _, ?_⟩
  · rw [← traced.supplies]
    exact first.allDraws_supplied _
  · intro moment _ silent
    exact draws_of_silent silent

/-- The program `&~@` over two runs. The first refuses the one reply of the script and waits, the
second refuses a supplied reply and uses two. -/
theorem replies_accounted_two_runs :
    let first := start (Grid.ofRow 38 [126, 64]) false 0 ["no"]
    let operations : List Operation := [.call (.run none), .call (.supply "x"),
      .call (.supply "5"), .call (.supply "c"), .call (.run none)]
    let answers : List Returned := [.result (some (.ok (.awaiting .integer))), .result none,
      .result none, .result none, .result (some (.ok .halted))]
    let last := (((first.step.2.supply "x").supply "5").supply "c").step.2.step.2.step.2
    Performed first operations answers last ∧ last.journal.notices.length = 3 ∧
      ∃ history, first.after history = last ∧
        drawnFrom .host (first.allDraws history) = ["x", "5", "c"] ∧
        drawnFrom .script (first.allDraws history) = ["no"] ∧
        (first.allDraws history).length =
          first.allReads history + (first.logged history).countP (·.cause.isRefusal) := by
  intro first operations answers last
  have waited : first.run none 1 = some (.ok (.awaiting .integer), first.step.2) := by
    decide +kernel
  have ran : (((first.step.2.supply "x").supply "5").supply "c").run none 3 =
      some (.ok .halted, last) := by decide +kernel
  have performed : Performed first operations answers last :=
    .cons (.call (.run 1 waited)) (.cons (.call (.supply _ "x")) (.cons (.call (.supply _ "5"))
      (.cons (.call (.supply _ "c")) (.cons (.call (.run 3 ran)) (.nil last)))))
  have empty : last.replies = ⟨[], []⟩ := by decide +kernel
  obtain ⟨history, _, reached, _, counted, supplied, scripted, _⟩ := replies_accounted performed
  rw [empty, List.append_nil] at supplied scripted
  exact ⟨performed, by decide +kernel, history, reached, supplied, scripted, counted⟩

end Machine

end Playfield
