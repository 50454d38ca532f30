import Playfield.Proofs.History

/-!
The log behind a journal. A journal forgets its oldest notices and counts all of them; the log of
a history has them all. What an act adds to it is said here without the journal: `causes` lists
what executing a value has to report, and a step that meets a fault reports that as well. The
journal is then the end of the log, after every history.
-/

namespace Playfield

namespace Journal

def recordAll (journal : Journal) (notices : List Notice) : Journal :=
  notices.foldl record journal

theorem recordAll_append (journal : Journal) (earlier later : List Notice) :
    journal.recordAll (earlier ++ later) = (journal.recordAll earlier).recordAll later :=
  List.foldl_append

/-- The journal has counted a whole log and kept the end of it. -/
structure Shows (journal : Journal) (log : List Notice) : Prop where
  total : journal.total = log.length
  notices : journal.notices = log.drop (log.length - min 256 log.length)

theorem Shows.size {journal : Journal} {log : List Notice} (shows : journal.Shows log) :
    journal.recent.size = min 256 log.length := by
  have kept := congrArg List.length shows.notices
  rw [List.length_drop, Journal.notices, Array.length_toList] at kept
  omega

theorem Shows.record {journal : Journal} {log : List Notice} (shows : journal.Shows log)
    (notice : Notice) : (journal.record notice).Shows (log ++ [notice]) := by
  have size := shows.size
  have kept : journal.recent.toList = log.drop (log.length - min 256 log.length) := shows.notices
  have limit : capacity = 256 := rfl
  constructor
  · simp [Journal.record, shows.total]
  · simp only [Journal.notices, Journal.record, Array.toList_push, List.length_append,
      List.length_singleton]
    by_cases room : journal.recent.size < capacity
    · -- As long as there is room the journal is the log.
      have start : log.length - min 256 log.length = 0 := by omega
      have stillStart : log.length + 1 - min 256 (log.length + 1) = 0 := by omega
      rw [if_pos room, kept, start, stillStart]
      rfl
    · have later : (journal.recent.extract 1 journal.recent.size).toList =
          journal.recent.toList.drop 1 := by
        rw [Array.toList_extract, List.extract_eq_take_drop]
        exact List.take_of_length_le (by simp)
      have dropped : log.length + 1 - min 256 (log.length + 1) =
          log.length - min 256 log.length + 1 := by omega
      have inside : log.length - min 256 log.length + 1 ≤ log.length := by omega
      rw [if_neg room, later, kept, List.drop_drop, dropped,
        List.drop_append_of_le_length inside]

theorem Shows.recordAll {journal : Journal} {log : List Notice} (shows : journal.Shows log)
    (notices : List Notice) : (journal.recordAll notices).Shows (log ++ notices) := by
  induction notices generalizing journal log with
  | nil => simpa [Journal.recordAll] using shows
  | cons notice rest ih =>
      have further := ih (shows.record notice)
      rw [List.append_assoc] at further
      exact further

end Journal

namespace Machine

/-! What an act reports. -/

/-- What performing an instruction has to report. -/
def reports (machine : Machine) : Instruction → List Cause
  | .printCharacter =>
      if (Scalar.char? machine.stack.top).isSome then [] else [.unprintable machine.stack.top]
  | .read request =>
      let taken := machine.replies.take request
      taken.refused.map (.malformedReply request) ++
        match taken.found with
        | some (reply, _) => if request.hasSurplus reply then [.surplusCharacters reply] else []
        | none => []
  | .halt => [.completed]
  | _ => []

/-- What executing a value has to report. -/
def causes (machine : Machine) (value : Int64) : List Cause :=
  if machine.counter.stringMode || machine.counter.skipNext then []
  else
    match Instruction.decode machine.extended value with
    | some instruction => machine.reports instruction
    | none => [.invalidInstruction value]

def stamped (machine : Machine) (causes : List Cause) : List Notice :=
  causes.map fun cause => ⟨cause, machine.position, machine.steps⟩

def faultNotices (machine : Machine) : List Notice :=
  match machine.step.1 with
  | .error fault => [⟨.fault fault.operator, fault.position, machine.steps + 1⟩]
  | .ok _ => []

/-- The notices of an act, in order. -/
def raised (machine : Machine) : Act → List Notice
  | .step =>
      match machine.state with
      | .paused | .halted => []
      | _ => machine.stamped (machine.causes machine.current.value) ++ machine.faultNotices
  | .execute value => machine.stamped (machine.causes value)
  | .resume | .supply _ => []

/-- The notices of a history, in order. -/
def logged (machine : Machine) : List Act → List Notice
  | [] => []
  | act :: later => machine.raised act ++ (machine.act act).logged later

/-- How many instructions an act completes. A faulty one counts; one that waits does not. -/
def completions (machine : Machine) : Act → Nat
  | .step =>
      match machine.state, machine.step.1 with
      | .paused, _ | .halted, _ | _, .ok (.awaiting _) => 0
      | _, _ => 1
  | .execute _ | .resume | .supply _ => 0

def completed (machine : Machine) : List Act → Nat
  | [] => 0
  | act :: later => machine.completions act + (machine.act act).completed later

theorem logged_append (machine : Machine) (past later : List Act) :
    machine.logged (past ++ later) = machine.logged past ++ (machine.after past).logged later := by
  induction past generalizing machine with
  | nil => rfl
  | cons act rest ih =>
      rw [List.cons_append, logged, logged, ih, List.append_assoc]
      rfl

theorem completed_append (machine : Machine) (past later : List Act) :
    machine.completed (past ++ later) =
      machine.completed past + (machine.after past).completed later := by
  induction past generalizing machine with
  | nil => exact (Nat.zero_add _).symm
  | cons act rest ih =>
      rw [List.cons_append, completed, completed, ih, Nat.add_assoc]
      rfl

/-! The journal of a history. -/

theorem refuse_eq_recordAll (machine : Machine) (request : Request) (replies : List String) :
    machine.journal.refuse request machine.position machine.steps replies =
      machine.journal.recordAll (machine.stamped (replies.map (.malformedReply request))) := by
  simp only [Journal.refuse, Journal.recordAll, stamped, List.foldl_map]

theorem read_journal (machine : Machine) (request : Request) :
    (machine.read request).2.journal =
      machine.journal.recordAll (machine.stamped (machine.reports (.read request))) := by
  cases found : (machine.replies.take request).found with
  | none =>
      have all := Replies.take_of_found_none machine.replies request found
      rw [read_of_missing found, waiting, refuse_eq_recordAll]
      simp [reports, all]
  | some usable =>
      rw [read_of_found found, refuse_eq_recordAll]
      simp only [reports, found, stamped, List.map_append, Journal.recordAll_append,
        Journal.accept]
      split <;> rfl

theorem perform_journal (machine : Machine) (instruction : Instruction) :
    (machine.perform instruction).2.journal =
      machine.journal.recordAll (machine.stamped (machine.reports instruction)) := by
  cases instruction with
  | arithmetic operator =>
      simp only [perform, calculate]
      split <;> rfl
  | printCharacter =>
      simp only [perform, printCharacter, reports]
      split <;> rfl
  | read request => exact machine.read_journal request
  | _ => rfl

theorem execute_journal (machine : Machine) (value : Int64) :
    (machine.execute value).2.journal =
      machine.journal.recordAll (machine.stamped (machine.causes value)) := by
  cases machine.role value with
  | closing quoted quote =>
      rw [execute_of_closing quoted quote]
      simp [causes, quoted, stamped, Journal.recordAll]
  | quoted quoted other =>
      rw [execute_of_quoted quoted other]
      simp [causes, quoted, stamped, Journal.recordAll, push]
  | skipped unquoted skipped =>
      rw [execute_of_skipped unquoted skipped]
      simp [causes, skipped, stamped, Journal.recordAll]
  | invalid unquoted unskipped undecoded =>
      rw [execute_of_invalid unquoted unskipped undecoded]
      simp [causes, unquoted, unskipped, undecoded, stamped, Journal.recordAll, note]
  | dispatched dispatched =>
      rw [execute_of_dispatches dispatched, perform_journal]
      simp [causes, dispatched.unquoted, dispatched.unskipped, dispatched.decoded]

theorem raised_of_active {machine : Machine} (active : machine.Active) :
    machine.raised .step =
      machine.stamped (machine.causes machine.current.value) ++ machine.faultNotices := by
  simp only [raised]
  split
  · rename_i paused
    exact absurd paused active.1
  · rename_i halted
    exact absurd halted active.2
  · rfl

theorem raised_of_not_active {machine : Machine} (idle : ¬ machine.Active) :
    machine.raised .step = [] := by
  simp only [raised]
  split
  · rfl
  · rfl
  · rename_i notPaused notHalted
    exact absurd ⟨notPaused, notHalted⟩ idle

theorem completions_of_not_active {machine : Machine} (idle : ¬ machine.Active) :
    machine.completions .step = 0 := by
  simp only [completions]
  split
  · rfl
  · rfl
  · rfl
  · rename_i notPaused notHalted _
    exact absurd ⟨notPaused, notHalted⟩ idle

theorem completions_of_waits {machine : Machine} {request : Request}
    (waits : machine.step.1 = .ok (.awaiting request)) : machine.completions .step = 0 := by
  simp only [completions, waits]
  split
  · rfl
  · rfl
  · rfl
  · rename_i waitsNot
    exact absurd rfl (waitsNot request)

theorem completions_of_active {machine : Machine} (active : machine.Active)
    (ends : ∀ request, machine.step.1 ≠ .ok (.awaiting request)) :
    machine.completions .step = 1 := by
  simp only [completions]
  split
  · rename_i paused
    exact absurd paused active.1
  · rename_i halted
    exact absurd halted active.2
  · rename_i request waits _ _
    exact absurd waits (ends request)
  · rfl

theorem step_steps (machine : Machine) :
    machine.step.2.steps = machine.steps + machine.completions .step := by
  by_cases active : machine.Active
  · cases counted active with
    | counts steps ends => rw [completions_of_active active ends, steps]
    | waits steps request _ result => rw [completions_of_waits result, steps, Nat.add_zero]
  · rw [completions_of_not_active active, step_of_not_active active, Nat.add_zero]

theorem position_of_fault {machine : Machine} {value : Int64} {fault : ArithmeticFault}
    (faulty : (machine.execute value).1 = .error fault) : fault.position = machine.position := by
  have outcome := machine.execute_outcome value
  generalize machine.execute value = executed at outcome faulty
  cases outcome with
  | done _ _ _ _ => cases faulty
  | halted _ => cases faulty
  | suspended _ _ => cases faulty
  | fault _ _ _ =>
      cases faulty
      rfl

theorem step_journal (machine : Machine) :
    machine.step.2.journal = machine.journal.recordAll (machine.raised .step) := by
  by_cases active : machine.Active
  · have noted := machine.execute_journal machine.current.value
    have kept := machine.execute_kept machine.current.value
    have stepped := step_of_active active
    rw [raised_of_active active, Journal.recordAll_append, ← noted, faultNotices, stepped]
    rcases executed : machine.execute machine.current.value with ⟨fault | _ | request, after⟩
    · have position : fault.position = machine.position :=
        position_of_fault (congrArg Prod.fst executed)
      rw [executed] at kept
      simp only [finish, stop, note, position, Machine.position]
      rw [← kept.position, ← kept.steps]
      rfl
    · obtain ⟨position, state, complete⟩ := after.complete_frame
      simp only [finish, complete]
      rfl
    · rfl
  · rw [raised_of_not_active active, step_of_not_active active]
    rfl

theorem act_steps (machine : Machine) (act : Act) :
    (machine.act act).steps = machine.steps + machine.completions act := by
  cases act with
  | step => exact machine.step_steps
  | resume =>
      obtain ⟨state, resumed⟩ := machine.resume_frame
      simp only [Machine.act, resumed]
      rfl
  | supply reply =>
      simp only [Machine.act, supply]
      split <;> rfl
  | execute value => exact (machine.execute_kept value).steps

theorem act_journal (machine : Machine) (act : Act) :
    (machine.act act).journal = machine.journal.recordAll (machine.raised act) := by
  cases act with
  | step => exact machine.step_journal
  | resume =>
      obtain ⟨state, resumed⟩ := machine.resume_frame
      simp only [Machine.act, resumed]
      rfl
  | supply reply =>
      simp only [Machine.act, supply]
      split <;> rfl
  | execute value => exact machine.execute_journal value

theorem after_steps (machine : Machine) (history : List Act) :
    (machine.after history).steps = machine.steps + machine.completed history := by
  induction history generalizing machine with
  | nil => rfl
  | cons act later ih =>
      have further := ih (machine.act act)
      rw [act_steps, Nat.add_assoc] at further
      exact further

theorem after_journal (machine : Machine) (history : List Act) :
    (machine.after history).journal = machine.journal.recordAll (machine.logged history) := by
  induction history generalizing machine with
  | nil => rfl
  | cons act later ih =>
      have further := ih (machine.act act)
      rw [act_journal, ← Journal.recordAll_append] at further
      exact further

/-! Stamps. -/

theorem severity_of_reports {machine : Machine} {instruction : Instruction} {cause : Cause}
    (reported : cause ∈ machine.reports instruction) : cause.severity ≠ .error := by
  cases instruction with
  | printCharacter =>
      simp only [reports] at reported
      split at reported
      · cases reported
      · cases List.mem_singleton.mp reported
        exact nofun
  | read request =>
      rcases List.mem_append.mp reported with refused | surplus
      · obtain ⟨reply, _, rfl⟩ := List.mem_map.mp refused
        exact nofun
      · split at surplus
        · split at surplus
          · cases List.mem_singleton.mp surplus
            exact nofun
          · cases surplus
        · cases surplus
  | halt =>
      cases List.mem_singleton.mp reported
      exact nofun
  | _ => cases reported

theorem severity_of_causes {machine : Machine} {value : Int64} {cause : Cause}
    (reported : cause ∈ machine.causes value) : cause.severity ≠ .error := by
  unfold causes at reported
  split at reported
  · cases reported
  · split at reported
    · exact severity_of_reports reported
    · cases List.mem_singleton.mp reported
      exact nofun

/-- The two ways in which a notice of an act may be stamped. -/
inductive Stamp (machine : Machine) (act : Act) (notice : Notice) : Prop where
  | earlier (harmless : notice.severity ≠ .error) (step : notice.step = machine.steps)
  | fault (error : notice.severity = .error) (step : notice.step = machine.steps + 1)
      (completed : machine.completions act = 1)

theorem stamp_of_stamped {machine : Machine} {value : Int64} (act : Act) {notice : Notice}
    (member : notice ∈ machine.stamped (machine.causes value)) : Stamp machine act notice := by
  obtain ⟨cause, reported, rfl⟩ := List.mem_map.mp member
  exact .earlier (severity_of_causes reported) rfl

theorem stamp_of_raised {machine : Machine} {act : Act} {notice : Notice}
    (member : notice ∈ machine.raised act) : Stamp machine act notice := by
  cases act with
  | resume => cases member
  | supply reply => cases member
  | execute value => exact stamp_of_stamped (.execute value) member
  | step =>
      by_cases active : machine.Active
      · rw [raised_of_active active] at member
        rcases List.mem_append.mp member with noted | faulty
        · exact stamp_of_stamped .step noted
        · unfold faultNotices at faulty
          split at faulty
          · rename_i fault failed
            have ends : ∀ request, machine.step.1 ≠ .ok (.awaiting request) := by
              rw [failed]
              exact nofun
            cases List.mem_singleton.mp faulty
            exact .fault rfl rfl (completions_of_active active ends)
          · cases faulty
      · rw [raised_of_not_active active] at member
        cases member

theorem raised_within {machine : Machine} {act : Act} {notice : Notice}
    (member : notice ∈ machine.raised act) :
    machine.steps ≤ notice.step ∧ notice.step ≤ (machine.act act).steps := by
  have steps := machine.act_steps act
  cases stamp_of_raised member with
  | earlier _ step => omega
  | fault _ step completed => omega

theorem raised_ordered (machine : Machine) (act : Act) :
    (machine.raised act).Pairwise fun earlier later => earlier.step ≤ later.step := by
  have level : ∀ causes : List Cause,
      (machine.stamped causes).Pairwise fun earlier later => earlier.step ≤ later.step := by
    intro causes
    exact List.pairwise_map.mpr (List.pairwise_of_forall fun _ _ => Nat.le_refl _)
  cases act with
  | resume => exact .nil
  | supply reply => exact .nil
  | execute value => exact level _
  | step =>
      by_cases active : machine.Active
      · rw [raised_of_active active, List.pairwise_append]
        refine ⟨level _, ?_, ?_⟩
        · unfold faultNotices
          split
          · exact List.pairwise_singleton _ _
          · exact .nil
        · intro noted member fault faulty
          obtain ⟨cause, _, rfl⟩ := List.mem_map.mp member
          -- The fault comes last and has the greater stamp.
          have inside : fault ∈ machine.raised .step := by
            rw [raised_of_active active]
            exact List.mem_append_right _ faulty
          exact (raised_within inside).1
      · rw [raised_of_not_active active]
        exact .nil

theorem logged_within {machine : Machine} {history : List Act} {notice : Notice}
    (member : notice ∈ machine.logged history) :
    machine.steps ≤ notice.step ∧ notice.step ≤ (machine.after history).steps := by
  induction history generalizing machine with
  | nil => cases member
  | cons act later ih =>
      have steps := machine.act_steps act
      have further := (machine.act act).after_steps later
      change _ ∧ _ ≤ ((machine.act act).after later).steps
      rcases List.mem_append.mp member with now | afterwards
      · have bounds := raised_within now
        omega
      · have bounds := ih afterwards
        omega

theorem logged_ordered (machine : Machine) (history : List Act) :
    (machine.logged history).Pairwise fun earlier later => earlier.step ≤ later.step := by
  induction history generalizing machine with
  | nil => exact .nil
  | cons act later ih =>
      refine List.pairwise_append.mpr ⟨machine.raised_ordered act, ih (machine.act act), ?_⟩
      intro now member afterwards alsoMember
      exact Nat.le_trans (raised_within member).2 (logged_within alsoMember).1

/-- What the journal of a machine says about a history of it: it is the end of the log, and the
stamps of the log grow with the steps of the machine. -/
structure Faithful (first : Machine) (history : List Act) : Prop where
  shows : (first.after history).journal.Shows (first.logged history)
  ordered : (first.logged history).Pairwise fun earlier later => earlier.step ≤ later.step
  bounded : ∀ notice ∈ first.logged history, notice.step ≤ (first.after history).steps

theorem faithful_of_empty {first : Machine} (empty : first.journal = .empty)
    (history : List Act) : Faithful first history := by
  refine ⟨?_, first.logged_ordered history, fun _ member => (logged_within member).2⟩
  have blank : first.journal.Shows [] := by
    rw [empty]
    exact ⟨rfl, rfl⟩
  rw [after_journal]
  exact blank.recordAll (first.logged history)

theorem logged_prefix (machine : Machine) (history : List (List Act)) {earlier count : Nat}
    (before : earlier ≤ count) :
    machine.logged (history.take earlier).flatten <+:
      machine.logged (history.take count).flatten := by
  have start : history.take earlier <+: history.take count := List.take_prefix_take_left before
  obtain ⟨between, whole⟩ := start
  rw [← whole, List.flatten_append, logged_append]
  exact List.prefix_append _ _

/-- Whatever operations a fresh machine performs, its journal is a window onto a log that only
grows and that has every notice of every act. A notice is stamped with the number of instructions
completed before the act that raised it; only the notice of a fault counts the faulty one too. -/
theorem journal_shows_log (grid : Grid) (extended : Bool) (seed : UInt64) (script : List String)
    (operations : List Operation) (answers : List Returned) (last : Machine)
    (performed : Performed (start grid extended seed script) operations answers last) :
    let first := start grid extended seed script
    ∃ history : List (List Act), List.Forall₂ Unfolds operations history ∧
      first.after history.flatten = last ∧
      (∀ count ≤ operations.length,
        let past := (history.take count).flatten
        Performed first (operations.take count) (answers.take count) (first.after past) ∧
          Faithful first past ∧
          ∀ earlier ≤ count,
            first.logged (history.take earlier).flatten <+: first.logged past) ∧
      ∀ past act later, history.flatten = past ++ act :: later →
        ∀ notice ∈ (first.after past).raised act,
          (notice.severity ≠ .error → notice.step = first.completed past) ∧
          (notice.severity = .error → notice.step = first.completed (past ++ [act]) ∧
            first.completed (past ++ [act]) = first.completed past + 1) := by
  intro first
  obtain ⟨history, unfolds, reached, moments⟩ := performed.unfolds
  refine ⟨history, unfolds, reached, ?_, ?_⟩
  · intro count inside past
    exact ⟨moments count inside, faithful_of_empty rfl past,
      fun _ before => first.logged_prefix history before⟩
  · intro past act later _ notice raised
    have steps : (first.after past).steps = first.completed past := by
      rw [after_steps]
      exact Nat.zero_add _
    have counted : first.completed (past ++ [act]) =
        first.completed past + (first.after past).completions act := by
      rw [completed_append]
      rfl
    cases stamp_of_raised raised with
    | earlier harmless step =>
        exact ⟨fun _ => step.trans steps, fun error => absurd error harmless⟩
    | fault error step completed =>
        refine ⟨fun harmless => absurd error harmless, fun _ => ?_⟩
        rw [counted, completed, ← steps]
        exact ⟨step, rfl⟩

/-- The program `&%` with a reply that it refuses and a zero, by which it then divides. -/
theorem journal_shows_log_fault :
    let first := start (Grid.ofRow 38 [37]) false 0 []
    let operations : List Operation :=
      [.call (.supply "x"), .call (.supply "0"), .call (.run none)]
    let answers : List Returned :=
      [.result none, .result none, .result (some (.error ⟨.remainder, ⟨1, 0⟩⟩))]
    let last := ((first.supply "x").supply "0").step.2.step.2
    Performed first operations answers last ∧
      last.journal.notices =
        [⟨.malformedReply .integer "x", ⟨0, 0⟩, 0⟩, ⟨.fault .remainder, ⟨1, 0⟩, 2⟩] ∧
      ∃ history : List (List Act), first.after history.flatten = last ∧
        Faithful first (history.take 3).flatten := by
  intro first operations answers last
  have ran : ((first.supply "x").supply "0").run none 2 =
      some (.error ⟨.remainder, ⟨1, 0⟩⟩, last) := by decide +kernel
  have performed : Performed first operations answers last :=
    .cons (.call (.supply first "x")) (.cons (.call (.supply _ "0"))
      (.cons (.call (.run 2 ran)) (.nil last)))
  obtain ⟨history, _, reached, moments, _⟩ :=
    journal_shows_log (Grid.ofRow 38 [37]) false 0 [] operations answers last performed
  exact ⟨performed, by decide +kernel, history, reached, (moments 3 (Nat.le_refl 3)).2.1⟩

end Machine

end Playfield
