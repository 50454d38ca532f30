import Mathlib.Algebra.Group.Nat.Defs
import Playfield.Proofs.Consumption
import Playfield.Proofs.Editing
import Playfield.Proofs.Events
import Playfield.Proofs.Invariant

/-!
Who is to act next in a session. A runner steps by itself only while its machine runs, it holds
typed text only while its machine waits, and no reply is left over once an event has been dealt
with: these three together are kept by every event, and none of them alone. The editor rests
while a runner is open.
-/

namespace Playfield

namespace Editor

/-- The cursor is on the playfield, whose sides are signed words. -/
structure Inside (editor : Editor) : Prop where
  width : editor.grid.width < 2 ^ 63
  height : editor.grid.height < 2 ^ 63
  column : editor.cursor.x < editor.grid.width
  row : editor.cursor.y < editor.grid.height

theorem apply_inside {editor : Editor} (inside : editor.Inside) (edit : Edit) :
    (editor.apply edit).Inside := by
  obtain ⟨width, height, column, row⟩ := inside
  have across := editor.grid.width_pos
  have down := editor.grid.height_pos
  cases edit with
  | move dx dy => exact ⟨width, height, wrap_lt _ _ across width, wrap_lt _ _ down height⟩
  | rowStart => exact ⟨width, height, across, row⟩
  | rowEnd => exact ⟨width, height, Nat.sub_one_lt_of_lt across, row⟩
  | columnTop => exact ⟨width, height, column, down⟩
  | columnBottom => exact ⟨width, height, column, Nat.sub_one_lt_of_lt down⟩
  | write character => exact ⟨width, height, column, row⟩
  | toggleBreakpoint => exact ⟨width, height, column, row⟩
  | save store disk =>
      cases saveOutcome store editor disk with
      | saved _ _ _ _ outcome =>
          simp only [apply, outcome]
          exact ⟨width, height, column, row⟩
      | kept _ same =>
          simp only [apply, same]
          exact ⟨width, height, column, row⟩

theorem afterEdits_inside {editor : Editor} (inside : editor.Inside) (edits : List Edit) :
    (editor.afterEdits edits).Inside := by
  induction edits generalizing editor with
  | nil => exact inside
  | cons edit later ih => exact ih (apply_inside inside edit)

end Editor

/-! The replies of a machine that is asked by hand. -/

theorem Replies.Draws.of_empty {draws : List Replies.Draw} {after : Replies}
    (drawn : Replies.Draws ⟨[], []⟩ draws after) : after = ⟨[], []⟩ := by
  cases drawn
  rfl

theorem Replies.rest_of_one (reply : String) (request : Request) :
    (Replies.take ⟨[reply], []⟩ request).rest = ⟨[], []⟩ := by
  cases value : request.value? reply with
  | none => simp [Replies.take, Replies.search, value]
  | some number => simp [Replies.take, Replies.search, value]

namespace Machine

theorem step_replies_of_empty {machine : Machine} (empty : machine.replies = ⟨[], []⟩) :
    machine.step.2.replies = ⟨[], []⟩ := by
  have drawn : Replies.Draws machine.replies (machine.draws .step) machine.step.2.replies :=
    draws_of_silent rfl
  rw [empty] at drawn
  exact drawn.of_empty

theorem resume_replies (machine : Machine) : machine.resume.replies = machine.replies := by
  obtain ⟨state, resumed⟩ := machine.resume_frame
  rw [resumed]

theorem resume_running {machine : Machine} (unhalted : machine.state ≠ .halted)
    (busy : ∀ request, machine.state ≠ .awaiting request) : machine.resume.state = .running := by
  cases state : machine.state with
  | running =>
      have unpaused : machine.state ≠ .paused := by simp [state]
      rw [resume_of_not_paused unpaused, state]
  | paused => rw [resume_of_paused state]
  | awaiting request => exact absurd state (busy request)
  | halted => exact absurd state unhalted

/-- The instruction that waited takes the reply, whether it can use it or not. -/
theorem answered_replies {machine : Machine} (consistent : machine.Consistent) {request : Request}
    (awaiting : machine.state = .awaiting request) (reply : String) :
    (machine.supply reply).resume.step.2.replies = ⟨[], []⟩ := by
  have empty := consistent.replies_of_awaiting awaiting
  obtain ⟨dispatched, _⟩ := consistent.awaiting request awaiting
  have supplied := supply_of_awaiting reply awaiting
  rw [empty] at supplied
  have running : (machine.supply reply).state = .running := by rw [supplied]
  have unpaused : (machine.supply reply).state ≠ .paused := by simp [running]
  have subject := subject?_of_active (active_of_running running)
  have reads : (machine.supply reply).dispatched? (machine.supply reply).current.value =
      some (.read request) := by
    rw [supplied]
    exact dispatched?_eq_some.mpr
      ⟨dispatched.unquoted, dispatched.unskipped, dispatched.decoded⟩
  have taken : (machine.supply reply).step.2.replies = _ :=
    (act_follows subject).replies.trans (execute_replies_of_read reads)
  rw [resume_of_not_paused unpaused, taken, supplied]
  exact Replies.rest_of_one reply request

end Machine

/-- What holds of an open runner between events. -/
structure Runner.Settled (runner : Runner) : Prop where
  consistent : runner.machine.Consistent
  automatic : runner.automatic = true → runner.machine.state = .running
  typed : runner.input ≠ "" → ∃ request, runner.machine.state = .awaiting request
  replies : runner.machine.replies = ⟨[], []⟩

theorem Runner.Settled.untyped {runner : Runner} (settled : runner.Settled)
    (busy : ∀ request, runner.machine.state ≠ .awaiting request) : runner.input = "" := by
  by_cases typed : runner.input = ""
  · exact typed
  · obtain ⟨request, awaiting⟩ := settled.typed typed
    exact absurd awaiting (busy request)

-- Scrolling, drawing and stopping leave the machine and the typed text alone.
theorem Runner.Settled.congr {runner other : Runner} (settled : runner.Settled)
    (machine : other.machine = runner.machine) (input : other.input = runner.input)
    (automatic : other.automatic = true → runner.automatic = true) : other.Settled := by
  constructor
  · rw [machine]
    exact settled.consistent
  · rw [machine]
    exact fun still => settled.automatic (automatic still)
  · rw [machine, input]
    exact settled.typed
  · rw [machine]
    exact settled.replies

theorem Runner.Settled.stopped {runner : Runner} (settled : runner.Settled) :
    ({ runner with automatic := false } : Runner).Settled :=
  settled.congr rfl rfl fun still => absurd still Bool.false_ne_true

namespace Session

/-- A session whose runner, if one is open, is settled. -/
def Settled (session : Session) : Prop := ∀ runner, session.runner = some runner → runner.Settled

section Runners
variable {session : Session} {runner : Runner}

theorem settled_of_runner (opened : session.runner = some runner) (settled : runner.Settled) :
    session.Settled := by
  intro other same
  cases opened.symm.trans same
  exact settled

theorem settled_of_closed (closed : session.runner = none) : session.Settled := by
  intro runner opened
  cases closed.symm.trans opened

theorem stepRunner_settled (now : Int) (consistent : runner.machine.Consistent)
    (replies : runner.machine.resume.step.2.replies = ⟨[], []⟩) (untyped : runner.input = "") :
    (session.stepRunner runner now).Settled := by
  apply settled_of_runner rfl
  constructor
  · exact Machine.step_consistent _ (Machine.resume_consistent _ consistent)
  · intro automatic
    dsimp only at automatic
    split at automatic
    · rename_i running
      exact Machine.step_state running
    · cases automatic
  · intro typed
    exact absurd untyped typed
  · exact replies

-- A step that is not an answer finds no reply, so it leaves none.
theorem stepRunner_settled_of_busy (settled : runner.Settled)
    (busy : ∀ request, runner.machine.state ≠ .awaiting request) (now : Int) :
    (session.stepRunner runner now).Settled := by
  apply stepRunner_settled now settled.consistent
  · apply Machine.step_replies_of_empty
    rw [Machine.resume_replies]
    exact settled.replies
  · exact settled.untyped busy

theorem tick_settled (settled : session.Settled) (now : Int) : (session.tick now).Settled := by
  cases opened : session.runner with
  | none =>
      simp only [tick, opened]
      exact settled
  | some runner =>
      simp only [tick, opened]
      split
      · rename_i due
        have running := (settled runner opened).automatic due.1
        apply stepRunner_settled_of_busy (settled runner opened)
        intro request awaiting
        cases running.symm.trans awaiting
      · exact settled

theorem frame_settled (settled : session.Settled) (width height : Nat) :
    (session.frame width height).2.Settled := by
  cases opened : session.runner with
  | none =>
      simp only [frame, opened]
      exact settled
  | some runner =>
      simp only [frame, opened]
      exact settled_of_runner rfl ((settled runner opened).congr rfl rfl id)

theorem toggleAutomatic_settled (opened : session.runner = some runner) (settled : runner.Settled)
    (busy : ∀ request, runner.machine.state ≠ .awaiting request) (now : Int) :
    (session.toggleAutomatic runner now).Settled := by
  simp only [toggleAutomatic]
  split
  · exact settled_of_runner opened settled
  · rename_i unhalted
    split
    · exact settled_of_runner rfl settled.stopped
    · have stands : runner.machine.state ≠ .halted := by
        intro halted
        simp [Machine.isHalted, halted] at unhalted
      apply settled_of_runner rfl
      constructor
      · exact Machine.resume_consistent _ settled.consistent
      · exact fun _ => Machine.resume_running stands busy
      · exact fun typed => absurd (settled.untyped busy) typed
      · exact (Machine.resume_replies _).trans settled.replies

theorem pressInRunner_settled (opened : session.runner = some runner) (settled : runner.Settled)
    (busy : ∀ request, runner.machine.state ≠ .awaiting request) (now : Int) (key : Key) :
    (session.pressInRunner runner now key).Settled := by
  unfold pressInRunner
  split
  · exact stepRunner_settled_of_busy settled.stopped busy now
  · exact toggleAutomatic_settled opened settled busy now
  · exact settled_of_runner rfl (settled.congr rfl rfl id)
  · exact settled_of_runner rfl (settled.congr rfl rfl id)
  · exact settled_of_closed rfl
  · exact settled_of_runner opened settled

theorem pressInInput_settled (opened : session.runner = some runner) (settled : runner.Settled)
    {request : Request} (awaiting : runner.machine.state = .awaiting request) (now : Int)
    (key : Key) : (session.pressInInput runner now key).Settled := by
  cases code : key.code with
  | char _ | backspace =>
      simp only [pressInInput, code]
      exact settled_of_runner rfl
        ⟨settled.consistent, settled.automatic, fun _ => ⟨request, awaiting⟩, settled.replies⟩
  | enter =>
      simp only [pressInInput, code]
      apply stepRunner_settled now
      · exact Machine.supply_consistent _ _ settled.consistent
      · exact Machine.answered_replies settled.consistent awaiting runner.input
      · rfl
  | escape =>
      simp only [pressInInput, code]
      exact settled_of_closed rfl
  | up | down | left | right | home | endKey | pageUp | pageDown | function _ | other =>
      simp only [pressInInput, code]
      exact settled_of_runner opened settled

theorem openRunner_settled (session : Session) (now : Int) :
    (session.openRunner now).Settled := by
  apply settled_of_runner rfl
  constructor
  · exact Machine.start_consistent _ _ _ _
  · exact fun still => absurd still Bool.false_ne_true
  · exact fun typed => absurd rfl typed
  · rfl

end Runners

/-! The editor. -/

/-- What a key does to a session without a runner: it edits, or it opens one. -/
inductive Edited (before after : Session) : Prop where
  | edited (edits : List Editor.Edit) (editor : after.editor = before.editor.afterEdits edits)
      (closed : after.runner = none) (quit : before.quit = true → after.quit = true)
  | opened (now : Int) (outcome : after = before.openRunner now)

section Editors
variable {session : Session} (closed : session.runner = none)
include closed

theorem idle_edited : Edited session session := .edited [] rfl closed id

theorem edit_edited (edit : Editor.Edit) : Edited session (session.edit (·.apply edit)) :=
  .edited [edit] rfl closed id

theorem save_edited : Edited session session.save := by
  apply Edited.edited [.save ProgramFile.save session.disk]
  · simp only [save]
    split <;> rfl
  · simp only [save]
    split <;> exact closed
  · simp only [save]
    split <;> exact id

theorem function_edited (now : Int) (control : Bool) :
    ∀ number, Edited session (session.pressInEditor now ⟨.function number, control⟩)
  | 1 => .opened now rfl
  | 8 => .edited [.toggleBreakpoint] rfl closed id
  | 12 => save_edited closed
  | 0 | 2 | 3 | 4 | 5 | 6 | 7 | 9 | 10 | 11 | _ + 13 => idle_edited closed

theorem pressInEditor_edited (now : Int) (key : Key) :
    Edited session (session.pressInEditor now key) := by
  obtain ⟨code, control⟩ := key
  cases code with
  | up => exact edit_edited closed (.move 0 (-1))
  | down => exact edit_edited closed (.move 0 1)
  | left => exact edit_edited closed (.move (-1) 0)
  | right => exact edit_edited closed (.move 1 0)
  | home => exact edit_edited closed .rowStart
  | endKey => exact edit_edited closed .rowEnd
  | pageUp => exact edit_edited closed .columnTop
  | pageDown => exact edit_edited closed .columnBottom
  | char character =>
      cases control with
      | true => exact idle_edited closed
      | false => exact edit_edited closed (.write character)
  | function number => exact function_edited closed now control number
  | escape => exact .edited [] rfl closed fun _ => rfl
  | enter | backspace | other => exact idle_edited closed

end Editors

/-! Events. -/

/-- The editor rests, and a session that was to end still is. -/
structure Rests (before after : Session) : Prop where
  editor : after.editor = before.editor
  quit : before.quit = true → after.quit = true

section Events
variable {session : Session} {runner : Runner}

theorem pressInRunner_rests (now : Int) (key : Key) :
    Rests session (session.pressInRunner runner now key) := by
  unfold pressInRunner
  split
  · exact ⟨rfl, id⟩
  · simp only [toggleAutomatic]
    split
    · exact ⟨rfl, id⟩
    · split <;> exact ⟨rfl, id⟩
  · exact ⟨rfl, id⟩
  · exact ⟨rfl, id⟩
  · exact ⟨rfl, id⟩
  · exact ⟨rfl, id⟩

theorem pressInInput_rests (now : Int) (key : Key) :
    Rests session (session.pressInInput runner now key) := by
  obtain ⟨code, control⟩ := key
  cases code <;> exact ⟨rfl, id⟩

/-- While a runner is open the editor rests. -/
theorem handle_rests (opened : session.runner = some runner) (event : Event) :
    Rests session (session.handle event) := by
  cases event with
  | press now key =>
      simp only [handle, press, opened]
      split
      · exact ⟨rfl, fun _ => rfl⟩
      · split
        · exact pressInInput_rests now key
        · exact pressInRunner_rests now key
  | tick now =>
      simp only [handle, tick, opened]
      split <;> exact ⟨rfl, id⟩
  | frame width height =>
      simp only [handle, frame, opened]
      exact ⟨rfl, id⟩

theorem handle_settled (settled : session.Settled) (event : Event) :
    (session.handle event).Settled := by
  cases event with
  | tick now => exact tick_settled settled now
  | frame width height => exact frame_settled settled width height
  | press now key =>
      simp only [handle, press]
      split
      · exact settled
      · cases opened : session.runner with
        | none =>
            cases pressInEditor_edited opened now key with
            | edited _ _ closed _ => exact settled_of_closed closed
            | opened now outcome =>
                dsimp only
                rw [outcome]
                exact openRunner_settled session now
        | some runner =>
            dsimp only
            split
            · rename_i awaiting
              exact pressInInput_settled opened (settled runner opened) awaiting now key
            · rename_i busy
              exact pressInRunner_settled opened (settled runner opened) busy now key

/-- Without a runner only a key does anything. -/
theorem handle_edited (closed : session.runner = none) (event : Event) :
    Edited session (session.handle event) := by
  cases event with
  | tick now =>
      simp only [handle, tick, closed]
      exact idle_edited closed
  | frame width height =>
      simp only [handle, frame, closed]
      exact idle_edited closed
  | press now key =>
      simp only [handle, press, closed]
      split
      · exact .edited [] rfl rfl fun _ => rfl
      · exact pressInEditor_edited closed now key

theorem handle_inside (inside : session.editor.Inside) (event : Event) :
    (session.handle event).editor.Inside := by
  cases opened : session.runner with
  | some runner =>
      rw [(handle_rests opened event).editor]
      exact inside
  | none =>
      cases handle_edited opened event with
      | edited edits editor _ _ =>
          rw [editor]
          exact Editor.afterEdits_inside inside edits
      | opened now outcome =>
          rw [outcome]
          exact inside

theorem handle_quit (quit : session.quit = true) (event : Event) :
    (session.handle event).quit = true := by
  cases opened : session.runner with
  | some runner => exact (handle_rests opened event).quit quit
  | none =>
      cases handle_edited opened event with
      | edited _ _ _ kept => exact kept quit
      | opened now outcome =>
          rw [outcome]
          exact quit

/-- Escape closes a runner, and nothing else does. -/
theorem handle_closes_iff (opened : session.runner = some runner) (event : Event) :
    (session.handle event).runner = none ↔ event.Closes := by
  constructor
  · intro closed
    by_cases closes : event.Closes
    · exact closes
    · obtain ⟨left, stillOpened, _⟩ := handle_moved event opened closes
      cases closed.symm.trans stillOpened
  · intro closes
    cases event with
    | tick now => cases closes
    | frame width height => cases closes
    | press now key =>
        have escape : key.code = .escape := closes
        have unquit : isQuitKey key = false := by
          simp [isQuitKey, escape]
        simp only [handle, press, unquit, opened, Bool.false_eq_true, ↓reduceIte]
        split
        · simp only [pressInInput, escape]
          rfl
        · simp only [pressInRunner, escape]
          rfl

end Events

/-! Sessions that are played. -/

theorem play_keeps (property : Session → Prop)
    (kept : ∀ session event, property session → property (session.handle event))
    {session : Session} (holds : property session) (events : List Event) :
    property (play events session) := by
  induction events generalizing session with
  | nil => exact holds
  | cons event later ih => exact ih (kept session event holds)

theorem play_append (past later : List Event) (session : Session) :
    play (past ++ later) session = play later (play past session) := by
  induction past generalizing session with
  | nil => rfl
  | cons event rest ih => exact ih (session.handle event)

/-- As long as nothing closes it a runner stays open and the editor rests. -/
theorem play_rests {session : Session} {runner : Runner} (opened : session.runner = some runner)
    {events : List Event} (stays : ∀ event ∈ events, ¬ event.Closes) :
    (∃ runner, (play events session).runner = some runner) ∧
      (play events session).editor = session.editor := by
  induction events generalizing session runner with
  | nil => exact ⟨⟨runner, opened⟩, rfl⟩
  | cons event later ih =>
      obtain ⟨next, stillOpened, _⟩ :=
        handle_moved event opened (stays event List.mem_cons_self)
      obtain ⟨open', rests⟩ := ih stillOpened fun other member =>
        stays other (List.mem_cons_of_mem event member)
      exact ⟨open', rests.trans (handle_rests opened event).editor⟩

/-- The schedule of a session. After any events an open runner steps by itself only if its machine
runs, holds typed text only if its machine waits, and has no reply left. While it is open the
editor rests, only escape closes it, and what comes back then is the editor from which it was
opened. The cursor of the editor never leaves the playfield, and a session that is to end never
changes its mind. -/
theorem played_session_scheduled (grid : Grid) (width : grid.width < 2 ^ 63)
    (height : grid.height < 2 ^ 63) (path : Option String) (settings : Settings) (disk : Disk)
    (chance : UInt64) (events : List Event) :
    let session := play events (start (.start grid path) settings disk chance)
    (∀ runner, session.runner = some runner →
      (runner.automatic = true → runner.machine.state = .running) ∧
      (runner.input ≠ "" → ∃ request, runner.machine.state = .awaiting request) ∧
      runner.machine.replies.supplied = [] ∧
      ∀ event, (session.handle event).editor = session.editor ∧
        ((session.handle event).runner = none ↔ event.Closes)) ∧
    (session.runner = none → ∀ now control during close,
      (∀ event ∈ during, ¬ Event.Closes event) → Event.Closes close →
        let opened := session.handle (.press now ⟨.function 1, control⟩)
        let closed := play (during ++ [close]) opened
        opened.runner.isSome ∧ closed.runner = none ∧ closed.editor = session.editor) ∧
    session.editor.cursor.x < session.editor.grid.width ∧
    session.editor.cursor.y < session.editor.grid.height ∧
    (session.quit = true → ∀ later, (play later session).quit = true) := by
  intro session
  have started : (Editor.start grid path).Inside :=
    ⟨width, height, grid.width_pos, grid.height_pos⟩
  have inside : session.editor.Inside :=
    play_keeps (·.editor.Inside) (fun _ event inside => handle_inside inside event) started events
  have settled : session.Settled :=
    play_keeps Settled (fun _ event settled => handle_settled settled event)
      (settled_of_closed rfl) events
  refine ⟨?_, ?_, inside.column, inside.row, ?_⟩
  · intro runner opened
    obtain ⟨_, automatic, typed, replies⟩ := settled runner opened
    refine ⟨automatic, typed, congrArg Replies.supplied replies, ?_⟩
    intro event
    exact ⟨(handle_rests opened event).editor, handle_closes_iff opened event⟩
  · intro idle now control during close stays closes opened closed
    have pressed : opened = session.openRunner now := press_openKey idle now control
    have running : (session.openRunner now).runner = some _ := rfl
    obtain ⟨⟨last, stillOpened⟩, rested⟩ := play_rests running stays
    have ended : closed = (play during (session.openRunner now)).handle close := by
      rw [← pressed]
      exact play_append during [close] opened
    refine ⟨?_, ?_, ?_⟩
    · rw [pressed]
      rfl
    · rw [ended]
      exact (handle_closes_iff stillOpened close).mpr closes
    · rw [ended, (handle_rests stillOpened close).editor, rested]
      rfl
  · intro quit later
    exact play_keeps (·.quit = true) (fun _ event quit => handle_quit quit event) quit later

/-- The program `&@` waits for a number, and one digit of it has been typed. The typed text tells
that the machine waits; escape, with the control key held, leads back to the editor. -/
theorem played_session_scheduled_typing :
    let first := start (.start (Grid.ofRow 38 [64]) none) .standard .fresh 0
    let session := play [.press 0 ⟨.function 1, false⟩, .press 0 ⟨.function 1, false⟩,
      .press 0 ⟨.char '7', false⟩] first
    session.runner.map Runner.input = some "7" ∧
      (∃ runner request, session.runner = some runner ∧
        runner.machine.state = .awaiting request ∧ runner.machine.replies.supplied = []) ∧
      (session.handle (.press 0 ⟨.escape, true⟩)).runner = none ∧
      (session.handle (.press 0 ⟨.escape, true⟩)).editor = first.editor := by
  intro first session
  have typed : session.runner.map Runner.input = some "7" := by decide +kernel
  obtain ⟨runner, opened, input⟩ := Option.map_eq_some_iff.mp typed
  have scheduled := played_session_scheduled (Grid.ofRow 38 [64]) (by decide) (by decide) none
    .standard .fresh 0
  obtain ⟨_, waits, replies, closing⟩ := (scheduled [.press 0 ⟨.function 1, false⟩,
    .press 0 ⟨.function 1, false⟩, .press 0 ⟨.char '7', false⟩]).1 runner opened
  have nonempty : runner.input ≠ "" := by
    rw [input]
    decide
  obtain ⟨request, awaiting⟩ := waits nonempty
  -- The whole visit to the runner starts from the session that has seen no event.
  have visit := (scheduled []).2.1 rfl 0 false
    [.press 0 ⟨.function 1, false⟩, .press 0 ⟨.char '7', false⟩] (.press 0 ⟨.escape, true⟩)
    (by simp [Event.Closes]) rfl
  exact ⟨typed, ⟨runner, request, opened, awaiting, replies⟩,
    (closing (.press 0 ⟨.escape, true⟩)).2.mpr rfl, visit.2.2⟩

end Session

end Playfield
