import Playfield.Proofs.Events
import Playfield.Proofs.Plain
import Mathlib.Logic.Function.Iterate

/-!
Interactive and plain execution agree. A runner stops at breakpoints, at waits and between
keys; a plain run takes one step after the other on a playfield without breakpoints, with all
replies in its script. After every event some plain run has computed the same.

The replies that a user will submit later are not known when an instruction starts to wait, and
the runner has then recorded and dropped the replies that it refused, while the plain run has
not reached that instruction. The invariant therefore speaks of all continuations at once:
whatever replies are still to come, the plain run that has them behind those submitted so far
takes the same next step.
-/

namespace Playfield

namespace Machine

def afterSteps (machine : Machine) (count : Nat) : Machine :=
  (fun machine => machine.step.2)^[count] machine

theorem afterSteps_succ (machine : Machine) (count : Nat) :
    machine.afterSteps (count + 1) = (machine.afterSteps count).step.2 :=
  Function.iterate_succ_apply' _ count machine

section Tracking
variable {fresh : List String → Machine} {machine : Machine} {replies : List String} {count : Nat}

/-- A plain run that started with the given replies takes the machine's next step. -/
def Behind (fresh : List String → Machine) (replies : List String) (count : Nat)
    (machine : Machine) : Prop :=
  ∀ extra, ((fresh (replies ++ extra)).afterSteps count).step = (machine.plain extra).step

def Beside (fresh : List String → Machine) (replies : List String) (count : Nat)
    (machine : Machine) : Prop :=
  ∀ extra, (fresh (replies ++ extra)).afterSteps count = machine.plain extra

/-- Only while a machine waits may the plain run be elsewhere: before the instruction that
waits, with the refused replies still unread. -/
structure Tracks (fresh : List String → Machine) (replies : List String) (machine : Machine) :
    Prop where
  consistent : machine.Consistent
  reached : ∃ count, Behind fresh replies count machine ∧
    ((∀ request, machine.state ≠ .awaiting request) → Beside fresh replies count machine)

theorem Beside.behind (beside : Beside fresh replies count machine) :
    Behind fresh replies count machine := by
  intro extra
  rw [beside extra]

theorem Beside.tracks (beside : Beside fresh replies count machine)
    (consistent : machine.Consistent) : Tracks fresh replies machine :=
  ⟨consistent, count, beside.behind, fun _ => beside⟩

/-! Each move keeps a plain run on track. -/

theorem Tracks.resume (tracks : Tracks fresh replies machine) :
    Tracks fresh replies machine.resume := by
  by_cases paused : machine.state = .paused
  · obtain ⟨count, _, beside⟩ := tracks.reached
    have level : Beside fresh replies count machine.resume := by
      intro extra
      rw [plain_resume]
      apply beside
      simp [paused]
    exact level.tracks (resume_consistent machine tracks.consistent)
  · rw [resume_of_not_paused paused]
    exact tracks

-- The plain run takes the step at the same time, unless the step has to wait: then it stays.
theorem Behind.step (behind : Behind fresh replies count machine)
    (consistent : machine.Consistent) (active : machine.Active) :
    Tracks fresh replies machine.step.2 := by
  have stillConsistent := step_consistent machine consistent
  cases advances active with
  | completed _ plain =>
      have level : Beside fresh replies (count + 1) machine.step.2 := by
        intro extra
        rw [afterSteps_succ, behind, plain]
      exact level.tracks stillConsistent
  | suspended request result _ plain =>
      have stillBehind : Behind fresh replies count machine.step.2 := by
        intro extra
        rw [behind, plain]
      refine ⟨stillConsistent, count, stillBehind, ?_⟩
      intro busy
      exact absurd (step_state result) (busy request)

theorem Tracks.step (tracks : Tracks fresh replies machine) :
    Tracks fresh replies machine.step.2 := by
  by_cases active : machine.Active
  · obtain ⟨count, behind, _⟩ := tracks.reached
    exact behind.step tracks.consistent active
  · rw [step_of_not_active active]
    exact tracks

theorem Behind.supply {request : Request} (behind : Behind fresh replies count machine)
    (consistent : machine.Consistent) (awaiting : machine.state = .awaiting request)
    (reply : String) : Behind fresh (replies ++ [reply]) count (machine.supply reply) := by
  intro extra
  rw [List.append_assoc, List.singleton_append, behind]
  exact (step_plain_supply consistent awaiting reply extra).symm

theorem Tracks.answer {request : Request} (tracks : Tracks fresh replies machine)
    (awaiting : machine.state = .awaiting request) (reply : String) :
    Tracks fresh (replies ++ [reply]) (machine.supply reply).resume.step.2 := by
  obtain ⟨count, behind, _⟩ := tracks.reached
  have running : (machine.supply reply).state = .running := by
    rw [supply_of_awaiting reply awaiting]
  rw [resume_of_not_paused (by simp [running])]
  exact (behind.supply tracks.consistent awaiting reply).step
    (supply_consistent machine reply tracks.consistent) (active_of_running running)

theorem Tracks.move {submitted : List String} {after : Machine}
    (tracks : Tracks fresh replies machine) (move : Move machine submitted after) :
    Tracks fresh (replies ++ submitted) after := by
  cases move with
  | idle => simpa using tracks
  | resumed => simpa using tracks.resume
  | stepped => simpa using tracks.resume.step
  | answered reply awaiting => exact tracks.answer awaiting reply

/-- A plain run that has no reply to come catches up with a machine that waits by waiting too. -/
theorem Tracks.agrees (tracks : Tracks fresh replies machine) :
    ∃ count, machine.Agrees ((fresh replies).afterSteps count) := by
  obtain ⟨count, behind, beside⟩ := tracks.reached
  rcases machine.waits_or_busy with ⟨request, awaiting⟩ | busy
  · have next : ((fresh replies).afterSteps count).step = (machine.plain []).step := by
      simpa using behind []
    refine ⟨count + 1, ?_⟩
    rw [afterSteps_succ, next, step_plain_nil tracks.consistent awaiting]
    exact machine.agrees_plain []
  · have level : (fresh replies).afterSteps count = machine.plain [] := by
      simpa using beside busy []
    refine ⟨count, ?_⟩
    rw [level]
    exact machine.agrees_plain []

end Tracking

-- A fresh machine on a playfield with breakpoints and without replies.
theorem start_tracks (grid : Grid) (extended : Bool) (seed : UInt64) :
    Tracks (start grid.unmarked extended seed) [] (start grid extended seed []) := by
  have level : Beside (start grid.unmarked extended seed) [] 0 (start grid extended seed []) := by
    intro extra
    rfl
  exact level.tracks (start_consistent grid extended seed [])

end Machine

namespace Session

theorem play_tracks {fresh : List String → Machine} (events : List Event)
    (stays : ∀ event ∈ events, ¬ event.Closes) {session : Session} {runner : Runner}
    {replies : List String} (opened : session.runner = some runner)
    (tracks : Machine.Tracks fresh replies runner.machine) :
    ∃ last, (play events session).runner = some last ∧
      Machine.Tracks fresh (replies ++ submitted events session) last.machine := by
  induction events generalizing session runner replies with
  | nil => exact ⟨runner, opened, by simpa [submitted] using tracks⟩
  | cons event later ih =>
      obtain ⟨next, stillOpened, move⟩ :=
        handle_moved event opened (stays event List.mem_cons_self)
      have further := ih (fun other member => stays other (List.mem_cons_of_mem event member))
        stillOpened (tracks.move move)
      simpa only [play, submitted, List.append_assoc] using further

/-- Whatever happens after the key that opens a runner and before the key that closes it, the
runner's machine has computed what a fresh machine computes in some number of steps, on the same
playfield without breakpoints and with the replies submitted so far as its script. -/
theorem interactive_agrees (session : Session) (closed : session.runner = none) (now : Int)
    (control : Bool) (events : List Event) (stays : ∀ event ∈ events, ¬ event.Closes) :
    let opened := session.press now ⟨.function 1, control⟩
    let seed := session.settings.seed.getD session.chance
    ∃ runner, (play events opened).runner = some runner ∧
      ∃ count, runner.machine.Agrees
        ((Machine.start session.editor.grid.unmarked session.settings.extended seed
          (submitted events opened)).afterSteps count) := by
  intro opened seed
  have starts : opened.runner = some (.start
      (.start session.editor.grid session.settings.extended seed []) now) :=
    congrArg Session.runner (press_openKey closed now control)
  obtain ⟨runner, stillOpened, tracks⟩ := play_tracks events stays starts
    (Machine.start_tracks session.editor.grid session.settings.extended seed)
  exact ⟨runner, stillOpened, tracks.agrees⟩

/-- The program `&@` with a breakpoint on its second cell: an automatic step that waits, a reply
that is refused, one that is accepted and leads to the breakpoint, a frame, and a last step. -/
theorem interactive_agrees_retry :
    let grid := (Grid.ofRow 38 [64]).toggleBreakpoint ⟨1, 0⟩
    let settings := { Settings.standard with seed := some 5 }
    let session := Session.start (.start grid none) settings .empty 0
    let opened := session.press 0 ⟨.function 1, false⟩
    let answered : List Event := [.press 0 ⟨.function 5, false⟩, .tick 0,
      .press 0 ⟨.char 'x', false⟩, .press 0 ⟨.enter, false⟩,
      .press 0 ⟨.char '7', false⟩, .press 0 ⟨.enter, false⟩]
    let events := answered ++ [.frame 80 24, .press 0 ⟨.function 1, false⟩]
    session.runner.isNone ∧
      (play answered opened).runner.map (·.machine.state) = some .paused ∧
      (play events opened).runner.map (·.machine.state) = some .halted ∧
      submitted events opened = ["x", "7"] ∧
      (∀ event ∈ events, ¬ event.Closes) ∧
      ∃ runner, (play events opened).runner = some runner ∧
        ∃ count, runner.machine.Agrees
          ((Machine.start grid.unmarked false 5 (submitted events opened)).afterSteps count) := by
  intro grid settings session opened answered events
  have stays : ∀ event ∈ events, ¬ event.Closes := by
    simp [events, answered, Event.Closes]
  refine ⟨rfl, by decide +kernel, by decide +kernel, by decide +kernel, stays, ?_⟩
  exact interactive_agrees session rfl 0 false events stays

end Session

end Playfield
