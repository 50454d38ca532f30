import Playfield.Session.Frame

/-!
Events of a session. While a runner is open, an event does one of four things to its machine:
nothing, leaving a breakpoint, a step, or a supplied reply and a step. Keys and the clock only
decide which one.
-/

namespace Playfield

inductive Event where
  | press (now : Int) (key : Key)
  | tick (now : Int)
  | frame (width height : Nat)

-- The escape key closes a runner, whatever its machine is doing.
def Event.Closes : Event → Prop
  | .press _ key => key.code = .escape
  | .tick _ => False
  | .frame _ _ => False

/-- What an event does to a machine, with the replies that it submits. -/
inductive Move (before : Machine) : List String → Machine → Prop where
  | idle : Move before [] before
  | resumed : Move before [] before.resume
  | stepped : Move before [] before.resume.step.2
  | answered {request : Request} (reply : String) (awaiting : before.state = .awaiting request) :
      Move before [reply] (before.supply reply).resume.step.2

namespace Session

theorem press_openKey {session : Session} (closed : session.runner = none) (now : Int)
    (control : Bool) : session.press now ⟨.function 1, control⟩ = session.openRunner now := by
  have unquit : isQuitKey ⟨.function 1, control⟩ = false := by
    cases control <;> rfl
  rw [press, unquit, closed]
  rfl

def handle (session : Session) : Event → Session
  | .press now key => session.press now key
  | .tick now => session.tick now
  | .frame width height => (session.frame width height).2

/-- The reply that an event submits, if any: the typed text, on Enter while the machine waits. -/
def submission (session : Session) : Event → List String
  | .press _ key =>
      match session.runner with
      | some runner =>
          match runner.machine.state, key.code with
          | .awaiting _, .enter => [runner.input]
          | _, _ => []
      | none => []
  | .tick _ => []
  | .frame _ _ => []

def play : List Event → Session → Session
  | [], session => session
  | event :: later, session => play later (session.handle event)

/-- All replies that events submit, in order. -/
def submitted : List Event → Session → List String
  | [], _ => []
  | event :: later, session =>
      session.submission event ++ submitted later (session.handle event)

section Moves
variable {session : Session} {runner : Runner} {event : Event}

/-- A runner is open after an event, and its machine has made one move. -/
def Moved (session : Session) (before : Machine) (replies : List String) : Prop :=
  ∃ runner, session.runner = some runner ∧ Move before replies runner.machine

theorem moved_of_idle {before : Machine} (opened : session.runner = some runner)
    (same : runner.machine = before) : session.Moved before [] :=
  ⟨runner, opened, same ▸ .idle⟩

theorem stepRunner_moved (session : Session) (runner : Runner) (now : Int) :
    (session.stepRunner runner now).Moved runner.machine [] :=
  ⟨_, rfl, .stepped⟩

theorem tick_moved (now : Int) (opened : session.runner = some runner) :
    (session.tick now).Moved runner.machine [] := by
  simp only [tick, opened]
  split
  · exact session.stepRunner_moved runner now
  · exact moved_of_idle opened rfl

theorem frame_moved (width height : Nat) (opened : session.runner = some runner) :
    (session.frame width height).2.Moved runner.machine [] := by
  simp only [frame, opened]
  exact moved_of_idle rfl rfl

theorem toggleAutomatic_moved (now : Int) (opened : session.runner = some runner) :
    (session.toggleAutomatic runner now).Moved runner.machine [] := by
  simp only [toggleAutomatic]
  split
  · exact moved_of_idle opened rfl
  · split
    · exact moved_of_idle rfl rfl
    · exact ⟨_, rfl, .resumed⟩

theorem pressInRunner_moved (now : Int) (key : Key) (opened : session.runner = some runner)
    (stays : key.code ≠ .escape) :
    (session.pressInRunner runner now key).Moved runner.machine [] := by
  unfold pressInRunner
  split
  · exact session.stepRunner_moved { runner with automatic := false } now
  · exact toggleAutomatic_moved now opened
  · exact moved_of_idle rfl rfl
  · exact moved_of_idle rfl rfl
  · rename_i escape
    exact absurd escape stays
  · exact moved_of_idle opened rfl

theorem submission_of_other (now : Int) {key : Key} (other : key.code ≠ .enter) :
    session.submission (.press now key) = [] := by
  simp only [submission]
  split
  · split
    · rename_i entered
      exact absurd entered other
    · rfl
  · rfl

theorem submission_of_busy (now : Int) (key : Key) (opened : session.runner = some runner)
    (busy : ∀ request, runner.machine.state ≠ .awaiting request) :
    session.submission (.press now key) = [] := by
  simp only [submission, opened]
  split
  · rename_i awaiting _
    exact absurd awaiting (busy _)
  · rfl

theorem pressInInput_moved {request : Request} (now : Int) (key : Key)
    (opened : session.runner = some runner) (awaiting : runner.machine.state = .awaiting request)
    (stays : key.code ≠ .escape) :
    (session.pressInInput runner now key).Moved runner.machine
      (session.submission (.press now key)) := by
  by_cases entered : key.code = .enter
  · have submits : session.submission (.press now key) = [runner.input] := by
      simp [submission, opened, awaiting, entered]
    rw [submits]
    simp only [pressInInput, entered]
    exact ⟨_, rfl, .answered runner.input awaiting⟩
  · rw [submission_of_other now entered]
    cases code : key.code with
    | enter => exact absurd code entered
    | escape => exact absurd code stays
    | char _ | backspace =>
        simp only [pressInInput, code]
        exact moved_of_idle rfl rfl
    | up | down | left | right | home | endKey | pageUp | pageDown | function _ | other =>
        simp only [pressInInput, code]
        exact moved_of_idle opened rfl

theorem press_moved (now : Int) (key : Key) (opened : session.runner = some runner)
    (stays : key.code ≠ .escape) :
    (session.press now key).Moved runner.machine (session.submission (.press now key)) := by
  by_cases quits : isQuitKey key = true
  · have typed : key.code ≠ .enter := by
      intro entered
      simp [isQuitKey, entered] at quits
    rw [submission_of_other now typed]
    simp only [press, quits, ↓reduceIte]
    exact moved_of_idle opened rfl
  · simp only [press, quits, Bool.false_eq_true, ↓reduceIte, opened]
    split
    · rename_i request awaiting
      exact pressInInput_moved now key opened awaiting stays
    · rename_i busy
      rw [submission_of_busy now key opened busy]
      exact pressInRunner_moved now key opened stays

theorem handle_moved (event : Event) (opened : session.runner = some runner)
    (stays : ¬ event.Closes) :
    (session.handle event).Moved runner.machine (session.submission event) := by
  cases event with
  | press now key => exact press_moved now key opened stays
  | tick now => exact tick_moved now opened
  | frame width height => exact frame_moved width height opened

end Moves

end Session

end Playfield
