import Playfield.Screen.GridPane
import Playfield.Screen.OutputPane
import Playfield.Screen.Size
import Playfield.Screen.StackPane
import Playfield.Screen.StatusBar
import Playfield.Session.Basic

/-!
What a session shows. The last row is the status bar. The editor fills the rest with its
playfield; a runner shows its playfield above its output, and its stack beside both.
-/

namespace Playfield.Session

open Screen

def stackColumns : Nat := 15

/-- Rows of a runner's playfield: 70 percent, rounded to the nearest. -/
def gridRows (rows : Nat) : Nat := (70 * rows + 50) / 100

def editorFrame (session : Session) (width height : Nat) : Picture :=
  let editor := session.editor
  let title := " Editor - " ++ editor.path.getD "<untitled>" ++ " "
  let pane := GridPane.draw editor.grid editor.cursor title Theme.cursor true width (height - 1)
  let bar := StatusBar.draw (.editor ⟨session.status.message, editor.cursor, editor.dirty⟩) width 1
  (pane ++ bar).take height

def runnerFrame (session : Session) (runner : Runner) (width height : Nat) : Picture × Runner :=
  let machine := runner.machine
  let rows := height - 1
  let columns := width - stackColumns
  let title := if machine.extended then " Runner (extended) " else " Runner "
  let gridPane := GridPane.draw machine.grid machine.position title Theme.programCounter true
    columns (gridRows rows)
  let outputPane := OutputPane.draw machine.output false runner.scroll columns
    (rows - gridRows rows)
  let stackPane := StackPane.draw machine.stack false (min stackColumns width) rows
  let bar := StatusBar.draw (.runner {
    message := session.status.message
    isError := session.status.isError
    position := machine.position
    heading := machine.counter.heading
    steps := machine.steps
    state := machine.state
    automatic := runner.automatic
    input := some runner.input }) width 1
  ((Picture.beside (gridPane ++ outputPane.1) stackPane ++ bar).take height,
    { runner with scroll := outputPane.2 })

/-- Draws a session. Drawing changes nothing but the scroll offset of a runner. -/
def frame (session : Session) (width height : Nat) : Picture × Session :=
  match session.runner with
  | none => (session.editorFrame width height, session)
  | some runner =>
      let drawn := session.runnerFrame runner width height
      (drawn.1, { session with runner := some drawn.2 })

end Playfield.Session
