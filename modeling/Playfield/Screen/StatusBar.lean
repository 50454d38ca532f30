import Playfield.Machine.Basic
import Playfield.Screen.Picture

/-!
The status bar: a badge, a place and a message on the left, the keys on the right.
-/

namespace Playfield.Screen.StatusBar

structure EditorContent where
  message : String
  cursor : Position
  dirty : Bool

structure RunnerContent where
  message : String
  isError : Bool
  position : Position
  heading : Heading
  steps : Nat
  state : RunState
  automatic : Bool
  input : Option String

inductive Content where
  | editor (content : EditorContent)
  | runner (content : RunnerContent)

structure Span where
  style : Style
  text : String

def barStyle : Style := .paper Theme.bar

def textStyle : Style := (Style.ink Theme.text).on Theme.bar

def separator : Span := .mk ((Style.ink Theme.comment).on Theme.bar) "│"

def badge (label : String) (color : Color) : Span :=
  .mk ((Style.ink .black).on color).inBold label

def stateBadge (automatic : Bool) : RunState → Span
  | .running => if automatic then badge " ▶ AUTO " Theme.secondary else badge " RUN " Theme.success
  | .paused => badge " ⏸ BREAK " Theme.breakpoint
  | .awaiting _ => badge " ⌨ INPUT " Theme.secondary
  | .halted => badge " END " Theme.error

def editorText (content : EditorContent) : List Span :=
  [badge " EDIT " Theme.primary,
   ⟨textStyle, " " ++ content.cursor.text ++ (if content.dirty then " *" else "") ++ " "⟩,
   separator,
   ⟨textStyle, " " ++ content.message ++ " "⟩]

/-- While a reply is awaited, what has been typed takes the place of the message. -/
def runnerMessage (content : RunnerContent) : List Span :=
  match content.state, content.input with
  | .awaiting request, some typed =>
      [⟨textStyle, " " ++ request.prompt ++ ": "⟩,
       ⟨((Style.ink Theme.secondary).on Theme.bar).inBold, typed ++ "▏"⟩]
  | _, _ =>
      let color := if content.isError then Theme.error else Theme.text
      [⟨(Style.ink color).on Theme.bar, " " ++ content.message ++ " "⟩]

def runnerText (content : RunnerContent) : List Span :=
  let place := " " ++ content.position.text ++ " " ++ String.singleton content.heading.arrow
    ++ " step " ++ Nat.repr content.steps ++ " "
  [stateBadge content.automatic content.state, ⟨textStyle, place⟩, separator]
    ++ runnerMessage content

def left : Content → List Span
  | .editor content => editorText content
  | .runner content => runnerText content

def editorKeys : List (String × String) :=
  [("F1", "run"), ("F8", "breakpoint"), ("F12", "save"), ("Esc", "quit")]

def runnerKeys : List (String × String) :=
  [("F1", "step"), ("F5", "auto"), ("Esc", "editor")]

def inputKeys : List (String × String) :=
  [("↵", "submit"), ("Esc", "editor")]

def keys : Content → List (String × String)
  | .editor _ => editorKeys
  | .runner content =>
      match content.state with
      | .awaiting _ => inputKeys
      | _ => runnerKeys

def keyHint (hint : String × String) : List Span :=
  [⟨(Style.ink .black).on Theme.comment, " " ++ hint.1 ++ " "⟩,
   ⟨textStyle, " " ++ hint.2 ++ " "⟩]

def right (content : Content) : List Span :=
  List.intercalate [separator, ⟨textStyle, " "⟩] ((keys content).map keyHint)

/-- Columns of the left part: 55 percent, rounded to the nearest. -/
def leftWidth (width : Nat) : Nat := (55 * width + 50) / 100

def pieces (spans : List Span) : List (List Char × Style) :=
  spans.flatMap fun span => (Cluster.split span.text.toList).map fun cluster => (cluster, span.style)

/-- Clusters on a line of the given width, of which `room` columns are left. One that is wider than
the line is left out; otherwise the first one that does not fit ends the line. -/
def layOut (width room : Nat) : List (List Char × Style) → Row
  | [] => []
  | (cluster, style) :: rest =>
      let columns := Columns.count cluster
      if columns = 0 ∨ width < columns then layOut width room rest
      else if room < columns then []
      else
        ⟨String.ofList cluster, style⟩
          :: (List.replicate (columns - 1) (.blank barStyle) ++ layOut width (room - columns) rest)

def line (width : Nat) (spans : List Span) : Row :=
  Row.settle false (layOut width width (pieces spans))

/-- The bar has one line; further rows only take its colour. -/
def draw (content : Content) (width height : Nat) : Picture :=
  let leftWidth := leftWidth width
  let rightWidth := width - leftWidth
  let bar := Row.fit leftWidth barStyle (line leftWidth (left content))
    ++ Row.fitRight rightWidth barStyle (line rightWidth (right content))
  Picture.fit width height barStyle [bar]

end Playfield.Screen.StatusBar
