import Playfield.ProgramFile

/-!
The editor: a playfield, a cursor on it, and the file that it belongs to. `dirty` says whether
values have been written since the program was loaded or saved; breakpoints are not saved and
do not count.
-/

namespace Playfield

structure Editor where
  grid : Grid
  cursor : Position
  path : Option String
  dirty : Bool

namespace Editor

def start (grid : Grid) (path : Option String) : Editor := ⟨grid, .origin, path, false⟩

def move (editor : Editor) (dx dy : Int) : Editor :=
  { editor with cursor := editor.grid.offset editor.cursor dx dy }

def rowStart (editor : Editor) : Editor := { editor with cursor.x := 0 }

def rowEnd (editor : Editor) : Editor := { editor with cursor.x := editor.grid.width - 1 }

def columnTop (editor : Editor) : Editor := { editor with cursor.y := 0 }

def columnBottom (editor : Editor) : Editor := { editor with cursor.y := editor.grid.height - 1 }

/-- Overwrites the cell under the cursor, which stays where it is. -/
def write (editor : Editor) (character : Char) : Editor :=
  { editor with
    grid := editor.grid.setValue editor.cursor (Scalar.code character)
    dirty := true }

def toggleBreakpoint (editor : Editor) : Editor :=
  { editor with grid := editor.grid.toggleBreakpoint editor.cursor }

/-- Whether the cell under the cursor has a breakpoint. -/
def onBreakpoint (editor : Editor) : Bool := (editor.grid.cell editor.cursor).breakpoint

/-- What a save leads to: the path that was written, if any, or the failure, and the editor and
the disk after it. -/
structure Saved where
  result : Except ProgramFileError (Option String)
  editor : Editor
  disk : Disk

/-- Something that writes a program to a path, or fails to. -/
abbrev Store := Disk → String → Grid → Except ProgramFileError Disk

/-- Writes the program to its file, if it has one. Only a successful save changes anything. -/
def saveBy (store : Store) (editor : Editor) (disk : Disk) : Saved :=
  match editor.path with
  | none => ⟨.ok none, editor, disk⟩
  | some path =>
      match store disk path editor.grid with
      | .ok written => ⟨.ok (some path), { editor with dirty := false }, written⟩
      | .error error => ⟨.error error, editor, disk⟩

def save (editor : Editor) (disk : Disk) : Saved := editor.saveBy ProgramFile.save disk

end Editor

end Playfield
