import Mathlib.Data.List.Basic
import Playfield.Editor
import Playfield.Proofs.Grid
import Playfield.Proofs.Storage

/-!
Edits, one after the other. An editor has no history of its own: of its saves it keeps the flag
`dirty`. Here the playfield of the last successful save is kept beside it, and as long as the
flag is down the two have the same values. What a file system does is left open for this; that a
file then has what was saved is said of the disks that can come about.
-/

namespace Playfield

namespace Editor

inductive Edit where
  | move (dx dy : Int)
  | rowStart
  | rowEnd
  | columnTop
  | columnBottom
  | write (character : Char)
  | toggleBreakpoint
  | save (store : Store) (disk : Disk)

def apply (editor : Editor) : Edit → Editor
  | .move dx dy => editor.move dx dy
  | .rowStart => editor.rowStart
  | .rowEnd => editor.rowEnd
  | .columnTop => editor.columnTop
  | .columnBottom => editor.columnBottom
  | .write character => editor.write character
  | .toggleBreakpoint => editor.toggleBreakpoint
  | .save store disk => (editor.saveBy store disk).editor

def afterEdits (editor : Editor) (edits : List Edit) : Editor := edits.foldl apply editor

/-- Whether an edit is a save that returns a path. -/
def saves (editor : Editor) : Edit → Bool
  | .save store disk =>
      match (editor.saveBy store disk).result with
      | .ok (some _) => true
      | _ => false
  | _ => false

/-- The playfield of the last save that returned a path, and a given one if there was none. -/
def lastSaved (kept : Grid) (editor : Editor) : List Edit → Grid
  | [] => kept
  | edit :: later =>
      lastSaved (if editor.saves edit then editor.grid else kept) (editor.apply edit) later

/-! What a save does. -/

inductive SaveOutcome (store : Store) (editor : Editor) (disk : Disk) : Prop where
  | saved (path : String) (written : Disk) (own : editor.path = some path)
      (wrote : store disk path editor.grid = .ok written)
      (outcome : editor.saveBy store disk = ⟨.ok (some path), { editor with dirty := false }, written⟩)
  | kept (unwritten : ∀ path, (editor.saveBy store disk).result ≠ .ok (some path))
      (same : (editor.saveBy store disk).editor = editor)

theorem saveOutcome (store : Store) (editor : Editor) (disk : Disk) :
    SaveOutcome store editor disk := by
  cases own : editor.path with
  | none =>
      have outcome : editor.saveBy store disk = ⟨.ok none, editor, disk⟩ := by
        simp only [saveBy, own]
      apply SaveOutcome.kept
      · rw [outcome]
        nofun
      · rw [outcome]
  | some path =>
      cases wrote : store disk path editor.grid with
      | ok written =>
          have outcome : editor.saveBy store disk =
              ⟨.ok (some path), { editor with dirty := false }, written⟩ := by
            simp only [saveBy, own, wrote]
          exact .saved path written own wrote outcome
      | error error =>
          have outcome : editor.saveBy store disk = ⟨.error error, editor, disk⟩ := by
            simp only [saveBy, own, wrote]
          apply SaveOutcome.kept
          · rw [outcome]
            nofun
          · rw [outcome]

/-! The flag. -/

/-- A flag that is down promises the values of the given playfield. -/
def Honest (editor : Editor) (kept : Grid) : Prop :=
  editor.dirty = false → editor.grid.SameValues kept

theorem apply_honest {editor : Editor} {kept : Grid} (honest : editor.Honest kept) (edit : Edit) :
    (editor.apply edit).Honest (if editor.saves edit then editor.grid else kept) := by
  cases edit with
  | move dx dy => exact honest
  | rowStart => exact honest
  | rowEnd => exact honest
  | columnTop => exact honest
  | columnBottom => exact honest
  | write character => exact nofun
  | toggleBreakpoint =>
      intro clean
      exact (editor.grid.sameValues_toggleBreakpoint editor.cursor).symm.trans (honest clean)
  | save store disk =>
      cases saveOutcome store editor disk with
      | saved path written _ _ outcome =>
          simp only [apply, saves, outcome, ↓reduceIte]
          exact fun _ => ⟨rfl, rfl, fun _ => rfl⟩
      | kept unwritten same =>
          have silent : editor.saves (.save store disk) = false := by
            rcases returned : (editor.saveBy store disk).result with error | _ | path
            · simp only [saves, returned]
            · simp only [saves, returned]
            · exact absurd returned (unwritten path)
          simp only [apply, same, silent, Bool.false_eq_true, ↓reduceIte]
          exact honest

theorem afterEdits_honest {editor : Editor} {kept : Grid} (honest : editor.Honest kept)
    (edits : List Edit) : (editor.afterEdits edits).Honest (lastSaved kept editor edits) := by
  induction edits generalizing editor kept with
  | nil => exact honest
  | cons edit later ih => exact ih (apply_honest honest edit)

/-! The file. -/

theorem read_of_save {disk written : Disk} {path : String} {grid : Grid} (built : disk.Built)
    (saved : ProgramFile.save disk path grid = .ok written) :
    written.read path = .ok (ProgramText.render grid).toUTF8 := by
  by_cases extension : Path.extension? path = some ['b', 'f']
  · simp only [ProgramFile.save, ProgramFile.checkExtension, extension, ↓reduceIte, bind,
      Except.bind] at saved
    cases wrote : disk.write path (ProgramText.render grid).toUTF8 with
    | error error =>
        rw [wrote] at saved
        cases saved
    | ok after =>
        rw [wrote] at saved
        cases saved
        apply Disk.read_of_write built.sound wrote
        intro drops
        rw [Disk.extension?_of_sink built.sound drops] at extension
        cases extension
  · simp only [ProgramFile.save, ProgramFile.checkExtension, extension, ↓reduceIte, bind,
      Except.bind] at saved
    cases saved

/-- The flag hides no unsaved edit. After any edits, with saves that do whatever a file system
may do, a flag that is down means that the values are those of the last successful save, or of
the first playfield if there was none; a save that writes nothing changes nothing; and a save
that returns a path has put the text of the playfield into that file. -/
theorem clean_means_saved (grid : Grid) (path : Option String) (edits : List Edit) :
    let first := start grid path
    let editor := first.afterEdits edits
    (editor.dirty = false → editor.grid.SameValues (lastSaved grid first edits)) ∧
    (∀ store disk, (∀ name, (editor.saveBy store disk).result ≠ .ok (some name)) →
      (editor.saveBy store disk).editor = editor) ∧
    ∀ disk : Disk, disk.Built → ∀ name, (editor.save disk).result = .ok (some name) →
      editor.path = some name ∧ (editor.save disk).editor = { editor with dirty := false } ∧
      (editor.save disk).disk.read name = .ok (ProgramText.render editor.grid).toUTF8 := by
  intro first editor
  refine ⟨?_, ?_, ?_⟩
  · exact afterEdits_honest (fun _ => ⟨rfl, rfl, fun _ => rfl⟩) edits
  · intro store disk unwritten
    cases saveOutcome store editor disk with
    | saved name _ _ _ outcome =>
        rw [outcome] at unwritten
        exact absurd rfl (unwritten name)
    | kept _ same => exact same
  · intro disk built name returned
    rw [save] at returned ⊢
    cases saveOutcome ProgramFile.save editor disk with
    | saved other written own wrote outcome =>
        rw [outcome] at returned ⊢
        cases returned
        exact ⟨own, rfl, read_of_save built wrote⟩
    | kept unwritten _ => exact absurd returned (unwritten name)

/-- A value is written while the disk is full, and saved later. Of the breakpoints around it the
file knows nothing. -/
theorem clean_means_saved_later :
    let first := start (Grid.ofRow 49 [64]) (some "a.bf")
    let full : Store := fun _ path _ => .error (.inaccessible path (.other "No space left"))
    let edits : List Edit := [.write 'x', .save full .fresh, .toggleBreakpoint]
    let editor := first.afterEdits edits
    let later := first.afterEdits (edits ++ [.save ProgramFile.save .fresh, .toggleBreakpoint])
    editor.dirty = true ∧ (editor.saveBy full .fresh).editor = editor ∧
      (editor.save .fresh).result = .ok (some "a.bf") ∧
      (editor.save .fresh).disk.read "a.bf" = .ok (ProgramText.render editor.grid).toUTF8 ∧
      later.dirty = false ∧ later.grid.SameValues editor.grid := by
  intro first full edits editor later
  obtain ⟨_, failed, saved⟩ := clean_means_saved (Grid.ofRow 49 [64]) (some "a.bf") edits
  obtain ⟨clean, _⟩ := clean_means_saved (Grid.ofRow 49 [64]) (some "a.bf")
    (edits ++ [.save ProgramFile.save .fresh, .toggleBreakpoint])
  have returned : (editor.save .fresh).result = .ok (some "a.bf") := by decide +kernel
  have down : later.dirty = false := by decide +kernel
  have last : lastSaved (Grid.ofRow 49 [64]) first
      (edits ++ [.save ProgramFile.save .fresh, .toggleBreakpoint]) = editor.grid := by
    decide +kernel
  rw [last] at clean
  exact ⟨rfl, failed full .fresh nofun, returned, (saved .fresh .fresh "a.bf" returned).2.2, down,
    clean down⟩

end Editor

end Playfield
