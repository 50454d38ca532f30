import Playfield.Storage.Disk

/-!
What is written to a file is read from it. Putting an entry into a tree changes what stands at
that place, and of all other places only the folders on the way; so the names that led to the
file before still lead there. The one exception is the null device, which keeps nothing. No disk
that can be set up has another one, and a file name with an extension does not lead to it.
-/

namespace Playfield

theorem lookup_assign_of_ne {κ ν : Type} [BEq κ] [LawfulBEq κ] {key other : κ}
    (different : other ≠ key) (value : ν) (pairs : List (κ × ν)) :
    (assign key value pairs).lookup other = pairs.lookup other := by
  have unequal : (other == key) = false := beq_eq_false_iff_ne.mpr different
  induction pairs with
  | nil => simp [assign, List.lookup_cons, unequal]
  | cons first rest ih =>
      obtain ⟨name, held⟩ := first
      by_cases same : key = name
      · subst same
        simp [assign, List.lookup_cons, unequal]
      · simp [assign, same, List.lookup_cons, ih]

namespace Entry

def HasFolder (tree : Entry) (names : List (List Char)) : Prop :=
  ∃ entries, tree.find? names = some (.folder entries)

theorem find?_append (tree : Entry) (names more : List (List Char)) :
    tree.find? (names ++ more) = (tree.find? names).bind (·.find? more) := by
  induction names generalizing tree with
  | nil => simp [find?]
  | cons name rest ih =>
      cases tree with
      | file bytes => rfl
      | sink => rfl
      | folder entries =>
          simp only [List.cons_append, find?]
          cases entries.lookup name with
          | none => rfl
          | some entry => exact ih entry

-- Only folders lead any further.
theorem HasFolder.of_append {tree : Entry} {names more : List (List Char)}
    (folder : tree.HasFolder (names ++ more)) : tree.HasFolder names := by
  obtain ⟨entries, found⟩ := folder
  rw [find?_append, Option.bind_eq_some_iff] at found
  obtain ⟨entry, reached, found⟩ := found
  cases entry with
  | folder kept => exact ⟨kept, reached⟩
  | file bytes => cases more <;> cases found
  | sink => cases more <;> cases found

theorem find?_file_ne_sink (bytes : ByteArray) (names : List (List Char)) :
    (Entry.file bytes).find? names ≠ some .sink := by
  cases names <;> simp [find?]

theorem find?_emptyFolder_ne_sink (names : List (List Char)) :
    emptyFolder.find? names ≠ some .sink := by
  cases names <;> simp [find?, emptyFolder]

/-- What is found at a place once an entry has been put where some names lead. -/
inductive AfterPut (entry : Entry) (names : List (List Char)) (tree : Entry)
    (place : List (List Char)) : Prop where
  | below (rest : List (List Char)) (inside : place = names ++ rest)
      (found : (entry.put names tree).find? place = entry.find? rest)
  | above (found : (entry.put names tree).HasFolder place)
  | apart (found : (entry.put names tree).find? place = tree.find? place)

theorem afterPut (entry : Entry) (names : List (List Char)) (tree : Entry)
    (place : List (List Char)) : AfterPut entry names tree place := by
  induction names generalizing tree place with
  | nil => exact .below place rfl rfl
  | cons name rest ih =>
      cases tree with
      | file bytes => exact .apart rfl
      | sink => exact .apart rfl
      | folder entries =>
          cases place with
          | nil => exact .above ⟨_, rfl⟩
          | cons other further =>
              by_cases same : other = name
              · subst same
                have entered : (entry.put (other :: rest) (.folder entries)).find?
                    (other :: further) =
                      (entry.put rest ((entries.lookup other).getD emptyFolder)).find? further := by
                  simp [put, find?, lookup_assign]
                cases ih ((entries.lookup other).getD emptyFolder) further with
                | below more inside found =>
                    exact .below more (congrArg (other :: ·) inside) (entered.trans found)
                | above found =>
                    obtain ⟨kept, found⟩ := found
                    exact .above ⟨kept, entered.trans found⟩
                | apart found =>
                    cases held : entries.lookup other with
                    | some child =>
                        rw [held] at found entered
                        apply AfterPut.apart
                        rw [entered]
                        simp only [find?, held]
                        exact found
                    | none =>
                        -- A folder that had to be made shows itself and has nothing in it.
                        rw [held] at found entered
                        cases further with
                        | nil => exact .above ⟨_, entered.trans found⟩
                        | cons deeper others =>
                            apply AfterPut.apart
                            rw [entered]
                            simp only [find?, held]
                            exact found
              · apply AfterPut.apart
                simp only [put, find?, lookup_assign_of_ne same]

theorem find?_put_child {tree : Entry} {folders : List (List Char)}
    (folder : tree.HasFolder folders) (entry : Entry) (name : List Char) :
    (entry.put (folders ++ [name]) tree).find? (folders ++ [name]) = some entry := by
  obtain ⟨entries, folder⟩ := folder
  induction folders generalizing tree with
  | nil =>
      cases folder
      simp [put, find?, lookup_assign]
  | cons first rest ih =>
      cases tree with
      | file bytes => cases folder
      | sink => cases folder
      | folder kept =>
          simp only [find?] at folder
          cases held : kept.lookup first with
          | none =>
              rw [held] at folder
              cases folder
          | some child =>
              rw [held] at folder
              simp only [List.cons_append, put, find?, lookup_assign, held, Option.getD_some]
              exact ih folder

end Entry

namespace Disk

def HasFolder (disk : Disk) (place : Place) : Prop :=
  (disk.tree place.origin).HasFolder place.names

theorem tree_set_self (disk : Disk) (place : Place) (entry : Entry) :
    (disk.set place entry).tree place.origin =
      entry.put place.names (disk.tree place.origin) := by
  simp [tree, set, lookup_assign]

theorem tree_set_of_ne (disk : Disk) {place : Place} {origin : Origin}
    (different : origin ≠ place.origin) (entry : Entry) :
    (disk.set place entry).tree origin = disk.tree origin := by
  simp [tree, set, lookup_assign_of_ne different]

/-- What stands at a place of a disk once an entry has been set at another one. -/
inductive AfterSet (disk : Disk) (place : Place) (entry : Entry) (other : Place) : Prop where
  | below (rest : List (List Char)) (inside : other = ⟨place.origin, place.names ++ rest⟩)
      (found : Disk.entry? (disk.set place entry) other = entry.find? rest)
  | above (found : (disk.set place entry).HasFolder other)
  | apart (found : Disk.entry? (disk.set place entry) other = disk.entry? other)

theorem afterSet (disk : Disk) (place : Place) (entry : Entry) (other : Place) :
    AfterSet disk place entry other := by
  obtain ⟨origin, names⟩ := other
  by_cases same : origin = place.origin
  · subst same
    have stored := disk.tree_set_self place entry
    cases entry.afterPut place.names (disk.tree place.origin) names with
    | below rest inside found =>
        rw [← stored] at found
        exact .below rest (congrArg (Place.mk place.origin) inside) found
    | above found =>
        rw [← stored] at found
        exact .above found
    | apart found =>
        rw [← stored] at found
        exact .apart found
  · exact .apart (congrArg (·.find? names) (disk.tree_set_of_ne same entry))

theorem entry?_set_child {disk : Disk} {folder : Place} (here : disk.HasFolder folder)
    (name : List Char) (entry : Entry) :
    Disk.entry? (disk.set (folder.child name) entry) (folder.child name) = some entry := by
  have stored := disk.tree_set_self (folder.child name) entry
  simp only [stored, entry?]
  exact Entry.find?_put_child here entry name

/-- A file that takes the place of no folder leaves all folders folders. -/
theorem hasFolder_set_file {disk : Disk} {place other : Place} (free : ¬ disk.HasFolder place)
    (bytes : ByteArray) (here : disk.HasFolder other) :
    (disk.set place (.file bytes)).HasFolder other := by
  cases disk.afterSet place (.file bytes) other with
  | below rest inside _ =>
      subst inside
      exact absurd (Entry.HasFolder.of_append here) free
  | above found => exact found
  | apart found =>
      obtain ⟨entries, folder⟩ := here
      exact ⟨entries, found.trans folder⟩

/-! Disks that can be set up. -/

structure Sound (disk : Disk) : Prop where
  roots : ∀ origin, disk.HasFolder ⟨origin, []⟩
  sinks : ∀ place, disk.entry? place = some .sink → place = nullDevice

theorem Sound.set {disk : Disk} (sound : disk.Sound) {place : Place} {entry : Entry}
    (inside : place.names ≠ [])
    (clean : ∀ rest, entry.find? rest = some .sink →
      (⟨place.origin, place.names ++ rest⟩ : Place) = nullDevice) :
    (disk.set place entry).Sound := by
  constructor
  · intro origin
    cases disk.afterSet place entry ⟨origin, []⟩ with
    | below rest same _ =>
        have names := congrArg Place.names same
        exact absurd (List.append_eq_nil_iff.mp names.symm).1 inside
    | above found => exact found
    | apart found =>
        obtain ⟨entries, folder⟩ := sound.roots origin
        exact ⟨entries, found.trans folder⟩
  · intro other drops
    cases disk.afterSet place entry other with
    | below rest below found =>
        subst below
        exact clean rest (found.symm.trans drops)
    | above found =>
        obtain ⟨entries, folder⟩ := found
        cases folder.symm.trans drops
    | apart found => exact sound.sinks other (found.symm.trans drops)

theorem Sound.setChild {disk : Disk} (sound : disk.Sound) (folder : Place) (name : List Char)
    {entry : Entry} (clean : ∀ rest, entry.find? rest ≠ some .sink) :
    (disk.set (folder.child name) entry).Sound := by
  apply sound.set
  · simp [Place.child]
  · intro rest drops
    exact absurd drops (clean rest)

theorem empty_sound : empty.Sound := by
  constructor
  · intro origin
    exact ⟨[], rfl⟩
  · intro place drops
    exact absurd drops (Entry.find?_emptyFolder_ne_sink place.names)

theorem enter_sound {current : Disk × Place} (sound : current.1.Sound) (piece : List Char) :
    (enter current piece).1.Sound := by
  simp only [enter]
  split
  · exact sound
  · split
    · exact sound
    · split
      · exact sound
      · exact sound.setChild _ _ Entry.find?_emptyFolder_ne_sink

theorem foldl_enter_sound (current : Disk × Place) (sound : current.1.Sound)
    (pieces : List (List Char)) : (pieces.foldl enter current).1.Sound := by
  induction pieces generalizing current with
  | nil => exact sound
  | cons piece rest ih => exact ih _ (enter_sound sound piece)

theorem addFolder_sound {disk : Disk} (sound : disk.Sound) (path : String) :
    (disk.addFolder path).Sound :=
  foldl_enter_sound (disk, .start path) sound _

theorem addFile_sound {disk : Disk} (sound : disk.Sound) (path : String) (bytes : ByteArray) :
    (disk.addFile path bytes).Sound :=
  (foldl_enter_sound (disk, .start path) sound _).setChild _ _ (Entry.find?_file_ne_sink bytes)

theorem fresh_sound : fresh.Sound := by
  have folders : ∀ (paths : List String) (disk : Disk), disk.Sound →
      (paths.foldl addFolder disk).Sound := by
    intro paths
    induction paths with
    | nil => exact fun _ sound => sound
    | cons path rest ih => exact fun disk sound => ih _ (addFolder_sound sound path)
  apply (folders standardFolders empty empty_sound).set
  · simp [nullDevice]
  · intro rest drops
    cases rest with
    | nil => rw [List.append_nil]
    | cons name more => cases drops

/-! Following a path. -/

theorem hasFolder_parent {disk : Disk} (sound : disk.Sound) {place : Place}
    (here : disk.HasFolder place) : disk.HasFolder place.parent := by
  obtain ⟨origin, names⟩ := place
  cases names with
  | nil =>
      cases origin with
      | above levels => exact sound.roots _
      | top => exact here
  | cons name rest =>
      have whole : (name :: rest).dropLast ++ [(name :: rest).getLast (List.cons_ne_nil _ _)] =
          name :: rest := List.dropLast_concat_getLast _
      have folder : (disk.tree origin).HasFolder (name :: rest) := here
      rw [← whole] at folder
      cases origin <;> exact folder.of_append

/-- A piece of a path that names something in the folder before it. -/
structure Names (piece : List Char) : Prop where
  nonempty : piece ≠ []
  notHere : piece ≠ ['.']
  notAbove : piece ≠ ['.', '.']
  short : Path.byteLength piece ≤ Path.nameLimit

theorem follow_name {piece : List Char} (names : Names piece) (disk : Disk) (place : Place)
    (rest : List (List Char)) :
    disk.follow place (piece :: rest) =
      match disk.entry? (place.child piece) with
      | some (.folder _) => disk.follow (place.child piece) rest
      | some (.file bytes) =>
          if rest = [] then .ok (.file (place.child piece) bytes) else .error .notADirectory
      | some .sink => if rest = [] then .ok .sink else .error .notADirectory
      | none => if rest = [] then .ok (.free (place.child piece)) else .error .notFound := by
  rw [follow]
  · exact if_neg (Nat.not_lt.mpr names.short)
  · exact names.nonempty
  · exact names.notHere
  · exact names.notAbove

/-- The pieces lead from a place through folders to the last name, in the last folder. -/
inductive Leads (disk : Disk) : Place → List (List Char) → Place → List Char → Prop where
  | name {place : Place} {piece : List Char} (names : Names piece) :
      Leads disk place [piece] place piece
  | here {place folder : Place} {piece last : List Char} {rest : List (List Char)}
      (stays : piece = [] ∨ piece = ['.']) (later : Leads disk place rest folder last) :
      Leads disk place (piece :: rest) folder last
  | up {place folder : Place} {last : List Char} {rest : List (List Char)}
      (later : Leads disk place.parent rest folder last) :
      Leads disk place (['.', '.'] :: rest) folder last
  | down {place folder : Place} {piece last : List Char} {rest : List (List Char)}
      (names : Names piece) (enters : disk.HasFolder (place.child piece))
      (later : Leads disk (place.child piece) rest folder last) :
      Leads disk place (piece :: rest) folder last

namespace Leads
variable {disk : Disk} {place folder : Place} {pieces : List (List Char)} {name : List Char}

theorem names (leads : Leads disk place pieces folder name) : Names name := by
  induction leads with
  | name names => exact names
  | here _ _ ih => exact ih
  | up _ ih => exact ih
  | down _ _ _ ih => exact ih

theorem last (leads : Leads disk place pieces folder name) : pieces.getLast? = some name := by
  induction leads with
  | name => rfl
  | here _ _ ih => simp [List.getLast?_cons, ih]
  | up _ ih => simp [List.getLast?_cons, ih]
  | down _ _ _ ih => simp [List.getLast?_cons, ih]

theorem hasFolder (leads : Leads disk place pieces folder name) (sound : disk.Sound)
    (here : disk.HasFolder place) : disk.HasFolder folder := by
  induction leads with
  | name => exact here
  | here _ _ ih => exact ih here
  | up _ ih => exact ih (hasFolder_parent sound here)
  | down _ enters _ ih => exact ih enters

theorem mono (leads : Leads disk place pieces folder name) {after : Disk}
    (kept : ∀ other, disk.HasFolder other → after.HasFolder other) :
    Leads after place pieces folder name := by
  induction leads with
  | name names => exact .name names
  | here stays _ ih => exact .here stays ih
  | up _ ih => exact .up ih
  | down names enters _ ih => exact .down names (kept _ enters) ih

theorem follow (leads : Leads disk place pieces folder name) :
    disk.follow place pieces = disk.follow folder [name] := by
  induction leads with
  | name => rfl
  | here stays _ ih =>
      rcases stays with rfl | rfl
      · exact ih
      · exact ih
  | up _ ih => exact ih
  | down names enters _ ih =>
      obtain ⟨entries, found⟩ := enters
      have entered : disk.entry? _ = some (.folder entries) := found
      rw [follow_name names, entered]
      exact ih

end Leads

theorem leads_of_follow {disk : Disk} {place : Place} {pieces : List (List Char)}
    {target : Target} (followed : disk.follow place pieces = .ok target)
    (apart : ∀ folder, target ≠ .folder folder) :
    ∃ folder name, Leads disk place pieces folder name := by
  induction pieces generalizing place with
  | nil =>
      cases followed
      exact absurd rfl (apart place)
  | cons piece rest ih =>
      by_cases stays : piece = [] ∨ piece = ['.']
      · have later : disk.follow place rest = .ok target := by
          rcases stays with rfl | rfl <;> exact followed
        obtain ⟨folder, name, leads⟩ := ih later
        exact ⟨folder, name, .here stays leads⟩
      · by_cases above : piece = ['.', '.']
        · subst above
          obtain ⟨folder, name, leads⟩ := ih followed
          exact ⟨folder, name, .up leads⟩
        · rw [not_or] at stays
          by_cases short : Path.byteLength piece ≤ Path.nameLimit
          · have names : Names piece := ⟨stays.1, stays.2, above, short⟩
            by_cases last : rest = []
            · subst last
              exact ⟨place, piece, .name names⟩
            · simp only [follow_name names, last, ↓reduceIte] at followed
              split at followed
              · rename_i entries found
                obtain ⟨folder, name, leads⟩ := ih followed
                exact ⟨folder, name, .down names ⟨entries, found⟩ leads⟩
              · cases followed
              · cases followed
              · cases followed
          · rw [Disk.follow, if_pos (Nat.lt_of_not_le short)] at followed
            · cases followed
            · exact stays.1
            · exact stays.2
            · exact above

/-! Writing and reading. -/

inductive Written (disk : Disk) (path : String) (bytes : ByteArray) : Disk → Prop where
  | dropped (followed : disk.follow (.start path) (Path.pieces path) = .ok .sink) :
      Written disk path bytes disk
  | stored {folder : Place} {name : List Char}
      (leads : Leads disk (.start path) (Path.pieces path) folder name)
      (free : ¬ disk.HasFolder (folder.child name)) :
      Written disk path bytes (disk.set (folder.child name) (.file bytes))

theorem checkPath_of_write {disk after : Disk} {path : String} {bytes : ByteArray}
    (wrote : disk.write path bytes = .ok after) : checkPath path = .ok () := by
  cases checked : checkPath path with
  | ok => rfl
  | error error =>
      simp [write, checked, bind, Except.bind] at wrote

theorem follow_last {name : List Char} (names : Names name) (disk : Disk) (folder : Place) :
    disk.follow folder [name] = .ok (
      match disk.entry? (folder.child name) with
      | some (.folder _) => .folder (folder.child name)
      | some (.file bytes) => .file (folder.child name) bytes
      | some .sink => .sink
      | none => .free (folder.child name)) := by
  rw [follow_name names]
  split <;> rfl

def Target.place? : Target → Option Place
  | .file place _ | .free place => some place
  | .sink | .folder _ => none

theorem leads_to_child {disk : Disk} {start place : Place} {pieces : List (List Char)}
    {target : Target} (followed : disk.follow start pieces = .ok target)
    (ends : target.place? = some place) :
    ∃ folder name, Leads disk start pieces folder name ∧ place = folder.child name ∧
      ¬ disk.HasFolder place := by
  have apart : ∀ folder, target ≠ .folder folder := by
    rintro folder rfl
    cases ends
  obtain ⟨folder, name, leads⟩ := leads_of_follow followed apart
  have arrives := leads.follow.symm.trans followed
  rw [follow_last leads.names, Except.ok.injEq] at arrives
  subst arrives
  refine ⟨folder, name, leads, ?_⟩
  -- The target is at the last name, and it is of a kind that is no folder.
  split at ends
  · cases ends
  · rename_i bytes found
    cases ends
    refine ⟨rfl, ?_⟩
    rintro ⟨entries, folder⟩
    cases found.symm.trans folder
  · cases ends
  · rename_i found
    cases ends
    refine ⟨rfl, ?_⟩
    rintro ⟨entries, folder⟩
    cases found.symm.trans folder

theorem written_of_write {disk after : Disk} {path : String} {bytes : ByteArray}
    (wrote : disk.write path bytes = .ok after) : Written disk path bytes after := by
  have checked := checkPath_of_write wrote
  cases slash : Path.endsInSlash path with
  | true =>
      cases folders : disk.follow (.start path) (Path.folders path) <;>
        simp [write, checked, slash, folders, bind, Except.bind, throw, throwThe,
          MonadExceptOf.throw] at wrote
  | false =>
      cases followed : disk.follow (.start path) (Path.pieces path) with
      | error error => simp [write, checked, slash, followed, bind, Except.bind] at wrote
      | ok target =>
          simp only [write, checked, slash, followed, bind, Except.bind, Bool.false_eq_true,
            ↓reduceIte] at wrote
          cases target with
          | folder place => cases wrote
          | sink =>
              cases wrote
              exact .dropped followed
          | file place old =>
              cases wrote
              obtain ⟨folder, name, leads, rfl, free⟩ := leads_to_child followed rfl
              exact .stored leads free
          | free place =>
              cases wrote
              obtain ⟨folder, name, leads, rfl, free⟩ := leads_to_child followed rfl
              exact .stored leads free

theorem hasFolder_start {disk : Disk} (sound : disk.Sound) (path : String) :
    disk.HasFolder (.start path) := by
  simp only [Place.start]
  split
  · exact sound.roots .top
  · exact sound.roots (.above 0)

theorem write_sound {disk after : Disk} {path : String} {bytes : ByteArray} (sound : disk.Sound)
    (wrote : disk.write path bytes = .ok after) : after.Sound := by
  cases written_of_write wrote with
  | dropped => exact sound
  | stored => exact sound.setChild _ _ (Entry.find?_file_ne_sink bytes)

/-- The disks that can come about. -/
inductive Built : Disk → Prop where
  | fresh : Built fresh
  | addFolder {disk : Disk} (built : Built disk) (path : String) : Built (disk.addFolder path)
  | addFile {disk : Disk} (built : Built disk) (path : String) (bytes : ByteArray) :
      Built (disk.addFile path bytes)
  | write {disk after : Disk} {path : String} {bytes : ByteArray} (built : Built disk)
      (wrote : disk.write path bytes = .ok after) : Built after

theorem Built.sound {disk : Disk} (built : disk.Built) : disk.Sound := by
  induction built with
  | fresh => exact fresh_sound
  | addFolder _ path ih => exact addFolder_sound ih path
  | addFile _ path bytes ih => exact addFile_sound ih path bytes
  | write _ wrote ih => exact write_sound ih wrote

theorem read_of_follow {disk : Disk} {path : String} {place : Place} {bytes : ByteArray}
    (checked : checkPath path = .ok ())
    (followed : disk.follow (.start path) (Path.pieces path) = .ok (.file place bytes)) :
    disk.read path = .ok bytes := by
  simp only [read, resolve, checked, bind, Except.bind, followed]

/-- What has been written is read, unless it went to a device that drops it. -/
theorem read_of_write {disk after : Disk} {path : String} {bytes : ByteArray}
    (sound : disk.Sound) (wrote : disk.write path bytes = .ok after)
    (kept : disk.follow (.start path) (Path.pieces path) ≠ .ok .sink) :
    after.read path = .ok bytes := by
  have checked := checkPath_of_write wrote
  cases written_of_write wrote with
  | dropped followed => exact absurd followed kept
  | @stored folder name leads free =>
      have here := leads.hasFolder sound (hasFolder_start sound path)
      have again := leads.mono fun other => hasFolder_set_file free bytes
      apply read_of_follow checked
      rw [again.follow, follow_last leads.names, entry?_set_child here name (.file bytes)]

theorem name_of_sink {disk : Disk} (sound : disk.Sound) {start : Place}
    {pieces : List (List Char)} (followed : disk.follow start pieces = .ok .sink) :
    pieces.getLast? = some "null".toList := by
  obtain ⟨folder, name, leads⟩ := leads_of_follow followed nofun
  have arrives := leads.follow.symm.trans followed
  rw [follow_last leads.names, Except.ok.injEq] at arrives
  have drops : disk.entry? (folder.child name) = some .sink := by
    split at arrives
    · cases arrives
    · cases arrives
    · assumption
    · cases arrives
  have device := congrArg (·.names.getLast?) (sound.sinks _ drops)
  have same : some name = some "null".toList := by
    simpa [Place.child, nullDevice] using device
  rw [leads.last, same]

/-- The null device has a name without an extension. -/
theorem extension?_of_sink {disk : Disk} {path : String} (sound : disk.Sound)
    (followed : disk.follow (.start path) (Path.pieces path) = .ok .sink) :
    Path.extension? path = none := by
  obtain ⟨folders, pieces⟩ := List.getLast?_eq_some_iff.mp (name_of_sink sound followed)
  have fileName : Path.fileName? path = some "null".toList := by
    simp [Path.fileName?, pieces, List.filter_append]
  simp [Path.extension?, fileName]

end Disk

end Playfield
