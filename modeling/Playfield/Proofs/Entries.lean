import Playfield.Proofs.Lines
import Playfield.Settings

/-!
The entries of a settings text, told line by line. A line is skipped, malformed or an entry, and
each of the three is said here without cutting and trimming: the columns are what stands between
commas, and trimmed text is what is left between white space. Reading stops at the first malformed
line; without one, the value of a key is the one of the last line that has this key.
-/

namespace Playfield

namespace Blank

structure Trims (text rest : List Char) : Prop where
  parts : ∃ before after, text = before ++ rest ++ after ∧
    (∀ character ∈ before, isBlank character = true) ∧
    ∀ character ∈ after, isBlank character = true
  starts : ∀ character, rest.head? = some character → isBlank character = false
  ends : ∀ character, rest.getLast? = some character → isBlank character = false

theorem dropWhile_blank {before rest : List Char}
    (blank : ∀ character ∈ before, isBlank character = true)
    (starts : ∀ character, rest.head? = some character → isBlank character = false) :
    (before ++ rest).dropWhile isBlank = rest := by
  rw [List.dropWhile_append_of_pos blank]
  cases rest with
  | nil => rfl
  | cons first later => rw [List.dropWhile_cons_of_neg (by simp [starts first rfl])]

theorem head?_dropWhile_blank (text : List Char) (character : Char)
    (head : (text.dropWhile isBlank).head? = some character) : isBlank character = false := by
  have first := List.head?_dropWhile_not isBlank text
  rwa [head] at first

theorem Trims.eq_trim {text rest : List Char} (trims : Trims text rest) : rest = trim text := by
  obtain ⟨before, after, rfl, blankBefore, blankAfter⟩ := trims.parts
  rw [trim]
  by_cases empty : rest = []
  · have blank : ∀ character ∈ before ++ after, isBlank character = true := by
      intro character listed
      exact (List.mem_append.mp listed).elim (blankBefore character) (blankAfter character)
    have nothing : (before ++ after ++ []).dropWhile isBlank = [] := dropWhile_blank blank nofun
    rw [List.append_nil] at nothing
    rw [empty, List.append_nil, nothing]
    rfl
  · have starts : ∀ character, (rest ++ after).head? = some character →
        isBlank character = false := by
      obtain ⟨first, later, rfl⟩ := List.exists_cons_of_ne_nil empty
      exact trims.starts
    have front : (before ++ rest ++ after).dropWhile isBlank = rest ++ after := by
      rw [List.append_assoc]
      exact dropWhile_blank blankBefore starts
    have back : (rest ++ after).reverse.dropWhile isBlank = rest.reverse := by
      rw [List.reverse_append]
      apply dropWhile_blank
      · intro character listed
        exact blankAfter character (List.mem_reverse.mp listed)
      · rw [List.head?_reverse]
        exact trims.ends
    rw [front, back, List.reverse_reverse]

theorem trims_trim (text : List Char) : Trims text (trim text) := by
  rw [trim]
  generalize tail : text.dropWhile isBlank = kept
  have front : text.takeWhile isBlank ++ kept = text := tail ▸ List.takeWhile_append_dropWhile
  have back : (kept.reverse.dropWhile isBlank).reverse ++ (kept.reverse.takeWhile isBlank).reverse =
      kept := by
    rw [← List.reverse_append, List.takeWhile_append_dropWhile, List.reverse_reverse]
  refine ⟨⟨text.takeWhile isBlank, (kept.reverse.takeWhile isBlank).reverse, ?_, ?_, ?_⟩, ?_, ?_⟩
  · rw [List.append_assoc, back, front]
  · intro character listed
    exact List.all_eq_true.mp List.all_takeWhile character listed
  · intro character listed
    exact List.all_eq_true.mp List.all_takeWhile character (List.mem_reverse.mp listed)
  · intro character head
    apply head?_dropWhile_blank text
    rw [tail, ← back, List.head?_append, head]
    rfl
  · intro character last
    rw [List.getLast?_reverse] at last
    exact head?_dropWhile_blank _ character last

theorem trims_iff (text rest : List Char) : Trims text rest ↔ rest = trim text := by
  constructor
  · exact Trims.eq_trim
  · rintro rfl
    exact trims_trim text

theorem trim_eq_nil_iff (text : List Char) :
    trim text = [] ↔ ∀ character ∈ text, isBlank character = true := by
  constructor
  · intro empty
    obtain ⟨before, after, parts, blankBefore, blankAfter⟩ := (trims_trim text).parts
    rw [empty, List.append_nil] at parts
    rw [parts]
    intro character listed
    exact (List.mem_append.mp listed).elim (blankBefore character) (blankAfter character)
  · intro blank
    have nothing : Trims text [] := ⟨⟨text, [], by simp, blank, nofun⟩, nofun, nofun⟩
    exact nothing.eq_trim.symm

end Blank

namespace Settings

open Blank (Trims)
open Lines (Cuts)

/-! Lines. -/

/-- A comment, or nothing but white space. -/
def Skipped (line : List Char) : Prop :=
  line.head? = some '#' ∨ ∀ character ∈ line, Blank.isBlank character = true

/-- A line that has to be an entry and is none: it has no comma, or nothing before the first one. -/
structure Malformed (line : List Char) : Prop where
  counts : ¬ Skipped line
  wrong : ',' ∉ line ∨ ∃ first others, Cuts ',' line (first :: others) ∧ Trims first []

/-- An entry: its first two columns are the key and the value. -/
structure Enters (line key value : List Char) : Prop where
  counts : ¬ Skipped line
  columns : ∃ first second others, Cuts ',' line (first :: second :: others) ∧
    Trims first key ∧ Trims second value
  named : key ≠ []

theorem skipped_iff (line : List Char) :
    Skipped line ↔ line.head? = some '#' ∨ Blank.trim line = [] := by
  rw [Skipped, Blank.trim_eq_nil_iff]

theorem ofChars_of_skipped {line : List Char} (skipped : Skipped line) :
    Line.ofChars line = .skipped :=
  if_pos ((skipped_iff line).mp skipped)

theorem ofChars_of_columns {line first second : List Char} {others : List (List Char)}
    (counts : ¬ Skipped line) (cut : Lines.split ',' line = first :: second :: others) :
    Line.ofChars line =
      if Blank.trim first = [] then .malformed
      else .entry (String.ofList (Blank.trim first)) (String.ofList (Blank.trim second)) := by
  rw [Line.ofChars, if_neg (mt (skipped_iff line).mpr counts), cut]

theorem ofChars_of_single {line : List Char} (counts : ¬ Skipped line) (whole : ',' ∉ line) :
    Line.ofChars line = .malformed := by
  have cut : Lines.split ',' line = [line] := ((Lines.cuts_iff ..).mp (.singleton whole)).symm
  rw [Line.ofChars, if_neg (mt (skipped_iff line).mpr counts), cut]

inductive Role (line : List Char) : Line → Prop where
  | skipped (skipped : Skipped line) : Role line .skipped
  | malformed (malformed : Malformed line) : Role line .malformed
  | entry {key value : String} (enters : Enters line key.toList value.toList) :
      Role line (.entry key value)

theorem role_ofChars (line : List Char) : Role line (Line.ofChars line) := by
  by_cases skipped : Skipped line
  · rw [ofChars_of_skipped skipped]
    exact .skipped skipped
  rcases cut : Lines.split ',' line with _ | ⟨first, _ | ⟨second, others⟩⟩
  · exact absurd cut (Lines.split_ne_nil ',' line)
  · have whole := ((Lines.cuts_iff ..).mpr cut.symm).whole
    rw [ofChars_of_single skipped whole]
    exact .malformed ⟨skipped, Or.inl whole⟩
  · have cuts := (Lines.cuts_iff ..).mpr cut.symm
    rw [ofChars_of_columns skipped cut]
    split
    · rename_i unnamed
      exact .malformed ⟨skipped, Or.inr ⟨first, _, cuts, (Blank.trims_iff ..).mpr unnamed.symm⟩⟩
    · rename_i named
      refine .entry ⟨skipped, ⟨first, second, others, cuts, ?_, ?_⟩, ?_⟩
      · simpa using Blank.trims_trim first
      · simpa using Blank.trims_trim second
      · simpa using named

theorem ofChars_of_malformed {line : List Char} (malformed : Malformed line) :
    Line.ofChars line = .malformed := by
  rcases malformed.wrong with whole | ⟨first, others, cuts, trims⟩
  · exact ofChars_of_single malformed.counts whole
  · cases others with
    | nil => exact ofChars_of_single malformed.counts cuts.whole
    | cons second others =>
        have cut := (Lines.cuts_iff ..).mp cuts
        have unnamed := (Blank.trims_iff ..).mp trims
        rw [ofChars_of_columns malformed.counts cut.symm, if_pos unnamed.symm]

theorem malformed_iff (line : List Char) : Malformed line ↔ Line.ofChars line = .malformed := by
  constructor
  · exact ofChars_of_malformed
  · intro kind
    have role := role_ofChars line
    rw [kind] at role
    cases role with
    | malformed malformed => exact malformed

instance (line : List Char) : Decidable (Malformed line) :=
  decidable_of_iff _ (malformed_iff line).symm

theorem ofChars_of_enters {line key value : List Char} (enters : Enters line key value) :
    Line.ofChars line = .entry (String.ofList key) (String.ofList value) := by
  obtain ⟨first, second, others, cuts, trimsKey, trimsValue⟩ := enters.columns
  have cut := (Lines.cuts_iff ..).mp cuts
  have named : Blank.trim first ≠ [] := (Blank.trims_iff ..).mp trimsKey ▸ enters.named
  rw [ofChars_of_columns enters.counts cut.symm, if_neg named, ← (Blank.trims_iff ..).mp trimsKey,
    ← (Blank.trims_iff ..).mp trimsValue]

/-! Reading the lines. -/

def pair? (line : List Char) : Option (String × String) :=
  match Line.ofChars line with
  | .entry key value => some (key, value)
  | .skipped | .malformed => none

theorem pair?_eq_some_iff (line : List Char) (key value : String) :
    pair? line = some (key, value) ↔ Enters line key.toList value.toList := by
  constructor
  · intro made
    have role := role_ofChars line
    rw [pair?] at made
    generalize Line.ofChars line = kind at role made
    cases role with
    | skipped => cases made
    | malformed => cases made
    | entry enters =>
        cases made
        exact enters
  · intro enters
    rw [pair?, ofChars_of_enters enters]
    simp

/-- Without a malformed line all entries are found. -/
theorem entries_of_clean {lines : List (List Char)} (clean : ∀ line ∈ lines, ¬ Malformed line)
    (number : Nat) : entries number lines = .ok (lines.filterMap pair?) := by
  induction lines generalizing number with
  | nil => rfl
  | cons line rest ih =>
      have first := clean line List.mem_cons_self
      have found := ih (List.forall_mem_cons.mp clean).2 (number + 1)
      have role := role_ofChars line
      rw [entries, List.filterMap_cons, pair?]
      generalize Line.ofChars line = kind at role
      cases role with
      | skipped => exact found
      | malformed malformed => exact absurd malformed first
      | entry enters =>
          simp only [found]
          rfl

/-- The first malformed line is reported with its number, whatever comes before and after it. -/
theorem entries_of_malformed {lines : List (List Char)} {place : Nat} {line : List Char}
    (there : lines[place]? = some line) (malformed : Malformed line)
    (first : ∀ earlier < place, ∀ other, lines[earlier]? = some other → ¬ Malformed other)
    (number : Nat) :
    entries number lines = .error (.malformedLine (number + place) (String.ofList line)) := by
  induction lines generalizing place number with
  | nil => simp at there
  | cons head rest ih =>
      rw [entries]
      cases place with
      | zero =>
          rw [List.getElem?_cons_zero, Option.some.injEq] at there
          rw [there, ofChars_of_malformed malformed]
          rfl
      | succ place =>
          have later := ih there
            (fun earlier before other listed => first (earlier + 1) (by omega) other listed)
            (number + 1)
          rw [Nat.add_right_comm] at later
          have clean : ¬ Malformed head := first 0 place.succ_pos head rfl
          have role := role_ofChars head
          generalize Line.ofChars head = kind at role
          cases role with
          | skipped => exact later
          | malformed malformed => exact absurd malformed clean
          | entry enters =>
              simp only [later]
              rfl

/-! The last value of a key. -/

def Keyed (line : List Char) (key : Key) : Prop := ∃ value, Enters line key.name.toList value

/-- The value of a key: the one of the last line that has the key, if there is such a line. -/
inductive Last (lines : List (List Char)) (key : Key) : Option String → Prop where
  | entry {place : Nat} {line : List Char} {value : String} (there : lines[place]? = some line)
      (enters : Enters line key.name.toList value.toList)
      (latest : ∀ later other, place < later → lines[later]? = some other → ¬ Keyed other key) :
      Last lines key (some value)
  | unset (missing : ∀ line ∈ lines, ¬ Keyed line key) : Last lines key none

theorem Enters.unique {line key : List Char} {first second : String}
    (one : Enters line key first.toList) (other : Enters line key second.toList) :
    first = second := by
  have entry := (ofChars_of_enters one).symm.trans (ofChars_of_enters other)
  simpa using entry

theorem Last.unique {lines : List (List Char)} {key : Key} {first second : Option String}
    (one : Last lines key first) (other : Last lines key second) : first = second := by
  cases one with
  | unset missing =>
      cases other with
      | unset => rfl
      | entry there enters =>
          exact absurd ⟨_, enters⟩ (missing _ (List.mem_of_getElem? there))
  | @entry place line value there enters latest =>
      cases other with
      | unset missing => exact absurd ⟨_, enters⟩ (missing _ (List.mem_of_getElem? there))
      | @entry second otherLine otherValue alsoThere alsoEnters alsoLatest =>
          rcases Nat.lt_trichotomy place second with before | rfl | behind
          · exact absurd ⟨_, alsoEnters⟩ (latest second otherLine before alsoThere)
          · rw [there, Option.some.injEq] at alsoThere
            subst alsoThere
            rw [enters.unique alsoEnters]
          · exact absurd ⟨_, enters⟩ (alsoLatest place line behind there)

section Prepending
variable {lines : List (List Char)} {line : List Char} {key : Key} {value : String}

theorem Last.cons (last : Last lines key (some value)) : Last (line :: lines) key (some value) := by
  cases last with
  | @entry place _ _ there enters latest =>
      have there' : (line :: lines)[place + 1]? = _ := there
      refine .entry there' enters ?_
      intro later other behind listed
      cases later with
      | zero => exact absurd behind (Nat.not_lt_zero _)
      | succ later => exact latest later other (Nat.lt_of_succ_lt_succ behind) listed

theorem Last.cons_entry (last : Last lines key none)
    (enters : Enters line key.name.toList value.toList) :
    Last (line :: lines) key (some value) := by
  cases last with
  | unset missing =>
      have there : (line :: lines)[0]? = some line := rfl
      refine .entry there enters ?_
      intro later other behind listed
      cases later with
      | zero => exact absurd behind (Nat.lt_irrefl 0)
      | succ later => exact missing other (List.mem_of_getElem? listed)

theorem Last.cons_other (last : Last lines key none) (other : ¬ Keyed line key) :
    Last (line :: lines) key none := by
  cases last with
  | unset missing => exact .unset (List.forall_mem_cons.mpr ⟨other, missing⟩)

end Prepending

theorem keyed_iff (line : List Char) (key : Key) :
    Keyed line key ↔ ∃ value, pair? line = some (key.name, value) := by
  constructor
  · rintro ⟨value, enters⟩
    exact ⟨String.ofList value, (pair?_eq_some_iff ..).mpr (String.toList_ofList.symm ▸ enters)⟩
  · rintro ⟨value, made⟩
    exact ⟨_, (pair?_eq_some_iff ..).mp made⟩

instance (line : List Char) (key : Key) : Decidable (Keyed line key) :=
  decidable_of_iff ((pair? line).map Prod.fst = some key.name) (by simp [keyed_iff])

theorem lastValue?_cons (name value : String) (later : List (String × String)) (key : Key) :
    lastValue? ((name, value) :: later) key =
      (lastValue? later key).or (if key.name = name then some value else none) := by
  rw [lastValue?, lastValue?, List.reverse_cons, List.lookup_append, List.lookup_cons]
  by_cases same : key.name = name
  · simp [same]
  · simp [same, beq_false_of_ne same]

theorem last_lastValue? (lines : List (List Char)) (key : Key) :
    Last lines key (lastValue? (lines.filterMap pair?) key) := by
  induction lines with
  | nil => exact .unset nofun
  | cons line rest ih =>
      rw [List.filterMap_cons]
      cases made : pair? line with
      | none =>
          have other : ¬ Keyed line key := by simp [keyed_iff, made]
          dsimp only
          cases found : lastValue? (rest.filterMap pair?) key with
          | none => exact (found ▸ ih).cons_other other
          | some value => exact (found ▸ ih).cons
      | some entry =>
          obtain ⟨name, value⟩ := entry
          dsimp only
          rw [lastValue?_cons]
          cases found : lastValue? (rest.filterMap pair?) key with
          | some later => exact (found ▸ ih).cons
          | none =>
              rw [Option.none_or]
              split
              · rename_i same
                subst same
                exact (found ▸ ih).cons_entry ((pair?_eq_some_iff ..).mp made)
              · rename_i different
                have other : ¬ Keyed line key := by
                  simp [keyed_iff, made, Ne.symm different]
                exact (found ▸ ih).cons_other other

theorem last_iff (lines : List (List Char)) (key : Key) (value? : Option String) :
    Last lines key value? ↔ lastValue? (lines.filterMap pair?) key = value? := by
  constructor
  · exact (last_lastValue? lines key).unique
  · rintro rfl
    exact last_lastValue? lines key

end Settings

end Playfield
