import Mathlib.Logic.Equiv.Basic
import Playfield.Proofs.Entries
import Playfield.Proofs.Numerals

/-!
What a settings text says. A malformed line comes before everything else. In a text without one,
only the last value of each key counts, and of these the first invalid one in the order of the keys
is reported. So a value that a later line overrides is not even looked at, and lines may change
places as long as those of one key stay in order.
-/

namespace Playfield.Settings

open Lines (MadeOf)

/-! Values. -/

def Word (value : String) (number : Nat) : Prop :=
  Decimal.Unsigned value.toList number ∧ number < 2 ^ 64

def Side (value : String) (side : Nat) : Prop := Word value side ∧ 1 ≤ side

def Flag (value : String) (flag : Bool) : Prop := value = if flag then "true" else "false"

def Seed (value : String) (seed : Option UInt64) : Prop :=
  ∃ word, seed = some word ∧ Word value word.toNat

/-- The order in which values are checked. -/
def Key.rank : Key → Nat
  | width => 0
  | height => 1
  | extendedMode => 2
  | stepTime => 3
  | seed => 4

instance (property : Key → Prop) [DecidablePred property] : Decidable (∀ key, property key) :=
  decidable_of_iff
    (property .width ∧ property .height ∧ property .extendedMode ∧ property .stepTime ∧
      property .seed)
    ⟨fun ⟨width, height, extended, time, seed⟩ key => by cases key <;> assumption,
      fun all => ⟨all _, all _, all _, all _, all _⟩⟩

def Key.Valid (value : String) : Key → Prop
  | width | height => ∃ side, Side value side
  | extendedMode => ∃ flag, Flag value flag
  | stepTime => ∃ time, Word value time
  | seed => ∃ seed, Seed value seed

section Taking
variable {α : Type} {key : Key} {read : Key → String → Except Failure α}
  {spells : String → α → Prop} {found : List (String × String)} {value : String}

/-- What the value spells, or the standard if there is no value. -/
def Takes (standard : α) (spells : String → α → Prop) : Option String → α → Prop
  | none, setting => setting = standard
  | some value, setting => spells value setting

/-- The reader takes what is spelled, and refuses everything else under the name of its key. -/
structure Reads (key : Key) (read : Key → String → Except Failure α)
    (spells : String → α → Prop) : Prop where
  accepts : ∀ value setting, read key value = .ok setting ↔ spells value setting
  refuses : ∀ value failure, read key value = .error failure →
    ∃ reason, failure = .invalidValue key value reason

theorem Reads.valueOr_of_valid (reads : Reads key read spells) (standard : α)
    (valid : ∀ value, lastValue? found key = some value → ∃ setting, spells value setting) :
    ∃ setting, valueOr found key standard read = .ok setting ∧
      Takes standard spells (lastValue? found key) setting := by
  rw [valueOr]
  cases last : lastValue? found key with
  | none => exact ⟨standard, rfl, rfl⟩
  | some value =>
      obtain ⟨setting, spelled⟩ := valid value last
      exact ⟨setting, (reads.accepts value setting).mpr spelled, spelled⟩

theorem Reads.valueOr_of_invalid (reads : Reads key read spells) (standard : α)
    (last : lastValue? found key = some value) (invalid : ¬ ∃ setting, spells value setting) :
    ∃ reason, valueOr found key standard read = .error (.invalidValue key value reason) := by
  rw [valueOr, last]
  dsimp only
  cases outcome : read key value with
  | ok setting => exact absurd ⟨setting, (reads.accepts value setting).mp outcome⟩ invalid
  | error failure =>
      obtain ⟨reason, rfl⟩ := reads.refuses value failure outcome
      exact ⟨reason, rfl⟩

theorem Reads.spelled_iff (reads : Reads key read spells) (value : String) :
    (∃ setting, spells value setting) ↔ (read key value).isOk = true := by
  simp only [← reads.accepts]
  cases read key value <;> simp [Except.isOk, Except.toBool]

end Taking

theorem reads_word (key : Key) : Reads key readWord Word where
  accepts value number := by
    rw [Word, ← Decimal.readWord_iff, readWord]
    cases Decimal.readWord value <;> simp [Except.mapError]
  refuses value failure refused := by
    rw [readWord] at refused
    cases outcome : Decimal.readWord value with
    | ok number => simp [outcome, Except.mapError] at refused
    | error error =>
        rw [outcome] at refused
        cases refused
        exact ⟨_, rfl⟩

theorem reads_side (key : Key) : Reads key readSide Side where
  accepts value side := by
    rw [Side, ← (reads_word key).accepts, readSide]
    rcases outcome : readWord key value with failure | _ | number
    · simp
    · simp
      omega
    · simp
      omega
  refuses value failure refused := by
    rw [readSide] at refused
    rcases outcome : readWord key value with error | _ | number
    · rw [outcome] at refused
      cases refused
      exact (reads_word key).refuses value failure outcome
    · rw [outcome] at refused
      cases refused
      exact ⟨_, rfl⟩
    · rw [outcome] at refused
      cases refused

theorem reads_flag (key : Key) : Reads key readFlag Flag where
  accepts value flag := by
    have different : "true" ≠ "false" :=
      fun same => absurd (congrArg String.length same) (by decide)
    rw [readFlag, Flag]
    split
    · rename_i isTrue
      cases flag <;> simp [isTrue, different]
    · rename_i notTrue
      split
      · rename_i isFalse
        cases flag <;> simp [isFalse, different.symm]
      · rename_i notFalse
        cases flag <;> simp [notTrue, notFalse]
  refuses value failure refused := by
    rw [readFlag] at refused
    split at refused
    · cases refused
    · split at refused
      · cases refused
      · cases refused
        exact ⟨_, rfl⟩

theorem reads_seed (key : Key) :
    Reads key (fun key value => (readWord key value).map fun seed => some (UInt64.ofNat seed))
      Seed where
  accepts value seed := by
    constructor
    · intro accepted
      cases outcome : readWord key value with
      | error failure => simp [outcome, Except.map] at accepted
      | ok number =>
          rw [outcome] at accepted
          cases accepted
          have word := ((reads_word key).accepts value number).mp outcome
          refine ⟨UInt64.ofNat number, rfl, ?_⟩
          rwa [UInt64.toNat_ofNat_of_lt' word.2]
    · rintro ⟨word, rfl, spelled⟩
      rw [((reads_word key).accepts value word.toNat).mpr spelled]
      simp [Except.map]
  refuses value failure refused := by
    cases outcome : readWord key value with
    | error error =>
        rw [outcome] at refused
        cases refused
        exact (reads_word key).refuses value _ outcome
    | ok number => simp [outcome, Except.map] at refused

instance (key : Key) (value : String) : Decidable (key.Valid value) :=
  match key with
  | .width => decidable_of_iff _ ((reads_side .width).spelled_iff value).symm
  | .height => decidable_of_iff _ ((reads_side .height).spelled_iff value).symm
  | .extendedMode => decidable_of_iff _ ((reads_flag .extendedMode).spelled_iff value).symm
  | .stepTime => decidable_of_iff _ ((reads_word .stepTime).spelled_iff value).symm
  | .seed => decidable_of_iff _ ((reads_seed .seed).spelled_iff value).symm

/-! The settings of some entries. -/

/-- The settings have what these values say, and the standard where there is no value. -/
structure Obeys (settings : Settings) (values : Key → Option String) : Prop where
  width : Takes 80 Side (values .width) settings.width
  height : Takes 25 Side (values .height) settings.height
  extended : Takes false Flag (values .extendedMode) settings.extended
  stepTime : Takes 100 Word (values .stepTime) settings.stepTime
  seed : Takes none Seed (values .seed) settings.seed

section Values
variable {found : List (String × String)}

theorem ofEntries_of_valid
    (valid : ∀ key value, lastValue? found key = some value → key.Valid value) :
    ∃ settings, ofEntries found = .ok settings ∧ settings.Obeys (lastValue? found) := by
  obtain ⟨width, readsWidth, takesWidth⟩ :=
    (reads_side .width).valueOr_of_valid standard.width (valid .width)
  obtain ⟨height, readsHeight, takesHeight⟩ :=
    (reads_side .height).valueOr_of_valid standard.height (valid .height)
  obtain ⟨extended, readsExtended, takesExtended⟩ :=
    (reads_flag .extendedMode).valueOr_of_valid standard.extended (valid .extendedMode)
  obtain ⟨time, readsTime, takesTime⟩ :=
    (reads_word .stepTime).valueOr_of_valid standard.stepTime (valid .stepTime)
  obtain ⟨seed, readsSeed, takesSeed⟩ :=
    (reads_seed .seed).valueOr_of_valid standard.seed (valid .seed)
  refine ⟨⟨width, height, extended, time, seed⟩, ?_,
    ⟨takesWidth, takesHeight, takesExtended, takesTime, takesSeed⟩⟩
  simp only [ofEntries, readsWidth, readsHeight, readsExtended, readsTime, readsSeed]
  rfl

theorem ofEntries_of_invalid {key : Key} {value : String} (last : lastValue? found key = some value)
    (invalid : ¬ key.Valid value)
    (earlier : ∀ other, other.rank < key.rank →
      ∀ value, lastValue? found other = some value → other.Valid value) :
    ∃ reason, ofEntries found = .error (.invalidValue key value reason) := by
  have width (before : Key.width.rank < key.rank) :=
    (reads_side .width).valueOr_of_valid standard.width (earlier .width before)
  have height (before : Key.height.rank < key.rank) :=
    (reads_side .height).valueOr_of_valid standard.height (earlier .height before)
  have extended (before : Key.extendedMode.rank < key.rank) :=
    (reads_flag .extendedMode).valueOr_of_valid standard.extended (earlier .extendedMode before)
  have time (before : Key.stepTime.rank < key.rank) :=
    (reads_word .stepTime).valueOr_of_valid standard.stepTime (earlier .stepTime before)
  cases key with
  | width =>
      obtain ⟨reason, refused⟩ :=
        (reads_side .width).valueOr_of_invalid standard.width last invalid
      refine ⟨reason, ?_⟩
      simp only [ofEntries, refused]
      rfl
  | height =>
      obtain ⟨_, readsWidth, _⟩ := width (by decide)
      obtain ⟨reason, refused⟩ :=
        (reads_side .height).valueOr_of_invalid standard.height last invalid
      refine ⟨reason, ?_⟩
      simp only [ofEntries, readsWidth, refused]
      rfl
  | extendedMode =>
      obtain ⟨_, readsWidth, _⟩ := width (by decide)
      obtain ⟨_, readsHeight, _⟩ := height (by decide)
      obtain ⟨reason, refused⟩ :=
        (reads_flag .extendedMode).valueOr_of_invalid standard.extended last invalid
      refine ⟨reason, ?_⟩
      simp only [ofEntries, readsWidth, readsHeight, refused]
      rfl
  | stepTime =>
      obtain ⟨_, readsWidth, _⟩ := width (by decide)
      obtain ⟨_, readsHeight, _⟩ := height (by decide)
      obtain ⟨_, readsExtended, _⟩ := extended (by decide)
      obtain ⟨reason, refused⟩ :=
        (reads_word .stepTime).valueOr_of_invalid standard.stepTime last invalid
      refine ⟨reason, ?_⟩
      simp only [ofEntries, readsWidth, readsHeight, readsExtended, refused]
      rfl
  | seed =>
      obtain ⟨_, readsWidth, _⟩ := width (by decide)
      obtain ⟨_, readsHeight, _⟩ := height (by decide)
      obtain ⟨_, readsExtended, _⟩ := extended (by decide)
      obtain ⟨_, readsTime, _⟩ := time (by decide)
      obtain ⟨reason, refused⟩ :=
        (reads_seed .seed).valueOr_of_invalid standard.seed last invalid
      refine ⟨reason, ?_⟩
      simp only [ofEntries, readsWidth, readsHeight, readsExtended, readsTime, refused]
      rfl

theorem Obeys.sides {settings : Settings} {values : Key → Option String}
    (obeys : settings.Obeys values) : 1 ≤ settings.width ∧ 1 ≤ settings.height := by
  have takes : ∀ (value? : Option String) (standard side : Nat), 1 ≤ standard →
      Takes standard Side value? side → 1 ≤ side := by
    intro value? standard side positive taken
    cases value? with
    | none => exact taken ▸ positive
    | some value => exact taken.2
  exact ⟨takes _ 80 _ (by decide) obeys.width, takes _ 25 _ (by decide) obeys.height⟩

end Values

/-! The settings of a text. -/

section Texts
variable {text : String} {lines : List (List Char)}

theorem parse_of_malformed {place : Nat} {line : List Char} (made : MadeOf text.toList lines)
    (there : lines[place]? = some line) (malformed : Malformed line)
    (first : ∀ earlier < place, ∀ other, lines[earlier]? = some other → ¬ Malformed other) :
    parse text = .error (.malformedLine (place + 1) (String.ofList line)) := by
  have stopped := entries_of_malformed there malformed first 1
  rw [parse, ← (Lines.madeOf_iff ..).mp made, stopped, Nat.add_comm]
  rfl

theorem parse_of_clean (made : MadeOf text.toList lines)
    (clean : ∀ line ∈ lines, ¬ Malformed line) :
    parse text = ofEntries (lines.filterMap pair?) := by
  rw [parse, ← (Lines.madeOf_iff ..).mp made, entries_of_clean clean]
  rfl

theorem exists_first_malformed (wrong : ¬ ∀ line ∈ lines, ¬ Malformed line) :
    ∃ (place : Nat) (line : List Char), lines[place]? = some line ∧ Malformed line ∧
      ∀ earlier < place, ∀ other, lines[earlier]? = some other → ¬ Malformed other := by
  induction lines with
  | nil => exact absurd nofun wrong
  | cons head rest ih =>
      by_cases malformed : Malformed head
      · exact ⟨0, head, rfl, malformed, nofun⟩
      · have later : ¬ ∀ line ∈ rest, ¬ Malformed line :=
          fun clean => wrong (List.forall_mem_cons.mpr ⟨malformed, clean⟩)
        obtain ⟨place, line, there, wrongThere, first⟩ := ih later
        refine ⟨place + 1, line, there, wrongThere, ?_⟩
        intro earlier before other listed
        cases earlier with
        | zero =>
            cases listed
            exact malformed
        | succ earlier => exact first earlier (Nat.lt_of_succ_lt_succ before) other listed

/-- Only malformed lines and last values count. -/
theorem parse_congr {other : String} {others : List (List Char)} (made : MadeOf text.toList lines)
    (alsoMade : MadeOf other.toList others)
    (malformed : ∀ (place : Nat) (line : List Char), Malformed line →
      (lines[place]? = some line ↔ others[place]? = some line))
    (last : ∀ key value?, Last lines key value? → Last others key value?) :
    parse other = parse text := by
  by_cases clean : ∀ line ∈ lines, ¬ Malformed line
  · have alsoClean : ∀ line ∈ others, ¬ Malformed line := by
      intro line listed wrong
      obtain ⟨place, there⟩ := List.mem_iff_getElem?.mp listed
      exact clean line (List.mem_of_getElem? ((malformed place line wrong).mpr there)) wrong
    have same : ∀ key, lastValue? (others.filterMap pair?) key =
        lastValue? (lines.filterMap pair?) key :=
      fun key => (last_iff ..).mp (last key _ (last_lastValue? lines key))
    rw [parse_of_clean made clean, parse_of_clean alsoMade alsoClean]
    simp only [ofEntries, valueOr, same]
  · obtain ⟨place, line, there, wrong, first⟩ := exists_first_malformed clean
    rw [parse_of_malformed made there wrong first]
    apply parse_of_malformed alsoMade ((malformed place line wrong).mp there) wrong
    intro earlier before other listed alsoWrong
    exact first earlier before other ((malformed earlier other alsoWrong).mpr listed) alsoWrong

/-- A line has no effect if a later one has its key, or if it has no key that means anything. -/
theorem parse_replaced {other : String} {place : Nat} {line replaced : List Char}
    (made : MadeOf text.toList lines) (there : lines[place]? = some line)
    (proper : ¬ Malformed line) (alsoProper : ¬ Malformed replaced)
    (same : ∀ key, Keyed line key ↔ Keyed replaced key)
    (overridden : ∀ key, Keyed line key →
      ∃ later next, place < later ∧ lines[later]? = some next ∧ Keyed next key)
    (alsoMade : MadeOf other.toList (lines.set place replaced)) : parse other = parse text := by
  have inside : place < lines.length := (List.getElem?_eq_some_iff.mp there).1
  have here : (lines.set place replaced)[place]? = some replaced := List.getElem?_set_self inside
  have elsewhere : ∀ spot, spot ≠ place → (lines.set place replaced)[spot]? = lines[spot]? :=
    fun spot away => List.getElem?_set_ne away.symm
  apply parse_congr made alsoMade
  · intro spot wrong malformed
    by_cases away : spot = place
    · subst away
      rw [there, here, Option.some.injEq, Option.some.injEq]
      constructor
      · rintro rfl
        exact absurd malformed proper
      · rintro rfl
        exact absurd malformed alsoProper
    · rw [elsewhere spot away]
  · intro key value? last
    cases last with
    | unset missing =>
        apply Last.unset
        intro other listed
        rcases List.mem_or_eq_of_mem_set listed with kept | rfl
        · exact missing other kept
        · exact mt (same key).mpr (missing line (List.mem_of_getElem? there))
    | @entry spot entry value listed enters latest =>
        have away : spot ≠ place := by
          rintro rfl
          rw [there, Option.some.injEq] at listed
          subst listed
          obtain ⟨later, next, behind, alsoListed, keyed⟩ := overridden key ⟨_, enters⟩
          exact latest later next behind alsoListed keyed
        refine .entry ((elsewhere spot away).trans listed) enters ?_
        intro later other behind alsoListed
        by_cases reached : later = place
        · subst reached
          rw [here, Option.some.injEq] at alsoListed
          subst alsoListed
          exact mt (same key).mpr (latest later line behind there)
        · rw [elsewhere later reached] at alsoListed
          exact latest later other behind alsoListed

/-- Lines may change places, but for malformed ones and for those with the same key. -/
theorem parse_permuted {other : String} {others : List (List Char)} {places : Equiv.Perm Nat}
    (made : MadeOf text.toList lines) (alsoMade : MadeOf other.toList others)
    (moved : ∀ place, others[place]? = lines[places place]?)
    (fixed : ∀ place line, lines[place]? = some line → Malformed line → places place = place)
    (ordered : ∀ key earlier later first second, earlier < later →
      others[earlier]? = some first → others[later]? = some second → Keyed first key →
      Keyed second key → places earlier < places later) : parse other = parse text := by
  apply parse_congr made alsoMade
  · intro place line malformed
    rw [moved]
    constructor
    · intro there
      rw [fixed place line there malformed, there]
    · intro there
      have still := places.injective (fixed (places place) line there malformed)
      rwa [still] at there
  · intro key value? last
    cases last with
    | unset missing =>
        apply Last.unset
        intro line listed
        obtain ⟨place, there⟩ := List.mem_iff_getElem?.mp listed
        rw [moved] at there
        exact missing line (List.mem_of_getElem? there)
    | @entry place line value there enters latest =>
        have reached : others[places.symm place]? = some line := by
          rw [moved, places.apply_symm_apply, there]
        refine .entry reached enters ?_
        intro later other behind listed keyed
        have further := ordered key _ later line other behind reached listed ⟨_, enters⟩ keyed
        rw [places.apply_symm_apply] at further
        rw [moved] at listed
        exact latest (places later) other further listed keyed

end Texts

/-- Settings are read from the lines of a text. The first malformed line is reported, with its
number among all lines, whatever the others hold. Otherwise each key has the value of the last line
with this key; the first of the keys whose value is invalid is reported, and if there is none then
the settings have these values and the standard where a key has no line. Replacing a line whose key
comes again later, or whose key is none of these, by another such line has no effect, nor does
moving lines about, as long as malformed lines stay where they are and the lines of one key stay in
order. -/
theorem parse_by_last_values (text : String) :
    ∃ (lines : List (List Char)) (values : Key → Option String),
      (∀ others, MadeOf text.toList others ↔ others = lines) ∧
      (∀ key value?, Last lines key value? ↔ value? = values key) ∧
      (∀ place line, lines[place]? = some line → Malformed line →
        (∀ earlier < place, ∀ other, lines[earlier]? = some other → ¬ Malformed other) →
        parse text = .error (.malformedLine (place + 1) (String.ofList line))) ∧
      ((∀ line ∈ lines, ¬ Malformed line) →
        (∀ key value, values key = some value → ¬ key.Valid value →
          (∀ earlier, earlier.rank < key.rank →
            ∀ other, values earlier = some other → earlier.Valid other) →
          ∃ reason, parse text = .error (.invalidValue key value reason)) ∧
        ((∀ key value, values key = some value → key.Valid value) →
          ∃ settings, parse text = .ok settings ∧ settings.Obeys values ∧
            1 ≤ settings.width ∧ 1 ≤ settings.height)) ∧
      (∀ place line replaced other, lines[place]? = some line → ¬ Malformed line →
        ¬ Malformed replaced → (∀ key, Keyed line key ↔ Keyed replaced key) →
        (∀ key, Keyed line key →
          ∃ later next, place < later ∧ lines[later]? = some next ∧ Keyed next key) →
        MadeOf other.toList (lines.set place replaced) → parse other = parse text) ∧
      ∀ (places : Equiv.Perm Nat) (others : List (List Char)) (other : String),
        (∀ place, others[place]? = lines[places place]?) →
        (∀ place line, lines[place]? = some line → Malformed line → places place = place) →
        (∀ key earlier later first second, earlier < later → others[earlier]? = some first →
          others[later]? = some second → Keyed first key → Keyed second key →
          places earlier < places later) →
        MadeOf other.toList others → parse other = parse text := by
  have made := Lines.madeOf_terminated text.toList
  refine ⟨Lines.terminated text.toList,
    lastValue? ((Lines.terminated text.toList).filterMap pair?), Lines.madeOf_iff text.toList, ?_,
    ?_, ?_, ?_, ?_⟩
  · intro key value?
    rw [last_iff, eq_comm]
  · intro place line there malformed first
    exact parse_of_malformed made there malformed first
  · intro clean
    rw [parse_of_clean made clean]
    constructor
    · intro key value last invalid earlier
      exact ofEntries_of_invalid last invalid earlier
    · intro valid
      obtain ⟨settings, read, obeys⟩ := ofEntries_of_valid valid
      exact ⟨settings, read, obeys, obeys.sides⟩
  · intro place line replaced other there proper alsoProper same overridden alsoMade
    exact parse_replaced made there proper alsoProper same overridden alsoMade
  · intro places others other moved fixed ordered alsoMade
    exact parse_permuted made alsoMade moved fixed ordered

/-- A bad width does not matter beside a malformed line or before a good width, whatever it is, and
the lines of two keys may be in either order. -/
theorem parse_by_last_values_overridden :
    parse "WIDTH,0\n,5" = .error (.malformedLine 2 ",5") ∧
      (∃ reason, parse "SEED,-1\nWIDTH,0\nWIDTH, 7" = .error (.invalidValue .seed "-1" reason)) ∧
      (∃ settings, parse "WIDTH,0\nFONT,x\nWIDTH,+7,0" = .ok settings ∧ settings.height = 25) ∧
      parse "WIDTH,x\nWIDTH,7" = parse "WIDTH,0\nWIDTH,7" ∧
      parse "SEED,1\nWIDTH,7" = parse "WIDTH,7\nSEED,1" := by
  refine ⟨?_, ?_, ?_, ?_, ?_⟩
  · obtain ⟨_, _, lined, _, malformed, _⟩ := parse_by_last_values "WIDTH,0\n,5"
    cases (lined ["WIDTH,0".toList, ",5".toList]).mp (by decide +kernel)
    exact malformed 1 _ rfl (by decide +kernel) (by decide +kernel)
  · obtain ⟨_, _, lined, lasts, _, clean, _⟩ := parse_by_last_values "SEED,-1\nWIDTH,0\nWIDTH, 7"
    cases (lined ["SEED,-1".toList, "WIDTH,0".toList, "WIDTH, 7".toList]).mp (by decide +kernel)
    cases funext fun key => (lasts key _).mp (last_lastValue? _ key)
    exact (clean (by decide +kernel)).1 .seed "-1" (by decide +kernel) (by decide +kernel)
      (by decide +kernel : ∀ earlier, _ → ∀ other ∈ lastValue? _ earlier, earlier.Valid other)
  · obtain ⟨_, _, lined, lasts, _, clean, _⟩ := parse_by_last_values "WIDTH,0\nFONT,x\nWIDTH,+7,0"
    cases (lined ["WIDTH,0".toList, "FONT,x".toList, "WIDTH,+7,0".toList]).mp (by decide +kernel)
    cases funext fun key => (lasts key _).mp (last_lastValue? _ key)
    obtain ⟨settings, read, obeys, _⟩ := (clean (by decide +kernel)).2
      (by decide +kernel : ∀ key, ∀ value ∈ lastValue? _ key, key.Valid value)
    exact ⟨settings, read, obeys.height⟩
  · obtain ⟨_, _, lined, _, _, _, replace, _⟩ := parse_by_last_values "WIDTH,0\nWIDTH,7"
    cases (lined ["WIDTH,0".toList, "WIDTH,7".toList]).mp (by decide +kernel)
    apply replace 0 _ "WIDTH,x".toList _ rfl (by decide +kernel) (by decide +kernel)
      (by decide +kernel) _ (by decide +kernel)
    intro key keyed
    refine ⟨1, _, Nat.one_pos, rfl, ?_⟩
    revert key
    decide +kernel
  · obtain ⟨_, _, lined, _, _, _, _, permute⟩ := parse_by_last_values "WIDTH,7\nSEED,1"
    cases (lined ["WIDTH,7".toList, "SEED,1".toList]).mp (by decide +kernel)
    apply permute (Equiv.swap 0 1) ["SEED,1".toList, "WIDTH,7".toList] _ _ _ _ (by decide +kernel)
    · intro place
      rcases place with _ | _ | place
      · rfl
      · rfl
      · rw [Equiv.swap_apply_of_ne_of_ne (by omega) (by omega)]
        rfl
    · intro place line there malformed
      have clean : ∀ line ∈ ["WIDTH,7".toList, "SEED,1".toList], ¬ Malformed line := by
        decide +kernel
      exact absurd malformed (clean line (List.mem_of_getElem? there))
    · intro key earlier later first second before there alsoThere
      have inside : later < 2 := (List.getElem?_eq_some_iff.mp alsoThere).1
      obtain ⟨rfl, rfl⟩ : earlier = 0 ∧ later = 1 := by omega
      cases there
      cases alsoThere
      revert key
      decide +kernel

end Playfield.Settings
