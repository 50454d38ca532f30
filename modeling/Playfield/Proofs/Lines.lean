import Playfield.Text.Lines

/-!
Cutting at a separator and joining again. `split` is the library's `splitOn`, whose laws are used
here; what is added is about endings: the last item of a joined text, and the one item that
`stripFinal` forgives.
-/

namespace Playfield.Lines

variable {α : Type} [DecidableEq α]

theorem split_eq_splitOn (separator : α) (items : List α) :
    split separator items = items.splitOn separator := by
  induction items with
  | nil => rfl
  | cons item rest ih =>
      rw [split_cons, List.splitOn_cons_eq_if_modifyHead, ih]
      by_cases same : item = separator
      · simp [same]
      · rcases pieces : rest.splitOn separator with _ | ⟨piece, later⟩
        · exact absurd pieces (List.splitOn_ne_nil separator rest)
        · simp [same, extend]

theorem split_join (separator : α) (pieces : List (List α)) (present : pieces ≠ [])
    (clean : ∀ piece ∈ pieces, separator ∉ piece) :
    split separator (join separator pieces) = pieces := by
  rw [split_eq_splitOn, join]
  exact List.splitOn_intercalate separator clean present

theorem join_split (separator : α) (items : List α) :
    join separator (split separator items) = items := by
  rw [split_eq_splitOn, join]
  exact List.intercalate_splitOn separator

theorem split_append {separator : α} {piece : List α} (clean : separator ∉ piece)
    {items first : List α} {later : List (List α)}
    (pieces : split separator items = first :: later) :
    split separator (piece ++ items) = (piece ++ first) :: later := by
  induction piece with
  | nil => exact pieces
  | cons item rest ih =>
      have other : item ≠ separator := fun same => clean (same ▸ List.mem_cons_self)
      have stillClean : separator ∉ rest := fun member => clean (List.mem_cons_of_mem item member)
      rw [List.cons_append, split_cons, if_neg other, ih stillClean]
      rfl

theorem not_mem_of_mem_split {separator : α} {items piece : List α}
    (member : piece ∈ split separator items) : separator ∉ piece := by
  induction items generalizing piece with
  | nil =>
      cases List.mem_singleton.mp member
      exact List.not_mem_nil
  | cons item rest ih =>
      rw [split_cons] at member
      split at member
      · rcases List.mem_cons.mp member with rfl | later
        · exact List.not_mem_nil
        · exact ih later
      · rename_i other
        rcases pieces : split separator rest with _ | ⟨first, later⟩
        · exact absurd pieces (split_ne_nil separator rest)
        · rw [pieces, extend] at member
          rcases List.mem_cons.mp member with rfl | behind
          · have clean : separator ∉ first := ih (pieces ▸ List.mem_cons_self)
            simp [Ne.symm other, clean]
          · exact ih (pieces ▸ List.mem_cons_of_mem first behind)

/-- An encoding in which the separator stands for the separator and is nowhere else can be cut
before or after it. -/
theorem split_flatMap {β : Type} [DecidableEq β] {separator : α} {encoded : β} (encode : α → List β)
    (kept : encode separator = [encoded])
    (clean : ∀ item, encoded ∈ encode item → item = separator) (items : List α) :
    split encoded (items.flatMap encode) =
      (split separator items).map fun piece => piece.flatMap encode := by
  induction items with
  | nil => rfl
  | cons item rest ih =>
      rw [List.flatMap_cons, split_cons]
      by_cases same : item = separator
      · rw [if_pos same, same, kept, List.singleton_append, split_cons, if_pos rfl, ih]
        rfl
      · rcases pieces : split separator rest with _ | ⟨first, later⟩
        · exact absurd pieces (split_ne_nil separator rest)
        · rw [pieces, List.map_cons] at ih
          rw [if_neg same, split_append (mt (clean item) same) ih]
          rfl

omit [DecidableEq α] in
theorem getLast?_join (separator : α) {pieces : List (List α)} {last : List α}
    (ending : pieces.getLast? = some last) (filled : last ≠ []) :
    (join separator pieces).getLast? = last.getLast? := by
  induction pieces with
  | nil => cases ending
  | cons piece rest ih =>
      cases rest with
      | nil =>
          rw [List.getLast?_singleton, Option.some.injEq] at ending
          rw [join, List.intercalate_singleton, ending]
      | cons next later =>
          rw [List.getLast?_cons_cons] at ending
          have tail := ih ending
          rw [join] at tail ⊢
          rw [List.intercalate_cons_cons, List.getLast?_append, tail]
          rcases found : last.getLast? with _ | item
          · exact absurd (List.getLast?_eq_none_iff.mp found) filled
          · rfl

omit [DecidableEq α] in
theorem join_concat_nil (separator : α) {pieces : List (List α)} (present : pieces ≠ []) :
    join separator (pieces ++ [[]]) = join separator pieces ++ [separator] := by
  induction pieces with
  | nil => exact absurd rfl present
  | cons piece rest ih =>
      cases rest with
      | nil => simp [join, List.intercalate_cons_cons]
      | cons next later =>
          have tail := ih (List.cons_ne_nil next later)
          rw [join] at tail ⊢
          rw [List.cons_append, List.cons_append, List.intercalate_cons_cons, ← List.cons_append,
            tail]
          simp [join, List.intercalate_cons_cons]

theorem stripFinal_of_ne {item : α} {items : List α} (other : items.getLast? ≠ some item) :
    stripFinal item items = items :=
  if_neg other

theorem length_stripFinal_lt {item : α} {items : List α} (last : items.getLast? = some item) :
    (stripFinal item items).length < items.length := by
  have filled : items ≠ [] := by
    rintro rfl
    cases last
  rw [stripFinal, if_pos last, List.length_dropLast]
  exact Nat.sub_lt (List.length_pos_iff.mpr filled) Nat.one_pos

theorem mem_of_mem_stripFinal {item other : α} {items : List α}
    (member : other ∈ stripFinal item items) : other ∈ items := by
  rw [stripFinal] at member
  split at member
  · exact List.dropLast_subset items member
  · exact member

theorem split_concat (separator : α) (items : List α) :
    split separator (items ++ [separator]) = split separator items ++ [[]] := by
  have present := split_ne_nil separator items
  have written : join separator (split separator items ++ [[]]) = items ++ [separator] := by
    rw [join_concat_nil separator present, join_split]
  have clean : ∀ piece ∈ split separator items ++ [[]], separator ∉ piece := by
    intro piece listed
    rcases List.mem_append.mp listed with inside | last
    · exact not_mem_of_mem_split inside
    · cases List.mem_singleton.mp last
      exact List.not_mem_nil
  rw [← written]
  exact split_join separator _ (List.append_ne_nil_of_left_ne_nil present _) clean

/-- Forgiving a last separator and dropping an empty last piece are the same. -/
theorem split_stripFinal {separator : α} {items : List α} (filled : items ≠ []) :
    split separator (stripFinal separator items) =
      if (split separator items).getLast? = some [] then (split separator items).dropLast
      else split separator items := by
  by_cases last : items.getLast? = some separator
  · obtain ⟨start, rfl⟩ := List.getLast?_eq_some_iff.mp last
    rw [split_concat, List.getLast?_concat, if_pos rfl, List.dropLast_concat, stripFinal,
      if_pos last, List.dropLast_concat]
  · have whole : (split separator items).getLast? ≠ some [] := by
      intro blank
      obtain ⟨pieces, cut⟩ := List.getLast?_eq_some_iff.mp blank
      have joined := join_split separator items
      rw [cut] at joined
      by_cases present : pieces = []
      · rw [present] at joined
        exact filled joined.symm
      · rw [join_concat_nil separator present] at joined
        rw [← joined, List.getLast?_concat] at last
        exact last rfl
    rw [if_neg whole, stripFinal_of_ne last]

/-! The two operations told by their results. -/

/-- The pieces that a separator cuts some items into. -/
def Cuts (separator : α) (items : List α) (pieces : List (List α)) : Prop :=
  pieces ≠ [] ∧ (∀ piece ∈ pieces, separator ∉ piece) ∧ join separator pieces = items

/-- The items without one of the given kind at their end. -/
def Strips (item : α) (items rest : List α) : Prop :=
  items = rest ++ [item] ∨ items = rest ∧ items.getLast? ≠ some item

theorem cuts_iff (separator : α) (items : List α) (pieces : List (List α)) :
    Cuts separator items pieces ↔ pieces = split separator items := by
  constructor
  · rintro ⟨present, clean, rfl⟩
    exact (split_join separator pieces present clean).symm
  · rintro rfl
    exact ⟨split_ne_nil separator items, fun _ => not_mem_of_mem_split, join_split separator items⟩

theorem strips_iff (item : α) (items rest : List α) :
    Strips item items rest ↔ rest = stripFinal item items := by
  constructor
  · rintro (rfl | ⟨rfl, other⟩)
    · simp [stripFinal]
    · exact (stripFinal_of_ne other).symm
  · rintro rfl
    by_cases last : items.getLast? = some item
    · rw [stripFinal, if_pos last]
      obtain ⟨start, rfl⟩ := List.getLast?_eq_some_iff.mp last
      rw [List.dropLast_concat]
      exact Or.inl rfl
    · rw [stripFinal_of_ne last]
      exact Or.inr ⟨rfl, last⟩

omit [DecidableEq α] in
theorem Cuts.singleton {separator : α} {items : List α} (clean : separator ∉ items) :
    Cuts separator items [items] :=
  ⟨List.cons_ne_nil _ _, by simpa using clean, List.intercalate_singleton⟩

omit [DecidableEq α] in
theorem Cuts.whole {separator : α} {items piece : List α} (cuts : Cuts separator items [piece]) :
    separator ∉ items := by
  obtain ⟨_, clean, joined⟩ := cuts
  rw [join, List.intercalate_singleton] at joined
  exact joined ▸ clean piece List.mem_cons_self

omit [DecidableEq α] in
theorem Cuts.cons {separator : α} {items piece : List α} {pieces : List (List α)}
    (cuts : Cuts separator items pieces) (clean : separator ∉ piece) :
    Cuts separator (piece ++ separator :: items) (piece :: pieces) := by
  obtain ⟨present, others, joined⟩ := cuts
  obtain ⟨first, later, rfl⟩ := List.exists_cons_of_ne_nil present
  refine ⟨List.cons_ne_nil _ _, List.forall_mem_cons.mpr ⟨clean, others⟩, ?_⟩
  rw [← joined, join, List.intercalate_cons_cons]
  simp [join]

omit [DecidableEq α] in
theorem Strips.append {item : α} {items rest : List α} (strips : Strips item items rest)
    (filled : items ≠ []) (before : List α) : Strips item (before ++ items) (before ++ rest) := by
  rcases strips with rfl | ⟨rfl, other⟩
  · exact Or.inl (List.append_assoc ..).symm
  · refine Or.inr ⟨rfl, ?_⟩
    rw [List.getLast?_append, List.getLast?_eq_some_getLast filled, Option.some_or,
      ← List.getLast?_eq_some_getLast filled]
    exact other

/-- A text with its lines. Each line has an ending, a line feed with or without a carriage return
before it; behind the last ending there may be one more line, which is not empty. -/
inductive MadeOf : List Char → List (List Char) → Prop where
  | nothing : MadeOf [] []
  | last {line : List Char} (filled : line ≠ []) (whole : '\n' ∉ line) : MadeOf line [line]
  | ended {piece line rest : List Char} {lines : List (List Char)} (whole : '\n' ∉ piece)
      (strips : Strips '\r' piece line) (later : MadeOf rest lines) :
      MadeOf (piece ++ '\n' :: rest) (line :: lines)

theorem terminated_of_whole {line : List Char} (whole : '\n' ∉ line) :
    terminated line = if line = [] then [] else [line] := by
  have alone : split '\n' line = [line] := ((cuts_iff _ _ _).mp (Cuts.singleton whole)).symm
  cases line with
  | nil => rfl
  | cons first rest => simp [terminated, alone]

theorem terminated_of_ended {piece : List Char} (whole : '\n' ∉ piece) (rest : List Char) :
    terminated (piece ++ '\n' :: rest) = stripFinal '\r' piece :: terminated rest := by
  have pieces : split '\n' (piece ++ '\n' :: rest) = piece :: split '\n' rest := by
    have cut := split_append whole (split_cons '\n' '\n' rest)
    simpa using cut
  obtain ⟨first, later, present⟩ := List.exists_cons_of_ne_nil (split_ne_nil '\n' rest)
  rw [terminated, terminated, pieces, present, List.getLast?_cons_cons, List.dropLast_cons_cons,
    List.map_cons]
  split <;> rfl

theorem madeOf_terminated (text : List Char) : MadeOf text (terminated text) := by
  -- The text behind the first line feed is shorter.
  induction measured : text.length using Nat.strongRecOn generalizing text with
  | ind size ih =>
      by_cases feed : '\n' ∈ text
      · obtain ⟨piece, rest, rfl, whole⟩ := List.eq_append_cons_of_mem feed
        have shorter : rest.length < size := by
          rw [← measured, List.length_append, List.length_cons]
          omega
        rw [terminated_of_ended whole]
        exact .ended whole ((strips_iff ..).mpr rfl) (ih rest.length shorter rest rfl)
      · rw [terminated_of_whole feed]
        split
        · rename_i empty
          rw [empty]
          exact .nothing
        · rename_i filled
          exact .last filled feed

theorem madeOf_iff (text : List Char) (lines : List (List Char)) :
    MadeOf text lines ↔ lines = terminated text := by
  constructor
  · intro made
    induction made with
    | nothing => rfl
    | last filled whole => rw [terminated_of_whole whole, if_neg filled]
    | ended whole strips _ ih =>
        rw [terminated_of_ended whole, ← ih, (strips_iff ..).mp strips]
  · rintro rfl
    exact madeOf_terminated text

instance (text : List Char) (lines : List (List Char)) : Decidable (MadeOf text lines) :=
  decidable_of_iff _ (madeOf_iff text lines).symm

end Playfield.Lines
