import Playfield.Screen.Picture

/-!
Pictures tile by tile. Fitting a picture into a size keeps the tiles that are inside and fills up
with blanks, and a border moves a picture by one column and one row. What a border adds, its title
included, has no background.
-/

namespace Playfield.Screen

/-- The tile in a column and a row. -/
def Picture.tile? (picture : Picture) (column row : Nat) : Option Tile :=
  picture[row]?.bind fun tiles => tiles[column]?

/-- The picture has this many columns and rows. -/
structure Picture.Sized (picture : Picture) (width height : Nat) : Prop where
  rows : picture.length = height
  columns : ∀ row ∈ picture, row.length = width

theorem Picture.Sized.tile?_of_outside {picture : Picture} {width height column row : Nat}
    (sized : picture.Sized width height) (outside : ¬ (column < width ∧ row < height)) :
    picture.tile? column row = none := by
  apply Option.bind_eq_none_iff.mpr
  intro tiles listed
  have down : row < height := sized.rows ▸ (List.getElem?_eq_some_iff.mp listed).1
  have across : tiles.length = width := sized.columns tiles (List.mem_of_getElem? listed)
  exact List.getElem?_eq_none (by omega)

/-! Fitting. -/

theorem Row.length_fit (width : Nat) (fill : Style) (row : Row) :
    (Row.fit width fill row).length = width := by
  rw [Row.fit, List.length_append, List.length_take, List.length_replicate]
  omega

theorem Row.getElem?_fit {width column : Nat} (inside : column < width) (fill : Style) (row : Row) :
    (Row.fit width fill row)[column]? = some (row[column]?.getD (.blank fill)) := by
  by_cases drawn : column < row.length
  · have kept : column < (row.take width).length := by
      rw [List.length_take]
      omega
    rw [Row.fit, List.getElem?_append_left kept, List.getElem?_take_of_lt inside,
      List.getElem?_eq_getElem drawn]
    rfl
  · have past : row.length ≤ column := Nat.not_lt.mp drawn
    have whole : row.take width = row := List.take_of_length_le (by omega)
    rw [Row.fit, whole, List.getElem?_append_right past, List.getElem?_replicate_of_lt (by omega),
      List.getElem?_eq_none past]
    rfl

theorem Picture.sized_fit (width height : Nat) (fill : Style) (picture : Picture) :
    (Picture.fit width height fill picture).Sized width height where
  rows := by
    rw [Picture.fit, List.length_append, List.length_map, List.length_take, List.length_replicate]
    omega
  columns := by
    intro row listed
    rw [Picture.fit, List.mem_append, List.mem_map] at listed
    obtain ⟨own, _, rfl⟩ | added := listed
    · exact Row.length_fit width fill own
    · rw [List.eq_of_mem_replicate added, List.length_replicate]

theorem Picture.tile?_fit {width height column row : Nat} (across : column < width)
    (down : row < height) (fill : Style) (picture : Picture) :
    (Picture.fit width height fill picture).tile? column row =
      some ((picture.tile? column row).getD (.blank fill)) := by
  by_cases drawn : row < picture.length
  · have kept : row < ((picture.take height).map (Row.fit width fill)).length := by
      rw [List.length_map, List.length_take]
      omega
    rw [Picture.tile?, Picture.tile?, Picture.fit, List.getElem?_append_left kept,
      List.getElem?_map, List.getElem?_take_of_lt down, List.getElem?_eq_getElem drawn]
    exact Row.getElem?_fit across fill _
  · have past : picture.length ≤ row := Nat.not_lt.mp drawn
    have whole : picture.take height = picture := List.take_of_length_le (by omega)
    rw [Picture.tile?, Picture.tile?, Picture.fit, whole,
      List.getElem?_append_right (by rwa [List.length_map]), List.length_map,
      List.getElem?_replicate_of_lt (by omega), List.getElem?_eq_none past]
    exact List.getElem?_replicate_of_lt across

/-! Borders. -/

/-- No tile has a background. -/
def Row.Bare (row : Row) : Prop := ∀ tile ∈ row, tile.style.background = none

theorem Row.Bare.append {first second : Row} (left : first.Bare) (right : second.Bare) :
    Row.Bare (first ++ second) := by
  intro tile listed
  exact (List.mem_append.mp listed).elim (left tile) (right tile)

theorem Row.Bare.take {row : Row} (bare : row.Bare) (count : Nat) : Row.Bare (row.take count) :=
  fun tile listed => bare tile (List.mem_of_mem_take listed)

theorem Row.Bare.drop {row : Row} (bare : row.Bare) (count : Nat) : Row.Bare (row.drop count) :=
  fun tile listed => bare tile (List.mem_of_mem_drop listed)

theorem Row.bare_replicate {tile : Tile} (plain : tile.style.background = none) (count : Nat) :
    Row.Bare (List.replicate count tile) := by
  intro other listed
  rw [List.eq_of_mem_replicate listed, plain]

theorem Row.bare_cons {tile : Tile} {row : Row} :
    Row.Bare (tile :: row) ↔ tile.style.background = none ∧ row.Bare :=
  List.forall_mem_cons

theorem Row.Bare.write {row : Row} (bare : row.Bare) (clusters : List (List Char)) :
    Row.Bare (Row.write clusters row) := by
  fun_induction Row.write clusters row with
  | case1 row => exact bare
  | case2 row cluster rest none ih => exact ih bare
  | case3 => exact bare
  | case4 cluster rest further tile row columns fits ih =>
      obtain ⟨plain, later⟩ := Row.bare_cons.mp bare
      have covered : Row.Bare (List.replicate further .covered) := Row.bare_replicate rfl further
      exact Row.bare_cons.mpr ⟨plain, covered.append (ih (later.drop further))⟩
  | case5 => exact bare

theorem Row.Bare.writeAll {row : Row} (bare : row.Bare) (texts : List (List Char)) :
    Row.Bare (Row.writeAll texts row) := by
  fun_induction Row.writeAll texts row with
  | case1 row => exact bare
  | case2 row text rest written columns ih =>
      have begun : Row.Bare written := bare.write _
      exact .append (begun.take columns) (ih (begun.drop columns))

theorem Row.Bare.settle {row : Row} (bare : row.Bare) (hidden : Bool) :
    Row.Bare (Row.settle hidden row) := by
  induction row generalizing hidden with
  | nil => exact bare
  | cons tile rest ih =>
      obtain ⟨plain, later⟩ := Row.bare_cons.mp bare
      refine Row.bare_cons.mpr ⟨?_, ih later _⟩
      split
      · rfl
      · exact plain

theorem bare_borderLine {style : Style} (plain : style.background = none) (width : Nat)
    (first last : Char) (caption : List (List Char)) :
    Row.Bare (borderLine style width first last caption) := by
  have line : Row.Bare (List.replicate (width - 2) (Tile.ofChar '─' style)) :=
    Row.bare_replicate plain _
  have corner : Row.Bare [Tile.ofChar last style] := Row.bare_replicate plain 1
  simp only [borderLine]
  generalize (caption.map Columns.count).foldr (· + ·) 0 % UInt16.size = columns
  have captioned := ((line.take columns).writeAll caption).settle false
  have middle := captioned.append (line.drop columns)
  exact ((Row.bare_cons.mpr ⟨plain, middle⟩).append corner).take width

theorem background_borderStyle (focused : Bool) : (borderStyle focused).background = none := by
  cases focused <;> rfl

/-! What stands between a first and a last part. Rows and columns of a border are both so. -/

section Framed
variable {α : Type} {first last : α} {middle : List α} {count index : Nat}

theorem getElem?_framed (inside : index < middle.length) (room : index + 1 < count) :
    ((first :: middle ++ [last]).take count)[index + 1]? = middle[index]? := by
  rw [List.getElem?_take_of_lt room, List.cons_append, List.getElem?_cons_succ,
    List.getElem?_append_left inside]

theorem of_framed {found : α}
    (listed : ((first :: middle ++ [last]).take count)[index]? = some found) :
    found = first ∨ found = last ∨ ∃ inside, index = inside + 1 ∧ middle[inside]? = some found := by
  rw [List.getElem?_take] at listed
  split at listed
  · cases index with
    | zero => exact .inl (Option.some.inj listed).symm
    | succ inside =>
        rw [List.cons_append, List.getElem?_cons_succ, List.getElem?_append] at listed
        split at listed
        · exact .inr (.inr ⟨inside, rfl, listed⟩)
        · exact .inr (.inl (List.mem_singleton.mp (List.mem_of_getElem? listed)))
  · cases listed

end Framed

section Bordered
variable {inner : Picture} {width height column row : Nat} (focused : Bool) (title : String)

theorem tile?_bordered (sized : inner.Sized (width - 2) (height - 2)) (across : column < width - 2)
    (down : row < height - 2) :
    (bordered focused title width height inner).tile? (column + 1) (row + 1) =
      inner.tile? column row := by
  have below : row < inner.length := sized.rows ▸ down
  have beside : column < inner[row].length := sized.columns _ (List.getElem_mem below) ▸ across
  have kept : inner.take (height - 2) = inner := List.take_of_length_le (Nat.le_of_eq sized.rows)
  simp only [bordered, Picture.tile?, List.singleton_append, kept]
  rw [getElem?_framed (by rwa [List.length_map]) (by omega), List.getElem?_map,
    List.getElem?_eq_getElem below]
  exact getElem?_framed beside (by omega)

theorem bare_or_inner {tile : Tile}
    (drawn : (bordered focused title width height inner).tile? column row = some tile) :
    tile.style.background = none ∨
      ∃ x y, column = x + 1 ∧ row = y + 1 ∧ inner.tile? x y = some tile := by
  have plain := background_borderStyle focused
  obtain ⟨tiles, listed, drawn⟩ := Option.bind_eq_some_iff.mp drawn
  simp only [bordered, List.singleton_append] at listed
  obtain rfl | rfl | ⟨y, rfl, between⟩ := of_framed listed
  · exact .inl (bare_borderLine plain _ _ _ _ tile (List.mem_of_getElem? drawn))
  · exact .inl (bare_borderLine plain _ _ _ _ tile (List.mem_of_getElem? drawn))
  · rw [List.getElem?_map] at between
    obtain ⟨own, kept, rfl⟩ := Option.map_eq_some_iff.mp between
    obtain rfl | rfl | ⟨x, rfl, inside⟩ := of_framed drawn
    · exact .inl plain
    · exact .inl plain
    · have present : inner[y]? = some own := by
        rw [List.getElem?_take] at kept
        split at kept
        · exact kept
        · cases kept
      refine .inr ⟨x, y, rfl, rfl, ?_⟩
      rw [Picture.tile?, present]
      exact inside

end Bordered

end Playfield.Screen
