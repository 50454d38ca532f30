import Playfield.Proofs.Pictures
import Playfield.Proofs.Rows
import Playfield.Screen.GridPane

/-!
The part of the playfield that is on screen. On each axis it is as long as pane and playfield allow,
stays on the playfield and has the focus in it. Tile by tile, the pane shows the cells of that part
and nothing else, and the focus is the only tile with a background.
-/

namespace Playfield.Screen.GridPane

/-- The part of an axis that begins at `first` and is as long as can be shown. It lies on the
playfield, and the focus is on it: in the middle, unless an edge is too near. -/
structure Follows (focus extent visible first : Nat) : Prop where
  onGrid : first + min visible extent ≤ extent
  begun : first ≤ focus
  unfinished : focus < first + min visible extent
  centred : visible < extent → visible / 2 ≤ focus → focus - visible / 2 + visible ≤ extent →
    focus = first + visible / 2

theorem follows_viewportOrigin {focus extent visible : Nat} (below : focus < extent)
    (room : 0 < visible) :
    Follows focus extent visible (viewportOrigin focus extent visible) := by
  rw [viewportOrigin]
  split
  · rename_i fits
    have whole : extent ≤ visible := fits.resolve_left (Nat.ne_of_gt room)
    constructor <;> omega
  · constructor <;> omega

theorem visibleRange_eq (focus extent visible : Nat) :
    visibleRange focus extent visible =
      List.range' (viewportOrigin focus extent visible) (min visible extent) := by
  have length : min (viewportOrigin focus extent visible + visible) extent -
      viewportOrigin focus extent visible = min visible extent := by
    rw [viewportOrigin]
    split <;> omega
  rw [visibleRange, length]

/-- The place of the playfield that a window of this size has in a column and a row. -/
def placeAt (grid : Grid) (focus : Position) (width height column row : Nat) : Position :=
  ⟨viewportOrigin focus.x grid.width width + column,
    viewportOrigin focus.y grid.height height + row⟩

section Window
variable {grid : Grid} {focus : Position} {focusColor : Color} {width height column row : Nat}

theorem eq_placeAt_iff :
    focus = placeAt grid focus width height column row ↔
      viewportOrigin focus.x grid.width width + column = focus.x ∧
        viewportOrigin focus.y grid.height height + row = focus.y := by
  constructor
  · intro same
    exact ⟨(congrArg Position.x same).symm, (congrArg Position.y same).symm⟩
  · rintro ⟨atColumn, atRow⟩
    rw [placeAt, atColumn, atRow]

theorem sized_window :
    (window grid focus focusColor width height).Sized (min width grid.width)
      (min height grid.height) where
  rows := by rw [window, List.length_map, visibleRange_eq, List.length_range']
  columns := by
    intro row listed
    obtain ⟨y, _, rfl⟩ := List.mem_map.mp listed
    rw [visibleRange_eq, List.length_map, List.length_range']

theorem tile?_window (across : column < min width grid.width)
    (down : row < min height grid.height) :
    (window grid focus focusColor width height).tile? column row =
      let place := placeAt grid focus width height column row
      some (tile (grid.cell place) (focus = place) focusColor) := by
  rw [Picture.tile?, window, visibleRange_eq, visibleRange_eq, List.getElem?_map,
    List.getElem?_range' down, Option.map_some, Option.bind_some, List.getElem?_map,
    List.getElem?_range' across, Option.map_some, Nat.one_mul, Nat.one_mul]
  rfl

end Window

theorem background_tile (cell : Cell) (focused : Bool) (focusColor : Color) :
    (tile cell focused focusColor).style.background =
      if focused then some focusColor else none := by
  cases cell with
  | mk value breakpoint => cases breakpoint <;> cases focused <;> rfl

/-! The window in its pane. -/

section Pane
variable (grid : Grid) (focus : Position) (title : String) (focusColor : Color) (focused : Bool)
variable {width height column row : Nat}

theorem tile?_draw (across : column < width - 2) (down : row < height - 2) :
    (draw grid focus title focusColor focused width height).tile? (column + 1) (row + 1) =
      some (((window grid focus focusColor (width - 2) (height - 2)).tile? column row).getD
        (.blank .plain)) :=
  (tile?_bordered focused title (Picture.sized_fit _ _ _ _) across down).trans
    (Picture.tile?_fit across down _ _)

theorem tile?_draw_inside (across : column < min (width - 2) grid.width)
    (down : row < min (height - 2) grid.height) :
    (draw grid focus title focusColor focused width height).tile? (column + 1) (row + 1) =
      let place := placeAt grid focus (width - 2) (height - 2) column row
      some (tile (grid.cell place) (focus = place) focusColor) := by
  rw [tile?_draw grid focus title focusColor focused (by omega) (by omega),
    tile?_window across down]
  rfl

theorem tile?_draw_outside (across : column < width - 2) (down : row < height - 2)
    (outside : ¬ (column < min (width - 2) grid.width ∧ row < min (height - 2) grid.height)) :
    (draw grid focus title focusColor focused width height).tile? (column + 1) (row + 1) =
      some (.blank .plain) := by
  rw [tile?_draw grid focus title focusColor focused across down,
    sized_window.tile?_of_outside outside]
  rfl

theorem inner_of_background {shade : Tile}
    (drawn : (draw grid focus title focusColor focused width height).tile? column row = some shade)
    (shaded : shade.style.background = some focusColor) :
    ∃ x y, column = x + 1 ∧ row = y + 1 ∧ x < width - 2 ∧ y < height - 2 := by
  obtain bare | ⟨x, y, rfl, rfl, inner⟩ := bare_or_inner focused title drawn
  · rw [bare] at shaded
    cases shaded
  · by_cases inside : x < width - 2 ∧ y < height - 2
    · exact ⟨x, y, rfl, rfl, inside⟩
    · rw [(Picture.sized_fit _ _ _ _).tile?_of_outside inside] at inner
      cases inner

theorem focus_of_background {shade : Tile}
    (drawn : (draw grid focus title focusColor focused width height).tile? column row = some shade)
    (shaded : shade.style.background = some focusColor) :
    ∃ x y, column = x + 1 ∧ row = y + 1 ∧
      focus = placeAt grid focus (width - 2) (height - 2) x y := by
  obtain ⟨x, y, rfl, rfl, across, down⟩ :=
    inner_of_background grid focus title focusColor focused drawn shaded
  by_cases inside : x < min (width - 2) grid.width ∧ y < min (height - 2) grid.height
  · rw [tile?_draw_inside grid focus title focusColor focused inside.1 inside.2] at drawn
    rw [← Option.some.inj drawn, background_tile] at shaded
    split at shaded
    · rename_i same
      exact ⟨x, y, rfl, rfl, of_decide_eq_true same⟩
    · cases shaded
  · rw [tile?_draw_outside grid focus title focusColor focused across down inside] at drawn
    rw [← Option.some.inj drawn] at shaded
    cases shaded

theorem background_of_focus (across : column < min (width - 2) grid.width)
    (down : row < min (height - 2) grid.height)
    (same : focus = placeAt grid focus (width - 2) (height - 2) column row) :
    ∃ shade, (draw grid focus title focusColor focused width height).tile? (column + 1) (row + 1) =
      some shade ∧ shade.style.background = some focusColor := by
  refine ⟨_, tile?_draw_inside grid focus title focusColor focused across down, ?_⟩
  rw [background_tile, if_pos (decide_eq_true same)]

end Pane

/-- The playfield on screen always shows the focus and wastes no space. In a pane with room for a
column and a row, the cells that are shown are a window with as many columns and rows as pane and
playfield have both. The window lies on the playfield and contains the focus, which is in its middle
on an axis that does not fit, unless an edge is too near. Each tile of the window shows the cell
that many columns and rows after the first one, the rest of the pane is blank, and of all tiles of
the pane, only the focus has the colour of the focus behind it. -/
theorem draw_follows_focus {grid : Grid} {focus : Position} (inside : grid.Contains focus)
    {width height : Nat} (wide : 1 ≤ width - 2) (high : 1 ≤ height - 2) (title : String)
    (focusColor : Color) (focused : Bool) :
    let picture := draw grid focus title focusColor focused width height
    let columns := min (width - 2) grid.width
    let rows := min (height - 2) grid.height
    let left := viewportOrigin focus.x grid.width (width - 2)
    let top := viewportOrigin focus.y grid.height (height - 2)
    (window grid focus focusColor (width - 2) (height - 2)).Sized columns rows ∧
    Follows focus.x grid.width (width - 2) left ∧ Follows focus.y grid.height (height - 2) top ∧
    (∀ column < columns, ∀ row < rows,
      let place : Position := ⟨left + column, top + row⟩
      grid.Contains place ∧
        (grid.row place.y)[place.x]? = some (grid.cell place) ∧
        ∃ style, picture.tile? (column + 1) (row + 1) =
          some (.ofChar (displayGlyph (grid.cell place).value) style)) ∧
    (∀ column < width - 2, ∀ row < height - 2, ¬ (column < columns ∧ row < rows) →
      picture.tile? (column + 1) (row + 1) = some (.blank .plain)) ∧
    ∀ column row, (∃ shade, picture.tile? column row = some shade ∧
        shade.style.background = some focusColor) ↔
      left + column = focus.x + 1 ∧ top + row = focus.y + 1 := by
  intro picture columns rows left top
  have across : Follows focus.x grid.width (width - 2) left :=
    follows_viewportOrigin inside.column wide
  have down : Follows focus.y grid.height (height - 2) top :=
    follows_viewportOrigin inside.row high
  refine ⟨sized_window, across, down, ?_, ?_, ?_⟩
  · intro column within row below place
    have placed : grid.Contains place :=
      ⟨Nat.lt_of_lt_of_le (Nat.add_lt_add_left within left) across.onGrid,
        Nat.lt_of_lt_of_le (Nat.add_lt_add_left below top) down.onGrid⟩
    have read := grid.getElem?_row place.x place.y
    rw [Nat.mod_eq_of_lt placed.column] at read
    exact ⟨placed, read, _, tile?_draw_inside grid focus title focusColor focused within below⟩
  · intro column within row below outside
    exact tile?_draw_outside grid focus title focusColor focused within below outside
  · intro column row
    constructor
    · rintro ⟨shade, drawn, shaded⟩
      obtain ⟨x, y, rfl, rfl, same⟩ :=
        focus_of_background grid focus title focusColor focused drawn shaded
      obtain ⟨atColumn, atRow⟩ := eq_placeAt_iff.mp same
      exact ⟨congrArg (· + 1) atColumn, congrArg (· + 1) atRow⟩
    · rintro ⟨atColumn, atRow⟩
      have begun := across.begun
      have above := down.begun
      obtain ⟨x, rfl⟩ : ∃ x, column = x + 1 := ⟨column - 1, by omega⟩
      obtain ⟨y, rfl⟩ : ∃ y, row = y + 1 := ⟨row - 1, by omega⟩
      have same := eq_placeAt_iff.mpr ⟨Nat.succ.inj atColumn, Nat.succ.inj atRow⟩
      have within : x < columns := by
        have unfinished := across.unfinished
        omega
      have below : y < rows := by
        have unfinished := down.unfinished
        omega
      exact background_of_focus grid focus title focusColor focused within below same

/-- Nine cells in a row in a pane with room for four: the last one is too near to the edge to be in
the middle, and the fifth is not. -/
theorem draw_follows_focus_edge :
    let grid := Grid.ofRow 49 [50, 51, 52, 53, 54, 55, 56, 57]
    let near := draw grid ⟨8, 0⟩ "" .black true 6 3
    let far := draw grid ⟨4, 0⟩ "" .black true 6 3
    (∃ style, near.tile? 1 1 = some (.ofChar '6' style)) ∧
    (∃ shade, near.tile? 4 1 = some shade ∧ shade.style.background = some .black) ∧
    (∃ style, far.tile? 1 1 = some (.ofChar '3' style)) ∧
    ∃ shade, far.tile? 3 1 = some shade ∧ shade.style.background = some .black := by
  intro grid near far
  obtain ⟨_, _, _, nearTiles, _, nearFocus⟩ :=
    draw_follows_focus (show grid.Contains ⟨8, 0⟩ from ⟨by decide, by decide⟩)
      (show 1 ≤ 6 - 2 by decide) (show 1 ≤ 3 - 2 by decide) "" .black true
  obtain ⟨_, _, _, farTiles, _, farFocus⟩ :=
    draw_follows_focus (show grid.Contains ⟨4, 0⟩ from ⟨by decide, by decide⟩)
      (show 1 ≤ 6 - 2 by decide) (show 1 ≤ 3 - 2 by decide) "" .black true
  have six : displayGlyph (grid.cell ⟨5, 0⟩).value = '6' := by decide
  have three : displayGlyph (grid.cell ⟨2, 0⟩).value = '3' := by decide
  refine ⟨?_, ?_, ?_, ?_⟩
  · rw [← six]
    exact (nearTiles 0 (by decide) 0 (by decide)).2.2
  · exact (nearFocus 4 1).mpr (by decide)
  · rw [← three]
    exact (farTiles 0 (by decide) 0 (by decide)).2.2
  · exact (farFocus 3 1).mpr (by decide)

end Playfield.Screen.GridPane
