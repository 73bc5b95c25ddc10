/-
# Both halves of wide glyphs

A wide glyph stands in two cells, and the second holds the filler.  On a grid that scrolls and that is
only poured on, blanked and resized, the cursor stands at the start of a row between these, with nothing
but blanks from there on (`Ready`).  So each text is poured onto blanks, no glyph is written over half of
another, and no row shows half a wide glyph (`poured_halves`).
-/

import ChatConsole.Proofs.Flow.Rows
import ChatConsole.Proofs.Grid.Edits
import ChatConsole.Proofs.Grid.Whole

namespace ChatConsole

namespace Cell

variable {cells : List Cell} {cell : Cell} {x : Nat}

/-- The filler is the second cell of a wide glyph in its style, and a wide glyph has this second
cell. -/
structure HasHalves (cells : List Cell) (x : Nat) (cell : Cell) : Prop where
  glyph : cell.char = filler → ∃ before glyph, before + 1 = x ∧ cells[before]? = some glyph ∧
    Text.columns glyph.char = 2 ∧ glyph.style = cell.style
  filler : Text.columns cell.char = 2 → cells[x + 1]? = some ⟨filler, cell.style⟩

/-- Cells that stand in front of others are no part of their halves. -/
theorem HasHalves.append (before : List Cell) (h : HasHalves cells x cell) :
    HasHalves (before ++ cells) (before.length + x) cell where
  glyph hfiller := by
    obtain ⟨y, glyph, rfl, hglyph, hwide, hstyle⟩ := h.glyph hfiller
    refine ⟨before.length + y, glyph, rfl, ?_, hwide, hstyle⟩
    rw [List.getElem?_append_right (Nat.le_add_right ..), Nat.add_sub_cancel_left]
    exact hglyph
  filler hwide := by
    rw [Nat.add_assoc, List.getElem?_append_right (Nat.le_add_right ..), Nat.add_sub_cancel_left]
    exact h.filler hwide

/-- In a row of whole glyphs each cell has its other half. -/
theorem Whole.hasHalves (h : Whole cells) (hcell : cells[x]? = some cell) :
    HasHalves cells x cell := by
  induction h generalizing x with
  | nil => cases hcell
  | @glyph c style rest hc _ ih =>
    have hlength : (ofGlyph c style).length = Text.columns c := length_ofGlyph hc
    by_cases hx : Text.columns c ≤ x
    · rw [List.getElem?_append_right (by omega), hlength] at hcell
      have hrest := (ih hcell).append (ofGlyph c style)
      rwa [hlength, Nat.add_sub_cancel' hx] at hrest
    -- The cell is one of the glyph's own: the glyph itself or, for a wide one, the filler.
    have htwo := Text.columns_le_two c
    have hmark : c ≠ Cell.filler := fun hfiller => hc (hfiller ▸ columns_filler)
    rcases Nat.lt_or_ge (Text.columns c) 2 with hone | hwide
    · have hcells : ofGlyph c style = [⟨c, style⟩] := by
        rw [ofGlyph, show Text.columns c - 1 = 0 by omega, List.replicate_zero]
      obtain rfl : x = 0 := by omega
      rw [hcells] at hcell
      obtain rfl := Option.some.inj hcell
      exact ⟨fun hfiller => absurd hfiller hmark, fun htwo => absurd htwo (by simp; omega)⟩
    · have hcells : ofGlyph c style = [⟨c, style⟩, ⟨Cell.filler, style⟩] := by
        rw [ofGlyph, show Text.columns c - 1 = 1 by omega, List.replicate_one]
      rw [hcells] at hcell ⊢
      rcases Nat.lt_or_ge x 1 with hfirst | hsecond
      · obtain rfl : x = 0 := by omega
        obtain rfl := Option.some.inj hcell
        exact ⟨fun hfiller => absurd hfiller hmark, fun _ => rfl⟩
      · obtain rfl : x = 1 := by omega
        obtain rfl := Option.some.inj hcell
        refine ⟨fun _ => ⟨0, ⟨c, style⟩, rfl, rfl, Nat.le_antisymm htwo hwide, rfl⟩, fun hwide => ?_⟩
        exact absurd hwide (by rw [columns_filler]; decide)

end Cell

namespace Grid

variable {g : Grid}

/-! ### Grids that are only poured on -/

/-- What is done to a pane. -/
inductive PaneEdit where
  | pour (palette : Color.Palette) (text : String) (indent cap : Nat)
  | erase
  | resize (width height : Nat)

/-- A pane is edited as any grid. -/
def PaneEdit.edit : PaneEdit → Edit
  | pour palette text indent cap => .pour palette text indent cap
  | erase => .erase
  | resize width height => .resize width height

/-- The grid scrolls, and it has no rows or its cursor is at the start of a row, with blanks from there
on. -/
structure Ready (g : Grid) : Prop where
  scrolls : g.scrolls = true
  fresh : g.height = 0 ∨
    ∃ (base : Grid) (ended : List (List Cell)), 0 < base.height ∧ g = base.page ended [] []

theorem ready_resize (hs : g.scrolls = true) (width height : Nat) : (g.resize width height).Ready where
  scrolls := hs
  fresh := by
    by_cases hh : (g.resize width height).height = 0
    · exact Or.inl hh
    right
    have hsame : (g.resize width height).erase = g.resize width height := by
      rw [erase, height_resize]
      rfl
    have hpage := erase_eq_page hh
    rw [hsame] at hpage
    exact ⟨_, [], Nat.pos_of_ne_zero hh, hpage⟩

theorem Ready.pour (hg : g.Ready) (palette : Color.Palette) (text : String) (indent cap : Nat) :
    (g.pour palette text indent cap).grid.Ready where
  scrolls := (frame_pour g palette text indent cap).scrolls.trans hg.scrolls
  fresh := by
    by_cases hnone : (text.isEmpty || g.width < 2 || g.height = 0) = true
    · rw [Grid.pour, if_pos hnone]
      exact hg.fresh
    simp only [Bool.or_eq_true, decide_eq_true_eq, not_or, String.isEmpty_iff, Nat.not_lt] at hnone
    obtain ⟨⟨htext, hw⟩, hh⟩ := hnone
    obtain hnone | ⟨base, ended, hbase, rfl⟩ := hg.fresh
    · exact absurd hnone hh
    · right
      rw [pour_page (g := base) hg.scrolls hbase hw palette htext indent cap]
      exact ⟨{ base with style := {} }, _, hbase, rfl⟩

theorem Ready.edit (hg : g.Ready) (e : PaneEdit) : (g.edit e.edit).Ready := by
  cases e with
  | pour palette text indent cap => exact hg.pour palette text indent cap
  | erase => exact ready_resize hg.scrolls g.width g.height
  | resize width height => exact ready_resize hg.scrolls width height

/-- From the cursor on there are blanks. -/
theorem Ready.blank_ahead (hg : g.Ready) {y x : Nat} {cell : Cell} (hcell : g.cell? y x = some cell)
    (hahead : g.row ≤ y) : cell = g.blank := by
  simp only [cell?, Option.bind_eq_bind, Option.bind_eq_some_iff] at hcell
  obtain ⟨row, hrow, hcell⟩ := hcell
  obtain hnone | ⟨base, ended, hbase, rfl⟩ := hg.fresh
  · rw [List.eq_nil_of_length_eq_zero hnone] at hrow
    cases hrow
  have hlength : (ended.drop (ended.length - (base.height - 1))).length
      = (base.page ended [] []).row := by
    simp only [page, List.length_drop]
    omega
  rw [rows_page_fresh hbase, List.getElem?_append_right (hlength ▸ hahead),
    List.getElem?_replicate] at hrow
  split at hrow
  · obtain rfl := Option.some.inj hrow
    exact List.eq_of_mem_replicate (List.mem_of_getElem? hcell)
  · cases hrow

/-- What holds of a pane at any time: it is ready for a text, its rows are whole, and cleared space is
in the default style. -/
structure Sound (g : Grid) : Prop extends Ready g where
  neat : g.Neat
  background : g.background = {}

theorem sound_new (width height : Nat) : (new width height true).Sound :=
  { ready_resize (g := new width height true) rfl width height with
    neat := neat_resize (new width height true) width height
    background := rfl }

theorem Sound.edit (hg : g.Sound) (e : PaneEdit) : (g.edit e.edit).Sound where
  toReady := hg.toReady.edit e
  neat := by
    cases e with
    | pour palette text indent cap => exact steady_pour g palette text indent cap steady_neat hg.neat
    | erase => exact neat_erase g
    | resize width height => exact neat_resize g width height
  background := by
    cases e with
    | pour palette text indent cap =>
      exact (frame_pour g palette text indent cap).background.trans hg.background
    | erase | resize => exact hg.background

theorem Sound.editAll (hg : g.Sound) (edits : List PaneEdit) :
    (g.editAll (edits.map PaneEdit.edit)).Sound := by
  induction edits generalizing g with
  | nil => exact hg
  | cons e edits ih => exact ih (hg.edit e)

/-- **A pane never shows half a wide glyph.**  Whatever texts are poured on a grid that scrolls, with
any indents, caps and palettes, and however it is blanked and resized in between: on every row each
filler stands right behind a glyph of two columns in the same style, right behind each glyph of two
columns stands a filler in its style, and all cells from the cursor on are blank. -/
theorem poured_halves (width height : Nat) (edits : List PaneEdit) :
    let g := (new width height true).editAll (edits.map PaneEdit.edit)
    (∀ row ∈ g.rows, ∀ x cell, row[x]? = some cell →
      (cell.char = Cell.filler → ∃ before glyph, before + 1 = x ∧ row[before]? = some glyph ∧
        Text.columns glyph.char = 2 ∧ glyph.style = cell.style) ∧
      (Text.columns cell.char = 2 → row[x + 1]? = some ⟨Cell.filler, cell.style⟩)) ∧
    ∀ y x cell, g.cell? y x = some cell → (g.row < y ∨ g.row = y ∧ g.col ≤ x) → cell = {} := by
  intro g
  have hg : g.Sound := (sound_new width height).editAll edits
  constructor
  · intro row hrow x cell hcell
    have hhalves := (hg.neat.rows row hrow).2.hasHalves hcell
    exact ⟨hhalves.glyph, hhalves.filler⟩
  · intro y x cell hcell hahead
    have hrow : g.row ≤ y := by omega
    rw [hg.blank_ahead hcell hrow, blank, hg.background]

/-- A wide glyph that does not fit beside another one takes both its cells to the next row. -/
example : ((new 3 3 true).editAll [PaneEdit.edit (.pour .off "日本" 0 0)]).rows.map (·.map Cell.char)
    = [['日', '\x00', ' '], ['本', '\x00', ' '], [' ', ' ', ' ']] := by
  decide +kernel

end Grid
end ChatConsole
