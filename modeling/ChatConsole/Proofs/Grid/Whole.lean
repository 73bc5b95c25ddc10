/-
# Rows of whole glyphs

A wide glyph has a second cell, the filler, and takes as many columns on the terminal as it has cells only
as long as it keeps it.  A row of whole glyphs takes as many columns as it has cells.  Grids are written
on row by row, with nothing but single cells from the cursor on (`Neat`); then no glyph is ever written
over a part of another, and every row is whole.  Panes, bars and panels are written on in this way.
-/

import ChatConsole.Proofs.Flow.Frame
import ChatConsole.Proofs.Grid.Page

namespace ChatConsole

namespace Cell

/-! ### Whole glyphs -/

/-- Cells that are the cells of some glyphs, side by side. -/
inductive Whole : List Cell → Prop where
  | nil : Whole []
  | glyph (c : Char) (style : Style) {rest : List Cell} (hc : Text.columns c ≠ 0)
      (h : Whole rest) : Whole (ofGlyph c style ++ rest)

/-- Each cell is a glyph of its own. -/
def Slim (cells : List Cell) : Prop :=
  ∀ cell ∈ cells, Text.columns cell.char = 1

variable {cells rest : List Cell} {c : Char} {style : Style}

theorem whole_ofGlyph (hc : Text.columns c ≠ 0) : Whole (ofGlyph c style) :=
  List.append_nil (ofGlyph c style) ▸ .glyph c style hc .nil

theorem Whole.append (h : Whole cells) (hrest : Whole rest) : Whole (cells ++ rest) := by
  induction h with
  | nil => exact hrest
  | glyph c style hc _ ih =>
    rw [List.append_assoc]
    exact .glyph c style hc ih

theorem slim_nil : Slim [] :=
  fun _ hcell => absurd hcell List.not_mem_nil

theorem Slim.drop (h : Slim cells) (n : Nat) : Slim (cells.drop n) :=
  fun cell hcell => h cell (List.mem_of_mem_drop hcell)

theorem slim_replicate {cell : Cell} (hcell : Text.columns cell.char = 1) (n : Nat) :
    Slim (List.replicate n cell) := by
  intro other hother
  rwa [List.eq_of_mem_replicate hother]

/-- Cells that are cut or filled up with single cells are single. -/
theorem Slim.takeD (h : Slim cells) {cell : Cell} (hcell : Text.columns cell.char = 1) (n : Nat) :
    Slim (cells.takeD n cell) := by
  induction n generalizing cells with
  | zero =>
    rw [List.takeD_zero]
    exact slim_nil
  | succ n ih =>
    rw [List.takeD_succ]
    cases cells with
    | nil => exact List.forall_mem_cons.2 ⟨hcell, ih h⟩
    | cons first cells =>
      obtain ⟨hfirst, hcells⟩ := List.forall_mem_cons.1 h
      exact List.forall_mem_cons.2 ⟨hfirst, ih hcells⟩

theorem Slim.whole (h : Slim cells) : Whole cells := by
  induction cells with
  | nil => exact .nil
  | cons cell cells ih =>
    obtain ⟨hcell, hcells⟩ := List.forall_mem_cons.1 h
    have hglyph : ofGlyph cell.char cell.style = [cell] := by
      rw [ofGlyph, hcell]
      rfl
    have hwhole := Whole.glyph cell.char cell.style (by omega) (ih hcells)
    rwa [hglyph] at hwhole

theorem columns_filler : Text.columns filler = 0 := by decide

/-- The filler takes no column, and its glyph all that the two cells have. -/
theorem columnsOf_ofGlyph (hc : Text.columns c ≠ 0) :
    Text.columnsOf ((ofGlyph c style).map char) = (ofGlyph c style).length := by
  have hfillers (n : Nat) :
      Text.columnsOf ((List.replicate n (⟨filler, style⟩ : Cell)).map char) = 0 := by
    induction n with
    | zero => rfl
    | succ n ih =>
      rw [List.replicate_succ, List.map_cons, Text.columnsOf_cons, ih, columns_filler]
  rw [length_ofGlyph hc, ofGlyph, List.map_cons, Text.columnsOf_cons, hfillers, Nat.add_zero]

/-- Whole glyphs take as many columns as they have cells. -/
theorem Whole.columnsOf (h : Whole cells) : Text.columnsOf (cells.map char) = cells.length := by
  induction h with
  | nil => rfl
  | glyph c style hc _ ih =>
    rw [List.map_append, Text.columnsOf_append, columnsOf_ofGlyph hc, ih, List.length_append]

/-- The last cell of whole glyphs is not one that its filler should follow. -/
theorem Whole.columns_getLast (h : Whole cells) {last : Cell} (hlast : cells.getLast? = some last) :
    Text.columns last.char ≤ 1 := by
  induction h with
  | nil => cases hlast
  | @glyph c style rest hc _ ih =>
    rw [List.getLast?_append] at hlast
    cases hrest : rest.getLast? with
    | some cell =>
      rw [hrest, Option.some_or] at hlast
      exact ih (hrest.trans hlast)
    | none =>
      rw [hrest, Option.none_or, ofGlyph] at hlast
      by_cases hwide : Text.columns c = 1
      · rw [hwide, Nat.sub_self, List.replicate_zero] at hlast
        obtain rfl := Option.some.inj hlast
        exact Nat.le_of_eq hwide
      · -- A wide glyph ends in its filler.
        have hfiller : last ∈ List.replicate (Text.columns c - 1) (⟨filler, style⟩ : Cell) := by
          obtain ⟨n, hn⟩ : ∃ n, Text.columns c - 1 = n + 1 := ⟨Text.columns c - 2, by omega⟩
          rw [hn, List.replicate_succ', ← List.cons_append, List.getLast?_append] at hlast
          rw [hn, ← Option.some.inj hlast]
          exact List.mem_replicate.2 ⟨Nat.succ_ne_zero n, rfl⟩
        rw [List.eq_of_mem_replicate hfiller, columns_filler]
        exact Nat.zero_le 1

end Cell

namespace Grid

open Cell (Whole Slim)

variable {base g h : Grid} {ended : List (List Cell)} {left right : List Cell} {n : Nat}

theorem columns_blank (g : Grid) : Text.columns g.blank.char = 1 := Text.columns_space

/-! ### Grids that are written on row by row -/

/-- The rows that have been ended, and the cells of the row in progress: whole glyphs that fit the row,
and single cells from the cursor on. -/
structure Written (width : Nat) (ended : List (List Cell)) (left right : List Cell) : Prop where
  rows : ∀ row ∈ ended, row.length = width ∧ Whole row
  whole : Whole left
  left_le : left.length ≤ width
  slim : Slim right

theorem written_nil (width : Nat) : Written width [] [] [] where
  rows := fun _ hrow => absurd hrow List.not_mem_nil
  whole := .nil
  left_le := Nat.zero_le _
  slim := Cell.slim_nil

/-- The row in progress is whole when it is cut or filled up to the width. -/
theorem Written.fill (hw : Written g.width ended left right) :
    (g.fill (left ++ right)).length = g.width ∧ Whole (g.fill (left ++ right)) := by
  refine ⟨List.takeD_length .., ?_⟩
  rw [fill_append hw.left_le]
  exact hw.whole.append (hw.slim.takeD (columns_blank g) _).whole

/-- Ending the row in progress. -/
theorem Written.end (hw : Written g.width ended left right) :
    Written g.width (ended ++ [g.fill (left ++ right)]) [] [] :=
  { written_nil g.width with
    rows := List.forall_mem_append.2 ⟨hw.rows, List.forall_mem_singleton.2 hw.fill⟩ }

/-- A further glyph that has room. -/
theorem Written.put (hw : Written base.width ended left right) {c : Char} {style : Style}
    (hc : Text.columns c ≠ 0) (hroom : left.length + Text.columns c ≤ base.width) :
    Written base.width ended (left ++ Cell.ofGlyph c style) (right.drop (Text.columns c)) where
  rows := hw.rows
  whole := hw.whole.append (Cell.whole_ofGlyph hc)
  left_le := by
    rw [List.length_append, Cell.length_ofGlyph hc]
    exact hroom
  slim := hw.slim.drop _

/-- The grid is without rows, or it is a page of what has been written on it. -/
def Neat (g : Grid) : Prop :=
  g.rows = [] ∨
    ∃ (base : Grid) (ended : List (List Cell)) (left right : List Cell),
      0 < base.height ∧ Written base.width ended left right ∧ g = base.page ended left right

/-- A grid that has been blanked is a page on which nothing has been written. -/
theorem erase_eq_page (hh : g.height ≠ 0) : g.erase = g.erase.page [] [] [] := by
  have hheight : g.erase.height = g.height := (frame_erase g).height
  refine eq_page ?_ rfl ?_
  · rw [hheight]
    exact Nat.pos_of_ne_zero hh
  · rw [hheight]
    rfl

theorem neat_erase (g : Grid) : g.erase.Neat := by
  by_cases hh : g.height = 0
  · left
    rw [erase, resize, hh]
    rfl
  · refine Or.inr ⟨g.erase, [], [], [], ?_, written_nil _, erase_eq_page hh⟩
    rw [(frame_erase g).height]
    exact Nat.pos_of_ne_zero hh

theorem neat_resize (g : Grid) (width height : Nat) : (g.resize width height).Neat := by
  have hsame : (g.resize width height).erase = g.resize width height := by
    rw [erase, height_resize]
    rfl
  exact hsame ▸ neat_erase (g.resize width height)

/-- Every row of the grid has the width of the grid and is whole. -/
theorem Neat.rows (hg : g.Neat) : ∀ row ∈ g.rows, row.length = g.width ∧ Whole row := by
  rcases hg with hnone | ⟨base, ended, left, right, -, hw, rfl⟩
  · rw [hnone]
    exact fun _ hrow => absurd hrow List.not_mem_nil
  · have hblank : base.blankRow.length = base.width ∧ Whole base.blankRow :=
      ⟨List.length_replicate, (Cell.slim_replicate (columns_blank base) _).whole⟩
    refine List.forall_mem_append.2 ⟨fun row hrow => hw.rows row (List.mem_of_mem_drop hrow), ?_⟩
    refine List.forall_mem_cons.2 ⟨hw.fill, ?_⟩
    intro row hrow
    rw [List.eq_of_mem_replicate hrow]
    exact hblank

/-! ### What keeps a grid neat -/

theorem Neat.newline (hs : g.scrolls = true) (hg : g.Neat) : g.newline.Neat := by
  rcases hg with hnone | ⟨base, ended, left, right, hh, hw, rfl⟩
  · left
    rw [Grid.newline]
    simp [clearToEnd, modifyRow, height, hs, scroll, hnone]
  · refine Or.inr ⟨base, _, [], [], hh, ?_, newline_page hs hh hw.left_le⟩
    have hended : Written base.width ended left [] :=
      ⟨hw.rows, hw.whole, hw.left_le, Cell.slim_nil⟩
    have hnext := hended.end
    rwa [List.append_nil] at hnext

/-- A glyph that fits the row of a page is written on it. -/
theorem write_page {c : Char} {style : Style} (hh : 0 < base.height) (hc : Text.columns c ≠ 0)
    (hroom : left.length + Text.columns c ≤ base.width) :
    (base.page ended left right).write c style
      = base.page ended (left ++ Cell.ofGlyph c style) (right.drop (Text.columns c)) := by
  have hput : (base.page ended left right).put? c style
      = some (base.page ended (left ++ Cell.ofGlyph c style) (right.drop (Text.columns c))) :=
    put?_page hh hc hroom
  have hheight : (base.page ended left right).height = base.height := page_height hh
  rw [Grid.put?, if_neg (by rw [hheight, page_width]; omega), if_pos (by simpa using hroom)] at hput
  exact Option.some.inj hput

theorem Neat.put? {c : Char} {style : Style} (hg : g.Neat) (hput : g.put? c style = some h) :
    h.Neat := by
  unfold Grid.put? at hput
  dsimp only at hput
  split at hput
  · cases hput
  rename_i htakes
  rcases hg with hnone | ⟨base, ended, left, right, hh, hw, rfl⟩
  · have hheight : g.height = 0 := by rw [height, hnone]; rfl
    exact absurd (Or.inr (Or.inr hheight)) htakes
  have hc : Text.columns c ≠ 0 := fun hzero => htakes (Or.inl hzero)
  have hfits : Text.columns c ≤ base.width :=
    Nat.le_of_not_lt fun hlt => htakes (Or.inr (Or.inl hlt))
  split at hput
  · rename_i hroom
    obtain rfl := Option.some.inj hput
    exact Or.inr ⟨base, _, _, _, hh, hw.put hc hroom, write_page hh hc hroom⟩
  split at hput
  · rename_i hs
    obtain rfl := Option.some.inj hput
    have hended : Written base.width ended left [] :=
      ⟨hw.rows, hw.whole, hw.left_le, Cell.slim_nil⟩
    have hroom : ([] : List Cell).length + Text.columns c ≤ base.width := by
      rw [List.length_nil]
      omega
    rw [newline_page (g := base) hs hh hw.left_le, write_page hh hc hroom]
    have hnext := hended.end
    rw [List.append_nil] at hnext
    exact Or.inr ⟨base, _, _, _, hh, hnext.put hc hroom, rfl⟩
  · cases hput

/-- Going on to the next row of a page ends the row in progress. -/
theorem moveTo_page_below (hroom : ended.length + 1 < base.height) :
    (base.page ended left right).moveTo (ended.length + 1) 0
      = base.page (ended ++ [base.fill (left ++ right)]) [] [] := by
  have hheight : (base.page ended left right).height = base.height := page_height (by omega)
  have hrow : min (ended.length + 1) (base.height - 1) = ended.length + 1 := by omega
  have hdrop : ended.length + 1 - base.height = 0 := by omega
  have hdrop' : ended.length + 1 + 1 - base.height = 0 := by omega
  have hbelow : base.height - 1 - ended.length = (base.height - 1 - (ended.length + 1)) + 1 := by omega
  rw [moveTo, hheight, hrow]
  simp [page, hdrop, hdrop', hbelow, hrow, List.replicate_succ]

/-- The style of the glyphs that come has no say in it. -/
theorem Neat.style (hg : g.Neat) (style : Style) : Neat { g with style } := by
  rcases hg with hnone | ⟨base, ended, left, right, hh, hw, rfl⟩
  · exact Or.inl hnone
  · exact Or.inr ⟨{ base with style }, ended, left, right, hh, hw, rfl⟩

theorem steady_neat : Steady Neat where
  newline := Neat.newline
  put? := Neat.put?
  style hg := hg.style {}
  erase _ := neat_erase _

/-! ### A single row -/

/-- The grid is one row of whole glyphs, from edge to edge of so many columns. -/
structure Spans (cols : Nat) (g : Grid) : Prop where
  height : g.height = 1
  row : ∀ cells ∈ g.rows, cells.length = cols ∧ Whole cells
  col_le : g.col ≤ cols

theorem spans_resize (g : Grid) (cols : Nat) : (g.resize cols 1).Spans cols where
  height := height_resize ..
  row := (neat_resize g cols 1).rows
  col_le := Nat.zero_le _

end Grid
end ChatConsole
