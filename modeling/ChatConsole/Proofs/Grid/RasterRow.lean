/-
# One row of a raster

A row is a part of the vector of a raster: some cells above it, its own, and some below it.  An offset
that is counted from the start of the row stays in it as long as the column is below the width.  So what
an operation stores, slices and rotates is in range, and it changes the cells of the row and no others
(`RowAt`).
-/

import ChatConsole.Proofs.Grid.Raster

namespace ChatConsole
namespace Raster

/-! ### Cells of one row -/

variable {above cells below : List Cell} {start stop offset x n : Nat}

theorem sum16?_eq {a b : Nat} (h : a + b < 65536) : sum16? a b = some (a + b) := if_pos h

theorem difference?_eq {a b : Nat} (h : b ≤ a) : difference? a b = some (a - b) := if_pos h

/-- Storing a cell in a row. -/
theorem store?_row (cell : Cell) (h : x < cells.length) :
    store? (above ++ (cells ++ below)) (above.length + x) cell
      = some (above ++ (cells.set x cell ++ below)) := by
  rw [store?, if_pos (by simp only [List.length_append]; omega),
    List.set_append_right _ _ (Nat.le_add_right ..), Nat.add_sub_cancel_left,
    List.set_append_left _ _ h]

/-- Cells of which some, from a column on, are replaced by the same cell. -/
def fill (x n : Nat) (cell : Cell) (cells : List Cell) : List Cell :=
  cells.take x ++ List.replicate n cell ++ cells.drop (x + n)

@[simp] theorem fill_zero (x : Nat) (cell : Cell) (cells : List Cell) : fill x 0 cell cells = cells := by
  rw [fill, List.replicate_zero, List.append_nil, Nat.add_zero, List.take_append_drop]

theorem take_set_succ (hx : x < cells.length) (cell : Cell) :
    (cells.set x cell).take (x + 1) = cells.take x ++ [cell] := by
  have hlength : (cells.take x).length = x := List.length_take_of_le (Nat.le_of_lt hx)
  rw [List.set_eq_take_append_cons_drop, if_pos hx, List.take_append, hlength,
    Nat.add_sub_cancel_left, List.take_of_length_le (by omega)]
  rfl

theorem fill_set (hx : x < cells.length) (n : Nat) (cell : Cell) :
    fill (x + 1) n cell (cells.set x cell) = fill x (n + 1) cell cells := by
  rw [fill, take_set_succ hx, List.drop_set_of_lt (by omega), List.append_assoc (cells.take x),
    Nat.add_right_comm x 1 n]
  rfl

/-- A glyph is a cell and its fillers. -/
theorem fill_set_glyph {c : Char} (hc : Text.columns c ≠ 0) (hx : x < cells.length) (style : Style) :
    fill (x + 1) (Text.columns c - 1) ⟨Cell.filler, style⟩ (cells.set x ⟨c, style⟩)
      = cells.take x ++ Cell.ofGlyph c style ++ cells.drop (x + Text.columns c) := by
  have hafter : x + 1 + (Text.columns c - 1) = x + Text.columns c := by omega
  rw [fill, take_set_succ hx, List.drop_set_of_lt (by omega), hafter, List.append_assoc (cells.take x)]
  rfl

/-- Storing the same cell in column after column. -/
theorem storeAll_row (cell : Cell) {d : Nat} (hn : x + n ≤ cells.length)
    (hoffset : offset + d = above.length + x) :
    (List.range' d n).foldlM (fun cells further => store? cells (offset + further) cell)
        (above ++ (cells ++ below))
      = some (above ++ (fill x n cell cells ++ below)) := by
  induction n generalizing cells x d with
  | zero => rw [fill_zero]; rfl
  | succ n ih =>
    have hx : x < cells.length := by omega
    have hset : x + 1 + n ≤ (cells.set x cell).length := by rw [List.length_set]; omega
    rw [List.range'_succ, List.foldlM_cons, hoffset, store?_row cell hx, ← fill_set hx]
    exact ih hset (by omega)

/-- The cells of a row between two columns. -/
theorem slice?_row (above below : List Cell) (hle : start ≤ stop) (hstop : stop ≤ cells.length) :
    slice? (above ++ (cells ++ below)) (above.length + start) (above.length + stop)
      = some ((cells.take stop).drop start) := by
  have hrange : above.length + start ≤ above.length + stop ∧
      above.length + stop ≤ (above ++ (cells ++ below)).length := by
    simp only [List.length_append]
    omega
  rw [slice?, if_pos hrange, List.take_length_add_append, List.drop_length_add_append,
    List.take_append_of_le_length hstop]

/-- Changing the cells of a row between two columns. -/
theorem onSlice?_row {f : List Cell → Option (List Cell)} {changed : List Cell} (hle : start ≤ stop)
    (hstop : stop ≤ cells.length) (hf : f ((cells.take stop).drop start) = some changed) :
    onSlice? f (above ++ (cells ++ below)) (above.length + start) (above.length + stop)
      = some (above ++ (cells.take start ++ changed ++ cells.drop stop ++ below)) := by
  have hstart : start ≤ cells.length := Nat.le_trans hle hstop
  simp only [onSlice?, slice?_row above below hle hstop, hf, Option.bind_eq_bind, Option.bind_some,
    List.take_length_add_append, List.drop_length_add_append, List.take_append_of_le_length hstart,
    List.drop_append_of_le_length hstop, List.append_assoc]
  rfl

/-- Changing the cells of a row from a column on. -/
theorem onSlice?_rest (above below : List Cell) {f : List Cell → Option (List Cell)}
    {changed : List Cell} (hstart : start ≤ cells.length) (hf : f (cells.drop start) = some changed) :
    onSlice? f (above ++ (cells ++ below)) (above.length + start) (above.length + cells.length)
      = some (above ++ (cells.take start ++ changed ++ below)) := by
  have hf' : f ((cells.take cells.length).drop start) = some changed := by rw [List.take_length, hf]
  rw [onSlice?_row hstart (Nat.le_refl _) hf', List.drop_length, List.append_nil]

/-- Reading a row cell by cell. -/
theorem readFrom?_row (above cells below : List Cell) :
    readFrom? (above ++ (cells ++ below)) above.length cells.length = some cells := by
  induction cells generalizing above with
  | nil => rfl
  | cons cell cells ih =>
    have hcell : (above ++ (cell :: cells ++ below))[above.length]? = some cell := by
      rw [List.getElem?_append_right (Nat.le_refl _), Nat.sub_self]
      rfl
    have hrest := ih (above ++ [cell])
    rw [List.length_append, List.length_singleton, List.append_assoc, List.singleton_append] at hrest
    rw [List.length_cons, readFrom?, hcell]
    simp only [List.cons_append, hrest, Option.bind_eq_bind, Option.bind_some]
    rfl

/-- A wide glyph at the edge of a row. -/
theorem mendEdge_row (above below : List Cell) (blank : Cell) (hcells : 0 < cells.length) :
    mendEdge blank (above ++ (cells ++ below)) (above.length + cells.length - 1)
      = above ++ (Grid.mendEdge blank cells ++ below) := by
  have hlast : cells.length - 1 < cells.length := Nat.sub_lt hcells Nat.one_pos
  have hget : (above ++ (cells ++ below))[above.length + (cells.length - 1)]? = cells.getLast? := by
    rw [List.getElem?_append_right (Nat.le_add_right ..), Nat.add_sub_cancel_left,
      List.getElem?_append_left hlast, List.getLast?_eq_getElem?]
  have hset : (above ++ (cells ++ below)).set (above.length + (cells.length - 1)) blank
      = above ++ (cells.dropLast ++ [blank] ++ below) := by
    rw [List.set_append_right _ _ (Nat.le_add_right ..), Nat.add_sub_cancel_left,
      List.set_append_left _ _ hlast, List.set_eq_take_append_cons_drop, if_pos hlast,
      Nat.sub_add_cancel hcells, List.drop_length, List.dropLast_eq_take]
  rw [mendEdge, Grid.mendEdge, Nat.add_sub_assoc hcells, hget, hset]
  cases cells.getLast? with
  | none => rfl
  | some last => dsimp only; split <;> rfl

/-- A glyph over the cells that a rotation brings to the front: the rest of the row is pushed right. -/
theorem glyph_rotated {c : Char} (hc : Text.columns c ≠ 0) (hroom : x + Text.columns c ≤ cells.length)
    (style : Style) {front rest : List Cell} (hfront : front.length = Text.columns c)
    (hrest : rest = (cells.drop x).take (cells.length - x - Text.columns c)) :
    (cells.take x ++ (front ++ rest)).take x ++ Cell.ofGlyph c style
        ++ (cells.take x ++ (front ++ rest)).drop (x + Text.columns c)
      = (cells.take x ++ Cell.ofGlyph c style ++ cells.drop x).take cells.length := by
  have hx : (cells.take x).length = x := List.length_take_of_le (by omega)
  have hbefore : (cells.take x ++ Cell.ofGlyph c style).length = x + Text.columns c := by
    rw [List.length_append, hx, Cell.length_ofGlyph hc]
  have hkept : (cells.take x ++ (front ++ rest)).drop (x + Text.columns c) = rest := by
    rw [← List.append_assoc]
    exact List.drop_left' (by rw [List.length_append, hx, hfront])
  have hfits : (cells.take x ++ Cell.ofGlyph c style).take cells.length
      = cells.take x ++ Cell.ofGlyph c style :=
    List.take_of_length_le (Nat.le_trans (Nat.le_of_eq hbefore) hroom)
  rw [List.take_left' hx, hkept, hrest, List.take_append, hbefore, hfits, Nat.sub_sub]

/-- The steps of an insertion: the rest of the row is rotated, and the cells of the glyph are stored. -/
theorem insert_row {c : Char} (above below : List Cell) (hc : Text.columns c ≠ 0)
    (hroom : x + Text.columns c ≤ cells.length) (style : Style) :
    ∃ turned stored,
      onSlice? (rotateRight? (Text.columns c)) (above ++ (cells ++ below)) (above.length + x)
          (above.length + cells.length) = some turned ∧
      store? turned (above.length + x) ⟨c, style⟩ = some stored ∧
      (List.range' 1 (Text.columns c - 1)).foldlM (fun cells further =>
          store? cells (above.length + x + further) ⟨Cell.filler, style⟩) stored
        = some (above ++
            ((cells.take x ++ Cell.ofGlyph c style ++ cells.drop x).take cells.length ++ below)) := by
  have hrest : (cells.drop x).length = cells.length - x := List.length_drop
  let front := (cells.drop x).drop (cells.length - x - Text.columns c)
  let rest := (cells.drop x).take (cells.length - x - Text.columns c)
  have hfront : front.length = Text.columns c := by
    rw [List.length_drop, hrest]
    omega
  let turned := cells.take x ++ (front ++ rest)
  have hlength : turned.length = cells.length := by
    rw [List.length_append, List.length_append, List.length_take, hfront, List.length_take, hrest]
    omega
  have hrotate : rotateRight? (Text.columns c) (cells.drop x) = some (front ++ rest) := by
    rw [rotateRight?, if_pos (by omega), hrest]
  have hx : x < turned.length := by omega
  have hfill : x + 1 + (Text.columns c - 1) ≤ (turned.set x ⟨c, style⟩).length := by
    rw [List.length_set]
    omega
  refine ⟨_, _, onSlice?_rest above below (by omega) hrotate, store?_row _ hx,
    (storeAll_row _ hfill (Nat.add_assoc ..)).trans ?_⟩
  rw [fill_set_glyph hc hx, glyph_rotated hc hroom style hfront rfl]

/-- The steps of a deletion: the rest of the row is rotated, and what comes to its end is blanked. -/
theorem delete_row (above below : List Cell) (blank : Cell) (hn : x + n ≤ cells.length) :
    ∃ turned,
      onSlice? (rotateLeft? n) (above ++ (cells ++ below)) (above.length + x)
          (above.length + cells.length) = some turned ∧
      onSlice? (fun slice => some (slice.map fun _ => blank)) turned (above.length + cells.length - n)
          (above.length + cells.length)
        = some (above ++
            (cells.take x ++ cells.drop (x + n) ++ List.replicate n blank ++ below)) := by
  have hrest : (cells.drop x).length = cells.length - x := List.length_drop
  have hrotate : rotateLeft? n (cells.drop x)
      = some (cells.drop (x + n) ++ (cells.drop x).take n) := by
    rw [rotateLeft?, if_pos (by omega), List.drop_drop]
  let kept := cells.take x ++ cells.drop (x + n)
  let gone := (cells.drop x).take n
  have hgone : gone.length = n := List.length_take_of_le (by omega)
  have hkept : kept.length = cells.length - n := by
    rw [List.length_append, List.length_take, List.length_drop]
    omega
  have hlength : (kept ++ gone).length = cells.length := by
    rw [List.length_append, hkept, hgone]
    omega
  have hblank : some (((kept ++ gone).drop (cells.length - n)).map fun _ => blank)
      = some (List.replicate n blank) := by
    rw [List.drop_left' hkept, List.map_const', hgone]
  have hstart : cells.length - n ≤ (kept ++ gone).length := by omega
  have hfill := onSlice?_rest above below (f := fun slice => some (slice.map fun _ => blank)) hstart hblank
  rw [hlength, List.take_left' hkept, ← Nat.add_sub_assoc (by omega)] at hfill
  refine ⟨_, onSlice?_rest above below (by omega) hrotate, ?_⟩
  rw [← List.append_assoc (cells.take x)]
  exact hfill

/-! ### One row of a raster -/

/-- The cells of a row of a raster, with the cells above it and below it. -/
structure RowAt (s : Raster) (y : Nat) (above cells below : List Cell) : Prop where
  cells_eq : s.cells = above ++ (cells ++ below)
  offset : above.length = y * s.width
  length : cells.length = s.width
  row_lt : y < s.height

namespace RowAt

variable {s : Raster} {y : Nat} {c : Char}

theorem place? (h : RowAt s y above cells below) (hx : x < s.width) (cell : Cell) :
    s.place? y x cell = some { s with cells := above ++ (cells.set x cell ++ below) } := by
  rw [Raster.place?, offset?, if_pos ⟨hx, h.row_lt⟩]
  dsimp only
  rw [h.cells_eq, ← h.offset, store?_row cell (h.length ▸ hx)]
  rfl

theorem set (h : RowAt s y above cells below) (x : Nat) (cell : Cell) :
    RowAt { s with cells := above ++ (cells.set x cell ++ below) } y above (cells.set x cell) below :=
  ⟨rfl, h.offset, List.length_set.trans h.length, h.row_lt⟩

/-- Steps that put the same cell in column after column. -/
theorem placeAll (h : RowAt s y above cells below) (cell : Cell) {f : Raster → Nat → Option Raster}
    {d : Nat} (hx : x + n ≤ s.width)
    (hf : ∀ cells, ∀ i < n, f { s with cells } (d + i)
      = ({ s with cells } : Raster).place? y (x + i) cell) :
    (List.range' d n).foldlM f s = some { s with cells := above ++ (fill x n cell cells ++ below) } := by
  induction n generalizing s cells x d with
  | zero =>
    rw [fill_zero, ← h.cells_eq]
    rfl
  | succ n ih =>
    have hlt : x < s.width := by omega
    have hplace : f s d = some { s with cells := above ++ (cells.set x cell ++ below) } :=
      (hf s.cells 0 (Nat.succ_pos n)).trans (h.place? hlt cell)
    rw [List.range'_succ, List.foldlM_cons, hplace, ← fill_set (h.length ▸ hlt)]
    refine ih (h.set x cell) (show x + 1 + n ≤ s.width by omega) fun cells i hi => ?_
    have hstep := hf cells (i + 1) (Nat.succ_lt_succ hi)
    rw [Nat.add_comm i 1, ← Nat.add_assoc, ← Nat.add_assoc] at hstep
    exact hstep

/-- Blanking the row of the cursor column by column. -/
theorem clearToEnd? (h : RowAt s s.row above cells below) (hcol : s.col ≤ s.width) :
    s.clearToEnd? = some { s with
      cells := above ++ (cells.take s.col ++ List.replicate (s.width - s.col) s.blank ++ below) } := by
  have hnone : cells.drop (s.col + (s.width - s.col)) = [] :=
    List.drop_of_length_le (by rw [h.length]; omega)
  have hfill := h.placeAll (f := fun s col => s.place? s.row col s.blank) (x := s.col) (d := s.col)
    (n := s.width - s.col) s.blank (by omega) fun _ _ _ => rfl
  rw [fill, hnone, List.append_nil] at hfill
  exact hfill

/-- Putting a glyph and its fillers. -/
theorem write? (h : RowAt s s.row above cells below) (hc : Text.columns c ≠ 0)
    (hroom : s.col + Text.columns c ≤ s.width) (hwidth : s.width < 65536) :
    s.write? c = some { s with
      cells := above ++ (cells.take s.col ++ Cell.ofGlyph c s.style ++
        cells.drop (s.col + Text.columns c) ++ below)
      col := s.col + Text.columns c } := by
  have hcol : s.col < s.width := by omega
  let filler (s : Raster) (further : Nat) : Option Raster := do
    let col ← sum16? s.col further
    s.place? s.row col ⟨Cell.filler, s.style⟩
  have hroom' : s.col + 1 + (Text.columns c - 1) ≤ s.width := by omega
  have hfiller (cells : List Cell) (i : Nat) (hi : i < Text.columns c - 1) :
      filler { s with cells } (1 + i)
        = ({ s with cells } : Raster).place? s.row (s.col + 1 + i) ⟨Cell.filler, s.style⟩ := by
    dsimp only [filler]
    rw [sum16?_eq (by omega), Nat.add_assoc]
    rfl
  have hfill := (h.set s.col ⟨c, s.style⟩).placeAll ⟨Cell.filler, s.style⟩ hroom' hfiller
  rw [fill_set_glyph hc (h.length ▸ hcol)] at hfill
  rw [Raster.write?, h.place? hcol]
  simp only [filler, Option.bind_eq_bind, Option.bind_some] at hfill ⊢
  rw [hfill]
  simp only [Option.bind_some, sum16?_eq (show s.col + Text.columns c < 65536 by omega)]
  rfl

/-- Inserting a glyph. -/
theorem insert? (h : RowAt s s.row above cells below) (hc : Text.columns c ≠ 0)
    (hroom : s.col + Text.columns c ≤ s.width) (hwidth : s.width < 65536) :
    s.insert? c = some (some { s with
      cells := above ++ (Grid.mendEdge s.blank
        ((cells.take s.col ++ Cell.ofGlyph c s.style ++ cells.drop s.col).take s.width) ++ below) }) := by
  have hlength := h.length
  have hrow := h.row_lt
  obtain ⟨turned, stored, hturned, hstored, hfilled⟩ :=
    insert_row above below hc (hlength ▸ hroom) s.style
  let inserted := (cells.take s.col ++ Cell.ofGlyph c s.style ++ cells.drop s.col).take cells.length
  have hinserted : inserted.length = cells.length := by
    rw [List.length_take, List.length_append, List.length_append, List.length_take,
      Cell.length_ofGlyph hc, List.length_drop]
    omega
  have hmend := mendEdge_row above below s.blank (show 0 < inserted.length by omega)
  rw [hinserted] at hmend
  rw [Raster.insert?, if_neg (by omega), sum16?_eq (by omega)]
  simp only [Option.bind_eq_bind, Option.bind_some]
  rw [if_neg (by omega), h.cells_eq, ← h.offset, ← hlength, hturned]
  simp only [Option.bind_some, hstored, hfilled,
    difference?_eq (show 1 ≤ above.length + cells.length by omega)]
  rw [hmend]
  rfl

/-- Deleting cells. -/
theorem delete? (h : RowAt s s.row above cells below) (count : Nat) :
    s.delete? count = some { s with
      cells := above ++ (cells.take s.col ++ cells.drop (s.col + min count (s.width - s.col))
        ++ List.replicate (min count (s.width - s.col)) s.blank ++ below) } := by
  have hlength := h.length
  have hrow := h.row_lt
  by_cases hedge : s.width ≤ s.col
  · have hroom : s.width - s.col = 0 := Nat.sub_eq_zero_of_le hedge
    rw [Raster.delete?, if_pos (Or.inl hedge), hroom, Nat.min_zero, Nat.add_zero,
      List.take_append_drop, List.replicate_zero, List.append_nil, ← h.cells_eq]
  · obtain ⟨turned, hturned, hblanked⟩ := delete_row above below s.blank
      (show s.col + min count (s.width - s.col) ≤ cells.length by omega)
    have hroom : above.length + cells.length - (above.length + s.col) = s.width - s.col := by omega
    rw [Raster.delete?, if_neg (by omega), h.cells_eq, ← h.offset, ← hlength]
    rw [← hlength] at hturned hblanked hroom
    simp only [difference?_eq (show above.length + s.col ≤ above.length + cells.length by omega),
      Option.bind_eq_bind, Option.bind_some, hroom, hturned,
      difference?_eq (show min count (cells.length - s.col) ≤ above.length + cells.length by omega),
      hblanked]
    rfl

/-- The text of a row. -/
theorem rowText? (h : RowAt s y above cells below) :
    s.rowText? y = some (Text.trimEnd ((cells.map Cell.char).filter (· ≠ Cell.filler))) := by
  have hslice := slice?_row above below (Nat.zero_le _) (Nat.le_refl cells.length)
  rw [List.take_length, List.drop_zero, Nat.add_zero] at hslice
  rw [Raster.rowText?, if_neg (Nat.not_le_of_lt h.row_lt), h.cells_eq, ← h.offset, ← h.length, hslice]
  rfl

/-- What a row is drawn with. -/
theorem rowSignals? (h : RowAt s y above cells below) (palette : Color.Palette) :
    s.rowSignals? palette y = some (.resetStyle ::
      Signal.ofCells palette s.background {} cells ++ [.resetStyle]) := by
  rw [Raster.rowSignals?, if_neg (Nat.not_le_of_lt h.row_lt), h.cells_eq, ← h.offset, ← h.length,
    readFrom?_row]
  rfl

end RowAt
end Raster
end ChatConsole
