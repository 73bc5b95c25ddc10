/-
# No access out of range

The raster of a rectangle holds its rows one after another (`exists_rowAt`).  So what is done in a row of
the vector is done in that row of the grid, and each operation of the raster is the operation of the grid
(`edit?_ofGrid`): no offset, slice or rotation is out of range, and no row or column number overflows on a
grid of at most 65533 columns.  `run_inRange` says this of runs.
-/

import ChatConsole.Proofs.Grid.RasterRow

namespace ChatConsole
namespace Raster

variable {g : Grid} {c : Char} {y : Nat}

/-! ### The rows of a rectangle in its vector -/

theorem length_flatten {rows : List (List Cell)} {width : Nat}
    (h : ∀ row ∈ rows, row.length = width) : rows.flatten.length = rows.length * width := by
  induction rows with
  | nil => exact (Nat.zero_mul width).symm
  | cons row rows ih =>
    obtain ⟨hrow, hrows⟩ := List.forall_mem_cons.1 h
    rw [List.flatten_cons, List.length_append, hrow, ih hrows, List.length_cons, Nat.succ_mul,
      Nat.add_comm]

/-- A row of a rectangle is a part of its vector, and changing the row changes that part. -/
theorem exists_rowAt (hg : g.Rectangular) (hy : y < g.height) :
    ∃ above cells below, RowAt (ofGrid g) y above cells below ∧ g.rows[y]? = some cells ∧
      ∀ f, ofGrid { g with rows := g.rows.modify y f }
        = { ofGrid g with cells := above ++ (f cells ++ below) } := by
  have hsplit : g.rows = g.rows.take y ++ g.rows[y] :: g.rows.drop (y + 1) := by
    rw [← List.drop_eq_getElem_cons hy, List.take_append_drop]
  have hlength : (g.rows.take y).length = y := List.length_take_of_le (Nat.le_of_lt hy)
  refine ⟨(g.rows.take y).flatten, g.rows[y], (g.rows.drop (y + 1)).flatten, ⟨?_, ?_, ?_, hy⟩,
    List.getElem?_eq_getElem hy, fun f => ?_⟩
  · rw [← List.flatten_cons, ← List.flatten_append, ← hsplit]
    rfl
  · rw [length_flatten fun row hrow => hg.rows row (List.mem_of_mem_take hrow), hlength]
    rfl
  · exact hg.rows _ (List.getElem_mem hy)
  · have hmodify : g.rows.modify y f = g.rows.take y ++ f g.rows[y] :: g.rows.drop (y + 1) := by
      rw [List.modify_eq_take_drop, List.drop_eq_getElem_cons hy, List.modifyHead_cons]
    have hheight : ({ g with rows := g.rows.modify y f } : Grid).height = g.height :=
      List.length_modify ..
    rw [ofGrid, hheight, hmodify, List.flatten_append, List.flatten_cons]
    rfl

/-- A grid without rows has none to change. -/
theorem modifyRow_of_height_eq_zero (hh : g.height = 0) (f : List Cell → List Cell) :
    g.modifyRow f = g := by
  have hrows : g.rows = [] := List.eq_nil_of_length_eq_zero hh
  rw [Grid.modifyRow, hrows, List.modify_nil, ← hrows]

/-! ### New lines -/

theorem clearToEnd?_ofGrid (hg : g.Rectangular) :
    (ofGrid g).clearToEnd? = some (ofGrid g.clearToEnd) := by
  by_cases hh : g.height = 0
  · -- Without rows there is no cell to put a blank in.
    have hplace (x : Nat) : (ofGrid g).place? (ofGrid g).row x (ofGrid g).blank = some (ofGrid g) := by
      rw [place?, offset?, if_neg (by simp [hh])]
    have hloop (xs : List Nat) :
        xs.foldlM (fun s col => s.place? s.row col s.blank) (ofGrid g) = some (ofGrid g) := by
      induction xs with
      | nil => rfl
      | cons x xs ih => rw [List.foldlM_cons, hplace]; exact ih
    rw [clearToEnd?, hloop, Grid.clearToEnd, modifyRow_of_height_eq_zero hh]
  · obtain ⟨above, cells, below, hrow, -, hmodify⟩ := exists_rowAt hg (hg.row_lt hh)
    rw [RowAt.clearToEnd? (s := ofGrid g) hrow hg.col_le, Grid.clearToEnd, Grid.modifyRow, hmodify]
    rfl

theorem scroll?_ofGrid (hg : g.Rectangular) : (ofGrid g).scroll? = some (ofGrid g.scroll) := by
  cases hrows : g.rows with
  | nil =>
    have hscroll : g.scroll = g := by rw [Grid.scroll, hrows]
    have hcells : (ofGrid g).cells = [] := by rw [ofGrid, hrows]; rfl
    rw [scroll?, hcells, hscroll]
    split
    · rename_i hwidth
      have hdrain : drain? (ofGrid g).width [] = some [] := by
        rw [drain?, if_pos hwidth, List.drop_nil]
      have hblanks : List.replicate (ofGrid g).width (ofGrid g).blank = [] := by
        rw [Nat.eq_zero_of_le_zero hwidth, List.replicate_zero]
      rw [hdrain, hblanks]
      exact congrArg some (congrArg (fun cells => { ofGrid g with cells }) hcells.symm)
    · rfl
  | cons top rest =>
    have htop : top.length = g.width := hg.rows top (hrows ▸ List.mem_cons_self)
    have hcells : (ofGrid g).cells = top ++ rest.flatten := by
      rw [ofGrid, hrows, List.flatten_cons]
    have hfits : (ofGrid g).width ≤ (top ++ rest.flatten).length := by
      rw [List.length_append, htop]
      exact Nat.le_add_right ..
    have hdrain : drain? (ofGrid g).width (top ++ rest.flatten) = some rest.flatten := by
      have hwidth : (ofGrid g).width = top.length := htop.symm
      rw [drain?, if_pos hfits, hwidth, List.drop_left]
    have hscroll : ofGrid g.scroll
        = { ofGrid g with cells := rest.flatten ++ List.replicate g.width g.blank } := by
      have hheight : g.scroll.height = g.height := (Grid.SameFrame.scroll g).height
      rw [ofGrid, hheight]
      simp only [Grid.scroll, hrows, List.flatten_append, List.flatten_cons, List.flatten_nil,
        List.append_nil]
      rfl
    rw [scroll?, hcells, if_pos hfits, hdrain, hscroll]
    rfl

theorem nextRow?_ofGrid (hg : g.Rectangular) (hrow : g.row + 1 < 65536) :
    (ofGrid g).nextRow?
      = some (ofGrid (if g.row + 1 < g.height then { g with row := g.row + 1 }
          else if g.scrolls then g.scroll else g)) := by
  rw [nextRow?, ofGrid_row, sum16?_eq hrow, ofGrid_height, ofGrid_scrolls]
  simp only [Option.bind_eq_bind, Option.bind_some]
  split
  · rfl
  split
  · exact scroll?_ofGrid hg
  · rfl

theorem newline?_ofGrid (hg : g.Rectangular) (hheight : g.height ≤ 65535) :
    (ofGrid g).newline? = some (ofGrid g.newline) := by
  have hrow_le := hg.row_le
  have hrow : g.row + 1 < 65536 := by omega
  rw [newline?, clearToEnd?_ofGrid hg]
  exact nextRow?_ofGrid (hg.clearToEnd.setCol (Nat.zero_le _)) hrow

/-! ### Glyphs -/

theorem write?_ofGrid (hg : g.Rectangular) (hwidth : g.width ≤ 65533) (hh : g.height ≠ 0)
    (hc : Text.columns c ≠ 0) (hroom : g.col + Text.columns c ≤ g.width) :
    (ofGrid g).write? c = some (ofGrid (g.write c g.style)) := by
  obtain ⟨above, cells, below, hrow, -, hmodify⟩ := exists_rowAt hg (hg.row_lt hh)
  rw [RowAt.write? (s := ofGrid g) hrow hc hroom (show g.width < 65536 by omega)]
  have hrows := hmodify fun cells =>
    cells.take g.col ++ Cell.ofGlyph c g.style ++ cells.drop (g.col + Text.columns c)
  exact congrArg (fun s : Raster => some { s with col := g.col + Text.columns c }) hrows.symm

/-- The column behind a glyph is a number of sixteen bits, also when the glyph does not fit. -/
theorem sum16?_columns (hg : g.Rectangular) (hwidth : g.width ≤ 65533) (c : Char) :
    sum16? g.col (Text.columns c) = some (g.col + Text.columns c) := by
  have hcol := hg.col_le
  have hcolumns := Text.columns_le_two c
  exact sum16?_eq (by omega)

/-- With one column more, a wide glyph behind the last of them is past sixteen bits. -/
example : sum16? 65534 (Text.columns '日') = none := by decide +kernel

theorem add?_ofGrid (hg : g.Rectangular) (hwidth : g.width ≤ 65533) (hheight : g.height ≤ 65535) :
    (ofGrid g).add? c = some ((g.add? c).map ofGrid) := by
  rw [add?, Grid.add?, Grid.put?, ofGrid_width, ofGrid_height]
  split
  · rfl
  rename_i htakes
  have hc : Text.columns c ≠ 0 := fun hzero => htakes (Or.inl hzero)
  have hfits : Text.columns c ≤ g.width :=
    Nat.le_of_not_lt fun hlt => htakes (Or.inr (Or.inl hlt))
  have hh : g.height ≠ 0 := fun hzero => htakes (Or.inr (Or.inr hzero))
  rw [ofGrid_col, sum16?_columns hg hwidth, ofGrid_scrolls]
  simp only [Option.bind_eq_bind, Option.bind_some]
  split
  · rename_i hroom
    rw [write?_ofGrid hg hwidth hh hc hroom]
    rfl
  split
  · have hframe := Grid.SameFrame.newline g
    have hroom : g.newline.col + Text.columns c ≤ g.newline.width := by
      rw [Grid.col_newline, hframe.width, Nat.zero_add]
      exact hfits
    rw [newline?_ofGrid hg hheight, ← Grid.style_newline g]
    simp only [Option.bind_some]
    rw [write?_ofGrid hg.newline (hframe.width ▸ hwidth) (hframe.height ▸ hh) hc hroom]
    rfl
  · rfl

theorem addText?_ofGrid (hg : g.Rectangular) (hwidth : g.width ≤ 65533) (hheight : g.height ≤ 65535)
    (cs : List Char) : (ofGrid g).addText? cs = some (ofGrid (g.addText cs)) := by
  unfold addText? Grid.addText
  induction cs generalizing g with
  | nil => rfl
  | cons c cs ih =>
    rw [List.foldlM_cons, List.foldl_cons, add?_ofGrid hg hwidth hheight, Grid.add]
    cases hadd : g.add? c with
    | none => exact ih hg hwidth hheight
    | some h =>
      have hframe := Grid.SameFrame.put? hadd
      exact ih (hg.put? hadd) (hframe.width ▸ hwidth) (hframe.height ▸ hheight)

theorem insert?_ofGrid (hg : g.Rectangular) (hwidth : g.width ≤ 65533) :
    (ofGrid g).insert? c = some ((g.insert? c).map ofGrid) := by
  by_cases htakes : Text.columns c = 0 ∨ g.height = 0
  · have hnone : g.insert? c = none := if_pos (htakes.imp_right Or.inl)
    rw [insert?, ofGrid_height, if_pos htakes, hnone]
    rfl
  by_cases hroom : g.col + Text.columns c > g.width
  · have hnone : g.insert? c = none := if_pos (Or.inr (Or.inr hroom))
    rw [insert?, ofGrid_height, if_neg htakes, ofGrid_col, sum16?_columns hg hwidth, hnone]
    exact if_pos hroom
  · obtain ⟨hc, hh⟩ := not_or.1 htakes
    have hsome : ¬(Text.columns c = 0 ∨ g.height = 0 ∨ g.col + Text.columns c > g.width) :=
      fun h => h.elim hc fun h => h.elim hh hroom
    obtain ⟨above, cells, below, hrow, -, hmodify⟩ := exists_rowAt hg (hg.row_lt hh)
    rw [RowAt.insert? (s := ofGrid g) hrow hc (Nat.le_of_not_lt hroom)
      (show g.width < 65536 by omega), Grid.insert?,
      if_neg hsome, Option.map_some, Grid.modifyRow, hmodify]
    rfl

theorem delete?_ofGrid (hg : g.Rectangular) (count : Nat) :
    (ofGrid g).delete? count = some (ofGrid (g.delete count)) := by
  by_cases hh : g.height = 0
  · rw [delete?, ofGrid_height, if_pos (Or.inr hh), Grid.delete, modifyRow_of_height_eq_zero hh]
  · obtain ⟨above, cells, below, hrow, -, hmodify⟩ := exists_rowAt hg (hg.row_lt hh)
    rw [RowAt.delete? (s := ofGrid g) hrow, Grid.delete, Grid.modifyRow, hmodify]
    rfl

/-! ### Operations and runs -/

theorem length_cells (hg : g.Rectangular) : (ofGrid g).cells.length = g.height * g.width :=
  length_flatten hg.rows

theorem resize_ofGrid (g : Grid) (width height : Nat) :
    (ofGrid g).resize width height = ofGrid (g.resize width height) := by
  simp only [resize, ofGrid, Grid.height_resize]
  simp only [Grid.resize, List.flatten_replicate_replicate, Nat.mul_comm height width]
  rfl

theorem new_eq_ofGrid (width height : Nat) (scrolls : Bool) :
    new width height scrolls = ofGrid (Grid.new width height scrolls) := by
  have hheight : (Grid.new width height scrolls).height = height := List.length_replicate
  rw [new, ofGrid, hheight]
  simp only [Grid.new, List.flatten_replicate_replicate, Nat.mul_comm height width]

theorem erase_ofGrid (hg : g.Rectangular) : (ofGrid g).erase = ofGrid g.erase := by
  have hcells : (ofGrid g).cells.map (fun _ => (ofGrid g).blank)
      = List.replicate (g.width * g.height) g.blank := by
    rw [List.map_const', length_cells hg, Nat.mul_comm, blank_ofGrid]
  rw [erase, hcells, Grid.erase, ← resize_ofGrid]
  rfl

/-- **An operation of the raster is in range, and it is the edit of the grid.** -/
theorem edit?_ofGrid (hg : g.Rectangular) {op : Op} (hlarge : ¬TooLarge (ofGrid g) op) :
    (ofGrid g).edit? op = some (ofGrid (g.edit op.edit)) := by
  obtain ⟨hhigh, hwide⟩ := not_or.1 hlarge
  have hheight : g.height ≤ 65535 := Nat.le_of_not_lt hhigh
  have hwidth (hputs : op.putsGlyphs) : g.width ≤ 65533 :=
    Nat.le_of_not_lt fun hlt => hwide ⟨hputs, hlt⟩
  cases op with
  | resize width height => exact congrArg some (resize_ofGrid g width height)
  | moveTo | setStyle | setBackground => rfl
  | erase => exact congrArg some (erase_ofGrid hg)
  | clearToEnd => exact clearToEnd?_ofGrid hg
  | newline => exact newline?_ofGrid hg hheight
  | add c =>
    rw [edit?, add?_ofGrid hg (hwidth rfl) hheight, Op.edit, Grid.edit, Grid.add]
    cases g.add? c <;> rfl
  | addText cs => exact addText?_ofGrid hg (hwidth rfl) hheight cs
  | insert c =>
    rw [edit?, insert?_ofGrid hg (hwidth rfl), Op.edit, Grid.edit]
    cases g.insert? c <;> rfl
  | delete count => exact delete?_ofGrid hg count

theorem rowText?_ofGrid (hg : g.Rectangular) (y : Nat) :
    (ofGrid g).rowText? y = some (g.rowText y) := by
  by_cases hy : y < g.height
  · obtain ⟨above, cells, below, hrow, hcells, -⟩ := exists_rowAt hg hy
    rw [hrow.rowText?, Grid.rowText, hcells]
    rfl
  · have hnone : g.rows[y]? = none := List.getElem?_eq_none (Nat.le_of_not_lt hy)
    rw [rowText?, ofGrid_height, if_pos (Nat.le_of_not_lt hy), Grid.rowText, hnone]
    rfl

theorem rowSignals?_ofGrid (hg : g.Rectangular) (palette : Color.Palette) (y : Nat) :
    (ofGrid g).rowSignals? palette y = some (g.rowSignals palette y) := by
  by_cases hy : y < g.height
  · obtain ⟨above, cells, below, hrow, hcells, -⟩ := exists_rowAt hg hy
    rw [hrow.rowSignals?, Grid.rowSignals, hcells]
    rfl
  · have hnone : g.rows[y]? = none := List.getElem?_eq_none (Nat.le_of_not_lt hy)
    rw [rowSignals?, ofGrid_height, if_pos (Nat.le_of_not_lt hy), Grid.rowSignals, hnone]

/-- Operations are in range one after another, up to the first one for which the grid is too large. -/
theorem run_ofGrid (hg : g.Rectangular) (ops : List Op) :
    ∃ done rest h, ops = done ++ rest ∧ h = g.editAll (done.map Op.edit) ∧
      run (ofGrid g) done = some (ofGrid h) ∧ ∀ op ∈ rest.head?, TooLarge (ofGrid h) op := by
  induction ops generalizing g with
  | nil => exact ⟨[], [], g, rfl, rfl, rfl, fun op hop => nomatch hop⟩
  | cons op ops ih =>
    by_cases hlarge : TooLarge (ofGrid g) op
    · refine ⟨[], op :: ops, g, rfl, rfl, rfl, fun first hfirst => ?_⟩
      obtain rfl := Option.some.inj hfirst
      exact hlarge
    · obtain ⟨done, rest, h, rfl, hh, hrun, hend⟩ := ih (hg.edit op.edit)
      refine ⟨op :: done, rest, h, rfl, hh, ?_, hend⟩
      rw [run, List.foldlM_cons, edit?_ofGrid hg hlarge]
      exact hrun

/-- **Whatever is done to a raster, nothing is out of range.**  Any operations run to their end, unless one
of them comes to a raster that is too large for it: one that is to take a glyph and has more than 65533
columns, or one with more rows than sixteen bits count.  Wherever they end, the vector has width times
height cells, the cursor is in a row and no further than right behind it, and every row can be read. -/
theorem run_inRange (width height : Nat) (scrolls : Bool) (ops : List Op) :
    ∃ done rest s, ops = done ++ rest ∧ run (new width height scrolls) done = some s ∧
      (∀ op ∈ rest.head?, TooLarge s op) ∧
      s.cells.length = s.width * s.height ∧ s.row ≤ s.height - 1 ∧ s.col ≤ s.width ∧
      ∃ g : Grid, g = (Grid.new width height scrolls).editAll (done.map Op.edit) ∧ s = ofGrid g ∧
        ∀ y, s.rowText? y = some (g.rowText y) ∧
          ∀ palette, s.rowSignals? palette y = some (g.rowSignals palette y) := by
  have hnew := Grid.rectangular_new width height scrolls
  obtain ⟨done, rest, g, hops, hdone, hrun, hend⟩ := run_ofGrid hnew ops
  have hg : g.Rectangular := hdone ▸ Grid.rectangular_editAll hnew _
  rw [← new_eq_ofGrid] at hrun
  exact ⟨done, rest, ofGrid g, hops, hrun, hend, (length_cells hg).trans (Nat.mul_comm ..), hg.row_le,
    hg.col_le, g, hdone, rfl,
    fun y => ⟨rowText?_ofGrid hg y, fun palette => rowSignals?_ofGrid hg palette y⟩⟩

end Raster
end ChatConsole
