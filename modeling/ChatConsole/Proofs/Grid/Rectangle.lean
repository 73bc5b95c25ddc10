/-
# Grids are rectangles

Whatever is done to a grid, each of its rows has as many cells as the grid has columns, and the cursor
stays in its rows and no further than behind its last column (`rectangular_editAll`).
-/

import ChatConsole.Proofs.Grid.Edits

namespace ChatConsole
namespace Grid

/-- All rows are of the width of the grid, and the cursor is in one of them or right behind it. -/
structure Rectangular (g : Grid) : Prop where
  rows : ∀ row ∈ g.rows, row.length = g.width
  row_le : g.row ≤ g.height - 1
  col_le : g.col ≤ g.width

variable {g h : Grid} {c : Char} {style : Style}

/-- The cursor of a grid with rows is in one of them. -/
theorem Rectangular.row_lt (hg : g.Rectangular) (hh : g.height ≠ 0) : g.row < g.height := by
  have hrow := hg.row_le
  omega

theorem rectangular_resize (g : Grid) (width height : Nat) : (g.resize width height).Rectangular where
  rows := by
    intro row hrow
    rw [List.eq_of_mem_replicate hrow]
    exact List.length_replicate
  row_le := Nat.zero_le _
  col_le := Nat.zero_le _

theorem rectangular_new (width height : Nat) (scrolls : Bool) :
    (new width height scrolls).Rectangular :=
  rectangular_resize (new width height scrolls) width height

/-- A row is changed into one of the same length. -/
theorem Rectangular.modifyRow (hg : g.Rectangular) {f : List Cell → List Cell}
    (hf : ∀ cells, cells.length = g.width → (f cells).length = g.width) :
    (g.modifyRow f).Rectangular where
  rows := forall_modifyRow hg.rows hf
  row_le := by
    rw [(SameFrame.modifyRow g f).height]
    exact hg.row_le
  col_le := hg.col_le

/-- The column of the cursor may be any within the width. -/
theorem Rectangular.setCol (hg : g.Rectangular) {col : Nat} (hcol : col ≤ g.width) :
    ({ g with col } : Grid).Rectangular :=
  ⟨hg.rows, hg.row_le, hcol⟩

theorem Rectangular.moveTo (hg : g.Rectangular) (row col : Nat) : (g.moveTo row col).Rectangular where
  rows := hg.rows
  row_le := Nat.min_le_right ..
  col_le := Nat.min_le_right ..

theorem Rectangular.clearToEnd (hg : g.Rectangular) : g.clearToEnd.Rectangular := by
  have hcol := hg.col_le
  refine hg.modifyRow fun cells hcells => ?_
  rw [List.length_append, List.length_take, List.length_replicate]
  omega

theorem Rectangular.scroll (hg : g.Rectangular) : g.scroll.Rectangular := by
  have hframe := SameFrame.scroll g
  have hsame : g.scroll.row = g.row ∧ g.scroll.col = g.col := by
    unfold Grid.scroll
    split <;> exact ⟨rfl, rfl⟩
  refine ⟨?_, ?_, ?_⟩
  · unfold Grid.scroll
    split
    · exact hg.rows
    · rename_i hrows
      refine List.forall_mem_append.2 ⟨fun row hrow => hg.rows row ?_, ?_⟩
      · rw [hrows]
        exact List.mem_cons_of_mem _ hrow
      · exact List.forall_mem_singleton.2 List.length_replicate
  · rw [hframe.height, hsame.1]
    exact hg.row_le
  · rw [hframe.width, hsame.2]
    exact hg.col_le

theorem Rectangular.newline (hg : g.Rectangular) : g.newline.Rectangular := by
  have hclear : ({ g.clearToEnd with col := 0 } : Grid).Rectangular :=
    hg.clearToEnd.setCol (Nat.zero_le _)
  unfold Grid.newline
  dsimp only
  split
  · rename_i hnext
    exact ⟨hclear.rows, Nat.le_sub_one_of_lt hnext, hclear.col_le⟩
  split
  · exact hclear.scroll
  · exact hclear

theorem col_newline (g : Grid) : g.newline.col = 0 := by
  unfold Grid.newline
  dsimp only
  split
  · rfl
  split
  · unfold Grid.scroll
    split <;> rfl
  · rfl

/-- A glyph is written over as many cells as it takes. -/
theorem length_write {cells : List Cell} {col : Nat} (hc : Text.columns c ≠ 0)
    (hroom : col + Text.columns c ≤ cells.length) :
    (cells.take col ++ Cell.ofGlyph c style ++ cells.drop (col + Text.columns c)).length
      = cells.length := by
  rw [List.length_append, List.length_append, List.length_take, Cell.length_ofGlyph hc,
    List.length_drop]
  omega

theorem Rectangular.write (hg : g.Rectangular) (hc : Text.columns c ≠ 0)
    (hroom : g.col + Text.columns c ≤ g.width) : (g.write c style).Rectangular := by
  refine Rectangular.setCol (hg.modifyRow fun cells hcells => ?_) hroom
  rw [length_write hc (hcells ▸ hroom), hcells]

theorem Rectangular.put? (hg : g.Rectangular) (hput : g.put? c style = some h) : h.Rectangular := by
  unfold Grid.put? at hput
  dsimp only at hput
  split at hput
  · cases hput
  rename_i htakes
  have hc : Text.columns c ≠ 0 := fun hzero => htakes (Or.inl hzero)
  have hfits : Text.columns c ≤ g.width :=
    Nat.le_of_not_lt fun hlt => htakes (Or.inr (Or.inl hlt))
  split at hput
  · rename_i hroom
    cases hput
    exact hg.write hc hroom
  split at hput
  · cases hput
    refine hg.newline.write hc ?_
    rw [col_newline, (SameFrame.newline g).width, Nat.zero_add]
    exact hfits
  · cases hput

theorem steady_rectangular : Steady Rectangular where
  newline _ hg := hg.newline
  put? hg hput := hg.put? hput
  style hg := ⟨hg.rows, hg.row_le, hg.col_le⟩
  erase _ := rectangular_resize _ _ _

theorem length_mendEdge (blank : Cell) (cells : List Cell) :
    (mendEdge blank cells).length = cells.length := by
  unfold mendEdge
  split
  · rename_i last hlast
    have hcells : 0 < cells.length := by
      cases cells with
      | nil => cases hlast
      | cons => exact Nat.succ_pos _
    split
    · rw [List.length_append, List.length_dropLast, List.length_singleton]
      omega
    · rfl
  · rfl

theorem Rectangular.insert? (hg : g.Rectangular) (hinsert : g.insert? c = some h) : h.Rectangular := by
  unfold Grid.insert? at hinsert
  dsimp only at hinsert
  split at hinsert
  · cases hinsert
  cases hinsert
  refine hg.modifyRow fun cells hcells => ?_
  rw [length_mendEdge, List.length_take, List.length_append, List.length_append, List.length_take,
    List.length_drop]
  omega

theorem Rectangular.delete (hg : g.Rectangular) (count : Nat) : (g.delete count).Rectangular := by
  have hcol := hg.col_le
  refine hg.modifyRow fun cells hcells => ?_
  rw [List.length_append, List.length_append, List.length_take, List.length_drop,
    List.length_replicate]
  omega

theorem Rectangular.edit (hg : g.Rectangular) (e : Edit) : (g.edit e).Rectangular := by
  cases e with
  | resize width height => exact rectangular_resize g width height
  | moveTo row col => exact hg.moveTo row col
  | setStyle | setBackground => exact ⟨hg.rows, hg.row_le, hg.col_le⟩
  | erase => exact rectangular_resize g g.width g.height
  | clearToEnd => exact hg.clearToEnd
  | newline => exact hg.newline
  | add c =>
    rw [Grid.edit, add]
    cases hadd : g.add? c with
    | none => exact hg
    | some h => exact hg.put? hadd
  | addText cs => exact kept_addText steady_rectangular.toKept hg cs
  | insert c =>
    rw [Grid.edit]
    cases hinsert : g.insert? c with
    | none => exact hg
    | some h => exact hg.insert? hinsert
  | delete count => exact hg.delete count
  | pour palette text indent cap =>
    exact steady_pour g palette text indent cap steady_rectangular hg

/-- **Whatever is done to a grid, it stays a rectangle with the cursor in it.** -/
theorem rectangular_editAll (hg : g.Rectangular) (edits : List Edit) :
    (g.editAll edits).Rectangular := by
  unfold editAll
  induction edits generalizing g with
  | nil => exact hg
  | cons e edits ih => exact ih (hg.edit e)

end Grid
end ChatConsole
