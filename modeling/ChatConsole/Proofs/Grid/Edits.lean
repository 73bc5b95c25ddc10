/-
# Editing a grid

Whatever is done to a grid, every cell of it holds a blank, the filler or a character that takes a
column.  So no cell holds a control character (`safe_editAll`), and a terminal that is sent the
cells of a row sees no control sequence in them.
-/

import ChatConsole.Proofs.Flow.Frame

namespace ChatConsole
namespace Grid

/-- What can be done to a grid. -/
inductive Edit where
  | resize (width height : Nat)
  | moveTo (row col : Nat)
  | setStyle (style : Style)
  | setBackground (background : Style)
  | erase
  | clearToEnd
  | newline
  | add (c : Char)
  | addText (cs : List Char)
  | insert (c : Char)
  | delete (count : Nat)
  | pour (palette : Color.Palette) (text : String) (indent cap : Nat)

/-- The grid after an edit; a refused one changes nothing. -/
def edit (g : Grid) : Edit → Grid
  | .resize width height => g.resize width height
  | .moveTo row col => g.moveTo row col
  | .setStyle style => { g with style }
  | .setBackground background => { g with background }
  | .erase => g.erase
  | .clearToEnd => g.clearToEnd
  | .newline => g.newline
  | .add c => g.add c
  | .addText cs => g.addText cs
  | .insert c => (g.insert? c).getD g
  | .delete count => g.delete count
  | .pour palette text indent cap => (g.pour palette text indent cap).grid

/-- The grid after some edits. -/
def editAll (g : Grid) (edits : List Edit) : Grid :=
  edits.foldl edit g

/-! ### Safe cells -/

/-- Whether a cell may be sent to a terminal, or is left out. -/
def SafeCell (cell : Cell) : Prop :=
  cell.char = Cell.filler ∨ Text.columns cell.char ≠ 0

/-- Every cell may be sent to a terminal, or is left out. -/
def Safe (g : Grid) : Prop :=
  ∀ row ∈ g.rows, ∀ cell ∈ row, SafeCell cell

variable {g h : Grid} {c : Char} {style : Style}

theorem safe_blank (g : Grid) : SafeCell g.blank :=
  Or.inr (by rw [blank, Text.columns_space]; exact Nat.one_ne_zero)

theorem safe_blanks (g : Grid) (n : Nat) : ∀ cell ∈ List.replicate n g.blank, SafeCell cell := by
  intro cell hcell
  rw [List.eq_of_mem_replicate hcell]
  exact safe_blank g

theorem safe_ofGlyph (hc : Text.columns c ≠ 0) : ∀ cell ∈ Cell.ofGlyph c style, SafeCell cell := by
  intro cell hcell
  rcases List.mem_cons.1 hcell with rfl | hcell
  · exact Or.inr hc
  · rw [List.eq_of_mem_replicate hcell]
    exact Or.inl rfl

/-- What a change of the row of the cursor keeps, all rows keep. -/
theorem forall_modifyRow {P : List Cell → Prop} (hg : ∀ row ∈ g.rows, P row)
    {f : List Cell → List Cell} (hf : ∀ cells, P cells → P (f cells)) :
    ∀ row ∈ (g.modifyRow f).rows, P row := by
  intro row hrow
  obtain ⟨i, hi⟩ := List.mem_iff_getElem?.1 hrow
  rw [modifyRow, List.getElem?_modify] at hi
  obtain ⟨old, hold, rfl⟩ := Option.map_eq_some_iff.1 hi
  have hkept := hg old (List.mem_of_getElem? hold)
  split
  · exact hf old hkept
  · exact hkept

/-- A row is changed into one with safe cells. -/
theorem safe_modifyRow (hg : g.Safe) {f : List Cell → List Cell}
    (hf : ∀ cells, (∀ cell ∈ cells, SafeCell cell) → ∀ cell ∈ f cells, SafeCell cell) :
    (g.modifyRow f).Safe :=
  forall_modifyRow hg hf

/-! ### Each edit keeps all cells safe -/

theorem safe_replicate (g : Grid) (width height : Nat) :
    ∀ row ∈ List.replicate height (List.replicate width g.blank), ∀ cell ∈ row, SafeCell cell := by
  intro row hrow
  rw [List.eq_of_mem_replicate hrow]
  exact safe_blanks g width

theorem safe_new (width height : Nat) (scrolls : Bool) : (new width height scrolls).Safe :=
  safe_replicate (new width height scrolls) width height

theorem safe_clearToEnd (hg : g.Safe) : g.clearToEnd.Safe := by
  refine safe_modifyRow hg fun cells hcells => ?_
  rw [List.forall_mem_append]
  exact ⟨fun cell hcell => hcells cell (List.mem_of_mem_take hcell), safe_blanks g _⟩

theorem safe_scroll (hg : g.Safe) : g.scroll.Safe := by
  unfold scroll
  split
  · exact hg
  · rename_i hrows
    intro row hrow
    rcases List.mem_append.1 hrow with hrow | hrow
    · exact hg row (by rw [hrows]; exact List.mem_cons_of_mem _ hrow)
    · rw [List.mem_singleton.1 hrow]
      exact safe_blanks g _

theorem safe_newline (hg : g.Safe) : g.newline.Safe := by
  have hclear : ({ g.clearToEnd with col := 0 } : Grid).Safe := safe_clearToEnd hg
  unfold newline
  dsimp only
  split
  · exact hclear
  split
  · exact safe_scroll hclear
  · exact hclear

theorem safe_write (hg : g.Safe) (hc : Text.columns c ≠ 0) : (g.write c style).Safe := by
  have hmodify : (g.modifyRow fun cells => cells.take g.col ++ Cell.ofGlyph c style ++
      cells.drop (g.col + Text.columns c)).Safe := by
    refine safe_modifyRow hg fun cells hcells => ?_
    rw [List.forall_mem_append, List.forall_mem_append]
    exact ⟨⟨fun cell hcell => hcells cell (List.mem_of_mem_take hcell), safe_ofGlyph hc⟩,
      fun cell hcell => hcells cell (List.mem_of_mem_drop hcell)⟩
  exact hmodify

theorem safe_put? (hg : g.Safe) (hput : g.put? c style = some h) : h.Safe := by
  unfold put? at hput
  dsimp only at hput
  split at hput
  · cases hput
  rename_i htakes
  have hc : Text.columns c ≠ 0 := fun h0 => htakes (Or.inl h0)
  split at hput
  · cases hput
    exact safe_write hg hc
  split at hput
  · cases hput
    exact safe_write (safe_newline hg) hc
  · cases hput

theorem safe_add (hg : g.Safe) (c : Char) : (g.add c).Safe := by
  unfold add
  cases hadd : g.add? c with
  | none => exact hg
  | some h => exact safe_put? hg hadd

theorem steady_safe : Steady Safe where
  newline _ := safe_newline
  put? := safe_put?
  style := id
  erase _ := safe_replicate _ _ _

theorem safe_mendEdge {cells : List Cell} (hcells : ∀ cell ∈ cells, SafeCell cell) (g : Grid) :
    ∀ cell ∈ mendEdge g.blank cells, SafeCell cell := by
  unfold mendEdge
  split
  · split
    · rw [List.forall_mem_append]
      exact ⟨fun cell hcell => hcells cell ((List.dropLast_sublist _).subset hcell),
        List.forall_mem_singleton.2 (safe_blank g)⟩
    · exact hcells
  · exact hcells

theorem safe_insert? (hg : g.Safe) (hinsert : g.insert? c = some h) : h.Safe := by
  unfold insert? at hinsert
  dsimp only at hinsert
  split at hinsert
  · cases hinsert
  rename_i htakes
  have hc : Text.columns c ≠ 0 := fun h0 => htakes (Or.inl h0)
  cases hinsert
  refine safe_modifyRow hg fun cells hcells => safe_mendEdge ?_ g
  intro cell hcell
  replace hcell := List.mem_of_mem_take hcell
  rw [List.append_assoc, List.mem_append, List.mem_append] at hcell
  rcases hcell with hcell | hcell | hcell
  · exact hcells cell (List.mem_of_mem_take hcell)
  · exact safe_ofGlyph hc cell hcell
  · exact hcells cell (List.mem_of_mem_drop hcell)

theorem safe_delete (hg : g.Safe) (count : Nat) : (g.delete count).Safe := by
  refine safe_modifyRow hg fun cells hcells => ?_
  rw [List.forall_mem_append, List.forall_mem_append]
  exact ⟨⟨fun cell hcell => hcells cell (List.mem_of_mem_take hcell),
    fun cell hcell => hcells cell (List.mem_of_mem_drop hcell)⟩, safe_blanks g _⟩

theorem safe_edit (hg : g.Safe) (e : Edit) : (g.edit e).Safe := by
  cases e with
  | resize width height => exact safe_replicate g width height
  | erase => exact safe_replicate g g.width g.height
  | moveTo | setStyle | setBackground => exact hg
  | clearToEnd => exact safe_clearToEnd hg
  | newline => exact safe_newline hg
  | add c => exact safe_add hg c
  | addText cs => exact kept_addText steady_safe.toKept hg cs
  | insert c =>
    rw [edit]
    cases hinsert : g.insert? c with
    | none => exact hg
    | some h => exact safe_insert? hg hinsert
  | delete count => exact safe_delete hg count
  | pour palette text indent cap =>
    exact steady_pour g palette text indent cap steady_safe hg

/-- **Whatever is done to a grid, its cells are safe to send.** -/
theorem safe_editAll (hg : g.Safe) (edits : List Edit) : (g.editAll edits).Safe := by
  unfold editAll
  induction edits generalizing g with
  | nil => exact hg
  | cons e edits ih => exact ih (safe_edit hg e)

end Grid
end ChatConsole
