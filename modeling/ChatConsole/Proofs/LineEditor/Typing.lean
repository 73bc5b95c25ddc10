/-
# What is typed is shown

Whatever is done with an editor, its panel stays one row with the cursor on it (`seated_edit`), also where
a wide glyph has been cut in two.  So a character that is inserted where it has room stands just left of
the cursor, whatever there is on its right (`exists_squeeze?_row`).  A narrow character always has room.
A wide one has none if the row turns and the stretch that is drawn leaves one column only: the text takes
the character, and nothing is to be seen of it (`typed_is_shown`).
-/

import ChatConsole.Proofs.LineEditor.Unsubmitted
import Mathlib.Data.List.Basic

namespace ChatConsole
namespace LineEditor

open Cell (Whole)

variable {σ : Type} [Client σ] {cols : Nat} {left right : List Cell} {c : Char} {g : Grid}
  {e f : LineEditor}

/-! ### A row with the cursor on it -/

/-- The grid is a row with some cells left of the cursor and from the cursor on. -/
def OnRow (cols : Nat) (g : Grid) : Prop :=
  ∃ left right, left.length ≤ cols ∧ g = row cols left right

theorem onRow (hleft : left.length ≤ cols) (right : List Cell) : OnRow cols (row cols left right) :=
  ⟨left, right, hleft, rfl⟩

/-- A glyph without room is not inserted. -/
theorem squeeze?_row_of_lt (h : cols < left.length + columns c) :
    squeeze? (row cols left right) c = none := by
  rw [columns_eq] at h
  have hfull : (row cols left right).col + Text.columns (shownAs c).1 > (row cols left right).width := h
  unfold squeeze? Grid.insert?
  dsimp only
  rw [if_pos (Or.inr (Or.inr hfull)), Option.map_none]

/-- Only the last cell of a row is ever mended. -/
theorem mendEdge_append_singleton (blank : Cell) (cells : List Cell) (last : Cell) :
    Grid.mendEdge blank (cells ++ [last])
      = cells ++ [if Text.columns last.char > 1 then blank else last] := by
  rw [Grid.mendEdge, List.getLast?_concat]
  dsimp only
  split
  · rw [List.dropLast_concat]
  · rfl

/-- Mending the edge of a row leaves a glyph that is on it, and what is left of the glyph. -/
theorem exists_mendEdge_fill {g : Grid} (hc : columns c ≠ 0) (hroom : left.length + columns c ≤ g.width)
    (right : List Cell) :
    ∃ right', Grid.mendEdge g.blank (g.fill (left ++ (ink c ++ right)))
      = g.fill (left ++ (ink c ++ right')) := by
  have hleft : (left ++ ink c).length ≤ g.width := length_append_ink left c ▸ hroom
  have hcells : g.fill (left ++ (ink c ++ right))
      = left ++ ink c ++ right.takeD (g.width - (left ++ ink c).length) g.blank := by
    rw [← List.append_assoc, Grid.fill_append hleft]
  have hlength : (left ++ ink c ++ right.takeD (g.width - (left ++ ink c).length) g.blank).length
      = g.width := by
    rw [← hcells, Grid.fill, List.takeD_length]
  rw [hcells]
  rcases List.eq_nil_or_concat (right.takeD (g.width - (left ++ ink c).length) g.blank)
    with hnone | ⟨cells, last, hlast⟩
  · -- the last cell of the row is the last one of the glyph
    rw [hnone, List.append_nil] at hlength ⊢
    have hink : ink c ≠ [] := fun hnil => hc (by rw [← length_ink, hnil, List.length_nil])
    refine ⟨[], ?_⟩
    rw [List.append_nil, Grid.fill_of_length_eq hlength]
    refine Grid.mendEdge_of_edge fun last hlast => ?_
    rw [List.getLast?_append_of_ne_nil _ hink] at hlast
    exact (whole_ink c).columns_getLast hlast
  · rw [hlast, List.concat_eq_append, ← List.append_assoc] at hlength ⊢
    refine ⟨cells ++ [if Text.columns last.char > 1 then g.blank else last], ?_⟩
    rw [mendEdge_append_singleton, ← List.append_assoc left, ← List.append_assoc,
      Grid.fill_of_length_eq]
    rw [← hlength]
    simp only [List.length_append, List.length_singleton]

/-- A glyph with room is inserted at the cursor, whatever there is on its right. -/
theorem exists_squeeze?_row (hc : columns c ≠ 0) (hroom : left.length + columns c ≤ cols)
    (right : List Cell) :
    ∃ right', squeeze? (row cols left right) c = some (row cols left (ink c ++ right')) := by
  obtain ⟨right', hmend⟩ : ∃ right', Grid.mendEdge {} ((left ++ (ink c ++ right)).takeD cols {})
      = (left ++ (ink c ++ right')).takeD cols {} :=
    exists_mendEdge_fill (g := Grid.new cols 1 false) hc hroom right
  exact ⟨right', squeeze?_row hc hroom hmend⟩

namespace OnRow

theorem erase_eq (h : OnRow cols g) : g.erase = row cols [] [] := by
  obtain ⟨left, right, -, rfl⟩ := h
  exact erase_row

theorem moveTo (h : OnRow cols g) (col : Nat) : OnRow cols (g.moveTo g.row col) := by
  obtain ⟨left, right, -, rfl⟩ := h
  let cells := (left ++ right).takeD cols {}
  let n := min col cols
  have hn : n ≤ cols := Nat.min_le_right ..
  have hlength : (cells.take n).length = n := by
    rw [List.length_take, List.takeD_length]
    exact Nat.min_eq_left hn
  have hsame : (Grid.new cols 1 false).fill (left ++ right)
      = (Grid.new cols 1 false).fill (cells.take n ++ cells.drop n) := by
    rw [List.take_append_drop]
    exact (Grid.fill_of_length_eq (List.takeD_length ..)).symm
  have hmoved : (row cols left right).moveTo (row cols left right).row (cells.take n).length
      = row cols (cells.take n) (cells.drop n) :=
    Grid.moveTo_page height_pos hsame (hlength.symm ▸ hn)
  have hcol : (row cols left right).moveTo (row cols left right).row col
      = (row cols left right).moveTo (row cols left right).row n := by
    simp only [Grid.moveTo, row_width, n, Nat.min_assoc, Nat.min_self]
  rw [hcol, ← hlength, hmoved]
  exact onRow (hlength.symm ▸ hn) _

theorem put (h : OnRow cols g) (c : Char) : OnRow cols (put g c) := by
  obtain ⟨left, right, hleft, rfl⟩ := h
  by_cases hroom : left.length + columns c ≤ cols
  · rw [put_row hroom]
    exact onRow (length_append_ink left c ▸ hroom) _
  · rw [put_row_of_lt (Nat.lt_of_not_le hroom)]
    exact onRow hleft right

theorem putWhile (h : OnRow cols g) (cs : List Char) : OnRow cols (putWhile g cs) := by
  induction cs generalizing g with
  | nil => exact h
  | cons c cs ih =>
    rw [LineEditor.putWhile]
    split
    · exact h
    · exact ih (h.put c)

theorem squeeze? (h : OnRow cols g) {g' : Grid} (hsqueeze : squeeze? g c = some g') :
    OnRow cols g' := by
  obtain ⟨left, right, hleft, rfl⟩ := h
  by_cases hc : columns c = 0
  · rw [squeeze?_of_zero _ hc] at hsqueeze
    cases hsqueeze
  by_cases hroom : left.length + columns c ≤ cols
  · obtain ⟨right', hsome⟩ := exists_squeeze?_row hc hroom right
    obtain rfl := Option.some.inj (hsome.symm.trans hsqueeze)
    exact onRow hleft _
  · rw [squeeze?_row_of_lt (Nat.lt_of_not_le hroom)] at hsqueeze
    cases hsqueeze

theorem delete (h : OnRow cols g) (count : Nat) : OnRow cols (g.delete count) := by
  obtain ⟨left, right, hleft, rfl⟩ := h
  have hdelete : (row cols left right).delete count = row cols left _ :=
    Grid.delete_page height_pos hleft count
  rw [hdelete]
  exact onRow hleft _

theorem clearToEnd (h : OnRow cols g) : OnRow cols g.clearToEnd := by
  obtain ⟨left, right, hleft, rfl⟩ := h
  have hclear : (row cols left right).clearToEnd = row cols left [] :=
    Grid.clearToEnd_page height_pos hleft
  rw [hclear]
  exact onRow hleft []

end OnRow

/-! ### The editor of such a row -/

/-- An editor of some columns whose prompt takes half of them at most, with the cursor on its row. -/
structure Seated (cols : Nat) (e : LineEditor) : Prop where
  cols_eq : e.cols = cols
  prompt_le : e.promptColumns ≤ cols / 2
  panel : OnRow cols e.panel

theorem InStep.seated (h : InStep cols False e) : Seated cols e := by
  obtain ⟨front, shown, h⟩ := h
  obtain ⟨rest, -, hpanel⟩ := h.panel
  exact ⟨h.cols_eq, h.prompt_le, _, _, h.fits, hpanel⟩

namespace Seated

theorem framed (h : Seated cols e) : Framed cols e :=
  ⟨h.cols_eq, h.prompt_le, h.panel.erase_eq⟩

theorem turn (h : Seated cols e) (hcols : 3 ≤ cols) (forward : Bool) : Seated cols (e.turn forward) :=
  InStep.seated ⟨_, _, h.framed.turn hcols forward⟩

theorem turnLeft (h : Seated cols e) (hcols : 3 ≤ cols) : Seated cols e.turnLeft := by
  unfold LineEditor.turnLeft
  split
  · exact h.turn hcols false
  · exact h

theorem turnRight (h : Seated cols e) (hcols : 3 ≤ cols) : Seated cols e.turnRight := by
  unfold LineEditor.turnRight
  split
  · exact h.turn hcols true
  · exact h

theorem drawTail (h : Seated cols e) : Seated cols e.drawTail :=
  ⟨h.cols_eq, h.prompt_le, (h.panel.putWhile _).moveTo _⟩

theorem drawPrompt (h : Seated cols e) : Seated cols e.drawPrompt := by
  refine ⟨h.cols_eq, h.prompt_le, ?_⟩
  rw [h.framed.drawPrompt_panel]
  refine onRow ?_ _
  have hprompt : Text.columnsOf e.prompt ≤ cols / 2 := h.prompt_le
  rw [length_promptInk]
  omega

/-- A character with room is put left of the cursor. -/
theorem panel_insert? (h : Seated cols e) (hcols : 3 ≤ cols) (hc : columns c ≠ 0)
    (hroom : HasRoom e c) (hstep : e.insert? c = some f) :
    ∃ left right, (left ++ ink c).length ≤ cols ∧ f.panel = row cols (left ++ ink c) right := by
  obtain ⟨left, right, hleft, hpanel⟩ := (h.turnRight hcols).panel
  have hfits : left.length + columns c ≤ cols := by
    rw [HasRoom, hpanel, h.cols_eq] at hroom
    exact hroom
  have hlength := length_append_ink left c
  unfold insert? at hstep
  split at hstep
  · cases hstep
  dsimp only at hstep
  split at hstep
  · obtain ⟨right', hsqueeze⟩ := exists_squeeze?_row hc hfits right
    rw [hpanel, hsqueeze] at hstep
    obtain rfl := Option.some.inj hstep
    refine ⟨left, right', hlength ▸ hfits, ?_⟩
    simp only [moveTo, row_col, ← hlength]
    exact moveTo_row (List.append_assoc ..).symm (hlength ▸ hfits)
  · obtain rfl := Option.some.inj hstep
    refine ⟨left, right.drop (columns c), hlength ▸ hfits, ?_⟩
    dsimp only
    rw [hpanel, put_row hfits]

/-- A character without room changes nothing on the row. -/
theorem panel_insert?_of_not (h : Seated cols e) (hcols : 3 ≤ cols) (hroom : ¬HasRoom e c)
    (hstep : e.insert? c = some f) : f.panel = e.turnRight.panel := by
  obtain ⟨left, right, hleft, hpanel⟩ := (h.turnRight hcols).panel
  have hfull : cols < left.length + columns c := by
    rw [HasRoom, hpanel, h.cols_eq] at hroom
    exact Nat.lt_of_not_le hroom
  unfold insert? at hstep
  split at hstep
  · cases hstep
  dsimp only at hstep
  split at hstep
  · rw [hpanel, squeeze?_row_of_lt hfull, ← hpanel] at hstep
    obtain rfl := Option.some.inj hstep
    rfl
  · obtain rfl := Option.some.inj hstep
    dsimp only
    rw [hpanel, put_row_of_lt hfull]

/-- Just a wide character has no room, if the row turns and the stretch that is drawn leaves one column
only. -/
theorem hasRoom_iff (h : Seated cols e) (hcols : 3 ≤ cols) (c : Char) :
    HasRoom e c ↔ columns c ≤ 1 ∨ e.atEnd = false ∨
      e.promptColumns + columnsOf (e.stretch true) + 2 ≤ cols := by
  have hc := columns_le_two c
  unfold HasRoom LineEditor.turnRight
  rw [h.cols_eq]
  cases hend : e.atEnd with
  | true =>
    have hturned : Tracks cols False (promptInk e.prompt) (e.stretch true) (e.turn true) :=
      h.framed.turn hcols true
    have hcol : (e.turn true).panel.col = e.promptColumns + columnsOf (e.stretch true) :=
      hturned.col_eq.trans (length_left ..)
    have hfits := h.framed.stretch_fits hcols true
    rw [if_pos rfl, hcol]
    simp only [Bool.true_eq_false, false_or]
    omega
  | false =>
    simp only [atEnd, h.cols_eq, decide_eq_false_iff_not] at hend
    simp only [Bool.false_eq_true, if_false, true_or, or_true, iff_true]
    omega

end Seated

/-! ### Edits -/

/-- **An edit keeps the cursor on the row**, whether there is room for what it inserts or steps over, or
not. -/
theorem seated_edit {fits : LineEditor → Char → Prop} {submits : Prop} (hcols : 3 ≤ cols)
    (h : Seated cols e) (hedit : Edit fits submits e f) : Seated cols f := by
  cases hedit with
  | @insert _ _ c _ hstep =>
    have hturned := h.turnRight hcols
    unfold insert? at hstep
    split at hstep
    · cases hstep
    dsimp only at hstep
    split at hstep
    · split at hstep <;> obtain rfl := Option.some.inj hstep
      · rename_i panel hsqueeze
        exact ⟨hturned.cols_eq, hturned.prompt_le, (hturned.panel.squeeze? hsqueeze).moveTo _⟩
      · exact { hturned with }
    · obtain rfl := Option.some.inj hstep
      exact ⟨hturned.cols_eq, hturned.prompt_le, hturned.panel.put c⟩
  | left hstep =>
    have hturned := h.turnLeft hcols
    obtain ⟨⟨c, draft⟩, -, rfl⟩ := Option.map_eq_some_iff.1 hstep
    exact ⟨hturned.cols_eq, hturned.prompt_le, hturned.panel.moveTo _⟩
  | right _ hstep =>
    have hturned := h.turnRight hcols
    obtain ⟨⟨c, draft⟩, -, rfl⟩ := Option.map_eq_some_iff.1 hstep
    exact ⟨hturned.cols_eq, hturned.prompt_le, hturned.panel.moveTo _⟩
  | backspace hstep =>
    have hturned := h.turnLeft hcols
    obtain ⟨⟨c, draft⟩, -, rfl⟩ := Option.map_eq_some_iff.1 hstep
    have hdeleted := (hturned.panel.moveTo (e.turnLeft.panel.col - columns c)).delete (columns c)
    dsimp only
    split
    · exact Seated.drawTail ⟨hturned.cols_eq, hturned.prompt_le, hdeleted.clearToEnd⟩
    · exact ⟨hturned.cols_eq, hturned.prompt_le, hdeleted⟩
  | delete hstep =>
    obtain ⟨⟨c, draft⟩, -, rfl⟩ := Option.map_eq_some_iff.1 hstep
    exact Seated.drawTail ⟨h.cols_eq, h.prompt_le, (h.panel.delete _).clearToEnd⟩
  | clear => exact Seated.drawPrompt { h with }
  | setPrompt _ prompt =>
    exact InStep.seated (setPrompt_inStep hcols h.cols_eq h.panel.erase_eq prompt)
  | submit _ =>
    unfold LineEditor.submit
    split
    · exact h
    · refine ⟨h.cols_eq, h.prompt_le, ?_⟩
      dsimp only
      rw [h.panel.erase_eq]
      exact onRow (Nat.zero_le _) []
  | round => exact { h with }

theorem seated_edits {fits : LineEditor → Char → Prop} {submits : Prop} (hcols : 3 ≤ cols)
    (h : Seated cols e) (hedits : Edits fits submits e f) : Seated cols f := by
  induction hedits with
  | refl => exact h
  | tail _ hedit ih => exact seated_edit hcols ih hedit

/-! ### Typing -/

/-- The cells of a glyph on a row, by their place before the cursor. -/
theorem cell?_row_left (hleft : (left ++ ink c).length ≤ cols) {i : Nat} (hi : i < columns c) :
    (row cols (left ++ ink c) right).cell? 0 ((left ++ ink c).length - columns c + i)
      = (ink c)[i]? := by
  have hplace : (left ++ ink c).length - columns c + i = left.length + i := by
    rw [length_append_ink, Nat.add_sub_cancel]
  have hbefore : left.length + i < (left ++ ink c).length := by
    rw [length_append_ink]
    exact Nat.add_lt_add_left hi _
  rw [hplace, Grid.cell?, rows_row, Grid.takeD_append _ _ _ _ hleft]
  show (left ++ ink c ++ _)[left.length + i]? = _
  rw [List.getElem?_append_left hbefore, List.getElem?_append_right (Nat.le_add_right ..),
    Nat.add_sub_cancel_left]

/-- **What is typed is shown, where it has room.**  Whatever has been done with an editor of three columns
or more, a character with columns that it then takes stands in the cells just left of the cursor, the
letter of a mark in reverse, and a wide glyph with its filler behind it.  Only a wide character may have
no room: this is so when the cursor is at the end of the row and the stretch that is drawn in its stead
leaves one column.  Then the text takes the character, and the row stays as it was drawn. -/
theorem typed_is_shown (hcols : 3 ≤ cols) (prompt : String) (quiet : Bool) (s : σ) (xs : List Action)
    (hc : columns c ≠ 0) :
    let e := (actAll xs (new prompt cols quiet, s)).1
    e.insert? c = some f →
      f.draft = e.draft.insert c ∧
      (HasRoom e c → columns c ≤ f.panel.col ∧ ∀ i < columns c,
        f.panel.cell? f.panel.row (f.panel.col - columns c + i) = (ink c)[i]?) ∧
      (¬HasRoom e c → f.panel = e.turnRight.panel) ∧
      (HasRoom e c ↔ columns c ≤ 1 ∨ e.atEnd = false ∨
        e.promptColumns + columnsOf (e.stretch true) + 2 ≤ cols) := by
  intro e hstep
  have hseated : Seated cols e :=
    seated_edits hcols (InStep.seated (new_inStep hcols prompt quiet))
      (edits_actAll xs (new prompt cols quiet, s))
  refine ⟨draft_insert? hstep, fun hroom => ?_,
    fun hroom => hseated.panel_insert?_of_not hcols hroom hstep, hseated.hasRoom_iff hcols c⟩
  obtain ⟨left, right, hleft, hpanel⟩ := hseated.panel_insert? hcols hc hroom hstep
  rw [hpanel, row_zero, row_col]
  refine ⟨?_, fun i hi => cell?_row_left hleft hi⟩
  rw [length_append_ink]
  exact Nat.le_add_left ..

/-- A wide character that is inserted before the last one of a text pushes it on. -/
theorem typed_is_shown_inside :
    let xs := [.insert '日', .insert 'n', .press .left]
    let e := (actAll xs (new "> " 10 true, (⟨"", []⟩ : Fixed))).1
    let f := (e.insert? '本').getD e
    columns '本' ≠ 0 ∧ e.insert? '本' = some f ∧ HasRoom e '本' ∧ f.panel.col = 6 ∧
      (∀ i < columns '本', f.panel.cell? f.panel.row (f.panel.col - columns '本' + i) = (ink '本')[i]?) ∧
      f.panel.rowText 0 = ['>', ' ', '日', '本', 'n'] := by
  intro xs e f
  have hc : columns '本' ≠ 0 := by decide +kernel
  have hsome : (e.insert? '本').isSome = true := by decide +kernel
  have hstep : e.insert? '本' = some f := by
    rw [← Option.some_get hsome]
    exact congrArg some (Option.get_eq_getD ..)
  have hroom : HasRoom e '本' := by decide +kernel
  have hcol : f.panel.col = 6 := by decide +kernel
  have hshown : f.panel.rowText 0 = ['>', ' ', '日', '本', 'n'] := by decide +kernel
  obtain ⟨-, hroomy, -⟩ := typed_is_shown (by decide) "> " true (⟨"", []⟩ : Fixed) xs hc hstep
  exact ⟨hc, hstep, hroom, hcol, (hroomy hroom).2, hshown⟩

/-- The row of ten columns turns, and the stretch that is drawn leaves one column: a further wide
character is taken, and what stands left of the cursor is the one before it. -/
theorem typed_is_hidden :
    let xs := [.insert '日', .insert 'n', .insert '日', .insert '日']
    let e := (actAll xs (new "> " 10 true, (⟨"", []⟩ : Fixed))).1
    let f := (e.insert? '本').getD e
    columns '本' ≠ 0 ∧ (e.insert? '本').isSome = true ∧ f.draft.chars = ['日', 'n', '日', '日', '本'] ∧
      f.panel.rowText 0 = ['>', ' ', '日', 'n', '日', '日'] ∧
      ¬∀ i < columns '本',
        f.panel.cell? f.panel.row (f.panel.col - columns '本' + i) = (ink '本')[i]? := by
  decide +kernel

end LineEditor
end ChatConsole
