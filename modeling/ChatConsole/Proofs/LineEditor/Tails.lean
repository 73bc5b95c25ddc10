/-
# The tail that the editor draws

Whenever the editor draws the text from the cursor on, what is right of the cursor has been blanked
before: it has drawn a new stretch, or removed a character.  So it shows of this text what has room behind
the cursor (`showsTail_drawn`), on a row of any length and whatever has been done before (`onRow_edit`).
-/

import ChatConsole.Proofs.Grid.FixedRow
import ChatConsole.Proofs.LineEditor.Typing

namespace ChatConsole
namespace LineEditor

open Text (admitted ShownIn)

variable {cols : Nat} {left : List Cell} {e f : LineEditor} {g : Grid}

/-! ### A row that is blank from the cursor on -/

/-- The grid is a row with some cells left of the cursor, and blanks from it on. -/
def BlankAhead (cols : Nat) (g : Grid) : Prop :=
  ∃ left, left.length ≤ cols ∧ g = row cols left []

theorem BlankAhead.onRow (h : BlankAhead cols g) : OnRow cols g := by
  obtain ⟨left, hleft, rfl⟩ := h
  exact LineEditor.onRow hleft []

theorem BlankAhead.put (h : BlankAhead cols g) (c : Char) : BlankAhead cols (put g c) := by
  obtain ⟨left, hleft, rfl⟩ := h
  by_cases hroom : left.length + columns c ≤ cols
  · rw [put_row hroom, List.drop_nil]
    exact ⟨_, length_append_ink left c ▸ hroom, rfl⟩
  · rw [put_row_of_lt (Nat.lt_of_not_le hroom)]
    exact ⟨left, hleft, rfl⟩

theorem BlankAhead.foldl_put (h : BlankAhead cols g) (cs : List Char) :
    BlankAhead cols (cs.foldl LineEditor.put g) := by
  induction cs generalizing g with
  | nil => exact h
  | cons c cs ih => exact ih (h.put c)

/-- A prompt is put on a blank row, as much of it as has room. -/
theorem blankAhead_drawPrompt (h : OnRow cols e.panel) : BlankAhead cols e.drawPrompt.panel := by
  have hprompt : (row cols [] []).addText e.prompt
      = row cols (Cell.ofGlyphs (admitted Text.columns cols e.prompt) {}) [] :=
    Grid.addText_page_fixed rfl height_pos (Nat.zero_le _) e.prompt
  have hpanel : e.drawPrompt.panel = e.panel.erase.addText e.prompt := rfl
  refine ⟨Cell.ofGlyphs (admitted Text.columns cols e.prompt) {}, ?_, ?_⟩
  · exact Cell.length_ofGlyphs_admitted_le ..
  · rw [hpanel, h.erase_eq, hprompt]

theorem blankAhead_delete (h : OnRow cols g) (count : Nat) :
    BlankAhead cols (g.delete count).clearToEnd := by
  obtain ⟨left, right, hleft, rfl⟩ := h
  exact ⟨left, hleft, clearToEnd_delete_row hleft count⟩

/-! ### Drawing the tail -/

/-- Characters are drawn as far as they have room. -/
theorem putWhile_row (hleft : left.length ≤ cols) (cs : List Char) :
    putWhile (row cols left []) cs
      = row cols (left ++ inkOf (admitted columns (cols - left.length) cs)) [] := by
  induction cs generalizing left with
  | nil => rw [putWhile, admitted, inkOf_nil, List.append_nil]
  | cons c cs ih =>
    rw [putWhile, row_col, row_width]
    split
    · rename_i hfull
      rw [Nat.sub_eq_zero_of_le hfull, Text.admitted_zero, inkOf_nil, List.append_nil]
    by_cases hc : columns c = 0
    · have hink : ink c = [] := List.eq_nil_of_length_eq_zero (by rw [length_ink, hc])
      rw [put_row (by omega), hink, List.append_nil, List.drop_nil, ih hleft,
        Text.admitted_cons_of_not (Or.inl hc)]
    by_cases hroom : left.length + columns c ≤ cols
    · rw [put_row hroom, List.drop_nil, ih (length_append_ink left c ▸ hroom), length_append_ink,
        Text.admitted_cons_of_room hc (by omega), Nat.sub_sub, inkOf_cons, List.append_assoc]
    · rw [put_row_of_lt (by omega), ih hleft, Text.admitted_cons_of_not (Or.inr (by omega))]

/-- The row shows, from the cursor on, what has room there of the text. -/
def ShowsTail (cols : Nat) (e : LineEditor) : Prop :=
  ∃ left shown, left.length ≤ cols ∧
    ShownIn columns (cols - left.length) (e.draft.after.filter (columns · ≠ 0)) shown ∧
    e.panel = row cols left (inkOf shown)

theorem showsTail_drawTail (h : BlankAhead cols e.panel) : ShowsTail cols e.drawTail := by
  obtain ⟨left, hleft, hpanel⟩ := h
  refine ⟨left, _, hleft, Text.shownIn_admitted columns_le_two (cols - left.length) e.draft.after, ?_⟩
  have hcol : e.panel.col = left.length := by rw [hpanel, row_col]
  have hdrawn : putWhile e.panel e.draft.after
      = row cols (left ++ inkOf (admitted columns (cols - left.length) e.draft.after)) [] := by
    rw [hpanel, putWhile_row hleft]
  show (putWhile e.panel e.draft.after).moveTo (putWhile e.panel e.draft.after).row e.panel.col = _
  rw [hdrawn, hcol]
  exact moveTo_row (List.append_nil _) hleft

/-- At the end of the text there is nothing to draw. -/
theorem showsTail_of_not_inside (h : BlankAhead cols e.panel) (hend : e.draft.isInside = false) :
    ShowsTail cols e := by
  obtain ⟨left, hleft, hpanel⟩ := h
  have hafter : e.draft.after = [] := by
    simpa only [Draft.isInside, Bool.not_eq_false', List.isEmpty_iff] using hend
  refine ⟨left, [], hleft, ?_, hpanel⟩
  rw [hafter]
  exact Text.shownIn_admitted columns_le_two (cols - left.length) []

theorem showsTail_redraw (h : OnRow cols e.panel) (forward : Bool) :
    ShowsTail cols (e.redraw forward) := by
  have hstretch : BlankAhead cols ((e.stretch forward).foldl put e.drawPrompt.panel) :=
    (blankAhead_drawPrompt h).foldl_put _
  unfold redraw
  dsimp only
  split
  · exact showsTail_drawTail hstretch
  · rename_i hend
    exact showsTail_of_not_inside hstretch (eq_false_of_ne_true hend)

theorem showsTail_turn (h : OnRow cols e.panel) (forward : Bool) : ShowsTail cols (e.turn forward) :=
  showsTail_redraw (e := { e with onSecond := !e.onSecond }) h forward

theorem showsTail_setPrompt (h : OnRow cols e.panel) (prompt : String) :
    ShowsTail cols (e.setPrompt prompt) :=
  showsTail_redraw (e := { e with prompt := fitting (e.cols / 2) prompt.toList }) h false

theorem ShowsTail.onRow (h : ShowsTail cols e) : OnRow cols e.panel := by
  obtain ⟨left, shown, hleft, -, hpanel⟩ := h
  exact ⟨left, _, hleft, hpanel⟩

/-! ### Edits -/

theorem onRow_turnLeft (h : OnRow cols e.panel) : OnRow cols e.turnLeft.panel := by
  unfold turnLeft
  split
  · exact (showsTail_turn h false).onRow
  · exact h

theorem onRow_turnRight (h : OnRow cols e.panel) : OnRow cols e.turnRight.panel := by
  unfold turnRight
  split
  · exact (showsTail_turn h true).onRow
  · exact h

/-- **An edit keeps the cursor on the row**, however short the row is. -/
theorem onRow_edit {fits : LineEditor → Char → Prop} {submits : Prop} (h : OnRow cols e.panel)
    (hedit : Edit fits submits e f) : OnRow cols f.panel := by
  cases hedit with
  | @insert _ _ c _ hstep =>
    have hturned := onRow_turnRight h
    unfold insert? at hstep
    split at hstep
    · cases hstep
    dsimp only at hstep
    split at hstep
    · split at hstep <;> obtain rfl := Option.some.inj hstep
      · rename_i panel hsqueeze
        exact (hturned.squeeze? hsqueeze).moveTo _
      · exact hturned
    · obtain rfl := Option.some.inj hstep
      exact hturned.put c
  | left hstep =>
    obtain ⟨⟨c, draft⟩, -, rfl⟩ := Option.map_eq_some_iff.1 hstep
    exact (onRow_turnLeft h).moveTo _
  | right _ hstep =>
    obtain ⟨⟨c, draft⟩, -, rfl⟩ := Option.map_eq_some_iff.1 hstep
    exact (onRow_turnRight h).moveTo _
  | backspace hstep =>
    obtain ⟨⟨c, draft⟩, -, rfl⟩ := Option.map_eq_some_iff.1 hstep
    have hmoved := (onRow_turnLeft h).moveTo (e.turnLeft.panel.col - columns c)
    dsimp only
    split
    · exact (((hmoved.delete _).clearToEnd).putWhile _).moveTo _
    · exact hmoved.delete _
  | delete hstep =>
    obtain ⟨⟨c, draft⟩, -, rfl⟩ := Option.map_eq_some_iff.1 hstep
    exact (((h.delete _).clearToEnd).putWhile _).moveTo _
  | clear => exact (blankAhead_drawPrompt (e := { e with draft := {}, offset := 0 }) h).onRow
  | setPrompt _ prompt => exact (showsTail_setPrompt h prompt).onRow
  | submit _ =>
    unfold LineEditor.submit
    split
    · exact h
    · dsimp only
      rw [h.erase_eq]
      exact onRow (Nat.zero_le _) []
  | round => exact h

theorem onRow_edits {fits : LineEditor → Char → Prop} {submits : Prop} (h : OnRow cols e.panel)
    (hedits : Edits fits submits e f) : OnRow cols f.panel := by
  induction hedits with
  | refl => exact h
  | tail _ hedit ih => exact onRow_edit ih hedit

theorem onRow_new (prompt : String) (cols : Nat) (quiet : Bool) :
    OnRow cols (new prompt cols quiet).panel := by
  have hblank : OnRow cols (Grid.new cols 1 false) := new_eq_row ▸ onRow (Nat.zero_le _) []
  exact (showsTail_setPrompt (e := { cols, panel := .new cols 1 false, quiet }) hblank prompt).onRow

/-! ### What draws the tail -/

/-- One editor comes from another by something that draws the text from the cursor on. -/
inductive DrawsTail : LineEditor → LineEditor → Prop where
  | turn (e : LineEditor) (forward : Bool) : DrawsTail e (e.turn forward)
  | setPrompt (e : LineEditor) (prompt : String) : DrawsTail e (e.setPrompt prompt)
  | delete {e f : LineEditor} (h : e.delete? = some f) : DrawsTail e f
  | backspace {e f : LineEditor} (h : e.backspace? = some f) (inside : f.draft.isInside = true) :
      DrawsTail e f

/-- **Of the text from the cursor on is shown what has room**, whenever it is drawn. -/
theorem showsTail_drawn (h : OnRow cols e.panel) (hdraws : DrawsTail e f) : ShowsTail cols f := by
  cases hdraws with
  | turn forward => exact showsTail_turn h forward
  | setPrompt prompt => exact showsTail_setPrompt h prompt
  | delete hstep =>
    obtain ⟨⟨c, draft⟩, -, rfl⟩ := Option.map_eq_some_iff.1 hstep
    exact showsTail_drawTail (e := { e with draft, panel := _ }) (blankAhead_delete h _)
  | backspace hstep hinside =>
    obtain ⟨⟨c, draft⟩, -, rfl⟩ := Option.map_eq_some_iff.1 hstep
    have hmoved := (onRow_turnLeft h).moveTo (e.turnLeft.panel.col - columns c)
    dsimp only at hinside ⊢
    split at hinside
    · rename_i hdraft
      rw [if_pos hdraft]
      exact showsTail_drawTail (blankAhead_delete hmoved (columns c))
    · rename_i hdraft
      exact absurd hinside hdraft

end LineEditor
end ChatConsole
