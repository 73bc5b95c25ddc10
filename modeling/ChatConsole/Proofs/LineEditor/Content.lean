/-
# What of an editor is not display

The content of an editor is its draft with the counters that go with it.  The panel, the prompt and the
number of columns are display.  Each edit has a content of its own that does not read the display, and
what only draws leaves the content as it is: the lemmas of this module say so edit by edit.
-/

import ChatConsole.LineEditor.Read

namespace ChatConsole

/-! ### The cursor in its text -/

namespace Draft

variable {d d' : Draft} {c : Char} {before after : List Char}

/-- Stepping left changes no character. -/
theorem chars_stepLeft (h : d.before = c :: before) :
    (⟨before, c :: d.after⟩ : Draft).chars = d.chars := by
  rw [chars, chars, h, List.reverse_cons, List.append_assoc]
  rfl

/-- Stepping right changes no character. -/
theorem chars_stepRight (h : d.after = c :: after) :
    (⟨c :: d.before, after⟩ : Draft).chars = d.chars := by
  rw [chars, chars, h, List.reverse_cons, List.append_assoc]
  rfl

theorem chars_of_left? (h : d.left? = some (c, d')) : d'.chars = d.chars := by
  unfold left? at h
  split at h
  · cases h
  · rename_i hbefore
    cases h
    exact chars_stepLeft hbefore

theorem chars_of_right? (h : d.right? = some (c, d')) : d'.chars = d.chars := by
  unfold right? at h
  split at h
  · cases h
  · rename_i hafter
    cases h
    exact chars_stepRight hafter

theorem chars_of_eraseLeft? (h : d.eraseLeft? = some (c, d')) : d'.chars ⊆ d.chars := by
  unfold eraseLeft? at h
  split at h
  · cases h
  · rename_i hbefore
    cases h
    rw [chars, chars, hbefore, List.reverse_cons, List.append_assoc]
    exact List.append_subset.2 ⟨List.subset_append_left ..,
      List.Subset.trans (List.subset_append_right ..) (List.subset_append_right ..)⟩

theorem chars_of_eraseRight? (h : d.eraseRight? = some (c, d')) : d'.chars ⊆ d.chars := by
  unfold eraseRight? at h
  split at h
  · cases h
  · rename_i hafter
    cases h
    rw [chars, chars, hafter]
    exact List.append_subset.2 ⟨List.subset_append_left ..,
      List.Subset.trans (List.subset_cons_self ..) (List.subset_append_right ..)⟩

theorem chars_insert (d : Draft) (c : Char) :
    (d.insert c).chars = d.before.reverse ++ c :: d.after := by
  rw [chars, insert, List.reverse_cons, List.append_assoc]
  rfl

theorem after_eq_nil (h : ¬d.isInside = true) : d.after = [] := by
  simpa [isInside] using h

end Draft

namespace LineEditor

open Markup (Mark)

/-- What of an editor is not display. -/
structure Content where
  draft : Draft
  offset : Nat
  round : Option Completion.Round
  quiet : Bool
  deriving DecidableEq

/-- The content of an editor. -/
def content (e : LineEditor) : Content where
  draft := e.draft
  offset := e.offset
  round := e.round
  quiet := e.quiet

variable {e : LineEditor}

@[simp] theorem content_draft : e.content.draft = e.draft := rfl

/-! ### Columns of a text -/

@[simp] theorem columnsOf_nil : columnsOf [] = 0 := rfl

@[simp] theorem columnsOf_cons (c : Char) (cs : List Char) :
    columnsOf (c :: cs) = columns c + columnsOf cs := rfl

theorem columnsOf_append (as bs : List Char) :
    columnsOf (as ++ bs) = columnsOf as + columnsOf bs := by
  induction as with
  | nil => exact (Nat.zero_add _).symm
  | cons c as ih => rw [List.cons_append, columnsOf_cons, columnsOf_cons, ih, Nat.add_assoc]

/-! ### Drawing -/

variable (e)

@[simp] theorem content_moveTo (col : Nat) : (e.moveTo col).content = e.content := rfl

@[simp] theorem content_drawPrompt : e.drawPrompt.content = e.content := rfl

@[simp] theorem content_drawTail : e.drawTail.content = e.content := rfl

@[simp] theorem content_redraw (forward : Bool) : (e.redraw forward).content = e.content := by
  unfold redraw
  dsimp only
  split <;> rfl

@[simp] theorem content_turn (forward : Bool) : (e.turn forward).content = e.content :=
  content_redraw _ forward

@[simp] theorem content_turnLeft : e.turnLeft.content = e.content := by
  unfold turnLeft
  split
  · exact content_turn e false
  · rfl

@[simp] theorem content_turnRight : e.turnRight.content = e.content := by
  unfold turnRight
  split
  · exact content_turn e true
  · rfl

@[simp] theorem content_setPrompt (prompt : String) : (e.setPrompt prompt).content = e.content :=
  content_redraw _ false

theorem content_new (prompt : String) (cols : Nat) (quiet : Bool) :
    (new prompt cols quiet).content = ⟨{}, 0, none, quiet⟩ :=
  content_setPrompt _ prompt

/-! ### Edits -/

theorem content_insert? (c : Char) :
    (e.insert? c).map content
      = if e.isFull then none
        else some { e.content with draft := e.draft.insert c, offset := e.offset + columns c } := by
  have hturn : e.turnRight.content = e.content := content_turnRight e
  have hdraft : e.turnRight.draft = e.draft := congrArg Content.draft hturn
  have hoffset : e.turnRight.offset = e.offset := congrArg Content.offset hturn
  unfold insert?
  split
  · rfl
  · rw [← hturn]
    dsimp only
    split
    · split <;> simp [content, moveTo, hdraft, hoffset]
    · simp [content, hdraft, hoffset]

theorem content_left? :
    (e.left?).map content
      = e.draft.left?.map fun (c, draft) =>
          { e.content with draft, offset := e.offset - columns c } := by
  have hturn : e.turnLeft.content = e.content := content_turnLeft e
  rw [← hturn, left?, Option.map_map]
  have hoffset : e.turnLeft.offset = e.offset := congrArg Content.offset hturn
  refine Option.map_congr ?_
  intro _ _
  simp [content, moveTo, hoffset]

theorem content_right? :
    (e.right?).map content
      = e.draft.right?.map fun (c, draft) =>
          { e.content with draft, offset := e.offset + columns c } := by
  have hturn : e.turnRight.content = e.content := content_turnRight e
  rw [← hturn, right?, Option.map_map]
  have hoffset : e.turnRight.offset = e.offset := congrArg Content.offset hturn
  refine Option.map_congr ?_
  intro _ _
  simp [content, moveTo, hoffset]

theorem content_backspace? :
    (e.backspace?).map content
      = e.draft.eraseLeft?.map fun (c, draft) =>
          { e.content with draft, offset := e.offset - columns c } := by
  have hturn : e.turnLeft.content = e.content := content_turnLeft e
  have hoffset : e.turnLeft.offset = e.offset := congrArg Content.offset hturn
  rw [← hturn, backspace?, Option.map_map]
  refine Option.map_congr ?_
  intro _ _
  dsimp only [Function.comp_apply]
  split <;> simp [content, moveTo, drawTail, hoffset]

theorem content_delete? :
    (e.delete?).map content
      = e.draft.eraseRight?.map fun (_, draft) => { e.content with draft } := by
  rw [delete?, Option.map_map]
  rfl

theorem content_submit :
    e.submit.1.content
        = (if e.draft.size = 0 then e.content else { e.content with draft := {}, offset := 0 }) ∧
      e.submit.2 = if e.draft.size = 0 then .empty else .submitted e.draft.text := by
  unfold submit
  split <;> exact ⟨rfl, rfl⟩

end LineEditor
end ChatConsole
