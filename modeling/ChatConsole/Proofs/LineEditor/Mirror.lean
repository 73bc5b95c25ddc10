/-
# The row in step with the text

The editor patches its row with every edit and never stores which character the row begins with.  But
there always is one: the row is the prompt and the cells of the text from some character left of the
cursor on, with the cursor behind the cells of those left of it, and those from the cursor on as far as
they fit (`Tracks`).  Drawing anew makes it so, and each patch of the row moves, adds or removes just the
cells of its character, if there is room for them.  Of a narrow text nothing but the edge of the row cuts
anything off (`Mirrors`).
-/

import ChatConsole.Proofs.LineEditor.Edge
import ChatConsole.LineEditor.Read

namespace ChatConsole
namespace LineEditor

open Cell (Whole)

variable {cols : Nat} {bare : Prop} {left front : List Cell} {shown before after : List Char}
  {e e' : LineEditor} {c : Char}

/-! ### The part of the text that is drawn -/

theorem columnsOf_lastFitting (room : Nat) (cs : List Char) :
    columnsOf (lastFitting room cs) ≤ room := by
  induction cs with
  | nil => exact Nat.zero_le _
  | cons c cs ih =>
    rw [lastFitting]
    split
    · exact ih
    · rename_i hfits
      exact Nat.le_of_not_lt hfits

theorem lastFitting_suffix (room : Nat) (cs : List Char) : lastFitting room cs <:+ cs := by
  induction cs with
  | nil => exact List.suffix_refl _
  | cons c cs ih =>
    rw [lastFitting]
    split
    · exact ih.trans (List.suffix_cons ..)
    · exact List.suffix_refl _

/-- A last character that has room is part of what fits. -/
theorem lastFitting_append_singleton {room : Nat} (hc : columns c ≤ room) (cs : List Char) :
    ∃ rest, lastFitting room (cs ++ [c]) = rest ++ [c] := by
  induction cs with
  | nil =>
    refine ⟨[], ?_⟩
    rw [List.nil_append, lastFitting, columnsOf_cons, columnsOf_nil, if_neg (by omega)]
  | cons d cs ih =>
    rw [List.cons_append, lastFitting]
    split
    · exact ih
    · exact ⟨d :: cs, rfl⟩

/-- The prompt that is shown takes no more than the columns it may. -/
theorem columnsOf_fitting (room : Nat) (cs : List Char) :
    Text.columnsOf (fitting room cs) ≤ room := by
  induction cs generalizing room with
  | nil => exact Nat.zero_le _
  | cons c cs ih =>
    rw [fitting]
    split
    · exact Nat.zero_le _
    · have hrest := ih (room - Text.columns c)
      rw [Text.columnsOf_cons]
      omega

theorem narrow_after (h : Narrow e.draft.chars) : Narrow e.draft.after :=
  fun d hd => h d (List.mem_append_right _ hd)

/-! ### A row in step -/

/-- A row on which the editor can draw. -/
structure Framed (cols : Nat) (e : LineEditor) : Prop where
  cols_eq : e.cols = cols
  prompt_le : e.promptColumns ≤ cols / 2
  erased : e.panel.erase = row cols [] []

/-- The row shows the prompt and the text from some character on, where `shown` is left of the cursor.  A
submitted line may have left the row bare, without the prompt. -/
structure Tracks (cols : Nat) (bare : Prop) (front : List Cell) (shown : List Char) (e : LineEditor) :
    Prop where
  cols_eq : e.cols = cols
  prompt_le : e.promptColumns ≤ cols / 2
  head : front = promptInk e.prompt ∨ bare ∧ front = []
  suffix : shown <:+ e.draft.before.reverse
  fits : (front ++ inkOf shown).length ≤ cols
  panel : Tail cols (front ++ inkOf shown) e.draft.after e.panel

/-- The row shows the text from some character on. -/
def InStep (cols : Nat) (bare : Prop) (e : LineEditor) : Prop :=
  ∃ front shown, Tracks cols bare front shown e

theorem length_front (front : List Cell) (shown : List Char) :
    (front ++ inkOf shown).length = front.length + columnsOf shown := by
  rw [List.length_append, length_inkOf]

theorem length_left (e : LineEditor) (shown : List Char) :
    (promptInk e.prompt ++ inkOf shown).length = e.promptColumns + columnsOf shown := by
  rw [length_front, length_promptInk]
  rfl

namespace Tracks

theorem framed (h : Tracks cols bare front shown e) : Framed cols e :=
  ⟨h.cols_eq, h.prompt_le, h.panel.erase_eq⟩

theorem col_eq (h : Tracks cols bare front shown e) :
    e.panel.col = (front ++ inkOf shown).length :=
  h.panel.col_eq

theorem front_le (h : Tracks cols bare front shown e) : front.length ≤ e.promptColumns := by
  rcases h.head with hfront | ⟨-, hfront⟩
  · rw [hfront, length_promptInk]
    exact Nat.le_refl _
  · rw [hfront]
    exact Nat.zero_le _

theorem whole (h : Tracks cols bare front shown e) : Whole (front ++ inkOf shown) := by
  refine Whole.append ?_ (whole_inkOf shown)
  rcases h.head with hfront | ⟨-, hfront⟩
  · rw [hfront]
    exact whole_promptInk _
  · rw [hfront]
    exact .nil

theorem spans (h : Tracks cols bare front shown e) : e.panel.Spans cols :=
  h.panel.spans h.whole h.fits

end Tracks

/-! ### Drawing anew -/

/-- Drawing the tail shows the text from the cursor on. -/
theorem drawTail_panel (hafter : e.draft.after = after) (hpanel : e.panel = row cols left [])
    (hleft : left.length ≤ cols) : Tail cols left after e.drawTail.panel := by
  simp only [drawTail, moveTo, hafter, hpanel, row_col]
  exact tail_putWhile hleft after

theorem Framed.drawPrompt_panel (h : Framed cols e) :
    e.drawPrompt.panel = row cols (promptInk e.prompt) [] := by
  have hroom : ([] : List Cell).length + Text.columnsOf e.prompt ≤ cols := by
    have hprompt : Text.columnsOf e.prompt ≤ cols / 2 := h.prompt_le
    rw [List.length_nil]
    omega
  have hprompt : (row cols [] []).addText e.prompt = _ := addText_row e.prompt hroom
  rw [drawPrompt, h.erased]
  exact hprompt

/-- The stretch that is drawn leaves the last column free. -/
theorem Framed.stretch_fits (h : Framed cols e) (hcols : 3 ≤ cols) (forward : Bool) :
    e.promptColumns + columnsOf (e.stretch forward) + 1 ≤ cols := by
  have hprompt := h.prompt_le
  have hfits : columnsOf (e.stretch forward) ≤ cols - (1 + e.promptColumns) := by
    rw [← h.cols_eq]
    exact columnsOf_lastFitting ..
  omega

theorem stretch_suffix (e : LineEditor) (forward : Bool) :
    e.stretch forward <:+ e.draft.before.reverse :=
  (lastFitting_suffix ..).trans (List.drop_suffix ..)

/-- Behind the prompt the stretch is drawn in full. -/
theorem Framed.foldl_stretch (h : Framed cols e) (hcols : 3 ≤ cols) (forward : Bool) :
    (e.stretch forward).foldl LineEditor.put e.drawPrompt.panel
      = row cols (promptInk e.prompt ++ inkOf (e.stretch forward)) [] := by
  have hfits := h.stretch_fits hcols forward
  have hleft : (promptInk e.prompt).length = e.promptColumns := length_promptInk _
  rw [h.drawPrompt_panel, foldl_put_row _ (by omega)]

/-- Drawing anew shows the stretch that was chosen, behind the prompt. -/
theorem Framed.redraw (h : Framed cols e) (hcols : 3 ≤ cols) (forward : Bool) :
    Tracks cols bare (promptInk e.prompt) (e.stretch forward) (e.redraw forward) := by
  have hleft : (promptInk e.prompt ++ inkOf (e.stretch forward)).length ≤ cols := by
    rw [length_left]
    exact Nat.le_of_succ_le (h.stretch_fits hcols forward)
  unfold LineEditor.redraw
  simp only [h.foldl_stretch hcols]
  split
  · exact ⟨h.cols_eq, h.prompt_le, Or.inl rfl, stretch_suffix e forward, hleft,
      drawTail_panel rfl rfl hleft⟩
  · rename_i hinside
    have hend : e.draft.after = [] := Draft.after_eq_nil hinside
    refine ⟨h.cols_eq, h.prompt_le, Or.inl rfl, stretch_suffix e forward, hleft, ?_⟩
    rw [show e.drawPrompt.draft.after = [] from hend]
    exact tail_nil ..

theorem Framed.turn (h : Framed cols e) (hcols : 3 ≤ cols) (forward : Bool) :
    Tracks cols bare (promptInk e.prompt) (e.stretch forward) (e.turn forward) := by
  have hturned : Framed cols { e with onSecond := !e.onSecond } := ⟨h.cols_eq, h.prompt_le, h.erased⟩
  exact hturned.redraw hcols forward

/-- A stretch drawn from the right has the last character, if there is one. -/
theorem stretch_back (hbefore : e.draft.before = c :: before)
    (hroom : columns c ≤ e.cols - (1 + e.promptColumns)) :
    ∃ rest, e.stretch false = rest ++ [c] := by
  have hstart : before.length + 1 - max (e.cols / 2 - e.promptColumns) 1 ≤ before.reverse.length := by
    rw [List.length_reverse]
    omega
  obtain ⟨rest, hrest⟩ := lastFitting_append_singleton hroom
    (before.reverse.drop (before.length + 1 - max (e.cols / 2 - e.promptColumns) 1))
  refine ⟨rest, ?_⟩
  rw [← hrest, ← List.drop_append_of_le_length hstart]
  simp [stretch, hbefore, Draft.position]

/-- What is shown of the text left of the cursor ends in the character beside it. -/
theorem exists_of_suffix_cons (h : shown <:+ (c :: before).reverse)
    (hsome : shown ≠ []) : ∃ rest, shown = rest ++ [c] := by
  obtain ⟨hidden, hhidden⟩ := h
  have hends : (hidden ++ shown).getLast? = some c := by
    rw [hhidden, List.reverse_cons, List.getLast?_concat]
  rw [List.getLast?_append, List.getLast?_eq_some_getLast hsome, Option.some_or] at hends
  refine ⟨shown.dropLast, ?_⟩
  rw [← Option.some.inj hends, List.dropLast_concat_getLast]

/-- Under the cursor there is room for a character, once the row has turned where it must. -/
def HasRoom (e : LineEditor) (c : Char) : Prop :=
  e.turnRight.panel.col + columns c ≤ e.cols

instance (e : LineEditor) (c : Char) : Decidable (HasRoom e c) :=
  inferInstanceAs (Decidable (_ ≤ _))

namespace Tracks

theorem turnRight (h : Tracks cols bare front shown e) (hcols : 3 ≤ cols) :
    InStep cols bare e.turnRight := by
  unfold LineEditor.turnRight
  split
  · exact ⟨_, _, h.framed.turn hcols true⟩
  · exact ⟨_, _, h⟩

/-- A narrow character always has room. -/
theorem hasRoom (h : Tracks cols bare front shown e) (hcols : 3 ≤ cols) (hc : columns c ≤ 1) :
    HasRoom e c := by
  unfold HasRoom LineEditor.turnRight
  rw [h.cols_eq]
  split
  · have hfits := h.framed.stretch_fits hcols true
    have hturned : Tracks cols bare (promptInk e.prompt) (e.stretch true) (e.turn true) :=
      h.framed.turn hcols true
    have hcol := hturned.col_eq
    rw [length_left] at hcol
    omega
  · rename_i hend
    simp only [atEnd, h.cols_eq, decide_eq_true_eq] at hend
    omega

/-- After turning at the start of the row the character left of the cursor is on the row. -/
theorem turnLeft (h : Tracks cols bare front shown e) (hcols : 3 ≤ cols)
    (hbefore : e.draft.before = c :: before) (hc : 2 * columns c + 1 ≤ cols) :
    ∃ front' shown', Tracks cols bare front' (shown' ++ [c]) e.turnLeft := by
  unfold LineEditor.turnLeft
  split
  · have hprompt := h.prompt_le
    obtain ⟨shown', hshown⟩ := stretch_back hbefore (by rw [h.cols_eq]; omega)
    refine ⟨promptInk e.prompt, shown', ?_⟩
    rw [← hshown]
    exact h.framed.turn hcols false
  · rename_i hstart
    have hfront := h.front_le
    simp only [atStart, h.col_eq, length_front, decide_eq_true_eq, Nat.not_le] at hstart
    have hsome : shown ≠ [] := by
      rintro rfl
      rw [columnsOf_nil] at hstart
      omega
    obtain ⟨shown', rfl⟩ := exists_of_suffix_cons (hbefore ▸ h.suffix) hsome
    exact ⟨front, shown', h⟩

end Tracks

/-! ### What the edits do to the row -/

/-- A further character on the left of the cursor. -/
theorem suffix_append_singleton (h : shown <:+ before.reverse) :
    shown ++ [c] <:+ (c :: before).reverse := by
  rw [List.reverse_cons]
  exact List.suffix_append_self_iff.2 h

/-- One character less on the left of the cursor. -/
theorem suffix_of_append_singleton (h : shown ++ [c] <:+ (c :: before).reverse) :
    shown <:+ before.reverse := by
  rw [List.reverse_cons] at h
  exact List.suffix_append_self_iff.1 h

theorem inkOf_append_singleton (cs : List Char) (c : Char) : inkOf (cs ++ [c]) = inkOf cs ++ ink c := by
  rw [inkOf_append, inkOf_cons, inkOf_nil, List.append_nil]

theorem front_append_singleton (front : List Cell) (shown : List Char) (c : Char) :
    front ++ inkOf (shown ++ [c]) = front ++ inkOf shown ++ ink c := by
  rw [inkOf_append_singleton, List.append_assoc]

namespace Tracks

/-- The cursor goes left over a character on the row. -/
theorem stepLeft (h : Tracks cols bare front (shown ++ [c]) e)
    (hbefore : e.draft.before = c :: before) (offset : Nat) :
    Tracks cols bare front shown
      ({ e with draft := ⟨before, c :: e.draft.after⟩, offset }.moveTo
        (e.panel.col - columns c)) := by
  have hcol := h.col_eq
  have hfits := h.fits
  have hpanel := h.panel
  rw [front_append_singleton] at hcol hfits hpanel
  rw [length_append_ink] at hcol hfits
  have hleft : e.panel.col - columns c = (front ++ inkOf shown).length := by omega
  rw [hleft]
  exact ⟨h.cols_eq, h.prompt_le, h.head, suffix_of_append_singleton (hbefore ▸ h.suffix),
    Nat.le_of_add_right_le hfits, hpanel.stepLeft hfits⟩

/-- The cursor goes right over a character for which there is room. -/
theorem stepRight (h : Tracks cols bare front shown e) (hafter : e.draft.after = c :: after)
    (hroom : e.panel.col + columns c ≤ cols) (offset : Nat) :
    Tracks cols bare front (shown ++ [c])
      ({ e with draft := ⟨c :: e.draft.before, after⟩, offset }.moveTo
        (e.panel.col + columns c)) := by
  have hpanel := h.panel
  rw [hafter] at hpanel
  rw [h.col_eq] at hroom ⊢
  have hmoved := hpanel.stepRight hroom
  rw [← length_append_ink, ← front_append_singleton] at hroom ⊢
  rw [← front_append_singleton] at hmoved
  exact ⟨h.cols_eq, h.prompt_le, h.head, suffix_append_singleton h.suffix, hroom, hmoved⟩

/-- A character with room is put on the row between the others. -/
theorem squeeze (h : Tracks cols bare front shown e) (hroom : e.panel.col + columns c ≤ cols)
    (offset : Nat) :
    Tracks cols bare front (shown ++ [c])
      (match squeeze? e.panel c with
        | some panel =>
          { e with draft := e.draft.insert c, offset, panel }.moveTo (panel.col + columns c)
        | none => { e with draft := e.draft.insert c, offset }) := by
  rw [h.col_eq] at hroom
  have hput := h.panel.squeeze h.whole hroom
  have hsuffix : shown ++ [c] <:+ (e.draft.insert c).before.reverse :=
    suffix_append_singleton h.suffix
  rw [← length_append_ink] at hroom
  rw [← front_append_singleton] at hroom hput
  cases hsqueeze : squeeze? e.panel c with
  | some panel =>
    rw [hsqueeze] at hput
    exact ⟨h.cols_eq, h.prompt_le, h.head, hsuffix, hroom, hput⟩
  | none =>
    rw [hsqueeze] at hput
    exact ⟨h.cols_eq, h.prompt_le, h.head, hsuffix, hroom, hput⟩

/-- A character with room is put at the end of the row. -/
theorem put (h : Tracks cols bare front shown e) (hend : e.draft.after = [])
    (hroom : e.panel.col + columns c ≤ cols) (offset : Nat) :
    Tracks cols bare front (shown ++ [c])
      { e with draft := e.draft.insert c, offset, panel := put e.panel c } := by
  have hpanel := h.panel
  rw [hend] at hpanel
  rw [h.col_eq] at hroom
  have hput := hpanel.put hroom
  rw [← length_append_ink] at hroom
  rw [← front_append_singleton] at hroom hput
  refine ⟨h.cols_eq, h.prompt_le, h.head, suffix_append_singleton h.suffix, hroom, ?_⟩
  rw [Draft.insert, hend]
  exact hput

/-- The character left of the cursor is taken from the row. -/
theorem eraseLeft (h : Tracks cols bare front (shown ++ [c]) e)
    (hbefore : e.draft.before = c :: before) (offset : Nat) :
    Tracks cols bare front shown
      (let e' := { e with draft := { e.draft with before }, offset }.moveTo (e.panel.col - columns c)
      let panel := e'.panel.delete (columns c)
      if e.draft.isInside then { e' with panel := panel.clearToEnd }.drawTail
      else { e' with panel }) := by
  have hmoved := h.stepLeft hbefore offset
  have hfits := h.fits
  rw [front_append_singleton, length_append_ink] at hfits
  dsimp only
  split
  · exact ⟨h.cols_eq, h.prompt_le, h.head, hmoved.suffix, hmoved.fits,
      drawTail_panel rfl (hmoved.panel.clear hmoved.fits _) hmoved.fits⟩
  · rename_i hinside
    have hend : e.draft.after = [] := Draft.after_eq_nil hinside
    refine ⟨h.cols_eq, h.prompt_le, h.head, hmoved.suffix, hmoved.fits, ?_⟩
    have hpanel : Tail cols (front ++ inkOf shown) (c :: e.draft.after)
        (e.panel.moveTo e.panel.row (e.panel.col - columns c)) := hmoved.panel
    rw [hend] at hpanel
    simp only [moveTo, hend]
    exact hpanel.delete hfits

/-- The character at the cursor is taken from the row. -/
theorem eraseRight (h : Tracks cols bare front shown e) (after : List Char) (count : Nat) :
    Tracks cols bare front shown
      ({ e with
        draft := { e.draft with after }
        panel := (e.panel.delete count).clearToEnd }.drawTail) :=
  ⟨h.cols_eq, h.prompt_le, h.head, h.suffix, h.fits,
    drawTail_panel rfl (h.panel.clear h.fits count) h.fits⟩

end Tracks

/-! ### Edits keep the row in step -/

theorem insert?_inStep (hcols : 3 ≤ cols) (h : InStep cols bare e) (hroom : HasRoom e c)
    (hstep : e.insert? c = some e') : InStep cols bare e' := by
  obtain ⟨front, shown, h⟩ := h
  obtain ⟨front', shown', hturn⟩ := h.turnRight hcols
  have hroom' : e.turnRight.panel.col + columns c ≤ cols := h.cols_eq ▸ hroom
  have hdraft : e.turnRight.draft = e.draft := congrArg Content.draft (content_turnRight e)
  unfold insert? at hstep
  split at hstep
  · cases hstep
  · refine ⟨front', shown' ++ [c], ?_⟩
    dsimp only at hstep
    split at hstep
    · have hput := hturn.squeeze hroom' (e.turnRight.offset + columns c)
      split at hput <;> rename_i hsqueeze <;> rw [hsqueeze] at hstep <;>
        exact Option.some.inj hstep ▸ hput
    · rename_i hinside
      have hend : e.turnRight.draft.after = [] := Draft.after_eq_nil hinside
      exact Option.some.inj hstep ▸ hturn.put hend hroom' _

theorem left?_inStep (hcols : 3 ≤ cols) (h : InStep cols bare e)
    (hback : ∀ c ∈ e.draft.before, 2 * columns c + 1 ≤ cols) (hstep : e.left? = some e') :
    InStep cols bare e' := by
  obtain ⟨front, shown, h⟩ := h
  have hdraft : e.turnLeft.draft = e.draft := congrArg Content.draft (content_turnLeft e)
  cases hbefore : e.draft.before with
  | nil =>
    simp [left?, Draft.left?, hbefore] at hstep
  | cons c before =>
    obtain ⟨front', shown', hturn⟩ :=
      h.turnLeft hcols hbefore (hback c (hbefore ▸ List.mem_cons_self))
    have hmoved := hturn.stepLeft (hdraft ▸ hbefore) (e.turnLeft.offset - columns c)
    simp only [left?, Draft.left?, hbefore, Option.map_some, Option.some.injEq] at hstep
    rw [hdraft] at hmoved
    exact ⟨front', shown', hstep ▸ hmoved⟩

theorem right?_inStep (hcols : 3 ≤ cols) (h : InStep cols bare e)
    (hroom : ∀ c ∈ e.draft.after.head?, HasRoom e c) (hstep : e.right? = some e') :
    InStep cols bare e' := by
  obtain ⟨front, shown, h⟩ := h
  have hdraft : e.turnRight.draft = e.draft := congrArg Content.draft (content_turnRight e)
  obtain ⟨front', shown', hturn⟩ := h.turnRight hcols
  cases hafter : e.draft.after with
  | nil =>
    simp [right?, Draft.right?, hafter] at hstep
  | cons c after =>
    have hroom' : HasRoom e c := hroom c (by rw [hafter]; rfl)
    have hmoved := hturn.stepRight (hdraft ▸ hafter) (h.cols_eq ▸ hroom')
      (e.turnRight.offset + columns c)
    simp only [right?, Draft.right?, hafter, Option.map_some, Option.some.injEq] at hstep
    rw [hdraft] at hmoved
    exact ⟨_, _, hstep ▸ hmoved⟩

theorem backspace?_inStep (hcols : 3 ≤ cols) (h : InStep cols bare e)
    (hback : ∀ c ∈ e.draft.before, 2 * columns c + 1 ≤ cols) (hstep : e.backspace? = some e') :
    InStep cols bare e' := by
  obtain ⟨front, shown, h⟩ := h
  have hdraft : e.turnLeft.draft = e.draft := congrArg Content.draft (content_turnLeft e)
  cases hbefore : e.draft.before with
  | nil =>
    simp [backspace?, Draft.eraseLeft?, hbefore] at hstep
  | cons c before =>
    obtain ⟨front', shown', hturn⟩ :=
      h.turnLeft hcols hbefore (hback c (hbefore ▸ List.mem_cons_self))
    have herased := hturn.eraseLeft (hdraft ▸ hbefore) (e.turnLeft.offset - columns c)
    simp only [backspace?, Draft.eraseLeft?, hbefore, Option.map_some, Option.some.injEq] at hstep
    rw [hdraft] at herased
    exact ⟨front', shown', hstep ▸ herased⟩

theorem delete?_inStep (h : InStep cols bare e) (hstep : e.delete? = some e') :
    InStep cols bare e' := by
  obtain ⟨front, shown, h⟩ := h
  cases hafter : e.draft.after with
  | nil =>
    simp [delete?, Draft.eraseRight?, hafter] at hstep
  | cons c after =>
    simp only [delete?, Draft.eraseRight?, hafter, Option.map_some, Option.some.injEq] at hstep
    exact ⟨front, shown, hstep ▸ h.eraseRight after (columns c)⟩

/-- An emptied line shows the prompt. -/
theorem clear_inStep (h : InStep cols bare e) : InStep cols bare e.clear := by
  obtain ⟨front, shown, h⟩ := h
  have hframed : Framed cols { e with draft := {}, offset := 0 } :=
    ⟨h.cols_eq, h.prompt_le, h.framed.erased⟩
  have hlength : (promptInk e.prompt).length = e.promptColumns := length_promptInk _
  have hprompt := h.prompt_le
  refine ⟨promptInk e.prompt, [], h.cols_eq, h.prompt_le, Or.inl rfl, List.suffix_refl _, ?_, ?_⟩
  · rw [inkOf_nil, List.append_nil]
    omega
  · rw [inkOf_nil, List.append_nil, show e.clear.panel = _ from hframed.drawPrompt_panel]
    exact tail_nil ..

/-- A submitted line leaves the row bare. -/
theorem submit_inStep (hbare : bare) (h : InStep cols bare e) : InStep cols bare e.submit.1 := by
  unfold submit
  split
  · exact h
  · obtain ⟨front, shown, h⟩ := h
    refine ⟨[], [], h.cols_eq, h.prompt_le, Or.inr ⟨hbare, rfl⟩, List.suffix_refl _, Nat.zero_le _, ?_⟩
    dsimp only
    rw [h.framed.erased]
    exact tail_nil ..

/-- A new prompt is drawn with the line. -/
theorem setPrompt_inStep (hcols : 3 ≤ cols) (hcols_eq : e.cols = cols)
    (herased : e.panel.erase = row cols [] []) (prompt : String) :
    InStep cols bare (e.setPrompt prompt) := by
  have hframed : Framed cols { e with prompt := fitting (e.cols / 2) prompt.toList } :=
    ⟨hcols_eq, hcols_eq ▸ columnsOf_fitting .., herased⟩
  have hdrawn : Tracks cols bare _ _ (e.setPrompt prompt) := hframed.redraw hcols false
  refine ⟨_, _, hdrawn⟩

theorem new_inStep (hcols : 3 ≤ cols) (prompt : String) (quiet : Bool) :
    InStep cols bare (new prompt cols quiet) := by
  refine setPrompt_inStep hcols rfl ?_ prompt
  rw [new_eq_row, erase_row]

/-! ### Narrow text -/

/-- The row shows the prompt and the text from some character on, where `shown` is left of the
cursor. -/
structure Mirrors (cols : Nat) (shown : List Char) (e : LineEditor) : Prop where
  cols_eq : e.cols = cols
  prompt_le : e.promptColumns ≤ cols / 2
  suffix : shown <:+ e.draft.before.reverse
  fits : e.promptColumns + columnsOf shown ≤ cols
  panel : e.panel = row cols (promptInk e.prompt ++ inkOf shown) (inkOf e.draft.after)

/-- The row shows the text from some character on. -/
def Mirrored (cols : Nat) (e : LineEditor) : Prop :=
  ∃ shown, Mirrors cols shown e

theorem Mirrors.col_eq (h : Mirrors cols shown e) :
    e.panel.col = e.promptColumns + columnsOf shown := by
  rw [h.panel, row_col, length_left]

/-- Behind the prompt a narrow text is cut at the edge of the row and nowhere else. -/
theorem inStep_iff_mirrored (hafter : Narrow e.draft.after) :
    InStep cols False e ↔ Mirrored cols e := by
  constructor
  · rintro ⟨front, shown, h⟩
    obtain rfl : front = promptInk e.prompt := h.head.resolve_right fun hbare => hbare.1
    exact ⟨shown, h.cols_eq, h.prompt_le, h.suffix, length_left e shown ▸ h.fits,
      (tail_iff_of_narrow h.fits hafter).1 h.panel⟩
  · rintro ⟨shown, h⟩
    have hfits : (promptInk e.prompt ++ inkOf shown).length ≤ cols := by
      rw [length_left]
      exact h.fits
    exact ⟨promptInk e.prompt, shown, h.cols_eq, h.prompt_le, Or.inl rfl, h.suffix, hfits,
      (tail_iff_of_narrow hfits hafter).2 h.panel⟩

end LineEditor
end ChatConsole
