/-
# The row of a line that has not been submitted

Until a line is submitted, keys, inserted characters and new prompts in any order keep the row of the
editor in step with its text (`row_mirrors_draft`).  Only wide characters are left out: a wide glyph may
be cut at the edge of the row.
-/

import ChatConsole.Proofs.LineEditor.Blind
import ChatConsole.Proofs.LineEditor.Edits

namespace ChatConsole
namespace LineEditor

variable {σ : Type} [Client σ]

/-! ### What can be done with an editor -/

/-- What can be done with an editor. -/
inductive Action where
  | press (key : Key)
  | insert (c : Char)
  /-- The prompt changes, as when the window does. -/
  | setPrompt (prompt : String)

/-- Do one thing; a key may have an outcome. -/
def act (x : Action) (a : At σ) : At σ × Option Outcome :=
  match x with
  | .press key => handle key a
  | .insert c => (insert c a, none)
  | .setPrompt prompt => ((a.1.setPrompt prompt, a.2), none)

/-- Do one thing after another. -/
def actAll (xs : List Action) (a : At σ) : At σ :=
  xs.foldl (fun a x => (act x a).1) a

/-- Whether an outcome is a line. -/
def isLine : Option Outcome → Bool
  | some (.submitted _) => true
  | _ => false

/-- No line is submitted. -/
def NoLine : List Action → At σ → Prop
  | [], _ => True
  | x :: xs, a => isLine (act x a).2 = false ∧ NoLine xs (act x a).1

/-- The text is narrow after each action. -/
def NarrowAlong : List Action → At σ → Prop
  | [], _ => True
  | x :: xs, a => Narrow (act x a).1.1.draft.chars ∧ NarrowAlong xs (act x a).1

instance (cs : List Char) : Decidable (Narrow cs) :=
  decidable_of_iff (cs.all fun c => columns c ≤ 1) (by simp [Narrow])

instance : ∀ (xs : List Action) (a : At σ), Decidable (NoLine xs a)
  | [], _ => inferInstanceAs (Decidable True)
  | x :: xs, a =>
    have := instDecidableNoLine xs (act x a).1
    inferInstanceAs (Decidable (_ ∧ _))

instance : ∀ (xs : List Action) (a : At σ), Decidable (NarrowAlong xs a)
  | [], _ => inferInstanceAs (Decidable True)
  | x :: xs, a =>
    have := instDecidableNarrowAlong xs (act x a).1
    inferInstanceAs (Decidable (_ ∧ _))

/-! ### The edits they make -/

variable {P : Char → Prop} {submits : Prop} {cols : Nat} {a : At σ}

theorem editsOf_handle (key : Key) (hline : isLine (handle key a).2 = true → submits)
    (h : ∀ c ∈ a.1.draft.chars, P c) (h' : ∀ c ∈ (handle key a).1.1.draft.chars, P c) :
    EditsOf P submits a.1 (handle key a).1.1 := by
  obtain ⟨e, s⟩ := a
  have hround : EditsOf P submits e (if key = .tab then e else { e with round := none }) := by
    split
    · exact .refl
    · exact .single (.round ..)
  have hdraft : (if key = .tab then e else { e with round := none }).draft = e.draft := by
    split <;> rfl
  rw [← hdraft] at h
  unfold handle at hline h' ⊢
  dsimp only at hline h' ⊢
  generalize (if key = .tab then e else { e with round := none }) = f at *
  cases key with
  | up | down | bell => exact hround
  | enter =>
    simp only [submit] at hline ⊢
    split
    · exact hround
    · rename_i hsome
      rw [if_neg hsome] at hline
      have hedit : Edit (fun _ c => P c) submits f f.submit.1 := .submit (hline rfl) f
      rw [LineEditor.submit, if_neg hsome] at hedit
      exact hround.tail hedit
  | char | backspace | tab | escape | left | right | altUp | altDown | home | lineEnd | delete | pageUp
  | pageDown | function | control | unknown =>
    exact hround.trans (editsOf_apply (a := (f, s)) _ h h')

theorem editsOf_act (x : Action) (hline : isLine (act x a).2 = true → submits)
    (h : ∀ c ∈ a.1.draft.chars, P c) (h' : ∀ c ∈ (act x a).1.1.draft.chars, P c) :
    EditsOf P submits a.1 (act x a).1.1 := by
  cases x with
  | press key => exact editsOf_handle key hline h h'
  | insert c => exact editsOf_insert h'
  | setPrompt prompt => exact .single (.setPrompt ..)

/-- **Whatever is done with an editor, it makes edits.** -/
theorem edits_actAll (xs : List Action) (a : At σ) : FreeEdits a.1 (actAll xs a).1 := by
  induction xs generalizing a with
  | nil => exact .refl
  | cons x xs ih =>
    have hfirst : FreeEdits a.1 (act x a).1.1 :=
      editsOf_act x (fun _ => trivial) (fun _ _ => trivial) (fun _ _ => trivial)
    exact hfirst.trans (ih (act x a).1)

/-- If the text is narrow all along, so are the characters of the edits. -/
theorem editsOf_actAll (xs : List Action) (hnarrow : Narrow a.1.draft.chars) (hline : NoLine xs a)
    (hall : NarrowAlong xs a) : EditsOf (columns · ≤ 1) False a.1 (actAll xs a).1 := by
  induction xs generalizing a with
  | nil => exact .refl
  | cons x xs ih =>
    obtain ⟨hnone, hlines⟩ := hline
    obtain ⟨hnarrow', hrest⟩ := hall
    have hfirst : EditsOf (columns · ≤ 1) False a.1 (act x a).1.1 :=
      editsOf_act x (fun hsome => absurd (hnone.symm.trans hsome) Bool.false_ne_true) hnarrow hnarrow'
    exact hfirst.trans (ih hnarrow' hlines hrest)

/-! ### The row -/

theorem new_mirrored (hcols : 3 ≤ cols) (prompt : String) (quiet : Bool) :
    Mirrored cols (new prompt cols quiet) := by
  refine (inStep_iff_mirrored ?_).1 (new_inStep hcols prompt quiet)
  have hempty : (new prompt cols quiet).draft = {} :=
    congrArg Content.draft (content_new prompt cols quiet)
  rw [hempty]
  exact fun _ hc => absurd hc List.not_mem_nil

theorem actAll_mirrored (hcols : 3 ≤ cols) (xs : List Action) (h : Mirrored cols a.1)
    (hnarrow : Narrow a.1.draft.chars) (hline : NoLine xs a) (hall : NarrowAlong xs a) :
    Mirrored cols (actAll xs a).1 := by
  obtain ⟨hstep, hnarrow'⟩ := inStep_edits_narrow hcols
    ((inStep_iff_mirrored (narrow_after hnarrow)).2 h) hnarrow (editsOf_actAll xs hnarrow hline hall)
  exact (inStep_iff_mirrored (narrow_after hnarrow')).1 hstep

/-- **The row mirrors the draft.**  Whatever is done with an editor of three columns or more, as long as
no line is submitted and no character is wide, there is a character, left of the cursor or at it, from
which on the row shows the text: the row is the cells of the prompt, which take half of it at most, and
then those of the text from that character on, a mark being its letter in reverse and a character
without a column nothing, cut at the edge or filled up with blanks.  The cursor stands behind the cells
of the characters left of it. -/
theorem row_mirrors_draft (hcols : 3 ≤ cols) (prompt : String) (quiet : Bool) (s : σ)
    (xs : List Action) (hline : NoLine xs (new prompt cols quiet, s))
    (hnarrow : NarrowAlong xs (new prompt cols quiet, s)) :
    let e := (actAll xs (new prompt cols quiet, s)).1
    ∃ start ≤ e.draft.position,
      e.panel.rows = [(promptInk e.prompt ++ inkOf (e.draft.chars.drop start)).takeD cols {}] ∧
      e.panel.row = 0 ∧
      e.panel.col
        = e.promptColumns + columnsOf ((e.draft.chars.take e.draft.position).drop start) ∧
      e.panel.col ≤ cols ∧ e.promptColumns ≤ cols / 2 := by
  intro e
  have hstart : Narrow (new prompt cols quiet).draft.chars := by
    have hempty : (new prompt cols quiet).draft = {} :=
      congrArg Content.draft (content_new prompt cols quiet)
    rw [hempty]
    exact fun _ hc => absurd hc List.not_mem_nil
  obtain ⟨shown, h⟩ : Mirrored cols e :=
    actAll_mirrored hcols xs (new_mirrored hcols prompt quiet) hstart hline hnarrow
  obtain ⟨hidden, hhidden⟩ := h.suffix
  have hposition : e.draft.position = hidden.length + shown.length := by
    rw [Draft.position, ← List.length_reverse, ← hhidden, List.length_append]
  have hbefore : e.draft.chars.take e.draft.position = hidden ++ shown := by
    rw [Draft.chars, Draft.position, ← List.length_reverse, List.take_left, hhidden]
  have hfrom : e.draft.chars.drop hidden.length = shown ++ e.draft.after := by
    rw [Draft.chars, ← hhidden, List.append_assoc, List.drop_left]
  refine ⟨hidden.length, by omega, ?_, ?_, ?_, ?_, h.prompt_le⟩
  · rw [hfrom, h.panel, rows_row, inkOf_append, List.append_assoc]
  · rw [h.panel, row_zero]
  · rw [hbefore, List.drop_left, h.col_eq]
  · rw [h.col_eq]
    exact h.fits

/-- A row of five columns that has turned: of a mark, a letter with an accent and three more letters, of
which one has been removed, the last two are on it, behind the second prompt. -/
theorem row_mirrors_draft_turned :
    let xs := [.insert '\x02', .insert 'e', .insert '\u0301', .insert 'b', .press (.char 'c'),
      .insert 'd', .press .left, .press .backspace, .setPrompt "> ", .press (.function 9)]
    let a := actAll xs (new "#lean: " 5 false, (⟨"", []⟩ : Fixed))
    NoLine xs (new "#lean: " 5 false, (⟨"", []⟩ : Fixed)) ∧
      NarrowAlong xs (new "#lean: " 5 false, (⟨"", []⟩ : Fixed)) ∧
      a.1.draft.chars = ['\x02', 'e', '\u0301', 'b', '\x16', 'd'] ∧
      (∃ start ≤ a.1.draft.position, a.1.panel.rows
        = [(promptInk a.1.prompt ++ inkOf (a.1.draft.chars.drop start)).takeD 5 {}]) ∧
      a.1.panel.rowText 0 = ['>', ' ', 'b', 'R', 'd'] := by
  intro xs a
  have hline : NoLine xs (new "#lean: " 5 false, (⟨"", []⟩ : Fixed)) := by decide +kernel
  have hnarrow : NarrowAlong xs (new "#lean: " 5 false, (⟨"", []⟩ : Fixed)) := by decide +kernel
  obtain ⟨start, hstart, hrows, -⟩ :=
    row_mirrors_draft (by decide) "#lean: " false (⟨"", []⟩ : Fixed) xs hline hnarrow
  have hchars : a.1.draft.chars = ['\x02', 'e', '\u0301', 'b', '\x16', 'd'] := by decide +kernel
  have hshown : a.1.panel.rowText 0 = ['>', ' ', 'b', 'R', 'd'] := by decide +kernel
  exact ⟨hline, hnarrow, hchars, ⟨start, hstart, hrows⟩, hshown⟩

end LineEditor
end ChatConsole
