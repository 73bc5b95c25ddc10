/-
# The edits of an editor

Whatever is done with an editor, it makes a sequence of a few edits (`editsOf_apply`).  As long as each
character that is inserted or stepped over has room in the row, they keep the row in step with the text
(`inStep_edit`), wide glyphs or not, and the row is one of whole glyphs from edge to edge
(`spans_edited`).  A narrow character always has room (`inStep_edits_narrow`).
-/

import ChatConsole.Proofs.LineEditor.Mirror
import Mathlib.Logic.Relation

namespace ChatConsole
namespace LineEditor

variable {σ : Type} [Client σ] {fits fits' : LineEditor → Char → Prop} {P : Char → Prop}
  {submits bare : Prop} {cols : Nat} {e f : LineEditor} {a : At σ} {c : Char}

/-! ### Edits -/

/-- One edit.  `fits` says which characters may be inserted in an editor or stepped over, and `submits`
whether the line may be submitted. -/
inductive Edit (fits : LineEditor → Char → Prop) (submits : Prop) : LineEditor → LineEditor → Prop where
  | insert {e f : LineEditor} {c : Char} (hfits : fits e c) (h : e.insert? c = some f) :
      Edit fits submits e f
  | left {e f : LineEditor} (h : e.left? = some f) : Edit fits submits e f
  | right {e f : LineEditor} (hfits : ∀ c ∈ e.draft.after.head?, fits e c) (h : e.right? = some f) :
      Edit fits submits e f
  | backspace {e f : LineEditor} (h : e.backspace? = some f) : Edit fits submits e f
  | delete {e f : LineEditor} (h : e.delete? = some f) : Edit fits submits e f
  | clear (e : LineEditor) : Edit fits submits e e.clear
  | setPrompt (e : LineEditor) (prompt : String) : Edit fits submits e (e.setPrompt prompt)
  | submit (h : submits) (e : LineEditor) : Edit fits submits e e.submit.1
  | round (e : LineEditor) (round : Option Completion.Round) : Edit fits submits e { e with round }

/-- One editor becomes the other by some edits. -/
def Edits (fits : LineEditor → Char → Prop) (submits : Prop) : LineEditor → LineEditor → Prop :=
  Relation.ReflTransGen (Edit fits submits)

/-- Edits that may insert or step over any character. -/
abbrev FreeEdits : LineEditor → LineEditor → Prop :=
  Edits (fun _ _ => True) True

theorem Edit.imp (h : Edit fits submits e f) (hfits : ∀ c, fits e c → fits' e c) :
    Edit fits' submits e f := by
  cases h with
  | insert hc h => exact .insert (hfits _ hc) h
  | left h => exact .left h
  | right hc h => exact .right (fun c hhead => hfits c (hc c hhead)) h
  | backspace h => exact .backspace h
  | delete h => exact .delete h
  | clear => exact .clear _
  | setPrompt => exact .setPrompt ..
  | submit h => exact .submit h _
  | round => exact .round ..

/-! ### What edits do to the text -/

theorem draft_insert? (h : e.insert? c = some f) : f.draft = e.draft.insert c := by
  have hcontent := content_insert? e c
  rw [h] at hcontent
  split at hcontent
  · cases hcontent
  · exact congrArg Content.draft (Option.some.inj hcontent)

/-- A change of the text that an edit makes. -/
theorem draft_of_content {change? : Option (Char × Draft)} {step? : Option LineEditor}
    {g : Char × Draft → Content} (hcontent : step?.map content = change?.map g)
    (hg : ∀ x, (g x).draft = x.2) (hstep : step? = some f) : ∃ c, change? = some (c, f.draft) := by
  rw [hstep, Option.map_some] at hcontent
  obtain ⟨⟨c, draft⟩, hchange, hf⟩ := Option.map_eq_some_iff.1 hcontent.symm
  have hdraft : draft = f.draft := (hg (c, draft)).symm.trans (congrArg Content.draft hf)
  exact ⟨c, hdraft ▸ hchange⟩

/-- Inserting a character takes none away. -/
theorem chars_subset_insert (c : Char) (a : At σ) :
    a.1.draft.chars ⊆ (insert c a).1.draft.chars := by
  obtain ⟨e, s⟩ := a
  unfold insert attempt
  dsimp only
  split
  · rename_i f hsome
    rw [draft_insert? hsome, Draft.chars_insert, Draft.chars]
    exact List.append_subset.2 ⟨List.subset_append_left ..,
      List.Subset.trans (List.subset_cons_self ..) (List.subset_append_right ..)⟩
  · exact List.Subset.refl _

theorem chars_subset_type (cs : List Char) (a : At σ) :
    a.1.draft.chars ⊆ (type cs a).1.draft.chars := by
  induction cs generalizing a with
  | nil => exact List.Subset.refl _
  | cons c cs ih => exact List.Subset.trans (chars_subset_insert c a) (ih (insert c a))

/-- A text of admitted characters stays one. -/
theorem forall_chars_edit (hedit : Edit (fun _ c => P c) submits e f) (h : ∀ c ∈ e.draft.chars, P c) :
    ∀ c ∈ f.draft.chars, P c := by
  cases hedit with
  | insert hc hstep =>
    rw [draft_insert? hstep, Draft.chars_insert]
    obtain ⟨hbefore, hafter⟩ := List.forall_mem_append.1 h
    exact List.forall_mem_append.2 ⟨hbefore, List.forall_mem_cons.2 ⟨hc, hafter⟩⟩
  | left hstep =>
    obtain ⟨c, hleft⟩ := draft_of_content (content_left? e) (fun _ => rfl) hstep
    rwa [Draft.chars_of_left? hleft]
  | right _ hstep =>
    obtain ⟨c, hright⟩ := draft_of_content (content_right? e) (fun _ => rfl) hstep
    rwa [Draft.chars_of_right? hright]
  | backspace hstep =>
    obtain ⟨c, herase⟩ := draft_of_content (content_backspace? e) (fun _ => rfl) hstep
    exact fun d hd => h d (Draft.chars_of_eraseLeft? herase hd)
  | delete hstep =>
    obtain ⟨c, herase⟩ := draft_of_content (content_delete? e) (fun _ => rfl) hstep
    exact fun d hd => h d (Draft.chars_of_eraseRight? herase hd)
  | clear => exact fun c hc => absurd hc List.not_mem_nil
  | setPrompt _ prompt =>
    have hdraft : (e.setPrompt prompt).draft = e.draft :=
      congrArg Content.draft (content_setPrompt e prompt)
    rwa [hdraft]
  | submit =>
    unfold LineEditor.submit
    split
    · exact h
    · exact fun c hc => absurd hc List.not_mem_nil
  | round => exact h

/-! ### What keys do -/

/-- Edits that insert and step over characters of a kind. -/
abbrev EditsOf (P : Char → Prop) : Prop → LineEditor → LineEditor → Prop :=
  Edits fun _ c => P c

theorem edits_attempt {change? : LineEditor → Option LineEditor}
    (h : ∀ {f}, change? a.1 = some f → Edit fits submits a.1 f) :
    Edits fits submits a.1 (attempt change? a).1 := by
  obtain ⟨e, s⟩ := a
  unfold attempt
  dsimp only at h ⊢
  split
  · rename_i f hsome
    exact .single (h hsome)
  · exact .refl

theorem editsOf_insert (h : ∀ d ∈ (insert c a).1.draft.chars, P d) :
    EditsOf P submits a.1 (insert c a).1 := by
  obtain ⟨e, s⟩ := a
  refine edits_attempt ?_
  intro f hsome
  have hinsert : (insert c (e, s)).1 = f := by
    simp only [insert, attempt, hsome]
  rw [hinsert, draft_insert? hsome, Draft.chars_insert] at h
  exact .insert (h c (List.mem_append_right _ List.mem_cons_self)) hsome

theorem editsOf_type (cs : List Char) (h : ∀ d ∈ (type cs a).1.draft.chars, P d) :
    EditsOf P submits a.1 (type cs a).1 := by
  induction cs generalizing a with
  | nil => exact .refl
  | cons c cs ih =>
    have hfirst : ∀ d ∈ (insert c a).1.draft.chars, P d :=
      fun d hd => h d (chars_subset_type cs (insert c a) hd)
    exact (editsOf_insert hfirst).trans (ih h)

theorem editOf_right (h : ∀ c ∈ e.draft.chars, P c) (hstep : e.right? = some f) :
    Edit (fun _ c => P c) submits e f :=
  .right (fun c hc => h c (List.mem_append_right _ (List.mem_of_mem_head? hc))) hstep

theorem editsOf_repeatStep {step? : LineEditor → Option LineEditor}
    (hstep : ∀ {e f}, (∀ c ∈ e.draft.chars, P c) → step? e = some f →
      Edit (fun _ c => P c) submits e f)
    (n : Nat) (h : ∀ c ∈ e.draft.chars, P c) : EditsOf P submits e (repeatStep step? n e) := by
  induction n generalizing e with
  | zero => exact .refl
  | succ n ih =>
    rw [repeatStep]
    split
    · rename_i f hsome
      have hedit := hstep h hsome
      exact (Relation.ReflTransGen.single hedit).trans (ih (forall_chars_edit hedit h))
    · exact .refl

theorem edits_switchWindow (forward : Bool) (a : At σ) :
    Edits fits submits a.1 (switchWindow forward a).1 := by
  obtain ⟨e, s⟩ := a
  unfold switchWindow
  dsimp only
  split
  · exact .single (.setPrompt ..)
  · exact .refl

theorem editsOf_tab (h : ∀ c ∈ (tab a).1.draft.chars, P c) : EditsOf P submits a.1 (tab a).1 := by
  obtain ⟨e, s⟩ := a
  unfold tab at h ⊢
  dsimp only at h ⊢
  split
  · exact .single (.round ..)
  · rename_i hgo
    rw [if_neg hgo] at h
    generalize Completion.press Client.candidates e.round e.draft.chars (Client.inChannel s) s = x at *
    obtain ⟨result, round, s'⟩ := x
    have hround : EditsOf P submits e { e with round } := .single (.round ..)
    cases result with
    | ok line =>
      exact (hround.tail (.clear _)).trans
        (editsOf_type (a := (({ e with round } : LineEditor).clear, s')) line.toList h)
    | error why => exact hround

/-- A key makes edits, of the characters that are in the text before or after. -/
theorem editsOf_apply (key : Key) (h : ∀ c ∈ a.1.draft.chars, P c)
    (h' : ∀ c ∈ (apply key a).1.draft.chars, P c) : EditsOf P submits a.1 (apply key a).1 := by
  unfold apply at h' ⊢
  split
  · exact edits_switchWindow ..
  · exact edits_switchWindow ..
  · exact edits_attempt .left
  · exact edits_attempt .left
  · exact edits_attempt (editOf_right h)
  · exact edits_attempt (editOf_right h)
  · exact edits_attempt .backspace
  · exact edits_attempt .delete
  · exact edits_attempt .delete
  · exact editsOf_repeatStep (fun _ => .left) _ h
  · exact editsOf_repeatStep (fun _ => .left) _ h
  · exact editsOf_repeatStep editOf_right _ h
  · exact editsOf_repeatStep editOf_right _ h
  · rename_i n
    dsimp only at h' ⊢
    cases hmark : markOf? n with
    | none => exact .refl
    | some m =>
      rw [hmark] at h'
      exact editsOf_insert h'
  · exact .refl
  · exact .refl
  · exact .refl
  · exact .refl
  · exact editsOf_tab h'
  · rename_i c
    dsimp only at h' ⊢
    split
    · exact .refl
    · rename_i hprints
      rw [if_neg hprints] at h'
      exact editsOf_insert h'
  · exact .refl

/-! ### Edits with room -/

/-- An edit with room keeps the row in step.  Stepping left needs a row on which the character beside the
cursor can be drawn anew. -/
theorem inStep_edit (hcols : 3 ≤ cols) (h : InStep cols bare e)
    (hback : ∀ c ∈ e.draft.before, 2 * columns c + 1 ≤ cols) (hedit : Edit HasRoom bare e f) :
    InStep cols bare f := by
  cases hedit with
  | insert hroom hstep => exact insert?_inStep hcols h hroom hstep
  | left hstep => exact left?_inStep hcols h hback hstep
  | right hroom hstep => exact right?_inStep hcols h hroom hstep
  | backspace hstep => exact backspace?_inStep hcols h hback hstep
  | delete hstep => exact delete?_inStep h hstep
  | clear => exact clear_inStep h
  | setPrompt _ prompt =>
    obtain ⟨front, shown, h⟩ := h
    exact setPrompt_inStep hcols h.cols_eq h.framed.erased prompt
  | submit hbare => exact submit_inStep hbare h
  | round =>
    obtain ⟨front, shown, h⟩ := h
    exact ⟨front, shown, { h with }⟩

/-- Narrow characters always have room. -/
theorem inStep_edits_narrow (hcols : 3 ≤ cols) (h : InStep cols bare e) (hnarrow : Narrow e.draft.chars)
    (hedits : EditsOf (columns · ≤ 1) bare e f) : InStep cols bare f ∧ Narrow f.draft.chars := by
  induction hedits with
  | refl => exact ⟨h, hnarrow⟩
  | tail _ hedit ih =>
    obtain ⟨⟨front, shown, htracks⟩, hnarrow⟩ := ih
    refine ⟨inStep_edit hcols ⟨front, shown, htracks⟩ ?_ (hedit.imp ?_),
      forall_chars_edit hedit hnarrow⟩
    · intro c hc
      have hone := hnarrow c (List.mem_append_left _ (List.mem_reverse.2 hc))
      omega
    · exact fun c hc => htracks.hasRoom hcols hc

/-- The editor was created for so many columns and has made edits with room. -/
def Edited (cols : Nat) (e : LineEditor) : Prop :=
  ∃ prompt quiet, Edits HasRoom True (new prompt cols quiet) e

/-- **Edits with room keep the row in step with the text.** -/
theorem inStep_edited (hcols : 5 ≤ cols) (h : Edited cols e) : InStep cols True e := by
  have hthree : 3 ≤ cols := Nat.le_trans (by decide) hcols
  obtain ⟨prompt, quiet, hedits⟩ := h
  induction hedits with
  | refl => exact new_inStep hthree prompt quiet
  | tail _ hedit ih =>
    refine inStep_edit hthree ih ?_ hedit
    intro c _
    have hc := columns_le_two c
    omega

/-- The row of such an editor is one of whole glyphs from edge to edge. -/
theorem spans_edited (hcols : 5 ≤ cols) (h : Edited cols e) : e.panel.Spans cols := by
  obtain ⟨front, shown, htracks⟩ := inStep_edited hcols h
  exact htracks.spans

end LineEditor
end ChatConsole
