/-
# The rows of a poured text

A text that is poured with a cap on rows is the same text poured without one and cut (`rows_run_cap`),
and how its characters fall into rows does not depend on the palette (`SameText.run`).  A poured text
ends its last row (`line_ofText`), so that the next text begins on a row of its own: `pour_page` says
what pouring leaves on a grid, whatever was on the grid before.
-/

import ChatConsole.Proofs.Flow.Sheet
import ChatConsole.Proofs.Markup.Seam

namespace ChatConsole

open Markup

namespace Sheet

variable {m : Measure} {s : Sheet}

/-! ### The cap on rows -/

/-- The measure without a cap. -/
def uncapped (m : Measure) : Measure :=
  { m with cap := 0 }

@[simp] theorem isFull_uncapped (s : Sheet) : s.isFull (uncapped m) = false := by
  simp [isFull, uncapped]

@[simp] theorem rows_addBlanks (n : Nat) (s : Sheet) : (s.addBlanks n).rows = s.rows := rfl

@[simp] theorem rows_addGlyph (c : Char) (s : Sheet) : (s.addGlyph c).rows = s.rows := by
  unfold addGlyph
  split <;> rfl

@[simp] theorem rows_carry (c : Char) (rest : List Token) (s : Sheet) :
    (s.carry m c rest).rows = s.rows := by
  unfold carry
  split
  · split <;> rfl
  split
  · rfl
  · rw [rows_addGlyph, rows_addBlanks]

@[simp] theorem rows_turn (c : Char) (rest : List Token) (s : Sheet) :
    (s.turn m c rest).rows = s.rows ++ [s.line] := by
  unfold turn
  split
  · rfl
  · rw [rows_carry, endRow]

/-- One token ends one row at most. -/
theorem rows_step (t : Token) (rest : List Token) (s : Sheet) :
    (s.step m t rest).rows = s.rows ∨ (s.step m t rest).rows = s.rows ++ [s.line] := by
  cases t with
  | toggle | plain | color => exact Or.inl rfl
  | glyph c =>
    simp only [step, takeGlyph]
    cases place m c rest s.line.length with
    | nowhere => exact Or.inl rfl
    | here => exact Or.inl (rows_addGlyph c s)
    | next => exact Or.inr (rows_turn c rest s)

/-- Rows that were ended stay as they are. -/
theorem rows_prefix_run (ts : List Token) (s : Sheet) : s.rows <+: (s.run m ts).rows := by
  induction ts generalizing s with
  | nil => exact List.prefix_refl _
  | cons t ts ih =>
    have hstep : s.rows <+: (s.step m t ts).rows := by
      rcases rows_step (m := m) t ts s with h | h
      · simp only [h, List.prefix_refl]
      · simp only [h, List.prefix_append]
    rw [run]
    split
    · exact hstep
    · exact hstep.trans (ih _)

/-- The cap has no say in which row a token ends. -/
theorem rows_step_uncapped (t : Token) (rest : List Token) (s : Sheet) :
    (s.step (uncapped m) t rest).rows = (s.step m t rest).rows := by
  cases t with
  | toggle | plain | color => rfl
  | glyph c =>
    have hplace : place (uncapped m) c rest s.line.length = place m c rest s.line.length := rfl
    simp only [step, takeGlyph, hplace]
    cases place m c rest s.line.length <;> simp

/-- A token that does not reach the cap is taken as if there were none. -/
theorem step_uncapped {t : Token} {rest : List Token} (h : (s.step m t rest).isFull m = false) :
    s.step (uncapped m) t rest = s.step m t rest := by
  cases t with
  | toggle | plain | color => rfl
  | glyph c =>
    have hplace : place (uncapped m) c rest s.line.length = place m c rest s.line.length := rfl
    simp only [step, takeGlyph, hplace] at h ⊢
    cases hp : place m c rest s.line.length with
    | nowhere | here => rfl
    | next =>
      rw [hp] at h
      have hfull : s.endRow.isFull m = false := by
        simpa [isFull, endRow] using h
      simp only [turn, isFull_uncapped, hfull]
      rfl

/-- Pouring with a cap gives the first rows of pouring without one. -/
theorem rows_run_cap (ts : List Token) {s : Sheet} (hcap : 0 < m.cap)
    (hroom : s.rows.length < m.cap) :
    (s.run m ts).rows = (s.run (uncapped m) ts).rows.take m.cap := by
  induction ts generalizing s with
  | nil => exact (List.take_of_length_le (Nat.le_of_lt hroom)).symm
  | cons t ts ih =>
    have hrun : s.run (uncapped m) (t :: ts) = (s.step (uncapped m) t ts).run (uncapped m) ts := by
      simp [run]
    rw [hrun, run]
    by_cases hfull : (s.step m t ts).isFull m = true
    · -- The cap is reached with this token, so the rows ended by it are all there is to keep.
      have hlen : (s.step m t ts).rows.length = m.cap := by
        have hreached : m.cap ≤ (s.step m t ts).rows.length := by
          simpa [isFull, hcap] using hfull
        rcases rows_step (m := m) t ts s with h | h
        · rw [h] at hreached ⊢
          omega
        · rw [h, List.length_append, List.length_singleton] at hreached ⊢
          omega
      have hprefix := rows_prefix_run (m := uncapped m) ts (s.step (uncapped m) t ts)
      rw [rows_step_uncapped] at hprefix
      rw [if_pos hfull, ← hlen]
      exact List.prefix_iff_eq_take.1 hprefix
    · rw [Bool.not_eq_true] at hfull
      rw [if_neg (by simp [hfull]), step_uncapped hfull]
      refine ih ?_
      simpa [isFull, hcap] using hfull

/-! ### The end of the text -/

/-- The token that reaches the cap leaves no row in progress. -/
theorem line_step_of_isFull {t : Token} {rest : List Token} (hroom : s.isFull m = false)
    (h : (s.step m t rest).isFull m = true) : (s.step m t rest).line = [] := by
  cases t with
  | toggle | plain | color => exact absurd (h.symm.trans hroom) Bool.noConfusion
  | glyph c =>
    simp only [step, takeGlyph] at h ⊢
    cases hp : place m c rest s.line.length with
    | nowhere =>
      rw [hp] at h
      exact absurd (h.symm.trans hroom) Bool.noConfusion
    | here =>
      rw [hp] at h
      have hglyph : (s.addGlyph c).isFull m = s.isFull m := by simp [isFull]
      exact absurd (h.symm.trans (hglyph.trans hroom)) Bool.noConfusion
    | next =>
      rw [hp] at h
      have hfull : s.endRow.isFull m = true := by
        simpa [isFull, endRow] using h
      simp only [turn, hfull, if_true]
      rfl

/-- A text that ends its last row leaves no row in progress. -/
theorem line_run_newline (ts : List Token) {s : Sheet} (hroom : s.isFull m = false) :
    (s.run m (ts ++ [.glyph '\n'])).line = [] := by
  induction ts generalizing s with
  | nil =>
    have hplace : place m '\n' [] s.line.length = .next := by simp [place]
    have hstep : (s.step m (.glyph '\n') []).line = [] := by
      simp only [step, takeGlyph, hplace, turn]
      split <;> simp [carry, endRow]
    simp [run, hstep]
  | cons t ts ih =>
    rw [List.cons_append, run]
    by_cases hfull : (s.step m t (ts ++ [.glyph '\n'])).isFull m = true
    · rw [if_pos hfull]
      exact line_step_of_isFull hroom hfull
    · rw [if_neg hfull]
      exact ih (by simpa using hfull)

/-- A text that ends its last row ends one row at least. -/
theorem rows_run_newline (ts : List Token) (s : Sheet) :
    (s.run m (ts ++ [.glyph '\n'])).rows ≠ [] := by
  induction ts generalizing s with
  | nil =>
    have hplace : place m '\n' [] s.line.length = .next := by simp [place]
    have hstep : (s.step m (.glyph '\n') []).rows = s.rows ++ [s.line] := by
      simp [step, takeGlyph, hplace]
    simp [run, hstep]
  | cons t ts ih =>
    rw [List.cons_append, run]
    split
    · rename_i hfull
      intro hnil
      simp [isFull, hnil] at hfull
      omega
    · exact ih _

/-! ### The palette -/

/-- Two sheets with the same characters in the same cells. -/
structure SameText (s t : Sheet) : Prop where
  rows : s.rows.map (List.map Cell.char) = t.rows.map (List.map Cell.char)
  line : s.line.map Cell.char = t.line.map Cell.char

variable {t : Sheet}

theorem SameText.length_line (h : SameText s t) : s.line.length = t.line.length := by
  simpa using congrArg List.length h.line

theorem SameText.length_rows (h : SameText s t) : s.rows.length = t.rows.length := by
  simpa using congrArg List.length h.rows

theorem SameText.isFull (h : SameText s t) : s.isFull m = t.isFull m := by
  simp [Sheet.isFull, h.length_rows]

theorem SameText.endRow (h : SameText s t) : SameText s.endRow t.endRow where
  rows := by simp [Sheet.endRow, h.rows, h.line]
  line := rfl

theorem SameText.addBlanks (h : SameText s t) (n : Nat) : SameText (s.addBlanks n) (t.addBlanks n) where
  rows := h.rows
  line := by simp [Sheet.addBlanks, h.line]

theorem SameText.addGlyph (h : SameText s t) (c : Char) : SameText (s.addGlyph c) (t.addGlyph c) := by
  unfold Sheet.addGlyph
  split
  · exact h
  · exact ⟨h.rows, by simp [Cell.ofGlyph, h.line]⟩

theorem SameText.carry (h : SameText s t) (c : Char) (rest : List Token) :
    SameText (s.carry m c rest) (t.carry m c rest) := by
  unfold Sheet.carry
  split
  · split
    · exact h
    · exact h.addBlanks _
  split
  · exact h.addBlanks _
  · exact (h.addBlanks _).addGlyph c

theorem SameText.step (h : SameText s t) (tok : Token) (rest : List Token) :
    SameText (s.step m tok rest) (t.step m tok rest) := by
  cases tok with
  | toggle | plain | color => exact ⟨h.rows, h.line⟩
  | glyph c =>
    simp only [Sheet.step, takeGlyph, h.length_line]
    cases place m c rest t.line.length with
    | nowhere => exact h
    | here => exact h.addGlyph c
    | next =>
      simp only [turn, h.endRow.isFull]
      split
      · exact h.endRow
      · exact h.endRow.carry c rest

/-- **Palette and pen have no say in where the characters of a text go.** -/
theorem SameText.run (ts : List Token) (h : SameText s t) :
    SameText (s.run m ts) (t.run m ts) := by
  induction ts generalizing s t with
  | nil => exact h
  | cons tok ts ih =>
    have hstep := h.step (m := m) tok ts
    rw [Sheet.run, Sheet.run, hstep.isFull]
    split
    · exact hstep
    · exact ih hstep

/-! ### A poured text -/

theorem pouredTokens_wrapped (text : String) :
    pouredTokens text true = tokens (text.toList.map evenSpace) ++ [.glyph '\n'] := by
  have hnewline : EndsCode ['\n'] := endsCode_cons (by decide) (by decide)
  rw [pouredTokens, if_pos rfl, tokens_append hnewline]
  simp [tokens, show Mark.ofChar? '\n' = none by decide]

theorem isFull_blank (m : Measure) (palette : Color.Palette) :
    ({ palette } : Sheet).isFull m = false := by
  simp [isFull]
  omega

variable (palette : Color.Palette) (text : String) (width indent cap : Nat)

/-- A poured text leaves no row in progress. -/
theorem line_ofText : (ofText palette text width indent cap).line = [] := by
  rw [ofText, pouredTokens_wrapped]
  exact line_run_newline _ (isFull_blank _ _)

/-- A poured text takes one row at least. -/
theorem rows_ofText_ne_nil : (ofText palette text width indent cap).rows ≠ [] := by
  rw [ofText, pouredTokens_wrapped]
  exact rows_run_newline _ _

/-- How many rows a text takes does not depend on the palette. -/
theorem length_rows_ofText (palette' : Color.Palette) :
    (ofText palette text width indent cap).rows.length
      = (ofText palette' text width indent cap).rows.length :=
  (SameText.run (s := { palette }) (t := { palette := palette' }) _ ⟨rfl, rfl⟩).length_rows

/-- With a cap on rows a text leaves its first rows. -/
theorem rows_ofText_cap (hcap : 0 < cap) :
    (ofText palette text width indent cap).rows
      = (ofText palette text width indent 0).rows.take cap :=
  rows_run_cap _ hcap hcap

end Sheet

open Sheet

variable {g : Grid} {ended : List (List Cell)}

namespace Grid

/-- A grid of two columns and a row takes a text that is not empty. -/
theorem takes_page (hh : 0 < g.height) (hw : 2 ≤ g.width) {text : String} (htext : text ≠ "") :
    ¬(text.isEmpty || (g.page ended [] []).width < 2 || (g.page ended [] []).height = 0) = true := by
  rw [page_width, page_height hh]
  simp only [Bool.or_eq_true, decide_eq_true_eq, String.isEmpty_iff, not_or]
  exact ⟨⟨htext, by omega⟩, by omega⟩

/-- Pouring a text begins with a blank sheet. -/
theorem start_eq_onto (palette : Color.Palette) :
    { grid := g.page ended [] [], palette : Flow } = ({ palette } : Sheet).onto g ended := by
  simp [onto]

/-- **What pouring a text leaves on a grid**: the rows of the text, after what was there before. -/
theorem pour_page (hs : g.scrolls = true) (hh : 0 < g.height) (hw : 2 ≤ g.width)
    (palette : Color.Palette) {text : String} (htext : text ≠ "") (indent cap : Nat) :
    let s := ofText palette text g.width indent cap
    (g.page ended [] []).pour palette text indent cap =
      ⟨{ g with style := {} }.page (ended ++ s.rows.map g.fill) [] [], s.palette, s.rows.length⟩ := by
  intro s
  have hline : s.line = [] := line_ofText palette text g.width indent cap
  have hrun : Flow.run (.of g.width indent cap) (pouredTokens text true)
      { grid := g.page ended [] [], palette } = s.onto g ended := by
    rw [start_eq_onto]
    exact run_onto hs hh (Measure.fits_of hw indent cap) _ (Nat.zero_le _)
  have htokens : pouredTokens text (g.page ended [] []).scrolls = pouredTokens text true := by
    rw [page_scrolls, hs]
  rw [pour, if_neg (takes_page hh hw htext), page_width, htokens]
  simp only [hrun, onto, hline]
  rfl

end Grid
end ChatConsole
