/-
# Pouring a text again

The cells that a text leaves depend on the palette through the slots of its colours.  A palette that is
painted with only grows, and in any later palette the colours have the same slots: pouring the text
again leaves the same rows, and the palette as it is (`ofText_of_le`).
-/

import ChatConsole.Proofs.Color.Growth
import ChatConsole.Proofs.Flow.Sheet

namespace ChatConsole

open Markup

namespace Markup.Pen

variable {pen : Pen} {p q : Color.Palette} {t : Token}

theorem le_read (pen : Pen) (p : Color.Palette) (t : Token) : p ≤ (pen.read p t).2 := by
  cases t with
  | color code => exact Color.Palette.le_resolve p code
  | toggle | plain | glyph => exact le_refl p

/-- A token that was read once is read alike ever after. -/
theorem read_of_le (h : (pen.read p t).2 ≤ q) : pen.read q t = ((pen.read p t).1, q) := by
  cases t with
  | color code =>
    have hcode : (p.resolve code).2 ≤ q := h
    simp only [read, Color.Palette.resolve_of_le hcode]
  | toggle | plain | glyph => rfl

end Markup.Pen

namespace Sheet

variable {m : Measure} {s : Sheet} {q : Color.Palette}

/-- The same sheet, to go on with another palette. -/
def withPalette (s : Sheet) (q : Color.Palette) : Sheet :=
  { s with palette := q }

/-! ### Characters do not use the palette -/

theorem addGlyph_withPalette (c : Char) :
    (s.withPalette q).addGlyph c = (s.addGlyph c).withPalette q := by
  unfold addGlyph
  split <;> rfl

theorem carry_withPalette (c : Char) (rest : List Token) :
    (s.withPalette q).carry m c rest = (s.carry m c rest).withPalette q := by
  unfold carry
  split
  · split <;> rfl
  split
  · rfl
  · exact addGlyph_withPalette (s := s.addBlanks m.indent) c

theorem takeGlyph_withPalette (c : Char) (rest : List Token) :
    (s.withPalette q).takeGlyph m c rest = (s.takeGlyph m c rest).withPalette q := by
  have hline : (s.withPalette q).line = s.line := rfl
  unfold takeGlyph
  rw [hline]
  cases place m c rest s.line.length with
  | nowhere => rfl
  | here => exact addGlyph_withPalette c
  | next =>
    have hend : (s.withPalette q).endRow = s.endRow.withPalette q := rfl
    have hfull : (s.endRow.withPalette q).isFull m = s.endRow.isFull m := rfl
    dsimp only
    unfold turn
    rw [hend, hfull]
    split
    · rfl
    · exact carry_withPalette (s := s.endRow) c rest

@[simp] theorem palette_takeGlyph (c : Char) (rest : List Token) :
    (s.takeGlyph m c rest).palette = s.palette := by
  have hsame : (s.withPalette s.palette).takeGlyph m c rest
      = (s.takeGlyph m c rest).withPalette s.palette := takeGlyph_withPalette c rest
  have hpalette : (s.takeGlyph m c rest).palette
      = ((s.takeGlyph m c rest).withPalette s.palette).palette := congrArg Sheet.palette hsame
  rw [hpalette, withPalette]

/-! ### The palette only grows -/

theorem le_palette_step (t : Token) (rest : List Token) (s : Sheet) :
    s.palette ≤ (s.step m t rest).palette := by
  cases t with
  | glyph c =>
    rw [step, palette_takeGlyph]
  | toggle | plain | color => exact Pen.le_read ..

theorem le_palette_run (ts : List Token) (s : Sheet) : s.palette ≤ (s.run m ts).palette := by
  induction ts generalizing s with
  | nil => exact le_refl _
  | cons t ts ih =>
    rw [run]
    split
    · exact le_palette_step t ts s
    · exact le_trans (le_palette_step t ts s) (ih _)

/-! ### The same again in a later palette -/

theorem step_of_le {t : Token} {rest : List Token} (h : (s.step m t rest).palette ≤ q) :
    (s.withPalette q).step m t rest = (s.step m t rest).withPalette q := by
  cases t with
  | glyph c => exact takeGlyph_withPalette c rest
  | toggle | plain | color =>
    have hpen := Pen.read_of_le h
    simp only [step, withPalette] at hpen ⊢
    rw [hpen]

theorem run_of_le {ts : List Token} (h : (s.run m ts).palette ≤ q) :
    (s.withPalette q).run m ts = (s.run m ts).withPalette q := by
  induction ts generalizing s with
  | nil => rfl
  | cons t ts ih =>
    have hfull : ((s.step m t ts).withPalette q).isFull m = (s.step m t ts).isFull m := rfl
    rw [run] at h
    rw [run, run]
    by_cases hstop : (s.step m t ts).isFull m = true
    · rw [if_pos hstop] at h ⊢
      rw [step_of_le h, hfull, if_pos hstop]
    · rw [if_neg hstop] at h ⊢
      have hstep : (s.step m t ts).palette ≤ q := le_trans (le_palette_run ts _) h
      rw [step_of_le hstep, hfull, if_neg hstop]
      exact ih h

theorem le_palette_ofText (p : Color.Palette) (text : String) (width indent cap : Nat) :
    p ≤ (ofText p text width indent cap).palette :=
  le_palette_run (m := .of width indent cap) _ ({ palette := p } : Sheet)

/-- **A text is poured alike in every later palette**, and pouring it registers nothing more. -/
theorem ofText_of_le {p : Color.Palette} {text : String} {width indent cap : Nat}
    (h : (ofText p text width indent cap).palette ≤ q) :
    ofText q text width indent cap = (ofText p text width indent cap).withPalette q :=
  run_of_le h

end Sheet
end ChatConsole
