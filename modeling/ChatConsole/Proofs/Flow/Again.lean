/-
# Pouring onto a grid again

The colours of a text get their slots when it is poured, and keep them in every later palette.  So the
same text poured onto the same grid in a later palette leaves the same grid, and the palette as it is
(`pour_of_le`).  This holds for grids of either kind, those that scroll and those that do not.
-/

import ChatConsole.Proofs.Flow.Repaint
import ChatConsole.Proofs.Flow.Frame

namespace ChatConsole

open Markup

namespace Flow

variable {m : Measure} {s : Flow} {q : Color.Palette}

/-- The same flow, to go on with another palette. -/
def withPalette (s : Flow) (q : Color.Palette) : Flow :=
  { s with palette := q }

/-! ### Characters do not use the palette -/

theorem addBlanks_withPalette (n : Nat) (s : Flow) :
    (s.withPalette q).addBlanks n = (s.addBlanks n).withPalette q := by
  induction n generalizing s with
  | zero => rfl
  | succ n ih => exact ih { s with grid := _, column := _ }

theorem addGlyph_withPalette (c : Char) (s : Flow) :
    (s.withPalette q).addGlyph c = (s.addGlyph c).withPalette q := by
  have hput : (s.withPalette q).grid.put? c (s.withPalette q).pen.style
      = s.grid.put? c s.pen.style := rfl
  unfold addGlyph
  rw [hput]
  split <;> rfl

theorem placeGlyph_withPalette (c : Char) :
    (s.withPalette q).placeGlyph c = (s.placeGlyph c).withPalette q := by
  unfold placeGlyph
  split
  · rfl
  · exact addGlyph_withPalette c s

theorem wrapGlyph_withPalette (c : Char) (rest : List Token) :
    (s.withPalette q).wrapGlyph m c rest = (s.wrapGlyph m c rest).withPalette q := by
  have hend : (s.withPalette q).endRow = s.endRow.withPalette q := rfl
  have hfull : (s.endRow.withPalette q).isFull m = s.endRow.isFull m := rfl
  have hcolumn : (s.withPalette q).column = s.column := rfl
  unfold wrapGlyph
  rw [hend, hcolumn]
  dsimp only
  rw [hfull, addBlanks_withPalette]
  split
  · split <;> rfl
  split
  · rfl
  split
  · exact addGlyph_withPalette c s
  split
  · rfl
  split
  · rfl
  · exact addGlyph_withPalette ..

/-- Taking a character of a text commutes with a change of palette. -/
theorem step_glyph_withPalette (c : Char) (rest : List Token) :
    (s.withPalette q).step m (.glyph c) rest = (s.step m (.glyph c) rest).withPalette q := by
  have hscrolls : (s.withPalette q).grid.scrolls = s.grid.scrolls := rfl
  rw [step, step, hscrolls]
  split
  · exact wrapGlyph_withPalette c rest
  · exact placeGlyph_withPalette c

theorem palette_step_glyph (c : Char) (rest : List Token) (s : Flow) :
    (s.step m (.glyph c) rest).palette = s.palette := by
  have hsame : s.step m (.glyph c) rest = (s.step m (.glyph c) rest).withPalette s.palette :=
    step_glyph_withPalette c rest
  rw [hsame, withPalette]

/-- A mark is read by the pen, and changes nothing on the grid. -/
theorem step_mark {t : Token} {rest : List Token} (ht : t.shown? = none) :
    s.step m t rest
      = { s with pen := (s.pen.read s.palette t).1, palette := (s.pen.read s.palette t).2 } := by
  cases t with
  | glyph c => cases ht
  | toggle | plain | color => rfl

/-! ### The palette only grows -/

theorem le_palette_step (t : Token) (rest : List Token) (s : Flow) :
    s.palette ≤ (s.step m t rest).palette := by
  cases t with
  | glyph c => rw [palette_step_glyph]
  | toggle | plain | color =>
    rw [step_mark rfl]
    exact Pen.le_read ..

theorem le_palette_run (ts : List Token) (s : Flow) : s.palette ≤ (s.run m ts).palette := by
  induction ts generalizing s with
  | nil => exact le_refl _
  | cons t ts ih =>
    rw [run]
    split
    · exact le_palette_step t ts s
    · exact le_trans (le_palette_step t ts s) (ih _)

/-! ### The same again in a later palette -/

theorem step_of_le {t : Token} {rest : List Token} (h : (s.step m t rest).palette ≤ q) :
    (s.withPalette q).step m t rest = (s.step m t rest).withPalette q := by
  cases t with
  | glyph c => exact step_glyph_withPalette c rest
  | toggle | plain | color =>
    rw [step_mark rfl] at h
    have hread := Pen.read_of_le h
    rw [step_mark rfl, step_mark rfl]
    simp only [withPalette, hread]

theorem run_of_le {ts : List Token} (h : (s.run m ts).palette ≤ q) :
    (s.withPalette q).run m ts = (s.run m ts).withPalette q := by
  induction ts generalizing s with
  | nil => rfl
  | cons t ts ih =>
    have hfull : ((s.step m t ts).withPalette q).isFull m = (s.step m t ts).isFull m := rfl
    rw [run] at h
    rw [run, run]
    by_cases hstop : (s.step m t ts).isFull m = true
    · rw [if_pos hstop] at h ⊢
      rw [step_of_le h, hfull, if_pos hstop]
    · rw [if_neg hstop] at h ⊢
      have hstep : (s.step m t ts).palette ≤ q := le_trans (le_palette_run ts _) h
      rw [step_of_le hstep, hfull, if_neg hstop]
      exact ih h

end Flow

namespace Grid

variable {p q : Color.Palette} {text : String} {indent cap : Nat}

/-- Pouring only adds to the palette. -/
theorem le_palette_pour (g : Grid) (p : Color.Palette) (text : String) (indent cap : Nat) :
    p ≤ (g.pour p text indent cap).palette := by
  unfold pour
  split
  · exact le_refl p
  · exact Flow.le_palette_run (m := .of g.width indent cap) _ { grid := g, palette := p }

/-- **A text poured again in a later palette leaves the same grid**, and registers nothing more. -/
theorem pour_of_le (g : Grid) (h : (g.pour p text indent cap).palette ≤ q) :
    g.pour q text indent cap = { g.pour p text indent cap with palette := q } := by
  unfold pour at h ⊢
  split
  · rfl
  · rename_i htakes
    rw [if_neg htakes] at h
    have hrun := Flow.run_of_le h
    simp only [Flow.withPalette] at hrun
    dsimp only
    rw [hrun]

end Grid
end ChatConsole
