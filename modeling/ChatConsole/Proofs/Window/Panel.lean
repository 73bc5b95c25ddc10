/-
# Drawing the panel of a channel

The panel is a grid that does not scroll.  Drawing a page of members blanks it, and then goes down from row
to row and puts glyphs (`drawPage_induction`).  That leaves the measures of the panel, and rows of whole
glyphs.  Nothing of this changes how wide a panel the members ask for.
-/

import ChatConsole.Proofs.Flow.Frame
import ChatConsole.Proofs.Grid.Whole
import ChatConsole.Window.View

namespace ChatConsole

namespace Roster

/-- What holds of the blank panel, and of a row more whenever a row has been drawn, holds of the page. -/
theorem drawPage_induction {P : Nat → Grid → Prop} {g : Grid} (hblank : P 0 g.erase)
    (hrow : ∀ {g : Grid} (row : Nat) (m : Option Member), P row g → P (row + 1) (drawRow g row m))
    (height : Nat) (page : List Member) : P height (drawPage g height page) := by
  unfold drawPage
  induction height with
  | zero => exact hblank
  | succ height ih =>
    rw [List.range_succ, List.foldl_append]
    exact hrow height _ ih

theorem frame_drawRow (g : Grid) (row : Nat) (m : Option Member) :
    Grid.SameFrame g (drawRow g row m) := by
  have hmoved : Grid.SameFrame g (g.moveTo row 0) := ⟨rfl, rfl, rfl, rfl⟩
  unfold drawRow
  split
  · exact Grid.kept_addText (Grid.steady_sameFrame g).toKept hmoved _
  · exact .refl g

theorem frame_drawPage (g : Grid) (height : Nat) (page : List Member) :
    Grid.SameFrame g (drawPage g height page) :=
  drawPage_induction (P := fun _ h => Grid.SameFrame g h) (Grid.frame_erase g)
    (fun row m h => h.trans (frame_drawRow _ row m)) height page

/-! ### Rows of whole glyphs -/

open Grid (Written Neat)

/-- The panel after some rows have been drawn: the cursor is in the last of them, or still at home. -/
def Drawn (drawn : Nat) (g : Grid) : Prop :=
  ∃ (base : Grid) (ended : List (List Cell)) (left right : List Cell),
    0 < base.height ∧ base.scrolls = false ∧ Written base.width ended left right ∧
      (if drawn = 0 then ended = [] ∧ left = [] else ended.length + 1 = min drawn base.height) ∧
      g = base.page ended left right

/-- Text that is put on a grid that does not scroll stays on the row in progress. -/
theorem addText_page {base : Grid} {ended : List (List Cell)} {left right : List Cell}
    (hh : 0 < base.height) (hs : base.scrolls = false) (hw : Written base.width ended left right)
    (cs : List Char) :
    ∃ left' right', Written base.width ended left' right' ∧
      (base.page ended left right).addText cs = base.page ended left' right' := by
  have hkept : Grid.Kept fun g => ∃ left' right', Written base.width ended left' right' ∧
      g = base.page ended left' right' := by
    constructor
    · rintro g hscrolls ⟨left', right', -, rfl⟩
      exact absurd (hs.symm.trans hscrolls) Bool.noConfusion
    · rintro g h c style ⟨left', right', hw', rfl⟩ hput
      unfold Grid.put? at hput
      dsimp only at hput
      split at hput
      · cases hput
      rename_i htakes
      split at hput
      · rename_i hroom
        obtain rfl := Option.some.inj hput
        have hc : Text.columns c ≠ 0 := fun hzero => htakes (Or.inl hzero)
        exact ⟨_, _, hw'.put hc hroom, Grid.write_page hh hc hroom⟩
      · rw [if_neg (by simp [hs])] at hput
        cases hput
  exact Grid.kept_addText hkept ⟨left, right, hw, rfl⟩ cs

theorem drawn_drawRow {g : Grid} (row : Nat) (m : Option Member) (h : Drawn row g) :
    Drawn (row + 1) (drawRow g row m) := by
  obtain ⟨base, ended, left, right, hh, hs, hw, hrow, rfl⟩ := h
  have hheight : (base.page ended left right).height = base.height := Grid.page_height hh
  unfold drawRow
  rw [hheight]
  split
  · rename_i hlt
    by_cases hfirst : row = 0
    · -- The first row is drawn where the cursor is.
      rw [if_pos hfirst] at hrow
      obtain ⟨rfl, rfl⟩ := hrow
      subst hfirst
      have hmoved : (base.page [] [] right).moveTo 0 0 = base.page [] [] right := by
        simp [Grid.moveTo, Grid.page]
      obtain ⟨left', right', hw', htext⟩ := addText_page hh hs hw (edge :: (m.map Member.shown).getD [])
      refine ⟨base, [], left', right', hh, hs, hw', ?_, by rw [hmoved, htext]⟩
      rw [if_neg (Nat.succ_ne_zero 0), List.length_nil]
      omega
    · rw [if_neg hfirst] at hrow
      have hended : row = ended.length + 1 := by omega
      obtain ⟨left', right', hw', htext⟩ :=
        addText_page hh hs hw.end (edge :: (m.map Member.shown).getD [])
      refine ⟨base, _, left', right', hh, hs, hw', ?_, ?_⟩
      · rw [if_neg (Nat.succ_ne_zero row), List.length_append, List.length_singleton]
        omega
      · rw [hended, Grid.moveTo_page_below (by omega), htext]
  · rename_i hpast
    refine ⟨base, ended, left, right, hh, hs, hw, ?_, rfl⟩
    rw [if_neg (by omega)] at hrow
    rw [if_neg (Nat.succ_ne_zero row)]
    omega

/-- Every row of a panel that has been drawn is made of whole glyphs. -/
theorem neat_drawPage {g : Grid} (hs : g.scrolls = false) (height : Nat) (page : List Member) :
    (drawPage g height page).Neat := by
  by_cases hh : g.height = 0
  · left
    have hsame := (frame_drawPage g height page).height
    rw [hh] at hsame
    exact List.eq_nil_of_length_eq_zero hsame
  · have hheight : g.erase.height = g.height := (Grid.frame_erase g).height
    have hdrawn : Drawn height (drawPage g height page) := by
      refine drawPage_induction ?_ (fun row m h => drawn_drawRow row m h) height page
      refine ⟨g.erase, [], [], [], ?_, hs, Grid.written_nil _, by simp, Grid.erase_eq_page hh⟩
      rw [hheight]
      exact Nat.pos_of_ne_zero hh
    obtain ⟨base, ended, left, right, hpos, -, hw, -, hpage⟩ := hdrawn
    exact Or.inr ⟨base, ended, left, right, hpos, hw, hpage⟩

/-! ### The width of the panel -/

/-- The width asked for is the same wherever the panel stands. -/
theorem panelWidth_of_members {r s : Roster} (h : s.members = r.members) :
    s.panelWidth = r.panelWidth := by
  rw [panelWidth, panelWidth, h]

end Roster

namespace Window

/-- What drawing the panel does: nothing, or a page of the members drawn on it. -/
theorem drawPanel_cases (w : Window) (rows : Nat) :
    w.drawPanel rows = w ∨
      ∃ panel page, w.panel = some panel ∧
        w.drawPanel rows
          = { w with
              roster := w.roster.settle (viewHeight rows)
              panel := some (Roster.drawPage panel (viewHeight rows) page) } := by
  unfold drawPanel
  split
  · rename_i panel _ hpanel
    exact Or.inr ⟨panel, _, hpanel, rfl⟩
  · exact Or.inl rfl

/-- What scrolling the panel does, if not refused: the members stay, and the panel is drawn. -/
theorem scrollPanel?_eq_some {w v : Window} {rows : Nat} {move : Roster → Roster}
    (h : w.scrollPanel? rows move = some v) :
    w.isChannel = true ∧ w.named = true ∧ v = { w with roster := move w.roster }.drawPanel rows := by
  unfold scrollPanel? at h
  split at h
  · rename_i hdrawn
    simp only [Bool.and_eq_true] at hdrawn
    exact ⟨hdrawn.1.1, hdrawn.1.2, (Option.some.inj h).symm⟩
  · cases h

/-- What telling a channel's members anew does to the panel: it is drawn, or the window is laid out anew
because the panel has another width.  Nothing is drawn before the members are known. -/
theorem updatePanel?_cases (w : Window) (p : Color.Palette) (rows cols : Nat) :
    (w.isChannel && w.named) = false ∧ w.updatePanel? p rows cols = none ∨
      w.isChannel = true ∧ w.named = true ∧
        (w.roster.panelWidth = w.panelWidth ∧
            w.updatePanel? p rows cols = some (w.drawPanel rows, p) ∨
          w.updatePanel? p rows cols = some (w.recreate p rows cols)) := by
  unfold updatePanel?
  split
  · rename_i hdrawn
    obtain ⟨hchannel, hnamed⟩ := Bool.and_eq_true_iff.1 hdrawn
    refine Or.inr ⟨hchannel, hnamed, ?_⟩
    split
    · rename_i hwidth
      exact Or.inl ⟨hwidth, rfl⟩
    · exact Or.inr rfl
  · rename_i hdrawn
    exact Or.inl ⟨eq_false_of_ne_true hdrawn, rfl⟩

end Window
end ChatConsole
