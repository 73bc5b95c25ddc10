/-
# How wide a pane is

The width of a pane hangs on the columns of the terminal, and for a channel on the width that the roster
asks for its panel.  Lines and scrolling change neither (`sameWidth_act`).  So a window fits the columns
it was last laid out on (`Fits`), until its members change (`fits_run`).
-/

import ChatConsole.Proofs.Window.Card

namespace ChatConsole
namespace Window

variable {w v : Window} {s : Scene} {cols : Nat}

/-! ### What leaves the width alone -/

/-- The pane is as wide, and so is all that its width depends on. -/
structure SameWidth (w v : Window) : Prop where
  label : v.label = w.label
  panel : v.roster.panelWidth = w.roster.panelWidth
  width : v.pane.width = w.pane.width

theorem SameWidth.trans {u : Window} (hwv : SameWidth w v) (hvu : SameWidth v u) : SameWidth w u where
  label := hvu.label.trans hwv.label
  panel := hvu.panel.trans hwv.panel
  width := hvu.width.trans hwv.width

theorem PaneOnly.sameWidth (h : PaneOnly w v) : SameWidth w v where
  label := by rw [h.rest]
  panel := by rw [h.rest]
  width := h.frame.width

/-- Where the view stands has no say in the width. -/
theorem sameWidth_scroll (w : Window) (scroll : Scroll) : SameWidth w { w with scroll } := ⟨rfl, rfl, rfl⟩

theorem sameWidth_drawPanel (w : Window) (rows : Nat) : SameWidth w (w.drawPanel rows) := by
  unfold drawPanel
  split <;> exact ⟨rfl, rfl, rfl⟩

theorem sameWidth_refreshView (w : Window) (p : Color.Palette) (rows : Nat) :
    SameWidth w (w.refreshView p rows).1 := by
  unfold refreshView
  split
  · exact (paneOnly_redrawFrom ..).sameWidth
  · dsimp only
    split
    · exact (sameWidth_scroll w {}).trans (paneOnly_redrawFull ..).sameWidth
    · exact (paneOnly_redrawFull ..).sameWidth

/-- Acts that neither lay the window out nor change its members. -/
def Act.KeepsLayout : Act → Prop
  | .recreate .. => False
  | .seat .. => False
  | _ => True

theorem sameWidth_act (s : Scene) {a : Act} (ha : a.KeepsLayout) :
    SameWidth s.window (s.act a).window := by
  have hup (step : Nat) : SameWidth s.window (s.act (.scrollUp step)).window := by
    rcases s.scrollUp_cases step with ⟨-, hsame⟩ | ⟨q, hq, -, hact⟩
    · rw [hsame]
      exact ⟨rfl, rfl, rfl⟩
    · obtain ⟨-, -, scroll, -, rfl⟩ := scrollUp?_eq_some hq
      rw [hact]
      exact (sameWidth_scroll s.window scroll).trans (paneOnly_redrawFrom ..).sameWidth
  have hdown (step : Nat) : SameWidth s.window (s.act (.scrollDown step)).window := by
    rcases s.scrollDown_cases step with ⟨-, hsame⟩ | ⟨q, hq, -, hact⟩
    · rw [hsame]
      exact ⟨rfl, rfl, rfl⟩
    · obtain ⟨-, rfl⟩ := scrollDown?_eq_some hq
      rw [hact]
      exact (sameWidth_scroll s.window _).trans (sameWidth_refreshView ..)
  cases a with
  | append line =>
    have hstored : SameWidth s.window { s.window with backlog := s.window.backlog.push line } :=
      ⟨rfl, rfl, rfl⟩
    exact hstored.trans (append_rest ..).sameWidth
  | scrollUp step => exact hup step
  | scrollDown step => exact hdown step
  | pageUp => exact hup _
  | pageDown => exact hdown _
  | resolve code => exact ⟨rfl, rfl, rfl⟩
  | recreate => cases ha
  | seat => cases ha

/-! ### The width of the last layout -/

/-- The pane has the width that a layout on some columns gives it: the last layout was on as many, and
the roster asks for as wide a panel as then. -/
def Fits (w : Window) (cols : Nat) : Prop :=
  ∀ rows, (w.layout rows cols).pane.width = w.pane.width

theorem width_layout (w : Window) (rows cols : Nat) :
    (w.layout rows cols).pane.width
      = if isChannelLabel w.label then cols - w.roster.panelWidth else cols := by
  unfold layout isChannel
  split <;> rfl

theorem Fits.of_sameWidth (h : w.Fits cols) (hsame : SameWidth w v) : v.Fits cols := by
  intro rows
  have hwidth := h rows
  rw [width_layout] at hwidth ⊢
  rw [hsame.label, hsame.panel, hsame.width, hwidth]

/-- A window that is laid out fits. -/
theorem fits_layout (w : Window) (rows cols : Nat) : (w.layout rows cols).Fits cols := by
  intro again
  rw [width_layout, width_layout]
  unfold layout
  split <;> rfl

theorem fits_start (label : String) (title : Option String) (number capacity rows cols : Nat)
    (p : Color.Palette) :
    (Scene.start label title number capacity rows cols p).window.Fits cols :=
  fits_layout _ _ _

theorem fits_recreate (s : Scene) (rows cols : Nat) :
    (s.act (.recreate rows cols)).window.Fits cols :=
  (fits_layout s.window rows cols).of_sameWidth
    ((sameWidth_drawPanel ..).trans (sameWidth_refreshView ..))

/-- A window goes on fitting until it is laid out anew or its members change. -/
theorem fits_run (h : s.window.Fits cols) {acts : List Act} (hacts : ∀ a ∈ acts, a.KeepsLayout) :
    (s.run acts).window.Fits cols := by
  induction acts generalizing s with
  | nil => exact h
  | cons a acts ih =>
    have hfirst : (s.act a).window.Fits cols :=
      h.of_sameWidth (sameWidth_act s (hacts a List.mem_cons_self))
    exact ih hfirst fun b hb => hacts b (List.mem_cons_of_mem _ hb)

end Window
end ChatConsole
