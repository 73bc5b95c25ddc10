/-
# What is done with a window

A window is painted with a palette on a terminal of some size; lines are appended to it, its view is
scrolled, and it is laid out anew.  `Scene.run` is any sequence of these.  The palette may also grow
meanwhile, as other things are painted with it, and the members of a channel may change.
-/

import ChatConsole.Window.View
import ChatConsole.Proofs.Flow.Frame

namespace ChatConsole
namespace Window

/-- What can be done with a window. -/
inductive Act where
  | append (line : Line)
  | scrollUp (step : Nat)
  | scrollDown (step : Nat)
  | pageUp
  | pageDown
  /-- Take a new size of the terminal. -/
  | recreate (rows cols : Nat)
  /-- Take a new roster, which the next layout uses. -/
  | seat (roster : Roster) (named : Bool)
  /-- Resolve a colour code for something else. -/
  | resolve (code : Markup.ColorCode)

/-- A window on a terminal. -/
structure Scene where
  window : Window
  palette : Color.Palette
  /-- Rows of the terminal. -/
  rows : Nat

namespace Scene

/-- A new window. -/
def start (label : String) (title : Option String) (number capacity rows cols : Nat)
    (palette : Color.Palette) : Scene :=
  ⟨.new label title number capacity rows cols, palette, rows⟩

/-- The scene with the window painted. -/
def painted (s : Scene) (p : Painted) : Scene :=
  { s with window := p.1, palette := p.2 }

/-- Do one thing, refused or not. -/
def act (s : Scene) : Act → Scene
  | .append line => s.painted (s.window.append s.palette line)
  | .scrollUp step => s.painted (s.window.scrollUp s.palette s.rows step).1
  | .scrollDown step => s.painted (s.window.scrollDown s.palette s.rows step).1
  | .pageUp => s.painted (s.window.pageUp s.palette s.rows).1
  | .pageDown => s.painted (s.window.pageDown s.palette s.rows).1
  | .recreate rows cols =>
    { s with rows }.painted (s.window.recreate s.palette rows cols)
  | .seat roster named => { s with window := { s.window with roster, named } }
  | .resolve code => { s with palette := (s.palette.resolve code).2 }

/-- Whether an act is refused. -/
def refuses (s : Scene) : Act → Bool
  | .scrollUp step => !(s.window.scrollUp s.palette s.rows step).2
  | .scrollDown step => !(s.window.scrollDown s.palette s.rows step).2
  | .pageUp => !(s.window.pageUp s.palette s.rows).2
  | .pageDown => !(s.window.pageDown s.palette s.rows).2
  | _ => false

/-- Do one thing after another. -/
def run (s : Scene) (acts : List Act) : Scene :=
  acts.foldl act s

end Scene

/-! ### Painting the pane changes nothing else -/

variable {w : Window} {p : Color.Palette}

/-- The window with another pane, on which something has been poured, or which has been blanked. -/
structure PaneOnly (w v : Window) : Prop where
  kept : ∀ {P : Grid → Prop}, Grid.Steady P → P w.pane → P v.pane
  rest : v = { w with pane := v.pane }

namespace PaneOnly

variable {u v : Window}

theorem refl (w : Window) : PaneOnly w w := ⟨fun _ h => h, rfl⟩

theorem trans (hwv : PaneOnly w v) (hvu : PaneOnly v u) : PaneOnly w u where
  kept hP h := hvu.kept hP (hwv.kept hP h)
  rest := by
    rw [hvu.rest, hwv.rest]

theorem frame (h : PaneOnly w v) : w.pane.SameFrame v.pane :=
  h.kept (Grid.steady_sameFrame w.pane) (.refl _)

theorem style (h : PaneOnly w v) (hstyle : w.pane.style = {}) : v.pane.style = {} :=
  h.kept Grid.steady_style hstyle

theorem backlog (h : PaneOnly w v) : v.backlog = w.backlog := by rw [h.rest]

theorem scroll (h : PaneOnly w v) : v.scroll = w.scroll := by rw [h.rest]

end PaneOnly

theorem paneOnly_wipe (w : Window) : PaneOnly w w.wipe where
  kept hP h := hP.erase h
  rest := rfl

theorem paneOnly_pourLine (q : Painted) (line : Line) (cap : Nat) :
    PaneOnly q.1 (pourLine q line cap).1.1 where
  kept hP h := Grid.steady_pour _ _ _ _ _ hP h
  rest := rfl

theorem paneOnly_pourWithin (q : Painted) (lines : List Line) (free : Nat) :
    PaneOnly q.1 (pourWithin q lines free).1 := by
  induction lines generalizing q free with
  | nil => exact .refl _
  | cons line lines ih =>
    rw [pourWithin]
    split
    · exact .refl _
    · exact (paneOnly_pourLine q line free).trans (ih ..)

theorem paneOnly_pourAll (q : Painted) (lines : List Line) : PaneOnly q.1 (pourAll q lines).1 := by
  unfold pourAll
  induction lines generalizing q with
  | nil => exact .refl _
  | cons line lines ih => exact (paneOnly_pourLine q line 0).trans (ih _)

theorem paneOnly_redrawFrom (w : Window) (p : Color.Palette) (rows position : Nat) :
    PaneOnly w (w.redrawFrom p rows position).1 := by
  unfold redrawFrom
  split
  · exact .refl w
  · exact (paneOnly_wipe w).trans (paneOnly_pourWithin (w.wipe, p) _ _)

theorem paneOnly_redrawFull (w : Window) (p : Color.Palette) (rows position : Nat) :
    PaneOnly w (w.redrawFull p rows position).1 := by
  unfold redrawFull
  split
  · exact .refl w
  · exact (paneOnly_wipe w).trans (paneOnly_pourAll (w.wipe, p) _)

/-! ### Laying out changes the size of the pane only, besides the panel -/

/-- A layout blanks the pane and gives it the height that the terminal has for it. -/
theorem pane_layout (w : Window) (rows cols : Nat) :
    ∃ width, (w.layout rows cols).pane = w.pane.resize width (paneHeight rows) := by
  unfold layout
  split
  · exact ⟨_, rfl⟩
  · exact ⟨_, rfl⟩

@[simp] theorem backlog_layout (w : Window) (rows cols : Nat) :
    (w.layout rows cols).backlog = w.backlog := by
  unfold layout
  split <;> rfl

@[simp] theorem scroll_layout (w : Window) (rows cols : Nat) :
    (w.layout rows cols).scroll = w.scroll := by
  unfold layout
  split <;> rfl

@[simp] theorem pane_drawPanel (w : Window) (rows : Nat) : (w.drawPanel rows).pane = w.pane := by
  unfold drawPanel
  split <;> rfl

@[simp] theorem backlog_drawPanel (w : Window) (rows : Nat) :
    (w.drawPanel rows).backlog = w.backlog := by
  unfold drawPanel
  split <;> rfl

@[simp] theorem scroll_drawPanel (w : Window) (rows : Nat) :
    (w.drawPanel rows).scroll = w.scroll := by
  unfold drawPanel
  split <;> rfl

/-! ### What scrolling can do -/

theorem moved?_eq_some_iff {m : Painted × Bool} {q : Painted} : moved? m = some q ↔ m = (q, true) := by
  obtain ⟨r, moved⟩ := m
  cases moved <;> simp [moved?]

/-- Going back moves the view, unless all lines are in view or it is at the top. -/
theorem scrollUp_stays_iff {rows step : Nat} : (w.scrollUp p rows step).2 = false ↔
    w.backlog.size ≤ viewHeight rows ∨ w.scroll.atTop = true := by
  unfold scrollUp
  dsimp only
  split <;> simp_all

/-- A view that stays where it is leaves the window and the palette as they are. -/
theorem scrollUp_of_stays {rows step : Nat} (h : (w.scrollUp p rows step).2 = false) :
    (w.scrollUp p rows step).1 = (w, p) := by
  rw [scrollUp_stays_iff] at h
  rw [scrollUp, if_pos (by simpa using h)]

/-- Going on moves the view, if it is frozen. -/
theorem scrollDown_stays_iff {rows step : Nat} :
    (w.scrollDown p rows step).2 = false ↔ w.scroll.frozen = false := by
  unfold scrollDown
  split <;> simp_all

/-- A live view leaves the window and the palette as they are. -/
theorem scrollDown_of_stays {rows step : Nat} (h : (w.scrollDown p rows step).2 = false) :
    (w.scrollDown p rows step).1 = (w, p) := by
  rw [scrollDown_stays_iff] at h
  rw [scrollDown, h, if_neg Bool.false_ne_true]

namespace Scene

variable (s : Scene)

/-- A view that stays where it is changes nothing; else the window is painted anew. -/
theorem painted_cases {m : Painted × Bool} (h : m.2 = false → m.1 = (s.window, s.palette)) :
    ((!m.2) = true ∧ s.painted m.1 = s) ∨
      ∃ q, moved? m = some q ∧ (!m.2) = false ∧ s.painted m.1 = s.painted q := by
  obtain ⟨q, moved⟩ := m
  cases moved with
  | false =>
    obtain rfl : q = (s.window, s.palette) := h rfl
    exact Or.inl ⟨rfl, rfl⟩
  | true => exact Or.inr ⟨q, rfl, rfl, rfl⟩

/-- Going back is refused and changes nothing, or it moves the view. -/
theorem scrollUp_cases (step : Nat) :
    (s.refuses (.scrollUp step) = true ∧ s.act (.scrollUp step) = s) ∨
      ∃ q, s.window.scrollUp? s.palette s.rows step = some q ∧
        s.refuses (.scrollUp step) = false ∧ s.act (.scrollUp step) = s.painted q :=
  s.painted_cases scrollUp_of_stays

/-- Going on is refused and changes nothing, or it moves the view. -/
theorem scrollDown_cases (step : Nat) :
    (s.refuses (.scrollDown step) = true ∧ s.act (.scrollDown step) = s) ∨
      ∃ q, s.window.scrollDown? s.palette s.rows step = some q ∧
        s.refuses (.scrollDown step) = false ∧ s.act (.scrollDown step) = s.painted q :=
  s.painted_cases scrollDown_of_stays

end Scene

/-- Going back, if not refused, freezes the view and pours it anew. -/
theorem scrollUp?_eq_some {rows step : Nat} {q : Painted} (h : w.scrollUp? p rows step = some q) :
    viewHeight rows < w.backlog.size ∧ w.scroll.atTop = false ∧
      ∃ s : Scroll, s.frozen = true ∧
        q = { w with scroll := s }.redrawFrozen p rows := by
  replace h : w.scrollUp p rows step = (q, true) := moved?_eq_some_iff.1 h
  unfold scrollUp at h
  dsimp only at h
  split at h
  · cases h
  · rename_i hgo
    simp only [Bool.or_eq_true, decide_eq_true_eq, not_or, Nat.not_le, Bool.not_eq_true] at hgo
    refine ⟨hgo.1, hgo.2, _, ?_, (congrArg Prod.fst h).symm⟩
    dsimp only
    split
    · assumption
    · rfl

theorem scrollDown?_of_frozen (hfrozen : w.scroll.frozen = true) (p : Color.Palette) (rows step : Nat) :
    w.scrollDown? p rows step
      = some ({ w with scroll := { w.scroll with back := w.scroll.back - step } }.refreshView p rows) := by
  rw [scrollDown?, scrollDown, if_pos hfrozen]
  rfl

/-- Going on, if not refused, moves a frozen view and pours it anew where it stands. -/
theorem scrollDown?_eq_some {rows step : Nat} {q : Painted} (h : w.scrollDown? p rows step = some q) :
    w.scroll.frozen = true ∧
      q = { w with scroll := { w.scroll with back := w.scroll.back - step } }.refreshView p rows := by
  replace h : w.scrollDown p rows step = (q, true) := moved?_eq_some_iff.1 h
  unfold scrollDown at h
  split at h
  · rename_i hfrozen
    exact ⟨hfrozen, (congrArg Prod.fst h).symm⟩
  · cases h

end Window
end ChatConsole
