/-
# What drawing leaves of a window

A window's card is all that is known of it besides its lines, its members and what is drawn: its label
and title, its number, whether it is logged, its modes, and whether its members are known.  Lines may
come, the view and the panel may scroll, and the window may be laid out anew: the card stays.  Drawing
leaves the lines, too.
-/

import ChatConsole.Proofs.Window.Scene

namespace ChatConsole
namespace Window

/-- What is known of a window besides its lines, its members and what is drawn. -/
structure Card where
  label : String
  title : Option String
  number : Nat
  logging : Bool
  modes : String
  named : Bool

/-- The card of a window. -/
def card (w : Window) : Card where
  label := w.label
  title := w.title
  number := w.number
  logging := w.logging
  modes := w.modes
  named := w.named

variable {w v : Window} {p : Color.Palette} {rows : Nat}

theorem PaneOnly.card (h : PaneOnly w v) : v.card = w.card := by
  rw [h.rest]
  rfl

theorem PaneOnly.roster (h : PaneOnly w v) : v.roster = w.roster := by
  rw [h.rest]

/-! ### Laying out -/

@[simp] theorem card_layout (w : Window) (rows cols : Nat) : (w.layout rows cols).card = w.card := by
  unfold layout
  split <;> rfl

/-- The card of a new window: an empty title counts as none. -/
theorem card_new (label : String) (title : Option String) (number capacity rows cols : Nat) :
    (new label title number capacity rows cols).card
      = { label, title := title.filter (!·.isEmpty), number, logging := false, modes := "",
          named := false } :=
  card_layout ..

/-! ### The panel -/

@[simp] theorem card_drawPanel (w : Window) (rows : Nat) : (w.drawPanel rows).card = w.card := by
  unfold drawPanel
  split <;> rfl

theorem card_scrollPanel? {move : Roster → Roster} (h : w.scrollPanel? rows move = some v) :
    v.card = w.card := by
  unfold scrollPanel? at h
  split at h
  · obtain rfl := Option.some.inj h
    exact card_drawPanel ..
  · cases h

theorem backlog_scrollPanel? {move : Roster → Roster} (h : w.scrollPanel? rows move = some v) :
    v.backlog = w.backlog := by
  unfold scrollPanel? at h
  split at h
  · obtain rfl := Option.some.inj h
    exact backlog_drawPanel ..
  · cases h

/-! ### The view -/

@[simp] theorem card_redrawFrozen (w : Window) (p : Color.Palette) (rows : Nat) :
    (w.redrawFrozen p rows).1.card = w.card :=
  (paneOnly_redrawFrom ..).card

@[simp] theorem card_refreshView (w : Window) (p : Color.Palette) (rows : Nat) :
    (w.refreshView p rows).1.card = w.card := by
  unfold refreshView
  split
  · exact card_redrawFrozen ..
  · dsimp only
    split
    · exact (paneOnly_redrawFull ..).card
    · exact (paneOnly_redrawFull ..).card

theorem card_scrollUp? {step : Nat} {q : Painted} (h : w.scrollUp? p rows step = some q) :
    q.1.card = w.card := by
  obtain ⟨-, -, s, -, rfl⟩ := scrollUp?_eq_some h
  exact card_redrawFrozen ..

theorem card_scrollDown? {step : Nat} {q : Painted} (h : w.scrollDown? p rows step = some q) :
    q.1.card = w.card := by
  obtain ⟨-, rfl⟩ := scrollDown?_eq_some h
  exact card_refreshView ..

@[simp] theorem backlog_refreshView (w : Window) (p : Color.Palette) (rows : Nat) :
    (w.refreshView p rows).1.backlog = w.backlog := by
  unfold refreshView
  split
  · exact (paneOnly_redrawFrom ..).backlog
  · dsimp only
    rw [redrawTail, (paneOnly_redrawFull ..).backlog]
    split <;> rfl

theorem backlog_scrollUp? {step : Nat} {q : Painted} (h : w.scrollUp? p rows step = some q) :
    q.1.backlog = w.backlog := by
  obtain ⟨-, -, scroll, -, rfl⟩ := scrollUp?_eq_some h
  exact (paneOnly_redrawFrom ..).backlog

theorem backlog_scrollDown? {step : Nat} {q : Painted} (h : w.scrollDown? p rows step = some q) :
    q.1.backlog = w.backlog := by
  obtain ⟨-, rfl⟩ := scrollDown?_eq_some h
  exact backlog_refreshView ..

/-! ### The whole window -/

@[simp] theorem card_recreate (w : Window) (p : Color.Palette) (rows cols : Nat) :
    (w.recreate p rows cols).1.card = w.card := by
  rw [recreate, card_refreshView, card_drawPanel, card_layout]

@[simp] theorem backlog_recreate (w : Window) (p : Color.Palette) (rows cols : Nat) :
    (w.recreate p rows cols).1.backlog = w.backlog := by
  rw [recreate, backlog_refreshView, backlog_drawPanel, backlog_layout]

theorem card_updatePanel? {cols : Nat} {q : Painted} (h : w.updatePanel? p rows cols = some q) :
    q.1.card = w.card := by
  unfold updatePanel? at h
  split at h
  · split at h
    · obtain rfl := Option.some.inj h
      exact card_drawPanel ..
    · obtain rfl := Option.some.inj h
      exact card_recreate ..
  · cases h

theorem backlog_updatePanel? {cols : Nat} {q : Painted} (h : w.updatePanel? p rows cols = some q) :
    q.1.backlog = w.backlog := by
  unfold updatePanel? at h
  split at h
  · split at h
    · obtain rfl := Option.some.inj h
      exact backlog_drawPanel ..
    · obtain rfl := Option.some.inj h
      exact backlog_recreate ..
  · cases h

/-- A line that comes changes the lines and the pane. -/
theorem append_rest (w : Window) (p : Color.Palette) (line : Line) :
    PaneOnly { w with backlog := w.backlog.push line } (w.append p line).1 := by
  unfold append
  dsimp only
  split
  · exact .refl _
  · exact paneOnly_pourLine ({ w with backlog := w.backlog.push line }, p) line 0

@[simp] theorem card_append (w : Window) (p : Color.Palette) (line : Line) :
    (w.append p line).1.card = w.card :=
  (append_rest w p line).card

@[simp] theorem roster_append (w : Window) (p : Color.Palette) (line : Line) :
    (w.append p line).1.roster = w.roster :=
  (append_rest w p line).roster

@[simp] theorem scroll_append (w : Window) (p : Color.Palette) (line : Line) :
    (w.append p line).1.scroll = w.scroll :=
  (append_rest w p line).scroll

end Window
end ChatConsole
