/-
# What the console does with a window

A console has many operations, but what they do with one window is always one of a few changes
(`Change`): a line comes, the title or the logging is set, the members or the modes are told anew, the
lines are dropped, the view or the panel scrolls.  Whatever holds of a window when it is opened, and is
kept by every change and every new layout, holds of every window there ever is (`Kept`); so it is with
the bounds of its backlog (`kept_bounded`).
-/

import ChatConsole.Proofs.Backlog.Kept
import ChatConsole.Proofs.Window.Card

namespace ChatConsole
namespace Window

/-- What the console does with a window on a terminal of some size; the palette may grow. -/
inductive Change (rows cols : Nat) : Painted → Painted → Prop where
  | append (w : Window) (p : Color.Palette) (line : Line) : Change rows cols (w, p) (w.append p line)
  | setTitle (w : Window) (p : Color.Palette) (title : String) :
      Change rows cols (w, p) (w.setTitle title, p)
  | setLogging (w : Window) (p : Color.Palette) (logging : Bool) :
      Change rows cols (w, p) ({ w with logging }, p)
  /-- The members or the modes of a channel are told anew, and its panel is drawn. -/
  | tell (w : Window) (p : Color.Palette) (roster : Roster) (modes : String) (named : Bool) :
      Change rows cols (w, p)
        ((updatePanel? { w with roster, modes, named } p rows cols).getD
          ({ w with roster, modes, named }, p))
  /-- All lines are dropped. -/
  | clear (w : Window) (p : Color.Palette) :
      Change rows cols (w, p)
        (recreate { w with backlog := w.backlog.clear, scroll := {} } p rows cols)
  | scrollUp {w : Window} {p : Color.Palette} {step : Nat} {q : Painted}
      (h : w.scrollUp? p rows step = some q) : Change rows cols (w, p) q
  | scrollDown {w : Window} {p : Color.Palette} {step : Nat} {q : Painted}
      (h : w.scrollDown? p rows step = some q) : Change rows cols (w, p) q
  | scrollPanel {w v : Window} (p : Color.Palette) {move : Roster → Roster}
      (hmove : ∀ r, (move r).members = r.members) (h : w.scrollPanel? rows move = some v) :
      Change rows cols (w, p) (v, p)

variable {rows cols : Nat} {p q : Painted}

/-! ### Labels and numbers -/

/-- No change gives a window another label or another number. -/
theorem label_number_change (h : Change rows cols p q) :
    q.1.label = p.1.label ∧ q.1.number = p.1.number := by
  have hcard {w v : Window} (h : v.card = w.card) : v.label = w.label ∧ v.number = w.number :=
    ⟨congrArg Card.label h, congrArg Card.number h⟩
  cases h with
  | append w p line => exact hcard (card_append ..)
  | setTitle w p title =>
    dsimp only
    unfold setTitle
    split <;> exact ⟨rfl, rfl⟩
  | setLogging w p logging => exact ⟨rfl, rfl⟩
  | tell w p roster modes named =>
    cases hupdate : updatePanel? { w with roster, modes, named } p rows cols with
    | none => exact ⟨rfl, rfl⟩
    | some q =>
      obtain ⟨hlabel, hnumber⟩ := hcard (card_updatePanel? hupdate)
      exact ⟨hlabel, hnumber⟩
  | clear w p =>
    obtain ⟨hlabel, hnumber⟩ :=
      hcard (card_recreate { w with backlog := w.backlog.clear, scroll := {} } p rows cols)
    exact ⟨hlabel, hnumber⟩
  | scrollUp h => exact hcard (card_scrollUp? h)
  | scrollDown h => exact hcard (card_scrollDown? h)
  | scrollPanel p hmove h => exact hcard (card_scrollPanel? h)

/-! ### What every window has -/

/-- A property of windows, each on a terminal of some size, that every window has which is opened, and
that no change and no new layout takes away. -/
structure Kept (P : Nat → Nat → Window → Prop) : Prop where
  new : ∀ (label : String) (title : Option String) (number capacity rows cols : Nat) (logging : Bool),
    P rows cols { new label title number capacity rows cols with logging }
  change : ∀ {rows cols : Nat} {p q : Painted}, P rows cols p.1 → Change rows cols p q →
    P rows cols q.1
  recreate : ∀ {rows cols : Nat} {w : Window}, P rows cols w →
    ∀ (p : Color.Palette) (rows' cols' : Nat), P rows' cols' (w.recreate p rows' cols').1
  renumber : ∀ {rows cols : Nat} {w : Window}, P rows cols w →
    ∀ number : Nat, P rows cols { w with number }

/-- **A backlog stays within its bounds**: no window ever holds more lines than there is room for. -/
theorem kept_bounded : Kept fun _ _ w => w.backlog.Bounded where
  new label title number capacity rows cols logging := by
    have hnew : (new label title number capacity rows cols).backlog = .new capacity := backlog_layout ..
    exact hnew ▸ Backlog.bounded_new capacity
  change h hchange := by
    cases hchange with
    | append w p line => exact (append_rest w p line).backlog ▸ h.push line
    | setTitle w p title =>
      dsimp only
      unfold setTitle
      split <;> exact h
    | setLogging => exact h
    | tell w p roster modes named =>
      cases hupdate : updatePanel? { w with roster, modes, named } p _ _ with
      | none => exact h
      | some q => exact backlog_updatePanel? hupdate ▸ h
    | clear w p => exact backlog_recreate { w with backlog := w.backlog.clear, scroll := {} } .. ▸ h.clear
    | scrollUp hup => exact backlog_scrollUp? hup ▸ h
    | scrollDown hdown => exact backlog_scrollDown? hdown ▸ h
    | scrollPanel p hmove hpanel => exact backlog_scrollPanel? hpanel ▸ h
  recreate h p rows cols := by
    rw [backlog_recreate]
    exact h
  renumber h _ := h

end Window
end ChatConsole
