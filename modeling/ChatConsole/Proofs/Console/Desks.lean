/-
# The desks of a console

Each change of a display changes its desk by a request, or changes one window in its place.  So every desk
there ever is in a console is one that is reached (`reached_run`), and what holds of these holds of it.
-/

import ChatConsole.Proofs.Console.Changes
import ChatConsole.Proofs.Desk.Queries

namespace ChatConsole

namespace Display

variable {shows : Nat → Grid → Prop} {d e : Display} {limit : Nat}

theorem reached_change (h : d.desk.Reached limit) (hchange : Change shows d e) : e.desk.Reached limit := by
  cases hchange with
  | drawTitleBar | drawStatusBar | setModes | input => exact h
  | resize rows cols => exact h.attempt (.recreateAll d.palette rows cols)
  | spawn hspawn => exact h.answer (r := .spawn _ _) hspawn
  | destroy hdestroy => exact h.answer (r := .destroy _) hdestroy
  | @focus index hindex =>
    refine h.answer (r := .focusNumber (index + 1)) ?_
    have hnumber : (index + 1 = 0 || index + 1 > d.desk.size) = false := by
      simpa using Nat.succ_le_of_lt hindex
    rw [Desk.answer, Desk.focusNumber, hnumber, Nat.add_sub_cancel]
    rfl
  | window hw hq =>
    obtain ⟨hlabel, hnumber⟩ := Window.label_number_change hq
    exact h.set hw hlabel hnumber

theorem reached_new (s : Settings) (palette : Color.Palette) (host : String) (rows cols : Nat) :
    (new s palette host rows cols).desk.Reached (s.integer Settings.windowLimit).toNat := by
  have hdesk : Desk.Reached (s.integer Settings.windowLimit).toNat _ :=
    .new rows cols (s.integer Settings.backlogCapacity).toNat
  have hlogged := hdesk.set (i := 0)
    (v := { Window.new Window.statusLabel none 1 (s.integer Settings.backlogCapacity).toNat rows cols with
      logging := s.log.enabled }) rfl rfl rfl
  exact hlogged.setLogging s.log.enabled

end Display

namespace Console

/-- **Every desk of a console is reached**, whatever has been asked of the console. -/
theorem reached_run (s : Settings) (palette : Color.Palette) (host : String) (rows cols : Nat)
    (logDirectory : String) (now : Calendar.Moment) (requests : List Request) :
    ((new s palette host rows cols logDirectory now).run requests).desk.Reached
      (s.integer Settings.windowLimit).toNat := by
  have hnew := Display.reached_new s palette host rows cols
  have hleads := (leads_run (c := new s palette host rows cols logDirectory now)
    hnew.wellFormed (shows_any _ requests)).1
  exact hleads.keeps (P := fun d => d.desk.Reached _) Display.reached_change hnew

end Console
end ChatConsole
