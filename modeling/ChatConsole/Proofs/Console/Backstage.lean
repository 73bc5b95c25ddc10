/-
# The console behind the screen

A console without its input row and without the frames it has shown is a client of a line editor all the
same: no request of the editor reads either of them (`offScreen_backstage`).  What the keys of a read do to
the console is thus the same whether or not the row is shown after each.
-/

import ChatConsole.Console.Keyboard
import ChatConsole.Proofs.LineEditor.Reading

namespace ChatConsole

/-- Whether an effect shows the display. -/
def Effect.isFrame : Effect → Bool
  | .frame _ => true
  | .beep | .notice _ | .log _ _ => false

namespace Console

/-- The console with an empty input row, as if it had never been shown. -/
def dark (c : Console) : Console :=
  { c with
    display := { c.display with input := .new 0 0 false }
    effects := c.effects.filter (!·.isFrame) }

variable (c : Console)

theorem dark_dark : c.dark.dark = c.dark := by
  simp [dark]

theorem dark_emit (e : Effect) : (c.emit e).dark = if e.isFrame then c.dark else c.dark.emit e := by
  cases h : e.isFrame <;> simp [dark, emit, h]

theorem dark_refresh : c.refresh.dark = c.dark :=
  dark_emit c (.frame c.display)

theorem dark_redisplay (d : Display) : (c.redisplay d).dark = { c with display := d }.dark :=
  dark_refresh _

theorem dark_log (file : String) (line : Line) : (c.log file line).dark = c.dark.log file line :=
  dark_emit c _

theorem dark_freshen : c.freshen.dark = c.dark.freshen :=
  rfl

theorem beep_dark : c.dark.beep.dark = c.beep.dark := by
  rw [beep, beep, dark_emit, dark_emit, dark_dark]

/-! ### Printing -/

theorem write_dark (label text : String) (badge : Badge) (timed : Bool) :
    c.dark.write label text badge timed = (c.write label text badge timed).map dark := by
  induction c, label, text, badge using write.induct timed with
  | case1 c label text badge hmissing =>
    rw [write_of_missing hmissing, write_of_missing (c := c.dark) hmissing]
    rfl
  | case2 c label text badge i w hfound hlogging file hfile =>
    rw [write_of_file hfound hlogging hfile, write_of_file (c := c.dark) hfound hlogging hfile]
    exact congrArg Attempt.done (dark_log (c.store i w _) file _).symm
  | case3 c label text badge i w hfound line stored hlogging hfile ih =>
    rw [write_of_nameless hfound hlogging hfile, write_of_nameless (c := c.dark) hfound hlogging hfile]
    exact ih
  | case4 c label text badge i w hfound hlogging =>
    have hunlogged := eq_false_of_ne_true hlogging
    rw [write_of_unlogged hfound hunlogged, write_of_unlogged (c := c.dark) hfound hunlogged]
    rfl

theorem printActive_dark (text : String) (badge : Badge) :
    (c.dark.printActive text badge).dark = (c.printActive text badge).dark := by
  have hwrite := write_dark c c.active.label text badge c.isTimed
  unfold printActive printIn print printTimed
  rw [show c.dark.active.label = c.active.label from rfl, show c.dark.isTimed = c.isTimed from rfl, hwrite]
  cases c.write c.active.label text badge c.isTimed with
  | done c' => exact (dark_refresh _).trans (c'.dark_dark.trans (dark_refresh _).symm)
  | refused why c' => exact c'.dark_dark

/-! ### Windows -/

theorem redraw_dark : c.dark.redraw.dark = c.redraw.dark := by
  rw [redraw, redraw, dark_refresh, dark_refresh, ← dark_freshen, dark_dark]

theorem focusNeighbour_dark (forward : Bool) :
    (c.dark.focusNeighbour forward).map id dark = (c.focusNeighbour forward).map id dark := by
  unfold focusNeighbour
  rw [show c.dark.desk = c.desk from rfl]
  obtain ⟨desk, moved⟩ := c.desk.focusNeighbour forward
  cases moved with
  | true => exact congrArg (Prod.mk _) (redraw_dark (c.withDesk desk))
  | false => exact congrArg (Prod.mk none) c.dark_dark

/-- The window with the focus is put back where it was, if it has moved. -/
theorem dark_scrolled (moved? : Option Window.Painted) :
    let put (d : Display) := match moved? with
      | some p => d.put d.desk.focus p
      | none => d
    (c.dark.redisplay (put c.dark.display).drawStatusBar).dark
      = (c.redisplay (put c.display).drawStatusBar).dark := by
  have hdisplay (d : Display) : { c.dark with display := d }.dark = { c with display := d }.dark := by
    simp [dark]
  intro put
  rw [dark_redisplay, dark_redisplay, hdisplay]
  cases moved? <;> rfl

theorem scroll_dark (request : ScrollRequest) :
    (c.dark.scroll request).map id dark = (c.scroll request).map id dark := by
  cases request <;> exact Prod.ext rfl (dark_scrolled c _)

/-! ### The requests of an editor -/

/-- A console whose screen nobody looks at. -/
structure Backstage where
  console : Console

namespace Backstage

/-- A console from backstage. -/
def of (c : Console) : Backstage :=
  ⟨c.dark⟩

instance : Client Backstage where
  beep b := of (Client.beep b.console)
  switchWindow forward b := (Client.switchWindow forward b.console).map id of
  scroll request b := (Client.scroll request b.console).map id of
  inChannel b := Client.inChannel b.console
  candidates kind start b := (Client.candidates kind start b.console).map id of
  report text b := of (Client.report text b.console)
  display _ b := b

theorem offScreen_backstage : Client.OffScreen of where
  beep c := congrArg mk (beep_dark c)
  switchWindow forward c := congrArg (Prod.map id mk) (focusNeighbour_dark c forward)
  scroll request c := congrArg (Prod.map id mk) (scroll_dark c request)
  inChannel _ := rfl
  candidates _ _ c := congrArg (Prod.mk _) (congrArg mk c.dark_dark)
  report text c := congrArg mk (printActive_dark c text .warning)
  unseen _ c := congrArg mk (dark_redisplay c _)
  display _ _ := rfl

end Backstage

/-- But for its screen, a read leaves the console as the keys make it that arrived while it waited. -/
theorem of_read (quiet resized : Bool) (arrivals : List LineEditor.Arrival) :
    let r := c.read quiet resized arrivals
    (r.editor, Backstage.of r.client)
      = (LineEditor.pressAll LineEditor.handle (LineEditor.keysOf (arrivals.take r.waits))
          (.new c.prompt c.display.cols quiet, Backstage.of c)).1 :=
  LineEditor.viewed_read Backstage.offScreen_backstage resized arrivals _

end Console
end ChatConsole
