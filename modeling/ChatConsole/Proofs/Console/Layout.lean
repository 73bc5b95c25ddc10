/-
# The layout of the display

A window is laid out when it is opened, when the terminal changes its size and when its members are told
anew, and in between requests of any kind may come in any order.  At no time does a bar, a pane or a
panel measure anything but what the terminal and the members ask for (`layout_run`).
-/

import ChatConsole.Proofs.Console.Changes
import ChatConsole.Proofs.Window.Layout

namespace ChatConsole
namespace Console

open Display (Housed)

/-- **The layout follows the terminal and the members.**  Whatever is asked of the console, and in
whatever order: the desk and the display agree on the size of the terminal, and both bars are as wide as
it is.  Every pane is two rows lower than the terminal, and narrower by the width of the panel.  A window
that is not a channel has no panel and sets no column aside for one; a channel has one as high as the pane,
and once the names of its members have come it is as wide as they ask for.  When the terminal takes another
size, the display and the desk take it, and the bars and the panes are laid out for it; the windows stay
what they were and where they were. -/
theorem layout_run (s : Settings) (palette : Color.Palette) (host : String) (rows cols : Nat)
    (logDirectory : String) (now : Calendar.Moment) (requests : List Request) :
    let c := (new s palette host rows cols logDirectory now).run requests
    let d := c.display
    d.desk.rows = d.rows ∧ d.desk.cols = d.cols ∧
      d.titleBar.width = d.cols ∧ d.statusBar.width = d.cols ∧
      (∀ w ∈ d.desk.windows,
        w.pane.height = d.rows - 2 ∧
        w.pane.width = d.cols - w.panelWidth ∧
        (w.isChannel = false → w.panelWidth = 0 ∧ w.panel = none) ∧
        (w.isChannel = true → ∃ panel, w.panel = some panel ∧
          panel.width = w.panelWidth ∧ panel.height = d.rows - 2 ∧
          (w.named = true → w.panelWidth = w.roster.panelWidth))) ∧
      ∀ rows' cols',
        let e := (c.resize rows' cols').display
        (e.rows = rows' ∧ e.cols = cols') ∧ (e.desk.rows = rows' ∧ e.desk.cols = cols') ∧
          (e.titleBar.width = cols' ∧ e.statusBar.width = cols') ∧
          e.desk.windows.map Window.card = d.desk.windows.map Window.card ∧
          ∀ w ∈ e.desk.windows, w.pane.height = rows' - 2 ∧ w.pane.width = cols' - w.panelWidth := by
  intro c d
  have hbars : Display.Current { pair := (Display.titlePair s palette).1 }
      { pair := (Display.statusPair s palette).1 } d :=
    current_run (Display.current_new s palette host rows cols) requests
  have hhoused : Housed Window.Arranged d := housed_run Window.kept_arranged ..
  obtain ⟨htitle, hstatus⟩ := hbars.width_bars
  refine ⟨hhoused.rows_eq, hhoused.cols_eq, htitle, hstatus, ?_, fun rows' cols' => ?_⟩
  · intro w hw
    have h := hhoused.windows w hw
    refine ⟨h.height, h.width, h.plain, ?_⟩
    intro hchannel
    obtain ⟨panel, hpanel, hwidth, hheight⟩ := h.panel hchannel
    exact ⟨panel, hpanel, hwidth, hheight, h.named hchannel⟩
  · intro e
    have hresized : Housed Window.Arranged e := hhoused.resize Window.kept_arranged rows' cols'
    have hcards : e.desk.windows.map Window.card = d.desk.windows.map Window.card := by
      rw [show e.desk.windows = (d.desk.recreateAll d.palette rows' cols').1.windows from rfl,
        Desk.windows_recreateAll, Desk.card_recreateWindows]
    exact ⟨⟨rfl, rfl⟩, ⟨hresized.rows_eq, hresized.cols_eq⟩, (hbars.resize rows' cols').width_bars,
      hcards, fun w hw => ⟨(hresized.windows w hw).height, (hresized.windows w hw).width⟩⟩

end Console
end ChatConsole
