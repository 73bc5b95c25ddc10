/-
# The edges of the terminal

A frame is sent row by row, and nothing cuts a row that is too long for the terminal.  That every frame
stays on the terminal therefore rests on what the display measures: the bars and the panes follow the
terminal, and the input row is as long as the editor made it.  The panel follows the members alone, and it
is what may run over the edge (`edges_run`).
-/

import ChatConsole.Proofs.Console.Layout
import ChatConsole.Proofs.Display.Segments
import ChatConsole.Proofs.LineEditor.Unsubmitted

namespace ChatConsole
namespace Display

open LineEditor (Edited)

variable {d e : Display}

/-! ### The bars -/

theorem neat_blankBar (cols : Nat) (background : Style) : (blankBar cols background).Neat :=
  Grid.neat_resize (blankBar cols background) cols 1

/-- What is poured on a blank bar is one row of whole glyphs. -/
theorem poured_blankBar (cols : Nat) (background : Style) (p : Color.Palette) (text : String) :
    let g := ((blankBar cols background).pour p text 0 0).grid
    g.Neat ∧ g.height = 1 ∧ g.width = cols := by
  have hframe := Grid.frame_pour (blankBar cols background) p text 0 0
  exact ⟨Grid.steady_pour (blankBar cols background) p text 0 0 Grid.steady_neat
    (neat_blankBar cols background), hframe.height, hframe.width⟩

/-! ### The input row -/

/-- Input rows that come from editors created for the columns of the terminal. -/
def FromEditor (cols : Nat) (row : Grid) : Prop :=
  ∃ e, Edited cols e ∧ row = e.panel

/-- The input row spans the terminal, if an editor can work on it. -/
def InputSpans (d : Display) : Prop :=
  5 ≤ d.cols → d.input.Spans d.cols

theorem inputSpans_change (h : d.InputSpans) (hchange : Change FromEditor d e) : e.InputSpans := by
  cases hchange with
  | drawTitleBar | drawStatusBar | setModes | spawn | destroy | focus | window => exact h
  | resize rows cols => exact fun _ => Grid.spans_resize d.input cols
  | input hrow =>
    obtain ⟨e, hedited, rfl⟩ := hrow
    exact fun hcols => LineEditor.spans_edited hcols hedited

theorem inputSpans_new (s : Settings) (palette : Color.Palette) (host : String) (rows cols : Nat) :
    (new s palette host rows cols).InputSpans :=
  fun _ => Grid.spans_resize (.new cols 1 false) cols

end Display

namespace Console

open Display (Housed FromEditor InputSpans)
open Signal (segments)

/-- On a terminal that an editor can work on, a frame shows rows of whole glyphs that measure what the
terminal asks for. -/
theorem sound_run (s : Settings) (palette : Color.Palette) (host : String) (rows cols : Nat)
    (logDirectory : String) (now : Calendar.Moment) {requests : List Request}
    (hshown : Shows FromEditor (new s palette host rows cols logDirectory now) requests)
    (hcols : 5 ≤ ((new s palette host rows cols logDirectory now).run requests).display.cols) :
    ((new s palette host rows cols logDirectory now).run requests).display.Sound := by
  let c := new s palette host rows cols logDirectory now
  have hdesk : c.desk.WellFormed (s.integer Settings.windowLimit).toNat :=
    Display.wellFormed_new s palette host rows cols
  obtain ⟨hleads, hwell⟩ := leads_run hdesk hshown
  have hactive : (c.run requests).desk.active ∈ (c.run requests).desk.windows :=
    List.mem_of_getElem? (Desk.getElem?_active hwell.focus_lt)
  have harranged : Housed Window.Arranged (c.run requests).display :=
    hleads.keeps (Display.housed_change Window.kept_arranged)
      (Display.housed_new Window.kept_arranged s palette host rows cols)
  have hneat : Housed (fun _ _ w => w.Neat) (c.run requests).display :=
    hleads.keeps (Display.housed_change Window.kept_neat)
      (Display.housed_new Window.kept_neat s palette host rows cols)
  have hinput : InputSpans (c.run requests).display :=
    hleads.keeps Display.inputSpans_change (Display.inputSpans_new s palette host rows cols)
  have hbars : Display.Current { pair := (Display.titlePair s palette).1 }
      { pair := (Display.statusPair s palette).1 } (c.run requests).display :=
    current_run (Display.current_new s palette host rows cols) requests
  refine ⟨harranged.windows _ hactive, hneat.windows _ hactive, ?_, ?_, hinput hcols⟩
  · rw [hbars.titleBar]
    exact Display.poured_blankBar ..
  · rw [hbars.statusBar]
    exact Display.poured_blankBar ..

/-- **Where a frame ends.**  Whatever has been asked of the console, on a terminal of four rows and ten
columns or more, and with an input row from an editor created for its columns, each of whose characters
had room when it was inserted or stepped over: nothing that a frame writes on one row is written over
something else, and all of it stays on the terminal just when the panel of the window with the focus is no
wider than that. -/
theorem edges_run (s : Settings) (palette : Color.Palette) (host : String) (rows cols : Nat)
    (logDirectory : String) (now : Calendar.Moment) (requests : List Request)
    (hshown : Shows FromEditor (new s palette host rows cols logDirectory now) requests) :
    let d := ((new s palette host rows cols logDirectory now).run requests).display
    4 ≤ d.rows → 10 ≤ d.cols →
      ((∀ g ∈ segments d.frame, g.col + g.columns ≤ d.cols)
        ↔ d.desk.active.panelWidth ≤ d.cols) ∧
      (segments d.frame).Pairwise fun g h => ¬ g.Overlaps h := by
  intro d hrows hcols
  have hsound : d.Sound :=
    sound_run s palette host rows cols logDirectory now hshown (Nat.le_trans (by decide) hcols)
  have hsize : d.isTooSmall = false := Display.isTooSmall_eq_false_iff.2 ⟨hrows, hcols⟩
  exact ⟨Display.fits_frame hsound hsize, Display.apart_frame hsound hsize⟩

/-- A terminal of twenty columns has room for the panel, and there is a wide glyph on the input row. -/
theorem edges_run_inside :
    let e := ((LineEditor.new "> " 20 true).insert? '日').getD (.new "> " 20 true)
    let c := new {} .off "irc.example" 5 20 "" default
    let requests := [.display e.panel, .spawn "#lean" none, .setMembers "#lean" ["@ada"]]
    let d := (c.run requests).display
    Shows FromEditor c requests ∧ 4 ≤ d.rows ∧ 10 ≤ d.cols ∧
      d.input.rowText 0 = ['>', ' ', '日'] ∧ d.desk.active.panelWidth = 5 ∧
      (∀ g ∈ segments d.frame, g.col + g.columns ≤ d.cols) ∧
      (segments d.frame).Pairwise fun g h => ¬ g.Overlaps h := by
  intro e c requests d
  have hinsert : (LineEditor.new "> " 20 true).insert? '日' = some e := by
    cases h : (LineEditor.new "> " 20 true).insert? '日' with
    | none => exact absurd h (by decide +kernel)
    | some f => simp only [e, h, Option.getD_some]
  have hedited : LineEditor.Edited 20 e :=
    ⟨"> ", true, .single (.insert (by decide +kernel) hinsert)⟩
  have hshown : Shows FromEditor c requests := ⟨⟨e, hedited, rfl⟩, trivial, trivial, trivial⟩
  have hrun := edges_run {} .off "irc.example" 5 20 "" default requests hshown
  have hd : d = ((new {} .off "irc.example" 5 20 "" default).run requests).display := rfl
  dsimp only at hrun
  rw [← hd] at hrun
  have hrows : 4 ≤ d.rows := by decide +kernel
  have hcols : 10 ≤ d.cols := by decide +kernel
  have hinput : d.input.rowText 0 = ['>', ' ', '日'] := by decide +kernel
  have hpanel : d.desk.active.panelWidth = 5 := by decide +kernel
  -- From here on nothing but these facts is to be known of the display.
  clear_value d
  obtain ⟨hfits, hapart⟩ := hrun hrows hcols
  exact ⟨hshown, hrows, hcols, hinput, hpanel, hfits.2 (by omega), hapart⟩

/-- On ten columns a member with a long nick has a panel of fifteen.  And the input row itself may run
over: where the row has turned and one column is left, a character of two is taken into the text and not
drawn.  The cursor is then not where the text says; what is inserted next goes into the middle of a wide
glyph and pushes its filler off the row. -/
theorem edges_run_outside :
    let c := new {} .off "irc.example" 5 10 "" default
    (let requests := [.spawn "#lean" none, .setMembers "#lean" ["@elizabethtown"]]
      let d := (c.run requests).display
      Shows FromEditor c requests ∧ d.rows = 5 ∧ d.cols = 10 ∧ d.desk.active.panelWidth = 15 ∧
        ∃ g ∈ segments d.frame, ¬ g.col + g.columns ≤ d.cols) ∧
    (let actions := "日n日日日".toList.map LineEditor.Action.insert
        ++ [.press .left, .press .left, .press .left]
        ++ "abcdefgh".toList.flatMap fun k => [.insert k, .press .left]
      let e := (LineEditor.actAll actions (LineEditor.new "> " 10 true, c)).1
      let d := (c.run [.display e.panel]).display
      LineEditor.FreeEdits (.new "> " 10 true) e ∧ d.rows = 5 ∧ d.cols = 10 ∧
        ∃ g ∈ segments d.frame, ¬ g.col + g.columns ≤ d.cols) := by
  intro c
  refine ⟨⟨⟨trivial, trivial, trivial⟩, ?_⟩, ?_⟩
  · decide +kernel
  · exact ⟨LineEditor.edits_actAll _ (LineEditor.new "> " 10 true, c), by decide +kernel⟩

end Console
end ChatConsole
