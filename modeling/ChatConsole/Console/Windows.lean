/-
# Windows of the console

Windows are opened, closed, given the focus and laid out, and the channels' members come and go.
Every operation draws the bars that it may have made stale, and shows the display.
-/

import ChatConsole.Console.Basic

namespace ChatConsole
namespace Console

/-- Draw the bars. -/
def freshen (c : Console) : Console :=
  { c with display := c.display.drawBars }

/-- Draw the bars and show the display. -/
def redraw (c : Console) : Console :=
  c.freshen.refresh

/-- The console with another desk. -/
def withDesk (c : Console) (desk : Desk) : Console :=
  { c with display := { c.display with desk } }

/-- Change the desk, unless the change is refused. -/
def changeDesk (c : Console) (change : Desk → Attempt Desk) : Attempt Console :=
  (change c.desk).map c.withDesk

/-- Give the focus to the window with a label; the bars are not drawn. -/
def focusLabel (c : Console) (label : String) : Attempt Console :=
  c.changeDesk fun desk => (desk.focusLabel label).map Prod.fst

/-- Open a window, unless the label is in use, and give it the focus. -/
def spawn (c : Console) (label : String) (title : Option String) : Attempt Console :=
  (c.changeDesk (·.spawn label title)).andThen fun c =>
    (c.focusLabel label).andThen fun c => .done c.redraw

/-- Close a window. -/
def destroy (c : Console) (label : String) : Attempt Console :=
  (c.changeDesk (·.destroy label)).andThen fun c => .done c.redraw

/-- Give the focus to the window with a number. -/
def focusNumber (c : Console) (number : Nat) : Attempt Console :=
  (c.changeDesk fun desk => (desk.focusNumber number).map Prod.fst).andThen fun c => .done c.redraw

/-- The prompt of the window with the focus. -/
def prompt (c : Console) : String :=
  Window.promptOf c.active.label

/-- Give the focus to the next window or the one before; returns its prompt if the focus moved. -/
def focusNeighbour (c : Console) (forward : Bool) : Option String × Console :=
  let (desk, moved) := c.desk.focusNeighbour forward
  if moved then
    let c := (c.withDesk desk).redraw
    (some c.prompt, c)
  else (none, c)

/-- Set a window's title; says whether it was set. -/
def setTitle (c : Console) (label title : String) : Bool × Console :=
  let desk? := c.desk.setTitle? label title
  (desk?.isSome, c.redisplay { c.display with desk := desk?.getD c.desk }.drawTitleBar)

/-- Close every query; says how many. -/
def closeQueries (c : Console) : Nat × Console :=
  let (desk, count) := c.desk.closeQueries
  (count, (c.withDesk desk).redraw)

/-- Log the window with the focus, or stop logging it, and say so there; returns whether it is
logged now. -/
def toggleLogging (c : Console) : Bool × Console :=
  let w := c.active
  let logging := !w.logging
  let d := { c.display with desk := c.desk.setActive { w with logging } }
  let c := { c with display := d.drawStatusBar }
  let said := s!"Logging for window (refnum: {w.number}) now "
  (logging,
    if logging then c.printActive (said ++ "on") .success
    else c.printActive (said ++ "off") .warning)

/-- Log a window or not, as told. -/
def setLogging (c : Console) (label : String) (logging : Bool) : Attempt Console :=
  match c.desk.locate? label with
  | none => .refused (.notFound label) c
  | some (i, w) =>
    let d := { c.display with desk := c.desk.set i { w with logging } }
    .done { c with display := d.drawBars }

/-- Drop all lines of the window with the focus. -/
def clear (c : Console) : Console :=
  let d := c.display
  let w := { d.desk.active with backlog := d.desk.active.backlog.clear, scroll := {} }
  c.redisplay (d.put d.desk.focus (w.recreate d.palette d.rows d.cols)).drawStatusBar

/-- Lay everything out on a terminal of another size. -/
def resize (c : Console) (rows cols : Nat) : Console :=
  c.redisplay (c.display.resize rows cols)

/-- Take note of our modes. -/
def setModes (c : Console) (modes : String) : Console :=
  c.redisplay { c.display with modes }.drawStatusBar

/-- A window with its panel drawn after a change of members. -/
def withPanel (d : Display) (palette : Color.Palette) (w : Window) : Window.Painted :=
  (w.updatePanel? palette d.rows d.cols).getD (w, palette)

/-- Change the window with a label. -/
def change (c : Console) (label : String) (f : Window → Window) : Attempt Console :=
  match c.desk.locate? label with
  | none => .refused (.notFound label) c
  | some (i, w) =>
    .done (c.redisplay (c.display.put i (withPanel c.display c.display.palette (f w))).drawStatusBar)

/-- Take note of a channel's modes. -/
def setChannelModes (c : Console) (label modes : String) : Attempt Console :=
  c.change label fun w => { w with modes }

/-- Change the roster of a channel, unless the change is refused. -/
def changeRoster (c : Console) (label : String) (f : Roster → Option Roster) : Attempt Console :=
  c.change label fun w => { w with roster := (f w.roster).getD w.roster }

/-- The roster of a list of names. -/
def rosterOf (entries : List String) : Roster :=
  entries.foldl (fun r entry => (r.add? (.ofEntry entry)).getD r) {}

/-- Take a channel's members from a list of names. -/
def setMembers (c : Console) (label : String) (entries : List String) : Attempt Console :=
  c.change label fun w => { w with roster := rosterOf entries, named := true }

/-- Add a member to a channel. -/
def join (c : Console) (label nick : String) : Attempt Console :=
  c.changeRoster label (·.add? ⟨nick, .normal⟩)

/-- Remove a member from a channel. -/
def part (c : Console) (label nick : String) : Attempt Console :=
  c.changeRoster label (·.remove? nick)

/-- Give a member of a channel another rank. -/
def setRank (c : Console) (label nick : String) (rank : Rank) : Attempt Console :=
  c.changeRoster label (·.setRank? nick rank)

/-- Give a member of a channel another nick. -/
def renameMember (d : Display) (old new : String) (palette : Color.Palette) (w : Window) :
    Window.Painted :=
  match if w.isChannel then w.roster.rename? old new else none with
  | some roster => withPanel d palette { w with roster }
  | none => (w, palette)

/-- Give a member of channels another nick, window by window. -/
def renameIn (d : Display) (old new : String) (palette : Color.Palette) :
    List Window → List Window × Color.Palette
  | [] => ([], palette)
  | w :: ws =>
    let (w, palette) := renameMember d old new palette w
    let (ws, palette) := renameIn d old new palette ws
    (w :: ws, palette)

/-- Give a member another nick in every channel. -/
def rename (c : Console) (old new : String) : Console :=
  let d := c.display
  let (ws, palette) := renameIn d old new d.palette d.desk.windows
  c.redisplay { d with desk := d.desk.setWindows ws, palette }.drawStatusBar

end Console
end ChatConsole
