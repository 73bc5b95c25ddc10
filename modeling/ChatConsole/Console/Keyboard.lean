/-
# The console behind the line editor

The line editor asks the console for the bell, the focus, scrolling and candidates, and gives it
messages and its row to show.
-/

import ChatConsole.Console.Windows
import ChatConsole.LineEditor.Read

namespace ChatConsole
namespace Console

/-- Scroll the window with the focus or its panel; says whether anything was scrolled. -/
def scroll (request : ScrollRequest) (c : Console) : Bool × Console :=
  let d := c.display
  let w := d.desk.active
  let moved? : Option Window.Painted :=
    match request with
    | .pageUp => w.pageUp? d.palette d.rows
    | .pageDown => w.pageDown? d.palette d.rows
    | .panelUp => (w.scrollPanel? d.rows Roster.scrollUp).map (·, d.palette)
    | .panelDown => (w.scrollPanel? d.rows Roster.scrollDown).map (·, d.palette)
  let d' :=
    match moved? with
    | some p => d.put d.desk.focus p
    | none => d
  (moved?.isSome, c.redisplay d'.drawStatusBar)

/-- The candidates for a word: commands, settings, or members of the channel. -/
def candidates (c : Console) (kind : Completion.Kind) (start : String) : List String :=
  match kind with
  | .help | .command => Completion.matchingCommands start
  | .setting => Completion.matching Settings.names start
  | .query | .whois | .member =>
    Completion.matching (c.active.roster.sorted.map Member.nick) start

instance : Client Console where
  beep := beep
  switchWindow forward c := c.focusNeighbour forward
  scroll := scroll
  inChannel c := c.active.isChannel
  candidates kind start c := (c.candidates kind start, c)
  report text c := c.printActive text .warning
  display row c := c.redisplay { c.display with input := row }

/-- Read a line in the window with the focus. -/
def read (c : Console) (quiet resized : Bool) (arrivals : List LineEditor.Arrival) :
    LineEditor.Reading Console :=
  LineEditor.read resized arrivals (.new c.prompt c.display.cols quiet, c)

end Console
end ChatConsole
