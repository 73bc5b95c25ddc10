/-
# Windows

A window has a backlog, a pane onto which its lines are poured, and, for a channel, a roster with a
panel at the right edge.  While the reader looks at older lines the view is frozen: new lines are
stored and not poured.
-/

import ChatConsole.Backlog
import ChatConsole.Flow
import ChatConsole.Refusal
import ChatConsole.Roster
import ChatConsole.Window.Label

namespace ChatConsole

/-- Where the view of a window stands. -/
structure Scroll where
  /-- Whether the view stays on older lines. -/
  frozen : Bool := false
  /-- Number of stored lines when the view froze. -/
  size : Nat := 0
  /-- How many of those lines the top of the view is back from their end. -/
  back : Nat := 0
  deriving DecidableEq, Repr

/-- Whether the view begins at the first of the lines it froze on. -/
def Scroll.atTop (s : Scroll) : Bool :=
  s.size > 0 && s.size == s.back

/-- A window. -/
structure Window where
  label : String
  title : Option String
  /-- Position among the open windows, from 1. -/
  number : Nat
  backlog : Backlog
  scroll : Scroll := {}
  logging : Bool := false
  roster : Roster := {}
  /-- Modes of the channel. -/
  modes : String := ""
  /-- Whether the names of the channel's members have come. -/
  named : Bool := false
  /-- Columns set aside for the panel. -/
  panelWidth : Nat := 0
  pane : Grid
  panel : Option Grid := none

namespace Window

def isStatus (w : Window) : Bool :=
  isStatusLabel w.label

def isChannel (w : Window) : Bool :=
  isChannelLabel w.label

/-- Give the pane and the panel their sizes on a terminal. -/
def layout (w : Window) (rows cols : Nat) : Window :=
  let height := paneHeight rows
  if w.isChannel then
    let width := w.roster.panelWidth
    { w with
      panelWidth := width
      panel := some ((w.panel.getD (.new width height false)).resize width height)
      pane := w.pane.resize (cols - width) height }
  else { w with panelWidth := 0, panel := none, pane := w.pane.resize cols height }

/-- A new window, laid out.  An empty title counts as none. -/
def new (label : String) (title : Option String) (number capacity rows cols : Nat) : Window :=
  layout
    { label, title := title.filter (!·.isEmpty), number, backlog := .new capacity,
      pane := .new 0 0 true }
    rows cols

/-- Set the title, unless it is empty. -/
def setTitle (w : Window) (title : String) : Window :=
  if title.isEmpty then w else { w with title := some title }

end Window
end ChatConsole
