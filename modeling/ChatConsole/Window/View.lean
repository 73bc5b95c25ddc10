/-
# The view of a window

The pane shows the last lines of the backlog, or, while the view is frozen, the lines from a fixed
one on.  A view at the end grows line by line; every other change pours it anew.  A page is as many
lines as fill the view at the width of the pane.
-/

import ChatConsole.Window.Basic

namespace ChatConsole
namespace Window

/-- A window and the palette it is painted with. -/
abbrev Painted := Window × Color.Palette

/-- Pour a line onto the pane. -/
def pourLine (p : Painted) (line : Line) (cap : Nat) : Painted × Nat :=
  let poured := p.1.pane.pour p.2 line.text line.indent cap
  (({ p.1 with pane := poured.grid }, poured.palette), poured.rows)

/-- Pour lines in full. -/
def pourAll (p : Painted) (lines : List Line) : Painted :=
  lines.foldl (fun p line => (pourLine p line 0).1) p

/-- Pour lines until some number of rows is filled; the last line is cut there. -/
def pourWithin (p : Painted) : List Line → Nat → Painted
  | [], _ => p
  | line :: rest, free =>
    if free = 0 then p
    else
      let (p, rows) := pourLine p line free
      pourWithin p rest (free - rows)

/-- The window with its pane blanked. -/
def wipe (w : Window) : Window :=
  { w with pane := w.pane.erase }

/-- Pour the view anew from a position, cut at its last row.  An empty backlog leaves the pane. -/
def redrawFrom (w : Window) (palette : Color.Palette) (rows position : Nat) : Painted :=
  if w.backlog.size = 0 then (w, palette)
  else pourWithin (w.wipe, palette) (w.backlog.since position) (viewHeight rows)

/-- Pour anew, in full, as many lines from a position on as the view has rows. -/
def redrawFull (w : Window) (palette : Color.Palette) (rows position : Nat) : Painted :=
  if w.backlog.size = 0 then (w, palette)
  else pourAll (w.wipe, palette) ((w.backlog.since position).take (viewHeight rows))

/-- Pour the view anew from a position.  Refused behind the last line. -/
def redraw (w : Window) (palette : Color.Palette) (rows position : Nat) (limited : Bool) :
    Except Refusal Painted :=
  if w.backlog.size = 0 then .ok (w, palette)
  else if position ≥ w.backlog.size then .error (.badPosition position)
  else if limited then .ok (w.redrawFrom palette rows position)
  else .ok (w.redrawFull palette rows position)

/-- Pour the last lines anew. -/
def redrawTail (w : Window) (palette : Color.Palette) (rows : Nat) : Painted :=
  w.redrawFull palette rows (w.backlog.size - viewHeight rows)

/-- Pour a frozen view anew. -/
def redrawFrozen (w : Window) (palette : Color.Palette) (rows : Nat) : Painted :=
  w.redrawFrom palette rows (w.scroll.size - w.scroll.back)

/-- Pour the view anew where it stands; it returns to the end once no older line would show. -/
def refreshView (w : Window) (palette : Color.Palette) (rows : Nat) : Painted :=
  if w.scroll.frozen && w.scroll.back > viewHeight rows then w.redrawFrozen palette rows
  else
    let w := if w.scroll.frozen then { w with scroll := {} } else w
    w.redrawTail palette rows

/-- Store a line, and pour it unless the view is frozen. -/
def append (w : Window) (palette : Color.Palette) (line : Line) : Painted :=
  let w := { w with backlog := w.backlog.push line }
  if w.scroll.frozen then (w, palette) else (pourLine (w, palette) line 0).1

/-- How far back the view stands after going back by some lines. -/
def Scroll.goBack (s : Scroll) (height step : Nat) : Nat :=
  if s.back > s.size then s.size
  else min ((if s.back = 0 then height else s.back) + step) s.size

/-- Go back to older lines; says whether the view moved.  It stays when all lines are in view, and at the
top. -/
def scrollUp (w : Window) (palette : Color.Palette) (rows step : Nat) : Painted × Bool :=
  let height := viewHeight rows
  if w.backlog.size ≤ height || w.scroll.atTop then ((w, palette), false)
  else
    let s := if w.scroll.frozen then w.scroll
      else { w.scroll with frozen := true, size := w.backlog.size }
    let w := { w with scroll := { s with back := Scroll.goBack s height step } }
    (w.redrawFrozen palette rows, true)

/-- Go on to newer lines; says whether the view moved.  It returns to the end once no older line would
show, and stays when it is not frozen. -/
def scrollDown (w : Window) (palette : Color.Palette) (rows step : Nat) : Painted × Bool :=
  if w.scroll.frozen then
    let w := { w with scroll := { w.scroll with back := w.scroll.back - step } }
    (w.refreshView palette rows, true)
  else ((w, palette), false)

/-- Position of the first line in view. -/
def viewTop (w : Window) (rows : Nat) : Nat :=
  if w.scroll.frozen then w.scroll.size - w.scroll.back
  else w.backlog.size - viewHeight rows

/-- How many of the lines it takes to fill some rows, of which `filled` are; an empty line counts as
one row. -/
def countFilling (width height : Nat) : Nat → List Line → Nat
  | _, [] => 0
  | filled, line :: rest =>
    if filled ≥ height then 0
    else countFilling width height (filled + max (rowsTaken line.text line.indent width) 1) rest + 1

/-- Lines above the view that fill a page. -/
def pageUpStep (w : Window) (rows : Nat) : Nat :=
  max 1 (countFilling w.pane.width (viewHeight rows) 0 (w.backlog.lines.take (w.viewTop rows)).reverse)

/-- Lines from the top of the view that fill a page. -/
def pageDownStep (w : Window) (rows : Nat) : Nat :=
  max 1 (countFilling w.pane.width (viewHeight rows) 0 (w.backlog.since (w.viewTop rows)))

/-- Go back by a page; says whether the view moved. -/
def pageUp (w : Window) (palette : Color.Palette) (rows : Nat) : Painted × Bool :=
  w.scrollUp palette rows (w.pageUpStep rows)

/-- Go on by a page; says whether the view moved. -/
def pageDown (w : Window) (palette : Color.Palette) (rows : Nat) : Painted × Bool :=
  w.scrollDown palette rows (w.pageDownStep rows)

/-- The window after its view moved, if it did. -/
def moved? (m : Painted × Bool) : Option Painted :=
  if m.2 then some m.1 else none

/-- The window after going back to older lines, unless its view stays. -/
def scrollUp? (w : Window) (palette : Color.Palette) (rows step : Nat) : Option Painted :=
  moved? (w.scrollUp palette rows step)

/-- The window after going on to newer lines, unless its view stays. -/
def scrollDown? (w : Window) (palette : Color.Palette) (rows step : Nat) : Option Painted :=
  moved? (w.scrollDown palette rows step)

/-- The window after going back by a page, unless its view stays. -/
def pageUp? (w : Window) (palette : Color.Palette) (rows : Nat) : Option Painted :=
  w.scrollUp? palette rows (w.pageUpStep rows)

/-- The window after going on by a page, unless its view stays. -/
def pageDown? (w : Window) (palette : Color.Palette) (rows : Nat) : Option Painted :=
  w.scrollDown? palette rows (w.pageDownStep rows)

/-- Draw the panel, once the names have come. -/
def drawPanel (w : Window) (rows : Nat) : Window :=
  match w.named, w.panel with
  | true, some panel =>
    let (roster, panel) := w.roster.draw panel (viewHeight rows)
    { w with roster, panel := some panel }
  | _, _ => w

/-- Lay the window out on a terminal and draw all of it. -/
def recreate (w : Window) (palette : Color.Palette) (rows cols : Nat) : Painted :=
  ((w.layout rows cols).drawPanel rows).refreshView palette rows

/-- Draw the panel after a change of members; when its width changes, so does the layout.  Refused
without a panel to draw. -/
def updatePanel? (w : Window) (palette : Color.Palette) (rows cols : Nat) : Option Painted :=
  if w.isChannel && w.named then
    if w.roster.panelWidth = w.panelWidth then some (w.drawPanel rows, palette)
    else some (w.recreate palette rows cols)
  else none

/-- Scroll the panel.  Refused without one. -/
def scrollPanel? (w : Window) (rows : Nat) (move : Roster → Roster) : Option Window :=
  if w.isChannel && w.named && w.panelWidth > 0 then
    some ({ w with roster := move w.roster }.drawPanel rows)
  else none

end Window
end ChatConsole
