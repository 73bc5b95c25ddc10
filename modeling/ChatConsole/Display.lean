/-
# The display

The title bar is on the top row, below it the view of the window with the focus, with the panel of a
channel at its right edge, then the status bar, and on the last row the input.  The bars show the
window with the focus; a terminal too small for all this is left blank.
-/

import ChatConsole.Desk
import ChatConsole.Grid.Signal
import ChatConsole.Settings

namespace ChatConsole

/-- What the theme gives to the bars. -/
structure BarTheme where
  sign : String
  left : String
  right : String
  /-- What the status bar says of the status window. -/
  slogan : String
  deriving DecidableEq, Repr

/-- The theme's texts for the bars. -/
def BarTheme.of (s : Settings) : BarTheme where
  sign := s.themeText "statusbar_spec"
  left := s.themeText "statusbar_leftBracket"
  right := s.themeText "statusbar_rightBracket"
  slogan := s.themeText "slogan"

/-- All that is on the screen. -/
structure Display where
  /-- Rows of the terminal. -/
  rows : Nat
  /-- Columns of the terminal. -/
  cols : Nat
  desk : Desk
  palette : Color.Palette
  theme : BarTheme
  /-- Our nick, as the status bar shows it. -/
  nick : String
  /-- Name of the server. -/
  host : String
  /-- Our modes, as the server last told them. -/
  modes : String := ""
  titleBar : Grid
  statusBar : Grid
  input : Grid

namespace Display

/-- The least number of rows that is drawn on. -/
def minRows : Nat := 4

/-- The least number of columns that is drawn on. -/
def minCols : Nat := 10

/-- Whether the terminal is too small to be drawn on. -/
def isTooSmall (d : Display) : Bool :=
  d.rows < minRows || d.cols < minCols

/-- The text of the title bar. -/
def titleText (d : Display) : String :=
  match d.desk.active.title with
  | some title => " " ++ Markup.strip title ++ " "
  | none => ""

/-- What the status bar says after an open view. -/
def more : String := "-- MORE --"

/-- A text between the theme's brackets. -/
def bracketed (d : Display) (text : String) : String :=
  d.theme.left ++ text ++ d.theme.right

/-- Our modes without the colon in front of them. -/
def shownModes (d : Display) : String :=
  match d.modes.toList with
  | ':' :: rest => String.ofList rest
  | _ => d.modes

/-- What the status bar calls a window. -/
def placeText (d : Display) (w : Window) : String :=
  if w.isStatus then d.theme.slogan
  else if w.isChannel then w.label ++ "(" ++ w.modes ++ ")"
  else w.label

/-- The parts of the text of the status bar, decoration included. -/
def statusParts (d : Display) : List String :=
  let w := d.desk.active
  [d.theme.sign,
    d.bracketed s!"{w.number}({d.desk.size})",
    d.bracketed (d.nick ++ "(" ++ d.shownModes ++ ")@" ++ d.host),
    d.bracketed (d.placeText w),
    d.bracketed ("Log: " ++ if w.logging then "Yes" else "No")]
  ++ (if w.isChannel && w.named then [d.bracketed s!"Nicks: {w.roster.size}"] else [])
  ++ (if w.scroll.frozen then [more] else [])

/-- The text of the status bar, decoration included. -/
def statusText (d : Display) : String :=
  " ".intercalate d.statusParts

/-- Draw the title bar. -/
def drawTitleBar (d : Display) : Display :=
  { d with titleBar := (d.titleBar.erase.pour .off d.titleText 0 0).grid }

/-- Draw the status bar; without decoration where there is no colour. -/
def drawStatusBar (d : Display) : Display :=
  let text := if d.palette.enabled then d.statusText else Markup.strip d.statusText
  let poured := d.statusBar.erase.pour d.palette text 0 0
  { d with statusBar := poured.grid, palette := poured.palette }

/-- Draw both bars. -/
def drawBars (d : Display) : Display :=
  d.drawTitleBar.drawStatusBar

/-- A blank bar in a pair of colours, and the palette that has the pair. -/
def bar (palette : Color.Palette) (cols : Nat) (fg bg : Color.ColorNumber) :
    Grid × Color.Palette :=
  let (pair, palette) := palette.pairOf fg bg
  ({ Grid.new cols 1 false with background := { pair } }, palette)

/-- The display at the start: the status window alone. -/
def new (s : Settings) (palette : Color.Palette) (host : String) (rows cols : Nat) : Display :=
  let desk := Desk.new rows cols (s.integer Settings.windowLimit).toNat
    (s.integer Settings.backlogCapacity).toNat
  let logging := s.log.enabled
  let (titleBar, palette) := bar palette cols
    (s.themeColor "titlebar_fg" Color.black) (s.themeColor "titlebar_bg" Color.white)
  let (statusBar, palette) := bar palette cols
    (s.themeColor "statusbar_fg" Color.white) (s.themeColor "statusbar_bg" Color.black)
  drawBars
    { rows, cols
      desk := { desk with logging, status := { desk.status with logging } }
      palette, theme := .of s, nick := s.nickname?.getD "-", host, titleBar, statusBar,
      input := .new cols 1 false }

/-- Put a window in the place of the one at a position, with the palette it was painted with. -/
def put (d : Display) (index : Nat) (p : Window.Painted) : Display :=
  { d with desk := d.desk.set index p.1, palette := p.2 }

/-- Lay everything out on a terminal of another size. -/
def resize (d : Display) (rows cols : Nat) : Display :=
  let (desk, palette) := d.desk.recreateAll d.palette rows cols
  drawBars
    { d with
      rows, cols, desk, palette
      titleBar := d.titleBar.resize cols 1
      statusBar := d.statusBar.resize cols 1
      input := d.input.resize cols 1 }

/-- One row of a grid at a place on the screen. -/
def rowAt (d : Display) (row col : Nat) (g : Grid) (y : Nat) : List Signal :=
  .moveTo row col :: g.rowSignals d.palette y

/-- One row of the view, with that of the panel beside it. -/
def viewRow (d : Display) (w : Window) (y : Nat) : List Signal :=
  d.rowAt (y + 1) 0 w.pane y ++
    match w.panel with
    | some panel => d.rowAt (y + 1) w.pane.width panel y
    | none => []

/-- All that is sent to show the display.  The cursor ends on the input row. -/
def frame (d : Display) : List Signal :=
  .hideCursor ::
    if d.isTooSmall then [.clear]
    else
      d.rowAt 0 0 d.titleBar 0
      ++ (List.range (Window.viewHeight d.rows)).flatMap (d.viewRow d.desk.active)
      ++ d.rowAt (d.rows - 2) 0 d.statusBar 0
      ++ d.rowAt (d.rows - 1) 0 d.input 0
      ++ [.moveTo (d.rows - 1) d.input.col, .showCursor]

end Display
end ChatConsole
