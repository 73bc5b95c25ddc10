/-
# What a terminal is sent

A terminal takes glyphs and control sequences.  A row of a grid is sent as its glyphs, with a change
of style wherever the style of a glyph differs from the one before it.  A cell without a colour of
its own takes the colour pair of the grid's background.
-/

import ChatConsole.Grid.Basic
import ChatConsole.Color.Palette

namespace ChatConsole

/-- One thing sent to a terminal. -/
inductive Signal where
  | glyph (c : Char)
  | resetStyle
  | bold
  | underline
  | reverse
  | foreground (ink : Color.Ink)
  | background (ink : Color.Ink)
  | moveTo (row col : Nat)
  | clear
  | hideCursor
  | showCursor
  | bell
  deriving DecidableEq, Repr

namespace Signal

/-- The parameters of a colour sequence: `base` is 3 for the foreground and 4 for the background. -/
def colorParameters (base : Nat) : Color.Ink → String
  | .standard => s!"{base}9"
  | .indexed n => s!"{base}8;5;{n}"
  | .rgb r g b => s!"{base}8;2;{r};{g};{b}"

/-- The text of a control sequence. -/
def sequence (body : String) : String :=
  "\x1b[" ++ body

/-- The characters a signal is sent as.  Rows and columns count from 1 on the wire. -/
def encode : Signal → String
  | glyph c => c.toString
  | resetStyle => sequence "0m"
  | bold => sequence "1m"
  | underline => sequence "4m"
  | reverse => sequence "7m"
  | foreground ink => sequence (colorParameters 3 ink ++ "m")
  | background ink => sequence (colorParameters 4 ink ++ "m")
  | moveTo row col => sequence s!"{row + 1};{col + 1}H"
  | clear => sequence "2J"
  | hideCursor => sequence "?25l"
  | showCursor => sequence "?25h"
  | bell => "\x07"

/-- The characters a list of signals is sent as. -/
def encodeAll (signals : List Signal) : String :=
  String.join (signals.map encode)

/-- The signals for an ink, unless it is the terminal's own. -/
def ofInk (make : Color.Ink → Signal) : Color.Ink → List Signal
  | .standard => []
  | ink => [make ink]

/-- The signals that change to a style, from any other. -/
def ofStyle (palette : Color.Palette) (background style : Style) : List Signal :=
  let pair := if style.pair = 0 then background.pair else style.pair
  resetStyle
    :: (if style.bold then [bold] else [])
    ++ (if style.underline then [underline] else [])
    ++ (if style.reverse then [reverse] else [])
    ++ match palette.inks? pair with
      | some (fg, bg) => ofInk foreground fg ++ ofInk Signal.background bg
      | none => []

/-- The signals for cells that follow a glyph of style `last`. -/
def ofCells (palette : Color.Palette) (background : Style) : Style → List Cell → List Signal
  | _, [] => []
  | last, cell :: rest =>
    if cell.char = Cell.filler then ofCells palette background last rest
    else if cell.style = last then glyph cell.char :: ofCells palette background last rest
    else ofStyle palette background cell.style ++
      glyph cell.char :: ofCells palette background cell.style rest

end Signal

/-- The signals that draw a row of a grid, from a reset to a reset; none for a row outside it. -/
def Grid.rowSignals (g : Grid) (palette : Color.Palette) (row : Nat) : List Signal :=
  match g.rows[row]? with
  | none => []
  | some cells =>
    .resetStyle :: Signal.ofCells palette g.background {} cells ++ [.resetStyle]

end ChatConsole
