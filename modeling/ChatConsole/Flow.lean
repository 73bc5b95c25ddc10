/-
# Pouring decorated text onto a grid

A text is poured onto a grid glyph by glyph.  A grid that scrolls wraps it: a word that does not fit
the rest of the row begins a new one, the space before it is dropped, and every continuation row
begins with an indent.  A grid that does not scroll takes what fits its row.  Pouring counts the rows
it ends, and stops early when a cap on them is reached.
-/

import ChatConsole.Markup.Pen

namespace ChatConsole

open Markup

/-- The measure of a column of text. -/
structure Measure where
  /-- Columns that a row may fill. -/
  limit : Nat
  /-- Blanks at the start of a continuation row. -/
  indent : Nat
  /-- Number of rows after which pouring stops; 0 for no such number. -/
  cap : Nat
  deriving DecidableEq, Repr

/-- The measure of a grid.  An indent leaves a continuation row at least one column. -/
def Measure.of (width indent cap : Nat) : Measure where
  limit := width - 1
  indent := min indent (width - 1 - 1)
  cap

/-- Pouring in progress. -/
structure Flow where
  grid : Grid
  palette : Color.Palette
  pen : Pen := {}
  /-- Columns filled in the current row. -/
  column : Nat := 0
  /-- Rows ended so far. -/
  rows : Nat := 0

namespace Flow

/-- End the row. -/
def endRow (s : Flow) : Flow :=
  { s with grid := s.grid.newline, column := 0, rows := s.rows + 1 }

/-- Whether the cap on rows is reached. -/
def isFull (m : Measure) (s : Flow) : Bool :=
  m.cap > 0 && s.rows ≥ m.cap

/-- Put blanks in the plain style. -/
def addBlanks : Nat → Flow → Flow
  | 0, s => s
  | n + 1, s => addBlanks n
      { s with grid := (s.grid.put? ' ' {}).getD s.grid, column := s.column + 1 }

/-- Put a glyph in the style of the pen. -/
def addGlyph (c : Char) (s : Flow) : Flow :=
  match s.grid.put? c s.pen.style with
  | some grid => { s with grid, column := s.column + Text.columns c }
  | none => s

/-- Columns of the word that the tokens begin with. -/
def wordColumns : List Token → Nat
  | [] => 0
  | .glyph c :: rest =>
    if c = ' ' ∨ c = '\n' then 0 else Text.columns c + wordColumns rest
  | _ :: rest => wordColumns rest

/-- Columns that must be free for a glyph to stay on the row: a space stays only if the word after
it does. -/
def needed (c : Char) (rest : List Token) : Nat :=
  if c = ' ' then 1 + wordColumns rest else Text.columns c

/-- Take one character of a wrapped text, with the tokens that follow it. -/
def wrapGlyph (m : Measure) (c : Char) (rest : List Token) (s : Flow) : Flow :=
  if c = '\n' then
    let s := s.endRow
    if s.isFull m || rest.isEmpty then s else s.addBlanks m.indent
  else if Text.isControl c then s
  else if s.column + needed c rest ≤ m.limit then s.addGlyph c
  else
    let s := s.endRow
    if s.isFull m then s
    else
      let s := s.addBlanks m.indent
      if c = ' ' then s else s.addGlyph c

/-- Take one character of a text on a grid that does not scroll. -/
def placeGlyph (c : Char) (s : Flow) : Flow :=
  if Text.isControl c then s else s.addGlyph c

/-- Take one token, with the tokens that follow it. -/
def step (m : Measure) (t : Token) (rest : List Token) (s : Flow) : Flow :=
  match t with
  | .glyph c => if s.grid.scrolls then s.wrapGlyph m c rest else s.placeGlyph c
  | t =>
    let (pen, palette) := s.pen.read s.palette t
    { s with pen, palette }

/-- Take tokens until they end or the cap is reached. -/
def run (m : Measure) : List Token → Flow → Flow
  | [], s => s
  | t :: rest, s =>
    let s := s.step m t rest
    if s.isFull m then s else run m rest s

end Flow

/-- Form feeds and tabs, level or vertical, count as spaces. -/
def evenSpace (c : Char) : Char :=
  if c = '\x0c' ∨ c = '\t' ∨ c = '\x0b' then ' ' else c

/-- The tokens of a text as it is poured.  On a grid that scrolls the text ends its last row. -/
def pouredTokens (text : String) (wraps : Bool) : List Token :=
  tokens (text.toList.map evenSpace ++ if wraps then ['\n'] else [])

/-- What pouring leaves. -/
structure Poured where
  grid : Grid
  palette : Color.Palette
  /-- Rows ended. -/
  rows : Nat

/-- Pour a text onto a grid.  An empty text, and a grid of one column or no row, take nothing. -/
def Grid.pour (g : Grid) (palette : Color.Palette) (text : String) (indent cap : Nat) : Poured :=
  if text.isEmpty || g.width < 2 || g.height = 0 then ⟨g, palette, 0⟩
  else
    let s := Flow.run (.of g.width indent cap) (pouredTokens text g.scrolls) { grid := g, palette }
    ⟨{ s.grid with style := {} }, s.palette, s.rows⟩

/-- Rows that a text takes on a grid of some width. -/
def rowsTaken (text : String) (indent width : Nat) : Nat :=
  ((Grid.new width 1 true).pour .off text indent 0).rows

end ChatConsole
