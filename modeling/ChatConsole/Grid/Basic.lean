/-
# A grid of character cells with a cursor

Panes, bars, the member panel and the input row are grids.  A glyph lands at the cursor, a wide one
in two cells, of which the second holds the filler.  A new line blanks the rest of its row; a grid
that scrolls drops its top row when the cursor is on the last.
-/

import ChatConsole.Text.Width
import ChatConsole.Text.Blank

namespace ChatConsole

/-- How a glyph is drawn. -/
structure Style where
  bold : Bool := false
  underline : Bool := false
  reverse : Bool := false
  /-- Slot of the colour pair; 0 for none. -/
  pair : Int := 0
  deriving DecidableEq, Repr, Inhabited

/-- One cell of a grid. -/
structure Cell where
  char : Char := ' '
  style : Style := {}
  deriving DecidableEq, Repr, Inhabited

namespace Cell

/-- The character of the cell after a wide glyph. -/
def filler : Char := '\x00'

/-- The cells of a glyph: the glyph, and a filler for each further column. -/
def ofGlyph (c : Char) (style : Style) : List Cell :=
  ⟨c, style⟩ :: List.replicate (Text.columns c - 1) ⟨filler, style⟩

/-- A glyph takes as many cells as columns, when it takes any. -/
theorem length_ofGlyph {c : Char} {style : Style} (h : Text.columns c ≠ 0) :
    (ofGlyph c style).length = Text.columns c := by
  simp [ofGlyph]; omega

end Cell

/-- A grid of cells, by rows, with a cursor and a current style. -/
structure Grid where
  /-- Number of cells in each row. -/
  width : Nat
  rows : List (List Cell)
  /-- Row of the cursor. -/
  row : Nat := 0
  /-- Column of the cursor; it may rest behind the last cell. -/
  col : Nat := 0
  /-- Style of the glyphs written next. -/
  style : Style := {}
  /-- Style of blanked cells. -/
  background : Style := {}
  /-- Whether a new line on the last row scrolls. -/
  scrolls : Bool := false
  deriving DecidableEq, Repr, Inhabited

namespace Grid

/-- Number of rows. -/
def height (g : Grid) : Nat :=
  g.rows.length

/-- The cell that cleared space is filled with. -/
def blank (g : Grid) : Cell :=
  ⟨' ', g.background⟩

/-- A row of blanks. -/
def blankRow (g : Grid) : List Cell :=
  List.replicate g.width g.blank

/-- A blank grid with the cursor at its top left. -/
def new (width height : Nat) (scrolls : Bool) : Grid :=
  { width, rows := List.replicate height (List.replicate width {}), scrolls }

/-- Take a new size; the content is blanked and the cursor goes home. -/
def resize (g : Grid) (width height : Nat) : Grid :=
  { g with width, rows := List.replicate height (List.replicate width g.blank), row := 0, col := 0 }

/-- Blank every cell and send the cursor home. -/
def erase (g : Grid) : Grid :=
  g.resize g.width g.height

/-- Move the cursor, no further than the last row and just behind the last column. -/
def moveTo (g : Grid) (row col : Nat) : Grid :=
  { g with row := min row (g.height - 1), col := min col g.width }

/-- The cell in a row and column. -/
def cell? (g : Grid) (row col : Nat) : Option Cell := do
  let cells ← g.rows[row]?
  cells[col]?

/-- Change the row of the cursor. -/
def modifyRow (g : Grid) (f : List Cell → List Cell) : Grid :=
  { g with rows := g.rows.modify g.row f }

/-- Blank the row of the cursor from the cursor on. -/
def clearToEnd (g : Grid) : Grid :=
  g.modifyRow fun cells => cells.take g.col ++ List.replicate (g.width - g.col) g.blank

/-- Drop the top row and add a blank one at the bottom. -/
def scroll (g : Grid) : Grid :=
  match g.rows with
  | [] => g
  | _ :: rest => { g with rows := rest ++ [g.blankRow] }

/-- Blank the rest of the row and go to the start of the next one.  On the last row a grid that
scrolls does so, and another stays there. -/
def newline (g : Grid) : Grid :=
  let g := { g.clearToEnd with col := 0 }
  if g.row + 1 < g.height then { g with row := g.row + 1 }
  else if g.scrolls then g.scroll
  else g

/-- Overwrite the cells at the cursor by a glyph and step behind it. -/
def write (g : Grid) (c : Char) (style : Style) : Grid :=
  let after := g.col + Text.columns c
  { g.modifyRow fun cells => cells.take g.col ++ Cell.ofGlyph c style ++ cells.drop after with
    col := after }

/-- Put a glyph at the cursor, on a new line when it does not fit the row of a grid that scrolls.
Refused when it takes no column or there is no place for it. -/
def put? (g : Grid) (c : Char) (style : Style) : Option Grid :=
  let w := Text.columns c
  if w = 0 ∨ w > g.width ∨ g.height = 0 then none
  else if g.col + w ≤ g.width then some (g.write c style)
  else if g.scrolls then some (g.newline.write c style)
  else none

/-- Put a glyph in the current style. -/
def add? (g : Grid) (c : Char) : Option Grid :=
  g.put? c g.style

/-- Put a glyph in the current style, or nothing if it is refused. -/
def add (g : Grid) (c : Char) : Grid :=
  (g.add? c).getD g

/-- Put the glyphs of a text one after another. -/
def addText (g : Grid) (cs : List Char) : Grid :=
  cs.foldl add g

/-- A row that lost cells at its right edge, with a wide glyph that lost its filler blanked. -/
def mendEdge (blank : Cell) (cells : List Cell) : List Cell :=
  match cells.getLast? with
  | some last => if Text.columns last.char > 1 then cells.dropLast ++ [blank] else cells
  | none => cells

/-- Insert a glyph at the cursor, which stays where it is, and push the rest of the row right. -/
def insert? (g : Grid) (c : Char) : Option Grid :=
  let w := Text.columns c
  if w = 0 ∨ g.height = 0 ∨ g.col + w > g.width then none
  else some (g.modifyRow fun cells =>
    mendEdge g.blank ((cells.take g.col ++ Cell.ofGlyph c g.style ++ cells.drop g.col).take g.width))

/-- Remove cells at the cursor and pull the rest of the row left. -/
def delete (g : Grid) (count : Nat) : Grid :=
  let n := min count (g.width - g.col)
  g.modifyRow fun cells =>
    cells.take g.col ++ cells.drop (g.col + n) ++ List.replicate n g.blank

/-- The characters of a row without fillers and without the blanks at its end. -/
def rowText (g : Grid) (row : Nat) : List Char :=
  Text.trimEnd ((((g.rows[row]?).getD []).map Cell.char).filter (· ≠ Cell.filler))

/-- The text of every row. -/
def lines (g : Grid) : List (List Char) :=
  (List.range g.height).map g.rowText

end Grid
end ChatConsole
