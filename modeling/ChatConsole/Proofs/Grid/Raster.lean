/-
# A grid in one vector of cells

A terminal program keeps a grid in one vector, row after row, and reaches a cell by its offset.  Then an
offset, a slice or a rotation may be out of range, and a row or column number of sixteen bits may overflow.
The operations of a `Raster` are those of a grid done in this way; each of them gives nothing where
anything is out of range.
-/

import ChatConsole.Proofs.Grid.Rectangle
import ChatConsole.Grid.Signal

namespace ChatConsole

/-! ### Vectors of cells -/

namespace Raster

/-- The sum of two numbers of sixteen bits, unless it overflows. -/
def sum16? (a b : Nat) : Option Nat :=
  if a + b < 65536 then some (a + b) else none

/-- The difference of two offsets, unless it is negative. -/
def difference? (a b : Nat) : Option Nat :=
  if b ≤ a then some (a - b) else none

/-- Store a cell at an offset. -/
def store? (cells : List Cell) (offset : Nat) (cell : Cell) : Option (List Cell) :=
  if offset < cells.length then some (cells.set offset cell) else none

/-- The cells from an offset up to another. -/
def slice? (cells : List Cell) (start stop : Nat) : Option (List Cell) :=
  if start ≤ stop ∧ stop ≤ cells.length then some ((cells.take stop).drop start) else none

/-- Change the cells from an offset up to another. -/
def onSlice? (f : List Cell → Option (List Cell)) (cells : List Cell) (start stop : Nat) :
    Option (List Cell) := do
  let slice ← slice? cells start stop
  let changed ← f slice
  return cells.take start ++ changed ++ cells.drop stop

/-- Move the last cells to the front. -/
def rotateRight? (count : Nat) (cells : List Cell) : Option (List Cell) :=
  if count ≤ cells.length then
    some (cells.drop (cells.length - count) ++ cells.take (cells.length - count))
  else none

/-- Move the first cells to the end. -/
def rotateLeft? (count : Nat) (cells : List Cell) : Option (List Cell) :=
  if count ≤ cells.length then some (cells.drop count ++ cells.take count) else none

/-- Drop the first cells. -/
def drain? (count : Nat) (cells : List Cell) : Option (List Cell) :=
  if count ≤ cells.length then some (cells.drop count) else none

/-- Read cells one after another. -/
def readFrom? (cells : List Cell) (offset : Nat) : Nat → Option (List Cell)
  | 0 => some []
  | n + 1 => do
    let cell ← cells[offset]?
    let rest ← readFrom? cells (offset + 1) n
    return cell :: rest

end Raster

/-- A grid whose cells are in one vector, row after row. -/
structure Raster where
  width : Nat
  height : Nat
  cells : List Cell
  row : Nat := 0
  col : Nat := 0
  style : Style := {}
  background : Style := {}
  scrolls : Bool := false
  deriving DecidableEq

namespace Raster

/-! ### The operations -/

/-- A blank raster with the cursor at its top left. -/
def new (width height : Nat) (scrolls : Bool) : Raster :=
  { width, height, cells := List.replicate (width * height) {}, scrolls }

/-- The cell that cleared space is filled with. -/
def blank (s : Raster) : Cell :=
  ⟨' ', s.background⟩

/-- The offset of a cell, for a row and a column within the raster. -/
def offset? (s : Raster) (row col : Nat) : Option Nat :=
  if col < s.width ∧ row < s.height then some (row * s.width + col) else none

/-- Put a cell in a row and column; outside the raster nothing is put. -/
def place? (s : Raster) (row col : Nat) (cell : Cell) : Option Raster :=
  match s.offset? row col with
  | none => some s
  | some offset => do
    let cells ← store? s.cells offset cell
    return { s with cells }

/-- Take a new size; the content is blanked and the cursor goes home. -/
def resize (s : Raster) (width height : Nat) : Raster :=
  { s with width, height, cells := List.replicate (width * height) s.blank, row := 0, col := 0 }

/-- Blank every cell and send the cursor home. -/
def erase (s : Raster) : Raster :=
  { s with cells := s.cells.map fun _ => s.blank, row := 0, col := 0 }

/-- Move the cursor, no further than the last row and just behind the last column. -/
def moveTo (s : Raster) (row col : Nat) : Raster :=
  { s with row := min row (s.height - 1), col := min col s.width }

/-- Blank the row of the cursor column by column, from the cursor on. -/
def clearToEnd? (s : Raster) : Option Raster :=
  (List.range' s.col (s.width - s.col)).foldlM (fun s col => s.place? s.row col s.blank) s

/-- Drop the top row and add a blank one at the bottom. -/
def scroll? (s : Raster) : Option Raster :=
  if s.width ≤ s.cells.length then do
    let rest ← drain? s.width s.cells
    return { s with cells := rest ++ List.replicate s.width s.blank }
  else some s

/-- Go on to the next row, or scroll. -/
def nextRow? (s : Raster) : Option Raster := do
  let next ← sum16? s.row 1
  if next < s.height then return { s with row := next }
  else if s.scrolls then s.scroll?
  else return s

/-- Blank the rest of the row and go to the start of the next one. -/
def newline? (s : Raster) : Option Raster := do
  let s ← s.clearToEnd?
  ({ s with col := 0 } : Raster).nextRow?

/-- Put a glyph and its fillers at the cursor, and step behind them. -/
def write? (s : Raster) (c : Char) : Option Raster := do
  let s ← s.place? s.row s.col ⟨c, s.style⟩
  let s ← (List.range' 1 (Text.columns c - 1)).foldlM (fun s further => do
    let col ← sum16? s.col further
    s.place? s.row col ⟨Cell.filler, s.style⟩) s
  let after ← sum16? s.col (Text.columns c)
  return { s with col := after }

/-- Put a glyph in the current style, on a new line when it does not fit the row of a raster that
scrolls.  The inner `none` stands for a glyph that is refused. -/
def add? (s : Raster) (c : Char) : Option (Option Raster) :=
  if Text.columns c = 0 ∨ Text.columns c > s.width ∨ s.height = 0 then some none
  else do
    let after ← sum16? s.col (Text.columns c)
    if after ≤ s.width then return some (← s.write? c)
    else if s.scrolls then
      let s ← s.newline?
      return some (← s.write? c)
    else return none

/-- Put the glyphs of a text one after another. -/
def addText? (s : Raster) (cs : List Char) : Option Raster :=
  cs.foldlM (fun s c => do
    let added ← s.add? c
    return added.getD s) s

/-- A cell at an offset that holds a wide glyph without its filler is blanked. -/
def mendEdge (blank : Cell) (cells : List Cell) (offset : Nat) : List Cell :=
  match cells[offset]? with
  | some last => if Text.columns last.char > 1 then cells.set offset blank else cells
  | none => cells

/-- Insert a glyph at the cursor, which stays where it is: the rest of the row is rotated, and the glyph
is stored over the cells that come to its front. -/
def insert? (s : Raster) (c : Char) : Option (Option Raster) :=
  if Text.columns c = 0 ∨ s.height = 0 then some none
  else do
    let after ← sum16? s.col (Text.columns c)
    if after > s.width then return none
    else
      let start := s.row * s.width + s.col
      let stop := s.row * s.width + s.width
      let cells ← onSlice? (rotateRight? (Text.columns c)) s.cells start stop
      let cells ← store? cells start ⟨c, s.style⟩
      let cells ← (List.range' 1 (Text.columns c - 1)).foldlM (fun cells further =>
        store? cells (start + further) ⟨Cell.filler, s.style⟩) cells
      let last ← difference? stop 1
      return some { s with cells := mendEdge s.blank cells last }

/-- Remove cells at the cursor: the rest of the row is rotated, and what comes to its end is blanked. -/
def delete? (s : Raster) (count : Nat) : Option Raster :=
  if s.width ≤ s.col ∨ s.height = 0 then some s
  else do
    let start := s.row * s.width + s.col
    let stop := s.row * s.width + s.width
    let room ← difference? stop start
    let n := min count room
    let cells ← onSlice? (rotateLeft? n) s.cells start stop
    let kept ← difference? stop n
    let cells ← onSlice? (fun slice => some (slice.map fun _ => s.blank)) cells kept stop
    return { s with cells }

/-- The characters of a row without fillers and without the blanks at its end. -/
def rowText? (s : Raster) (row : Nat) : Option (List Char) :=
  if s.height ≤ row then some []
  else do
    let cells ← slice? s.cells (row * s.width) (row * s.width + s.width)
    return Text.trimEnd ((cells.map Cell.char).filter (· ≠ Cell.filler))

/-- The signals that draw a row, from a reset to a reset. -/
def rowSignals? (s : Raster) (palette : Color.Palette) (row : Nat) : Option (List Signal) :=
  if s.height ≤ row then some []
  else do
    let cells ← readFrom? s.cells (row * s.width) s.width
    return .resetStyle :: Signal.ofCells palette s.background {} cells ++ [.resetStyle]

/-- What can be done to a raster. -/
inductive Op where
  | resize (width height : Nat)
  | moveTo (row col : Nat)
  | setStyle (style : Style)
  | setBackground (background : Style)
  | erase
  | clearToEnd
  | newline
  | add (c : Char)
  | addText (cs : List Char)
  | insert (c : Char)
  | delete (count : Nat)

/-- The raster after an operation; a refused one changes nothing. -/
def edit? (s : Raster) : Op → Option Raster
  | .resize width height => some (s.resize width height)
  | .moveTo row col => some (s.moveTo row col)
  | .setStyle style => some { s with style }
  | .setBackground background => some { s with background }
  | .erase => some s.erase
  | .clearToEnd => s.clearToEnd?
  | .newline => s.newline?
  | .add c => do return (← s.add? c).getD s
  | .addText cs => s.addText? cs
  | .insert c => do return (← s.insert? c).getD s
  | .delete count => s.delete? count

/-- The raster after some operations. -/
def run (s : Raster) (ops : List Op) : Option Raster :=
  ops.foldlM edit? s

/-- Whether an operation puts glyphs. -/
def Op.putsGlyphs : Op → Bool
  | add _ | addText _ | insert _ => true
  | _ => false

/-- Whether an operation comes to a raster that is too large for it.  Rows are counted in sixteen bits, and
so is the column behind a glyph of two columns that is put at the right edge. -/
def TooLarge (s : Raster) (op : Op) : Prop :=
  65535 < s.height ∨ op.putsGlyphs ∧ 65533 < s.width

/-- The edit of a grid that an operation stands for. -/
def Op.edit : Op → Grid.Edit
  | resize width height => .resize width height
  | moveTo row col => .moveTo row col
  | setStyle style => .setStyle style
  | setBackground background => .setBackground background
  | erase => .erase
  | clearToEnd => .clearToEnd
  | newline => .newline
  | add c => .add c
  | addText cs => .addText cs
  | insert c => .insert c
  | delete count => .delete count

/-- The raster of a grid. -/
def ofGrid (g : Grid) : Raster where
  width := g.width
  height := g.height
  cells := g.rows.flatten
  row := g.row
  col := g.col
  style := g.style
  background := g.background
  scrolls := g.scrolls

@[simp] theorem ofGrid_width (g : Grid) : (ofGrid g).width = g.width := rfl

@[simp] theorem ofGrid_height (g : Grid) : (ofGrid g).height = g.height := rfl

@[simp] theorem ofGrid_row (g : Grid) : (ofGrid g).row = g.row := rfl

@[simp] theorem ofGrid_col (g : Grid) : (ofGrid g).col = g.col := rfl

@[simp] theorem ofGrid_scrolls (g : Grid) : (ofGrid g).scrolls = g.scrolls := rfl

@[simp] theorem blank_ofGrid (g : Grid) : (ofGrid g).blank = g.blank := rfl

end Raster
end ChatConsole
