/-
# The line editor

The editor keeps the text being typed and shows a stretch of it on a row of the terminal, after a
prompt.  It patches the row with every edit.  When the cursor runs into either end of the row, the
editor turns to its other panel and draws a new stretch there, so that a long line moves by half a
row at a time.  Nothing of this display has a say in the text.
-/

import ChatConsole.Completion
import ChatConsole.Grid.Basic
import ChatConsole.Key.Basic
import ChatConsole.LineEditor.Draft
import ChatConsole.Markup.Mark

namespace ChatConsole

open Markup (Mark)

/-- What the editor asks to be scrolled. -/
inductive ScrollRequest where
  | pageUp
  | pageDown
  | panelUp
  | panelDown
  deriving DecidableEq, Repr

/-- What the editor needs from the rest of the client, whose state is `σ`. -/
class Client (σ : Type) where
  beep : σ → σ
  /-- Give the focus to the next or the previous window; returns its prompt if the focus moved. -/
  switchWindow : Bool → σ → Option String × σ
  /-- Says whether anything was scrolled. -/
  scroll : ScrollRequest → σ → Bool × σ
  inChannel : σ → Bool
  candidates : Completion.Kind → String → σ → List String × σ
  /-- Show a message in the active window. -/
  report : String → σ → σ
  /-- Put the row of the editor on the screen. -/
  display : Grid → σ → σ

/-- Why a read ends without a line. -/
inductive Cancel where
  | historyBack
  | historyForward
  | resize
  | bell
  | inputClosed
  deriving DecidableEq, Repr

/-- How a read ends. -/
inductive Outcome where
  | submitted (line : String)
  | cancelled (reason : Cancel)
  /-- An empty line was submitted. -/
  | empty
  deriving DecidableEq, Repr

/-- A line editor. -/
structure LineEditor where
  draft : Draft := {}
  /-- Columns of the text left of the cursor. -/
  offset : Nat := 0
  /-- The part of the prompt that is shown. -/
  prompt : List Char := []
  cols : Nat
  /-- The row as it is shown. -/
  panel : Grid
  /-- Which of the two panels is on top. -/
  onSecond : Bool := false
  /-- The round of completion in progress. -/
  round : Option Completion.Round := none
  /-- Whether refusals are silent. -/
  quiet : Bool

namespace LineEditor

/-- The draft is full one character below this number. -/
def capacity : Nat := 2700

/-- Columns a character takes on the row; a mark is shown as a letter. -/
def columns (c : Char) : Nat :=
  if (Mark.ofChar? c).isSome then 1 else Text.columns c

/-- Columns a text takes on the row. -/
def columnsOf (cs : List Char) : Nat :=
  cs.foldr (columns · + ·) 0

/-- The character that shows a character of the text, and its style: a mark is a letter in
reverse. -/
def shownAs (c : Char) : Char × Style :=
  match Mark.ofChar? c with
  | some m => (m.letter, { reverse := true })
  | none => (c, {})

/-- Put a character on a row, if there is room. -/
def put (g : Grid) (c : Char) : Grid :=
  let (c, style) := shownAs c
  (g.put? c style).getD g

/-- Insert a character in a row, if there is room. -/
def squeeze? (g : Grid) (c : Char) : Option Grid :=
  let (c, style) := shownAs c
  (Grid.insert? { g with style } c).map ({ · with style := {} })

/-- Put characters on a row until it is full. -/
def putWhile (g : Grid) : List Char → Grid
  | [] => g
  | c :: cs => if g.col ≥ g.width then g else putWhile (put g c) cs

/-- Move the cursor of the panel to a column. -/
def moveTo (e : LineEditor) (col : Nat) : LineEditor :=
  { e with panel := e.panel.moveTo e.panel.row col }

/-- Columns of the prompt that is shown. -/
def promptColumns (e : LineEditor) : Nat :=
  Text.columnsOf e.prompt

/-- Whether the draft can hold no further character. -/
def isFull (e : LineEditor) : Bool :=
  e.draft.size + 1 ≥ capacity

/-- The longest end of a text that fits some columns. -/
def lastFitting (room : Nat) : List Char → List Char
  | [] => []
  | c :: cs => if columnsOf (c :: cs) > room then lastFitting room cs else c :: cs

/-- The stretch of the text left of the cursor that is drawn anew: half a row when the cursor has
come from the left, and from the right what leaves as much room after it; never more than fits the
row. -/
def stretch (e : LineEditor) (forward : Bool) : List Char :=
  let half := e.cols / 2
  let position := e.draft.position
  let start :=
    if forward then position + (if e.cols % 2 = 0 then 1 else 0) - half
    else position - max (half - e.promptColumns) 1
  lastFitting (e.cols - (1 + e.promptColumns)) (e.draft.before.reverse.drop start)

/-- Leave only the prompt on the panel. -/
def drawPrompt (e : LineEditor) : LineEditor :=
  { e with panel := e.panel.erase.addText e.prompt }

/-- Draw the text from the cursor on; the cursor stays. -/
def drawTail (e : LineEditor) : LineEditor :=
  { e with panel := putWhile e.panel e.draft.after }.moveTo e.panel.col

/-- Draw the prompt and a stretch of the text around the cursor. -/
def redraw (e : LineEditor) (forward : Bool) : LineEditor :=
  let e' := e.drawPrompt
  let e' := { e' with panel := (e.stretch forward).foldl put e'.panel }
  if e.draft.isInside then e'.drawTail else e'

/-- Turn to the other panel and draw a new stretch there. -/
def turn (e : LineEditor) (forward : Bool) : LineEditor :=
  { e with onSecond := !e.onSecond }.redraw forward

/-- Whether the cursor is at the start of the row, behind the prompt. -/
def atStart (e : LineEditor) : Bool :=
  e.panel.col ≤ e.promptColumns

/-- Whether the cursor is at the end of the row. -/
def atEnd (e : LineEditor) : Bool :=
  e.panel.col ≥ e.cols - 1

/-- Turn to a new stretch if the cursor would leave the row on the left. -/
def turnLeft (e : LineEditor) : LineEditor :=
  if e.atStart then e.turn false else e

/-- Turn to a new stretch if the cursor would leave the row on the right. -/
def turnRight (e : LineEditor) : LineEditor :=
  if e.atEnd then e.turn true else e

/-- The longest beginning of a prompt that takes no more than some columns. -/
def fitting (room : Nat) : List Char → List Char
  | [] => []
  | c :: cs => if Text.columns c > room then [] else c :: fitting (room - Text.columns c) cs

/-- Change the prompt, of which at most half a row is shown. -/
def setPrompt (e : LineEditor) (prompt : String) : LineEditor :=
  { e with prompt := fitting (e.cols / 2) prompt.toList }.redraw false

/-- An editor with an empty draft. -/
def new (prompt : String) (cols : Nat) (quiet : Bool) : LineEditor :=
  setPrompt { cols, panel := .new cols 1 false, quiet } prompt

/-- Insert a character.  Refused when the draft is full. -/
def insert? (e : LineEditor) (c : Char) : Option LineEditor :=
  if e.isFull then none
  else
    let e := e.turnRight
    let e' := { e with draft := e.draft.insert c, offset := e.offset + columns c }
    if e.draft.isInside then
      match squeeze? e.panel c with
      | some panel => some ({ e' with panel }.moveTo (panel.col + columns c))
      | none => some e'
    else some { e' with panel := put e.panel c }

/-- Step left.  Refused at the start of the text. -/
def left? (e : LineEditor) : Option LineEditor :=
  (e.draft.left?).map fun (c, draft) =>
    let e := e.turnLeft
    { e with draft, offset := e.offset - columns c }.moveTo (e.panel.col - columns c)

/-- Step right.  Refused at the end of the text. -/
def right? (e : LineEditor) : Option LineEditor :=
  (e.draft.right?).map fun (c, draft) =>
    let e := e.turnRight
    { e with draft, offset := e.offset + columns c }.moveTo (e.panel.col + columns c)

/-- Remove the character left of the cursor.  Refused at the start of the text. -/
def backspace? (e : LineEditor) : Option LineEditor :=
  (e.draft.eraseLeft?).map fun (c, draft) =>
    let e := e.turnLeft
    let e := { e with draft, offset := e.offset - columns c }.moveTo (e.panel.col - columns c)
    let panel := e.panel.delete (columns c)
    if draft.isInside then { e with panel := panel.clearToEnd }.drawTail else { e with panel }

/-- Remove the character at the cursor.  Refused at the end of the text. -/
def delete? (e : LineEditor) : Option LineEditor :=
  (e.draft.eraseRight?).map fun (c, draft) =>
    { e with draft, panel := (e.panel.delete (columns c)).clearToEnd }.drawTail

/-- Repeat a step at most some number of times, until it is refused. -/
def repeatStep (step? : LineEditor → Option LineEditor) : Nat → LineEditor → LineEditor
  | 0, e => e
  | n + 1, e =>
    match step? e with
    | some e => repeatStep step? n e
    | none => e

/-- Step to the start of the text. -/
def home (e : LineEditor) : LineEditor :=
  repeatStep left? e.draft.position e

/-- Step to the end of the text. -/
def toEnd (e : LineEditor) : LineEditor :=
  repeatStep right? e.draft.after.length e

/-- Empty the draft and leave only the prompt. -/
def clear (e : LineEditor) : LineEditor :=
  { e with draft := {}, offset := 0 }.drawPrompt

/-- End the line: its text, unless it is empty, and an editor with an empty row. -/
def submit (e : LineEditor) : LineEditor × Outcome :=
  if e.draft.size = 0 then (e, .empty)
  else ({ e with draft := {}, offset := 0, panel := e.panel.erase }, .submitted e.draft.text)

end LineEditor
end ChatConsole
