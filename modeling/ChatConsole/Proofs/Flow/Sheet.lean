/-
# Pouring onto an endless sheet

A sheet never scrolls and has no right edge: it keeps every row that was ended, with just the cells put
there.  Pouring onto it takes the decisions that pouring onto a grid takes, with the length of the row
in progress for the column.  `run_onto` says that the two agree on every grid that scrolls and has room
for two columns: the grid shows the last page of the sheet.  In particular the column that pouring
counts is the column of the cursor, and no glyph is put where it would not fit its row.
-/

import ChatConsole.Flow
import ChatConsole.Proofs.Grid.Page

namespace ChatConsole

open Markup

/-- A sheet with text on it, and what is needed to pour on. -/
structure Sheet where
  /-- The rows ended so far. -/
  rows : List (List Cell) := []
  /-- The row in progress. -/
  line : List Cell := []
  palette : Color.Palette
  pen : Pen := {}

namespace Sheet

/-- End the row. -/
def endRow (s : Sheet) : Sheet :=
  { s with rows := s.rows ++ [s.line], line := [] }

/-- Whether the cap on rows is reached. -/
def isFull (m : Measure) (s : Sheet) : Bool :=
  m.cap > 0 && s.rows.length ≥ m.cap

/-- Put blanks in the plain style. -/
def addBlanks (n : Nat) (s : Sheet) : Sheet :=
  { s with line := s.line ++ List.replicate n {} }

/-- Put a glyph in the style of the pen; one without a column leaves nothing. -/
def addGlyph (c : Char) (s : Sheet) : Sheet :=
  if Text.columns c = 0 then s else { s with line := s.line ++ Cell.ofGlyph c s.pen.style }

/-- Begin a row after the one that a character has ended: an indent, and the character if it shows.
After the end of the text no row begins. -/
def carry (m : Measure) (c : Char) (rest : List Token) (s : Sheet) : Sheet :=
  if c = '\n' then if rest.isEmpty then s else s.addBlanks m.indent
  else if c = ' ' then s.addBlanks m.indent
  else (s.addBlanks m.indent).addGlyph c

/-- End the row with a character and go on with the next one, unless the cap is reached. -/
def turn (m : Measure) (c : Char) (rest : List Token) (s : Sheet) : Sheet :=
  if s.endRow.isFull m then s.endRow else s.endRow.carry m c rest

/-- Where a character goes. -/
inductive Place where
  /-- It is not shown. -/
  | nowhere
  /-- On the row in progress. -/
  | here
  /-- It ends the row. -/
  | next

/-- Where a character goes when some columns of the row are filled. -/
def place (m : Measure) (c : Char) (rest : List Token) (column : Nat) : Place :=
  if c = '\n' then .next
  else if Text.isControl c then .nowhere
  else if column + Flow.needed c rest ≤ m.limit then .here
  else .next

/-- Take one character, with the tokens that follow it. -/
def takeGlyph (m : Measure) (c : Char) (rest : List Token) (s : Sheet) : Sheet :=
  match place m c rest s.line.length with
  | .nowhere => s
  | .here => s.addGlyph c
  | .next => s.turn m c rest

/-- Take one token, with the tokens that follow it. -/
def step (m : Measure) (t : Token) (rest : List Token) (s : Sheet) : Sheet :=
  match t with
  | .glyph c => s.takeGlyph m c rest
  | t => { s with pen := (s.pen.read s.palette t).1, palette := (s.pen.read s.palette t).2 }

/-- Take tokens until they end or the cap is reached. -/
def run (m : Measure) : List Token → Sheet → Sheet
  | [], s => s
  | t :: rest, s => if (s.step m t rest).isFull m then s.step m t rest else run m rest (s.step m t rest)

/-- A text poured onto a blank sheet. -/
def ofText (palette : Color.Palette) (text : String) (width indent cap : Nat) : Sheet :=
  run (.of width indent cap) (pouredTokens text true) { palette }

end Sheet

/-! ### A measure that fits its grid -/

/-- A row that is filled up to the limit leaves a column free, and after an indent there is room for
any glyph. -/
structure Measure.Fits (m : Measure) (width : Nat) : Prop where
  limit_lt : m.limit < width
  indent_le : m.indent + 2 ≤ width

theorem Measure.fits_of {width : Nat} (h : 2 ≤ width) (indent cap : Nat) :
    (Measure.of width indent cap).Fits width where
  limit_lt := by simp only [Measure.of]; omega
  indent_le := by simp only [Measure.of]; omega

/-! ### The sheet behind the grid -/

namespace Sheet

/-- Pouring on a grid that shows the last page of a sheet, after some full rows. -/
def onto (g : Grid) (ended : List (List Cell)) (s : Sheet) : Flow where
  grid := g.page (ended ++ s.rows.map g.fill) s.line []
  palette := s.palette
  pen := s.pen
  column := s.line.length
  rows := s.rows.length

variable {g : Grid} {ended : List (List Cell)} {m : Measure}

theorem endRow_onto (hs : g.scrolls = true) (hh : 0 < g.height) {s : Sheet}
    (hline : s.line.length ≤ g.width) : (s.onto g ended).endRow = s.endRow.onto g ended := by
  simp only [Flow.endRow, onto, endRow, Grid.newline_page hs hh hline]
  simp

@[simp] theorem isFull_onto (s : Sheet) : (s.onto g ended).isFull m = s.isFull m := rfl

theorem addBlanks_onto (hh : 0 < g.height) (n : Nat) {s : Sheet}
    (hroom : s.line.length + n ≤ g.width) :
    (s.onto g ended).addBlanks n = (s.addBlanks n).onto g ended := by
  induction n generalizing s with
  | zero => simp [Flow.addBlanks, addBlanks]
  | succ n ih =>
    have hput : (s.onto g ended).grid.put? ' ' {}
        = some (g.page (ended ++ s.rows.map g.fill) (s.line ++ [({} : Cell)]) []) := by
      have hroom' : s.line.length + Text.columns ' ' ≤ g.width := by
        rw [Text.columns_space]; omega
      rw [onto, Grid.put?_page hh (by simp) hroom', List.drop_nil]
      rfl
    have hstep : (s.onto g ended).addBlanks (n + 1)
        = ((s.addBlanks 1).onto g ended).addBlanks n := by
      rw [Flow.addBlanks, hput]
      simp [onto, addBlanks]
    rw [hstep, ih (by simp [addBlanks]; omega)]
    simp [addBlanks, List.append_assoc, List.replicate_succ]

theorem addGlyph_onto (hh : 0 < g.height) {c : Char} {s : Sheet}
    (hroom : s.line.length + Text.columns c ≤ g.width) :
    (s.onto g ended).addGlyph c = (s.addGlyph c).onto g ended := by
  by_cases hc : Text.columns c = 0
  · simp [Flow.addGlyph, addGlyph, Grid.put?, hc]
  · have hput : (s.onto g ended).grid.put? c s.pen.style
        = some (g.page (ended ++ s.rows.map g.fill) (s.line ++ Cell.ofGlyph c s.pen.style) []) := by
      rw [onto, Grid.put?_page hh hc hroom, List.drop_nil]
    have hpen : (s.onto g ended).pen = s.pen := rfl
    rw [Flow.addGlyph, hpen, hput]
    simp [onto, addGlyph, hc, Cell.length_ofGlyph hc]

/-! ### One token -/

theorem length_addBlanks (n : Nat) (s : Sheet) :
    (s.addBlanks n).line.length = s.line.length + n := by
  simp [addBlanks]

theorem length_addGlyph (c : Char) (s : Sheet) :
    (s.addGlyph c).line.length = s.line.length + Text.columns c := by
  unfold addGlyph
  split
  · rename_i hc
    simp [hc]
  · rename_i hc
    simp [Cell.length_ofGlyph hc]

/-- What decides where a character goes: it ends the row by itself, it does not show, there is room for
it, or there is none. -/
theorem place_cases (m : Measure) (c : Char) (rest : List Token) (column : Nat) :
    (c = '\n' ∧ place m c rest column = .next) ∨
    (c ≠ '\n' ∧ Text.isControl c = true ∧ place m c rest column = .nowhere) ∨
    (c ≠ '\n' ∧ ¬Text.isControl c = true ∧ column + Flow.needed c rest ≤ m.limit ∧
      place m c rest column = .here) ∨
    (c ≠ '\n' ∧ ¬Text.isControl c = true ∧ ¬column + Flow.needed c rest ≤ m.limit ∧
      place m c rest column = .next) := by
  unfold place
  by_cases hnewline : c = '\n'
  · exact Or.inl ⟨hnewline, if_pos hnewline⟩
  rw [if_neg hnewline]
  by_cases hcontrol : Text.isControl c = true
  · exact Or.inr (Or.inl ⟨hnewline, hcontrol, if_pos hcontrol⟩)
  rw [if_neg hcontrol]
  by_cases hroom : column + Flow.needed c rest ≤ m.limit
  · exact Or.inr (Or.inr (Or.inl ⟨hnewline, hcontrol, hroom, if_pos hroom⟩))
  · exact Or.inr (Or.inr (Or.inr ⟨hnewline, hcontrol, hroom, if_neg hroom⟩))

/-- A character needs the columns it takes at least. -/
theorem columns_le_needed (c : Char) (rest : List Token) : Text.columns c ≤ Flow.needed c rest := by
  unfold Flow.needed
  split
  · rename_i hc
    rw [hc, Text.columns_space]
    omega
  · exact Nat.le_refl _

/-- A row begins with an indent and one glyph at most, for which there is room. -/
theorem length_carry {width : Nat} (hm : m.Fits width) (c : Char) (rest : List Token) {s : Sheet}
    (hline : s.line = []) : (s.carry m c rest).line.length ≤ width := by
  have hindent := hm.indent_le
  have hc := Text.columns_le_two c
  have hblanks : (s.addBlanks m.indent).line.length = m.indent := by
    rw [length_addBlanks, hline, List.length_nil, Nat.zero_add]
  unfold carry
  split
  · split
    · simp [hline]
    · omega
  split
  · omega
  · rw [length_addGlyph]
    omega

/-- Pouring a character leaves the row in progress within the width. -/
theorem length_takeGlyph {width : Nat} (hm : m.Fits width) (c : Char) (rest : List Token)
    {s : Sheet} (hline : s.line.length ≤ width) :
    (s.takeGlyph m c rest).line.length ≤ width := by
  have hturn : (s.turn m c rest).line.length ≤ width := by
    unfold turn
    split
    · exact Nat.zero_le _
    · exact length_carry hm c rest rfl
  unfold takeGlyph
  rcases place_cases m c rest s.line.length with
    ⟨-, hplace⟩ | ⟨-, -, hplace⟩ | ⟨-, -, hroom, hplace⟩ | ⟨-, -, -, hplace⟩
  · rw [hplace]
    exact hturn
  · rw [hplace]
    exact hline
  · have hneeded := columns_le_needed c rest
    have hlimit := hm.limit_lt
    rw [hplace]
    show (s.addGlyph c).line.length ≤ width
    rw [length_addGlyph]
    omega
  · rw [hplace]
    exact hturn

theorem length_step {width : Nat} (hm : m.Fits width) (t : Token) (rest : List Token)
    {s : Sheet} (hline : s.line.length ≤ width) : (s.step m t rest).line.length ≤ width := by
  cases t with
  | glyph c => exact length_takeGlyph hm c rest hline
  | toggle | plain | color => exact hline

/-- Beginning a row on the grid is beginning it on the sheet behind it. -/
theorem carry_onto (hh : 0 < g.height) (hm : m.Fits g.width) (c : Char) (rest : List Token)
    {s : Sheet} (hline : s.line = []) :
    (s.carry m c rest).onto g ended
      = if c = '\n' then if rest.isEmpty then s.onto g ended else (s.onto g ended).addBlanks m.indent
        else if c = ' ' then (s.onto g ended).addBlanks m.indent
        else ((s.onto g ended).addBlanks m.indent).addGlyph c := by
  have hindent := hm.indent_le
  have hc := Text.columns_le_two c
  have hblanks : (s.onto g ended).addBlanks m.indent = (s.addBlanks m.indent).onto g ended := by
    refine addBlanks_onto hh _ ?_
    rw [hline, List.length_nil]
    omega
  have hglyph : ((s.addBlanks m.indent).onto g ended).addGlyph c
      = ((s.addBlanks m.indent).addGlyph c).onto g ended := by
    refine addGlyph_onto hh ?_
    rw [length_addBlanks, hline, List.length_nil]
    omega
  rw [hblanks, hglyph]
  unfold carry
  split
  · split <;> rfl
  · split <;> rfl

/-- Pouring a character onto the grid is pouring it onto the sheet behind it. -/
theorem takeGlyph_onto (hs : g.scrolls = true) (hh : 0 < g.height) (hm : m.Fits g.width)
    (c : Char) (rest : List Token) {s : Sheet} (hline : s.line.length ≤ g.width) :
    (s.onto g ended).wrapGlyph m c rest = (s.takeGlyph m c rest).onto g ended := by
  have hcolumn : (s.onto g ended).column = s.line.length := rfl
  have hend : (s.onto g ended).endRow = s.endRow.onto g ended := endRow_onto hs hh hline
  have hcarry : (s.endRow.carry m c rest).onto g ended = _ := carry_onto hh hm c rest rfl
  unfold Flow.wrapGlyph takeGlyph
  rw [hcolumn, hend]
  rcases place_cases m c rest s.line.length with
    ⟨hnewline, hplace⟩ | ⟨hnewline, hcontrol, hplace⟩ | ⟨hnewline, hcontrol, hroom, hplace⟩ |
      ⟨hnewline, hcontrol, hroom, hplace⟩
  · rw [if_pos hnewline] at hcarry
    rw [hplace, if_pos hnewline]
    simp only [turn, isFull_onto]
    by_cases hfull : s.endRow.isFull m = true
    · simp [hfull]
    · simp [hfull, hcarry]
  · rw [hplace, if_neg hnewline, if_pos hcontrol]
  · rw [hplace, if_neg hnewline, if_neg hcontrol, if_pos hroom]
    have hneeded := columns_le_needed c rest
    have hlimit := hm.limit_lt
    exact addGlyph_onto hh (by omega)
  · rw [if_neg hnewline] at hcarry
    rw [hplace, if_neg hnewline, if_neg hcontrol, if_neg hroom]
    simp only [turn, isFull_onto]
    by_cases hfull : s.endRow.isFull m = true
    · simp [hfull]
    · simp [hfull, hcarry]

theorem step_onto (hs : g.scrolls = true) (hh : 0 < g.height) (hm : m.Fits g.width)
    (t : Token) (rest : List Token) {s : Sheet} (hline : s.line.length ≤ g.width) :
    (s.onto g ended).step m t rest = (s.step m t rest).onto g ended := by
  cases t with
  | glyph c =>
    have hscrolls : (s.onto g ended).grid.scrolls = true := hs
    simp only [Flow.step, hscrolls, if_true]
    exact takeGlyph_onto hs hh hm c rest hline
  | toggle | plain | color => rfl

/-! ### A whole text -/

/-- **Pouring onto a grid is pouring onto the sheet that the grid shows the end of.** -/
theorem run_onto (hs : g.scrolls = true) (hh : 0 < g.height) (hm : m.Fits g.width)
    (ts : List Token) {s : Sheet} (hline : s.line.length ≤ g.width) :
    (s.onto g ended).run m ts = (s.run m ts).onto g ended := by
  induction ts generalizing s with
  | nil => rfl
  | cons t ts ih =>
    rw [Flow.run, run, step_onto hs hh hm t ts hline, isFull_onto]
    split
    · rfl
    · exact ih (length_step hm t ts hline)

end Sheet
end ChatConsole
