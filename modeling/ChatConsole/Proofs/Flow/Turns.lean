/-
# Every new line is a row ended

Pouring runs a new line when it ends a row, and a grid that scrolls runs one by itself when a glyph
does not fit its row.  `turnsOfRun` lists both along a run, on the grids the run passes through.  The
second kind never occurs (`turnsOfRun_onto`): a text that is poured at the start of a row runs exactly
as many new lines as it is said to take rows, and what it leaves is as many rows of its own below what
was there, moved up as far as there is no room (`pour_represents`).
-/

import ChatConsole.Proofs.Flow.Rows

namespace ChatConsole

open Markup

/-! ### New lines along a run -/

/-- What runs a new line. -/
inductive Turn where
  /-- The row is ended. -/
  | ended
  /-- A glyph does not fit the row. -/
  | wrapped
  deriving DecidableEq

/-- New lines that putting a glyph runs. -/
def Grid.turnsOfPut (g : Grid) (c : Char) : List Turn :=
  let w := Text.columns c
  if w = 0 ∨ w > g.width ∨ g.height = 0 then []
  else if g.col + w ≤ g.width then []
  else if g.scrolls then [.wrapped]
  else []

namespace Flow

/-- New lines that putting blanks runs. -/
def turnsOfBlanks : Nat → Flow → List Turn
  | 0, _ => []
  | n + 1, s => s.grid.turnsOfPut ' ' ++ turnsOfBlanks n (s.addBlanks 1)

/-- New lines that taking one character of a wrapped text runs. -/
def turnsOfWrap (m : Measure) (c : Char) (rest : List Token) (s : Flow) : List Turn :=
  if c = '\n' then
    .ended :: if s.endRow.isFull m || rest.isEmpty then [] else s.endRow.turnsOfBlanks m.indent
  else if Text.isControl c then []
  else if s.column + needed c rest ≤ m.limit then s.grid.turnsOfPut c
  else
    .ended :: if s.endRow.isFull m then []
      else s.endRow.turnsOfBlanks m.indent ++
        if c = ' ' then [] else (s.endRow.addBlanks m.indent).grid.turnsOfPut c

/-- New lines that taking one token runs. -/
def turnsOfStep (m : Measure) (t : Token) (rest : List Token) (s : Flow) : List Turn :=
  match t with
  | .glyph c =>
    if s.grid.scrolls then s.turnsOfWrap m c rest
    else if Text.isControl c then []
    else s.grid.turnsOfPut c
  | _ => []

/-- New lines that a run runs. -/
def turnsOfRun (m : Measure) : List Token → Flow → List Turn
  | [], _ => []
  | t :: rest, s =>
    s.turnsOfStep m t rest ++
      if (s.step m t rest).isFull m then [] else turnsOfRun m rest (s.step m t rest)

end Flow

/-- New lines that pouring a text runs. -/
def Grid.turnsOfPour (g : Grid) (palette : Color.Palette) (text : String) (indent cap : Nat) :
    List Turn :=
  if text.isEmpty || g.width < 2 || g.height = 0 then []
  else Flow.turnsOfRun (.of g.width indent cap) (pouredTokens text g.scrolls) { grid := g, palette }

/-! ### Only ending a row runs a new line -/

namespace Sheet

variable {g : Grid} {ended : List (List Cell)} {m : Measure}

/-- A glyph that fits its row runs no new line. -/
theorem turnsOfPut_onto {s : Sheet} {c : Char} (hroom : s.line.length + Text.columns c ≤ g.width) :
    (s.onto g ended).grid.turnsOfPut c = [] := by
  unfold Grid.turnsOfPut
  dsimp only
  split
  · rfl
  · exact if_pos hroom

theorem turnsOfBlanks_onto (hh : 0 < g.height) (n : Nat) {s : Sheet}
    (hroom : s.line.length + n ≤ g.width) : (s.onto g ended).turnsOfBlanks n = [] := by
  induction n generalizing s with
  | zero => rfl
  | succ n ih =>
    have hput : (s.onto g ended).grid.turnsOfPut ' ' = [] :=
      turnsOfPut_onto (by rw [Text.columns_space]; omega)
    have hblank : (s.onto g ended).addBlanks 1 = (s.addBlanks 1).onto g ended :=
      addBlanks_onto hh 1 (by omega)
    rw [Flow.turnsOfBlanks, hput, hblank, ih (by rw [length_addBlanks]; omega), List.append_nil]

/-- The new row that a character begins runs no new line. -/
theorem turnsOfCarry_onto (hh : 0 < g.height) (hm : m.Fits g.width) (c : Char) {s : Sheet}
    (hline : s.line = []) :
    (s.onto g ended).turnsOfBlanks m.indent = [] ∧
      ((s.onto g ended).addBlanks m.indent).grid.turnsOfPut c = [] := by
  have hindent := hm.indent_le
  have hc := Text.columns_le_two c
  have hblanks : s.line.length + m.indent ≤ g.width := by
    rw [hline, List.length_nil]
    omega
  refine ⟨turnsOfBlanks_onto hh _ hblanks, ?_⟩
  rw [addBlanks_onto hh _ hblanks]
  refine turnsOfPut_onto ?_
  rw [length_addBlanks, hline, List.length_nil]
  omega

/-- One token runs a new line exactly if it ends a row. -/
theorem turnsOfStep_onto (hs : g.scrolls = true) (hh : 0 < g.height) (hm : m.Fits g.width)
    (t : Token) (rest : List Token) {s : Sheet} (hline : s.line.length ≤ g.width) :
    List.replicate s.rows.length .ended ++ (s.onto g ended).turnsOfStep m t rest
      = List.replicate (s.step m t rest).rows.length .ended := by
  cases t with
  | toggle | plain | color => exact List.append_nil _
  | glyph c =>
    have hscrolls : (s.onto g ended).grid.scrolls = true := hs
    have hcolumn : (s.onto g ended).column = s.line.length := rfl
    have hend : (s.onto g ended).endRow = s.endRow.onto g ended := endRow_onto hs hh hline
    obtain ⟨hblanks, hglyph⟩ :
        (s.endRow.onto g ended).turnsOfBlanks m.indent = [] ∧
          ((s.endRow.onto g ended).addBlanks m.indent).grid.turnsOfPut c = [] :=
      turnsOfCarry_onto hh hm c rfl
    have hturn : List.replicate s.rows.length Turn.ended ++ [.ended]
        = List.replicate (s.turn m c rest).rows.length .ended := by
      rw [rows_turn, List.length_append, List.length_singleton, List.replicate_succ']
    simp only [Flow.turnsOfStep, hscrolls, if_true, step, takeGlyph, Flow.turnsOfWrap, hcolumn, hend,
      hblanks, hglyph, ite_self, List.append_nil]
    rcases place_cases m c rest s.line.length with
      ⟨hnewline, hplace⟩ | ⟨hnewline, hcontrol, hplace⟩ | ⟨hnewline, hcontrol, hroom, hplace⟩ |
        ⟨hnewline, hcontrol, hroom, hplace⟩
    · rw [hplace, if_pos hnewline]
      exact hturn
    · rw [hplace, if_neg hnewline, if_pos hcontrol, List.append_nil]
    · have hneeded := columns_le_needed c rest
      have hlimit := hm.limit_lt
      have hput : (s.onto g ended).grid.turnsOfPut c = [] := turnsOfPut_onto (by omega)
      rw [hplace, if_neg hnewline, if_neg hcontrol, if_pos hroom, hput, List.append_nil]
      simp
    · rw [hplace, if_neg hnewline, if_neg hcontrol, if_neg hroom]
      exact hturn

/-- **A run runs a new line for each row it ends, and no other.** -/
theorem turnsOfRun_onto (hs : g.scrolls = true) (hh : 0 < g.height) (hm : m.Fits g.width)
    (ts : List Token) {s : Sheet} (hline : s.line.length ≤ g.width) :
    List.replicate s.rows.length .ended ++ (s.onto g ended).turnsOfRun m ts
      = List.replicate (s.run m ts).rows.length .ended := by
  induction ts generalizing s with
  | nil => exact List.append_nil _
  | cons t ts ih =>
    have hturns : List.replicate s.rows.length .ended ++ (s.onto g ended).turnsOfStep m t ts = _ :=
      turnsOfStep_onto hs hh hm t ts hline
    rw [Flow.turnsOfRun, run, step_onto hs hh hm t ts hline, isFull_onto, ← List.append_assoc, hturns]
    split
    · exact List.append_nil _
    · exact ih (length_step hm t ts hline)

end Sheet

/-! ### What pouring leaves -/

open Sheet

/-- The rows of a text as a grid shows them, whatever else is on the grid. -/
def Grid.printed (g : Grid) (palette : Color.Palette) (text : String) (indent cap : Nat) :
    List (List Cell) :=
  (ofText palette text g.width indent cap).rows.map g.fill

namespace Grid

variable {g : Grid} {ended : List (List Cell)}

theorem turnsOfPour_page (hs : g.scrolls = true) (hh : 0 < g.height) (hw : 2 ≤ g.width)
    (palette : Color.Palette) {text : String} (htext : text ≠ "") (indent cap : Nat) :
    (g.page ended [] []).turnsOfPour palette text indent cap
      = List.replicate (ofText palette text g.width indent cap).rows.length .ended := by
  have htokens : pouredTokens text (g.page ended [] []).scrolls = pouredTokens text true := by
    rw [page_scrolls, hs]
  have hturns : (({ palette } : Sheet).onto g ended).turnsOfRun (.of g.width indent cap)
        (pouredTokens text true)
      = List.replicate (ofText palette text g.width indent cap).rows.length .ended :=
    turnsOfRun_onto (s := { palette }) hs hh (Measure.fits_of hw indent cap) _ (Nat.zero_le _)
  rw [turnsOfPour, if_neg (takes_page hh hw htext), page_width, htokens, start_eq_onto]
  exact hturns

/-- The rows that a text is said to take are those of its sheet. -/
theorem rowsTaken_eq (palette : Color.Palette) {text : String} (htext : text ≠ "") (indent : Nat)
    {width : Nat} (hw : 2 ≤ width) :
    rowsTaken text indent width = (ofText palette text width indent 0).rows.length := by
  have hh : 0 < (new width 1 true).height := by simp [new, height]
  rw [rowsTaken, new_eq_page true Nat.one_pos, pour_page rfl hh hw _ htext]
  exact length_rows_ofText _ _ _ _ _ _

theorem length_printed (palette : Color.Palette) {text : String} (htext : text ≠ "")
    (indent cap : Nat) (hw : 2 ≤ g.width) :
    (g.printed palette text indent cap).length
      = if cap = 0 then rowsTaken text indent g.width
        else min cap (rowsTaken text indent g.width) := by
  rw [rowsTaken_eq palette htext indent hw, printed, List.length_map]
  split
  · rename_i hcap
    rw [hcap]
  · rename_i hcap
    rw [rows_ofText_cap _ _ _ _ _ (Nat.pos_of_ne_zero hcap), List.length_take]

/-- A cap leaves the first rows. -/
theorem printed_cap (palette : Color.Palette) (text : String) (indent cap : Nat) :
    g.printed palette text indent cap
      = (g.printed palette text indent 0).take (g.printed palette text indent cap).length := by
  by_cases hcap : cap = 0
  · rw [hcap, List.take_length]
  · have hrows : g.printed palette text indent cap
        = (g.printed palette text indent 0).take cap := by
      rw [printed, rows_ofText_cap _ _ _ _ _ (Nat.pos_of_ne_zero hcap), List.map_take, printed]
    rw [hrows, List.length_take, List.take_eq_take_iff]
    omega

theorem drop_rows_of_blank (hblank : ∀ y, g.row ≤ y → y < g.height → g.rows[y]? = some g.blankRow) :
    g.rows.drop g.row = List.replicate (g.height - g.row) g.blankRow := by
  apply List.ext_getElem?
  intro i
  rw [List.getElem?_drop, List.getElem?_replicate]
  split
  · exact hblank (g.row + i) (by omega) (by omega)
  · exact List.getElem?_eq_none (by simp only [height] at *; omega)

/-- A grid that is blank from the start of the cursor's row on is a page. -/
theorem page_of_blank (hrow : g.row < g.height) (hcol : g.col = 0)
    (hblank : ∀ y, g.row ≤ y → y < g.height → g.rows[y]? = some g.blankRow) :
    g.page (g.rows.take g.row) [] [] = g :=
  (eq_page hrow hcol (drop_rows_of_blank hblank)).symm

/-- What pouring a text leaves on a grid that is blank from its cursor on. -/
theorem pour_of_blank (hs : g.scrolls = true) (hw : 2 ≤ g.width) (hrow : g.row < g.height)
    (hcol : g.col = 0) (hblank : ∀ y, g.row ≤ y → y < g.height → g.rows[y]? = some g.blankRow)
    (palette : Color.Palette) {text : String} (htext : text ≠ "") (indent cap : Nat) :
    g.pour palette text indent cap
      = ⟨{ g with style := {} }.page (g.rows.take g.row ++ g.printed palette text indent cap) [] [],
          (ofText palette text g.width indent cap).palette,
          (g.printed palette text indent cap).length⟩ := by
  have hpoured : (g.page (g.rows.take g.row) [] []).pour palette text indent cap = _ :=
    pour_page hs (Nat.zero_lt_of_lt hrow) hw palette htext indent cap
  rw [page_of_blank hrow hcol hblank] at hpoured
  rw [hpoured, printed, List.length_map]

/-- Pouring a text there runs a new line for each of its rows. -/
theorem turnsOfPour_of_blank (hs : g.scrolls = true) (hw : 2 ≤ g.width) (hrow : g.row < g.height)
    (hcol : g.col = 0) (hblank : ∀ y, g.row ≤ y → y < g.height → g.rows[y]? = some g.blankRow)
    (palette : Color.Palette) {text : String} (htext : text ≠ "") (indent cap : Nat) :
    g.turnsOfPour palette text indent cap
      = List.replicate (g.printed palette text indent cap).length .ended := by
  have hturns : (g.page (g.rows.take g.row) [] []).turnsOfPour palette text indent cap = _ :=
    turnsOfPour_page hs (Nat.zero_lt_of_lt hrow) hw palette htext indent cap
  rw [page_of_blank hrow hcol hblank] at hturns
  rw [hturns, printed, List.length_map]

/-- **The represent count is exact.**  On a grid that scrolls, from the start of a row below which
all is blank, pouring a text takes the rows it is said to take, or fewer under a cap; it runs one new
line to end each of them, and no other; the cursor goes as many rows down, with a blank row under it,
or stays on the last row while what was there moves up; and a cap leaves the first of the rows that
pouring without one leaves. -/
theorem pour_represents (hs : g.scrolls = true) (hw : 2 ≤ g.width) (hrow : g.row < g.height)
    (hcol : g.col = 0) (hblank : ∀ y, g.row ≤ y → y < g.height → g.rows[y]? = some g.blankRow)
    (palette : Color.Palette) {text : String} (htext : text ≠ "") (indent cap : Nat) :
    let poured := g.pour palette text indent cap
    let count := rowsTaken text indent g.width
    let bottom := g.row + poured.rows
    let gone := bottom - (g.height - 1)
    poured.rows = (if cap = 0 then count else min cap count) ∧
      g.turnsOfPour palette text indent cap = List.replicate poured.rows .ended ∧
      (poured.grid.row = min bottom (g.height - 1) ∧ poured.grid.col = 0) ∧
      poured.grid.rows[poured.grid.row]? = some g.blankRow ∧
      poured.grid.rows
        = (g.rows.take g.row ++ g.printed palette text indent cap).drop gone ++
            List.replicate (g.height - poured.grid.row) g.blankRow ∧
      (g.printed palette text indent cap).length = poured.rows ∧
      g.printed palette text indent cap = (g.printed palette text indent 0).take poured.rows := by
  intro poured count bottom gone
  have hh : 0 < g.height := Nat.zero_lt_of_lt hrow
  have hpoured : poured = _ := pour_of_blank hs hw hrow hcol hblank palette htext indent cap
  have hlen : (g.printed palette text indent cap).length = poured.rows := by rw [hpoured]
  have hgrid : poured.grid
      = { g with style := {} }.page (g.rows.take g.row ++ g.printed palette text indent cap) [] [] :=
    congrArg Poured.grid hpoured
  have hended : (g.rows.take g.row ++ g.printed palette text indent cap).length = bottom := by
    rw [List.length_append, hlen, List.length_take_of_le (Nat.le_of_lt hrow)]
  have hrows : ({ g with style := {} }.page
      (g.rows.take g.row ++ g.printed palette text indent cap) [] []).rows = _ :=
    rows_page_fresh hh
  rw [hended, ← hgrid] at hrows
  refine ⟨?_, ?_, ?_, ?_, hrows, hlen, ?_⟩
  · rw [← hlen]
    exact length_printed palette htext indent cap hw
  · rw [← hlen]
    exact turnsOfPour_of_blank hs hw hrow hcol hblank palette htext indent cap
  · rw [hgrid, page, hended]
    exact ⟨rfl, rfl⟩
  · rw [hgrid]
    exact getElem?_row_page_fresh hh
  · rw [← hlen]
    exact printed_cap palette text indent cap

/-- A text of two rows on a grid of two rows: its first row is above the cursor, and the blank row that
was there has gone. -/
theorem pour_represents_two_rows :
    let g := new 6 2 true
    let poured := g.pour .off "ab cd ef" 1 0
    rowsTaken "ab cd ef" 1 6 = 2 ∧ poured.rows = 2 ∧
      g.turnsOfPour .off "ab cd ef" 1 0 = [.ended, .ended] ∧
      poured.grid.row = 1 ∧ poured.grid.col = 0 := by
  intro g poured
  have hcount : rowsTaken "ab cd ef" 1 6 = 2 := by decide +kernel
  have hblank : ∀ y, g.row ≤ y → y < g.height → g.rows[y]? = some g.blankRow := by
    intro y _ hy
    match y, hy with
    | 0, _ => rfl
    | 1, _ => rfl
  obtain ⟨hrows, hturns, hcursor, -⟩ := pour_represents (g := g) rfl (by decide) (by decide) rfl
    hblank .off (show "ab cd ef" ≠ "" by decide) 1 0
  have htwo : poured.rows = 2 := hrows.trans hcount
  rw [htwo] at hturns
  refine ⟨hcount, htwo, hturns, ?_, hcursor.2⟩
  have hmin : min (0 + poured.rows) (2 - 1) = 1 := by omega
  exact hcursor.1.trans hmin

end Grid
end ChatConsole
