/-
# Wrapping moves glyphs, and changes none

Where a row ends depends on the width of the grid and on the indent; what is shown does not.  Read row
by row, with fillers and spaces left out, a poured text is its inscription (`glyphs_ofText`): the visible
characters of the text, each in the style that the decoration before it gives.  So a text poured onto
any two grids that can hold it shows the same (`pour_glyphs`).
-/

import ChatConsole.Proofs.Flow.Turns
import ChatConsole.Proofs.Markup.Decoration

namespace ChatConsole

open Markup

/-! ### Cells that show -/

/-- Whether a cell shows something: it is neither blank nor the filler after a wide glyph. -/
def Cell.isShown (cell : Cell) : Bool :=
  cell.char ≠ Cell.filler && cell.char ≠ ' '

/-- The cells of a grid that show something, row by row. -/
def Grid.glyphs (g : Grid) : List Cell :=
  g.rows.flatten.filter Cell.isShown

/-- A character leaves the cell that it shows, and nothing else that shows. -/
theorem Cell.filter_ofGlyph {c : Char} (hcontrol : ¬Text.isControl c = true)
    (hc : Text.columns c ≠ 0) (style : Style) :
    (Cell.ofGlyph c style).filter Cell.isShown = ((Token.glyph c).cell? style).toList := by
  have hfiller : c ≠ Cell.filler := by
    rintro rfl
    exact hcontrol (by decide)
  have hfillers : (List.replicate (Text.columns c - 1) (⟨Cell.filler, style⟩ : Cell)).filter
      Cell.isShown = [] := by
    rw [List.filter_replicate_of_neg (by simp [Cell.isShown])]
  rw [Cell.ofGlyph, List.filter_cons, hfillers]
  by_cases hspace : c = ' ' <;> simp [Cell.isShown, Token.cell?, isVisible, *]

namespace Sheet

variable {m : Measure} {s : Sheet}

/-- The cells of a sheet that show something, row by row. -/
def glyphs (s : Sheet) : List Cell :=
  (s.rows.flatten ++ s.line).filter Cell.isShown

@[simp] theorem glyphs_endRow (s : Sheet) : s.endRow.glyphs = s.glyphs := by
  simp [glyphs, endRow]

@[simp] theorem glyphs_addBlanks (n : Nat) (s : Sheet) : (s.addBlanks n).glyphs = s.glyphs := by
  simp [glyphs, addBlanks, Cell.isShown]

theorem glyphs_addGlyph {c : Char} (hcontrol : ¬Text.isControl c = true) (s : Sheet) :
    (s.addGlyph c).glyphs = s.glyphs ++ ((Token.glyph c).cell? s.pen.style).toList := by
  unfold addGlyph
  split
  · rename_i hc
    simp [Token.cell?, isVisible, hc]
  · rename_i hc
    simp only [glyphs, List.filter_append, Cell.filter_ofGlyph hcontrol hc, List.append_assoc]

/-- A control character shows nothing. -/
theorem cell?_of_isControl {c : Char} (hcontrol : Text.isControl c = true) (style : Style) :
    (Token.glyph c).cell? style = none := by
  simp [Token.cell?, isVisible, hcontrol]

/-- A row that a character begins shows the character, if it shows. -/
theorem glyphs_carry {c : Char} (hc : c = '\n' ∨ ¬Text.isControl c = true) (rest : List Token)
    (s : Sheet) :
    (s.carry m c rest).glyphs = s.glyphs ++ ((Token.glyph c).cell? s.pen.style).toList := by
  unfold carry
  split
  · rename_i hnewline
    rw [cell?_of_isControl (by rw [hnewline]; decide)]
    split <;> simp
  rename_i hnewline
  split
  · rename_i hspace
    simp [Token.cell?, isVisible, hspace]
  · rw [glyphs_addGlyph (hc.resolve_left hnewline), glyphs_addBlanks]
    rfl

/-- Without a cap a character is taken, wherever it goes. -/
theorem glyphs_takeGlyph (hcap : m.cap = 0) (c : Char) (rest : List Token) (s : Sheet) :
    (s.takeGlyph m c rest).glyphs = s.glyphs ++ ((Token.glyph c).cell? s.pen.style).toList := by
  have hroom : s.endRow.isFull m = false := by simp [isFull, hcap]
  have hturn (hc : c = '\n' ∨ ¬Text.isControl c = true) :
      (s.turn m c rest).glyphs = s.glyphs ++ ((Token.glyph c).cell? s.pen.style).toList := by
    rw [turn, hroom, if_neg Bool.noConfusion, glyphs_carry hc, glyphs_endRow]
    rfl
  unfold takeGlyph
  rcases place_cases m c rest s.line.length with
    ⟨hnewline, hplace⟩ | ⟨-, hcontrol, hplace⟩ | ⟨-, hcontrol, -, hplace⟩ |
      ⟨-, hcontrol, -, hplace⟩ <;> rw [hplace]
  · exact hturn (Or.inl hnewline)
  · rw [cell?_of_isControl hcontrol, Option.toList_none, List.append_nil]
  · exact glyphs_addGlyph hcontrol s
  · exact hturn (Or.inr hcontrol)

@[simp] theorem pen_addGlyph (c : Char) (s : Sheet) : (s.addGlyph c).pen = s.pen := by
  unfold addGlyph
  split <;> rfl

theorem pen_takeGlyph (c : Char) (rest : List Token) (s : Sheet) :
    (s.takeGlyph m c rest).pen = s.pen := by
  unfold takeGlyph
  cases place m c rest s.line.length with
  | nowhere => rfl
  | here => exact pen_addGlyph c s
  | next =>
    dsimp only
    unfold turn
    split
    · rfl
    unfold carry
    split
    · split <;> rfl
    split
    · rfl
    · exact pen_addGlyph ..

/-- One token adds the cell that it shows in the style of the pen, and is read by the pen. -/
theorem glyphs_step (hcap : m.cap = 0) (t : Token) (rest : List Token) (s : Sheet) :
    (s.step m t rest).glyphs = s.glyphs ++ (t.cell? s.pen.style).toList ∧
      ((s.step m t rest).pen, (s.step m t rest).palette) = s.pen.read s.palette t := by
  cases t with
  | glyph c =>
    refine ⟨glyphs_takeGlyph hcap c rest s, ?_⟩
    rw [step, pen_takeGlyph, palette_takeGlyph]
    rfl
  | toggle | plain | color => exact ⟨(List.append_nil _).symm, rfl⟩

/-- **The measure has no say in what a run shows**: the glyphs as the pen draws them. -/
theorem glyphs_run (hcap : m.cap = 0) (ts : List Token) (s : Sheet) :
    (s.run m ts).glyphs = s.glyphs ++ penned (s.pen, s.palette) ts ∧
      (s.run m ts).palette = (ts.foldl (fun r t => r.1.read r.2 t) (s.pen, s.palette)).2 := by
  induction ts generalizing s with
  | nil => exact ⟨(List.append_nil _).symm, rfl⟩
  | cons t ts ih =>
    have hroom : (s.step m t ts).isFull m = false := by simp [isFull, hcap]
    obtain ⟨hglyphs, hread⟩ := glyphs_step hcap t ts s
    obtain ⟨hrun, hpalette⟩ := ih (s.step m t ts)
    rw [run, hroom, if_neg Bool.noConfusion, hrun, hpalette, hglyphs, hread, penned,
      List.append_assoc]
    exact ⟨rfl, rfl⟩

end Sheet

/-! ### Even spaces -/

/-- A token with its space made even. -/
def Markup.Token.even : Token → Token
  | .glyph c => .glyph (evenSpace c)
  | t => t

/-- Only control characters are made even, and no mark or digit is among them. -/
theorem evenSpace_cases (c : Char) :
    evenSpace c = c ∨
      evenSpace c = ' ' ∧ Text.isControl c = true ∧ Mark.ofChar? c = none ∧ digit? c = none := by
  unfold evenSpace
  split
  · rename_i hc
    right
    rcases hc with rfl | rfl | rfl <;> decide
  · exact Or.inl rfl

theorem digit?_evenSpace (c : Char) : digit? (evenSpace c) = digit? c := by
  rcases evenSpace_cases c with h | ⟨h, -, -, hdigit⟩
  · rw [h]
  · rw [h, hdigit]
    decide

theorem ofChar?_evenSpace (c : Char) : Mark.ofChar? (evenSpace c) = Mark.ofChar? c := by
  rcases evenSpace_cases c with h | ⟨h, -, hmark, -⟩
  · rw [h]
  · rw [h, hmark]
    decide

theorem number?_evenSpace (cs : List Char) : number? (cs.map evenSpace) = number? cs := by
  cases cs with
  | nil => rfl
  | cons c cs =>
    have hhead : (cs.map evenSpace).head?.bind digit? = cs.head?.bind digit? := by
      cases cs with
      | nil => rfl
      | cons d cs => exact digit?_evenSpace d
    rw [List.map_cons, number?, number?, digit?_evenSpace, hhead]

theorem scan_evenSpace (cs : List Char) : ColorCode.scan (cs.map evenSpace) = ColorCode.scan cs := by
  unfold ColorCode.scan
  rw [number?_evenSpace]
  cases number? cs with
  | none => rfl
  | some vn =>
    obtain ⟨fg, n⟩ := vn
    dsimp only
    rw [← List.map_drop]
    cases cs.drop n with
    | nil => rfl
    | cons c rest =>
      by_cases hc : c = ','
      · obtain rfl := hc
        have hcomma : evenSpace ',' = ',' := by decide
        simp only [List.map_cons, hcomma, number?_evenSpace]
      · have hcomma : evenSpace c ≠ ',' := by
          rcases evenSpace_cases c with h | ⟨h, -⟩
          · rwa [h]
          · rw [h]
            decide
        simp [hc, hcomma]

/-- Making spaces even changes no decoration. -/
theorem tokens_evenSpace (cs : List Char) :
    tokens (cs.map evenSpace) = (tokens cs).map Token.even := by
  induction cs using tokens.induct with
  | case1 => simp
  | case7 c cs hc ih =>
    rw [List.map_cons, tokens, tokens, ofChar?_evenSpace, hc]
    dsimp only
    rw [scan_evenSpace, ← List.map_drop, ih, List.map_cons]
    rfl
  | case2 c cs hc ih | case3 c cs hc ih | case4 c cs hc ih | case5 c cs hc ih | case6 c cs hc ih
  | case8 c cs hc ih =>
    rw [List.map_cons, tokens, tokens, ofChar?_evenSpace, hc]
    dsimp only
    rw [ih, List.map_cons]
    rfl

/-- A space shows nothing, even or not. -/
theorem cell?_even (style : Style) (t : Token) : t.even.cell? style = t.cell? style := by
  cases t with
  | toggle | plain | color => rfl
  | glyph c =>
    rcases evenSpace_cases c with h | ⟨h, hcontrol, -⟩
    · rw [Token.even, h]
    · rw [Token.even, h, Sheet.cell?_of_isControl hcontrol]
      rfl

theorem read_even (pen : Pen) (p : Color.Palette) (t : Token) : pen.read p t.even = pen.read p t := by
  cases t <;> rfl

theorem penned_even (s : Pen × Color.Palette) (ts : List Token) :
    penned s (ts.map Token.even) = penned s ts := by
  induction ts generalizing s with
  | nil => rfl
  | cons t ts ih => rw [List.map_cons, penned, penned, cell?_even, read_even, ih]

theorem penAfter_even (p : Color.Palette) (ts : List Token) :
    penAfter p (ts.map Token.even) = penAfter p ts := by
  simp only [penAfter, List.foldl_map, read_even]

/-! ### A whole text -/

namespace Sheet

variable (p : Color.Palette) (text : String) (width indent : Nat)

/-- **A poured text shows its inscription**, whatever the measure, and leaves the palette with its
colours. -/
theorem glyphs_ofText :
    (ofText p text width indent 0).glyphs = inscription p text ∧
      (ofText p text width indent 0).palette = paletteAfter p (tokens text.toList) := by
  obtain ⟨hglyphs, hpalette⟩ :=
    glyphs_run (m := .of width indent 0) rfl (pouredTokens text true) { palette := p }
  have htokens : pouredTokens text true
      = ((tokens text.toList).map Token.even) ++ [.glyph '\n'] := by
    rw [pouredTokens_wrapped, tokens_evenSpace]
  rw [htokens] at hglyphs hpalette
  rw [ofText, htokens]
  refine ⟨hglyphs.trans ?_, hpalette.trans ?_⟩
  · rw [penned_append, penned_even, penned, cell?_of_isControl (by decide)]
    have hpenned : penned ({}, p) (tokens text.toList) = _ := penned_penAfter p [] _
    simpa [glyphs, penned, inscription] using hpenned
  · rw [List.foldl_append]
    have hpen := penAfter_even p (tokens text.toList)
    rw [← snd_penAfter, ← hpen]
    rfl

/-- A row is no longer than the grid is wide. -/
theorem length_le_of_mem_rows {m : Measure} {width : Nat} (hm : m.Fits width) (ts : List Token)
    {s : Sheet} (hline : s.line.length ≤ width) (hrows : ∀ row ∈ s.rows, row.length ≤ width) :
    ∀ row ∈ (s.run m ts).rows, row.length ≤ width := by
  induction ts generalizing s with
  | nil => exact hrows
  | cons t ts ih =>
    have hstep : ∀ row ∈ (s.step m t ts).rows, row.length ≤ width := by
      rcases rows_step (m := m) t ts s with h | h <;> rw [h]
      · exact hrows
      · exact List.forall_mem_append.2 ⟨hrows, List.forall_mem_singleton.2 hline⟩
    rw [run]
    split
    · exact hstep
    · exact ih (length_step hm t ts hline) hstep

end Sheet

/-! ### Two grids -/

namespace Grid

variable {g : Grid}

theorem filter_replicate_blank (g : Grid) (n : Nat) :
    (List.replicate n g.blank).filter Cell.isShown = [] :=
  List.filter_replicate_of_neg (by simp [Cell.isShown, blank])

theorem filter_blankRows (g : Grid) (n : Nat) :
    (List.replicate n g.blankRow).flatten.filter Cell.isShown = [] := by
  rw [blankRow, List.flatten_replicate_replicate, filter_replicate_blank]

/-- Filling a row up adds nothing that shows. -/
theorem filter_fill {cells : List Cell} (h : cells.length ≤ g.width) :
    (g.fill cells).filter Cell.isShown = cells.filter Cell.isShown := by
  have hfill : g.fill (cells ++ []) = cells ++ List.replicate (g.width - cells.length) g.blank := by
    rw [fill_append h, List.takeD_nil]
  rw [← List.append_nil cells, hfill, List.filter_append, filter_replicate_blank, List.append_nil,
    List.append_nil]

theorem filter_fillRows {rows : List (List Cell)} (h : ∀ row ∈ rows, row.length ≤ g.width) :
    (rows.map g.fill).flatten.filter Cell.isShown = rows.flatten.filter Cell.isShown := by
  rw [List.filter_flatten, List.filter_flatten, List.map_map]
  refine congrArg List.flatten (List.map_congr_left ?_)
  intro row hrow
  exact filter_fill (h row hrow)

theorem filter_printed (hw : 2 ≤ g.width) (p : Color.Palette) (text : String) (indent : Nat) :
    (g.printed p text indent 0).flatten.filter Cell.isShown = inscription p text := by
  have hrows : ∀ row ∈ (Sheet.ofText p text g.width indent 0).rows, row.length ≤ g.width :=
    Sheet.length_le_of_mem_rows (Measure.fits_of hw indent 0) _ (Nat.zero_le _) (by simp)
  have hglyphs := (Sheet.glyphs_ofText p text g.width indent).1
  rw [Sheet.glyphs, Sheet.line_ofText, List.append_nil] at hglyphs
  rw [printed, filter_fillRows hrows, hglyphs]

/-- A page on which no row has scrolled away has all rows that were ended, and blank ones below. -/
theorem rows_page_of_room {ended : List (List Cell)} (hroom : ended.length < g.height) :
    (g.page ended [] []).rows = ended ++ List.replicate (g.height - ended.length) g.blankRow := by
  have hkept : ended.length - (g.height - 1) = 0 := by omega
  have hrow : (g.page ended [] []).row = ended.length := Nat.min_eq_left (by omega)
  rw [rows_page_fresh (Nat.zero_lt_of_lt hroom), hkept, List.drop_zero, hrow]

/-- What pouring a text leaves on a blank grid. -/
theorem pour_of_erased (hs : g.scrolls = true) (hw : 2 ≤ g.width) (hh : 0 < g.height)
    (hblank : g.erase = g) (p : Color.Palette) {text : String} (htext : text ≠ "") (indent cap : Nat) :
    g.pour p text indent cap
      = ⟨{ g with style := {} }.page (g.printed p text indent cap) [] [],
          (Sheet.ofText p text g.width indent cap).palette, (g.printed p text indent cap).length⟩ := by
  have hrow : g.row = 0 := by rw [← hblank]; rfl
  have hcol : g.col = 0 := by rw [← hblank]; rfl
  have hrows : g.rows = List.replicate g.height g.blankRow := by
    have herase : g.erase.rows = List.replicate g.height g.blankRow := rfl
    rwa [hblank] at herase
  have hbelow : ∀ y, g.row ≤ y → y < g.height → g.rows[y]? = some g.blankRow := by
    intro y _ hy
    rw [hrows, List.getElem?_replicate, if_pos hy]
  have htake : g.rows.take g.row = [] := by rw [hrow, List.take_zero]
  rw [pour_of_blank hs hw (by rwa [hrow]) hcol hbelow p htext indent cap, htake, List.nil_append]

/-- A text poured onto a blank grid that can hold it leaves its rows at the top. -/
theorem rows_pour (hs : g.scrolls = true) (hw : 2 ≤ g.width) (hblank : g.erase = g)
    (p : Color.Palette) {text : String} (htext : text ≠ "") (indent : Nat)
    (hroom : rowsTaken text indent g.width < g.height) :
    (g.pour p text indent 0).grid.rows = g.printed p text indent 0 ++
      List.replicate (g.height - (g.printed p text indent 0).length) g.blankRow := by
  have hlength : (g.printed p text indent 0).length < g.height := by
    rw [length_printed p htext indent 0 hw, if_pos rfl]
    exact hroom
  rw [pour_of_erased hs hw (Nat.zero_lt_of_lt hroom) hblank p htext indent 0]
  exact rows_page_of_room (g := { g with style := {} }) hlength

/-- A text poured onto a blank grid that can hold it shows its inscription. -/
theorem glyphs_pour (hs : g.scrolls = true) (hw : 2 ≤ g.width) (hblank : g.erase = g)
    (p : Color.Palette) (text : String) (indent : Nat)
    (hroom : rowsTaken text indent g.width < g.height) :
    (g.pour p text indent 0).grid.glyphs = inscription p text ∧
      (g.pour p text indent 0).palette = paletteAfter p (tokens text.toList) := by
  by_cases htext : text = ""
  · have hpour : g.pour p text indent 0 = ⟨g, p, 0⟩ := by
      rw [pour, if_pos]
      simp [htext]
    have hrows : g.rows = List.replicate g.height g.blankRow := by
      have herase : g.erase.rows = List.replicate g.height g.blankRow := rfl
      rwa [hblank] at herase
    rw [hpour, htext, glyphs, hrows, filter_blankRows, inscription]
    simp [inscribed, paletteAfter]
  · have hpalette : (g.pour p text indent 0).palette
        = (Sheet.ofText p text g.width indent 0).palette := by
      rw [pour_of_erased hs hw (Nat.zero_lt_of_lt hroom) hblank p htext indent 0]
    rw [hpalette, glyphs, rows_pour hs hw hblank p htext indent hroom, List.flatten_append,
      List.filter_append, filter_blankRows, List.append_nil, filter_printed hw p text indent]
    exact ⟨rfl, (Sheet.glyphs_ofText p text g.width indent).2⟩

/-- **Wrapping changes where glyphs stand, and not which.**  A text is poured without a cap onto two
blank grids that scroll, each wide enough for two columns and high enough for all rows of the text and
the one that the cursor is left on; widths and indents may differ.  Read row by row, without spaces and
fillers, both grids show the same glyphs in the same styles, and the palettes after them are equal.  The
glyphs are the visible characters of the text without its decoration, in order.  Each has the style of
the tokens before it: bold, underlined and reversed if that was switched an odd number of times since the
text was last plain, bold also by its colour, and in the colours of the last colour code since then. -/
theorem pour_glyphs {h : Grid} (p : Color.Palette) (text : String) {indent indent' : Nat}
    (hgs : g.scrolls = true) (hgw : 2 ≤ g.width) (hgblank : g.erase = g)
    (hgroom : rowsTaken text indent g.width < g.height)
    (hhs : h.scrolls = true) (hhw : 2 ≤ h.width) (hhblank : h.erase = h)
    (hhroom : rowsTaken text indent' h.width < h.height) :
    let onG := g.pour p text indent 0
    let onH := h.pour p text indent' 0
    onG.grid.glyphs = onH.grid.glyphs ∧
      onG.palette = onH.palette ∧
      onG.grid.glyphs.map Cell.char = (strip text).toList.filter isVisible ∧
      onG.grid.glyphs = inscription p text := by
  intro onG onH
  obtain ⟨hg, hgp⟩ := glyphs_pour hgs hgw hgblank p text indent hgroom
  obtain ⟨hh, hhp⟩ := glyphs_pour hhs hhw hhblank p text indent' hhroom
  refine ⟨hg.trans hh.symm, hgp.trans hhp.symm, ?_, hg⟩
  rw [hg]
  exact chars_inscription p text

/-- A bold word and a plain one, on a narrow grid with an indent and on a wide one without. -/
theorem pour_glyphs_two_words :
    let g := new 4 4 true
    let h := new 20 3 true
    let text := "\x02ab\x02 cd"
    rowsTaken text 1 g.width = 2 ∧ rowsTaken text 0 h.width = 1 ∧
      (g.pour .off text 1 0).grid.glyphs = (h.pour .off text 0 0).grid.glyphs ∧
      (g.pour .off text 1 0).grid.glyphs
        = [⟨'a', { bold := true }⟩, ⟨'b', { bold := true }⟩, ⟨'c', {}⟩, ⟨'d', {}⟩] := by
  intro g h text
  have hnarrow : rowsTaken text 1 g.width = 2 := by decide +kernel
  have hwide : rowsTaken text 0 h.width = 1 := by decide +kernel
  obtain ⟨hsame, -, -, hshown⟩ := pour_glyphs (g := g) (h := h) .off text rfl (by decide) rfl
    (by rw [hnarrow]; decide) rfl (by decide) rfl (by rw [hwide]; decide)
  have hinscription : inscription .off text
      = [⟨'a', { bold := true }⟩, ⟨'b', { bold := true }⟩, ⟨'c', {}⟩, ⟨'d', {}⟩] := by
    decide +kernel
  exact ⟨hnarrow, hwide, hsame, hshown.trans hinscription⟩

end Grid
end ChatConsole
