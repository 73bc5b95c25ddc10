/-
# Pouring without decoration

Decoration decides how glyphs look, and not where they stand.  `bare` drops every style from a grid,
and every mark from a text.  It goes through each step of pouring (`bare_step_glyph`), and so through a
whole run (`bare_run`): a decorated text and the text without its decoration leave the same characters
in the same cells (`pour_strip`).  The one thing that a mark could change is whether anything follows
the last new line of a text, and there the text's own end stands behind every mark.
-/

import ChatConsole.Proofs.Flow.Again
import ChatConsole.Proofs.Flow.Glyphs

namespace ChatConsole

open Markup

/-! ### Texts without their marks -/

namespace Markup

/-- The glyphs among some tokens. -/
def glyphsOf (ts : List Token) : List Token :=
  (ts.filterMap Token.shown?).map .glyph

@[simp] theorem glyphsOf_nil : glyphsOf [] = [] := rfl

@[simp] theorem glyphsOf_cons_glyph (c : Char) (ts : List Token) :
    glyphsOf (.glyph c :: ts) = .glyph c :: glyphsOf ts := rfl

theorem glyphsOf_cons_mark {t : Token} (ht : t.shown? = none) (ts : List Token) :
    glyphsOf (t :: ts) = glyphsOf ts := by
  rw [glyphsOf, List.filterMap_cons_none ht, glyphsOf]

theorem glyphsOf_append (ts us : List Token) : glyphsOf (ts ++ us) = glyphsOf ts ++ glyphsOf us := by
  rw [glyphsOf, List.filterMap_append, List.map_append, glyphsOf, glyphsOf]

/-- A text without marks is its own glyphs. -/
theorem tokens_of_unmarked {cs : List Char} (h : ∀ c ∈ cs, Mark.ofChar? c = none) :
    tokens cs = cs.map .glyph := by
  induction cs with
  | nil => exact tokens_nil
  | cons c cs ih =>
    rw [tokens, h c List.mem_cons_self]
    exact congrArg _ (ih fun d hd => h d (List.mem_cons_of_mem _ hd))

/-- A text without its decoration has the glyphs of the text for its tokens. -/
theorem tokens_shown (cs : List Char) : tokens (shown cs) = glyphsOf (tokens cs) :=
  tokens_of_unmarked fun _ h => (of_mem_shown h).2

theorem shown_shown (cs : List Char) : shown (shown cs) = shown cs := by
  rw [shown, tokens_shown, glyphsOf, List.filterMap_map]
  exact List.filterMap_some

/-- Stripping a text twice is stripping it once. -/
theorem strip_strip (text : String) : strip (strip text) = strip text := by
  rw [strip, strip, String.toList_ofList, shown_shown]

/-- Even or not, a glyph is a glyph. -/
theorem glyphsOf_map_even (ts : List Token) :
    glyphsOf (ts.map Token.even) = (glyphsOf ts).map Token.even := by
  induction ts with
  | nil => rfl
  | cons t ts ih =>
    cases t with
    | glyph c => exact congrArg _ ih
    | toggle | plain | color => exact ih

end Markup

/-- The tokens of a stripped text are the glyphs of the text. -/
theorem pouredTokens_strip (text : String) :
    pouredTokens (strip text) true
      = glyphsOf (tokens (text.toList.map evenSpace)) ++ [.glyph '\n'] := by
  rw [Sheet.pouredTokens_wrapped, strip, String.toList_ofList, tokens_evenSpace, tokens_shown,
    tokens_evenSpace, glyphsOf_map_even]

/-- Marks take no column of a word. -/
theorem Flow.wordColumns_glyphsOf (ts : List Token) :
    Flow.wordColumns (glyphsOf ts) = Flow.wordColumns ts := by
  induction ts with
  | nil => rfl
  | cons t ts ih =>
    cases t with
    | glyph c => simp only [glyphsOf_cons_glyph, Flow.wordColumns, ih]
    | toggle | plain | color => exact ih

theorem Flow.needed_glyphsOf (c : Char) (rest : List Token) :
    Flow.needed c (glyphsOf rest) = Flow.needed c rest := by
  simp only [Flow.needed, Flow.wordColumns_glyphsOf]

/-! ### Grids without styles -/

/-- The cell in the plain style. -/
def Cell.bare (cell : Cell) : Cell :=
  { cell with style := {} }

theorem Cell.bare_ofGlyph (c : Char) (style : Style) :
    (Cell.ofGlyph c style).map Cell.bare = Cell.ofGlyph c {} := by
  simp [Cell.ofGlyph, Cell.bare]

namespace Grid

/-- The grid with every cell in the plain style. -/
def bare (g : Grid) : Grid :=
  { g with rows := g.rows.map (List.map Cell.bare), style := {}, background := {} }

@[simp] theorem bare_width (g : Grid) : g.bare.width = g.width := rfl

@[simp] theorem bare_scrolls (g : Grid) : g.bare.scrolls = g.scrolls := rfl

@[simp] theorem bare_height (g : Grid) : g.bare.height = g.height :=
  List.length_map ..

/-- A character stands where it stood. -/
theorem cell?_bare (g : Grid) (y x : Nat) :
    (g.bare.cell? y x).map Cell.char = (g.cell? y x).map Cell.char := by
  have hrow : g.bare.rows[y]? = g.rows[y]?.map (List.map Cell.bare) := List.getElem?_map ..
  unfold cell?
  rw [hrow]
  cases g.rows[y]? with
  | none => rfl
  | some cells =>
    rw [Option.map_some, Option.bind_eq_bind, Option.bind_some, List.getElem?_map, Option.map_map]
    rfl

/-- A change of a row that has a bare counterpart. -/
theorem bare_modifyRow {g : Grid} {f f' : List Cell → List Cell}
    (hf : ∀ cells, (f cells).map Cell.bare = f' (cells.map Cell.bare)) :
    (g.modifyRow f).bare = g.bare.modifyRow f' := by
  have hrows : (g.rows.modify g.row f).map (List.map Cell.bare)
      = (g.rows.map (List.map Cell.bare)).modify g.row f' := by
    apply List.ext_getElem?
    intro i
    simp only [List.getElem?_map, List.getElem?_modify]
    cases g.rows[i]? with
    | none => rfl
    | some cells => by_cases h : g.row = i <;> simp [h, hf]
  simp only [bare, modifyRow, hrows]

theorem bare_clearToEnd (g : Grid) : g.clearToEnd.bare = g.bare.clearToEnd := by
  refine bare_modifyRow fun cells => ?_
  rw [List.map_append, List.map_take, List.map_replicate]
  rfl

theorem bare_scroll (g : Grid) : g.scroll.bare = g.bare.scroll := by
  unfold scroll
  cases hrows : g.rows with
  | nil => simp [bare, hrows]
  | cons row rest => simp [bare, hrows, blankRow, blank, Cell.bare]

theorem bare_newline (g : Grid) : g.newline.bare = g.bare.newline := by
  have hclear : { g.clearToEnd with col := 0 }.bare = { g.bare.clearToEnd with col := 0 } := by
    rw [← bare_clearToEnd]
    rfl
  unfold newline
  rw [← hclear]
  generalize { g.clearToEnd with col := 0 } = h
  have hrow : h.bare.row = h.row := rfl
  dsimp only
  rw [bare_height, bare_scrolls, hrow]
  split
  · rfl
  split
  · exact bare_scroll h
  · rfl

theorem bare_write (g : Grid) (c : Char) (style : Style) :
    (g.write c style).bare = g.bare.write c {} := by
  have hrow : (g.modifyRow fun cells =>
        cells.take g.col ++ Cell.ofGlyph c style ++ cells.drop (g.col + Text.columns c)).bare
      = g.bare.modifyRow fun cells =>
        cells.take g.col ++ Cell.ofGlyph c {} ++ cells.drop (g.col + Text.columns c) := by
    refine bare_modifyRow fun cells => ?_
    rw [List.map_append, List.map_append, List.map_take, List.map_drop, Cell.bare_ofGlyph]
  exact congrArg (fun h : Grid => { h with col := g.col + Text.columns c }) hrow

theorem bare_put? (g : Grid) (c : Char) (style : Style) :
    (g.put? c style).map bare = g.bare.put? c {} := by
  have hcol : g.bare.col = g.col := rfl
  unfold put?
  rw [bare_width, bare_height, bare_scrolls, hcol]
  dsimp only
  split
  · rfl
  split
  · exact congrArg some (bare_write g c style)
  split
  · exact congrArg some ((bare_write g.newline c style).trans (by rw [bare_newline]))
  · rfl

end Grid

/-! ### Pouring without styles -/

namespace Flow

/-- The flow without its decoration. -/
def bare (s : Flow) : Flow :=
  { s with grid := s.grid.bare, palette := .off, pen := {} }

variable {m : Measure} {s : Flow}

@[simp] theorem isFull_bare (m : Measure) (s : Flow) : s.bare.isFull m = s.isFull m := rfl

theorem bare_endRow (s : Flow) : s.endRow.bare = s.bare.endRow := by
  simp only [endRow, bare, Grid.bare_newline]

theorem bare_addBlanks (n : Nat) (s : Flow) : (s.addBlanks n).bare = s.bare.addBlanks n := by
  induction n generalizing s with
  | zero => rfl
  | succ n ih =>
    have hput : ((s.grid.put? ' ' {}).getD s.grid).bare
        = (s.bare.grid.put? ' ' {}).getD s.bare.grid := by
      rw [bare, ← Grid.bare_put? s.grid ' ' {}]
      cases s.grid.put? ' ' {} <;> rfl
    rw [addBlanks, ih, addBlanks, ← hput]
    rfl

theorem bare_addGlyph (c : Char) (s : Flow) : (s.addGlyph c).bare = s.bare.addGlyph c := by
  have hput : s.bare.grid.put? c s.bare.pen.style = (s.grid.put? c s.pen.style).map Grid.bare :=
    (Grid.bare_put? ..).symm
  unfold addGlyph
  rw [hput]
  cases s.grid.put? c s.pen.style <;> rfl

/-- A character goes where it goes without decoration, if the same is left to come. -/
theorem bare_wrapGlyph (c : Char) {rest : List Token}
    (hrest : (glyphsOf rest).isEmpty = rest.isEmpty) (s : Flow) :
    (s.wrapGlyph m c rest).bare = s.bare.wrapGlyph m c (glyphsOf rest) := by
  have hcolumn : s.bare.column = s.column := rfl
  unfold wrapGlyph
  rw [needed_glyphsOf, hrest, hcolumn, ← bare_endRow]
  dsimp only
  rw [isFull_bare, ← bare_addBlanks]
  split
  · split <;> rfl
  split
  · rfl
  split
  · exact bare_addGlyph c s
  split
  · rfl
  split
  · rfl
  · exact bare_addGlyph ..

theorem bare_step_glyph (hs : s.grid.scrolls = true) (c : Char) {rest : List Token}
    (hrest : (glyphsOf rest).isEmpty = rest.isEmpty) :
    (s.step m (.glyph c) rest).bare = s.bare.step m (.glyph c) (glyphsOf rest) := by
  have hbare : s.bare.grid.scrolls = true := hs
  simp only [step, hs, hbare, if_true]
  exact bare_wrapGlyph c hrest s

/-- A mark leaves nothing behind but the pen. -/
theorem bare_step_mark {t : Token} (ht : t.shown? = none) (rest : List Token) (s : Flow) :
    (s.step m t rest).bare = s.bare := by
  rw [step_mark ht]
  rfl

/-- **Marks have no say in a run**: what it leaves, without its decoration, is what the glyphs leave.
The text ends with a glyph, so that there is something to come behind every mark. -/
theorem bare_run (ts : List Token) (last : Char) {s : Flow} (hs : s.grid.scrolls = true)
    (hroom : s.isFull m = false) :
    (s.run m (ts ++ [.glyph last])).bare = s.bare.run m (glyphsOf ts ++ [.glyph last]) := by
  induction ts generalizing s with
  | nil =>
    have hstep : (s.step m (.glyph last) []).bare = s.bare.step m (.glyph last) [] :=
      bare_step_glyph hs last rfl
    simp only [List.nil_append, glyphsOf_nil, run, ← hstep, ite_self]
  | cons t ts ih =>
    have hscrolls : (s.step m t (ts ++ [.glyph last])).grid.scrolls = true :=
      (kept_step (Grid.steady_sameFrame s.grid).toKept m t _ (.refl _)).scrolls.trans hs
    cases ht : t.shown? with
    | none =>
      have hsame : (s.step m t (ts ++ [.glyph last])).isFull m = false := by
        rw [step_mark ht]
        exact hroom
      rw [List.cons_append, run, hsame, if_neg Bool.noConfusion, ih hscrolls hsame,
        bare_step_mark ht, glyphsOf_cons_mark ht]
    | some c =>
      obtain rfl : t = .glyph c := by
        cases t <;> cases ht
        rfl
      have hrest : (glyphsOf (ts ++ [Token.glyph last])).isEmpty
          = (ts ++ [Token.glyph last]).isEmpty := by
        have hmore (us : List Token) : (us ++ [Token.glyph last]).isEmpty = false := by
          cases us <;> rfl
        rw [glyphsOf_append, hmore]
        exact hmore _
      have hstep : (s.step m (.glyph c) (ts ++ [.glyph last])).bare
          = s.bare.step m (.glyph c) (glyphsOf ts ++ [.glyph last]) := by
        rw [bare_step_glyph hs c hrest, glyphsOf_append]
        rfl
      rw [List.cons_append, run, glyphsOf_cons_glyph, List.cons_append, run, ← hstep, isFull_bare]
      split
      · rfl
      · rename_i hmore
        exact ih hscrolls (by simpa using hmore)

end Flow

namespace Grid

variable {g : Grid}

/-- What a text leaves, without its decoration, is what the stripped text leaves on a bare grid. -/
theorem bare_pour (hs : g.scrolls = true) (p : Color.Palette) {text : String}
    (htext : strip text ≠ "") (indent cap : Nat) :
    (g.pour p text indent cap).grid.bare = (g.bare.pour .off (strip text) indent cap).grid ∧
      (g.pour p text indent cap).rows = (g.bare.pour .off (strip text) indent cap).rows := by
  have hne : text ≠ "" := by
    rintro rfl
    exact htext (by simp [strip, shown])
  have htakes : (text.isEmpty || g.width < 2 || g.height = 0)
      = ((strip text).isEmpty || g.bare.width < 2 || g.bare.height = 0) := by
    rw [bare_width, bare_height, show text.isEmpty = false by simpa using hne,
      show (strip text).isEmpty = false by simpa using htext]
  unfold pour
  rw [htakes]
  split
  · exact ⟨rfl, rfl⟩
  · have hroom : ({ grid := g, palette := p } : Flow).isFull (.of g.width indent cap) = false := by
      simp only [Flow.isFull, Bool.and_eq_false_iff, decide_eq_false_iff_not]
      omega
    have hrun : (Flow.run (.of g.width indent cap) (pouredTokens text true)
          { grid := g, palette := p }).bare
        = Flow.run (.of g.width indent cap) (pouredTokens (strip text) true)
          { grid := g.bare, palette := .off } := by
      rw [Sheet.pouredTokens_wrapped, pouredTokens_strip]
      exact Flow.bare_run _ '\n' hs hroom
    rw [bare_scrolls, bare_width, hs]
    dsimp only
    rw [← hrun]
    exact ⟨rfl, rfl⟩

/-- **Terminals without colours lay a text out as others do.**  A text and the text without its
decoration, poured from the same state of a grid that scrolls, take the same number of rows, leave the
cursor at the same place, and put the same character in every cell; palettes have no say in it.  The
text must show something: marks alone take a row, and nothing takes none. -/
theorem pour_strip (hs : g.scrolls = true) (p q : Color.Palette) {text : String}
    (htext : strip text ≠ "") (indent cap : Nat) :
    let decorated := g.pour p text indent cap
    let plain := g.pour q (strip text) indent cap
    decorated.rows = plain.rows ∧
      (decorated.grid.row = plain.grid.row ∧ decorated.grid.col = plain.grid.col) ∧
      ∀ y x, (decorated.grid.cell? y x).map Cell.char = (plain.grid.cell? y x).map Cell.char := by
  intro decorated plain
  obtain ⟨hgrid, hrows⟩ := bare_pour hs p htext indent cap
  have hplain : strip (strip text) ≠ "" := by rwa [strip_strip]
  obtain ⟨hgrid', hrows'⟩ := bare_pour hs q hplain indent cap
  rw [strip_strip] at hgrid' hrows'
  have hbare : decorated.grid.bare = plain.grid.bare := hgrid.trans hgrid'.symm
  have hrow : decorated.grid.bare.row = plain.grid.bare.row := congrArg Grid.row hbare
  have hcol : decorated.grid.bare.col = plain.grid.bare.col := congrArg Grid.col hbare
  refine ⟨hrows.trans hrows'.symm, ⟨hrow, hcol⟩, ?_⟩
  intro y x
  rw [← cell?_bare decorated.grid, hbare, cell?_bare]

/-- A text with marks inside its words, around its spaces and at its end, poured within two rows onto a
grid that has something on its row already. -/
theorem pour_strip_mid_row :
    let g := (new 7 3 true).addText ['x', 'y']
    let text := "a\x034,1b \x02cd\x02 \x0fef gh\x1f"
    let decorated := g.pour (.new {} true 0) text 1 2
    let plain := g.pour .off (strip text) 1 2
    strip text = "ab cd ef gh" ∧ strip text ≠ "" ∧ decorated.rows = 2 ∧ plain.rows = 2 ∧
      decorated.grid.lines = ["xyab cd".toList, " ef gh".toList, []] ∧
      ∀ y x, (decorated.grid.cell? y x).map Cell.char = (plain.grid.cell? y x).map Cell.char := by
  intro g text decorated plain
  have hstrip : strip text = "ab cd ef gh" := by decide +kernel
  have hshown : strip text ≠ "" := by rw [hstrip]; decide
  have htwo : decorated.rows = 2 := by decide +kernel
  obtain ⟨hrows, -, hcells⟩ := pour_strip (g := g) rfl (.new {} true 0) .off hshown 1 2
  have hlines : decorated.grid.lines = ["xyab cd".toList, " ef gh".toList, []] := by decide +kernel
  exact ⟨hstrip, hshown, htwo, hrows.symm.trans htwo, hlines, hcells⟩

/-- A text of marks alone takes a row, which the stripped text does not. -/
example : rowsTaken "\x02" 0 8 = 1 ∧ rowsTaken (strip "\x02") 0 8 = 0 := by
  decide +kernel

end Grid
end ChatConsole
