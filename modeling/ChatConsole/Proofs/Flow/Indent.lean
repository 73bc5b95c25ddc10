/-
# The indent of a text

Every row of a poured text but the first begins with the indent, in plain blanks (`indented_run`).  A
message is stored with the columns of its lead as its indent.  The lead goes on the first row as a whole,
except perhaps for the space that ends it, which stays behind if what was said wraps; either way the next
free column is that of the indent (`line_after_lead`).  So what was said begins at that column, on the
first row or on the second, and all further rows line up under it (`message_lines_up`).
-/

import ChatConsole.Message
import ChatConsole.Proofs.Flow.Words

namespace ChatConsole

open Markup

namespace Sheet

variable {m : Measure} {s : Sheet}

/-! ### The rows after the first -/

/-- A row begins with some plain blanks. -/
def Begins (n : Nat) (row : List Cell) : Prop :=
  List.replicate n {} <+: row

/-- Every row after the first begins with some plain blanks, and so does the row in progress. -/
structure Indented (n : Nat) (s : Sheet) : Prop where
  rows : ∀ row ∈ s.rows.tail, Begins n row
  line : s.rows ≠ [] → Begins n s.line

/-- Ending the row in progress leaves the rows indented. -/
theorem Indented.tail_endRow {n : Nat} (h : Indented n s) :
    ∀ row ∈ (s.rows ++ [s.line]).tail, Begins n row := by
  by_cases hrows : s.rows = []
  · rw [hrows]
    exact fun row hrow => absurd hrow List.not_mem_nil
  · rw [List.tail_append_of_ne_nil hrows, List.forall_mem_append]
    exact ⟨h.rows, List.forall_mem_singleton.2 (h.line hrows)⟩

/-- A row that a character begins, with more of the text to come, begins with the indent. -/
theorem begins_turn (hcap : m.cap = 0) (c : Char) {rest : List Token} (hrest : rest ≠ []) (s : Sheet) :
    Begins m.indent (s.turn m c rest).line := by
  have hroom : s.endRow.isFull m = false := by simp [isFull, hcap]
  have hblanks : (s.endRow.addBlanks m.indent).line = List.replicate m.indent {} := List.nil_append _
  have hnone : rest.isEmpty = false := List.isEmpty_eq_false_iff.2 hrest
  rw [turn, hroom, if_neg Bool.false_ne_true, carry, hnone, if_neg Bool.false_ne_true, Begins, ← hblanks]
  split
  · exact List.prefix_refl _
  split
  · exact List.prefix_refl _
  unfold addGlyph
  split
  · exact List.prefix_refl _
  · exact List.prefix_append ..

/-- One token goes on with the row in progress, or begins one with the indent. -/
theorem indented_step (hcap : m.cap = 0) (t : Token) {rest : List Token} (hrest : rest ≠ [])
    (h : Indented m.indent s) : Indented m.indent (s.step m t rest) := by
  have hon {s' : Sheet} (hrows : s'.rows = s.rows) (hline : s.line <+: s'.line) :
      Indented m.indent s' := by
    refine ⟨hrows ▸ h.rows, fun hsome => ?_⟩
    exact List.IsPrefix.trans (h.line (hrows ▸ hsome)) hline
  cases t with
  | toggle | plain | color => exact hon rfl (List.prefix_refl _)
  | glyph c =>
    rw [step, takeGlyph]
    cases place m c rest s.line.length with
    | nowhere => exact h
    | next => exact ⟨rows_turn c rest s ▸ h.tail_endRow, fun _ => begins_turn hcap c hrest s⟩
    | here =>
      refine hon (rows_addGlyph c s) ?_
      dsimp only
      unfold addGlyph
      split
      · exact List.prefix_refl _
      · exact List.prefix_append ..

/-- **Every row of a text but the first begins with the indent.** -/
theorem indented_run (hcap : m.cap = 0) (ts : List Token) (h : Indented m.indent s) :
    ∀ row ∈ (s.run m (ts ++ [.glyph '\n'])).rows.tail, Begins m.indent row := by
  induction ts generalizing s with
  | nil =>
    have hplace : place m '\n' [] s.line.length = .next := by simp [place]
    rw [List.nil_append, run_cons hcap, run, step, takeGlyph, hplace]
    dsimp only
    rw [rows_turn]
    exact h.tail_endRow
  | cons t ts ih =>
    rw [List.cons_append, run_cons hcap]
    exact ih (indented_step hcap t (by simp) h)

/-! ### The first tokens of a text -/

theorem after_append (ts us rest : List Token) (s : Sheet) :
    s.after m (ts ++ us) rest = (s.after m ts (us ++ rest)).after m us rest := by
  induction ts generalizing s with
  | nil => rfl
  | cons t ts ih => rw [List.cons_append, after, ih, after, List.append_assoc]

/-- Decoration goes on no row. -/
theorem after_marks {ts : List Token} (h : ∀ t ∈ ts, t.shown? = none) (rest : List Token) (s : Sheet) :
    (s.after m ts rest).rows = s.rows ∧ (s.after m ts rest).line = s.line := by
  induction ts generalizing s with
  | nil => exact ⟨rfl, rfl⟩
  | cons t ts ih =>
    have hsame : (s.step m t (ts ++ rest)).rows = s.rows ∧ (s.step m t (ts ++ rest)).line = s.line := by
      cases t with
      | toggle | plain | color => exact ⟨rfl, rfl⟩
      | glyph c => cases h _ List.mem_cons_self
    obtain ⟨hrows, hline⟩ := ih (fun u hu => h u (List.mem_cons_of_mem _ hu)) (s.step m t (ts ++ rest))
    exact ⟨hrows.trans hsame.1, hline.trans hsame.2⟩

/-! ### A lead -/

/-- Up to a break, what is in view of a space is no wider than the tokens up to there. -/
theorem wordColumns_append_le (ts : List Token) {rest : List Token} (hrest : Flow.wordColumns rest = 0) :
    Flow.wordColumns (ts ++ rest) ≤ Text.columnsOf (ts.filterMap Token.shown?) := by
  induction ts with
  | nil => exact Nat.le_of_eq hrest
  | cons t ts ih =>
    cases t with
    | toggle | plain | color => exact ih
    | glyph c =>
      have hcons : Text.columnsOf ((Token.glyph c :: ts).filterMap Token.shown?)
          = Text.columns c + Text.columnsOf (ts.filterMap Token.shown?) := rfl
      rw [List.cons_append, Flow.wordColumns, hcons]
      split <;> omega

/-- Tokens for which there is room, up to a break, go on the row in progress. -/
theorem line_after {ts rest : List Token} (hnewline : ∀ c, Token.glyph c ∈ ts → c ≠ '\n')
    (hrest : Flow.wordColumns rest = 0)
    (hroom : s.line.length + Text.columnsOf (ts.filterMap Token.shown?) ≤ m.limit) :
    (s.after m ts rest).line.length = s.line.length + Text.columnsOf (ts.filterMap Token.shown?) := by
  induction ts generalizing s with
  | nil => rfl
  | cons t ts ih =>
    have hmore := fun c hc => hnewline c (List.mem_cons_of_mem t hc)
    rw [after]
    cases t with
    | toggle | plain | color => exact ih hmore hroom
    | glyph c =>
      have hcons : Text.columnsOf ((Token.glyph c :: ts).filterMap Token.shown?)
          = Text.columns c + Text.columnsOf (ts.filterMap Token.shown?) := rfl
      have hneeded : Flow.needed c (ts ++ rest)
          ≤ Text.columns c + Text.columnsOf (ts.filterMap Token.shown?) := by
        have hview := wordColumns_append_le ts hrest
        unfold Flow.needed
        split
        · rename_i hspace
          rw [hspace, Text.columns_space]
          omega
        · exact Nat.le_add_right ..
      rw [hcons] at hroom ⊢
      have hstep : (s.step m (.glyph c) (ts ++ rest)).line.length = s.line.length + Text.columns c := by
        rw [step, takeGlyph]
        rcases place_cases m c (ts ++ rest) s.line.length with
          ⟨h, -⟩ | ⟨-, hcontrol, hplace⟩ | ⟨-, -, -, hplace⟩ | ⟨-, -, hnone, -⟩
        · exact absurd h (hnewline c List.mem_cons_self)
        · rw [hplace, Text.columns_of_isControl hcontrol]
          rfl
        · rw [hplace]
          exact length_addGlyph c s
        · exact absurd (Nat.le_trans (Nat.add_le_add_left hneeded _) hroom) hnone
      rw [ih hmore (by omega), hstep, Nat.add_assoc]

/-- The space that fills the row up to the indent, or begins a row, leaves the cursor behind the indent. -/
theorem line_step_space (hcap : m.cap = 0) (rest : List Token) (hline : s.line.length + 1 = m.indent) :
    (s.step m (.glyph ' ') rest).line.length = m.indent := by
  rw [step, takeGlyph]
  rcases place_cases m ' ' rest s.line.length with
    ⟨h, -⟩ | ⟨-, hcontrol, -⟩ | ⟨-, -, -, hplace⟩ | ⟨-, -, -, hplace⟩
  · exact absurd h (by decide)
  · exact absurd hcontrol (by decide)
  · rw [hplace]
    dsimp only
    rw [length_addGlyph, Text.columns_space, hline]
  · have hroom : s.endRow.isFull m = false := by simp [isFull, hcap]
    rw [hplace]
    dsimp only
    rw [turn, hroom, if_neg Bool.false_ne_true, carry, if_neg (by decide), if_pos rfl, length_addBlanks,
      endRow, List.length_nil, Nat.zero_add]

variable {p : Color.Palette} {lead text : List Char} {c : Char}

/-- **A lead leaves the cursor behind the indent**, if the indent is its columns and it ends with a
space. -/
theorem line_after_lead (hcap : m.cap = 0) (hspace : ∀ c ∈ lead.getLast?, c = ' ')
    (hnewline : '\n' ∉ lead) (hindent : m.indent = Text.columnsOf (shown lead))
    (hlimit : m.indent ≤ m.limit) (rest : List Token) :
    (({ palette := p } : Sheet).after m (tokens lead) rest).line.length = m.indent := by
  cases lead using List.reverseRecOn with
  | nil =>
    rw [tokens_nil, hindent]
    simp [after, shown]
  | append_singleton front c =>
    obtain rfl : c = ' ' := hspace c (by simp)
    have htokens : tokens (front ++ [' ']) = tokens front ++ [.glyph ' '] := by
      rw [tokens_append (endsCode_cons (by decide) (by decide)), tokens_cons_break (by decide), tokens_nil]
    have hshown : shown (front ++ [' ']) = shown front ++ [' '] := by
      rw [shown, htokens, List.filterMap_append]
      rfl
    have hsum : Text.columnsOf (shown front) + 1 = m.indent := by
      rw [hindent, hshown, Text.columnsOf_append]
      rfl
    have hsolid : ∀ c, Token.glyph c ∈ tokens front → c ≠ '\n' := by
      rintro c hc rfl
      have hmem : '\n' ∈ shown front := List.mem_filterMap.2 ⟨_, hc, rfl⟩
      exact hnewline (List.mem_append_left _ (of_mem_shown hmem).1)
    have hfront : (({ palette := p } : Sheet).after m (tokens front) (.glyph ' ' :: rest)).line.length
        = Text.columnsOf (shown front) := by
      have hend : Flow.wordColumns (.glyph ' ' :: rest) = 0 := by
        rw [Flow.wordColumns, if_pos (Or.inl rfl)]
      have hroom : ([] : List Cell).length + Text.columnsOf (shown front) ≤ m.limit := by
        rw [List.length_nil]
        omega
      have hline := line_after (s := { palette := p }) hsolid hend hroom
      rwa [List.length_nil, Nat.zero_add] at hline
    rw [htokens, after_append, after, after]
    exact line_step_space hcap _ (hfront ▸ hsum)

/-! ### What was said -/

/-- A glyph with columns goes behind the indent, on the row in progress if it is there already, and else on
the next one. -/
theorem exists_step_glyph (hcap : m.cap = 0) (hline : s.line.length = m.indent) (hc : Text.columns c ≠ 0)
    (hspace : c ≠ ' ') (rest : List Token) :
    ∃ left, (s.step m (.glyph c) rest).line = left ++ Cell.ofGlyph c s.pen.style ∧
      left.length = m.indent ∧
      ((s.step m (.glyph c) rest).rows.flatten ++ left).filter Cell.isShown = s.glyphs := by
  have hadd (s : Sheet) : (s.addGlyph c).line = s.line ++ Cell.ofGlyph c s.pen.style := by
    rw [addGlyph, if_neg hc]
  have hnewline : c ≠ '\n' := by
    rintro rfl
    exact hc (by decide)
  rw [step, takeGlyph]
  rcases place_cases m c rest s.line.length with
    ⟨h, -⟩ | ⟨-, hcontrol, -⟩ | ⟨-, -, -, hplace⟩ | ⟨-, -, -, hplace⟩
  · exact absurd h hnewline
  · exact absurd (Text.columns_of_isControl hcontrol) hc
  · rw [hplace]
    exact ⟨s.line, hadd s, hline, by dsimp only; rw [rows_addGlyph, glyphs]⟩
  · have hroom : s.endRow.isFull m = false := by simp [isFull, hcap]
    have hturn : s.turn m c rest = (s.endRow.addBlanks m.indent).addGlyph c := by
      rw [turn, hroom, if_neg Bool.false_ne_true, carry, if_neg hnewline, if_neg hspace]
    rw [hplace]
    dsimp only
    rw [hturn]
    refine ⟨(s.endRow.addBlanks m.indent).line, hadd _, ?_, ?_⟩
    · rw [length_addBlanks, endRow, List.length_nil, Nat.zero_add]
    · rw [rows_addGlyph, ← glyphs, glyphs_addBlanks, glyphs_endRow]

/-- A text that shows something begins with decoration and the first character that it shows. -/
theorem exists_tokens_first {cs : List Char} (h : shown text = c :: cs) :
    ∃ marks rest, tokens text = marks ++ .glyph c :: rest ∧ ∀ t ∈ marks, t.shown? = none := by
  obtain ⟨marks, t, rest, htokens, hmarks, hshown, -⟩ := List.filterMap_eq_cons_iff.1 h
  cases t with
  | toggle | plain | color => cases hshown
  | glyph d =>
    obtain rfl : d = c := Option.some.inj hshown
    exact ⟨marks, rest, htokens, hmarks⟩

/-- There is nothing to make even in tokens that show no space but the common one. -/
theorem map_even_of_shown {ts : List Token} (h : ∀ c ∈ ts.filterMap Token.shown?, evenSpace c = c) :
    ts.map Token.even = ts := by
  refine (List.map_congr_left fun t ht => ?_).trans (List.map_id _)
  cases t with
  | toggle | plain | color => rfl
  | glyph c => exact congrArg Token.glyph (h c (List.mem_filterMap.2 ⟨_, ht, rfl⟩))

/-- The tokens of a lead and of what was said, as they are poured: the lead, then decoration, then the
first glyph. -/
theorem exists_pouredTokens_lead {said cs : List Char} {whole : String}
    (hwhole : whole.toList = lead ++ said) (hspace : ∀ c ∈ lead.getLast?, c = ' ')
    (heven : ∀ c ∈ lead, evenSpace c = c) (hsaid : shown said = c :: cs) (hc : Text.columns c ≠ 0) :
    tokens whole.toList = tokens lead ++ tokens said ∧
      ∃ marks rest, (∀ t ∈ marks, t.shown? = none) ∧
        pouredTokens whole true
          = tokens lead ++ (marks ++ .glyph c :: (rest ++ [.glyph '\n'])) := by
  have hbreak : ∀ c ∈ lead.getLast?, breaksWord c = true := fun c h => by rw [hspace c h]; decide
  have htokens : tokens whole.toList = tokens lead ++ tokens said := by
    rw [hwhole, tokens_append_of_break hbreak]
  obtain ⟨marks, rest, hfirst, hmarks⟩ := exists_tokens_first hsaid
  have hlead : (tokens lead).map Token.even = tokens lead :=
    map_even_of_shown fun d hd => heven d (of_mem_shown hd).1
  have hnone : marks.filterMap Token.shown? = [] := List.filterMap_eq_nil_iff.2 hmarks
  have hmarked : marks.map Token.even = marks :=
    map_even_of_shown fun d hd => absurd (hnone ▸ hd) List.not_mem_nil
  have hsolid : evenSpace c = c :=
    (evenSpace_cases c).resolve_right fun h => hc (Text.columns_of_isControl h.2.1)
  refine ⟨htokens, marks, rest.map Token.even, hmarks, ?_⟩
  rw [pouredTokens_wrapped, tokens_evenSpace, htokens, List.map_append, hlead, hfirst, List.map_append,
    hmarked, List.map_cons, Token.even, hsolid]
  simp only [List.append_assoc, List.cons_append]

/-- **What was said lines up under itself.**  Behind a lead whose columns are the indent, the first glyph of
a text stands at the column of the indent; what shows above it and on its left is the lead's, and from it
on the text's own. -/
theorem rows_ofText_lead (p : Color.Palette) {said cs : List Char} {width : Nat} {whole : String}
    (hwhole : whole.toList = lead ++ said) (hspace : ∀ c ∈ lead.getLast?, c = ' ')
    (hlead : ∀ c ∈ lead, evenSpace c = c ∧ c ≠ '\n') (hsaid : shown said = c :: cs)
    (hc : Text.columns c ≠ 0) (hcs : c ≠ ' ') (hwidth : Text.columnsOf (shown lead) + 2 ≤ width) :
    ∃ above left right below style,
      (ofText p whole width (Text.columnsOf (shown lead)) 0).rows
        = above ++ (left ++ Cell.ofGlyph c style ++ right) :: below ∧
      left.length = Text.columnsOf (shown lead) ∧
      (above.flatten ++ left).filter Cell.isShown = inscribed p [] (tokens lead) ∧
      (Cell.ofGlyph c style ++ right ++ below.flatten).filter Cell.isShown
        = inscribed p (tokens lead) (tokens said) := by
  let m := Measure.of width (Text.columnsOf (shown lead)) 0
  have hcap : m.cap = 0 := rfl
  have hindent : m.indent = Text.columnsOf (shown lead) := Nat.min_eq_left (by omega)
  have hlimit : m.indent ≤ m.limit := by
    rw [hindent]
    exact Nat.le_sub_one_of_lt (by omega)
  obtain ⟨htokens, marks, rest, hmarks, hpoured⟩ :=
    exists_pouredTokens_lead hwhole hspace (fun d hd => (hlead d hd).1) hsaid hc
  -- The lead is taken, then decoration, then the first glyph; the rest goes on with its row.
  let behind := rest ++ [.glyph '\n']
  let s := ({ palette := p } : Sheet).after m (tokens lead) (marks ++ .glyph c :: behind)
  let s' := s.after m marks (.glyph c :: behind)
  have hrun : ofText p whole width (Text.columnsOf (shown lead)) 0
      = (s'.step m (.glyph c) behind).run m behind := by
    rw [ofText, hpoured, run_append hcap, run_append hcap, run_cons hcap]
  obtain ⟨hrows, hline⟩ := after_marks (m := m) hmarks (.glyph c :: behind) s
  have hlength : s'.line.length = m.indent := by
    rw [hline]
    exact line_after_lead hcap hspace (fun h => (hlead _ h).2 rfl) hindent hlimit _
  have hglyphs : s'.glyphs = inscribed p [] (tokens lead) := by
    rw [glyphs, hrows, hline, ← glyphs, (glyphs_after hcap _ _ _).1]
    exact penned_penAfter p [] (tokens lead)
  obtain ⟨left, hput, hleft, hbefore⟩ := exists_step_glyph hcap hlength hc hcs behind
  obtain ⟨right, below, hend⟩ := rows_run_end hcap rest (s'.step m (.glyph c) behind)
  rw [← hrun, hput] at hend
  refine ⟨_, left, right, below, _, hend, hleft.trans hindent, hbefore.trans hglyphs, ?_⟩
  -- What shows on the whole sheet is the inscription of the text, and its first part is the lead's.
  have hall := (glyphs_ofText p whole width (Text.columnsOf (shown lead))).1
  rw [glyphs, line_ofText, inscription, htokens, inscribed_append, hend, ← hglyphs, ← hbefore] at hall
  simp only [List.flatten_append, List.flatten_cons, List.filter_append, List.append_nil,
    List.append_assoc, List.append_cancel_left_eq, List.nil_append] at hall ⊢
  exact hall

end Sheet

/-! ### On a grid -/

namespace Grid

variable {g : Grid} {p : Color.Palette} {text : String} {indent : Nat}

/-- A blank grid with room for a text shows the rows of the text, however one of them is split, and below
them nothing. -/
theorem exists_rows_pour (hs : g.scrolls = true) (hw : 2 ≤ g.width) (hblank : g.erase = g)
    (htext : text ≠ "") (hroom : rowsTaken text indent g.width < g.height)
    {above below : List (List Cell)} {left right : List Cell}
    (hrows : (Sheet.ofText p text g.width indent 0).rows = above ++ (left ++ right) :: below) :
    ∃ above' right' below',
      (g.pour p text indent 0).grid.rows = above' ++ (left ++ right') :: below' ∧
      above'.flatten.filter Cell.isShown = above.flatten.filter Cell.isShown ∧
      right'.filter Cell.isShown = right.filter Cell.isShown ∧
      below'.flatten.filter Cell.isShown = below.flatten.filter Cell.isShown := by
  have hwidth : ∀ row ∈ (Sheet.ofText p text g.width indent 0).rows, row.length ≤ g.width :=
    Sheet.length_le_of_mem_rows (Measure.fits_of hw indent 0) _ (Nat.zero_le _) (by simp)
  rw [hrows, List.forall_mem_append, List.forall_mem_cons] at hwidth
  obtain ⟨habove, hrow, hbelow⟩ := hwidth
  obtain ⟨right', hfill, hright⟩ := exists_fill_append hrow
  have hprinted : g.printed p text indent 0
      = above.map g.fill ++ (left ++ right') :: below.map g.fill := by
    rw [printed, hrows, List.map_append, List.map_cons, hfill]
  refine ⟨above.map g.fill, right', below.map g.fill ++ List.replicate
    (g.height - (g.printed p text indent 0).length) g.blankRow, ?_, filter_fillRows habove,
    hright, ?_⟩
  · rw [rows_pour hs hw hblank p htext indent hroom]
    nth_rewrite 1 [hprinted]
    rw [List.append_assoc, List.cons_append]
  · rw [List.flatten_append, List.filter_append, filter_fillRows hbelow, filter_blankRows, List.append_nil]

/-- **Below its first row a text is indented.**  On a blank grid with room for the text, the cells left of
the indent are plain blanks on every row of the text but the first, and blanks of the grid below it. -/
theorem cell?_left_of_indent (hs : g.scrolls = true) (hw : 2 ≤ g.width) (hblank : g.erase = g)
    (htext : text ≠ "") (hroom : rowsTaken text indent g.width < g.height) {y x : Nat} (hy : 0 < y)
    (hbound : y < g.height) (hx : x < min indent (g.width - 2)) :
    (g.pour p text indent 0).grid.cell? y x
      = some (if y < rowsTaken text indent g.width then {} else g.blank) := by
  have hlength : (g.printed p text indent 0).length = rowsTaken text indent g.width := by
    rw [length_printed p htext indent 0 hw, if_pos rfl]
  have hrows := rows_pour hs hw hblank p htext indent hroom
  rw [hlength] at hrows
  by_cases hrow : y < rowsTaken text indent g.width
  · have htaken : y < (Sheet.ofText p text g.width indent 0).rows.length := by
      rwa [← rowsTaken_eq p htext indent hw]
    obtain ⟨row, hget⟩ : ∃ row, (Sheet.ofText p text g.width indent 0).rows[y]? = some row :=
      ⟨_, List.getElem?_eq_getElem htaken⟩
    have hmem : row ∈ (Sheet.ofText p text g.width indent 0).rows.tail := by
      obtain ⟨y, rfl⟩ := Nat.exists_eq_add_of_lt hy
      rw [Nat.zero_add, ← List.getElem?_tail] at hget
      exact List.mem_of_getElem? hget
    have hbegins : Sheet.Begins (min indent (g.width - 2)) row := by
      rw [Sheet.ofText, Sheet.pouredTokens_wrapped] at hmem
      exact Sheet.indented_run rfl _ ⟨by simp, fun h => absurd rfl h⟩ row hmem
    obtain ⟨rest, rfl⟩ := hbegins
    have hwidth := Sheet.length_le_of_mem_rows (Measure.fits_of hw indent 0) (pouredTokens text true)
      (s := { palette := p }) (Nat.zero_le _) (by simp) _ (List.mem_of_mem_tail hmem)
    obtain ⟨right, hfill, -⟩ := exists_fill_append hwidth
    have hprinted : (g.printed p text indent 0)[y]? = some
        (List.replicate (min indent (g.width - 2)) ({} : Cell) ++ right) := by
      rw [printed, List.getElem?_map, hget, Option.map_some, hfill]
    rw [if_pos hrow, cell?, hrows, List.getElem?_append_left (hlength.symm ▸ hrow), hprinted]
    show (List.replicate (min indent (g.width - 2)) ({} : Cell) ++ right)[x]? = _
    rw [List.getElem?_append_left (by rwa [List.length_replicate]), List.getElem?_replicate, if_pos hx]
  · have hbelow : y - rowsTaken text indent g.width < g.height - rowsTaken text indent g.width := by
      omega
    rw [if_neg hrow, cell?, hrows, List.getElem?_append_right (hlength ▸ Nat.le_of_not_lt hrow), hlength,
      List.getElem?_replicate, if_pos hbelow]
    show (List.replicate g.width g.blank)[x]? = _
    rw [List.getElem?_replicate, if_pos (by omega)]

end Grid

/-! ### A message -/

namespace Message

/-- A lead ends with a space. -/
theorem getLast?_lead (s : Settings) (badge : Badge) (timed : Bool) (serverTime : Option String)
    (now : Calendar.Moment) :
    ∀ c ∈ (lead s badge timed serverTime now).toList.getLast?, c = ' ' := by
  unfold lead
  generalize (if timed then [timeText s serverTime now] else []) ++ badge.keys.map s.themeText = parts
  dsimp only
  rcases List.eq_nil_or_concat parts with rfl | ⟨front, last, rfl⟩
  · intro c hc
    cases hc
  · intro c hc
    rw [List.concat_eq_append, List.map_append, String.join, List.foldl_append] at hc
    simp only [List.map_cons, List.map_nil, List.foldl_cons, List.foldl_nil, String.toList_append] at hc
    rw [← List.append_assoc, show " ".toList = [' '] from rfl, List.getLast?_concat] at hc
    exact (Option.some.inj hc).symm

/-- **A message lines up under itself.**  What is stored is the lead and what was said, and no colour code
reaches from one into the other; the indent is the columns of the lead.  If the lead holds nothing but
common spaces and what was said begins with a glyph that takes a column, then on every blank grid that
scrolls, wide enough for the indent and two columns and high enough for all rows, that glyph stands at the
column of the indent: what shows above it and on its left is what the lead shows, and from it on there is
what was said.  On every row after the first the columns of the indent are plain blanks, or blanks of the
grid below the message. -/
theorem message_lines_up (s : Settings) (text : String) (badge : Badge) (timed : Bool)
    (serverTime : Option String) (now : Calendar.Moment) :
    let lead := lead s badge timed serverTime now
    let line := assemble s text badge timed serverTime now
    line.text = lead ++ text ∧ strip line.text = strip lead ++ strip text ∧
      line.indent = Text.columnsOf (strip lead).toList ∧
      ∀ (g : Grid) (p : Color.Palette) (c : Char) (cs : List Char), g.scrolls = true → g.erase = g →
        line.indent + 2 ≤ g.width → rowsTaken line.text line.indent g.width < g.height →
        (∀ d ∈ ['\t', '\x0c', '\x0b', '\n'], d ∉ lead.toList) →
        (strip text).toList = c :: cs → Text.columns c ≠ 0 → c ≠ ' ' →
        let grid := (g.pour p line.text line.indent 0).grid
        (∃ above left right below style,
          grid.rows = above ++ (left ++ Cell.ofGlyph c style ++ right) :: below ∧
          left.length = line.indent ∧
          (above.flatten ++ left).filter Cell.isShown = inscribed p [] (tokens lead.toList) ∧
          (Cell.ofGlyph c style ++ right ++ below.flatten).filter Cell.isShown
            = inscribed p (tokens lead.toList) (tokens text.toList)) ∧
        ∀ y x, 0 < y → y < g.height → x < line.indent →
          grid.cell? y x = some (if y < rowsTaken line.text line.indent g.width then {} else g.blank) := by
  intro lead line
  have hspace : ∀ c ∈ lead.toList.getLast?, c = ' ' := getLast?_lead s badge timed serverTime now
  have hbreak : ∀ c ∈ lead.toList.getLast?, breaksWord c = true := fun c h => by
    rw [hspace c h]
    decide
  have hwhole : line.text.toList = lead.toList ++ text.toList := String.toList_append ..
  have hindent : line.indent = Text.columnsOf (shown lead.toList) := rfl
  refine ⟨rfl, ?_, by rw [strip, String.toList_ofList, hindent], ?_⟩
  · rw [strip, shown, hwhole, tokens_append_of_break hbreak, List.filterMap_append, String.ofList_append]
    rfl
  intro g p c cs hs hblank hwidth hroom hlead htext hc hcs grid
  have hw : 2 ≤ g.width := Nat.le_trans (Nat.le_add_left ..) hwidth
  have hcommon : ∀ c ∈ lead.toList, evenSpace c = c ∧ c ≠ '\n' := by
    intro c hmem
    have hnot (d : Char) (hd : d ∈ ['\t', '\x0c', '\x0b', '\n']) : c ≠ d :=
      fun h => hlead d hd (h ▸ hmem)
    refine ⟨?_, hnot '\n' (by simp)⟩
    rw [evenSpace, if_neg]
    rintro (h | h | h)
    · exact hnot '\x0c' (by simp) h
    · exact hnot '\t' (by simp) h
    · exact hnot '\x0b' (by simp) h
  have hshown : shown text.toList = c :: cs := by rwa [strip, String.toList_ofList] at htext
  have hne : line.text ≠ "" := by
    intro hnil
    have hnone : lead.toList ++ text.toList = [] := by rw [← hwhole, hnil]; rfl
    rw [(List.append_eq_nil_iff.1 hnone).2] at hshown
    simp [shown] at hshown
  refine ⟨?_, fun y x hy hbound hx => ?_⟩
  · obtain ⟨above, left, right, below, style, hrows, hleft, hbefore, hafter⟩ :=
      Sheet.rows_ofText_lead p hwhole hspace hcommon hshown hc hcs hwidth
    obtain ⟨above', right', below', hgrid, habove, hright, hbelow⟩ :=
      Grid.exists_rows_pour hs hw hblank hne hroom hrows
    refine ⟨above', left, right', below', style, hgrid, hleft, ?_, ?_⟩
    · rw [List.filter_append, habove, ← List.filter_append]
      exact hbefore
    · rw [List.filter_append, List.filter_append, hright, hbelow, ← List.filter_append,
        ← List.filter_append]
      exact hafter
  · exact Grid.cell?_left_of_indent hs hw hblank hne hroom hy hbound (by omega)

/-- A coloured lead, behind whose space a bold wide word wraps and is split. -/
theorem message_lines_up_wide :
    let lead := lead {} .first false none default
    let line := assemble {} "\x02日本\x02 go" .first false none default
    let g := Grid.new 7 5 true
    let grid := (g.pour .off line.text line.indent 0).grid
    g.erase = g ∧ line.indent = 4 ∧ rowsTaken line.text line.indent g.width = 4 ∧
      (∀ d ∈ ['\t', '\x0c', '\x0b', '\n'], d ∉ lead.toList) ∧
      (strip "\x02日本\x02 go").toList = '日' :: "本 go".toList ∧
      (∃ above left right below style,
        grid.rows = above ++ (left ++ Cell.ofGlyph '日' style ++ right) :: below ∧ left.length = 4) ∧
      grid.cell? 2 3 = some {} ∧
      grid.lines = ["[-]".toList, "    日".toList, "    本".toList, "    go".toList, []] := by
  intro lead line g grid
  have hindent : line.indent = 4 := by decide +kernel
  have hrows : rowsTaken line.text line.indent g.width = 4 := by decide +kernel
  have hlead : ∀ d ∈ ['\t', '\x0c', '\x0b', '\n'], d ∉ lead.toList := by
    have hall : (['\t', '\x0c', '\x0b', '\n'].all (!lead.toList.contains ·)) = true := by
      decide +kernel
    simpa using hall
  have hsaid : (strip "\x02日本\x02 go").toList = '日' :: "本 go".toList := by decide +kernel
  have hlines : grid.lines = ["[-]".toList, "    日".toList, "    本".toList, "    go".toList, []] := by
    decide +kernel
  have hwidth : line.indent + 2 ≤ g.width := by rw [hindent]; decide
  have hroom : rowsTaken line.text line.indent g.width < g.height := by rw [hrows]; decide
  have hinside : 3 < line.indent := by rw [hindent]; decide
  obtain ⟨-, -, -, hall⟩ := message_lines_up {} "\x02日本\x02 go" .first false none default
  obtain ⟨⟨above, left, right, below, style, hsplit, hleft, -⟩, hblanks⟩ := hall g .off '日' "本 go".toList
    rfl rfl hwidth hroom hlead hsaid (by decide +kernel) (by decide)
  have hblank := hblanks 2 3 (by decide) (by decide) hinside
  rw [show rowsTaken _ _ g.width = 4 from hrows, if_pos (by decide)] at hblank
  exact ⟨rfl, hindent, hrows, hlead, hsaid,
    ⟨above, left, right, below, style, hsplit, hleft.trans hindent⟩, hblank, hlines⟩

end Message
end ChatConsole
