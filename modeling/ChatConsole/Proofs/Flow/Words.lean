/-
# A word that fits a row stays on one

Where a row ends is decided at the space before a word, by looking ahead to the word's end; the word is
then put glyph by glyph, with a test for each.  The two agree: once there is room for the whole word
(`room_before`), its glyphs go side by side on the row in progress (`run_word`), and what comes behind
goes on with that row (`rows_run_end`).  So a word that fits a row behind the indent is never split
(`pour_word`).
-/

import ChatConsole.Proofs.Flow.Glyphs

namespace ChatConsole

open Markup

/-! ### Words of a text -/

/-- Whether a character ends a word: a space, even or not, or a new line. -/
def breaksWord (c : Char) : Bool :=
  evenSpace c = ' ' || c = '\n'

/-- A longest run of characters of a text that hold no break, with what stands before and behind it. -/
structure IsWord (before word after : List Char) : Prop where
  ne_nil : word ≠ []
  solid : ∀ c ∈ word, breaksWord c = false
  starts : ∀ c ∈ before.getLast?, breaksWord c = true
  ends : ∀ c ∈ after.head?, breaksWord c = true

instance (before word after : List Char) : Decidable (IsWord before word after) :=
  decidable_of_iff
    (word ≠ [] ∧ word.all (!breaksWord ·) = true ∧ before.getLast?.all breaksWord = true ∧
      after.head?.all breaksWord = true) <| by
    rw [Option.all_eq_true, Option.all_eq_true, List.all_eq_true]
    simp only [Bool.not_eq_true']
    exact ⟨fun ⟨hne, hsolid, hstarts, hends⟩ => ⟨hne, hsolid, hstarts, hends⟩,
      fun ⟨hne, hsolid, hstarts, hends⟩ => ⟨hne, hsolid, hstarts, hends⟩⟩

/-- A break is poured as a space or as a new line, and can be neither in a mark nor in a colour code. -/
theorem breaksWord_cases {c : Char} (h : breaksWord c = true) :
    (evenSpace c = ' ' ∨ evenSpace c = '\n') ∧ Mark.ofChar? c = none ∧ digit? c = none ∧ c ≠ ',' := by
  simp only [breaksWord, Bool.or_eq_true, decide_eq_true_eq] at h
  rcases h with h | rfl
  · refine ⟨Or.inl h, ?_⟩
    unfold evenSpace at h
    split at h
    · rename_i hc
      rcases hc with rfl | rfl | rfl <;> decide
    · rw [h]
      decide
  · decide

theorem tokens_cons_break {c : Char} (h : breaksWord c = true) (cs : List Char) :
    tokens (c :: cs) = .glyph c :: tokens cs := by
  rw [tokens, (breaksWord_cases h).2.1]

/-- No colour code reaches over a break. -/
theorem tokens_append_of_break {before : List Char} (h : ∀ c ∈ before.getLast?, breaksWord c = true)
    (rest : List Char) : tokens (before ++ rest) = tokens before ++ tokens rest := by
  cases before using List.reverseRecOn with
  | nil => simp
  | append_singleton before c =>
    have hc : breaksWord c = true := h c (by simp)
    obtain ⟨-, -, hdigit, hcomma⟩ := breaksWord_cases hc
    have hends (cs : List Char) : EndsCode (c :: cs) := endsCode_cons hdigit hcomma
    rw [List.append_assoc, List.singleton_append, tokens_append (hends rest), tokens_append (hends []),
      tokens_cons_break hc, tokens_cons_break hc, tokens_nil, List.append_assoc]
    rfl

namespace IsWord

variable {before word after : List Char}

theorem tokens_eq (h : IsWord before word after) :
    tokens (before ++ word ++ after) = tokens before ++ tokens word ++ tokens after := by
  have hends : EndsCode after := fun c hc =>
    let ⟨_, _, hdigit, hcomma⟩ := breaksWord_cases (h.ends c hc)
    ⟨hdigit, hcomma⟩
  rw [List.append_assoc, tokens_append_of_break h.starts, tokens_append hends, List.append_assoc]

end IsWord

/-! ### The glyphs of a word -/

/-- The characters of no column begin with the control characters. -/
theorem Text.zeroColumnRanges_eq :
    Text.zeroColumnRanges = (0x0, 0x1F) :: (0x7F, 0x9F) :: Text.zeroColumnRanges.drop 2 := rfl

/-- A control character takes no column. -/
theorem Text.columns_of_isControl {c : Char} (h : Text.isControl c = true) : Text.columns c = 0 := by
  have hzero : Text.zeroColumnRanges.contains c.toNat = true := by
    simp only [Text.isControl, Bool.or_eq_true, Bool.and_eq_true, decide_eq_true_eq] at h
    rw [Text.zeroColumnRanges_eq, Text.RangeTable.contains, Text.RangeTable.contains]
    simp only [Nat.not_lt_zero, if_false]
    split
    · rfl
    · rw [if_neg (by omega), if_pos (by omega)]
  rw [Text.columns, if_pos hzero]

/-- In a word the characters that show are those that take a column. -/
theorem isVisible_eq {c : Char} (h : breaksWord c = false) :
    isVisible c = decide (Text.columns c ≠ 0) := by
  have hspace : c ≠ ' ' := by
    rintro rfl
    exact Bool.noConfusion h
  by_cases hcontrol : Text.isControl c = true
  · simp [isVisible, Text.columns_of_isControl hcontrol]
  · simp [isVisible, hspace, hcontrol]

/-- Every character of a word that takes a column has a glyph. -/
theorem chars_inscribed_word (p : Color.Palette) (before : List Token) {word : List Char}
    (h : ∀ c ∈ shown word, breaksWord c = false) :
    (inscribed p before (tokens word)).map Cell.char
      = (shown word).filter (fun c => Text.columns c ≠ 0) := by
  rw [chars_inscribed]
  exact List.filter_congr fun c hc => isVisible_eq (h c hc)

/-- The cells of a glyph: its own, and a filler for each further column. -/
def Cell.spread (cell : Cell) : List Cell :=
  Cell.ofGlyph cell.char cell.style

/-- Of the cells of visible glyphs, those that show are the glyphs. -/
theorem Cell.filter_spread {cells : List Cell} (h : ∀ cell ∈ cells, isVisible cell.char = true) :
    (cells.flatMap Cell.spread).filter Cell.isShown = cells := by
  induction cells with
  | nil => rfl
  | cons cell cells ih =>
    have hvisible : isVisible cell.char = true := h cell List.mem_cons_self
    obtain ⟨⟨hcolumns, -⟩, hcontrol⟩ : (Text.columns cell.char ≠ 0 ∧ cell.char ≠ ' ') ∧
        Text.isControl cell.char = false := by
      simpa [isVisible] using hvisible
    have hcell : (Token.glyph cell.char).cell? cell.style = some cell := by
      rw [Token.cell?, if_pos hvisible]
    rw [List.flatMap_cons, List.filter_append, ih fun d hd => h d (List.mem_cons_of_mem _ hd),
      Cell.spread, Cell.filter_ofGlyph (by simp [hcontrol]) hcolumns, hcell]
    rfl

/-! ### Pouring on, with more to come -/

namespace Sheet

variable {m : Measure}

/-- Without a cap, tokens are taken one after another, with those that follow in view. -/
theorem run_cons (hcap : m.cap = 0) (t : Token) (ts : List Token) (s : Sheet) :
    s.run m (t :: ts) = (s.step m t ts).run m ts := by
  have hroom : (s.step m t ts).isFull m = false := by simp [isFull, hcap]
  rw [run, hroom, if_neg Bool.noConfusion]

/-- The sheet after some tokens, with others to follow. -/
def after (m : Measure) : List Token → List Token → Sheet → Sheet
  | [], _, s => s
  | t :: ts, rest, s => after m ts rest (s.step m t (ts ++ rest))

theorem run_append (hcap : m.cap = 0) (ts rest : List Token) (s : Sheet) :
    s.run m (ts ++ rest) = (s.after m ts rest).run m rest := by
  induction ts generalizing s with
  | nil => rfl
  | cons t ts ih => rw [List.cons_append, run_cons hcap, ih, after]

/-- The sheet shows what the tokens show, and its pen has read them. -/
theorem glyphs_after (hcap : m.cap = 0) (ts rest : List Token) (s : Sheet) :
    (s.after m ts rest).glyphs = s.glyphs ++ penned (s.pen, s.palette) ts ∧
      ((s.after m ts rest).pen, (s.after m ts rest).palette)
        = ts.foldl (fun r t => r.1.read r.2 t) (s.pen, s.palette) := by
  induction ts generalizing s with
  | nil => exact ⟨(List.append_nil _).symm, rfl⟩
  | cons t ts ih =>
    obtain ⟨hglyphs, hread⟩ := glyphs_step hcap t (ts ++ rest) s
    obtain ⟨hshown, hpen⟩ := ih (s.step m t (ts ++ rest))
    rw [after]
    refine ⟨?_, ?_⟩
    · rw [hshown, hglyphs, hread, penned, List.append_assoc]
    · rw [hpen, hread, List.foldl_cons]

/-- At a break the row in progress is left with room for the word behind it, if the word fits a row
behind the indent. -/
theorem room_before (hcap : m.cap = 0) {c : Char} (hc : c = ' ' ∨ c = '\n') {rest : List Token}
    (hrest : rest ≠ []) (hfits : m.indent + Flow.wordColumns rest ≤ m.limit) (s : Sheet) :
    (s.step m (.glyph c) rest).line.length + Flow.wordColumns rest ≤ m.limit := by
  have hturn : (s.turn m c rest).line.length = m.indent := by
    have hroom : s.endRow.isFull m = false := by simp [isFull, hcap]
    have hblanks : (s.endRow.addBlanks m.indent).line.length = m.indent := by
      rw [length_addBlanks, endRow, List.length_nil, Nat.zero_add]
    rw [turn, hroom, if_neg Bool.noConfusion]
    rcases hc with rfl | rfl
    · exact hblanks
    · rw [carry, if_pos rfl, if_neg (by simpa using hrest)]
      exact hblanks
  rw [step, takeGlyph]
  rcases place_cases m c rest s.line.length with
    ⟨-, hplace⟩ | ⟨hnewline, hcontrol, -⟩ | ⟨hnewline, -, hroom, hplace⟩ | ⟨-, -, -, hplace⟩
  · rw [hplace]
    dsimp only
    rw [hturn]
    exact hfits
  · obtain rfl := hc.resolve_right hnewline
    exact absurd hcontrol (by decide)
  · obtain rfl := hc.resolve_right hnewline
    rw [Flow.needed, if_pos rfl] at hroom
    rw [hplace]
    dsimp only
    rw [length_addGlyph, Text.columns_space]
    omega
  · rw [hplace]
    dsimp only
    rw [hturn]
    exact hfits

/-! ### A word on the row in progress -/

/-- The sheet with the glyphs of some tokens side by side behind the row in progress. -/
def lay (ts : List Token) (s : Sheet) : Sheet where
  rows := s.rows
  line := s.line ++ (penned (s.pen, s.palette) ts).flatMap Cell.spread
  palette := (ts.foldl (fun r t => r.1.read r.2 t) (s.pen, s.palette)).2
  pen := (ts.foldl (fun r t => r.1.read r.2 t) (s.pen, s.palette)).1

theorem lay_cons (t : Token) (ts : List Token) (s : Sheet) : s.lay (t :: ts) = (s.lay [t]).lay ts := by
  simp only [lay, penned, List.flatMap_append, List.append_assoc, List.foldl_cons, List.foldl_nil,
    List.append_nil]

/-- A token for which there is room is laid on the row in progress, and takes no more than its
columns. -/
theorem step_eq_lay {t : Token} (hsolid : ∀ c, t = .glyph c → c ≠ ' ' ∧ c ≠ '\n') (rest : List Token)
    {s : Sheet} (hroom : s.line.length + Text.columnsOf t.shown?.toList ≤ m.limit) :
    s.step m t rest = s.lay [t] ∧
      (s.lay [t]).line.length ≤ s.line.length + Text.columnsOf t.shown?.toList := by
  cases t with
  | toggle | plain | color =>
    refine ⟨?_, ?_⟩ <;> simp [step, lay, penned, Token.cell?]
  | glyph c =>
    obtain ⟨hspace, hnewline⟩ := hsolid c rfl
    have hcolumns : Text.columnsOf (Token.glyph c).shown?.toList = Text.columns c := Nat.add_zero _
    have hlay : s.lay [.glyph c] = { s with
        line := s.line ++ ((Token.glyph c).cell? s.pen.style).toList.flatMap Cell.spread } := by
      simp [lay, penned, Pen.read]
    rw [hcolumns] at hroom ⊢
    rw [hlay, step, takeGlyph]
    rcases place_cases m c rest s.line.length with
      ⟨h, -⟩ | ⟨-, hcontrol, hplace⟩ | ⟨-, hcontrol, -, hplace⟩ | ⟨-, -, hnone, -⟩
    · exact absurd h hnewline
    · rw [hplace, cell?_of_isControl hcontrol]
      simp
    · have hput : s.addGlyph c = { s with
          line := s.line ++ ((Token.glyph c).cell? s.pen.style).toList.flatMap Cell.spread } := by
        unfold addGlyph
        split
        · rename_i hzero
          simp [Token.cell?, isVisible, hzero]
        · rename_i hsome
          simp [Token.cell?, isVisible, hsome, hspace, hcontrol, Cell.spread]
      rw [hplace, ← hput]
      exact ⟨rfl, Nat.le_of_eq (length_addGlyph c s)⟩
    · rw [Flow.needed, if_neg hspace] at hnone
      exact absurd hroom hnone

/-- **A word for which there is room goes on the row in progress**, glyph beside glyph. -/
theorem run_word (hcap : m.cap = 0) (ts rest : List Token) {s : Sheet}
    (hsolid : ∀ c, Token.glyph c ∈ ts → c ≠ ' ' ∧ c ≠ '\n')
    (hroom : s.line.length + Text.columnsOf (ts.filterMap Token.shown?) ≤ m.limit) :
    s.run m (ts ++ rest) = (s.lay ts).run m rest := by
  induction ts generalizing s with
  | nil => simp [lay, penned]
  | cons t ts ih =>
    have hcolumns : Text.columnsOf ((t :: ts).filterMap Token.shown?)
        = Text.columnsOf t.shown?.toList + Text.columnsOf (ts.filterMap Token.shown?) := by
      rw [← Text.columnsOf_append]
      cases t <;> rfl
    rw [hcolumns] at hroom
    obtain ⟨hstep, hlength⟩ := step_eq_lay (t := t) (fun c hc => hsolid c (hc ▸ List.mem_cons_self))
      (ts ++ rest) (Nat.le_trans (Nat.add_le_add_left (Nat.le_add_right ..) _) hroom)
    rw [List.cons_append, run_cons hcap, hstep, lay_cons t ts s]
    refine ih (fun c hc => hsolid c (List.mem_cons_of_mem _ hc)) ?_
    omega

/-! ### What comes behind -/

/-- One token goes on with the row in progress, or ends it. -/
theorem step_goes_on (t : Token) (rest : List Token) (s : Sheet) :
    ((s.step m t rest).rows = s.rows ∧ ∃ right, (s.step m t rest).line = s.line ++ right) ∨
      (s.step m t rest).rows = s.rows ++ [s.line] := by
  cases t with
  | toggle | plain | color => exact Or.inl ⟨rfl, [], (List.append_nil _).symm⟩
  | glyph c =>
    rw [step, takeGlyph]
    cases place m c rest s.line.length with
    | nowhere => exact Or.inl ⟨rfl, [], (List.append_nil _).symm⟩
    | next => exact Or.inr (rows_turn c rest s)
    | here =>
      refine Or.inl ⟨rows_addGlyph c s, ?_⟩
      dsimp only
      unfold addGlyph
      split
      · exact ⟨[], (List.append_nil _).symm⟩
      · exact ⟨_, rfl⟩

/-- **What comes behind goes on with the row in progress**: it is the beginning of the row that is ended
next. -/
theorem rows_run_end (hcap : m.cap = 0) (ts : List Token) (s : Sheet) :
    ∃ right below,
      (s.run m (ts ++ [.glyph '\n'])).rows = s.rows ++ (s.line ++ right) :: below := by
  induction ts generalizing s with
  | nil =>
    have hplace : place m '\n' [] s.line.length = .next := by simp [place]
    refine ⟨[], [], ?_⟩
    rw [List.nil_append, run_cons hcap, run, step, takeGlyph, hplace]
    dsimp only
    rw [rows_turn, List.append_nil]
  | cons t ts ih =>
    obtain ⟨right, below, hrun⟩ := ih (s.step m t (ts ++ [.glyph '\n']))
    rw [List.cons_append, run_cons hcap, hrun]
    rcases step_goes_on (m := m) t (ts ++ [.glyph '\n']) s with ⟨hrows, more, hline⟩ | hrows
    · exact ⟨more ++ right, below, by rw [hrows, hline, List.append_assoc]⟩
    · refine ⟨[], ((s.step m t (ts ++ [.glyph '\n'])).line ++ right) :: below, ?_⟩
      rw [hrows, List.append_nil, List.append_assoc, List.singleton_append]

/-! ### A whole text -/

/-- What is in view of a break is as wide as the word behind it. -/
theorem wordColumns_append {ts rest : List Token}
    (hsolid : ∀ c, Token.glyph c ∈ ts → c ≠ ' ' ∧ c ≠ '\n')
    (hrest : Flow.wordColumns rest = 0) :
    Flow.wordColumns (ts ++ rest) = Text.columnsOf (ts.filterMap Token.shown?) := by
  induction ts with
  | nil => exact hrest
  | cons t ts ih =>
    have hmore := ih fun c hc => hsolid c (List.mem_cons_of_mem _ hc)
    cases t with
    | toggle | plain | color => exact hmore
    | glyph c =>
      obtain ⟨hspace, hnewline⟩ := hsolid c List.mem_cons_self
      rw [List.cons_append, Flow.wordColumns, if_neg (by simp [hspace, hnewline]), hmore]
      rfl

variable {p : Color.Palette} {text : String} {before word after : List Char}

/-- There is nothing to make even in a word, and none of its characters ends a row. -/
theorem even_word (h : IsWord before word after) :
    (tokens word).map Token.even = tokens word ∧
      ∀ c, Token.glyph c ∈ tokens word → c ≠ ' ' ∧ c ≠ '\n' := by
  have hsolid : ∀ c, Token.glyph c ∈ tokens word → evenSpace c ≠ ' ' ∧ c ≠ '\n' := by
    intro c hc
    have hmem : c ∈ shown word := List.mem_filterMap.2 ⟨_, hc, rfl⟩
    simpa [breaksWord] using h.solid c ((of_mem_shown hmem).1)
  refine ⟨?_, fun c hc => ⟨?_, (hsolid c hc).2⟩⟩
  · refine (List.map_congr_left ?_).trans (List.map_id _)
    intro t ht
    cases t with
    | toggle | plain | color => rfl
    | glyph c =>
      rcases evenSpace_cases c with heven | ⟨heven, -⟩
      · exact congrArg Token.glyph heven
      · exact absurd heven (hsolid c ht).1
  · rintro rfl
    exact (hsolid ' ' hc).1 (by decide)

/-- Behind a word there is a break, or the end of the text. -/
theorem wordColumns_behind (h : IsWord before word after) :
    Flow.wordColumns ((tokens after).map Token.even ++ [.glyph '\n']) = 0 := by
  cases after with
  | nil => simp [Flow.wordColumns]
  | cons c cs =>
    have hc : breaksWord c = true := h.ends c rfl
    rw [tokens_cons_break hc, List.map_cons, Token.even, List.cons_append, Flow.wordColumns,
      if_pos (breaksWord_cases hc).1]

/-- Pouring what stands before a word leaves room for the word, if it fits a row behind the indent. -/
theorem exists_run_before (hcap : m.cap = 0) (hstarts : ∀ c ∈ before.getLast?, breaksWord c = true)
    (rest : List Token) (hrest : rest ≠ []) (hfits : m.indent + Flow.wordColumns rest ≤ m.limit) :
    ∃ s : Sheet, ({ palette := p } : Sheet).run m ((tokens before).map Token.even ++ rest)
        = s.run m rest ∧
      s.glyphs = inscribed p [] (tokens before) ∧ (s.pen, s.palette) = penAfter p (tokens before) ∧
      s.line.length + Flow.wordColumns rest ≤ m.limit := by
  cases before using List.reverseRecOn with
  | nil =>
    refine ⟨{ palette := p }, by simp, by simp [glyphs, inscribed], by simp [penAfter], ?_⟩
    rw [List.length_nil]
    omega
  | append_singleton before c =>
    have hc : breaksWord c = true := hstarts c (by simp)
    have htokens : tokens (before ++ [c]) = tokens before ++ [.glyph c] := by
      obtain ⟨-, -, hdigit, hcomma⟩ := breaksWord_cases hc
      rw [tokens_append (endsCode_cons hdigit hcomma), tokens_cons_break hc, tokens_nil]
    let s := ({ palette := p } : Sheet).after m ((tokens before).map Token.even)
      (.glyph (evenSpace c) :: rest)
    have hrun : ({ palette := p } : Sheet).run m _ = s.run m _ := run_append hcap ..
    obtain ⟨hglyphs, hpen⟩ : s.glyphs = _ ∧ (s.pen, s.palette) = _ := glyphs_after hcap ..
    obtain ⟨hstep, hread⟩ := glyphs_step hcap (.glyph (evenSpace c)) rest s
    have hnone (style : Style) : (Token.glyph (evenSpace c)).cell? style = none := by
      rcases (breaksWord_cases hc).1 with h | h <;> rw [h] <;> rfl
    have hbefore : s.glyphs = inscribed p [] (tokens before) := by
      rw [hglyphs, penned_even]
      exact penned_penAfter p [] (tokens before)
    have hafter : (s.pen, s.palette) = penAfter p (tokens before) := hpen.trans (penAfter_even ..)
    refine ⟨s.step m (.glyph (evenSpace c)) rest, ?_, ?_, ?_,
      room_before hcap (breaksWord_cases hc).1 hrest hfits s⟩
    · rw [htokens, List.map_append, List.append_assoc]
      exact hrun.trans (run_cons hcap ..)
    · have hsame : (Token.glyph c).cell? (styleAfter p ([] ++ tokens before)) = none :=
        (cell?_even _ (.glyph c)).symm.trans (hnone _)
      rw [hstep, hnone, hbefore, htokens, inscribed_append, inscribed, inscribed, hsame]
      rfl
    · rw [hread, htokens, penAfter_concat, ← hafter]
      rfl

/-- **Where the rows of a text leave a word that fits a row**: on one of them, glyph beside glyph.
What shows above it and on its left is what stands before it in the text, and what shows on its right
and below it is what stands behind it. -/
theorem rows_ofText_word (p : Color.Palette) (width indent : Nat)
    (htext : text.toList = before ++ word ++ after) (hword : IsWord before word after)
    (hfits : (Measure.of width indent 0).indent + Text.columnsOf (shown word)
      ≤ (Measure.of width indent 0).limit) :
    ∃ above left right below,
      (ofText p text width indent 0).rows
        = above ++ (left ++ (inscribed p (tokens before) (tokens word)).flatMap Cell.spread ++ right)
            :: below ∧
      (above.flatten ++ left).filter Cell.isShown = inscribed p [] (tokens before) ∧
      (right ++ below.flatten).filter Cell.isShown
        = inscribed p (tokens before ++ tokens word) (tokens after) := by
  have hcap : (Measure.of width indent 0).cap = 0 := rfl
  obtain ⟨heven, hsolid⟩ := even_word hword
  have htokens : tokens text.toList = tokens before ++ tokens word ++ tokens after := by
    rw [htext, hword.tokens_eq]
  have hpoured : pouredTokens text true = (tokens before).map Token.even ++
      (tokens word ++ ((tokens after).map Token.even ++ [.glyph '\n'])) := by
    rw [pouredTokens_wrapped, tokens_evenSpace, htokens, List.map_append, List.map_append, heven]
    simp only [List.append_assoc]
  have hcolumns : Flow.wordColumns (tokens word ++ ((tokens after).map Token.even ++ [.glyph '\n']))
      = Text.columnsOf (shown word) := wordColumns_append hsolid (wordColumns_behind hword)
  obtain ⟨s, hbefore, hglyphs, hpen, hroom⟩ := exists_run_before (p := p) hcap hword.starts
    (tokens word ++ ((tokens after).map Token.even ++ [.glyph '\n'])) (by simp)
    (by rw [hcolumns]; exact hfits)
  rw [hcolumns] at hroom
  obtain ⟨right, below, hrows⟩ := rows_run_end hcap ((tokens after).map Token.even) (s.lay (tokens word))
  have hlaid : (s.lay (tokens word)).line
      = s.line ++ (inscribed p (tokens before) (tokens word)).flatMap Cell.spread := by
    rw [lay, hpen, penned_penAfter]
  rw [hlaid, ← run_word hcap _ _ hsolid hroom, ← hbefore, ← hpoured] at hrows
  refine ⟨s.rows, s.line, right, below, hrows, hglyphs, ?_⟩
  -- What shows on the whole sheet is the inscription of the text, and its first two parts are known.
  have hall := (glyphs_ofText p text width indent).1
  have hsame : (ofText p text width indent 0).rows = _ := hrows
  have hshown : ((inscribed p (tokens before) (tokens word)).flatMap Cell.spread).filter Cell.isShown
      = inscribed p (tokens before) (tokens word) :=
    Cell.filter_spread fun _ => isVisible_of_mem_inscribed
  rw [glyphs, line_ofText, inscription, htokens, inscribed_append, inscribed_append, hsame] at hall
  simp only [glyphs, lay, List.flatten_append, List.flatten_cons, List.filter_append, hshown,
    List.append_nil, List.nil_append, List.append_assoc] at hall hglyphs ⊢
  rw [← hglyphs] at hall
  simpa only [List.append_assoc, List.append_cancel_left_eq] using hall

end Sheet

namespace Grid

variable {g : Grid}

/-- Filling a row up leaves what is on it, and adds nothing that shows. -/
theorem exists_fill_append {left right : List Cell} (h : (left ++ right).length ≤ g.width) :
    ∃ right', g.fill (left ++ right) = left ++ right' ∧
      right'.filter Cell.isShown = right.filter Cell.isShown := by
  have hleft : left.length ≤ g.width := by
    rw [List.length_append] at h
    omega
  have hsame := filter_fill h
  rw [fill_append hleft, List.filter_append, List.filter_append] at hsame
  exact ⟨_, fill_append hleft, List.append_cancel_left hsame⟩

/-- **Wrapping never splits a word that fits a row.**  A text is poured without a cap onto a blank grid
that scrolls, wide enough for two columns and high enough for all rows of the text and the one that the
cursor is left on.  A word of the text, which is a longest run of characters between spaces and new
lines, fits a row if its columns behind the indent leave one free.  Then all its glyphs, which are its
characters that take a column, stand on one row side by side in order, each in the style of the tokens
before it.  They are the word's own glyphs and no others that look alike: what shows on the grid above
them and on their left is just what the text shows before the word, and what shows on their right and
below them is what it shows behind the word. -/
theorem pour_word (hs : g.scrolls = true) (hw : 2 ≤ g.width) (hblank : g.erase = g)
    (p : Color.Palette) {text : String} {before word after : List Char}
    (htext : text.toList = before ++ word ++ after) (hword : IsWord before word after) (indent : Nat)
    (hroom : rowsTaken text indent g.width < g.height)
    (hfits : min indent (g.width - 2) + Text.columnsOf (shown word) ≤ g.width - 1) :
    let glyphs := inscribed p (tokens before) (tokens word)
    glyphs.map Cell.char = (shown word).filter (fun c => Text.columns c ≠ 0) ∧
      ∃ above left right below,
        (g.pour p text indent 0).grid.rows
          = above ++ (left ++ glyphs.flatMap Cell.spread ++ right) :: below ∧
        (above.flatten ++ left).filter Cell.isShown = inscribed p [] (tokens before) ∧
        (right ++ below.flatten).filter Cell.isShown
          = inscribed p (tokens before ++ tokens word) (tokens after) := by
  intro glyphs
  have hsolid : ∀ c ∈ shown word, breaksWord c = false := fun c hc =>
    hword.solid c (of_mem_shown hc).1
  have hne : text ≠ "" := by
    rintro rfl
    have hnil : before ++ word ++ after = [] := htext.symm
    simp [hword.ne_nil] at hnil
  refine ⟨chars_inscribed_word p _ hsolid, ?_⟩
  obtain ⟨above, left, right, below, hrows, hbefore, hafter⟩ :=
    Sheet.rows_ofText_word p g.width indent htext hword hfits
  have hwidth : ∀ row ∈ (Sheet.ofText p text g.width indent 0).rows, row.length ≤ g.width :=
    Sheet.length_le_of_mem_rows (Measure.fits_of hw indent 0) _ (Nat.zero_le _) (by simp)
  rw [hrows, List.forall_mem_append, List.forall_mem_cons] at hwidth
  obtain ⟨habove, hrow, hbelow⟩ := hwidth
  obtain ⟨right', hfill, hright⟩ := exists_fill_append hrow
  have hprinted : g.printed p text indent 0
      = above.map g.fill ++ (left ++ glyphs.flatMap Cell.spread ++ right') :: below.map g.fill := by
    rw [printed, hrows, List.map_append, List.map_cons, hfill]
  refine ⟨above.map g.fill, left, right', below.map g.fill ++ List.replicate
    (g.height - (g.printed p text indent 0).length) g.blankRow, ?_, ?_, ?_⟩
  · rw [rows_pour hs hw hblank p hne indent hroom]
    nth_rewrite 1 [hprinted]
    rw [List.append_assoc, List.cons_append]
  · rw [List.filter_append, filter_fillRows habove, ← List.filter_append]
    exact hbefore
  · rw [List.filter_append, hright, List.flatten_append, List.filter_append, filter_fillRows hbelow,
      filter_blankRows, List.append_nil, ← List.filter_append]
    exact hafter

/-- A word of a wide glyph and three narrow ones, with marks inside it, does not fit the rest of its
row; it just fits the next one behind the indent. -/
theorem pour_word_behind_indent :
    let g := new 8 4 true
    let text := "one two 日a\x02b\x02c end"
    let word := "日a\x02b\x02c".toList
    let glyphs := inscribed .off (tokens "one two ".toList) (tokens word)
    let poured := g.pour .off text 2 0
    IsWord "one two ".toList word " end".toList ∧ rowsTaken text 2 g.width < g.height ∧
      min 2 (g.width - 2) + Text.columnsOf (shown word) ≤ g.width - 1 ∧
      glyphs.map Cell.char = "日abc".toList ∧
      poured.grid.lines = ["one two".toList, "  日abc".toList, "  end".toList, []] ∧
      ∃ above left right below,
        poured.grid.rows = above ++ (left ++ glyphs.flatMap Cell.spread ++ right) :: below := by
  intro g text word glyphs poured
  have hword : IsWord "one two ".toList word " end".toList := by decide +kernel
  have htext : text.toList = "one two ".toList ++ word ++ " end".toList := by decide +kernel
  have hroom : rowsTaken text 2 g.width < g.height := by decide +kernel
  have hfits : min 2 (g.width - 2) + Text.columnsOf (shown word) ≤ g.width - 1 := by decide +kernel
  obtain ⟨hchars, above, left, right, below, hrows, -⟩ :=
    pour_word (g := g) rfl (by decide) (by decide) .off htext hword 2 hroom hfits
  have hshown : (shown word).filter (fun c => Text.columns c ≠ 0) = "日abc".toList := by
    decide +kernel
  have hlines : poured.grid.lines = ["one two".toList, "  日abc".toList, "  end".toList, []] := by
    decide +kernel
  exact ⟨hword, hroom, hfits, hchars.trans hshown, hlines, above, left, right, below, hrows⟩

end Grid
end ChatConsole
