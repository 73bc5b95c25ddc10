/-
# Characters that take no column

A combining mark or a joiner takes no column and is dropped where it would be put, so one would not expect
it to have a say in where rows end.  Before it is dropped, though, it is asked whether it fits the row, and
where the row is filled up to its last column the answer is no: a new row begins.  A row is filled that far
only by a wide glyph that begins a continuation row behind the deepest indent (`column_step`).  Away from
there a text is poured as if its unseen characters were not in it (`pour_seen`); there, one of them may
cost a row (`pour_seen_behind_wide`).
-/

import ChatConsole.Proofs.Flow.Words
import ChatConsole.Proofs.Markup.CodeGrammar
import Mathlib.Data.List.Chain

namespace ChatConsole

open Markup

namespace Markup

/-! ### Unseen characters -/

/-- Whether a character takes no column and means nothing else either: it is no mark and no space or new
line. -/
def isUnseen (c : Char) : Bool :=
  Text.columns c = 0 && (Mark.ofChar? c).isNone && !(['\n', '\t', '\x0c', '\x0b'].contains c)

/-- A text without its unseen characters. -/
def seen (text : String) : String :=
  String.ofList (text.toList.filter (!isUnseen ·))

/-- Whether a token is an unseen character. -/
def Token.isUnseen : Token → Bool
  | .glyph c => Markup.isUnseen c
  | _ => false

/-- A colour code is not directly followed by an unseen character; without that, what stands behind it might
go on with the code. -/
def Parted (t u : Token) : Prop :=
  t.code?.isSome = true → u.isUnseen = false

instance : DecidableRel Parted := fun t u =>
  inferInstanceAs (Decidable (t.code?.isSome = true → u.isUnseen = false))

/-- Whether an unseen character that is not a control character stands right behind a wide glyph, with
nothing but decoration and unseen characters between them; `wide` says whether the last glyph before the
tokens is wide. -/
def unseenBehindWide (wide : Bool) : List Token → Bool
  | [] => false
  | .glyph c :: ts =>
    if isUnseen c then (wide && !Text.isControl c) || unseenBehindWide wide ts
    else unseenBehindWide (Text.columns c = 2) ts
  | _ :: ts => unseenBehindWide wide ts

variable {c : Char} {cs : List Char}

theorem isUnseen_iff :
    isUnseen c = true ↔
      Text.columns c = 0 ∧ Mark.ofChar? c = none ∧ c ∉ ['\n', '\t', '\x0c', '\x0b'] := by
  simp only [isUnseen, Bool.and_eq_true, decide_eq_true_eq, Option.isNone_iff_eq_none, Bool.not_eq_true',
    List.contains_eq_mem, decide_eq_false_iff_not, and_assoc]

theorem isUnseen_of_columns (h : Text.columns c ≠ 0) : isUnseen c = false :=
  Bool.eq_false_iff.2 fun hc => h (isUnseen_iff.1 hc).1

theorem isUnseen_of_mark (h : Mark.ofChar? c ≠ none) : isUnseen c = false :=
  Bool.eq_false_iff.2 fun hc => h (isUnseen_iff.1 hc).2.1

/-- Making spaces even makes no character seen or unseen. -/
theorem isUnseen_evenSpace (c : Char) : isUnseen (evenSpace c) = isUnseen c := by
  unfold evenSpace
  split
  · rename_i hc
    rcases hc with rfl | rfl | rfl <;> decide
  · rfl

theorem isUnseen_even (t : Token) : t.even.isUnseen = t.isUnseen := by
  cases t with
  | toggle | plain | color => rfl
  | glyph c => exact isUnseen_evenSpace c

theorem unseenBehindWide_even (wide : Bool) (ts : List Token) :
    unseenBehindWide wide (ts.map Token.even) = unseenBehindWide wide ts := by
  induction ts generalizing wide with
  | nil => rfl
  | cons t ts ih =>
    cases t with
    | toggle | plain | color => exact ih wide
    | glyph c =>
      rw [List.map_cons, Token.even, unseenBehindWide, unseenBehindWide, isUnseen_evenSpace, ih, ih]
      rcases evenSpace_cases c with heven | ⟨heven, hcontrol, -⟩
      · rw [heven]
      · have hseen : isUnseen c = false := by
          rw [← isUnseen_evenSpace, heven]
          decide
        rw [hseen, heven, Text.columns_of_isControl hcontrol]
        rfl

/-! ### Colour codes without them -/

/-- A printable ASCII character takes a column. -/
theorem columns_ne_zero_of_ascii (hlow : 0x20 ≤ c.toNat) (hhigh : c.toNat < 0x7F) :
    Text.columns c ≠ 0 := by
  have hnone : Text.zeroColumnRanges.contains c.toNat = false := by
    rw [Text.zeroColumnRanges_eq, Text.RangeTable.contains, if_neg (by omega), if_neg (by omega),
      Text.RangeTable.contains, if_pos (by omega)]
  rw [Text.columns, hnone, if_neg Bool.false_ne_true]
  split <;> decide

theorem isUnseen_of_digit {n : Nat} (h : digit? c = some n) : isUnseen c = false := by
  unfold digit? at h
  split at h
  · rename_i hbounds
    have hlow : '0'.toNat ≤ c.toNat := hbounds.1
    have hhigh : c.toNat ≤ '9'.toNat := hbounds.2
    rw [show '0'.toNat = 48 from rfl] at hlow
    rw [show '9'.toNat = 57 from rfl] at hhigh
    exact isUnseen_of_columns (columns_ne_zero_of_ascii (by omega) (by omega))
  · cases h

theorem filter_cons_seen (h : isUnseen c = false) (cs : List Char) :
    (c :: cs).filter (!isUnseen ·) = c :: cs.filter (!isUnseen ·) :=
  List.filter_cons_of_pos (by rw [h]; rfl)

/-- A number is read alike without unseen characters, unless one of them stands right behind it. -/
theorem number?_filter (h : ∀ c ∈ (cs.drop (numberLength cs)).head?, isUnseen c = false) :
    number? (cs.filter (!isUnseen ·)) = number? cs ∧
      (cs.filter (!isUnseen ·)).drop (numberLength cs)
        = (cs.drop (numberLength cs)).filter (!isUnseen ·) := by
  cases cs with
  | nil => exact ⟨rfl, rfl⟩
  | cons c cs =>
    cases htens : digit? c with
    | none =>
      have hlength : numberLength (c :: cs) = 0 := by simp [numberLength, number?, htens]
      rw [hlength] at h ⊢
      rw [filter_cons_seen (h c rfl)]
      refine ⟨?_, (filter_cons_seen (h c rfl) cs).symm⟩
      simp only [number?, htens]
    | some tens =>
      rw [filter_cons_seen (isUnseen_of_digit htens)]
      cases cs with
      | nil =>
        have hlength : numberLength [c] = 1 := by simp [numberLength, number?, htens]
        rw [hlength]
        exact ⟨rfl, rfl⟩
      | cons d cs =>
        have hd : isUnseen d = false := by
          cases hunits : digit? d with
          | some units => exact isUnseen_of_digit hunits
          | none =>
            have hlength : numberLength (c :: d :: cs) = 1 := by
              simp [numberLength, number?, htens, hunits]
            rw [hlength] at h
            exact h d rfl
        rw [filter_cons_seen hd]
        refine ⟨by simp only [number?, List.head?_cons], ?_⟩
        cases hunits : digit? d with
        | some units =>
          have hlength : numberLength (c :: d :: cs) = 2 := by
            simp [numberLength, number?, htens, hunits]
          rw [hlength]
          rfl
        | none =>
          have hlength : numberLength (c :: d :: cs) = 1 := by
            simp [numberLength, number?, htens, hunits]
          rw [hlength]
          exact (filter_cons_seen hd cs).symm

namespace ColorCode

variable {fg n : Nat} {rest : List Char}

theorem drop_of_comma (hrest : cs.drop n = ',' :: rest) (k : Nat) :
    cs.drop (n + 1 + k) = rest.drop k := by
  rw [← List.drop_drop, ← List.drop_drop, hrest]
  rfl

/-- A colour code is read alike without unseen characters, unless one of them stands right behind it. -/
theorem scan_filter (h : ∀ c ∈ (cs.drop (scan cs).length).head?, isUnseen c = false) :
    scan (cs.filter (!isUnseen ·)) = scan cs ∧
      (cs.filter (!isUnseen ·)).drop (scan cs).length
        = (cs.drop (scan cs).length).filter (!isUnseen ·) := by
  cases hnumber : number? cs with
  | none =>
    have hlength : numberLength cs = 0 := by rw [numberLength, hnumber]; rfl
    rw [scan_of_none hnumber] at h ⊢
    have hfirst : ∀ c ∈ (cs.drop (numberLength cs)).head?, isUnseen c = false := by
      rw [hlength]
      exact h
    obtain ⟨hsame, -⟩ := number?_filter hfirst
    exact ⟨scan_of_none (hsame.trans hnumber), rfl⟩
  | some vn =>
    obtain ⟨fg, n⟩ := vn
    have hlength : numberLength cs = n := by rw [numberLength, hnumber]; rfl
    by_cases hcomma : ∃ rest, cs.drop n = ',' :: rest
    · obtain ⟨rest, hrest⟩ := hcomma
      have hseen : isUnseen ',' = false := by decide
      have hfirst : ∀ c ∈ (cs.drop (numberLength cs)).head?, isUnseen c = false := by
        rw [hlength, hrest]
        rintro c hc
        obtain rfl : ',' = c := Option.some.inj hc
        exact hseen
      obtain ⟨hsame, hdrop⟩ := number?_filter hfirst
      rw [hlength, hrest, filter_cons_seen hseen] at hdrop
      rw [scan_of_comma hnumber hrest, drop_of_comma hrest] at h
      obtain ⟨hsecond, hend⟩ := number?_filter h
      rw [scan_of_comma hnumber hrest, scan_of_comma (hsame.trans hnumber) hdrop, drop_of_comma hrest,
        drop_of_comma hdrop, hend, hsecond, numberLength, hsecond, ← numberLength]
      exact ⟨rfl, rfl⟩
    · have hno (rest : List Char) : cs.drop n ≠ ',' :: rest := fun hrest => hcomma ⟨rest, hrest⟩
      rw [scan_of_no_comma hnumber hno] at h ⊢
      rw [← hlength] at h
      obtain ⟨hsame, hdrop⟩ := number?_filter h
      rw [hlength] at h hdrop
      refine ⟨scan_of_no_comma (hsame.trans hnumber) fun rest hrest => ?_, hdrop⟩
      rw [hdrop] at hrest
      -- What stands behind the number is seen, so leaving characters out brings no comma there.
      cases hbehind : cs.drop n with
      | nil =>
        rw [hbehind] at hrest
        cases hrest
      | cons d tail =>
        have hd : isUnseen d = false := h d (by rw [hbehind]; rfl)
        rw [hbehind, filter_cons_seen hd] at hrest
        exact hno tail (by rw [hbehind, (List.cons.inj hrest).1])

end ColorCode

/-! ### Tokens without them -/

/-- A text begins with an unseen character only if its tokens do. -/
theorem head?_seen (h : ∀ t ∈ (tokens cs).head?, t.isUnseen = false) :
    ∀ c ∈ cs.head?, isUnseen c = false := by
  intro c hc
  cases cs with
  | nil => cases hc
  | cons d cs =>
    obtain rfl : d = c := Option.some.inj hc
    cases hmark : Mark.ofChar? d with
    | some mark => exact isUnseen_of_mark (by rw [hmark]; exact Option.some_ne_none _)
    | none => exact h (.glyph d) (by rw [tokens, hmark]; rfl)

/-- Leaving out unseen characters leaves out their tokens, if none stands right behind a colour code. -/
theorem tokens_filter (h : (tokens cs).IsChain Parted) :
    tokens (cs.filter (!isUnseen ·)) = (tokens cs).filter (!·.isUnseen) := by
  induction cs using tokens.induct with
  | case1 => simp
  | case7 c cs hc ih =>
    have hmark : isUnseen c = false := isUnseen_of_mark (by rw [hc]; exact Option.some_ne_none _)
    rw [tokens, hc] at h
    dsimp only at h
    have hbehind : ∀ t ∈ (tokens (cs.drop (ColorCode.scan cs).length)).head?, t.isUnseen = false := by
      intro t ht
      obtain ⟨ts, hts⟩ := List.head?_eq_some_iff.1 ht
      rw [hts] at h
      exact (List.isChain_cons_cons.1 h).1 rfl
    obtain ⟨hscan, hdrop⟩ := ColorCode.scan_filter (head?_seen hbehind)
    rw [filter_cons_seen hmark, tokens, hc]
    dsimp only
    rw [hscan, hdrop, ih h.of_cons, tokens, hc]
    rfl
  | case8 c cs hc ih =>
    rw [tokens, hc] at h
    dsimp only at h
    rw [tokens, hc, List.filter_cons, List.filter_cons, ← ih h.of_cons, Token.isUnseen]
    split
    · rw [tokens, hc]
    · rfl
  | case2 c cs hc ih | case3 c cs hc ih | case4 c cs hc ih | case5 c cs hc ih | case6 c cs hc ih =>
    have hmark : isUnseen c = false := isUnseen_of_mark (by rw [hc]; exact Option.some_ne_none _)
    rw [tokens, hc] at h
    dsimp only at h
    rw [filter_cons_seen hmark, tokens, hc]
    dsimp only
    rw [ih h.of_cons, tokens, hc]
    rfl

/-- A seen character of a text is poured as a new line or as a glyph that takes a column. -/
theorem columns_of_seen (hmem : .glyph c ∈ (tokens cs).map Token.even)
    (hc : isUnseen c = false) : c = '\n' ∨ Text.columns c ≠ 0 := by
  obtain ⟨t, ht, heven⟩ := List.mem_map.1 hmem
  cases t with
  | toggle | plain | color => cases heven
  | glyph d =>
    obtain rfl : evenSpace d = c := Token.glyph.inj heven
    have hmark : Mark.ofChar? (evenSpace d) = none := by
      rw [ofChar?_evenSpace]
      exact (of_mem_shown (List.mem_filterMap.2 ⟨_, ht, rfl⟩)).2
    have hspace : evenSpace d ∉ ['\t', '\x0c', '\x0b'] := by
      unfold evenSpace
      split
      · decide
      · rename_i hd
        simpa [or_comm, or_assoc, or_left_comm] using hd
    by_contra! hnot
    refine Bool.noConfusion (hc.symm.trans (isUnseen_iff.2 ⟨hnot.2, hmark, ?_⟩))
    rw [List.mem_cons, not_or]
    exact ⟨hnot.1, hspace⟩

end Markup

/-! ### Rows without them -/

/-- An unseen character takes no column of a word. -/
theorem Flow.wordColumns_filter (ts : List Token) :
    Flow.wordColumns (ts.filter (!·.isUnseen)) = Flow.wordColumns ts := by
  induction ts with
  | nil => rfl
  | cons t ts ih =>
    cases t with
    | toggle | plain | color => exact ih
    | glyph c =>
      rw [List.filter_cons, Token.isUnseen]
      split
      · simp only [Flow.wordColumns, ih]
      · rename_i hc
        obtain ⟨hcolumns, -, hspace⟩ := isUnseen_iff.1 (by simpa using hc)
        have hword : ¬(c = ' ' ∨ c = '\n') := by
          rintro (rfl | rfl)
          · exact absurd hcolumns (by decide)
          · exact hspace List.mem_cons_self
        rw [ih, Flow.wordColumns, if_neg hword, hcolumns, Nat.zero_add]

namespace Sheet

variable {m : Measure} {s : Sheet} {c : Char}

/-- Of what follows a token, if anything does, only the columns of its first word have a say. -/
theorem step_congr {rest rest' : List Token} (hword : Flow.wordColumns rest' = Flow.wordColumns rest)
    (hrest : rest ≠ []) (hrest' : rest' ≠ []) (t : Token) (s : Sheet) :
    s.step m t rest' = s.step m t rest := by
  cases t with
  | toggle | plain | color => rfl
  | glyph c =>
    have hneeded : Flow.needed c rest' = Flow.needed c rest := by
      rw [Flow.needed, Flow.needed, hword]
    have hplace : place m c rest' s.line.length = place m c rest s.line.length := by
      rw [place, place, hneeded]
    have hturn : s.turn m c rest' = s.turn m c rest := by
      rw [turn, turn, carry, carry, List.isEmpty_eq_false_iff.2 hrest, List.isEmpty_eq_false_iff.2 hrest']
    rw [step, step, takeGlyph, takeGlyph, hplace, hturn]

/-- An unseen character changes nothing where a character of no column fits the row. -/
theorem step_unseen (hc : isUnseen c = true)
    (hroom : s.line.length ≤ m.limit ∨ Text.isControl c = true) (rest : List Token) :
    s.step m (.glyph c) rest = s := by
  obtain ⟨hcolumns, -, hspace⟩ := isUnseen_iff.1 hc
  have hneeded : Flow.needed c rest = 0 := by
    rw [Flow.needed, if_neg, hcolumns]
    rintro rfl
    exact absurd hcolumns (by decide)
  rw [step, takeGlyph]
  rcases place_cases m c rest s.line.length with
    ⟨rfl, -⟩ | ⟨-, -, hplace⟩ | ⟨-, -, -, hplace⟩ | ⟨-, hcontrol, hfull, -⟩
  · exact absurd List.mem_cons_self hspace
  · rw [hplace]
  · rw [hplace]
    exact if_pos hcolumns
  · rcases hroom with hroom | h
    · exact absurd (hneeded ▸ hroom) hfull
    · exact absurd h hcontrol

/-- **Only a wide glyph behind the deepest indent fills a row to its edge.**  A character that takes a
column, or ends the row, leaves the row in progress filled up to the limit at most, unless it is wide and
there is no room for it behind the indent. -/
theorem column_step (hm : m.indent < m.limit) (hc : c = '\n' ∨ Text.columns c ≠ 0) (rest : List Token)
    (s : Sheet) :
    (s.step m (.glyph c) rest).line.length ≤ m.limit ∨
      Text.columns c = 2 ∧ m.limit < m.indent + 2 := by
  have hblanks : (s.endRow.addBlanks m.indent).line.length = m.indent := by
    rw [length_addBlanks, endRow, List.length_nil, Nat.zero_add]
  have hturn : (s.turn m c rest).line.length ≤ m.limit ∨
      Text.columns c = 2 ∧ m.limit < m.indent + 2 := by
    unfold turn
    split
    · exact Or.inl (Nat.zero_le _)
    unfold carry
    split
    · split
      · exact Or.inl (Nat.zero_le _)
      · omega
    split
    · omega
    · have htwo := Text.columns_le_two c
      rw [length_addGlyph]
      omega
  rw [step, takeGlyph]
  rcases place_cases m c rest s.line.length with
    ⟨-, hplace⟩ | ⟨hnewline, hcontrol, -⟩ | ⟨-, -, hroom, hplace⟩ | ⟨-, -, -, hplace⟩
  · rw [hplace]
    exact hturn
  · exact absurd (Text.columns_of_isControl hcontrol) (hc.resolve_left hnewline)
  · have hneeded := columns_le_needed c rest
    rw [hplace]
    refine Or.inl ?_
    show (s.addGlyph c).line.length ≤ m.limit
    rw [length_addGlyph]
    omega
  · rw [hplace]
    exact hturn

/-- **Unseen characters have no say in how tokens are poured**, where none of them is asked for behind a
wide glyph that fills its row to the edge. -/
theorem run_filter (hm : m.indent < m.limit) {ts : List Token}
    (hts : ∀ c, .glyph c ∈ ts → isUnseen c = false → c = '\n' ∨ Text.columns c ≠ 0) {wide : Bool}
    (hbehind : m.indent + 2 ≤ m.limit ∨ unseenBehindWide wide ts = false) (hopen : s.isFull m = false)
    (hcolumn : s.line.length ≤ m.limit ∨ wide = true ∧ m.limit < m.indent + 2) :
    s.run m (ts.filter (!·.isUnseen) ++ [.glyph '\n']) = s.run m (ts ++ [.glyph '\n']) := by
  induction ts generalizing wide s with
  | nil => rfl
  | cons t ts ih =>
    have hrest := fun c hc => hts c (List.mem_cons_of_mem _ hc)
    have hword : Flow.wordColumns (ts.filter (!·.isUnseen) ++ [.glyph '\n'])
        = Flow.wordColumns (ts ++ [.glyph '\n']) := by
      rw [← Flow.wordColumns_filter (ts ++ _), List.filter_append]
      rfl
    have hstep : s.step m t (ts.filter (!·.isUnseen) ++ [.glyph '\n'])
        = s.step m t (ts ++ [.glyph '\n']) :=
      step_congr hword (by simp) (by simp) t s
    cases t with
    | toggle | plain | color =>
      rw [List.filter_cons_of_pos rfl, List.cons_append, List.cons_append, run, run, hstep]
      split
      · rfl
      · exact ih hrest hbehind hopen hcolumn
    | glyph c =>
      cases hc : isUnseen c with
      | false =>
        rw [List.filter_cons_of_pos (by rw [Token.isUnseen, hc]; rfl), List.cons_append, List.cons_append,
          run, run, hstep]
        rw [unseenBehindWide, hc, if_neg Bool.false_ne_true] at hbehind
        split
        · rfl
        · rename_i hfull
          refine ih hrest hbehind (by simpa using hfull) ?_
          rw [decide_eq_true_eq]
          exact column_step hm (hts c List.mem_cons_self hc) _ s
      | true =>
        rw [unseenBehindWide, if_pos hc, Bool.or_eq_false_iff] at hbehind
        have hroom : s.line.length ≤ m.limit ∨ Text.isControl c = true := by
          rcases hcolumn with hfits | ⟨hwide, htight⟩
          · exact Or.inl hfits
          obtain ⟨hcontrol, -⟩ := hbehind.resolve_left (by omega)
          rw [hwide] at hcontrol
          exact Or.inr (by simpa using hcontrol)
        rw [List.filter_cons_of_neg (by rw [Token.isUnseen, hc]; exact Bool.noConfusion),
          List.cons_append, run, step_unseen hc hroom, hopen, if_neg Bool.false_ne_true]
        exact ih hrest (hbehind.imp_right And.right) hopen hcolumn

variable (p : Color.Palette) {text : String}

/-- **A text is poured as if its unseen characters were not in it**, if none of them stands behind a colour
code, and none behind a wide glyph where the indent leaves no room for one. -/
theorem ofText_seen (hcodes : (tokens text.toList).IsChain Parted) {width : Nat} (hw : 2 ≤ width)
    (indent cap : Nat)
    (hbehind : indent + 2 < width ∨ unseenBehindWide false (tokens text.toList) = false) :
    ofText p (seen text) width indent cap = ofText p text width indent cap := by
  have htokens : (tokens ((seen text).toList)).map Token.even
      = ((tokens text.toList).map Token.even).filter (!·.isUnseen) := by
    rw [seen, String.toList_ofList, tokens_filter hcodes, List.filter_map]
    refine congrArg _ (List.filter_congr fun t _ => ?_)
    rw [Function.comp_apply, isUnseen_even]
  rw [ofText, ofText, pouredTokens_wrapped, pouredTokens_wrapped, tokens_evenSpace, tokens_evenSpace,
    htokens]
  have hlimit : (Measure.of width indent cap).indent < (Measure.of width indent cap).limit := by
    simp only [Measure.of]
    omega
  have hroom : (Measure.of width indent cap).indent + 2 ≤ (Measure.of width indent cap).limit ∨
      unseenBehindWide false ((tokens text.toList).map Token.even) = false := by
    rw [unseenBehindWide_even]
    refine hbehind.imp_left fun hdeep => ?_
    simp only [Measure.of]
    omega
  exact run_filter hlimit (fun c => columns_of_seen) hroom (isFull_blank _ _) (Or.inl (Nat.zero_le _))

end Sheet

/-! ### A whole text -/

namespace Grid

variable {g : Grid}

/-- **Characters that take no column have no say in the layout.**  A text that is poured onto a blank grid
that scrolls leaves the same cells without its unseen characters and takes the same rows, if something is
left of it and no colour code has one of them behind it; and if no wide glyph has one of them behind it, or
the indent leaves room for a wide glyph and a column. -/
theorem pour_seen (hs : g.scrolls = true) (hblank : g.erase = g) (p : Color.Palette) {text : String}
    (hkept : seen text ≠ "") (hcodes : (tokens text.toList).IsChain Parted) (indent cap : Nat)
    (hbehind : indent + 2 < g.width ∨ unseenBehindWide false (tokens text.toList) = false) :
    g.pour p (seen text) indent cap = g.pour p text indent cap ∧
      rowsTaken (seen text) indent g.width = rowsTaken text indent g.width := by
  have hnonempty : text ≠ "" := by
    rintro rfl
    exact hkept rfl
  by_cases hw : 2 ≤ g.width
  · have hsheet (cap : Nat) := Sheet.ofText_seen p hcodes hw indent cap hbehind
    refine ⟨?_, by rw [rowsTaken_eq p hkept indent hw, rowsTaken_eq p hnonempty indent hw, hsheet]⟩
    rcases Nat.eq_zero_or_pos g.height with hh | hh
    · simp only [pour, hh, decide_true, Bool.or_true, if_true]
    · rw [pour_of_erased hs hw hh hblank p hkept, pour_of_erased hs hw hh hblank p hnonempty, printed,
        printed, hsheet]
  · have hsmall : g.width < 2 := Nat.lt_of_not_le hw
    simp only [rowsTaken, pour, new, hsmall, decide_true, Bool.or_true, Bool.true_or, if_true, and_self]

/-- Accents behind a narrow and a wide glyph, and a joiner at the end of a row. -/
theorem pour_seen_behind_indent :
    let g := new 8 4 true
    let text := "\x02ab\x02 e\u0301 日\u0301本\u200d cd"
    g.erase = g ∧ seen text = "\x02ab\x02 e 日本 cd" ∧ (tokens text.toList).IsChain Parted ∧
      2 + 2 < g.width ∧
      (g.pour .off text 2 0).grid.lines = ["ab e".toList, "  日本".toList, "  cd".toList, []] ∧
      rowsTaken text 2 g.width = 3 := by
  intro g text
  have hseen : seen text = "\x02ab\x02 e 日本 cd" := by decide +kernel
  have hcodes : (tokens text.toList).IsChain Parted := by decide +kernel
  obtain ⟨hpour, hrows⟩ :=
    pour_seen (g := g) rfl rfl .off (by rw [hseen]; decide) hcodes 2 0 (Or.inl (by decide))
  rw [hseen] at hpour hrows
  refine ⟨rfl, hseen, hcodes, by decide, ?_, ?_⟩
  · rw [← hpour]
    decide +kernel
  · rw [← hrows]
    decide +kernel

/-- An accent behind a wide glyph costs a row where the indent leaves no room for the glyph. -/
theorem pour_seen_behind_wide :
    let g := new 10 6 true
    let text := "[12:05] 日\u0301本"
    seen text = "[12:05] 日本" ∧ (tokens text.toList).IsChain Parted ∧
      (g.pour .off (seen text) 8 0).grid.lines
        = ["[12:05]".toList, [], "        日".toList, "        本".toList, [], []] ∧
      (g.pour .off text 8 0).grid.lines
        = ["[12:05]".toList, [], "        日".toList, [], "        本".toList, []] ∧
      rowsTaken (seen text) 8 g.width = 4 ∧ rowsTaken text 8 g.width = 5 := by
  decide +kernel

end Grid
end ChatConsole
