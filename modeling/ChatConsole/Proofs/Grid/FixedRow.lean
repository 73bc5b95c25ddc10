/-
# What a row shows of a text that is longer

A grid that does not scroll keeps a text on its row.  Each character is put if there is room for it when
its turn comes, and otherwise passed over (`addText_page_fixed`).  So what is to be seen is the longest
beginning that fits of the characters with columns, but for one case: a wide character may leave the last
column to the first narrow one that comes later (`shownIn_admitted`).
-/

import ChatConsole.Proofs.Grid.Page

namespace ChatConsole

namespace Text

variable {f : Char → Nat} {room : Nat} {c : Char} {cs : List Char}

/-! ### The characters that are put -/

/-- The characters of a text that are put where so many columns are left: those with columns for which
there is room when their turn comes. -/
def admitted (f : Char → Nat) : Nat → List Char → List Char
  | _, [] => []
  | room, c :: cs =>
    if f c = 0 ∨ room < f c then admitted f room cs else c :: admitted f (room - f c) cs

theorem admitted_cons_of_not (h : f c = 0 ∨ room < f c) (cs : List Char) :
    admitted f room (c :: cs) = admitted f room cs :=
  if_pos h

theorem admitted_cons_of_room (hc : f c ≠ 0) (h : f c ≤ room) (cs : List Char) :
    admitted f room (c :: cs) = c :: admitted f (room - f c) cs :=
  if_neg (by omega)

theorem admitted_cons_of_one (hc : f c = 1) (room : Nat) (cs : List Char) :
    admitted f (room + 1) (c :: cs) = c :: admitted f room cs := by
  rw [admitted_cons_of_room (by omega) (by omega), hc, Nat.add_sub_cancel]

theorem admitted_zero (f : Char → Nat) (cs : List Char) : admitted f 0 cs = [] := by
  induction cs with
  | nil => rfl
  | cons c cs ih => rw [admitted_cons_of_not (by omega), ih]

/-! ### What they are of the text -/

/-- The columns of a text whose characters have so many each. -/
def total (f : Char → Nat) (cs : List Char) : Nat :=
  cs.foldr (f · + ·) 0

theorem total_nil (f : Char → Nat) : total f [] = 0 := rfl

theorem total_cons (f : Char → Nat) (c : Char) (cs : List Char) :
    total f (c :: cs) = f c + total f cs := rfl

/-- What is shown, in so many columns, of characters that have columns. -/
inductive ShownIn (f : Char → Nat) (room : Nat) (visible : List Char) : List Char → Prop where
  /-- The longest beginning that fits. -/
  | beginning {front back : List Char} (split : visible = front ++ back)
      (fits : total f front ≤ room) (next : ∀ c ∈ back.head?, room < total f front + f c)
      (last : total f front + 1 = room → ∀ c ∈ back, f c ≠ 1) : ShownIn f room visible front
  /-- Behind the longest beginning that fits, in the last column, the first narrow character after some
  wide ones that are passed over. -/
  | straggler {front passed later : List Char} {c : Char}
      (split : visible = front ++ passed ++ c :: later) (column : total f front + 1 = room)
      (some_passed : passed ≠ []) (wide : ∀ d ∈ passed, f d = 2) (narrow : f c = 1) :
      ShownIn f room visible (front ++ [c])

/-- A character with room goes before what is shown of the others. -/
theorem ShownIn.cons {visible shown : List Char} (hroom : f c ≤ room)
    (h : ShownIn f (room - f c) visible shown) : ShownIn f room (c :: visible) (c :: shown) := by
  cases h with
  | beginning hsplit hfits hnext hlast =>
    refine .beginning (congrArg (c :: ·) hsplit) ?_ ?_ ?_
    all_goals rw [total_cons]
    · omega
    · intro d hd
      have hover := hnext d hd
      omega
    · exact fun hcolumn => hlast (by omega)
  | @straggler front passed later d hsplit hcolumn hsome hwide hnarrow =>
    have hcolumn' : total f (c :: front) + 1 = room := by
      rw [total_cons]
      omega
    exact .straggler (congrArg (c :: ·) hsplit) hcolumn' hsome hwide hnarrow

/-- In a single column there is room for the first narrow character. -/
theorem admitted_one (hf : ∀ c, f c ≤ 2) (cs : List Char) :
    (∀ c ∈ cs.filter (f · ≠ 0), f c = 2) ∧ admitted f 1 cs = [] ∨
      ∃ passed c later, cs.filter (f · ≠ 0) = passed ++ c :: later ∧ (∀ d ∈ passed, f d = 2) ∧
        f c = 1 ∧ admitted f 1 cs = [c] := by
  induction cs with
  | nil => exact Or.inl ⟨fun _ hc => absurd hc List.not_mem_nil, rfl⟩
  | cons c cs ih =>
    have hc := hf c
    by_cases hzero : f c = 0
    · rw [List.filter_cons_of_neg (by simpa using hzero), admitted_cons_of_not (Or.inl hzero)]
      exact ih
    rw [List.filter_cons_of_pos (by simpa using hzero)]
    by_cases hone : f c = 1
    · refine Or.inr ⟨[], c, cs.filter (f · ≠ 0), rfl, fun _ hd => absurd hd List.not_mem_nil, hone, ?_⟩
      rw [admitted_cons_of_room hzero (Nat.le_of_eq hone), hone, admitted_zero]
    · have htwo : f c = 2 := by omega
      rw [admitted_cons_of_not (Or.inr (by omega))]
      rcases ih with ⟨hwide, hnone⟩ | ⟨passed, d, later, hsplit, hwide, hd, hput⟩
      · exact Or.inl ⟨List.forall_mem_cons.2 ⟨htwo, hwide⟩, hnone⟩
      · exact Or.inr ⟨c :: passed, d, later, congrArg (c :: ·) hsplit,
          List.forall_mem_cons.2 ⟨htwo, hwide⟩, hd, hput⟩

/-- **Of a text is put the longest beginning that fits**, and where a wide character leaves the last
column, the first narrow one that comes later. -/
theorem shownIn_admitted (hf : ∀ c, f c ≤ 2) (room : Nat) (cs : List Char) :
    ShownIn f room (cs.filter (f · ≠ 0)) (admitted f room cs) := by
  induction cs generalizing room with
  | nil =>
    refine .beginning (List.append_nil _).symm (Nat.zero_le _) ?_ ?_
    · exact fun c hc => absurd hc (Option.not_mem_none c)
    · exact fun _ _ hc => absurd hc List.not_mem_nil
  | cons c cs ih =>
    by_cases hzero : f c = 0
    · rw [List.filter_cons_of_neg (by simpa using hzero), admitted_cons_of_not (Or.inl hzero)]
      exact ih room
    rw [List.filter_cons_of_pos (by simpa using hzero)]
    by_cases hroom : f c ≤ room
    · rw [admitted_cons_of_room hzero hroom]
      exact (ih (room - f c)).cons hroom
    -- The first character that has no room: nothing fits behind it, or what takes the last column.
    rw [admitted_cons_of_not (Or.inr (Nat.lt_of_not_le hroom))]
    have hc := hf c
    have hnext : ∀ d ∈ (c :: cs.filter (f · ≠ 0)).head?, room < total f [] + f d := by
      rintro d hd
      obtain rfl := Option.some.inj hd
      rw [total_nil, Nat.zero_add]
      exact Nat.lt_of_not_le hroom
    rcases (by omega : room = 0 ∨ room = 1 ∧ f c = 2) with rfl | ⟨rfl, htwo⟩
    · rw [admitted_zero]
      refine .beginning (List.nil_append _).symm (Nat.zero_le _) hnext ?_
      exact fun hcolumn => absurd hcolumn (Nat.succ_ne_zero _)
    rcases admitted_one hf cs with ⟨hwide, hnone⟩ | ⟨passed, d, later, hsplit, hwide, hd, hput⟩
    · rw [hnone]
      have hall : ∀ d ∈ c :: cs.filter (f · ≠ 0), f d = 2 := List.forall_mem_cons.2 ⟨htwo, hwide⟩
      refine .beginning (List.nil_append _).symm (Nat.zero_le _) hnext fun _ d hd hone => ?_
      have hdtwo := hall d hd
      omega
    · rw [hput]
      have hsplit' : c :: cs.filter (f · ≠ 0) = [] ++ (c :: passed) ++ d :: later :=
        congrArg (c :: ·) hsplit
      exact .straggler hsplit' rfl (List.cons_ne_nil _ _) (List.forall_mem_cons.2 ⟨htwo, hwide⟩) hd

end Text

/-! ### The row -/

/-- The cells of glyphs side by side. -/
def Cell.ofGlyphs (cs : List Char) (style : Style) : List Cell :=
  cs.flatMap (ofGlyph · style)

/-- Characters that have been put take no more cells than there is room. -/
theorem Cell.length_ofGlyphs_admitted_le (room : Nat) (cs : List Char) (style : Style) :
    (ofGlyphs (Text.admitted Text.columns room cs) style).length ≤ room := by
  induction cs generalizing room with
  | nil => exact Nat.zero_le _
  | cons c cs ih =>
    by_cases h : Text.columns c = 0 ∨ room < Text.columns c
    · rw [Text.admitted_cons_of_not h]
      exact ih room
    · have hc : Text.columns c ≠ 0 := fun hzero => h (Or.inl hzero)
      have hrest := ih (room - Text.columns c)
      rw [Text.admitted_cons_of_room hc (by omega), ofGlyphs, List.flatMap_cons, List.length_append,
        length_ofGlyph hc]
      unfold ofGlyphs at hrest
      omega

namespace Grid

variable {g : Grid} {ended : List (List Cell)} {left : List Cell} {c : Char} {style : Style}

/-- A glyph without columns, or without room on a row that does not go on, is refused. -/
theorem put?_page_of_not_room (hs : g.scrolls = false)
    (h : Text.columns c = 0 ∨ g.width - left.length < Text.columns c) (hleft : left.length ≤ g.width) :
    (g.page ended left []).put? c style = none := by
  unfold put?
  dsimp only
  rw [page_width, page_col, page_scrolls, hs]
  split
  · rfl
  · rename_i htakes
    have hfull : ¬ left.length + Text.columns c ≤ g.width := by omega
    rw [if_neg hfull, if_neg Bool.false_ne_true]

/-- **A row that does not go on takes of a text what has room**, character by character. -/
theorem addText_page_fixed (hs : g.scrolls = false) (hh : 0 < g.height) (hleft : left.length ≤ g.width)
    (cs : List Char) :
    (g.page ended left []).addText cs
      = g.page ended (left ++ Cell.ofGlyphs (Text.admitted Text.columns (g.width - left.length) cs) g.style)
          [] := by
  induction cs generalizing left with
  | nil => rw [Text.admitted, Cell.ofGlyphs, List.flatMap_nil, List.append_nil]; rfl
  | cons c cs ih =>
    have hcons : (g.page ended left []).addText (c :: cs)
        = (((g.page ended left []).put? c g.style).getD (g.page ended left [])).addText cs := rfl
    by_cases hroom : Text.columns c = 0 ∨ g.width - left.length < Text.columns c
    · rw [hcons, put?_page_of_not_room hs hroom hleft, Text.admitted_cons_of_not hroom]
      exact ih hleft
    · have hc : Text.columns c ≠ 0 := fun hzero => hroom (Or.inl hzero)
      have hlength : (left ++ Cell.ofGlyph c g.style).length = left.length + Text.columns c := by
        rw [List.length_append, Cell.length_ofGlyph hc]
      rw [hcons, put?_page hh hc (by omega), List.drop_nil, Option.getD_some, ih (by omega), hlength,
        Text.admitted_cons_of_room hc (by omega), Nat.sub_sub, Cell.ofGlyphs, Cell.ofGlyphs,
        List.flatMap_cons, List.append_assoc]

/-- Where all rows above the cursor have been written and the others are blank, a text makes one row more. -/
theorem addText_below (hs : g.scrolls = false) (hrow : g.row = ended.length) (hcol : g.col = 0)
    (hroom : ended.length < g.height)
    (hrows : g.rows = ended ++ List.replicate (g.height - ended.length) g.blankRow) (cs : List Char) :
    (g.addText cs).style = g.style ∧
      (g.addText cs).rows = ended ++
        g.fill (Cell.ofGlyphs (Text.admitted Text.columns g.width cs) g.style) ::
          List.replicate (g.height - (ended.length + 1)) g.blankRow := by
  have hpage : g = g.page ended [] [] := by
    have hfresh := eq_page (g := g) (hrow ▸ hroom) hcol ?_
    · rw [hrow, hrows, List.take_left] at hfresh
      exact hfresh
    · rw [hrow, hrows, List.drop_left]
  have htext : g.addText cs
      = g.page ended ([] ++ Cell.ofGlyphs (Text.admitted Text.columns g.width cs) g.style) [] := by
    have hpoured : (g.page ended [] []).addText cs = _ :=
      addText_page_fixed hs (Nat.zero_lt_of_lt hroom) (Nat.zero_le _) cs
    rwa [← hpage] at hpoured
  have habove : ended.length + 1 - g.height = 0 := by omega
  have hbelow : g.height - 1 - ended.length = g.height - (ended.length + 1) := by omega
  rw [htext, page, habove, hbelow, List.nil_append, List.append_nil, List.drop_zero]
  exact ⟨rfl, rfl⟩

/-- On a blank grid of one row a text leaves what has room, and blanks behind it. -/
theorem rows_addText_resize (hs : g.scrolls = false) (width : Nat) (cs : List Char) :
    ((g.resize width 1).addText cs).rows
      = [(Cell.ofGlyphs (Text.admitted Text.columns width cs) g.style).takeD width g.blank] :=
  (addText_below (g := g.resize width 1) hs List.length_nil.symm rfl Nat.one_pos rfl cs).2

end Grid
end ChatConsole
