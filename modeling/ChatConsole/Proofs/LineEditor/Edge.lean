/-
# The edge of the row

Of a text that is longer than its row a beginning is drawn (`firstFitting`).  If the first character that
does not fit is wide, one column may be left, and it holds a blank or a narrow character that comes later
in the text; these single cells are all there is behind what fits (`Remains`).  `Tail` says that a row
shows a text from the cursor on in this way: drawing the text makes it so (`tail_putWhile`), moving the
cursor over a character divides the row elsewhere, and inserting one pushes the last ones off the edge
(`Tail.squeeze`).
-/

import ChatConsole.Proofs.Grid.Whole
import ChatConsole.Proofs.LineEditor.Row

namespace ChatConsole
namespace LineEditor

open Cell (Whole Slim)

variable {cols room : Nat} {left rest : List Cell} {c : Char} {cs : List Char} {g : Grid}

/-! ### What fits -/

theorem columns_le_two (c : Char) : columns c ≤ 2 := by
  rw [columns_eq]
  exact Text.columns_le_two _

/-- The longest beginning of a text that fits some columns. -/
def firstFitting (room : Nat) : List Char → List Char
  | [] => []
  | c :: cs => if columns c ≤ room then c :: firstFitting (room - columns c) cs else []

theorem firstFitting_cons_of_le (h : columns c ≤ room) (cs : List Char) :
    firstFitting room (c :: cs) = c :: firstFitting (room - columns c) cs :=
  if_pos h

theorem firstFitting_cons_of_lt (h : room < columns c) (cs : List Char) :
    firstFitting room (c :: cs) = [] :=
  if_neg (Nat.not_le.2 h)

theorem columnsOf_firstFitting (room : Nat) (cs : List Char) :
    columnsOf (firstFitting room cs) ≤ room := by
  induction cs generalizing room with
  | nil => exact Nat.zero_le _
  | cons c cs ih =>
    by_cases hc : columns c ≤ room
    · have hrest := ih (room - columns c)
      rw [firstFitting_cons_of_le hc, columnsOf_cons]
      omega
    · rw [firstFitting_cons_of_lt (Nat.lt_of_not_le hc)]
      exact Nat.zero_le _

/-- What does not fit. -/
def overflow (room : Nat) : List Char → List Char
  | [] => []
  | c :: cs => if columns c ≤ room then overflow (room - columns c) cs else c :: cs

theorem overflow_cons_of_le (h : columns c ≤ room) (cs : List Char) :
    overflow room (c :: cs) = overflow (room - columns c) cs :=
  if_pos h

theorem overflow_cons_of_lt (h : room < columns c) (cs : List Char) :
    overflow room (c :: cs) = c :: cs :=
  if_neg (Nat.not_le.2 h)

theorem overflow_subset (room : Nat) (cs : List Char) : overflow room cs ⊆ cs := by
  induction cs generalizing room with
  | nil => exact List.Subset.refl _
  | cons c cs ih =>
    by_cases hc : columns c ≤ room
    · rw [overflow_cons_of_le hc]
      exact List.Subset.trans (ih _) (List.subset_cons_self ..)
    · rw [overflow_cons_of_lt (Nat.lt_of_not_le hc)]
      exact List.Subset.refl _

/-- Without room nothing is to be seen. -/
theorem inkOf_firstFitting_zero (cs : List Char) : inkOf (firstFitting 0 cs) = [] := by
  refine List.eq_nil_of_length_eq_zero ?_
  rw [length_inkOf]
  exact Nat.le_zero.1 (columnsOf_firstFitting 0 cs)

/-! ### Whole cells -/

theorem whole_shown (c : Char) (style : Style) : Whole (Cell.shown c style) := by
  unfold Cell.shown
  split
  · exact .nil
  · rename_i hc
    exact Cell.whole_ofGlyph hc

theorem whole_ink (c : Char) : Whole (ink c) :=
  whole_shown ..

theorem whole_flatMap {f : Char → List Cell} (hf : ∀ c, Whole (f c)) (cs : List Char) :
    Whole (cs.flatMap f) := by
  induction cs with
  | nil => exact .nil
  | cons c cs ih =>
    rw [List.flatMap_cons]
    exact (hf c).append ih

theorem whole_inkOf (cs : List Char) : Whole (inkOf cs) :=
  whole_flatMap whole_ink cs

theorem whole_promptInk (cs : List Char) : Whole (promptInk cs) :=
  whole_flatMap (fun _ => whole_shown ..) cs

/-- The cell of a character that takes one column. -/
theorem slim_ink (hc : columns c = 1) : Slim (ink c) := by
  rw [columns_eq] at hc
  rw [ink, Cell.shown, if_neg (by omega), Cell.ofGlyph, hc]
  exact List.forall_mem_singleton.2 hc

/-! ### Behind what fits -/

/-- What may stand behind the part of a text that fits: single cells, and none if all that does not fit is
narrow. -/
structure Remains (room : Nat) (cs : List Char) (rest : List Cell) : Prop where
  slim : Slim rest
  eq_nil : Narrow (overflow room cs) → rest = []

theorem remains_nil (room : Nat) (cs : List Char) : Remains room cs [] :=
  ⟨Cell.slim_nil, fun _ => rfl⟩

theorem remains_cons_iff (h : columns c ≤ room) :
    Remains room (c :: cs) rest ↔ Remains (room - columns c) cs rest := by
  constructor
  · rintro ⟨hslim, hnil⟩
    rw [overflow_cons_of_le h] at hnil
    exact ⟨hslim, hnil⟩
  · rintro ⟨hslim, hnil⟩
    rw [← overflow_cons_of_le h] at hnil
    exact ⟨hslim, hnil⟩

/-- A wide character that does not fit leaves room for single cells. -/
theorem remains_of_wide (h : room < columns c) (hwide : 1 < columns c) (hrest : Slim rest) :
    Remains room (c :: cs) rest := by
  refine ⟨hrest, fun hnarrow => ?_⟩
  rw [overflow_cons_of_lt h] at hnarrow
  exact absurd (hnarrow c List.mem_cons_self) (Nat.not_le.2 hwide)

theorem Remains.eq_nil_of_narrow (h : Remains room cs rest) (hcs : Narrow cs) : rest = [] :=
  h.eq_nil fun c hc => hcs c (overflow_subset room cs hc)

/-- Of narrow characters just so much fits as there are columns. -/
theorem take_inkOf (hcs : Narrow cs) : (inkOf cs).take room = inkOf (firstFitting room cs) := by
  induction cs generalizing room with
  | nil => exact List.take_nil
  | cons c cs ih =>
    obtain ⟨hc, hrest⟩ := List.forall_mem_cons.1 hcs
    by_cases hfits : columns c ≤ room
    · have hink : (ink c).take room = ink c := by
        rw [List.take_of_length_le]
        rwa [length_ink]
      rw [firstFitting_cons_of_le hfits, inkOf_cons, inkOf_cons, List.take_append, hink, length_ink,
        ih hrest]
    · have hroom : room = 0 := by omega
      rw [firstFitting_cons_of_lt (Nat.lt_of_not_le hfits), hroom, List.take_zero, inkOf_nil]

/-! ### The row of a text from the cursor on -/

/-- The row has cells left of the cursor and shows a text from the cursor on, as far as it fits. -/
def Tail (cols : Nat) (left : List Cell) (cs : List Char) (g : Grid) : Prop :=
  ∃ rest, Remains (cols - left.length) cs rest ∧
    g = row cols left (inkOf (firstFitting (cols - left.length) cs) ++ rest)

theorem length_append_ink (left : List Cell) (c : Char) :
    (left ++ ink c).length = left.length + columns c := by
  rw [List.length_append, length_ink]

/-- The cells do not tell on which side of a character the cursor is. -/
theorem cells_step (hroom : left.length + columns c ≤ cols) (cs : List Char) (rest : List Cell) :
    left ++ ink c ++ (inkOf (firstFitting (cols - (left ++ ink c).length) cs) ++ rest)
      = left ++ (inkOf (firstFitting (cols - left.length) (c :: cs)) ++ rest) := by
  rw [firstFitting_cons_of_le (Nat.le_sub_of_add_le' hroom), length_append_ink, Nat.sub_sub, inkOf_cons]
  simp only [List.append_assoc]

theorem remains_step (hroom : left.length + columns c ≤ cols) :
    Remains (cols - left.length) (c :: cs) rest ↔ Remains (cols - (left ++ ink c).length) cs rest := by
  rw [remains_cons_iff (Nat.le_sub_of_add_le' hroom), length_append_ink, Nat.sub_sub]

theorem tail_nil (cols : Nat) (left : List Cell) : Tail cols left [] (row cols left []) :=
  ⟨[], remains_nil .., rfl⟩

/-- A narrow text may be thought of as going on beyond the edge. -/
theorem row_firstFitting (hleft : left.length ≤ cols) (hcs : Narrow cs) :
    row cols left (inkOf (firstFitting (cols - left.length) cs)) = row cols left (inkOf cs) := by
  have hsame : (Grid.new cols 1 false).fill (left ++ inkOf (firstFitting (cols - left.length) cs))
      = (Grid.new cols 1 false).fill (left ++ inkOf cs) := by
    rw [Grid.fill_append hleft, Grid.fill_append hleft, ← take_inkOf hcs]
    exact congrArg (left ++ ·) (Grid.takeD_take ..)
  simp only [row, Grid.page, hsame]

theorem tail_iff_of_narrow (hleft : left.length ≤ cols) (hcs : Narrow cs) :
    Tail cols left cs g ↔ g = row cols left (inkOf cs) := by
  rw [← row_firstFitting hleft hcs]
  constructor
  · rintro ⟨rest, hrest, rfl⟩
    rw [hrest.eq_nil_of_narrow hcs, List.append_nil]
  · intro h
    exact ⟨[], remains_nil .., by rw [List.append_nil, h]⟩

namespace Tail

theorem col_eq (h : Tail cols left cs g) : g.col = left.length := by
  obtain ⟨rest, -, rfl⟩ := h
  rfl

theorem erase_eq (h : Tail cols left cs g) : g.erase = row cols [] [] := by
  obtain ⟨rest, -, rfl⟩ := h
  exact erase_row

/-- At the end of the text there is nothing behind the cursor. -/
theorem eq_row (h : Tail cols left [] g) : g = row cols left [] := by
  obtain ⟨rest, hrest, rfl⟩ := h
  rw [hrest.eq_nil_of_narrow fun _ hc => absurd hc List.not_mem_nil]
  rfl

/-- The row is made of whole glyphs from edge to edge. -/
theorem spans (h : Tail cols left cs g) (hwhole : Whole left) (hleft : left.length ≤ cols) :
    g.Spans cols := by
  obtain ⟨rest, hrest, rfl⟩ := h
  refine ⟨rfl, ?_, hleft⟩
  have hfits := columnsOf_firstFitting (cols - left.length) cs
  rw [← length_inkOf] at hfits
  rw [rows_row, List.forall_mem_singleton, Grid.takeD_append _ _ _ _ hleft,
    Grid.takeD_append _ _ _ _ hfits]
  refine ⟨?_, hwhole.append ((whole_inkOf _).append (hrest.slim.takeD Text.columns_space _).whole)⟩
  simp only [List.length_append, List.takeD_length]
  omega

/-- The cursor goes left over a character. -/
theorem stepLeft (h : Tail cols (left ++ ink c) cs g) (hroom : left.length + columns c ≤ cols) :
    Tail cols left (c :: cs) (g.moveTo g.row left.length) := by
  obtain ⟨rest, hrest, rfl⟩ := h
  exact ⟨rest, (remains_step hroom).2 hrest,
    moveTo_row (cells_step hroom cs rest) (Nat.le_of_add_right_le hroom)⟩

/-- The cursor goes right over a character for which there is room. -/
theorem stepRight (h : Tail cols left (c :: cs) g) (hroom : left.length + columns c ≤ cols) :
    Tail cols (left ++ ink c) cs (g.moveTo g.row (left ++ ink c).length) := by
  obtain ⟨rest, hrest, rfl⟩ := h
  exact ⟨rest, (remains_step hroom).1 hrest,
    moveTo_row (cells_step hroom cs rest).symm (length_append_ink left c ▸ hroom)⟩

/-- A character with room is put at the end of the text. -/
theorem put (h : Tail cols left [] g) (hroom : left.length + columns c ≤ cols) :
    Tail cols (left ++ ink c) [] (put g c) := by
  rw [h.eq_row, put_row hroom, List.drop_nil]
  exact tail_nil ..

/-- The last character of the text is removed. -/
theorem delete (h : Tail cols left [c] g) (hroom : left.length + columns c ≤ cols) :
    Tail cols left [] (g.delete (columns c)) := by
  obtain ⟨rest, hrest, rfl⟩ := h
  have hnone : rest = [] :=
    ((remains_step hroom).1 hrest).eq_nil_of_narrow fun _ hc => absurd hc List.not_mem_nil
  rw [firstFitting_cons_of_le (Nat.le_sub_of_add_le' hroom), hnone, List.append_nil, inkOf_cons,
    firstFitting, inkOf_nil, List.append_nil, delete_row hroom]
  exact tail_nil ..

/-- All from the cursor on is removed. -/
theorem clear (h : Tail cols left cs g) (hleft : left.length ≤ cols) (count : Nat) :
    (g.delete count).clearToEnd = row cols left [] := by
  obtain ⟨rest, -, rfl⟩ := h
  exact clearToEnd_delete_row hleft count

end Tail

/-! ### Drawing -/

/-- A glyph for which there is no room is not put. -/
theorem put_row_of_lt {right : List Cell} (h : cols < left.length + columns c) :
    put (row cols left right) c = row cols left right := by
  rw [columns_eq] at h
  have hnone : (row cols left right).put? (shownAs c).1 (shownAs c).2 = none := by
    have hfull : ¬ (row cols left right).col + Text.columns (shownAs c).1 ≤ (row cols left right).width :=
      Nat.not_le.2 h
    have hstays : ¬ (row cols left right).scrolls = true := Bool.false_ne_true
    unfold Grid.put?
    dsimp only
    rw [if_neg hfull, if_neg hstays, ite_self]
  show ((row cols left right).put? (shownAs c).1 (shownAs c).2).getD _ = _
  rw [hnone]
  rfl

/-- In the last column there is room for a narrow character only. -/
theorem putWhile_last (hlast : left.length + 1 = cols) (cs : List Char) :
    ∃ rest, Slim rest ∧ putWhile (row cols left []) cs = row cols (left ++ rest) [] := by
  induction cs with
  | nil => exact ⟨[], Cell.slim_nil, by rw [putWhile, List.append_nil]⟩
  | cons c cs ih =>
    have hc := columns_le_two c
    rw [putWhile, row_col, row_width, if_neg (by omega)]
    by_cases hone : columns c = 1
    · refine ⟨ink c, slim_ink hone, ?_⟩
      rw [put_row (by omega), List.drop_nil]
      cases cs with
      | nil => rfl
      | cons d cs =>
        rw [putWhile, if_pos]
        rw [row_col, row_width, length_append_ink]
        omega
    by_cases hnone : columns c = 0
    · have hink : ink c = [] := List.eq_nil_of_length_eq_zero (by rw [length_ink, hnone])
      rw [put_row (by omega), hink, List.append_nil, List.drop_nil]
      exact ih
    · rw [put_row_of_lt (by omega)]
      exact ih

/-- Characters are drawn as long as they fit. -/
theorem putWhile_tail (hleft : left.length ≤ cols) (cs : List Char) :
    ∃ rest, Remains (cols - left.length) cs rest ∧
      putWhile (row cols left []) cs
        = row cols (left ++ (inkOf (firstFitting (cols - left.length) cs) ++ rest)) [] := by
  induction cs generalizing left with
  | nil => exact ⟨[], remains_nil .., by simp [putWhile, firstFitting]⟩
  | cons c cs ih =>
    rw [putWhile, row_col, row_width]
    by_cases hfull : left.length ≥ cols
    · have hroom : cols - left.length = 0 := by omega
      refine ⟨[], remains_nil .., ?_⟩
      rw [if_pos hfull, hroom, inkOf_firstFitting_zero, List.append_nil, List.append_nil]
    rw [if_neg hfull]
    by_cases hc : left.length + columns c ≤ cols
    · obtain ⟨rest, hrest, hput⟩ := ih (length_append_ink left c ▸ hc)
      refine ⟨rest, (remains_step hc).2 hrest, ?_⟩
      rw [put_row hc, List.drop_nil, hput, cells_step hc]
    · have hwide := columns_le_two c
      have hlast : left.length + 1 = cols := by omega
      obtain ⟨rest, hrest, hput⟩ := putWhile_last hlast cs
      refine ⟨rest, remains_of_wide (by omega) (by omega) hrest, ?_⟩
      rw [put_row_of_lt (by omega), hput, firstFitting_cons_of_lt (by omega)]
      rfl

/-- Drawing a text from the cursor on, which stays. -/
theorem tail_putWhile (hleft : left.length ≤ cols) (cs : List Char) :
    Tail cols left cs
      ((putWhile (row cols left []) cs).moveTo (putWhile (row cols left []) cs).row left.length) := by
  obtain ⟨rest, hrest, hput⟩ := putWhile_tail hleft cs
  refine ⟨rest, hrest, ?_⟩
  rw [hput]
  exact moveTo_row (List.append_nil _) hleft

/-! ### Inserting -/

/-- Where single cells follow whole glyphs, nothing is cut in two. -/
theorem mendEdge_fill_slim {g : Grid} (hwhole : Whole left) (hleft : left.length ≤ g.width)
    (hrest : Slim rest) :
    Grid.mendEdge g.blank (g.fill (left ++ rest)) = g.fill (left ++ rest) := by
  refine Grid.mendEdge_of_edge fun cell hcell => ?_
  rw [Grid.fill_append hleft] at hcell
  exact (hwhole.append (hrest.takeD (Grid.columns_blank g) _).whole).columns_getLast hcell

/-- Of a row that is full nothing is changed. -/
theorem mendEdge_fill_full {g : Grid} (hwhole : Whole left) (hleft : left.length = g.width)
    (rest : List Cell) : Grid.mendEdge g.blank (g.fill (left ++ rest)) = g.fill left := by
  have hmend := mendEdge_fill_slim hwhole (Nat.le_of_eq hleft) Cell.slim_nil
  rw [List.append_nil, Grid.fill_of_length_eq hleft] at hmend
  rw [Grid.fill_append (Nat.le_of_eq hleft), hleft, Nat.sub_self, List.takeD_zero, List.append_nil,
    Grid.fill_of_length_eq hleft, hmend]

/-- A wide glyph that loses its filler at the edge is blanked. -/
theorem mendEdge_fill_cut {g : Grid} (hleft : left.length + 1 = g.width) (hwide : columns c = 2)
    (rest : List Cell) :
    Grid.mendEdge g.blank (g.fill (left ++ (ink c ++ rest))) = g.fill left := by
  rw [columns_eq] at hwide
  have hink : ink c = ⟨(shownAs c).1, (shownAs c).2⟩ :: [⟨Cell.filler, (shownAs c).2⟩] := by
    rw [ink, Cell.shown, if_neg (by omega), Cell.ofGlyph, hwide]
    rfl
  have hone : g.width - left.length = 1 := by omega
  have hcut : g.fill (left ++ (ink c ++ rest)) = left ++ [⟨(shownAs c).1, (shownAs c).2⟩] := by
    rw [Grid.fill_append (by omega), hone, hink]
    rfl
  have hfill : g.fill left = left ++ [g.blank] := by
    rw [← List.append_nil left, Grid.fill_append (by omega), hone, List.append_nil]
    rfl
  rw [hcut, hfill, Grid.mendEdge, List.getLast?_concat]
  simp only [hwide, List.dropLast_concat]
  exact if_pos (by decide)

/-- Cells that are pushed over the edge are cut off; of the text, what fits is left. -/
theorem mendEdge_fill {g : Grid} {room' : Nat} (hwhole : Whole left)
    (hleft : left.length + room' = g.width) (hroom : room' ≤ room) (hrest : Remains room cs rest) :
    ∃ rest', Remains room' cs rest' ∧
      Grid.mendEdge g.blank (g.fill (left ++ (inkOf (firstFitting room cs) ++ rest)))
        = g.fill (left ++ (inkOf (firstFitting room' cs) ++ rest')) := by
  induction cs generalizing left room room' with
  | nil =>
    exact ⟨rest, ⟨hrest.slim, hrest.eq_nil⟩, mendEdge_fill_slim hwhole (by omega) hrest.slim⟩
  | cons c cs ih =>
    have hc := columns_le_two c
    by_cases hfits : columns c ≤ room'
    · have hfitted : columns c ≤ room := Nat.le_trans hfits hroom
      have hnext : (left ++ ink c).length + (room' - columns c) = g.width := by
        rw [length_append_ink]
        omega
      obtain ⟨rest', hrest', hmend⟩ := ih (hwhole.append (whole_ink c)) hnext
        (Nat.sub_le_sub_right hroom (columns c)) ((remains_cons_iff hfitted).1 hrest)
      refine ⟨rest', (remains_cons_iff hfits).2 hrest', ?_⟩
      rw [firstFitting_cons_of_le hfits, firstFitting_cons_of_le hfitted]
      simpa only [inkOf_cons, List.append_assoc] using hmend
    rw [firstFitting_cons_of_lt (Nat.lt_of_not_le hfits)]
    by_cases hfitted : columns c ≤ room
    · -- The character was the last that fitted.
      refine ⟨[], remains_nil .., ?_⟩
      rw [firstFitting_cons_of_le hfitted, inkOf_cons, inkOf_nil, List.append_nil, List.append_nil,
        List.append_assoc]
      by_cases hfull : room' = 0
      · exact mendEdge_fill_full hwhole (by omega) _
      · exact mendEdge_fill_cut (by omega) (by omega) _
    · rw [firstFitting_cons_of_lt (Nat.lt_of_not_le hfitted)]
      have hlate : Narrow (overflow room' (c :: cs)) → rest = [] := by
        rw [overflow_cons_of_lt (Nat.lt_of_not_le hfits),
          ← overflow_cons_of_lt (Nat.lt_of_not_le hfitted)]
        exact hrest.eq_nil
      exact ⟨rest, ⟨hrest.slim, hlate⟩, mendEdge_fill_slim hwhole (by omega) hrest.slim⟩

/-- A character with room is put between the others, and the cursor goes over it; one without a column is
refused, and nothing is to be seen of it. -/
theorem Tail.squeeze (h : Tail cols left cs g) (hwhole : Whole left)
    (hroom : left.length + columns c ≤ cols) :
    match squeeze? g c with
    | some g' => Tail cols (left ++ ink c) cs (g'.moveTo g'.row (g'.col + columns c))
    | none => Tail cols (left ++ ink c) cs g := by
  by_cases hzero : columns c = 0
  · have hink : ink c = [] := List.eq_nil_of_length_eq_zero (by rw [length_ink, hzero])
    rw [squeeze?_of_zero g hzero, hink, List.append_nil]
    exact h
  · obtain ⟨rest, hrest, rfl⟩ := h
    have hlength := length_append_ink left c
    have hsplit : (left ++ ink c).length + (cols - (left ++ ink c).length)
        = (Grid.new cols 1 false).width := by
      rw [hlength]
      exact Nat.add_sub_cancel' hroom
    obtain ⟨rest', hrest', hmend⟩ := mendEdge_fill (hwhole.append (whole_ink c)) hsplit
      (Nat.sub_le_sub_left (hlength ▸ Nat.le_add_right ..) cols) hrest
    rw [List.append_assoc, List.append_assoc] at hmend
    rw [squeeze?_row hzero hroom hmend]
    refine ⟨rest', hrest', ?_⟩
    rw [row_col, ← hlength]
    exact moveTo_row (List.append_assoc ..).symm (hlength ▸ hroom)

end LineEditor
end ChatConsole
