/-
# The row of the editor

The row is a page of one row: the prompt, the cells of some characters left of the cursor, and the cells
of those from the cursor on, cut at the edge.  A character has no cell, one or two (`ink`), a mark the
cell of its letter.  Each thing that the editor does to its panel is a small change of this picture.
-/

import ChatConsole.Proofs.Grid.Page
import ChatConsole.Proofs.LineEditor.Content

namespace ChatConsole

open Markup (Mark)

/-- The cells of a glyph; none if it takes no column. -/
def Cell.shown (c : Char) (style : Style) : List Cell :=
  if Text.columns c = 0 then [] else Cell.ofGlyph c style

@[simp] theorem Cell.length_shown (c : Char) (style : Style) :
    (Cell.shown c style).length = Text.columns c := by
  unfold Cell.shown
  split
  · rename_i hc
    exact hc.symm
  · rename_i hc
    exact Cell.length_ofGlyph hc

namespace LineEditor

/-! ### Cells of characters -/

/-- The cells of a character of the text. -/
def ink (c : Char) : List Cell :=
  Cell.shown (shownAs c).1 (shownAs c).2

/-- The cells of a text. -/
def inkOf (cs : List Char) : List Cell :=
  cs.flatMap ink

/-- The cells of a prompt, in which a mark is nothing special. -/
def promptInk (cs : List Char) : List Cell :=
  cs.flatMap (Cell.shown · {})

/-- A letter that shows a mark takes one column. -/
theorem columns_letter (m : Mark) : Text.columns m.letter = 1 := by
  cases m <;> decide

theorem columns_eq (c : Char) : columns c = Text.columns (shownAs c).1 := by
  unfold columns shownAs
  cases Mark.ofChar? c with
  | some m => simp [columns_letter]
  | none => rfl

@[simp] theorem length_ink (c : Char) : (ink c).length = columns c := by
  rw [ink, Cell.length_shown, columns_eq]

@[simp] theorem inkOf_nil : inkOf [] = [] := rfl

@[simp] theorem inkOf_cons (c : Char) (cs : List Char) : inkOf (c :: cs) = ink c ++ inkOf cs :=
  List.flatMap_cons

theorem inkOf_append (as bs : List Char) : inkOf (as ++ bs) = inkOf as ++ inkOf bs :=
  List.flatMap_append

@[simp] theorem length_inkOf (cs : List Char) : (inkOf cs).length = columnsOf cs := by
  induction cs with
  | nil => rfl
  | cons c cs ih => rw [inkOf_cons, List.length_append, length_ink, ih, columnsOf_cons]

@[simp] theorem length_promptInk (cs : List Char) : (promptInk cs).length = Text.columnsOf cs := by
  induction cs with
  | nil => rfl
  | cons c cs ih =>
    rw [promptInk, List.flatMap_cons, List.length_append, Cell.length_shown, Text.columnsOf_cons]
    exact congrArg _ ih

/-- No character of the text is wide. -/
def Narrow (cs : List Char) : Prop :=
  ∀ c ∈ cs, columns c ≤ 1

/-! ### The row -/

/-- The row with cells left of the cursor and from the cursor on. -/
def row (cols : Nat) (left right : List Cell) : Grid :=
  (Grid.new cols 1 false).page [] left right

variable {cols : Nat} {left right : List Cell}

@[simp] theorem row_width : (row cols left right).width = cols := rfl

@[simp] theorem row_col : (row cols left right).col = left.length := rfl

theorem row_zero : (row cols left right).row = 0 := Nat.zero_min _

theorem rows_row : (row cols left right).rows = [(left ++ right).takeD cols {}] := rfl

theorem height_pos : 0 < (Grid.new cols 1 false).height := by
  simp [Grid.new, Grid.height]

theorem new_eq_row : Grid.new cols 1 false = row cols [] [] :=
  Grid.new_eq_page false Nat.one_pos

theorem erase_row : (row cols left right).erase = row cols [] [] := by
  rw [← new_eq_row]
  rfl

/-- A glyph that has room, or no column, goes to the left of the cursor. -/
theorem put?_row {c : Char} {style : Style} (hroom : left.length + Text.columns c ≤ cols) :
    ((row cols left right).put? c style).getD (row cols left right)
      = row cols (left ++ Cell.shown c style) (right.drop (Text.columns c)) := by
  by_cases hc : Text.columns c = 0
  · simp [Grid.put?, Cell.shown, hc]
  · rw [row, Grid.put?_page height_pos hc hroom, Cell.shown, if_neg hc]
    rfl

theorem put_row {c : Char} (hroom : left.length + columns c ≤ cols) :
    put (row cols left right) c = row cols (left ++ ink c) (right.drop (columns c)) := by
  rw [columns_eq] at hroom ⊢
  exact put?_row hroom

theorem addText_row (cs : List Char) (hroom : left.length + Text.columnsOf cs ≤ cols) :
    (row cols left []).addText cs = row cols (left ++ promptInk cs) [] := by
  induction cs generalizing left with
  | nil => simp [Grid.addText, promptInk]
  | cons c cs ih =>
    rw [Text.columnsOf_cons] at hroom
    have hfirst : (row cols left []).add c = row cols (left ++ Cell.shown c {}) [] := by
      have hput : ((row cols left []).put? c {}).getD (row cols left []) = _ := put?_row (by omega)
      rwa [List.drop_nil] at hput
    have hink : promptInk (c :: cs) = Cell.shown c {} ++ promptInk cs := List.flatMap_cons
    have hcons : (row cols left []).addText (c :: cs) = ((row cols left []).add c).addText cs := rfl
    rw [hcons, hfirst, ih (by rw [List.length_append, Cell.length_shown]; omega), hink,
      List.append_assoc]

/-- Characters that have room are drawn one after another. -/
theorem foldl_put_row (cs : List Char) (hroom : left.length + columnsOf cs ≤ cols) :
    cs.foldl put (row cols left []) = row cols (left ++ inkOf cs) [] := by
  induction cs generalizing left with
  | nil => simp
  | cons c cs ih =>
    rw [columnsOf_cons] at hroom
    rw [List.foldl_cons, put_row (by omega), List.drop_nil,
      ih (by rw [List.length_append, length_ink]; omega), inkOf_cons, List.append_assoc]

/-- Moving the cursor divides the row elsewhere. -/
theorem moveTo_row {left' right' : List Cell} (hsame : left ++ right = left' ++ right')
    (hleft : left'.length ≤ cols) :
    (row cols left right).moveTo (row cols left right).row left'.length
      = row cols left' right' :=
  Grid.moveTo_page height_pos (congrArg _ hsame) hleft

/-- Removing cells and blanking the rest leaves what is left of the cursor. -/
theorem clearToEnd_delete_row (hleft : left.length ≤ cols) (count : Nat) :
    ((row cols left right).delete count).clearToEnd = row cols left [] := by
  have hdelete : (row cols left right).delete count = row cols left _ :=
    Grid.delete_page height_pos hleft count
  rw [hdelete]
  exact Grid.clearToEnd_page height_pos hleft

/-- Removing the only character from the cursor on. -/
theorem delete_row {c : Char} (hroom : left.length + columns c ≤ cols) :
    (row cols left (ink c)).delete (columns c) = row cols left [] := by
  rw [← length_ink]
  refine Grid.delete_page_all height_pos ?_
  rw [length_ink]
  exact hroom

/-- A character without a column is not inserted. -/
theorem squeeze?_of_zero (g : Grid) {c : Char} (hc : columns c = 0) : squeeze? g c = none := by
  rw [columns_eq] at hc
  unfold squeeze?
  generalize shownAs c = shown at hc
  obtain ⟨d, style⟩ := shown
  dsimp only at hc ⊢
  rw [Grid.insert?, if_pos (Or.inl hc)]
  rfl

/-- A character with room is inserted at the cursor, and the edge is mended. -/
theorem squeeze?_row {c : Char} {right' : List Cell} (hc : columns c ≠ 0)
    (hroom : left.length + columns c ≤ cols)
    (hmend : Grid.mendEdge {} ((left ++ (ink c ++ right)).takeD cols {})
      = (left ++ right').takeD cols {}) :
    squeeze? (row cols left right) c = some (row cols left right') := by
  rw [columns_eq] at hc hroom
  unfold ink at hmend
  unfold squeeze?
  generalize hshown : shownAs c = shown at *
  obtain ⟨d, style⟩ := shown
  dsimp only at hc hroom hmend ⊢
  have hink : Cell.shown d style = Cell.ofGlyph d style := if_neg hc
  rw [hink] at hmend
  have hinsert : ({ Grid.new cols 1 false with style }.page [] left right).insert? d
      = some ({ Grid.new cols 1 false with style }.page [] left right') :=
    Grid.insert?_page_mend (g := { Grid.new cols 1 false with style }) height_pos hc hroom hmend
  have hstyled : ({ row cols left right with style } : Grid)
      = { Grid.new cols 1 false with style }.page [] left right := rfl
  rw [hstyled, hinsert]
  rfl

end LineEditor
end ChatConsole
