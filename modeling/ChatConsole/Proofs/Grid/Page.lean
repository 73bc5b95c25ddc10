/-
# A grid as the last page of an endless sheet

Rows are ended on a grid one after another, and the row in progress has the cursor in it.  When there
are more rows than the grid can hold, only the last of them show.  `Grid.page` is this picture: the
ended rows, the cells left of the cursor and the cells from the cursor on.  Each operation of the grid
is a small change of the picture: a glyph goes to the cells on the left (`put?_page`), a new line ends
the row (`newline_page`), an inserted glyph goes to the front of the cells on the right
(`insert?_page_mend`).  That the page scrolled is nowhere seen in it.
-/

import ChatConsole.Grid.Basic
import Mathlib.Data.List.TakeDrop

namespace ChatConsole
namespace Grid

/-! ### Rows cut or filled up to a width -/

theorem drop_takeD {α : Type} (a : α) :
    ∀ (k n : Nat) (l : List α), (l.takeD n a).drop k = (l.drop k).takeD (n - k) a
  | 0, _, _ => by simp
  | _ + 1, 0, _ => by simp
  | k + 1, n + 1, l => by
      rw [List.takeD_succ, List.drop_succ_cons, drop_takeD a k n l.tail, List.drop_tail,
        Nat.add_sub_add_right]

theorem takeD_append {α : Type} (a : α) :
    ∀ (n : Nat) (l r : List α), l.length ≤ n → (l ++ r).takeD n a = l ++ r.takeD (n - l.length) a
  | _, [], _, _ => by simp
  | 0, _ :: _, _, h => absurd h (Nat.not_succ_le_zero _)
  | n + 1, x :: l, r, h => by
      have hl : l.length ≤ n := Nat.le_of_succ_le_succ h
      simp [takeD_append a n l r hl]

theorem take_takeD {α : Type} (a : α) :
    ∀ (k n : Nat) (l : List α), k ≤ n → (l.takeD n a).take k = l.takeD k a
  | 0, _, _, _ => by simp
  | k + 1, 0, _, h => absurd h (Nat.not_succ_le_zero k)
  | k + 1, n + 1, l, h => by
      rw [List.takeD_succ, List.take_succ_cons, take_takeD a k n l.tail (Nat.le_of_succ_le_succ h),
        List.takeD_succ]

theorem takeD_take {α : Type} (a : α) : ∀ (n : Nat) (l : List α), (l.take n).takeD n a = l.takeD n a
  | 0, _ => by simp
  | _ + 1, [] => rfl
  | n + 1, b :: l => by simp [takeD_take a n l]

variable {g : Grid} {ended : List (List Cell)} {left right : List Cell}

/-- Cells cut at the width of the grid, or filled up to it with blanks. -/
def fill (g : Grid) (cells : List Cell) : List Cell :=
  cells.takeD g.width g.blank

@[simp] theorem fill_nil (g : Grid) : g.fill [] = g.blankRow :=
  List.takeD_nil ..

/-- A full row needs no filling. -/
theorem fill_of_length_eq {cells : List Cell} (h : cells.length = g.width) :
    g.fill cells = cells := by
  rw [fill, List.takeD_eq_take _ (Nat.le_of_eq h.symm), ← h, List.take_length]

theorem fill_append (h : left.length ≤ g.width) :
    g.fill (left ++ right) = left ++ right.takeD (g.width - left.length) g.blank :=
  takeD_append _ _ _ _ h

theorem take_fill_append (h : left.length ≤ g.width) :
    (g.fill (left ++ right)).take left.length = left := by
  rw [fill_append h, List.take_left]

theorem drop_fill_append (h : left.length ≤ g.width) (k : Nat) :
    (g.fill (left ++ right)).drop (left.length + k)
      = (right.drop k).takeD (g.width - left.length - k) g.blank := by
  rw [fill_append h, List.drop_append, drop_takeD, List.drop_of_length_le (by omega)]
  simp

/-! ### The page -/

/-- The grid after rows have been ended on it, from its first row on: those of them that still show,
the row in progress with its cells left of the cursor and from the cursor on, and blank rows below. -/
def page (g : Grid) (ended : List (List Cell)) (left right : List Cell) : Grid :=
  { g with
    rows := ended.drop (ended.length + 1 - g.height) ++
      g.fill (left ++ right) :: List.replicate (g.height - 1 - ended.length) g.blankRow
    row := min ended.length (g.height - 1)
    col := left.length }

@[simp] theorem page_width : (g.page ended left right).width = g.width := rfl

@[simp] theorem page_col : (g.page ended left right).col = left.length := rfl

@[simp] theorem page_style : (g.page ended left right).style = g.style := rfl

@[simp] theorem page_blank : (g.page ended left right).blank = g.blank := rfl

@[simp] theorem page_scrolls : (g.page ended left right).scrolls = g.scrolls := rfl

theorem length_rows_page (h : 0 < g.height) :
    (g.page ended left right).rows.length = g.height := by
  simp only [page, List.length_append, List.length_cons, List.length_drop, List.length_replicate]
  omega

theorem page_height (h : 0 < g.height) : (g.page ended left right).height = g.height :=
  length_rows_page h

/-- A grid with the cursor at the start of a row, blank from there on, is a page: the rows above have
been ended on it. -/
theorem eq_page (hrow : g.row < g.height) (hcol : g.col = 0)
    (hblank : g.rows.drop g.row = List.replicate (g.height - g.row) g.blankRow) :
    g = g.page (g.rows.take g.row) [] [] := by
  have hlen : (g.rows.take g.row).length = g.row :=
    List.length_take_of_le (Nat.le_of_lt hrow)
  have hrest : g.height - g.row = (g.height - 1 - g.row) + 1 := by omega
  have hrows : g.rows = g.rows.take g.row ++
      g.blankRow :: List.replicate (g.height - 1 - g.row) g.blankRow := by
    rw [← List.replicate_succ, ← hrest, ← hblank, List.take_append_drop]
  have hpage : g.page (g.rows.take g.row) [] []
      = { g with rows := g.rows, row := g.row, col := 0 } := by
    have hdrop : g.row + 1 - g.height = 0 := by omega
    have hmin : min g.row (g.height - 1) = g.row := by omega
    rw [page, hlen, hdrop, hmin, List.drop_zero, List.append_nil, fill_nil, ← hrows]
    rfl
  rw [hpage, ← hcol]

/-- A new grid is a page on which nothing has been ended. -/
theorem new_eq_page {width height : Nat} (scrolls : Bool) (h : 0 < height) :
    new width height scrolls = (new width height scrolls).page [] [] [] := by
  refine eq_page (g := new width height scrolls) ?_ ?_ ?_
  · simpa [new, Grid.height] using h
  · rfl
  · simp [new, Grid.height, blankRow, blank]

/-- A page with a fresh row has the last of the ended rows above the cursor and blanks from it on. -/
theorem rows_page_fresh (h : 0 < g.height) :
    (g.page ended [] []).rows = ended.drop (ended.length - (g.height - 1)) ++
      List.replicate (g.height - (g.page ended [] []).row) g.blankRow := by
  have hdrop : ended.length + 1 - g.height = ended.length - (g.height - 1) := by omega
  have hbelow : g.height - min ended.length (g.height - 1) = (g.height - 1 - ended.length) + 1 := by
    omega
  rw [page, hdrop, List.append_nil, fill_nil]
  dsimp only
  rw [hbelow, List.replicate_succ]

/-- A page with a fresh row has a blank row under the cursor. -/
theorem getElem?_row_page_fresh (h : 0 < g.height) :
    (g.page ended [] []).rows[(g.page ended [] []).row]? = some g.blankRow := by
  have hrow : (g.page ended [] []).row = (ended.drop (ended.length - (g.height - 1))).length := by
    simp only [page, List.length_drop]
    omega
  have hlow : (g.page ended [] []).row ≤ g.height - 1 := Nat.min_le_right ..
  rw [rows_page_fresh h, List.getElem?_append_right (Nat.le_of_eq hrow.symm), ← hrow, Nat.sub_self,
    List.getElem?_replicate, if_pos (by omega)]

/-- A page shows its last rows only: rows that were ended before those that fill it do not matter. -/
theorem page_append_left {before : List (List Cell)} (h : g.height ≤ ended.length + 1) :
    g.page (before ++ ended) left right = g.page ended left right := by
  have hdrop : (before ++ ended).drop ((before ++ ended).length + 1 - g.height)
      = ended.drop (ended.length + 1 - g.height) := by
    rw [List.drop_append, List.drop_of_length_le (by simp; omega), List.nil_append]
    congr 1
    simp
    omega
  have hbelow : g.height - 1 - (before ++ ended).length = g.height - 1 - ended.length := by
    simp; omega
  have hrow : min (before ++ ended).length (g.height - 1) = min ended.length (g.height - 1) := by
    simp; omega
  simp only [page, hdrop, hbelow, hrow]

/-! ### The operations on a page -/

/-- Changing the row of the cursor changes the row in progress. -/
theorem modifyRow_page (hh : 0 < g.height) {f : List Cell → List Cell} {left' right' : List Cell}
    (hf : f (g.fill (left ++ right)) = g.fill (left' ++ right')) :
    { (g.page ended left right).modifyRow f with col := left'.length }
      = g.page ended left' right' := by
  have hrow : min ended.length (g.height - 1)
      = (ended.drop (ended.length + 1 - g.height)).length := by
    rw [List.length_drop]; omega
  simp only [modifyRow, page, Grid.mk.injEq, and_self, and_true, true_and]
  rw [hrow, List.modify_eq_take_drop, List.take_left, List.drop_left, List.modifyHead_cons, hf]

theorem clearToEnd_page (hh : 0 < g.height) (hleft : left.length ≤ g.width) :
    (g.page ended left right).clearToEnd = g.page ended left [] := by
  refine modifyRow_page hh ?_
  rw [page_col, take_fill_append hleft, fill_append hleft, List.takeD_nil]
  rfl

theorem scroll_eq (hh : 0 < g.height) :
    g.scroll = { g with rows := g.rows.drop 1 ++ [g.blankRow] } := by
  unfold scroll
  split
  · rename_i hrows
    simp [height, hrows] at hh
  · rename_i hrows
    simp [hrows]

/-- A new line on a grid that scrolls ends the row. -/
theorem newline_page (hs : g.scrolls = true) (hh : 0 < g.height) (hleft : left.length ≤ g.width) :
    (g.page ended left right).newline = g.page (ended ++ [g.fill left]) [] [] := by
  have hlen : (g.page ended left []).rows.length = g.height := length_rows_page hh
  rw [newline, clearToEnd_page hh hleft]
  by_cases hroom : ended.length + 1 < g.height
  · -- The next row is blank already.
    have hrow : min ended.length (g.height - 1) = ended.length := by omega
    have hdrop : ended.length + 1 - g.height = 0 := by omega
    have hdrop' : ended.length + 1 + 1 - g.height = 0 := by omega
    have hbelow : g.height - 1 - ended.length = (g.height - 1 - (ended.length + 1)) + 1 := by omega
    have hrow' : min (ended.length + 1) (g.height - 1) = ended.length + 1 := by omega
    rw [if_pos (by rw [height, hlen]; simpa [page, hrow] using hroom)]
    simp [page, hrow, hrow', hdrop, hdrop', hbelow, List.replicate_succ]
  · -- The row that the page scrolls away is the oldest of those it shows.
    have hrow : min ended.length (g.height - 1) + 1 = g.height := by omega
    have hrow' : min (ended.length + 1) (g.height - 1) = min ended.length (g.height - 1) := by omega
    have hbelow : g.height - 1 - ended.length = 0 := by omega
    have hbelow' : g.height - 1 - (ended.length + 1) = 0 := by omega
    have hdrop : ended.length + 1 + 1 - g.height = (ended.length + 1 - g.height) + 1 := by omega
    have hlast : (ended ++ [g.fill left]).drop (ended.length + 1 - g.height)
        = ended.drop (ended.length + 1 - g.height) ++ [g.fill left] :=
      List.drop_append_of_le_length (by omega)
    have hrest : (ended.drop (ended.length + 1 - g.height) ++ [g.fill left]).drop 1
        = (ended ++ [g.fill left]).drop (ended.length + 1 + 1 - g.height) := by
      rw [hdrop, ← List.drop_drop, hlast]
    rw [if_neg (by rw [height, hlen]; simp [page, hrow])]
    simp only [page_scrolls, hs, if_true]
    rw [scroll_eq (by rw [height, hlen]; exact hh)]
    simp only [page, hbelow, hbelow', List.length_append, List.length_singleton, hrow', ← hrest]
    simp [hs, blankRow, blank]

/-- A glyph that has room goes to the left of the cursor, over the cells it takes. -/
theorem put?_page {c : Char} {style : Style} (hh : 0 < g.height) (hc : Text.columns c ≠ 0)
    (hroom : left.length + Text.columns c ≤ g.width) :
    (g.page ended left right).put? c style
      = some (g.page ended (left ++ Cell.ofGlyph c style) (right.drop (Text.columns c))) := by
  have hglyph : (left ++ Cell.ofGlyph c style).length = left.length + Text.columns c := by
    rw [List.length_append, Cell.length_ofGlyph hc]
  have hheight : (g.page ended left right).height = g.height := page_height hh
  rw [put?, if_neg (by rw [hheight, page_width]; omega), if_pos (by simpa using hroom), write]
  rw [page_col, ← hglyph]
  refine congrArg some ?_
  refine modifyRow_page hh ?_
  rw [take_fill_append (by omega), hglyph, drop_fill_append (by omega),
    fill_append (by rw [hglyph]; exact hroom), hglyph, Nat.sub_sub]

/-- Moving the cursor along its row divides the row elsewhere. -/
theorem moveTo_page (hh : 0 < g.height) {left' right' : List Cell}
    (hrow : g.fill (left ++ right) = g.fill (left' ++ right')) (hleft : left'.length ≤ g.width) :
    (g.page ended left right).moveTo (g.page ended left right).row left'.length
      = g.page ended left' right' := by
  have hheight : (g.page ended left right).height = g.height := page_height hh
  have hlow : min (min ended.length (g.height - 1)) (g.height - 1) = min ended.length (g.height - 1) :=
    Nat.min_eq_left (Nat.min_le_right ..)
  rw [moveTo, hheight, page_width, Nat.min_eq_left hleft]
  simp only [page, hrow, hlow]

/-- An inserted glyph pushes the cells on the right on; what is cut at the edge is mended. -/
theorem insert?_page_mend {c : Char} {right' : List Cell} (hh : 0 < g.height)
    (hc : Text.columns c ≠ 0) (hroom : left.length + Text.columns c ≤ g.width)
    (hmend : mendEdge g.blank (g.fill (left ++ (Cell.ofGlyph c g.style ++ right)))
      = g.fill (left ++ right')) :
    (g.page ended left right).insert? c = some (g.page ended left right') := by
  have hheight : (g.page ended left right).height = g.height := page_height hh
  rw [insert?, if_neg (by rw [hheight, page_width, page_col]; omega)]
  have hglyph : (Cell.ofGlyph c g.style).length = Text.columns c := Cell.length_ofGlyph hc
  have hrow : (left ++ Cell.ofGlyph c g.style ++ right.takeD (g.width - left.length) g.blank).take
      g.width = g.fill (left ++ (Cell.ofGlyph c g.style ++ right)) := by
    have hlength : (left ++ Cell.ofGlyph c g.style).length ≤ g.width := by
      rw [List.length_append, hglyph]
      exact hroom
    rw [← List.append_assoc, fill_append hlength, List.take_append, List.take_of_length_le hlength,
      take_takeD]
    rw [List.length_append]
    omega
  have hdrop : (g.fill (left ++ right)).drop left.length
      = right.takeD (g.width - left.length) g.blank := by
    have h : (g.fill (left ++ right)).drop (left.length + 0) = _ :=
      drop_fill_append (Nat.le_of_add_right_le hroom) 0
    simpa using h
  refine congrArg some ?_
  refine modifyRow_page hh ?_
  rw [page_col, take_fill_append (Nat.le_of_add_right_le hroom), hdrop, page_width, page_style, hrow]
  exact hmend

/-- Nothing is mended where no wide glyph is cut in two. -/
theorem mendEdge_of_edge {blank : Cell} {cells : List Cell}
    (hedge : ∀ cell ∈ cells.getLast?, Text.columns cell.char ≤ 1) : mendEdge blank cells = cells := by
  unfold mendEdge
  split
  · rename_i last hlast
    rw [if_neg (Nat.not_lt.2 (hedge last hlast))]
  · rfl

/-- Removing cells at the cursor leaves those on its left and pulls in the others. -/
theorem delete_page (hh : 0 < g.height) (hleft : left.length ≤ g.width) (count : Nat) :
    let n := min count (g.width - left.length)
    (g.page ended left right).delete count
      = g.page ended left ((right.drop n).takeD (g.width - left.length - n) g.blank ++
          List.replicate n g.blank) := by
  refine modifyRow_page hh ?_
  rw [page_col, page_width, page_blank, take_fill_append hleft, drop_fill_append hleft,
    fill_of_length_eq, List.append_assoc]
  simp only [List.length_append, List.takeD_length, List.length_replicate]
  omega

/-- Removing all that is right of the cursor. -/
theorem delete_page_all (hh : 0 < g.height) (hroom : left.length + right.length ≤ g.width) :
    (g.page ended left right).delete right.length = g.page ended left [] := by
  have hcount : min right.length (g.width - left.length) = right.length := by omega
  have hblanks : g.width - left.length - right.length + right.length = g.width - left.length := by omega
  refine modifyRow_page hh ?_
  rw [page_col, page_width, page_blank, take_fill_append (by omega), hcount,
    drop_fill_append (by omega), List.drop_length, List.takeD_nil, List.append_assoc,
    List.replicate_append_replicate, hblanks, fill_append (by omega), List.takeD_nil]

end Grid
end ChatConsole
