/-
# The rows of the panel

The panel is drawn from the top down, one row after another (`drawPage_succ`).  A row has the edge and what
has room of its member, whatever the other rows have; below the last member it has the edge alone
(`rows_drawPage`).  So of each nick that is on the page is shown what fits behind the edge and the sign of
the rank (`row_member`).
-/

import ChatConsole.Proofs.Grid.FixedRow
import ChatConsole.Proofs.Window.Panel

namespace ChatConsole
namespace Roster

open Text (admitted ShownIn)

variable {g d : Grid} {page : List Member} {count i : Nat} {m : Member}

/-- The row of a member on a panel; without a member it has the edge alone. -/
def rowOf (g : Grid) (m : Option Member) : List Cell :=
  g.fill (Cell.ofGlyphs (admitted Text.columns g.width (edge :: (m.map Member.shown).getD [])) g.style)

theorem rowOf_congr (hframe : Grid.SameFrame g d) (hstyle : d.style = g.style) (m : Option Member) :
    rowOf d m = rowOf g m := by
  have hblank : d.blank = g.blank := congrArg (Cell.mk ' ') hframe.background
  unfold rowOf Grid.fill
  rw [hframe.width, hstyle, hblank]

theorem blankRow_congr (hframe : Grid.SameFrame g d) : d.blankRow = g.blankRow := by
  have hblank : d.blank = g.blank := congrArg (Cell.mk ' ') hframe.background
  rw [Grid.blankRow, Grid.blankRow, hframe.width, hblank]

/-- The row that is drawn last has a say in no other. -/
theorem drawPage_succ (g : Grid) (height : Nat) (page : List Member) :
    drawPage g (height + 1) page = drawRow (drawPage g height page) height page[height]? := by
  unfold drawPage
  rw [List.range_succ, List.foldl_append]
  rfl

/-- A panel on which so many rows of a page have been drawn, the others being blank. -/
structure RowsDrawn (g : Grid) (page : List Member) (count : Nat) (d : Grid) : Prop where
  frame : Grid.SameFrame g d
  style : d.style = g.style
  rows : d.rows = (List.range (min count g.height)).map (fun i => rowOf g page[i]?) ++
    List.replicate (g.height - count) g.blankRow

theorem rowsDrawn_erase (g : Grid) (page : List Member) : RowsDrawn g page 0 g.erase where
  frame := Grid.frame_erase g
  style := rfl
  rows := by
    rw [Nat.zero_min, List.range_zero, List.map_nil, List.nil_append]
    rfl

/-- **Drawing the next row of a page** leaves the others as they are. -/
theorem RowsDrawn.drawRow (hs : g.scrolls = false) (h : RowsDrawn g page count d) :
    RowsDrawn g page (count + 1) (drawRow d count page[count]?) := by
  have hframe := h.frame.trans (frame_drawRow d count page[count]?)
  unfold Roster.drawRow at hframe ⊢
  rw [h.frame.height] at hframe ⊢
  split
  · rename_i hcount
    rw [if_pos hcount] at hframe
    have hmoved : Grid.SameFrame g (d.moveTo count 0) := h.frame.trans ⟨rfl, rfl, rfl, rfl⟩
    have hlength : ((List.range count).map fun i => rowOf g page[i]?).length = count := by
      rw [List.length_map, List.length_range]
    have hrow : (d.moveTo count 0).row = count := by
      rw [Grid.moveTo, h.frame.height]
      exact Nat.min_eq_left (by omega)
    have hrows : (d.moveTo count 0).rows = (List.range count).map (fun i => rowOf g page[i]?) ++
        List.replicate (g.height - count) g.blankRow := by
      have hdrawn := h.rows
      rwa [Nat.min_eq_left (Nat.le_of_lt hcount)] at hdrawn
    obtain ⟨hstyle, htext⟩ := Grid.addText_below (hmoved.scrolls.trans hs) (hrow.trans hlength.symm)
      (Nat.zero_min _) (by rw [hlength, hmoved.height]; exact hcount)
      (by rw [hlength, hmoved.height, blankRow_congr hmoved]; exact hrows)
      (edge :: (page[count]?.map Member.shown).getD [])
    refine ⟨hframe, hstyle.trans h.style, ?_⟩
    have hrow' := rowOf_congr hmoved h.style page[count]?
    unfold rowOf at hrow'
    rw [htext, hlength, hmoved.height, blankRow_congr hmoved, hrow', Nat.min_eq_left hcount,
      List.range_succ, List.map_append, List.append_assoc]
    rfl
  · rename_i hcount
    have hmin : min (count + 1) g.height = min count g.height := by omega
    have hbelow : g.height - (count + 1) = g.height - count := by omega
    refine ⟨h.frame, h.style, ?_⟩
    rw [hmin, hbelow]
    exact h.rows

theorem rowsDrawn_drawPage (hs : g.scrolls = false) (height : Nat) (page : List Member) :
    RowsDrawn g page height (drawPage g height page) := by
  induction height with
  | zero => exact rowsDrawn_erase g page
  | succ height ih =>
    rw [drawPage_succ]
    exact ih.drawRow hs

/-- **The rows of a panel**: one for each member of the page, the edge alone below them, and blank rows where
the panel is higher than the page. -/
theorem rows_drawPage (hs : g.scrolls = false) (height : Nat) (page : List Member) :
    (drawPage g height page).rows
      = (List.range (min height g.height)).map (fun i => rowOf g page[i]?) ++
        List.replicate (g.height - height) g.blankRow :=
  (rowsDrawn_drawPage hs height page).rows

theorem getElem?_rows_drawPage (hs : g.scrolls = false) {height : Nat} (hi : i < min height g.height)
    (page : List Member) : (drawPage g height page).rows[i]? = some (rowOf g page[i]?) := by
  rw [rows_drawPage hs, List.getElem?_append_left, List.getElem?_map, List.getElem?_range hi,
    Option.map_some]
  rwa [List.length_map, List.length_range]

/-! ### What is shown of a nick -/

theorem columns_edge : Text.columns edge = 1 := by
  decide +kernel

theorem columns_symbol (rank : Rank) : Text.columns rank.symbol = 1 := by
  cases rank <;> decide +kernel

/-- The edge and the sign of the rank have the first two columns. -/
theorem rowOf_member (g : Grid) (m : Member) :
    rowOf g (some m) = g.fill (Cell.ofGlyphs
      (edge :: m.rank.symbol :: admitted Text.columns (g.width - 2) m.nick.toList) g.style) := by
  unfold rowOf Grid.fill
  simp only [Option.map_some, Option.getD_some, Member.shown]
  generalize m.nick.toList = nick
  rcases hwidth : g.width with _ | _ | width
  · rw [List.takeD_zero, List.takeD_zero]
  · -- Of the row without a nick just the edge is seen.
    have hedge : Cell.ofGlyph edge g.style = [⟨edge, g.style⟩] := by
      rw [Cell.ofGlyph, columns_edge]
      rfl
    rw [Text.admitted_cons_of_one columns_edge, Text.admitted_zero, Cell.ofGlyphs, Cell.ofGlyphs,
      List.flatMap_cons, List.flatMap_cons, hedge]
    rfl
  · have hroom : width + 1 + 1 - 2 = width := rfl
    rw [Text.admitted_cons_of_one columns_edge, Text.admitted_cons_of_one (columns_symbol m.rank), hroom]

/-- **Of the nick in a row of the panel is shown what fits** behind the edge and the sign of the rank. -/
theorem row_member (hs : g.scrolls = false) {height : Nat} (hi : i < min height g.height)
    (hm : page[i]? = some m) :
    ∃ shown, ShownIn Text.columns (g.width - 2) (m.nick.toList.filter (Text.columns · ≠ 0)) shown ∧
      (drawPage g height page).rows[i]?
        = some (g.fill (Cell.ofGlyphs (edge :: m.rank.symbol :: shown) g.style)) := by
  refine ⟨_, Text.shownIn_admitted Text.columns_le_two (g.width - 2) m.nick.toList, ?_⟩
  rw [getElem?_rows_drawPage hs hi, hm, rowOf_member]

end Roster
end ChatConsole
