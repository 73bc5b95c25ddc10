/-
# Lines poured within some rows

A frozen view is poured from its top until its rows are filled; the last line is cut there.  A grid shows
the beginning of some lines when pouring them anew on a blank grid would leave just this grid, and
register no colour (`ShowsFirst`).  This stays so as the palette grows (`ShowsFirst.of_le`).  Once lines
have filled the rows, what is behind them has no say (`ShowsFirst.behind`): this is why lines that come
behind a frozen view do not show in it.
-/

import ChatConsole.Proofs.Flow.Again
import ChatConsole.Proofs.Flow.Turns
import ChatConsole.Proofs.Window.Live

namespace ChatConsole
namespace Grid

/-- Pour lines until some number of rows is filled; the last line is cut there. -/
def pourFirst (p : Grid × Color.Palette) : List Line → Nat → Grid × Color.Palette
  | [], _ => p
  | line :: rest, free =>
    if free = 0 then p
    else
      let poured := p.1.pour p.2 line.text line.indent free
      pourFirst (poured.grid, poured.palette) rest (free - poured.rows)

variable {g : Grid} {p q : Color.Palette} {lines : List Line} {n : Nat}

/-- With no rows free nothing is poured. -/
@[simp] theorem pourFirst_zero (p : Grid × Color.Palette) (lines : List Line) :
    pourFirst p lines 0 = p := by
  cases lines <;> rfl

theorem frame_pourFirst (p : Grid × Color.Palette) (lines : List Line) (n : Nat) :
    SameFrame p.1 (pourFirst p lines n).1 := by
  induction lines generalizing p n with
  | nil => exact .refl _
  | cons line lines ih =>
    rw [pourFirst]
    split
    · exact .refl _
    · have hline : SameFrame p.1 (p.1.pour p.2 line.text line.indent n).grid := frame_pour ..
      exact hline.trans (ih (_, _) _)

/-! ### The same again in a later palette -/

theorem le_pourFirst (g : Grid) (p : Color.Palette) (lines : List Line) (n : Nat) :
    p ≤ (pourFirst (g, p) lines n).2 := by
  induction lines generalizing g p n with
  | nil => exact le_refl p
  | cons line lines ih =>
    rw [pourFirst]
    split
    · exact le_refl p
    · exact le_trans (le_palette_pour ..) (ih ..)

theorem pourFirst_of_le (h : (pourFirst (g, p) lines n).2 ≤ q) :
    pourFirst (g, q) lines n = ((pourFirst (g, p) lines n).1, q) := by
  induction lines generalizing g p n with
  | nil => rfl
  | cons line lines ih =>
    by_cases hfree : n = 0
    · subst hfree
      rw [pourFirst_zero, pourFirst_zero]
    · rw [pourFirst, if_neg hfree] at h ⊢
      rw [pourFirst, if_neg hfree]
      have hline : (g.pour p line.text line.indent n).palette ≤ q := le_trans (le_pourFirst ..) h
      simp only [pour_of_le g hline]
      exact ih h

/-- A grid of one column or no row takes nothing. -/
theorem pourFirst_of_small (h : g.width < 2 ∨ g.height = 0) :
    pourFirst (g, p) lines n = (g, p) := by
  induction lines generalizing n with
  | nil => rfl
  | cons line lines ih =>
    rw [pourFirst]
    split
    · rfl
    · simp only [pour_of_small h, ih]

/-! ### What comes behind lines that fill the rows -/

/-- Rows that some lines take, one below the other, on a grid of some width. -/
def rowsOfLines (width : Nat) : List Line → Nat
  | [] => 0
  | line :: rest => rowsTaken line.text line.indent width + rowsOfLines width rest

/-- Lines of which none is empty take a row each at least. -/
theorem length_le_rowsOfLines {width : Nat} (hw : 2 ≤ width)
    (hlines : ∀ line ∈ lines, line.text ≠ "") : lines.length ≤ rowsOfLines width lines := by
  induction lines with
  | nil => exact Nat.zero_le _
  | cons line lines ih =>
    have hrest := ih fun l hl => hlines l (List.mem_cons_of_mem _ hl)
    have hrow : 0 < rowsTaken line.text line.indent width := by
      rw [rowsTaken_eq .off (hlines line List.mem_cons_self) _ hw]
      exact List.length_pos_iff.2 (Sheet.rows_ofText_ne_nil _ _ _ _ _)
    rw [rowsOfLines, List.length_cons]
    omega

/-- With a cap a text takes as many rows as there are left for it. -/
theorem length_rows_ofText_cap (hw : 2 ≤ g.width) (p : Color.Palette) {line : Line}
    (hline : line.text ≠ "") (hn : 0 < n) :
    (Sheet.ofText p line.text g.width line.indent n).rows.length
      = min n (rowsTaken line.text line.indent g.width) := by
  rw [Sheet.rows_ofText_cap _ _ _ _ _ hn, List.length_take, rowsTaken_eq p hline _ hw]

/-- Lines that fill the rows leave none for those behind them. -/
theorem pourFirst_page_append (hs : g.scrolls = true) (hh : 0 < g.height) (hw : 2 ≤ g.width)
    (hstyle : g.style = {}) {more : List Line} (hfill : n ≤ rowsOfLines g.width lines)
    (ended : List (List Cell)) :
    pourFirst (g.page ended [] [], p) (lines ++ more) n
      = pourFirst (g.page ended [] [], p) lines n := by
  have hplain : { g with style := {} } = g := by rw [← hstyle]
  induction lines generalizing p n ended with
  | nil =>
    obtain rfl : n = 0 := Nat.le_zero.1 hfill
    rw [pourFirst_zero, pourFirst_zero]
  | cons line lines ih =>
    by_cases hfree : n = 0
    · rw [hfree, pourFirst_zero, pourFirst_zero]
    rw [List.cons_append, pourFirst, if_neg hfree, pourFirst, if_neg hfree]
    rw [rowsOfLines] at hfill
    by_cases hline : line.text = ""
    · have hnone : rowsTaken "" line.indent g.width = 0 := rfl
      have hpour : (g.page ended [] []).pour p line.text line.indent n
          = ⟨g.page ended [] [], p, 0⟩ := by
        rw [hline]
        rfl
      rw [hline, hnone, Nat.zero_add] at hfill
      simp only [hpour, Nat.sub_zero]
      exact ih hfill ended
    · have hpour : (g.page ended [] []).pour p line.text line.indent n = _ :=
        pour_page hs hh hw p hline line.indent n
      have hrows := length_rows_ofText_cap hw p hline (Nat.pos_of_ne_zero hfree)
      simp only [hpour, hplain]
      refine ih ?_ _
      omega

/-! ### The beginning of lines that a grid shows -/

/-- Pouring the lines anew within some rows would leave this grid, and register no colour. -/
def ShowsFirst (g : Grid) (palette : Color.Palette) (n : Nat) (lines : List Line) : Prop :=
  pourFirst (new g.width g.height true, palette) lines n = (g, palette)

namespace ShowsFirst

variable {width height : Nat}

/-- What lines leave on a blank grid shows their beginning. -/
theorem of_pourFirst (h : (g, q) = pourFirst (new width height true, p) lines n) :
    ShowsFirst g q n lines := by
  obtain ⟨hwidth, hheight, -, -⟩ := frame_pourFirst (new width height true, p) lines n
  have hagain : pourFirst (new width height true, q) lines n = (g, q) := by
    have hlast : (pourFirst (new width height true, p) lines n).2 ≤ q := by rw [← h]
    rw [pourFirst_of_le hlast, ← h]
  rw [← h] at hwidth hheight
  rw [height_new] at hheight
  unfold ShowsFirst
  rw [hwidth, hheight]
  exact hagain

/-- Registering more colours changes nothing. -/
theorem of_le (h : ShowsFirst g p n lines) (hq : p ≤ q) : ShowsFirst g q n lines := by
  unfold ShowsFirst at h ⊢
  rw [pourFirst_of_le (by rw [h]; exact hq), h]

/-- Of lines that fill the rows only they show, whatever comes behind them. -/
theorem behind {before : List Line} (h : ShowsFirst g p n (lines ++ before))
    (hfill : 2 ≤ g.width → n ≤ rowsOfLines g.width lines) (after : List Line) :
    ShowsFirst g p n (lines ++ after) := by
  unfold ShowsFirst at h ⊢
  by_cases htakes : 2 ≤ g.width ∧ 0 < g.height
  · obtain ⟨hw, hh⟩ := htakes
    have hheight : 0 < (new g.width g.height true).height := by rwa [height_new]
    have hpage (more : List Line) :
        pourFirst ((new g.width g.height true).page [] [] [], p) (lines ++ more) n
          = pourFirst ((new g.width g.height true).page [] [] [], p) lines n :=
      pourFirst_page_append rfl hheight hw rfl (hfill hw) []
    rw [← new_eq_page true hh] at hpage
    rw [hpage, ← hpage before]
    exact h
  · have hsmall : (new g.width g.height true).width < 2 ∨ (new g.width g.height true).height = 0 := by
      rw [height_new]
      show g.width < 2 ∨ g.height = 0
      omega
    rw [pourFirst_of_small hsmall] at h ⊢
    exact h

end ShowsFirst
end Grid
end ChatConsole
