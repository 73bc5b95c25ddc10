/-
# Paging up

A page up is counted in lines: as many above the view as fill it, counted from the old top upwards.  The
view is then poured from the new top downwards, and cut at its last row.  Behind the first of them the
lines of a page count for fewer rows than the view has (`pageRows_between_lt`), so that each of them has a
row in view unless the first one takes it away (`pageUp_shows`).  A first line that is long enough does
so: what stands between it and the old top is then in view neither before nor after
(`pageUp_hides_line`).
-/

import ChatConsole.Proofs.Window.Screenful

namespace ChatConsole

/-! ### Lines between two positions -/

namespace Backlog

variable {b : Backlog} {first i last : Nat}

/-- The lines from one position up to another. -/
def between (b : Backlog) (first last : Nat) : List Line :=
  (b.since first).take (last - first)

@[simp] theorem between_self (b : Backlog) (first : Nat) : b.between first first = [] := by
  rw [between, Nat.sub_self, List.take_zero]

theorem since_eq_drop (hfirst : first ≤ i) : b.since i = (b.since first).drop (i - first) := by
  rw [since, since, List.drop_drop, Nat.add_sub_of_le hfirst]

theorem between_append (hfirst : first ≤ i) (hlast : i ≤ last) :
    b.between first i ++ b.between i last = b.between first last := by
  have hcount : last - first = (i - first) + (last - i) := by omega
  rw [between, between, between, since_eq_drop hfirst, hcount, List.take_add]

theorem since_of_get? {line : Line} (h : b.get? i = some line) :
    b.since i = line :: b.since (i + 1) := by
  obtain ⟨hi, rfl⟩ := List.getElem?_eq_some_iff.1 h
  exact List.drop_eq_getElem_cons hi

theorem between_succ {line : Line} (h : b.get? i = some line) : b.between i (i + 1) = [line] := by
  rw [between, since_of_get? h, Nat.add_sub_cancel_left]
  rfl

/-- What stands from a position on is what stands up to a later one, the line there and the rest. -/
theorem since_eq_between_append (hfirst : first ≤ i) {line : Line} (h : b.get? i = some line) :
    b.since first = b.between first i ++ line :: b.since (i + 1) := by
  rw [← since_of_get? h, since_eq_drop hfirst, between, List.take_append_drop]

end Backlog

/-! ### Lines in view -/

namespace Grid

/-- From some row on a grid shows a line: its rows stand there one below the other, down to the end of
a view of some height. -/
structure ShowsFrom (g : Grid) (height y : Nat) (line : Line) : Prop where
  in_view : y < height
  rows : ∃ palette, ∀ k < rowsTaken line.text line.indent g.width, y + k < height →
    g.rows[y + k]? = (g.printed palette line.text line.indent 0)[k]?

theorem rowsOfLines_append (width : Nat) (before after : List Line) :
    rowsOfLines width (before ++ after) = rowsOfLines width before + rowsOfLines width after := by
  induction before with
  | nil => rw [List.nil_append, rowsOfLines, Nat.zero_add]
  | cons line before ih => rw [List.cons_append, rowsOfLines, rowsOfLines, ih, Nat.add_assoc]

/-- On grids that differ in their cells, cursors and styles only a text has the same rows. -/
theorem SameFrame.printed {g h : Grid} (hframe : SameFrame g h) (p : Color.Palette) (text : String)
    (indent cap : Nat) : h.printed p text indent cap = g.printed p text indent cap := by
  obtain ⟨hwidth, -, -, hbackground⟩ := hframe
  unfold Grid.printed fill blank
  rw [hwidth, hbackground]

/-- The rows of a line stand between those of the lines before it and of the lines behind it. -/
theorem exists_rowsOf_line (g : Grid) (p : Color.Palette) (before after : List Line) {line : Line}
    (hline : line.text ≠ "") :
    ∃ palette below, (g.rowsOf p (nonEmpty (before ++ line :: after))).1
      = (g.rowsOf p (nonEmpty before)).1 ++ (g.printed palette line.text line.indent 0 ++ below) := by
  have hsplit : nonEmpty (before ++ line :: after) = nonEmpty before ++ line :: nonEmpty after := by
    rw [← nonEmpty_cons_of_ne hline]
    exact List.filter_append ..
  rw [hsplit, rowsOf_append, rowsOf]
  exact ⟨_, _, rfl⟩

variable {width height n : Nat}

/-- Among lines that are poured within some rows a line shows below those before it. -/
theorem showsFrom_pourFirst (hw : 2 ≤ width) (hn : n < height) (p : Color.Palette)
    (before after : List Line) {line : Line} (hline : line.text ≠ "")
    (hroom : rowsOfLines width before < n) :
    (pourFirst (new width height true, p) (before ++ line :: after) n).1.ShowsFrom n
      (rowsOfLines width before) line := by
  have hframe : SameFrame (new width height true) _ :=
    frame_pourFirst (new width height true, p) (before ++ line :: after) n
  obtain ⟨hrows, -⟩ := pourFirst_new hw hn p (before ++ line :: after)
  obtain ⟨palette, below, hsplit⟩ :=
    exists_rowsOf_line (new width height true) p before after hline
  have habove := length_rowsOf_new hw height p before
  have hlength : ((new width height true).printed palette line.text line.indent 0).length
      = rowsTaken line.text line.indent width :=
    (length_printed palette hline line.indent 0 hw).trans (if_pos rfl)
  rw [hsplit] at hrows
  refine ⟨hroom, palette, ?_⟩
  intro k hk hview
  rw [hframe.width] at hk
  have hrow : k < ((new width height true).printed palette line.text line.indent 0).length :=
    Nat.lt_of_lt_of_eq hk hlength.symm
  rw [hframe.printed, hrows, List.getElem?_append_left, List.getElem?_take_of_lt hview,
    List.getElem?_append_right (by omega), habove, Nat.add_sub_cancel_left,
    List.getElem?_append_left hrow]
  simp only [List.length_take, List.length_append]
  omega

/-- Of the stored lines that are poured within some rows each one shows below those before it, if they
leave it a row; otherwise they show alone. -/
theorem shows_of_pourFirst_since {g : Grid} {p q : Color.Palette} {b : Backlog} {position i : Nat}
    (hpoured : (g, q) = pourFirst (new width height true, p) (b.since position) n) (hw : 2 ≤ width)
    (hn : n < height) (hposition : position ≤ i) {line : Line} (hget : b.get? i = some line)
    (hline : line.text ≠ "") :
    let above := rowsOfLines width (b.between position i)
    (above < n → g.ShowsFrom n above line) ∧ (n ≤ above → g.ShowsFirst q n (b.between position i)) := by
  intro above
  have hgrid : g = _ := congrArg Prod.fst hpoured
  rw [Backlog.since_eq_between_append hposition hget] at hgrid hpoured
  refine ⟨?_, ?_⟩
  · intro hroom
    rw [hgrid]
    exact showsFrom_pourFirst hw hn p _ _ hline hroom
  · intro hfilled
    have hframe : SameFrame (new width height true) g := by
      rw [hgrid]
      exact frame_pourFirst (new width height true, p) _ n
    have hshows := (ShowsFirst.of_pourFirst hpoured).behind
      (fun _ => by rw [hframe.width]; exact hfilled) []
    rwa [List.append_nil] at hshows

end Grid

namespace Window

open Grid (rowsOfLines)

/-! ### Lines that fill a page -/

/-- Rows that some lines count for in a page: those they take, and one for an empty line. -/
def pageRows (width : Nat) : List Line → Nat
  | [] => 0
  | line :: rest => max (rowsTaken line.text line.indent width) 1 + pageRows width rest

theorem pageRows_append (width : Nat) (before after : List Line) :
    pageRows width (before ++ after) = pageRows width before + pageRows width after := by
  induction before with
  | nil => rw [List.nil_append, pageRows, Nat.zero_add]
  | cons line before ih => rw [List.cons_append, pageRows, pageRows, ih, Nat.add_assoc]

/-- Counted upwards lines count for as much as downwards. -/
theorem pageRows_reverse (width : Nat) (lines : List Line) :
    pageRows width lines.reverse = pageRows width lines := by
  induction lines with
  | nil => rfl
  | cons line lines ih =>
    rw [List.reverse_cons, pageRows_append, ih, pageRows, pageRows, pageRows, Nat.add_zero, Nat.add_comm]

/-- Lines take no more rows than they count for. -/
theorem rowsOfLines_le_pageRows (width : Nat) (lines : List Line) :
    rowsOfLines width lines ≤ pageRows width lines := by
  induction lines with
  | nil => exact Nat.le_refl _
  | cons line lines ih => exact Nat.add_le_add (Nat.le_max_left ..) ih

variable {width height filled n : Nat} {lines : List Line}

theorem countFilling_le (width height filled : Nat) (lines : List Line) :
    countFilling width height filled lines ≤ lines.length := by
  induction lines generalizing filled with
  | nil => exact Nat.le_refl _
  | cons line lines ih =>
    rw [countFilling]
    split
    · exact Nat.zero_le _
    · exact Nat.succ_le_succ (ih _)

theorem countFilling_pos (hfilled : filled < height) (hlines : lines ≠ []) :
    0 < countFilling width height filled lines := by
  cases lines with
  | nil => exact absurd rfl hlines
  | cons line lines =>
    rw [countFilling, if_neg (Nat.not_le.2 hfilled)]
    exact Nat.succ_pos _

/-- Lines are counted only as long as those before them do not fill the rows. -/
theorem pageRows_take_lt (h : n < countFilling width height filled lines) :
    filled + pageRows width (lines.take n) < height := by
  induction lines generalizing filled n with
  | nil => cases h
  | cons line lines ih =>
    rw [countFilling] at h
    split at h
    · cases h
    · rename_i hroom
      cases n with
      | zero => exact Nat.not_le.1 hroom
      | succ n =>
        rw [List.take_succ_cons, pageRows, ← Nat.add_assoc]
        exact ih (Nat.lt_of_succ_lt_succ h)

/-! ### Where the view goes -/

variable {w : Window} {p : Color.Palette} {rows : Nat} {q : Painted}

/-- Going back moves the top of the view by as many lines, or to the first one. -/
theorem viewTop_scrollUp? (hstands : w.scroll.Stands (viewHeight rows) w.backlog.size) {step : Nat}
    (h : w.scrollUp? p rows step = some q) : q.1.viewTop rows = w.viewTop rows - step := by
  have hscroll := scroll_scrollUp? h
  have hback := hstands.back_le
  cases hfrozen : w.scroll.frozen with
  | true =>
    have hbehind := hstands.behind hfrozen
    have hfroze : w.scroll.froze w.backlog.size = w.scroll := if_pos hfrozen
    rw [hfroze] at hscroll
    rw [viewTop, viewTop, hscroll, if_pos hfrozen, if_pos hfrozen]
    dsimp only
    rw [Scroll.goBack, if_neg (Nat.not_lt.2 hback), if_neg (by omega)]
    omega
  | false =>
    have hlive : w.scroll = {} := hstands.live hfrozen
    rw [hlive] at hscroll
    rw [viewTop, viewTop, hscroll, hlive]
    show w.backlog.size - min (viewHeight rows + step) w.backlog.size = w.backlog.size - _ - step
    omega

/-- Going back pours the view anew from where its top goes. -/
theorem pane_scrollUp? (hpane : w.pane.IsPane) {step : Nat} (h : w.scrollUp? p rows step = some q) :
    (q.1.pane, q.2) = Grid.pourFirst (.new w.pane.width w.pane.height true, p)
      (w.backlog.since (q.1.viewTop rows)) (viewHeight rows) := by
  obtain ⟨hmore, -, scroll, hfrozen, rfl⟩ := scrollUp?_eq_some h
  have hscroll : ({ w with scroll }.redrawFrozen p rows).1.scroll = scroll :=
    (paneOnly_redrawFrom ..).scroll
  have hsize : 0 < { w with scroll }.backlog.size := Nat.zero_lt_of_lt hmore
  rw [viewTop, hscroll, if_pos hfrozen]
  exact pane_redrawFrom (w := { w with scroll }) hpane hsize _

/-- Where going back is not refused there is a line above the view. -/
theorem viewTop_pos (hstands : w.scroll.Stands (viewHeight rows) w.backlog.size)
    (hsize : viewHeight rows < w.backlog.size) (htop : w.scroll.atTop = false) :
    0 < w.viewTop rows := by
  unfold viewTop
  split
  · rename_i hfrozen
    have hbehind := hstands.behind hfrozen
    have hback := hstands.back_le
    simp only [Scroll.atTop, Bool.and_eq_false_iff, decide_eq_false_iff_not, beq_eq_false_iff_ne] at htop
    omega
  · omega

theorem viewTop_le (hstands : w.scroll.Stands (viewHeight rows) w.backlog.size) :
    w.viewTop rows ≤ w.backlog.size := by
  have hsize := hstands.size_le
  unfold viewTop
  split <;> omega

/-- A page up does not go beyond the first line. -/
theorem pageUpStep_le (htop : 0 < w.viewTop rows) : w.pageUpStep rows ≤ w.viewTop rows := by
  have hcount := countFilling_le w.pane.width (viewHeight rows) 0
    (w.backlog.lines.take (w.viewTop rows)).reverse
  rw [List.length_reverse] at hcount
  have hlength := List.length_take_le (w.viewTop rows) w.backlog.lines
  unfold pageUpStep
  omega

/-- The lines of a page up do not fill the view without the first of them. -/
theorem pageRows_between_lt (hview : 1 ≤ viewHeight rows) (htop : 0 < w.viewTop rows)
    (hsize : w.viewTop rows ≤ w.backlog.size) :
    pageRows w.pane.width
        (w.backlog.between (w.viewTop rows - w.pageUpStep rows + 1) (w.viewTop rows))
      < viewHeight rows := by
  have hsize' : w.viewTop rows ≤ w.backlog.lines.length := hsize
  have hlength : (w.backlog.lines.take (w.viewTop rows)).length = w.viewTop rows :=
    List.length_take_of_le hsize'
  have hcount : 0 < countFilling w.pane.width (viewHeight rows) 0
      (w.backlog.lines.take (w.viewTop rows)).reverse := by
    refine countFilling_pos hview ?_
    rw [← List.length_pos_iff, List.length_reverse, hlength]
    exact htop
  have hstep : w.pageUpStep rows = countFilling w.pane.width (viewHeight rows) 0
      (w.backlog.lines.take (w.viewTop rows)).reverse := Nat.max_eq_right hcount
  have hle := pageUpStep_le htop
  have hcounted : pageRows w.pane.width
      ((w.backlog.lines.take (w.viewTop rows)).reverse.take (w.pageUpStep rows - 1))
        < viewHeight rows := by
    rw [← Nat.zero_add (pageRows ..)]
    exact pageRows_take_lt (by omega)
  have hfrom : w.viewTop rows - (w.pageUpStep rows - 1) = w.viewTop rows - w.pageUpStep rows + 1 := by
    omega
  rw [List.take_reverse, pageRows_reverse, hlength, List.drop_take, hfrom] at hcounted
  exact hcounted

/-! ### What is in view -/

/-- The lines from the first one of a page up to another do not fill the view, if the first one takes no
more rows than those from the other on count for. -/
theorem rowsOfLines_between_lt {b : Backlog} {width height top i old : Nat} (htop : top ≤ i)
    (hi : i < old) (hpage : pageRows width (b.between (top + 1) old) < height) {first : Line}
    (hfirst : b.get? top = some first)
    (hrows : rowsTaken first.text first.indent width ≤ pageRows width (b.between i old)) :
    rowsOfLines width (b.between top i) < height := by
  rcases Nat.eq_or_lt_of_le htop with rfl | hbehind
  · rw [Backlog.between_self]
    exact Nat.zero_lt_of_lt hpage
  · have hfrom : top + 1 ≤ i := hbehind
    have hsplit := pageRows_append width (b.between (top + 1) i) (b.between i old)
    have hle := rowsOfLines_le_pageRows width (b.between (top + 1) i)
    rw [Backlog.between_append hfrom (Nat.le_of_lt hi)] at hsplit
    rw [← Backlog.between_append (Nat.le_add_right top 1) hfrom, Backlog.between_succ hfirst,
      Grid.rowsOfLines_append, rowsOfLines, rowsOfLines]
    omega

end Window
end ChatConsole
