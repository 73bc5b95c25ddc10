/-
# The first screenful

A view that is poured anew within its rows gives each line the rows that are still free, and takes off
those that the line took.  What it leaves is the beginning of what the lines leave when they are poured
in full on a pane high enough for all of them (`rows_pourFirst_new`).  Each row that is ended runs one
new line, and no more rows are ended than the view has; the pane has one row more, so that its first rows
are never pushed off (`turnsOfFirst_new`).
-/

import ChatConsole.Proofs.Flow.Glyphs
import ChatConsole.Proofs.Window.Frozen

namespace ChatConsole

open Markup

/-! ### A cap that is not reached -/

namespace Sheet

variable {m : Measure}

/-- A run that ends fewer rows than the cap is the run without it. -/
theorem run_uncapped (ts : List Token) {s : Sheet} (h : (s.run m ts).rows.length < m.cap) :
    s.run (uncapped m) ts = s.run m ts := by
  induction ts generalizing s with
  | nil => rfl
  | cons t ts ih =>
    have hroom : (s.step m t ts).isFull m = false := by
      by_contra hfull
      rw [Bool.not_eq_false] at hfull
      rw [run, if_pos hfull] at h
      simp only [isFull, Bool.and_eq_true, decide_eq_true_eq] at hfull
      omega
    have hrun : s.run m (t :: ts) = (s.step m t ts).run m ts := by
      rw [run, hroom, if_neg Bool.false_ne_true]
    rw [hrun] at h ⊢
    rw [run, step_uncapped hroom, isFull_uncapped, if_neg Bool.false_ne_true, ih h]

theorem ofText_of_lt (p : Color.Palette) (text : String) (width indent : Nat) {n : Nat}
    (h : (ofText p text width indent 0).rows.length < n) :
    ofText p text width indent n = ofText p text width indent 0 := by
  have hfew : (ofText p text width indent n).rows.length < n := by
    rw [rows_ofText_cap _ _ _ _ _ (Nat.zero_lt_of_lt h), List.length_take]
    exact Nat.lt_of_le_of_lt (Nat.min_le_right ..) h
  exact (run_uncapped (m := .of width indent n) _ hfew).symm

end Sheet

namespace Grid

variable {g : Grid} {p : Color.Palette} {lines : List Line} {n : Nat}

/-! ### Empty lines -/

/-- The lines that take a row: those that are not empty. -/
def nonEmpty (lines : List Line) : List Line :=
  lines.filter (·.text ≠ "")

theorem nonEmpty_cons_of_empty {line : Line} (h : line.text = "") (rest : List Line) :
    nonEmpty (line :: rest) = nonEmpty rest :=
  List.filter_cons_of_neg (by simp [h])

theorem nonEmpty_cons_of_ne {line : Line} (h : line.text ≠ "") (rest : List Line) :
    nonEmpty (line :: rest) = line :: nonEmpty rest :=
  List.filter_cons_of_pos (by simp [h])

theorem ne_empty_of_mem_nonEmpty : ∀ line ∈ nonEmpty lines, line.text ≠ "" := by
  intro line hline
  simpa using (List.mem_filter.1 hline).2

/-- An empty text takes nothing. -/
theorem pour_empty (g : Grid) (p : Color.Palette) (indent cap : Nat) :
    g.pour p "" indent cap = ⟨g, p, 0⟩ :=
  rfl

theorem pourLines_nonEmpty (q : Grid × Color.Palette) (lines : List Line) :
    pourLines q (nonEmpty lines) = pourLines q lines := by
  induction lines generalizing q with
  | nil => rfl
  | cons line lines ih =>
    by_cases hline : line.text = ""
    · rw [nonEmpty_cons_of_empty hline, ih, pourLines, hline]
      rfl
    · rw [nonEmpty_cons_of_ne hline, pourLines, pourLines]
      exact ih _

theorem rowsOfLines_nonEmpty (width : Nat) (lines : List Line) :
    rowsOfLines width (nonEmpty lines) = rowsOfLines width lines := by
  induction lines with
  | nil => rfl
  | cons line lines ih =>
    by_cases hline : line.text = ""
    · have hnone : rowsTaken "" line.indent width = 0 := rfl
      rw [nonEmpty_cons_of_empty hline, ih, rowsOfLines, hline, hnone, Nat.zero_add]
    · rw [nonEmpty_cons_of_ne hline, rowsOfLines, rowsOfLines, ih]

/-! ### New lines -/

/-- New lines that pouring lines within some rows runs. -/
def turnsOfFirst (q : Grid × Color.Palette) : List Line → Nat → List Turn
  | [], _ => []
  | line :: rest, free =>
    if free = 0 then []
    else
      let poured := q.1.pour q.2 line.text line.indent free
      q.1.turnsOfPour q.2 line.text line.indent free ++
        turnsOfFirst (poured.grid, poured.palette) rest (free - poured.rows)

theorem pourFirst_nonEmpty (q : Grid × Color.Palette) (lines : List Line) (n : Nat) :
    pourFirst q (nonEmpty lines) n = pourFirst q lines n ∧
      turnsOfFirst q (nonEmpty lines) n = turnsOfFirst q lines n := by
  induction lines generalizing q n with
  | nil => exact ⟨rfl, rfl⟩
  | cons line lines ih =>
    by_cases hfree : n = 0
    · subst hfree
      rw [pourFirst_zero, pourFirst_zero]
      cases nonEmpty (line :: lines) <;> exact ⟨rfl, rfl⟩
    by_cases hline : line.text = ""
    · have hturns : q.1.turnsOfPour q.2 "" line.indent n = [] := rfl
      rw [nonEmpty_cons_of_empty hline, pourFirst, turnsOfFirst, if_neg hfree, if_neg hfree, hline,
        hturns, pour_empty]
      exact ih q n
    · rw [nonEmpty_cons_of_ne hline, pourFirst, pourFirst, turnsOfFirst, turnsOfFirst, if_neg hfree,
        if_neg hfree, if_neg hfree, if_neg hfree]
      obtain ⟨hpour, hturns⟩ := ih _ _
      exact ⟨hpour, congrArg _ hturns⟩

/-! ### Lines poured within some rows of a page -/

theorem length_rowsOf (hw : 2 ≤ g.width) (p : Color.Palette)
    (hlines : ∀ line ∈ lines, line.text ≠ "") :
    (g.rowsOf p lines).1.length = rowsOfLines g.width lines := by
  induction lines generalizing p with
  | nil => rfl
  | cons line lines ih =>
    rw [rowsOf, rowsOfLines, rowsTaken_eq p (hlines line List.mem_cons_self) _ hw,
      List.length_append, List.length_map, ih _ fun l hl => hlines l (List.mem_cons_of_mem _ hl)]

/-- **Within some rows the first rows of the lines are left**, and each of them runs a new line. -/
theorem pourFirst_page (hs : g.scrolls = true) (hh : 0 < g.height) (hw : 2 ≤ g.width)
    (hstyle : g.style = {}) (hlines : ∀ line ∈ lines, line.text ≠ "") (p : Color.Palette) (n : Nat)
    (ended : List (List Cell)) :
    (pourFirst (g.page ended [] [], p) lines n).1
        = g.page (ended ++ (g.rowsOf p lines).1.take n) [] [] ∧
      turnsOfFirst (g.page ended [] [], p) lines n
        = List.replicate ((g.rowsOf p lines).1.take n).length .ended := by
  have hplain : { g with style := {} } = g := by rw [← hstyle]
  induction lines generalizing p n ended with
  | nil => simp [pourFirst, turnsOfFirst, rowsOf]
  | cons line lines ih =>
    by_cases hfree : n = 0
    · simp [hfree, pourFirst, turnsOfFirst]
    have hline : line.text ≠ "" := hlines line List.mem_cons_self
    have hpour : (g.page ended [] []).pour p line.text line.indent n = _ :=
      pour_page hs hh hw p hline line.indent n
    have hturns : (g.page ended [] []).turnsOfPour p line.text line.indent n = _ :=
      turnsOfPour_page hs hh hw p hline line.indent n
    rw [pourFirst, turnsOfFirst, if_neg hfree, if_neg hfree, hpour, hturns, hplain, rowsOf]
    dsimp only
    rcases Nat.lt_or_ge (Sheet.ofText p line.text g.width line.indent 0).rows.length n with
      hroom | hcut
    · -- The line is not cut, and those behind it have the rows that it leaves.
      obtain ⟨hrest, hmore⟩ := ih (fun l hl => hlines l (List.mem_cons_of_mem _ hl))
        (Sheet.ofText p line.text g.width line.indent 0).palette
        (n - (Sheet.ofText p line.text g.width line.indent 0).rows.length)
        (ended ++ (Sheet.ofText p line.text g.width line.indent 0).rows.map g.fill)
      have htake (below : List (List Cell)) :
          ((Sheet.ofText p line.text g.width line.indent 0).rows.map g.fill ++ below).take n
            = (Sheet.ofText p line.text g.width line.indent 0).rows.map g.fill ++
              below.take (n - (Sheet.ofText p line.text g.width line.indent 0).rows.length) := by
        rw [List.take_append, List.length_map, List.take_of_length_le]
        rw [List.length_map]
        exact Nat.le_of_lt hroom
      rw [Sheet.ofText_of_lt _ _ _ _ hroom, hrest, hmore, htake, List.append_assoc, List.length_append,
        List.length_map, List.replicate_append_replicate]
      exact ⟨rfl, rfl⟩
    · -- The line takes the rows that were left.
      have hrows : (Sheet.ofText p line.text g.width line.indent n).rows = _ :=
        Sheet.rows_ofText_cap p line.text g.width line.indent n (Nat.pos_of_ne_zero hfree)
      have hlength : (Sheet.ofText p line.text g.width line.indent n).rows.length = n := by
        rw [hrows, List.length_take, Nat.min_eq_left hcut]
      have htake (below : List (List Cell)) :
          ((Sheet.ofText p line.text g.width line.indent 0).rows.map g.fill ++ below).take n
            = (Sheet.ofText p line.text g.width line.indent n).rows.map g.fill := by
        rw [List.take_append_of_le_length (by rw [List.length_map]; exact hcut), hrows, List.map_take]
      have hnone (q : Grid × Color.Palette) : turnsOfFirst q lines 0 = [] := by
        cases lines <;> rfl
      rw [htake, hlength, Nat.sub_self, pourFirst_zero, hnone, List.append_nil, List.length_map,
        hlength]
      exact ⟨rfl, rfl⟩

/-! ### Grids that take no text -/

theorem turnsOfFirst_of_small (h : g.width < 2 ∨ g.height = 0) (lines : List Line) (n : Nat) :
    turnsOfFirst (g, p) lines n = [] := by
  induction lines generalizing n with
  | nil => rfl
  | cons line lines ih =>
    have hturns : g.turnsOfPour p line.text line.indent n = [] := by
      rw [turnsOfPour, if_pos]
      simp only [Bool.or_eq_true, decide_eq_true_eq]
      rcases h with h | h
      · exact Or.inl (Or.inr h)
      · exact Or.inr h
    simp only [turnsOfFirst, pour_of_small h, hturns, ih, List.append_nil, ite_self]

variable {width height : Nat}

/-- A grid of less than two columns has no row for a line. -/
theorem rowsOfLines_of_small (hw : width < 2) (lines : List Line) : rowsOfLines width lines = 0 := by
  induction lines with
  | nil => rfl
  | cons line lines ih =>
    have hsmall : (new width 1 true).width < 2 ∨ (new width 1 true).height = 0 := Or.inl hw
    rw [rowsOfLines, rowsTaken, pour_of_small hsmall, ih]

/-! ### A blank grid -/

/-- The rows of lines on a blank grid do not depend on its height. -/
theorem rowsOf_new (width height high : Nat) (p : Color.Palette) (lines : List Line) :
    (new width height true).rowsOf p lines = (new width high true).rowsOf p lines := by
  induction lines generalizing p with
  | nil => rfl
  | cons line lines ih =>
    rw [rowsOf, rowsOf, ih]
    rfl

theorem length_rowsOf_new (hw : 2 ≤ width) (height : Nat) (p : Color.Palette) (lines : List Line) :
    ((new width height true).rowsOf p (nonEmpty lines)).1.length = rowsOfLines width lines :=
  (length_rowsOf (g := new width height true) hw p ne_empty_of_mem_nonEmpty).trans
    (rowsOfLines_nonEmpty ..)

/-- Lines poured in full on a blank grid that is high enough leave all their rows. -/
theorem rows_pourLines_new (hw : 2 ≤ width) (hroom : rowsOfLines width lines < height)
    (p : Color.Palette) :
    (pourLines (new width height true, p) lines).1.rows
      = ((new width height true).rowsOf p (nonEmpty lines)).1 ++
          List.replicate (height - rowsOfLines width lines) (new width height true).blankRow := by
  have hlength := length_rowsOf_new hw height p lines
  rw [← pourLines_nonEmpty,
    pourLines_new hw (Nat.zero_lt_of_lt hroom) ne_empty_of_mem_nonEmpty,
    rows_page_of_room (by rw [height_new, hlength]; exact hroom), height_new, hlength]

/-- Lines poured within some rows of a blank grid leave their first rows, if they stop above its last
row; each of these rows runs a new line, which the cursor follows. -/
theorem pourFirst_new (hw : 2 ≤ width) (hn : n < height) (p : Color.Palette) (lines : List Line) :
    let poured := (pourFirst (new width height true, p) lines n).1
    let rows := ((new width height true).rowsOf p (nonEmpty lines)).1.take n
    poured.rows = rows ++ List.replicate (height - rows.length) (new width height true).blankRow ∧
      poured.row = rows.length ∧
      turnsOfFirst (new width height true, p) lines n = List.replicate rows.length .ended := by
  intro poured rows
  have hh : 0 < height := Nat.zero_lt_of_lt hn
  have hheight : 0 < (new width height true).height := by rwa [height_new]
  have hlines : ∀ line ∈ nonEmpty lines, line.text ≠ "" := ne_empty_of_mem_nonEmpty
  obtain ⟨hpour, hturns⟩ := pourFirst_page (g := new width height true) rfl hheight hw rfl hlines p n []
  rw [← new_eq_page true hh, (pourFirst_nonEmpty ..).1, List.nil_append] at hpour
  rw [← new_eq_page true hh, (pourFirst_nonEmpty ..).2] at hturns
  have hpage : poured = (new width height true).page rows [] [] := hpour
  have hfew : rows.length ≤ n := List.length_take_le ..
  refine ⟨?_, ?_, hturns⟩
  · have hroom : rows.length < (new width height true).height := by
      rw [height_new]
      omega
    rw [hpage, rows_page_of_room hroom, height_new]
  · have hrow : poured.row = min rows.length ((new width height true).height - 1) := by
      rw [hpage]
      rfl
    rw [hrow, height_new]
    omega

/-- **Within some rows of a blank grid the first rows are left of what the lines leave when they are
poured in full.** -/
theorem rows_pourFirst_new (hn : n < height) (p : Color.Palette) {high : Nat}
    (hroom : rowsOfLines width lines < high) (hhigh : n ≤ high) :
    (pourFirst (new width height true, p) lines n).1.rows
      = (pourLines (new width high true, p) lines).1.rows.take n ++
          List.replicate (height - n) (new width height true).blankRow := by
  have hblank : (new width height true).blankRow = (new width high true).blankRow := rfl
  by_cases hw : 2 ≤ width
  · obtain ⟨hrows, -⟩ := pourFirst_new hw hn p lines
    have hlength := length_rowsOf_new hw high p lines
    have hblanks : height - min n (rowsOfLines width lines)
        = min (n - rowsOfLines width lines) (high - rowsOfLines width lines) + (height - n) := by
      omega
    rw [hrows, rows_pourLines_new hw hroom, rowsOf_new width height high, hblank, List.take_append,
      List.length_take, hlength, List.take_replicate, List.append_assoc,
      List.replicate_append_replicate, hblanks]
  · have hsmall (h : Nat) : (new width h true).width < 2 ∨ (new width h true).height = 0 :=
      Or.inl (Nat.lt_of_not_le hw)
    have hall : n + (height - n) = height := by omega
    rw [pourFirst_of_small (hsmall height), pourLines_of_small (hsmall high)]
    show List.replicate height (new width height true).blankRow
      = (List.replicate high (new width height true).blankRow).take n ++ _
    rw [List.take_replicate, Nat.min_eq_left hhigh, List.replicate_append_replicate, hall]

/-- Within fewer rows than a blank grid has nothing scrolls: the cursor goes down one row for each new
line. -/
theorem turnsOfFirst_new (width : Nat) (hn : n < height) (p : Color.Palette) (lines : List Line) :
    (pourFirst (new width height true, p) lines n).1.row = min n (rowsOfLines width lines) ∧
      turnsOfFirst (new width height true, p) lines n
        = List.replicate (min n (rowsOfLines width lines)) .ended := by
  by_cases hw : 2 ≤ width
  · obtain ⟨-, hrow, hturns⟩ := pourFirst_new hw hn p lines
    rw [List.length_take, length_rowsOf_new hw] at hrow hturns
    exact ⟨hrow, hturns⟩
  · have hsmall : (new width height true).width < 2 ∨ (new width height true).height = 0 :=
      Or.inl (Nat.lt_of_not_le hw)
    rw [pourFirst_of_small hsmall, turnsOfFirst_of_small hsmall,
      rowsOfLines_of_small (Nat.lt_of_not_le hw), Nat.min_zero]
    exact ⟨rfl, rfl⟩

end Grid

namespace Window

variable {w : Window} {rows : Nat}

/-- A pane has one row more than the view. -/
theorem paneHeight_eq (hrows : 3 ≤ rows) : paneHeight rows = viewHeight rows + 1 := by
  unfold paneHeight viewHeight
  omega

/-- **A limited redraw shows exactly the first screenful.**  On a pane as it is laid out the lines from a
position on are poured within the rows of the view.  These are then the first rows of what the same lines
leave, poured in full one after another, on a blank grid of the same width that is high enough for all of
them; the row below the view is blank.  The pane has not scrolled: it ran a new line for each row that
its cursor has gone down, and no other.  Nothing else of the window changes.  A position behind the last
line is refused, and a refusal leaves nothing but its cause. -/
theorem redraw_screenful (hpane : w.pane.IsPane) (hheight : w.pane.height = paneHeight rows)
    (hrows : 4 ≤ rows) (palette : Color.Palette) (position : Nat) :
    let lines := w.backlog.since position
    let taken := Grid.rowsOfLines w.pane.width lines
    (position < w.backlog.size → ∃ q, w.redraw palette rows position true = .ok q ∧
      q.1 = { w with pane := q.1.pane } ∧
      (∀ high, taken < high → viewHeight rows ≤ high →
        q.1.pane.rows
          = (Grid.pourLines (.new w.pane.width high true, palette) lines).1.rows.take
              (viewHeight rows) ++ [w.pane.blankRow]) ∧
      q.1.pane.row = min (viewHeight rows) taken ∧
      Grid.turnsOfFirst (w.pane.erase, palette) lines (viewHeight rows)
        = List.replicate q.1.pane.row .ended) ∧
    (w.backlog.size ≤ position → w.backlog.size ≠ 0 →
      w.redraw palette rows position true = .error (.badPosition position)) := by
  intro lines taken
  refine ⟨?_, ?_⟩
  · intro hposition
    have hsize : 0 < w.backlog.size := Nat.zero_lt_of_lt hposition
    have hok : w.redraw palette rows position true = .ok (w.redrawFrom palette rows position) := by
      rw [redraw, if_neg (Nat.ne_of_gt hsize), if_neg (Nat.not_le.2 hposition), if_pos rfl]
    have hpoured : (w.redrawFrom palette rows position).1.pane
        = (Grid.pourFirst (.new w.pane.width w.pane.height true, palette) lines
            (viewHeight rows)).1 :=
      congrArg Prod.fst (pane_redrawFrom hpane hsize position)
    have hbelow : w.pane.height = viewHeight rows + 1 :=
      hheight.trans (paneHeight_eq (Nat.le_of_lt hrows))
    have hn : viewHeight rows < w.pane.height := by omega
    have hone : w.pane.height - viewHeight rows = 1 := by omega
    have hnew : w.pane.erase = .new w.pane.width w.pane.height true := hpane.resize _ _
    have hblank : w.pane.blankRow = (Grid.new w.pane.width w.pane.height true).blankRow := by
      rw [Grid.blankRow, Grid.blank, hpane.background]
      rfl
    obtain ⟨hrow, hturns⟩ := Grid.turnsOfFirst_new w.pane.width hn palette lines
    refine ⟨_, hok, (paneOnly_redrawFrom ..).rest, ?_, ?_, ?_⟩
    · intro high hroom hhigh
      rw [hpoured, Grid.rows_pourFirst_new hn palette hroom hhigh, hone, hblank]
      rfl
    · rw [hpoured]
      exact hrow
    · rw [hpoured, hrow, hnew]
      exact hturns
  · intro hposition hsize
    rw [redraw, if_neg hsize, if_pos hposition]

/-- A view of three rows: the line above it is out of view, its first line takes two rows, an empty line
takes none, and the last one is cut after its first row. -/
theorem redraw_screenful_cut :
    let lines : List Line := [⟨"above", 0⟩, ⟨"ab cd ef gh", 2⟩, ⟨"", 0⟩, ⟨"one two three", 0⟩]
    let w := { new "bob" none 2 9 6 8 with backlog := { lines, capacity := 9 } }
    w.pane.IsPane ∧ w.pane.height = paneHeight 6 ∧ 4 ≤ 6 ∧ 1 < w.backlog.size ∧
      (∃ q, w.redraw .off 6 1 true = .ok q ∧
        q.1.pane.rows.map (List.map Cell.char)
          = ["ab cd   ".toList, "  ef gh ".toList, "one two ".toList, "        ".toList] ∧
        q.1.pane.row = 3 ∧
        Grid.turnsOfFirst (w.pane.erase, .off) (w.backlog.since 1) 3
          = List.replicate q.1.pane.row .ended) ∧
      w.redraw .off 6 4 true = .error (.badPosition 4) := by
  intro lines w
  have hpane : w.pane.IsPane := ⟨by decide, by decide, by decide⟩
  have hheight : w.pane.height = paneHeight 6 := by decide
  obtain ⟨hfirst, -⟩ := redraw_screenful hpane hheight (by decide) .off 1
  obtain ⟨q, hok, -, hrows, hrow, hturns⟩ := hfirst (by decide)
  obtain ⟨-, hrefused⟩ := redraw_screenful hpane hheight (by decide) .off 4
  have hshown : q.1.pane.rows = _ := hrows 6 (by decide +kernel) (by decide)
  have htaken : min (viewHeight 6) (Grid.rowsOfLines w.pane.width (w.backlog.since 1)) = 3 := by
    decide +kernel
  refine ⟨hpane, hheight, by decide, by decide, ⟨q, hok, ?_, hrow.trans htaken, hturns⟩,
    hrefused (by decide) (by decide)⟩
  rw [hshown]
  decide +kernel

end Window
end ChatConsole
