/-
# There and back by a page

A page up is counted from the old top upwards, a page down from the new top downwards.  So a page down
does not always take back a page up.  It does just when the lines of the page do not fill the view without
the last of them (`pageUpStep_le_pageDownStep_iff`): then it goes on by as many lines at least, and the
view is live again, on the last lines of the backlog.  This is so whenever the first line of the page takes
no more rows than the last (`pageDown_returns`).  If the first lines fill the view, the page down goes on by
these only, and stays above the old top (`pageDown_stays_frozen`).
-/

import ChatConsole.Proofs.Window.Paging

namespace ChatConsole

namespace Window

variable {w : Window} {p : Color.Palette} {rows : Nat} {q : Painted} {s : Scene}

/-! ### What every window has -/

/-- What every window has, whatever was done with it. -/
structure Regular (w : Window) : Prop where
  pane : w.pane.IsPane
  within : w.scroll.Within w.backlog.size

namespace Regular

theorem of_paneOnly {v : Window} (h : w.Regular) (hv : PaneOnly w v) : v.Regular where
  pane := h.pane.of_frame hv.frame hv.style
  within := by
    rw [hv.scroll, hv.backlog]
    exact h.within

theorem refreshView (h : w.Regular) (p : Color.Palette) (rows : Nat) :
    (w.refreshView p rows).1.Regular := by
  refine ⟨?_, ?_⟩
  · unfold Window.refreshView
    split
    · exact h.pane.of_frame (paneOnly_redrawFrom ..).frame (paneOnly_redrawFrom ..).style
    · dsimp only
      split
      · have hpane : PaneOnly { w with scroll := {} } (redrawTail { w with scroll := {} } p rows).1 :=
          paneOnly_redrawFull ..
        exact h.pane.of_frame hpane.frame hpane.style
      · exact h.pane.of_frame (paneOnly_redrawFull ..).frame (paneOnly_redrawFull ..).style
  · rw [backlog_refreshView]
    exact (stands_refreshView h.within p rows).toWithin

theorem scrollUp? (h : w.Regular) {step : Nat} (hq : w.scrollUp? p rows step = some q) :
    q.1.Regular := by
  have hscroll := scroll_scrollUp? hq
  have hbacklog := backlog_scrollUp? hq
  obtain ⟨-, -, scroll, -, rfl⟩ := scrollUp?_eq_some hq
  have hpane : PaneOnly { w with scroll } (redrawFrozen { w with scroll } p rows).1 :=
    paneOnly_redrawFrom ..
  refine ⟨h.pane.of_frame hpane.frame hpane.style, ?_⟩
  rw [hscroll, hbacklog]
  exact h.within.goBack ..

theorem scrollDown? (h : w.Regular) {step : Nat} (hq : w.scrollDown? p rows step = some q) :
    q.1.Regular := by
  obtain ⟨hfrozen, rfl⟩ := scrollDown?_eq_some hq
  have hmoved : { w with scroll := { w.scroll with back := w.scroll.back - step } }.Regular :=
    ⟨h.pane, h.within.goOn hfrozen step⟩
  exact hmoved.refreshView p rows

theorem recreate (h : w.Regular) (p : Color.Palette) (rows cols : Nat) :
    (w.recreate p rows cols).1.Regular := by
  obtain ⟨width, hpane⟩ := layout_eq_new h.pane rows cols
  refine refreshView ⟨?_, ?_⟩ p rows
  · rw [pane_drawPanel, hpane]
    exact Grid.isPane_new ..
  · rw [scroll_drawPanel, scroll_layout, backlog_drawPanel, backlog_layout]
    exact h.within

end Regular

theorem regular_act (h : s.window.Regular) (a : Act) : (s.act a).window.Regular := by
  have hup (step : Nat) : (s.act (.scrollUp step)).window.Regular := by
    rcases s.scrollUp_cases step with ⟨-, hsame⟩ | ⟨q, hq, -, hact⟩
    · rwa [hsame]
    · rw [hact]
      exact h.scrollUp? hq
  have hdown (step : Nat) : (s.act (.scrollDown step)).window.Regular := by
    rcases s.scrollDown_cases step with ⟨-, hsame⟩ | ⟨q, hq, -, hact⟩
    · rwa [hsame]
    · rw [hact]
      exact h.scrollDown? hq
  cases a with
  | append line =>
    have hstored : { s.window with backlog := s.window.backlog.push line }.Regular :=
      ⟨h.pane, h.within.grow (s.window.backlog.size_le_size_push line)⟩
    exact hstored.of_paneOnly (append_rest ..)
  | scrollUp step => exact hup step
  | scrollDown step => exact hdown step
  | pageUp => exact hup _
  | pageDown => exact hdown _
  | recreate rows cols => exact h.recreate ..
  | seat roster named => exact ⟨h.pane, h.within⟩
  | resolve code => exact h

theorem regular_run (h : s.window.Regular) (acts : List Act) : (s.run acts).window.Regular := by
  induction acts generalizing s with
  | nil => exact h
  | cons a acts ih => exact ih (regular_act h a)

theorem regular_start (label : String) (title : Option String) (number capacity rows cols : Nat)
    (p : Color.Palette) : (Scene.start label title number capacity rows cols p).window.Regular := by
  obtain ⟨width, hnew⟩ : ∃ width, (Window.new label title number capacity rows cols).pane
      = Grid.new width (paneHeight rows) true := layout_eq_new (Grid.isPane_new 0 0) rows cols
  have hstands := stands_start label title number capacity rows cols p
  refine ⟨?_, hstands.toWithin⟩
  simp only [Scene.start, hnew]
  exact Grid.isPane_new ..

/-! ### The last lines poured anew -/

/-- Pouring the last lines anew pours them on a new grid of the size of the pane. -/
theorem pane_redrawTail (hpane : w.pane.IsPane) (hlines : 0 < w.backlog.size) :
    ((w.redrawTail p rows).1.pane, (w.redrawTail p rows).2)
      = Grid.pourLines (.new w.pane.width w.pane.height true, p) (w.lastLines rows) := by
  have hnew : w.pane.erase = Grid.new w.pane.width w.pane.height true := hpane.resize _ _
  have hlast : (w.backlog.since (w.backlog.size - viewHeight rows)).take (viewHeight rows)
      = w.lastLines rows := take_lastLines w rows
  rw [redrawTail, redrawFull, if_neg (Nat.ne_of_gt hlines), hlast, pourAll_eq, wipe, hnew]

/-! ### Pages counted upwards and downwards -/

/-- A line is counted if those before it do not fill the rows. -/
theorem lt_countFilling {width height filled n : Nat} {lines : List Line} (hn : n < lines.length)
    (hroom : filled + pageRows width (lines.take n) < height) :
    n < countFilling width height filled lines := by
  induction lines generalizing filled n with
  | nil => cases hn
  | cons line lines ih =>
    rw [countFilling, if_neg (by omega)]
    cases n with
    | zero => exact Nat.succ_pos _
    | succ n =>
      rw [List.take_succ_cons, pageRows, ← Nat.add_assoc] at hroom
      exact Nat.succ_lt_succ (ih (Nat.lt_of_succ_lt_succ hn) hroom)

/-- A page down from some line on goes on by a number of lines just when those before the last of them do
not fill the view. -/
theorem le_pageDownStep_iff {n : Nat} (hone : 1 ≤ n) (hlines : w.viewTop rows + n ≤ w.backlog.size) :
    n ≤ w.pageDownStep rows ↔
      n = 1 ∨ pageRows w.pane.width
        (w.backlog.between (w.viewTop rows) (w.viewTop rows + n - 1)) < viewHeight rows := by
  have hbetween : w.backlog.between (w.viewTop rows) (w.viewTop rows + n - 1)
      = (w.backlog.since (w.viewTop rows)).take (n - 1) := by
    rw [Backlog.between, show w.viewTop rows + n - 1 - w.viewTop rows = n - 1 by omega]
  have hlength : n - 1 < (w.backlog.since (w.viewTop rows)).length := by
    have hsize : w.viewTop rows + n ≤ w.backlog.lines.length := hlines
    rw [Backlog.since, List.length_drop]
    omega
  rw [hbetween, pageDownStep]
  constructor
  · intro hstep
    rcases Nat.eq_or_lt_of_le hone with hfirst | hmany
    · exact Or.inl hfirst.symm
    · refine Or.inr ?_
      have hcounted : n - 1 < countFilling w.pane.width (viewHeight rows) 0
          (w.backlog.since (w.viewTop rows)) := by omega
      have hroom := pageRows_take_lt hcounted
      rwa [Nat.zero_add] at hroom
  · rintro (hfirst | hroom)
    · omega
    · have hcounted : n - 1 < countFilling w.pane.width (viewHeight rows) 0
          (w.backlog.since (w.viewTop rows)) := lt_countFilling hlength (by rwa [Nat.zero_add])
      omega

/-- A view without rows is paged line by line. -/
theorem pageUpStep_of_no_rows (h : viewHeight rows = 0) : w.pageUpStep rows = 1 := by
  have hnone (lines : List Line) : countFilling w.pane.width 0 0 lines = 0 := by
    cases lines with
    | nil => rfl
    | cons line lines => exact if_pos (Nat.le_refl 0)
  rw [pageUpStep, h, hnone]
  rfl

/-- The lines of a page up do not fill the view without the last of them, if the first takes no more rows
than the last. -/
theorem pageRows_between_lt_of_le (hview : 1 ≤ viewHeight rows) (htop : 0 < w.viewTop rows)
    (hsize : w.viewTop rows ≤ w.backlog.size) {first last : Line} {top : Nat}
    (hpage : top + w.pageUpStep rows = w.viewTop rows) (hmany : 2 ≤ w.pageUpStep rows)
    (hfirst : w.backlog.get? top = some first)
    (hlast : w.backlog.get? (w.viewTop rows - 1) = some last)
    (hle : rowsTaken first.text first.indent w.pane.width
      ≤ rowsTaken last.text last.indent w.pane.width) :
    pageRows w.pane.width (w.backlog.between top (w.viewTop rows - 1)) < viewHeight rows := by
  have hcounted := pageRows_between_lt hview htop hsize
  have hfrom : w.viewTop rows - w.pageUpStep rows + 1 = top + 1 := by omega
  have hto : w.viewTop rows - 1 + 1 = w.viewTop rows := by omega
  -- Both counts are those of the lines between the first and the last, and one more.
  have hend := Backlog.between_append (b := w.backlog) (show top + 1 ≤ w.viewTop rows - 1 by omega)
    (Nat.sub_le (w.viewTop rows) 1)
  have hstart := Backlog.between_append (b := w.backlog) (Nat.le_add_right top 1)
    (show top + 1 ≤ w.viewTop rows - 1 by omega)
  have hone := Backlog.between_succ hlast
  rw [hto] at hone
  rw [hfrom, ← hend, hone, pageRows_append, pageRows, pageRows] at hcounted
  rw [← hstart, Backlog.between_succ hfirst, pageRows_append, pageRows, pageRows]
  omega

/-! ### A page up from a live view -/

/-- The frame of the pane stays as the view goes back. -/
theorem frame_scrollUp? {step : Nat} (h : w.scrollUp? p rows step = some q) :
    w.pane.SameFrame q.1.pane := by
  obtain ⟨-, -, scroll, -, rfl⟩ := scrollUp?_eq_some h
  exact (paneOnly_redrawFrom { w with scroll } p rows _).frame

/-- Where a page up takes a live view. -/
theorem scroll_pageUp?_live (hlive : w.scroll = {}) (h : w.pageUp? p rows = some q) :
    w.viewTop rows = w.backlog.size - viewHeight rows ∧
      q.1.viewTop rows + w.pageUpStep rows = w.viewTop rows ∧
      q.1.scroll = ⟨true, w.backlog.size, viewHeight rows + w.pageUpStep rows⟩ := by
  have hscroll := scroll_scrollUp? h
  obtain ⟨hmore, -, -⟩ := scrollUp?_eq_some h
  have htop : w.viewTop rows = w.backlog.size - viewHeight rows := by
    rw [viewTop, hlive]
    exact if_neg Bool.false_ne_true
  have hstep : w.pageUpStep rows ≤ w.viewTop rows := pageUpStep_le (by omega)
  have hgone : min (viewHeight rows + w.pageUpStep rows) w.backlog.size
      = viewHeight rows + w.pageUpStep rows := Nat.min_eq_left (by omega)
  have hview : q.1.scroll = ⟨true, w.backlog.size, viewHeight rows + w.pageUpStep rows⟩ := by
    rw [hscroll, hlive]
    show (⟨true, w.backlog.size, min (viewHeight rows + w.pageUpStep rows) w.backlog.size⟩ : Scroll) = _
    rw [hgone]
  have hup : q.1.viewTop rows = w.backlog.size - (viewHeight rows + w.pageUpStep rows) := by
    rw [viewTop, hview]
    exact if_pos rfl
  exact ⟨htop, by omega, hview⟩

/-- The page down that follows goes on by as many lines at least just when the lines of the page do not
fill the view without the last of them. -/
theorem pageUpStep_le_pageDownStep_iff (hlive : w.scroll = {}) (h : w.pageUp? p rows = some q) :
    w.pageUpStep rows ≤ q.1.pageDownStep rows ↔
      w.viewTop rows = q.1.viewTop rows + 1 ∨
        pageRows w.pane.width (w.backlog.between (q.1.viewTop rows) (w.viewTop rows - 1))
          < viewHeight rows := by
  obtain ⟨htop, hpage, -⟩ := scroll_pageUp?_live hlive h
  have hbacklog : q.1.backlog = w.backlog := backlog_scrollUp? h
  have hwidth : w.pane.width = q.1.pane.width := (frame_scrollUp? h).width.symm
  have hlines : q.1.viewTop rows + w.pageUpStep rows ≤ q.1.backlog.size := by
    rw [hbacklog]
    omega
  have hone : 1 ≤ w.pageUpStep rows := Nat.le_max_left ..
  rw [le_pageDownStep_iff hone hlines, hbacklog, hwidth, hpage]
  exact or_congr_left ⟨fun hsingle => by omega, fun hsingle => by omega⟩

/-- A page down that follows goes on from the top of the page, and is live again if it reaches the old
one. -/
theorem pageDown?_of_frozen {size back : Nat} (hscroll : w.scroll = ⟨true, size, back⟩) :
    ∃ q, w.pageDown? p rows = some q ∧ q.1.backlog = w.backlog ∧
      (viewHeight rows < back - w.pageDownStep rows →
        q.1.scroll = ⟨true, size, back - w.pageDownStep rows⟩) ∧
      (back - w.pageDownStep rows ≤ viewHeight rows →
        q = redrawTail { w with scroll := {} } p rows) := by
  have hfrozen : w.scroll.frozen = true := congrArg Scroll.frozen hscroll
  refine ⟨_, scrollDown?_of_frozen hfrozen .., backlog_refreshView .., ?_, ?_⟩
  · intro hbehind
    rw [scroll_refreshView, if_pos (by simpa [hscroll] using hbehind)]
    simp only [hscroll]
  · intro hreached
    unfold refreshView
    rw [if_neg (by simpa [hscroll] using hreached), if_pos hfrozen]

/-! ### There and back -/

/-- **A page down after a page up.**  Whatever was done with a window whose view is live, and for however
many rows the pages are counted, a page down is not refused right after a page up that was not.  If the
lines of the page do not fill the view without the last of them, the view is live again and the last lines
are on the pane, as they are when they are poured in full on a new one; this is so if the first line of
the page takes no more rows than the last.  If they do, the view stays frozen: its top goes on from the
top of the page by the lines that fill the view, and stays above where it was. -/
theorem pageDown_returns (label : String) (title : Option String) (number capacity rows cols : Nat)
    (palette : Color.Palette) (acts : List Act) {s : Scene}
    (hs : s = (Scene.start label title number capacity rows cols palette).run acts)
    (hlive : s.window.scroll.frozen = false) (r : Nat) {up : Painted}
    (hup : s.window.pageUp? s.palette r = some up) :
    let w := s.window
    let old := w.viewTop r
    let top := up.1.viewTop r
    let returns := old = top + 1 ∨
      pageRows w.pane.width (w.backlog.between top (old - 1)) < viewHeight r
    ∃ down, up.1.pageDown? up.2 r = some down ∧ down.1.backlog = w.backlog ∧
      (returns → down.1.scroll = {} ∧
        (down.1.pane, down.2)
          = Grid.pourLines (.new w.pane.width w.pane.height true, up.2) (w.lastLines r)) ∧
      (¬ returns → down.1.scroll.frozen = true ∧ top < down.1.viewTop r ∧ down.1.viewTop r < old ∧
        down.1.viewTop r = top + up.1.pageDownStep r) ∧
      ∀ first last, w.backlog.get? top = some first → w.backlog.get? (old - 1) = some last →
        rowsTaken first.text first.indent w.pane.width
          ≤ rowsTaken last.text last.indent w.pane.width → returns := by
  intro w old top returns
  have hregular : s.window.Regular := by
    rw [hs]
    exact regular_run (regular_start ..) acts
  have hnone : w.scroll = {} := hregular.within.live hlive
  obtain ⟨hold, hpage, hscroll⟩ := scroll_pageUp?_live hnone hup
  have hreturns : w.pageUpStep r ≤ up.1.pageDownStep r ↔ returns :=
    pageUpStep_le_pageDownStep_iff hnone hup
  have hmore : viewHeight r < w.backlog.size := (scrollUp?_eq_some hup).1
  have hbacklog : up.1.backlog = w.backlog := backlog_scrollUp? hup
  have hframe : w.pane.SameFrame up.1.pane := frame_scrollUp? hup
  have hold' : old = w.backlog.size - viewHeight r := hold
  have hpage' : top + w.pageUpStep r = old := hpage
  obtain ⟨down, hdown, hsame, hbehind, hreached⟩ : ∃ q, up.1.pageDown? up.2 r = some q ∧ _ :=
    pageDown?_of_frozen hscroll
  refine ⟨down, hdown, hsame.trans hbacklog, ?_, ?_, ?_⟩
  · intro hlines
    have hback := hreturns.2 hlines
    have hpane : { up.1 with scroll := {} }.pane.IsPane := (hregular.scrollUp? hup).pane
    have hsome : 0 < { up.1 with scroll := {} }.backlog.size := by
      show 0 < up.1.backlog.size
      rw [hbacklog]
      exact Nat.zero_lt_of_lt hmore
    have hlast : { up.1 with scroll := {} }.lastLines r = w.lastLines r := by
      simp only [lastLines, hbacklog]
    rw [hreached (by omega), ← hlast, ← hframe.width, ← hframe.height]
    exact ⟨(paneOnly_redrawFull ..).scroll, pane_redrawTail hpane hsome⟩
  · intro hlines
    have hback := mt hreturns.1 hlines
    have hfew : 1 ≤ up.1.pageDownStep r := Nat.le_max_left ..
    have hfrozen := hbehind (by omega)
    have hview : down.1.viewTop r
        = w.backlog.size - (viewHeight r + w.pageUpStep r - up.1.pageDownStep r) := by
      rw [viewTop, hfrozen]
      exact if_pos rfl
    exact ⟨congrArg Scroll.frozen hfrozen, by omega, by omega, by omega⟩
  · intro first last hfirst hlast hle
    by_cases hsingle : w.pageUpStep r = 1
    · exact Or.inl (by omega)
    · have hone : 1 ≤ w.pageUpStep r := Nat.le_max_left ..
      have hview : 1 ≤ viewHeight r :=
        Nat.pos_of_ne_zero fun hzero => hsingle (pageUpStep_of_no_rows hzero)
      have hsize : old ≤ w.backlog.size := by omega
      exact Or.inr (pageRows_between_lt_of_le hview (show 0 < old by omega) hsize hpage (by omega)
        hfirst hlast hle)

/-- A page of two lines, of which the first takes two of the three rows of the view: the page down that
follows goes on by both. -/
theorem pageDown_returns_wrapped :
    let acts : List Act := [.append ⟨"one", 0⟩, .append ⟨"", 0⟩, .append ⟨"ab cd ef gh", 2⟩,
      .append ⟨"four", 0⟩, .append ⟨"five", 0⟩, .append ⟨"six", 0⟩, .append ⟨"seven", 0⟩]
    let s := (Scene.start "bob" none 2 9 6 8 .off).run acts
    let up := (s.window.pageUp? s.palette 6).getD (s.window, s.palette)
    s.window.scroll.frozen = false ∧ s.window.pageUp? s.palette 6 = some up ∧
      s.window.viewTop 6 = 4 ∧ up.1.viewTop 6 = 2 ∧
      pageRows s.window.pane.width (s.window.backlog.between 2 3) = 2 ∧
      ∃ down, up.1.pageDown? up.2 6 = some down ∧ down.1.scroll = {} ∧
        (down.1.pane, down.2) = Grid.pourLines (.new 8 4 true, up.2)
          [⟨"five", 0⟩, ⟨"six", 0⟩, ⟨"seven", 0⟩] := by
  intro acts s up
  have hlive : s.window.scroll.frozen = false := by decide +kernel
  have hup : s.window.pageUp? s.palette 6 = some up := by
    cases h : s.window.pageUp? s.palette 6 with
    | none => exact absurd (congrArg Option.isSome h) (by decide +kernel)
    | some q => simp only [up, h, Option.getD_some]
  have hold : s.window.viewTop 6 = 4 := by decide +kernel
  have htop : up.1.viewTop 6 = 2 := by decide +kernel
  have hrows : pageRows s.window.pane.width (s.window.backlog.between 2 3) = 2 := by decide +kernel
  obtain ⟨down, hdown, -, hreturns, -⟩ :=
    pageDown_returns "bob" none 2 9 6 8 .off acts (s := s) rfl hlive 6 hup
  rw [hold, htop, hrows] at hreturns
  obtain ⟨hscroll, hpane⟩ := hreturns (Or.inr (by decide +kernel))
  have hwidth : s.window.pane.width = 8 := by decide +kernel
  have hheight : s.window.pane.height = 4 := by decide +kernel
  have hlast : s.window.lastLines 6 = [⟨"five", 0⟩, ⟨"six", 0⟩, ⟨"seven", 0⟩] := by decide +kernel
  rw [hwidth, hheight, hlast] at hpane
  exact ⟨hlive, hup, hold, htop, hrows, down, hdown, hscroll, hpane⟩

/-- A page up of a view of two rows goes back by two lines, the first of which fills the view: the page
down that follows goes on by this one only, and the view stays frozen. -/
theorem pageDown_stays_frozen :
    let s := (Scene.start "bob" none 2 9 5 8 .off).run [.append ⟨"one two three", 0⟩,
      .append ⟨"four", 0⟩, .append ⟨"five", 0⟩, .append ⟨"six", 0⟩]
    let t := s.act .pageUp
    s.window.scroll.frozen = false ∧ s.refuses .pageUp = false ∧ t.refuses .pageDown = false ∧
      (t.act .pageDown).window.scroll = ⟨true, 4, 3⟩ := by
  intro s t
  refine ⟨?_, ?_, ?_, ?_⟩ <;> decide +kernel

end Window
end ChatConsole
