/-
# Where a frozen view stays

A frozen view remembers its top as a position among the stored lines.  Lines that come are stored and
not painted, so the pane stays (`run_append`).  But a full backlog lets a line go for each one that
comes, and then the position counts from a later line: laid out anew, the view has moved on by as many
lines as have left (`frozen_view_stays`).  If none has left since the view was poured, and the lines it
froze on fill it, then it shows what it showed.
-/

import ChatConsole.Proofs.Backlog.Kept
import ChatConsole.Proofs.Window.Standing
import ChatConsole.Proofs.Window.Width
import ChatConsole.Proofs.Window.Within

namespace ChatConsole

namespace Window

variable {w : Window} {p : Color.Palette} {rows : Nat} {s : Scene}

/-! ### What a pane shows once it is poured from a position -/

theorem pourWithin_eq (q : Painted) (lines : List Line) (free : Nat) :
    pourWithin q lines free = ({ q.1 with pane := (Grid.pourFirst (q.1.pane, q.2) lines free).1 },
      (Grid.pourFirst (q.1.pane, q.2) lines free).2) := by
  induction lines generalizing q free with
  | nil => rfl
  | cons line lines ih =>
    rw [pourWithin, Grid.pourFirst]
    split
    · rfl
    · exact ih _ _

/-- Pouring the view anew pours its lines on a new grid of the size of the pane. -/
theorem pane_redrawFrom (hpane : w.pane.IsPane) (hlines : 0 < w.backlog.size) (position : Nat) :
    ((w.redrawFrom p rows position).1.pane, (w.redrawFrom p rows position).2)
      = Grid.pourFirst (.new w.pane.width w.pane.height true, p) (w.backlog.since position)
          (viewHeight rows) := by
  have hnew : w.pane.erase = Grid.new w.pane.width w.pane.height true := hpane.resize _ _
  rw [redrawFrom, if_neg (Nat.ne_of_gt hlines), pourWithin_eq, wipe, hnew]

theorem showsFirst_redrawFrom (hpane : w.pane.IsPane) (hlines : 0 < w.backlog.size)
    (position : Nat) :
    (w.redrawFrom p rows position).1.pane.ShowsFirst (w.redrawFrom p rows position).2
      (viewHeight rows) (w.backlog.since position) :=
  .of_pourFirst (pane_redrawFrom hpane hlines position)

/-! ### The lines that a frozen view shows -/

/-- What every window has that is laid out on a terminal of some rows. -/
structure Ready (w : Window) (rows : Nat) : Prop where
  pane : w.pane.IsPane
  height : w.pane.height = paneHeight rows
  bounded : w.backlog.Bounded

theorem Ready.of_paneOnly {v : Window} (h : w.Ready rows) (hv : PaneOnly w v) : v.Ready rows where
  pane := h.pane.of_frame hv.frame hv.style
  height := hv.frame.height.trans h.height
  bounded := by rw [hv.backlog]; exact h.bounded

theorem Ready.of_scroll (h : w.Ready rows) (scroll : Scroll) :
    { w with scroll }.Ready rows :=
  ⟨h.pane, h.height, h.bounded⟩

/-- A window that is laid out anew gets a blank pane of the height there is for it. -/
theorem Ready.recreate (h : w.Ready rows) (rows cols : Nat) :
    ((w.layout rows cols).drawPanel rows).Ready rows := by
  obtain ⟨width, hpane⟩ := layout_eq_new h.pane rows cols
  refine ⟨?_, ?_, ?_⟩
  · rw [pane_drawPanel, hpane]
    exact Grid.isPane_new ..
  · rw [pane_drawPanel, hpane, Grid.height_new]
  · rw [backlog_drawPanel, backlog_layout]
    exact h.bounded

/-- The lines that the view froze on, from its top on. -/
def heldLines (w : Window) : List Line :=
  (w.backlog.since (w.scroll.size - w.scroll.back)).take w.scroll.back

theorem length_heldLines (h : w.scroll.Within w.backlog.size) : w.heldLines.length = w.scroll.back := by
  have hback := h.back_le
  have hsize : w.scroll.size ≤ w.backlog.lines.length := h.size_le
  rw [heldLines, List.length_take, Backlog.since, List.length_drop]
  omega

/-- A frozen view is on stored lines. -/
theorem size_pos_of_frozen (h : w.scroll.Stands (viewHeight rows) w.backlog.size)
    (hfrozen : w.scroll.frozen = true) : 0 < w.backlog.size := by
  have hbehind := h.behind hfrozen
  have hback := h.back_le
  have hsize := h.size_le
  omega

/-- The lines that the view froze on are the same, whatever is behind the backlog. -/
theorem take_since_append (h : w.scroll.Within w.backlog.size) (lines : List Line) :
    ((w.backlog.lines ++ lines).drop (w.scroll.size - w.scroll.back)).take w.scroll.back
      = w.heldLines := by
  have hback := h.back_le
  have hsize : w.scroll.size ≤ w.backlog.lines.length := h.size_le
  rw [heldLines, Backlog.since, List.drop_append_of_le_length (by omega),
    List.take_append_of_le_length]
  rw [List.length_drop]
  omega

/-- A window whose frozen view shows the lines it froze on, provided that it is intact. -/
structure Held (s : Scene) (intact : Bool) : Prop extends Ready s.window s.rows where
  stands : s.Stands
  shows : s.window.scroll.frozen = true → intact = true → ∃ behind,
    s.window.pane.ShowsFirst s.palette (viewHeight s.rows) (s.window.heldLines ++ behind)

theorem held_redrawFrozen (h : w.Ready rows)
    (hstands : w.scroll.Stands (viewHeight rows) w.backlog.size) (hfrozen : w.scroll.frozen = true) :
    Held (Scene.painted ⟨w, p, rows⟩ (w.redrawFrozen p rows)) true := by
  have hpane : PaneOnly w (w.redrawFrozen p rows).1 := paneOnly_redrawFrom ..
  refine { h.of_paneOnly hpane with stands := ?_, shows := ?_ }
  · simp only [Scene.Stands, Scene.painted, hpane.scroll, hpane.backlog]
    exact hstands
  · intro _ _
    have hshows : (w.redrawFrozen p rows).1.pane.ShowsFirst (w.redrawFrozen p rows).2
        (viewHeight rows) (w.backlog.since (w.scroll.size - w.scroll.back)) :=
      showsFirst_redrawFrom h.pane (size_pos_of_frozen hstands hfrozen) _
    rw [← List.take_append_drop w.scroll.back (w.backlog.since _)] at hshows
    simp only [Scene.painted, heldLines, hpane.scroll, hpane.backlog]
    exact ⟨_, hshows⟩

/-- A live view holds nothing. -/
theorem held_redrawTail (h : w.Ready rows) (hlive : w.scroll = {}) (intact : Bool) :
    Held (Scene.painted ⟨w, p, rows⟩ (w.redrawTail p rows)) intact := by
  have hpane : PaneOnly w (w.redrawTail p rows).1 := paneOnly_redrawFull ..
  refine { h.of_paneOnly hpane with stands := ?_, shows := ?_ }
  · simp only [Scene.Stands, Scene.painted, hpane.scroll, hlive]
    exact Scroll.stands_live ..
  · intro hfrozen
    simp only [Scene.painted, hpane.scroll, hlive] at hfrozen
    cases hfrozen

theorem held_refreshView (h : w.Ready rows) (hwithin : w.scroll.Within w.backlog.size) :
    Held (Scene.painted ⟨w, p, rows⟩ (w.refreshView p rows)) true := by
  unfold refreshView
  by_cases hfrozen : w.scroll.frozen = true
  · by_cases hback : w.scroll.back > viewHeight rows
    · rw [if_pos (by simp [hfrozen, hback])]
      exact held_redrawFrozen h ⟨hwithin, fun _ => hback⟩ hfrozen
    · rw [if_neg (by simp [hback])]
      simp only [hfrozen, if_true]
      exact held_redrawTail (h.of_scroll {}) rfl true
  · rw [Bool.not_eq_true] at hfrozen
    simp only [hfrozen, Bool.false_and, Bool.false_eq_true, if_false]
    exact held_redrawTail h (hwithin.live hfrozen) true

/-! ### One act -/

/-- Whether, after an act, no line has left the backlog since the view was poured last. -/
def Scene.intactAfter (s : Scene) (intact : Bool) : Act → Bool
  | .append _ => intact && !s.window.backlog.isFull
  | .recreate .. => true
  | .seat .. => intact
  | .resolve .. => intact
  | a => intact || !s.refuses a

/-- Whether, after some acts, no line has left the backlog since the view was poured last. -/
def Scene.intactIn (s : Scene) (intact : Bool) : List Act → Bool
  | [] => intact
  | a :: acts => (s.act a).intactIn (s.intactAfter intact a) acts

variable {intact : Bool}

theorem held_append (h : Held s intact) (line : Line) :
    Held (s.act (.append line)) (s.intactAfter intact (.append line)) := by
  have hstands : (s.act (.append line)).Stands := stands_act h.stands trivial
  have hrest := append_rest s.window s.palette line
  have hstored : { s.window with backlog := s.window.backlog.push line }.Ready s.rows :=
    ⟨h.pane, h.height, h.bounded.push line⟩
  refine { hstored.of_paneOnly hrest with stands := hstands, shows := ?_ }
  intro hfrozen hintact
  simp only [Scene.act, Scene.painted, scroll_append] at hfrozen
  simp only [Scene.intactAfter, Bool.and_eq_true, Bool.not_eq_true'] at hintact
  obtain ⟨behind, hshows⟩ := h.shows hfrozen hintact.1
  have happend : s.window.append s.palette line
      = ({ s.window with backlog := s.window.backlog.push line }, s.palette) := if_pos hfrozen
  have hlines : (s.window.backlog.push line).lines = s.window.backlog.lines ++ [line] := by
    rw [Backlog.push, hintact.2, if_neg Bool.false_ne_true]
  refine ⟨behind, ?_⟩
  simp only [Scene.act, Scene.painted, happend, heldLines, Backlog.since, hlines]
  rw [take_since_append h.stands.toWithin [line]]
  exact hshows

theorem held_scrollUp (h : Held s intact) {step : Nat} (hstep : 1 ≤ step) :
    Held (s.act (.scrollUp step)) (intact || !s.refuses (.scrollUp step)) := by
  have hstands := stands_scrollUp h.stands hstep
  rcases s.scrollUp_cases step with ⟨hrefused, hsame⟩ | ⟨q, hq, hmoves, hact⟩
  · rwa [hsame, hrefused, Bool.not_true, Bool.or_false]
  · obtain ⟨-, -, scroll, hfrozen, rfl⟩ := scrollUp?_eq_some hq
    have hpane : PaneOnly { s.window with scroll }
        ({ s.window with scroll }.redrawFrozen s.palette s.rows).1 := paneOnly_redrawFrom ..
    simp only [hact, Scene.Stands, Scene.painted, hpane.scroll, hpane.backlog] at hstands
    rw [hact, hmoves, Bool.not_false, Bool.or_true]
    exact held_redrawFrozen (h.of_scroll scroll) hstands hfrozen

theorem held_scrollDown (h : Held s intact) (step : Nat) :
    Held (s.act (.scrollDown step)) (intact || !s.refuses (.scrollDown step)) := by
  rcases s.scrollDown_cases step with ⟨hrefused, hsame⟩ | ⟨q, hq, hmoves, hact⟩
  · rwa [hsame, hrefused, Bool.not_true, Bool.or_false]
  · obtain ⟨hfrozen, rfl⟩ := scrollDown?_eq_some hq
    rw [hact, hmoves, Bool.not_false, Bool.or_true]
    exact held_refreshView (h.of_scroll _) (h.stands.toWithin.goOn hfrozen step)

/-- **One act keeps a frozen view on its lines**, as long as it is intact. -/
theorem held_act (h : Held s intact) {a : Act} (ha : a.Moves) :
    Held (s.act a) (s.intactAfter intact a) := by
  cases a with
  | append line => exact held_append h line
  | scrollUp step => exact held_scrollUp h ha
  | scrollDown step => exact held_scrollDown h step
  | pageUp => exact held_scrollUp h (Nat.le_max_left ..)
  | pageDown => exact held_scrollDown h _
  | recreate rows cols =>
    have hwithin : ((s.window.layout rows cols).drawPanel rows).scroll.Within
        ((s.window.layout rows cols).drawPanel rows).backlog.size := by
      rw [scroll_drawPanel, scroll_layout, backlog_drawPanel, backlog_layout]
      exact h.stands.toWithin
    exact held_refreshView (h.recreate rows cols) hwithin
  | seat roster named => exact { h with }
  | resolve code =>
    refine { h with shows := ?_ }
    intro hfrozen hintact
    obtain ⟨behind, hshows⟩ := h.shows hfrozen hintact
    exact ⟨behind, hshows.of_le (Color.Palette.le_resolve ..)⟩

theorem held_run (h : Held s intact) {acts : List Act} (hacts : ∀ a ∈ acts, a.Moves) :
    Held (s.run acts) (s.intactIn intact acts) := by
  induction acts generalizing s intact with
  | nil => exact h
  | cons a acts ih =>
    have hfirst : Held (s.act a) (s.intactAfter intact a) := held_act h (hacts a List.mem_cons_self)
    exact ih hfirst fun b hb => hacts b (List.mem_cons_of_mem _ hb)

theorem held_start (label : String) (title : Option String) (number capacity rows cols : Nat)
    (p : Color.Palette) (intact : Bool) :
    Held (Scene.start label title number capacity rows cols p) intact := by
  obtain ⟨width, hnew⟩ : ∃ width, (Window.new label title number capacity rows cols).pane
      = Grid.new width (paneHeight rows) true := layout_eq_new (Grid.isPane_new 0 0) rows cols
  have hbacklog : (Window.new label title number capacity rows cols).backlog = .new capacity :=
    backlog_layout ..
  have hscroll : (Window.new label title number capacity rows cols).scroll = {} := scroll_layout ..
  refine ⟨⟨?_, ?_, ?_⟩, stands_start .., ?_⟩
  · simp only [Scene.start, hnew]
    exact Grid.isPane_new ..
  · simp only [Scene.start, hnew, Grid.height_new]
  · simp only [Scene.start, hbacklog]
    exact Backlog.bounded_new _
  · intro hfrozen
    simp only [Scene.start, hscroll] at hfrozen
    cases hfrozen

/-! ### Lines that come -/

/-- Lines that come are stored, and a frozen view paints none of them. -/
theorem run_append (hfrozen : s.window.scroll.frozen = true) (lines : List Line) :
    s.run (lines.map .append)
      = { s with window := { s.window with backlog := lines.foldl Backlog.push s.window.backlog } } := by
  induction lines generalizing s with
  | nil => rfl
  | cons line lines ih =>
    have happend : s.act (.append line)
        = { s with window := { s.window with backlog := s.window.backlog.push line } } := by
      simp only [Scene.act, append, hfrozen, if_true, Scene.painted]
    rw [List.map_cons, Scene.run, List.foldl_cons, happend]
    exact ih hfrozen

/-! ### The same layout again -/

variable {cols : Nat}

/-- A frozen view that is laid out anew as it was is poured anew from its top. -/
theorem recreate_frozen (h : w.Ready rows) (hstands : w.scroll.Stands (viewHeight rows) w.backlog.size)
    (hfrozen : w.scroll.frozen = true) (hfits : w.Fits cols) :
    ((w.recreate p rows cols).1.pane, (w.recreate p rows cols).2)
      = Grid.pourFirst (.new w.pane.width w.pane.height true, p) (w.backlog.since (w.viewTop rows))
          (viewHeight rows) := by
  have hlaid := h.recreate rows cols
  have hwidth : ((w.layout rows cols).drawPanel rows).pane.width = w.pane.width := by
    rw [pane_drawPanel]
    exact hfits rows
  have hheight : ((w.layout rows cols).drawPanel rows).pane.height = w.pane.height :=
    hlaid.height.trans h.height.symm
  have hscroll : ((w.layout rows cols).drawPanel rows).scroll = w.scroll := by
    rw [scroll_drawPanel, scroll_layout]
  have hbacklog : ((w.layout rows cols).drawPanel rows).backlog = w.backlog := by
    rw [backlog_drawPanel, backlog_layout]
  have hstill : (w.scroll.frozen && decide (w.scroll.back > viewHeight rows)) = true := by
    rw [hfrozen, Bool.true_and, decide_eq_true_eq]
    exact hstands.behind hfrozen
  have htop : w.viewTop rows = w.scroll.size - w.scroll.back := if_pos hfrozen
  have hlines : 0 < ((w.layout rows cols).drawPanel rows).backlog.size := by
    rw [hbacklog]
    exact size_pos_of_frozen hstands hfrozen
  rw [recreate, refreshView, hscroll, if_pos hstill, redrawFrozen,
    pane_redrawFrom hlaid.pane hlines, hwidth, hheight, hscroll, hbacklog, htop]

/-! ### The view -/

/-- The lines that the view froze on fill it, if it takes text at all. -/
def Scene.Fills (s : Scene) : Prop :=
  2 ≤ s.window.pane.width →
    viewHeight s.rows ≤ Grid.rowsOfLines s.window.pane.width s.window.heldLines

/-- Lines of which none is empty fill a frozen view. -/
theorem fills_of_ne_empty (hstands : s.Stands) (hfrozen : s.window.scroll.frozen = true)
    (hlines : ∀ line ∈ s.window.heldLines, line.text ≠ "") : s.Fills := by
  intro hw
  have hrows := Grid.length_le_rowsOfLines hw hlines
  rw [length_heldLines hstands.toWithin] at hrows
  exact Nat.le_trans (Nat.le_of_lt (hstands.behind hfrozen)) hrows

/-- **Where a frozen view stays.**  Lines that come are not painted.  If the window is then laid out
anew on a terminal of the same size, the view is poured from the line which is `lost` lines behind the
one that was at its top, where `lost` is the number of lines that have left the backlog.  So if none
has left, now and since the view was poured, and if the lines that it froze on fill it, then it shows
what it showed. -/
theorem frozen_view_stays (label : String) (title : Option String) (number capacity rows cols : Nat)
    (palette : Color.Palette) (acts : List Act) (hacts : ∀ a ∈ acts, a.Moves)
    (hs : s = (Scene.start label title number capacity rows cols palette).run acts)
    (hfrozen : s.window.scroll.frozen = true) (cols' : Nat) (hfits : s.window.Fits cols')
    (lines : List Line) :
    let t := s.run (lines.map .append)
    let again := t.act (.recreate s.rows cols')
    let lost := s.window.backlog.size + lines.length - s.window.backlog.capacity
    (t.window.pane = s.window.pane ∧ t.palette = s.palette) ∧
      (again.window.pane, again.palette)
        = Grid.pourFirst (.new s.window.pane.width s.window.pane.height true, s.palette)
            ((s.window.backlog.lines ++ lines).drop (lost + s.window.viewTop s.rows))
            (viewHeight s.rows) ∧
      (lost = 0 → s.Fills →
        (Scene.start label title number capacity rows cols palette).intactIn true acts = true →
          again.window.pane = s.window.pane ∧ again.palette = s.palette) := by
  intro t again lost
  have hheld : Held s
      ((Scene.start label title number capacity rows cols palette).intactIn true acts) := by
    rw [hs]
    exact held_run (held_start ..) hacts
  have happended : t
      = { s with window := { s.window with backlog := lines.foldl Backlog.push s.window.backlog } } :=
    run_append hfrozen lines
  have hpane : t.window.pane = s.window.pane := by rw [happended]
  have hpalette : t.palette = s.palette := by rw [happended]
  have hrows : t.rows = s.rows := by rw [happended]
  have htop : t.window.viewTop s.rows = s.window.viewTop s.rows := by
    rw [happended, viewTop, viewTop, if_pos hfrozen, if_pos hfrozen]
  have hstored : t.window.backlog.lines = (s.window.backlog.lines ++ lines).drop lost := by
    rw [happended]
    exact hheld.bounded.lines_foldl_push lines
  have hlast : Held t _ := held_run hheld (by simp [Act.Moves])
  have hstill : t.window.scroll.frozen = true := by
    rw [happended]
    exact hfrozen
  have hagain : t.window.Fits cols' := fits_run hfits (by simp [Act.KeepsLayout])
  have hpoured : (again.window.pane, again.palette)
      = Grid.pourFirst (.new s.window.pane.width s.window.pane.height true, s.palette)
          ((s.window.backlog.lines ++ lines).drop (lost + s.window.viewTop s.rows))
          (viewHeight s.rows) := by
    have hready : t.window.Ready s.rows := hrows ▸ hlast.toReady
    have hstands : t.window.scroll.Stands (viewHeight s.rows) t.window.backlog.size :=
      hrows ▸ hlast.stands
    have hview : (again.window.pane, again.palette) = _ :=
      recreate_frozen hready hstands hstill hagain
    rw [hpane, hpalette, htop, Backlog.since, hstored, List.drop_drop] at hview
    exact hview
  refine ⟨⟨hpane, hpalette⟩, hpoured, ?_⟩
  intro hnone hfills hintact
  obtain ⟨behind, hshows⟩ := hheld.shows hfrozen hintact
  have hview : s.window.viewTop s.rows = s.window.scroll.size - s.window.scroll.back := if_pos hfrozen
  have hsame := hshows.behind hfills
    (((s.window.backlog.lines ++ lines).drop (s.window.viewTop s.rows)).drop s.window.scroll.back)
  rw [hview, ← take_since_append hheld.stands.toWithin lines, List.take_append_drop, ← hview,
    Grid.ShowsFirst] at hsame
  rw [hnone, Nat.zero_add, hsame] at hpoured
  exact ⟨congrArg Prod.fst hpoured, congrArg Prod.snd hpoured⟩

/-- On a terminal made smaller a view of two rows stands on the first two of three lines, and a fourth
one finds room. -/
theorem frozen_view_stays_with_room :
    let later : List Act := [.append ⟨"one", 0⟩, .append ⟨"two", 0⟩, .append ⟨"three", 0⟩, .scrollUp 1]
    let acts : List Act := .recreate 5 8 :: later
    let lines : List Line := [⟨"four", 0⟩]
    let start := Scene.start "bob" none 2 4 24 80 .off
    let s := start.run acts
    let again := (s.run (lines.map .append)).act (.recreate s.rows 8)
    (∀ a ∈ acts, a.Moves) ∧ s.window.scroll.frozen = true ∧ s.window.Fits 8 ∧ s.Fills ∧
      start.intactIn true acts = true ∧
      s.window.backlog.size + lines.length - s.window.backlog.capacity = 0 ∧
      again.window.backlog.get? 3 = some ⟨"four", 0⟩ ∧ again.window.pane = s.window.pane := by
  intro later acts lines start s again
  have hmoves : ∀ a ∈ acts, a.Moves := by simp [acts, later, Act.Moves]
  have hfrozen : s.window.scroll.frozen = true := by decide +kernel
  have hlater : ∀ a ∈ later, a.KeepsLayout := by simp [later, Act.KeepsLayout]
  have hfits : s.window.Fits 8 := fits_run (fits_recreate start 5 8) hlater
  have hlines : s.window.heldLines = [⟨"one", 0⟩, ⟨"two", 0⟩, ⟨"three", 0⟩] := by decide +kernel
  have hfills : s.Fills :=
    fills_of_ne_empty (stands_run (stands_start ..) hmoves) hfrozen (by simp [hlines])
  have hintact : start.intactIn true acts = true := by decide +kernel
  have hroom : s.window.backlog.size + lines.length - s.window.backlog.capacity = 0 := by
    decide +kernel
  have hlast : again.window.backlog.get? 3 = some ⟨"four", 0⟩ := by decide +kernel
  obtain ⟨-, -, hstays⟩ :=
    frozen_view_stays "bob" none 2 4 24 80 .off acts hmoves (s := s) rfl hfrozen 8 hfits lines
  obtain ⟨hpane, -⟩ := hstays hroom hfills hintact
  exact ⟨hmoves, hfrozen, hfits, hfills, hintact, hroom, hlast, hpane⟩

/-- A backlog of four lines is full: as a fifth one comes the first one leaves.  The line at the top of
the frozen view is still stored, and yet it is out of view once the window is laid out anew. -/
theorem frozen_view_moves_on :
    let s := (Scene.start "bob" none 2 4 5 8 .off).run [.append ⟨"one", 0⟩, .append ⟨"two", 0⟩,
      .append ⟨"three", 0⟩, .append ⟨"four", 0⟩, .scrollUp 1]
    let t := s.act (.append ⟨"five", 0⟩)
    let again := t.act (.recreate 5 8)
    s.window.scroll.frozen = true ∧ s.window.Fits 8 ∧
      s.window.backlog.get? (s.window.viewTop 5) = some ⟨"two", 0⟩ ∧
      ⟨"two", 0⟩ ∈ t.window.backlog.lines ∧ t.window.pane = s.window.pane ∧
      again.window.pane.rows ≠ s.window.pane.rows := by
  intro s t again
  have hfits : s.window.Fits 8 := fits_run (fits_start _ _ _ _ _ _ _) (by simp [Act.KeepsLayout])
  refine ⟨by decide +kernel, hfits, by decide +kernel, by decide +kernel, by decide +kernel, ?_⟩
  decide +kernel

/-- Empty lines take no row: a line that comes behind three of them shows once the window is laid out
anew. -/
example :
    let s := (Scene.start "bob" none 2 8 5 8 .off).run [.append ⟨"", 0⟩, .append ⟨"", 0⟩,
      .append ⟨"", 0⟩, .scrollUp 1]
    s.window.scroll.frozen = true ∧
      ((s.act (.append ⟨"four", 0⟩)).act (.recreate 5 8)).window.pane.rows ≠ s.window.pane.rows := by
  decide +kernel

end Window
end ChatConsole
