/-
# A live pane shows the end of its backlog

A view that is not frozen grows line by line, and its grid forgets what scrolls out of it; a view that
thaws, or a window that is laid out anew, pours the last lines of the backlog.  The two agree in every
cell: whatever was done with the window, the pane is what pouring the last lines on a blank grid leaves
(`pane_eq_pourLines`).
-/

import ChatConsole.Proofs.Window.Lines
import ChatConsole.Proofs.Window.Scene

namespace ChatConsole

/-! ### The last lines of a list -/

/-- Two ends of one list have the same last elements, if each is long enough. -/
theorem drop_last_of_suffix {α : Type} {short long : List α} (h : short <:+ long) {n : Nat}
    (hn : min n long.length ≤ short.length) :
    short.drop (short.length - n) = long.drop (long.length - n) := by
  obtain ⟨front, rfl⟩ := h
  rw [List.length_append] at hn ⊢
  by_cases hfront : n ≤ short.length
  · have hsplit : front.length + short.length - n = front.length + (short.length - n) := by omega
    rw [hsplit, List.drop_append, List.drop_of_length_le (Nat.le_add_right ..), List.nil_append,
      Nat.add_sub_cancel_left]
  · have hnone : front = [] := List.eq_nil_of_length_eq_zero (by omega)
    rw [hnone, List.length_nil, Nat.zero_add, List.nil_append]

namespace Backlog

/-- A line is stored after those there are, the oldest of which may leave. -/
theorem lines_push_suffix (b : Backlog) (line : Line) :
    (b.push line).lines <:+ b.lines ++ [line] := by
  unfold push
  rw [List.suffix_append_self_iff]
  split
  · exact List.drop_suffix ..
  · exact List.suffix_refl _

/-- Lines leave only for want of room. -/
theorem le_size_push (b : Backlog) (line : Line) :
    min b.capacity (b.size + 1) ≤ (b.push line).size := by
  cases hfull : b.isFull with
  | false =>
    simp only [push, hfull, Bool.false_eq_true, if_false, size, List.length_append,
      List.length_singleton]
    omega
  | true =>
    have hroom : b.capacity < b.size + 1 := by simpa [isFull] using hfull
    simp only [size] at hroom
    simp only [push, hfull, if_true, size, List.length_append, List.length_singleton,
      List.length_drop]
    omega

end Backlog

namespace Grid

/-- A grid as windows use it for their panes. -/
structure IsPane (g : Grid) : Prop where
  scrolls : g.scrolls = true
  style : g.style = {}
  background : g.background = {}

theorem isPane_new (width height : Nat) : (new width height true).IsPane := ⟨rfl, rfl, rfl⟩

/-- A new grid is blank. -/
theorem erase_new (width height : Nat) : (new width height true).erase = new width height true := by
  simp [erase, resize, new, Grid.height, blank]

/-- A pane of a new size is a new grid. -/
theorem IsPane.resize {g : Grid} (h : g.IsPane) (width height : Nat) :
    g.resize width height = new width height true := by
  obtain ⟨hscrolls, hstyle, hbackground⟩ := h
  simp only [Grid.resize, new, blank, hscrolls, hstyle, hbackground]

theorem IsPane.of_frame {g h : Grid} (hg : g.IsPane) (hframe : g.SameFrame h)
    (hstyle : g.style = {} → h.style = {}) : h.IsPane where
  scrolls := hframe.scrolls.trans hg.scrolls
  style := hstyle hg.style
  background := hframe.background.trans hg.background

end Grid

namespace Window

/-- The lines of the backlog that a live view shows. -/
def lastLines (w : Window) (rows : Nat) : List Line :=
  w.backlog.since (w.backlog.size - viewHeight rows)

/-- What every window has that is laid out on a terminal of some rows. -/
structure LaidOut (capacity : Nat) (w : Window) (rows : Nat) : Prop where
  pane : w.pane.IsPane
  height : w.pane.height = paneHeight rows
  /-- No line is empty. -/
  full : ∀ line ∈ w.backlog.lines, line.text ≠ ""
  capacity_eq : w.backlog.capacity = capacity
  /-- The backlog has room for the lines of a view. -/
  room : viewHeight rows ≤ capacity

variable {capacity : Nat} {w : Window} {p : Color.Palette} {rows : Nat}

namespace LaidOut

theorem of_paneOnly {v : Window} (h : LaidOut capacity w rows) (hv : PaneOnly w v) :
    LaidOut capacity v rows where
  pane := h.pane.of_frame hv.frame hv.style
  height := hv.frame.height.trans h.height
  full := by rw [hv.backlog]; exact h.full
  capacity_eq := by rw [hv.backlog]; exact h.capacity_eq
  room := h.room

theorem of_scroll (h : LaidOut capacity w rows) (s : Scroll) :
    LaidOut capacity { w with scroll := s } rows :=
  ⟨h.pane, h.height, h.full, h.capacity_eq, h.room⟩

theorem full_lastLines (h : LaidOut capacity w rows) : ∀ line ∈ w.lastLines rows, line.text ≠ "" :=
  fun line hline => h.full line (List.mem_of_mem_drop hline)

/-- The pane has one row more than the view, or none. -/
theorem height_le (h : LaidOut capacity w rows) : w.pane.height ≤ viewHeight rows + 1 := by
  rw [h.height, paneHeight, viewHeight]
  omega

end LaidOut

/-- What every reachable window has. -/
structure Sound (capacity : Nat) (s : Scene) : Prop extends
    LaidOut capacity s.window s.rows where
  /-- A view is frozen only on lines. -/
  held : s.window.scroll.frozen = true → s.window.backlog.lines ≠ []
  /-- A live pane shows the last lines. -/
  live : s.window.scroll.frozen = false → s.window.pane.Shows s.palette (s.window.lastLines s.rows)

/-! ### Pouring the last lines anew -/

theorem pourAll_eq (q : Painted) (lines : List Line) :
    pourAll q lines = ({ q.1 with pane := (Grid.pourLines (q.1.pane, q.2) lines).1 },
      (Grid.pourLines (q.1.pane, q.2) lines).2) := by
  unfold pourAll
  induction lines generalizing q with
  | nil => rfl
  | cons line lines ih =>
    rw [List.foldl_cons, ih]
    rfl

/-- The last lines are no more than fill the view. -/
theorem take_lastLines (w : Window) (rows : Nat) :
    (w.lastLines rows).take (viewHeight rows) = w.lastLines rows := by
  refine List.take_of_length_le ?_
  simp only [lastLines, Backlog.since, List.length_drop, Backlog.size]
  omega

/-- Pouring the last lines anew leaves a pane that shows them.  Without a line the pane must be blank
already. -/
theorem sound_redrawTail (h : LaidOut capacity w rows) (hlive : w.scroll.frozen = false)
    (hblank : w.backlog.lines = [] → w.pane.erase = w.pane) :
    Sound capacity (Scene.painted ⟨w, p, rows⟩ (w.redrawTail p rows)) := by
  have hpane : PaneOnly w (w.redrawTail p rows).1 := paneOnly_redrawFull ..
  have hnew : w.pane.erase = Grid.new w.pane.width w.pane.height true := h.pane.resize _ _
  have hpoured : w.redrawTail p rows = pourAll (w.wipe, p) (w.lastLines rows) := by
    unfold redrawTail redrawFull
    split
    · rename_i hempty
      have hnil : w.backlog.lines = [] := List.eq_nil_of_length_eq_zero hempty
      have hlast : w.lastLines rows = [] := by simp [lastLines, Backlog.since, hnil]
      rw [hlast, wipe, hblank hnil]
      rfl
    · exact congrArg (pourAll (w.wipe, p)) (take_lastLines w rows)
  have hshows : (w.redrawTail p rows).1.pane.Shows (w.redrawTail p rows).2 (w.lastLines rows) := by
    rw [hpoured, pourAll_eq, wipe, hnew]
    exact Grid.Shows.of_pourLines h.full_lastLines
  refine { h.of_paneOnly hpane with held := ?_, live := ?_ }
  · intro hfrozen
    have hthawed : (w.redrawTail p rows).1.scroll.frozen = false := by rw [hpane.scroll, hlive]
    exact absurd (hfrozen.symm.trans hthawed) Bool.noConfusion
  · intro _
    have hlast : (w.redrawTail p rows).1.lastLines rows = w.lastLines rows := by
      rw [lastLines, lastLines, hpane.backlog]
    simp only [Scene.painted, hlast]
    exact hshows

/-- Pouring a frozen view anew keeps what every reachable window has. -/
theorem sound_redrawFrozen (h : LaidOut capacity w rows) (hfrozen : w.scroll.frozen = true)
    (hheld : w.backlog.lines ≠ []) :
    Sound capacity (Scene.painted ⟨w, p, rows⟩ (w.redrawFrozen p rows)) := by
  have hpane : PaneOnly w (w.redrawFrozen p rows).1 := paneOnly_redrawFrom ..
  refine { h.of_paneOnly hpane with held := ?_, live := ?_ }
  · intro _
    simp only [Scene.painted, hpane.backlog]
    exact hheld
  · intro hlive
    have hstill : (w.redrawFrozen p rows).1.scroll.frozen = true := by rw [hpane.scroll, hfrozen]
    exact absurd (hstill.symm.trans hlive) Bool.noConfusion

/-- Pouring the view anew, frozen or not, brings a window into order. -/
theorem sound_refreshView (h : LaidOut capacity w rows)
    (hblank : w.backlog.lines = [] → w.scroll.frozen = false ∧ w.pane.erase = w.pane) :
    Sound capacity (Scene.painted ⟨w, p, rows⟩ (w.refreshView p rows)) := by
  unfold refreshView
  by_cases hfrozen : w.scroll.frozen = true
  · have hheld : w.backlog.lines ≠ [] := by
      intro hnil
      exact absurd (hfrozen.symm.trans (hblank hnil).1) Bool.noConfusion
    by_cases hback : w.scroll.back > viewHeight rows
    · rw [if_pos (by simp [hfrozen, hback])]
      exact sound_redrawFrozen h hfrozen hheld
    · rw [if_neg (by simp [hback])]
      simp only [hfrozen, if_true]
      exact sound_redrawTail (h.of_scroll {}) rfl fun hnil => absurd hnil hheld
  · rw [Bool.not_eq_true] at hfrozen
    simp only [hfrozen, Bool.false_and, Bool.false_eq_true, if_false]
    exact sound_redrawTail h hfrozen fun hnil => (hblank hnil).2

/-! ### One act -/

/-- What an act must keep to: no empty line is appended, and the backlog has room for the lines of
every view. -/
def Act.Allowed (capacity : Nat) : Act → Prop
  | .append line => line.text ≠ ""
  | .recreate rows _ => viewHeight rows ≤ capacity
  | _ => True

variable {s : Scene}

/-- The last lines after a line has come are the last of those before and the new one. -/
theorem lastLines_push (hroom : viewHeight rows ≤ w.backlog.capacity) (line : Line) :
    { w with backlog := w.backlog.push line }.lastLines rows
      = (w.lastLines rows ++ [line]).drop ((w.lastLines rows ++ [line]).length - viewHeight rows) := by
  have hkept : w.lastLines rows ++ [line] <:+ w.backlog.lines ++ [line] := by
    rw [List.suffix_append_self_iff]
    exact List.drop_suffix ..
  rw [drop_last_of_suffix hkept]
  · refine drop_last_of_suffix (w.backlog.lines_push_suffix line) ?_
    have hsize : min w.backlog.capacity (w.backlog.lines.length + 1)
        ≤ (w.backlog.push line).lines.length :=
      w.backlog.le_size_push line
    rw [List.length_append, List.length_singleton]
    omega
  · simp only [lastLines, Backlog.since, Backlog.size, List.length_append, List.length_singleton,
      List.length_drop]
    omega

theorem sound_append (h : Sound capacity s) {line : Line} (hline : line.text ≠ "") :
    Sound capacity (s.painted (s.window.append s.palette line)) := by
  have hstored : LaidOut capacity { s.window with backlog := s.window.backlog.push line } s.rows := by
    refine ⟨h.pane, h.height, ?_, h.capacity_eq, h.room⟩
    have hall : ∀ l ∈ s.window.backlog.lines ++ [line], l.text ≠ "" :=
      List.forall_mem_append.2 ⟨h.full, List.forall_mem_singleton.2 hline⟩
    exact fun l hl => hall l ((s.window.backlog.lines_push_suffix line).subset hl)
  have hheld : (s.window.backlog.push line).lines ≠ [] := by simp [Backlog.push]
  unfold append
  by_cases hfrozen : s.window.scroll.frozen = true
  · simp only [hfrozen, if_true]
    refine { hstored with held := fun _ => hheld, live := ?_ }
    intro hlive
    exact absurd (hfrozen.symm.trans hlive) Bool.noConfusion
  · rw [Bool.not_eq_true] at hfrozen
    simp only [hfrozen, Bool.false_eq_true, if_false]
    refine { hstored.of_paneOnly (paneOnly_pourLine (_, _) line 0) with
      held := fun _ => hheld, live := ?_ }
    intro _
    have hshows := (h.live hfrozen).pour h.full_lastLines hline
    have hall : ∀ l ∈ s.window.lastLines s.rows ++ [line], l.text ≠ "" :=
      List.forall_mem_append.2 ⟨h.full_lastLines, List.forall_mem_singleton.2 hline⟩
    have hheight : (s.window.pane.pour s.palette line.text line.indent 0).grid.height
        ≤ viewHeight s.rows + 1 := by
      rw [(Grid.frame_pour ..).height]
      exact h.height_le
    have hlast := hshows.last hall hheight
    rw [← lastLines_push (h.capacity_eq ▸ h.room)] at hlast
    exact hlast

/-- Going back shows lines, so there are some. -/
theorem sound_scrollUp (h : Sound capacity s) (step : Nat) :
    Sound capacity (s.act (.scrollUp step)) := by
  rcases s.scrollUp_cases step with ⟨-, hsame⟩ | ⟨q, hq, -, hact⟩
  · rwa [hsame]
  · rw [hact]
    obtain ⟨hsize, -, scroll, hfrozen, rfl⟩ := scrollUp?_eq_some hq
    refine sound_redrawFrozen (h.of_scroll scroll) hfrozen ?_
    intro hnil
    rw [Backlog.size, hnil] at hsize
    exact Nat.not_lt_zero _ hsize

theorem sound_scrollDown (h : Sound capacity s) (step : Nat) :
    Sound capacity (s.act (.scrollDown step)) := by
  rcases s.scrollDown_cases step with ⟨-, hsame⟩ | ⟨q, hq, -, hact⟩
  · rwa [hsame]
  · rw [hact]
    obtain ⟨hfrozen, rfl⟩ := scrollDown?_eq_some hq
    refine sound_refreshView (h.of_scroll _) ?_
    intro hnil
    exact absurd hnil (h.held hfrozen)

/-- A window that is laid out anew gets a blank pane of the height there is for it. -/
theorem layout_eq_new {w : Window} (h : w.pane.IsPane) (rows cols : Nat) :
    ∃ width, (w.layout rows cols).pane = Grid.new width (paneHeight rows) true := by
  obtain ⟨width, hpane⟩ := pane_layout w rows cols
  exact ⟨width, hpane.trans (h.resize ..)⟩

theorem sound_recreate (h : Sound capacity s) {rows : Nat} (hroom : viewHeight rows ≤ capacity)
    (cols : Nat) :
    Sound capacity ({ s with rows }.painted (s.window.recreate s.palette rows cols)) := by
  obtain ⟨width, hpane⟩ := layout_eq_new h.pane rows cols
  have hnew : ((s.window.layout rows cols).drawPanel rows).pane
      = Grid.new width (paneHeight rows) true := by rw [pane_drawPanel, hpane]
  have hlaid : LaidOut capacity ((s.window.layout rows cols).drawPanel rows) rows := by
    refine ⟨?_, ?_, ?_, ?_, hroom⟩
    · rw [hnew]
      exact Grid.isPane_new ..
    · rw [hnew, Grid.height_new]
    · rw [backlog_drawPanel, backlog_layout]
      exact h.full
    · rw [backlog_drawPanel, backlog_layout]
      exact h.capacity_eq
  refine sound_refreshView hlaid ?_
  intro hnil
  rw [backlog_drawPanel, backlog_layout] at hnil
  rw [scroll_drawPanel, scroll_layout, hnew]
  constructor
  · rw [← Bool.not_eq_true]
    exact fun hfrozen => h.held hfrozen hnil
  · exact Grid.erase_new ..

/-- Whatever is done with a window, it stays sound. -/
theorem sound_act (h : Sound capacity s) {a : Act} (ha : a.Allowed capacity) :
    Sound capacity (s.act a) := by
  cases a with
  | append line => exact sound_append h ha
  | scrollUp step => exact sound_scrollUp h step
  | scrollDown step => exact sound_scrollDown h step
  | pageUp => exact sound_scrollUp h _
  | pageDown => exact sound_scrollDown h _
  | recreate rows cols => exact sound_recreate h ha cols
  | seat roster named =>
    exact { h with }
  | resolve code =>
    refine { h with live := ?_ }
    intro hlive
    exact (h.live hlive).of_le h.full_lastLines (Color.Palette.le_resolve ..)

theorem sound_start (label : String) (title : Option String) (number cols : Nat)
    (p : Color.Palette) (hrows : viewHeight rows ≤ max capacity 1) :
    Sound (max capacity 1) (.start label title number capacity rows cols p) := by
  obtain ⟨width, hnew⟩ : ∃ width, (Window.new label title number capacity rows cols).pane
      = Grid.new width (paneHeight rows) true := layout_eq_new (Grid.isPane_new 0 0) rows cols
  have hbacklog : (Window.new label title number capacity rows cols).backlog = .new capacity :=
    backlog_layout ..
  have hscroll : (Window.new label title number capacity rows cols).scroll = {} := scroll_layout ..
  refine ⟨⟨?_, ?_, ?_, ?_, hrows⟩, ?_, ?_⟩
  · simp only [Scene.start, hnew]
    exact Grid.isPane_new ..
  · simp only [Scene.start, hnew, Grid.height_new]
  · simp [Scene.start, hbacklog, Backlog.new]
  · simp [Scene.start, hbacklog, Backlog.new]
  · simp [Scene.start, hscroll]
  · intro _
    have hlast : (Window.new label title number capacity rows cols).lastLines rows = [] := by
      simp [lastLines, hbacklog, Backlog.since, Backlog.new]
    simp only [Scene.start, hlast]
    rw [Grid.Shows, hnew, Grid.height_new]
    rfl

theorem sound_run (h : Sound capacity s) {acts : List Act} (hacts : ∀ a ∈ acts, a.Allowed capacity) :
    Sound capacity (s.run acts) := by
  induction acts generalizing s with
  | nil => exact h
  | cons a acts ih =>
    have hfirst : Sound capacity (s.act a) := sound_act h (hacts a List.mem_cons_self)
    exact ih hfirst fun b hb => hacts b (List.mem_cons_of_mem _ hb)

/-- **A live pane never drifts from the backlog.**  Whatever has been done with a window, if its view is
not frozen then the cells and the cursor of its pane are those that pouring the last lines of the
backlog, as many as the view has rows, leaves on a blank grid of its size; and pouring them registers no
colour.  For this no empty line may have come, and the backlog must have room for the lines of every
view there was. -/
theorem pane_eq_pourLines (label : String) (title : Option String) (number capacity rows cols : Nat)
    (palette : Color.Palette) (acts : List Act) (hrows : viewHeight rows ≤ max capacity 1)
    (hacts : ∀ a ∈ acts, a.Allowed (max capacity 1)) :
    let s := (Scene.start label title number capacity rows cols palette).run acts
    s.window.scroll.frozen = false →
      Grid.pourLines (.new s.window.pane.width s.window.pane.height true, s.palette)
          (s.window.backlog.since (s.window.backlog.size - viewHeight s.rows))
        = (s.window.pane, s.palette) := by
  intro s hlive
  have hsound : Sound (max capacity 1) s :=
    sound_run (sound_start label title number cols palette hrows) hacts
  exact hsound.live hlive

/-- A view of two rows that has been scrolled back, has had a coloured line come meanwhile, and has
returned to the end. -/
theorem pane_eq_pourLines_thawed :
    let lines : List Line := [⟨"one", 0⟩, ⟨"two", 0⟩, ⟨"three", 0⟩, ⟨"\x034,1four five six", 2⟩]
    let s := (Scene.start "(status)" none 1 4 5 8 (.new {} true 0)).run
      [.append ⟨"one", 0⟩, .append ⟨"two", 0⟩, .append ⟨"three", 0⟩, .scrollUp 1,
        .append ⟨"\x034,1four five six", 2⟩, .scrollDown 2]
    s.window.backlog.lines = lines ∧ s.window.scroll.frozen = false ∧
      Grid.pourLines (.new 8 3 true, s.palette) (lines.drop 2) = (s.window.pane, s.palette) := by
  intro lines s
  have hlive : s.window.scroll.frozen = false := by decide +kernel
  have hlines : s.window.backlog.lines = lines := by decide +kernel
  have hshown := pane_eq_pourLines "(status)" none 1 4 5 8 (.new {} true 0)
    [.append ⟨"one", 0⟩, .append ⟨"two", 0⟩, .append ⟨"three", 0⟩, .scrollUp 1,
      .append ⟨"\x034,1four five six", 2⟩, .scrollDown 2]
    (by decide) (by simp [Act.Allowed]) hlive
  have hwidth : s.window.pane.width = 8 := by decide +kernel
  have hheight : s.window.pane.height = 3 := by decide +kernel
  have hlast : s.window.backlog.since (s.window.backlog.size - viewHeight s.rows) = lines.drop 2 := by
    rw [Backlog.since, Backlog.size, hlines]
    decide
  refine ⟨hlines, hlive, ?_⟩
  rw [← hwidth, ← hheight, ← hlast]
  exact hshown

end Window
end ChatConsole
