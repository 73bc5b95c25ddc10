/-
# The segments of a frame

A terminal is sent a frame as segments, each a move of the cursor and the glyphs written from there on.
A row of whole glyphs is a segment of as many columns as the row has cells (`segments_rowAt`), so the
segments of a frame can be told from the measures of what is on the display (`segments_frame`).
-/

import ChatConsole.Proofs.Display.Bars
import ChatConsole.Proofs.Window.Layout
import ChatConsole.Proofs.Window.Neat
import Mathlib.Data.List.Basic

namespace ChatConsole

/-! ### Segments -/

/-- What is written from a place on the screen on. -/
structure Segment where
  row : Nat
  col : Nat
  columns : Nat
  deriving DecidableEq, Repr

/-- Two segments have a place in common. -/
def Segment.Overlaps (s t : Segment) : Prop :=
  s.row = t.row ∧ max s.col t.col < min (s.col + s.columns) (t.col + t.columns)

theorem Segment.apart_of_row_ne {s t : Segment} (h : s.row ≠ t.row) : ¬ s.Overlaps t :=
  fun hover => h hover.1

namespace Signal

/-- The columns that the cursor goes on by. -/
def columns : Signal → Nat
  | glyph c => Text.columns c
  | _ => 0

def isMove : Signal → Bool
  | moveTo _ _ => true
  | _ => false

/-- The columns that the cursor goes on by before it is moved. -/
def reach : List Signal → Nat
  | [] => 0
  | s :: rest => if s.isMove then 0 else s.columns + reach rest

/-- The segments of what is sent. -/
def segments : List Signal → List Segment
  | [] => []
  | moveTo row col :: rest => ⟨row, col, reach rest⟩ :: segments rest
  | _ :: rest => segments rest

/-- Signals that begin with a move, or none at all. -/
def Begins (signals : List Signal) : Prop :=
  signals.head?.all isMove = true

variable {as bs : List Signal}

theorem begins_moveTo (row col : Nat) (rest : List Signal) : Begins (moveTo row col :: rest) := rfl

theorem Begins.append (has : Begins as) (hbs : Begins bs) : Begins (as ++ bs) := by
  cases as with
  | nil => exact hbs
  | cons a as => exact has

/-- What comes behind a move is another segment. -/
theorem reach_append (h : Begins bs) : reach (as ++ bs) = reach as := by
  induction as with
  | nil =>
    cases bs with
    | nil => rfl
    | cons b bs => exact if_pos h
  | cons a as ih => rw [List.cons_append, reach, reach, ih]

theorem segments_append (h : Begins bs) : segments (as ++ bs) = segments as ++ segments bs := by
  induction as with
  | nil => rfl
  | cons a as ih =>
    cases a with
    | moveTo row col => simp only [List.cons_append, segments, reach_append h, ih]
    | _ => exact ih

theorem segments_flatMap {α : Type} (xs : List α) {f : α → List Signal} (h : ∀ x, Begins (f x)) :
    Begins (xs.flatMap f) ∧ segments (xs.flatMap f) = xs.flatMap fun x => segments (f x) := by
  induction xs with
  | nil => exact ⟨rfl, rfl⟩
  | cons x xs ih =>
    rw [List.flatMap_cons, List.flatMap_cons, segments_append ih.1, ih.2]
    exact ⟨(h x).append ih.1, rfl⟩

/-! ### Rows -/

/-- Signals that stay on the row and go on by some columns. -/
def Advances (signals : List Signal) (n : Nat) : Prop :=
  (∀ s ∈ signals, s.isMove = false) ∧ reach signals = n

theorem Advances.append {m n : Nat} (has : Advances as m) (hbs : Advances bs n) :
    Advances (as ++ bs) (m + n) := by
  obtain ⟨hmoves, rfl⟩ := has
  refine ⟨List.forall_mem_append.2 ⟨hmoves, hbs.1⟩, ?_⟩
  induction as with
  | nil => rw [List.nil_append, hbs.2, reach, Nat.zero_add]
  | cons a as ih =>
    obtain ⟨ha, has⟩ := List.forall_mem_cons.1 hmoves
    rw [List.cons_append, reach, reach, ha, if_neg Bool.false_ne_true, if_neg Bool.false_ne_true,
      ih has, Nat.add_assoc]

theorem advances_glyph (c : Char) : Advances [glyph c] (Text.columns c) :=
  ⟨List.forall_mem_singleton.2 rfl, Nat.add_zero _⟩

theorem advances_resetStyle : Advances [resetStyle] 0 :=
  ⟨List.forall_mem_singleton.2 rfl, rfl⟩

theorem advances_ofInk {make : Color.Ink → Signal} (hmake : ∀ ink, Advances [make ink] 0)
    (ink : Color.Ink) : Advances (ofInk make ink) 0 := by
  cases ink with
  | standard => exact ⟨fun _ hs => absurd hs List.not_mem_nil, rfl⟩
  | indexed n => exact hmake _
  | rgb r g b => exact hmake _

/-- Changing the style writes nothing. -/
theorem advances_ofStyle (p : Color.Palette) (background style : Style) :
    Advances (ofStyle p background style) 0 := by
  have hmode (on : Bool) {s : Signal} (hs : Advances [s] 0) :
      Advances (if on = true then [s] else []) 0 := by
    split
    · exact hs
    · exact ⟨fun _ hs => absurd hs List.not_mem_nil, rfl⟩
  have hmodes : Advances
      (resetStyle :: (if style.bold then [bold] else []) ++
        (if style.underline then [underline] else []) ++
        (if style.reverse then [reverse] else [])) 0 :=
    ((advances_resetStyle.append (hmode _ ⟨List.forall_mem_singleton.2 rfl, rfl⟩)).append
      (hmode _ ⟨List.forall_mem_singleton.2 rfl, rfl⟩)).append
      (hmode _ ⟨List.forall_mem_singleton.2 rfl, rfl⟩)
  unfold ofStyle
  refine hmodes.append (n := 0) ?_
  split
  · exact (advances_ofInk (fun _ => ⟨List.forall_mem_singleton.2 rfl, rfl⟩) _).append
      (advances_ofInk (fun _ => ⟨List.forall_mem_singleton.2 rfl, rfl⟩) _)
  · exact ⟨fun _ hs => absurd hs List.not_mem_nil, rfl⟩

/-- Cells are written as the glyphs they hold; a filler is not sent, and it takes no column. -/
theorem advances_ofCells (p : Color.Palette) (background last : Style) (cells : List Cell) :
    Advances (ofCells p background last cells) (Text.columnsOf (cells.map Cell.char)) := by
  induction cells generalizing last with
  | nil => exact ⟨fun _ hs => absurd hs List.not_mem_nil, rfl⟩
  | cons cell cells ih =>
    rw [ofCells, List.map_cons, Text.columnsOf_cons]
    split
    · rename_i hfiller
      rw [hfiller, Cell.columns_filler, Nat.zero_add]
      exact ih last
    split
    · exact (advances_glyph cell.char).append (ih last)
    · have hstyled := (advances_ofStyle p background cell.style).append
        ((advances_glyph cell.char).append (ih cell.style))
      rwa [Nat.zero_add] at hstyled

/-- Signals that stay on the row are no segment of their own. -/
theorem segments_of_advances {n : Nat} (h : Advances as n) : segments as = [] := by
  obtain ⟨hmoves, -⟩ := h
  induction as with
  | nil => rfl
  | cons s as ih =>
    obtain ⟨hs, has⟩ := List.forall_mem_cons.1 hmoves
    cases s with
    | moveTo row col => cases hs
    | _ => exact ih has

end Signal

namespace Display

open Signal (segments segments_append segments_flatMap begins_moveTo)

variable {d : Display}

/-! ### The frame -/

/-- A row of whole glyphs is one segment of as many columns as it has cells. -/
theorem segments_rowAt (d : Display) (row col : Nat) {g : Grid} {y : Nat} {cells : List Cell}
    (hy : g.rows[y]? = some cells) (hwhole : Cell.Whole cells) :
    segments (d.rowAt row col g y) = [⟨row, col, cells.length⟩] := by
  have hrow : Signal.Advances (g.rowSignals d.palette y) cells.length := by
    rw [Grid.rowSignals, hy, ← hwhole.columnsOf]
    have hall := (Signal.advances_resetStyle.append
      (Signal.advances_ofCells d.palette g.background {} cells)).append Signal.advances_resetStyle
    rwa [Nat.zero_add, Nat.add_zero] at hall
  rw [rowAt, Signal.segments, hrow.2, Signal.segments_of_advances hrow]

/-- A row of a grid that has been written on row by row. -/
theorem segments_rowAt_of_neat (d : Display) (row col : Nat) {g : Grid} {y : Nat} (hg : g.Neat)
    (hy : y < g.height) : segments (d.rowAt row col g y) = [⟨row, col, g.width⟩] := by
  obtain ⟨hlength, hwhole⟩ := hg.rows _ (List.getElem_mem hy)
  rw [segments_rowAt d row col (List.getElem?_eq_getElem hy) hwhole, hlength]

/-- All that a frame shows has been written on row by row and measures what the terminal asks for. -/
structure Sound (d : Display) : Prop where
  arranged : d.desk.active.Arranged d.rows d.cols
  neat : d.desk.active.Neat
  titleBar : d.titleBar.Neat ∧ d.titleBar.height = 1 ∧ d.titleBar.width = d.cols
  statusBar : d.statusBar.Neat ∧ d.statusBar.height = 1 ∧ d.statusBar.width = d.cols
  input : d.input.Spans d.cols

/-- The segments of one row of the view: the pane, and the panel of a channel beside it. -/
def viewSegments (d : Display) (y : Nat) : List Segment :=
  let w := d.desk.active
  ⟨y + 1, 0, d.cols - w.panelWidth⟩ ::
    if w.isChannel then [⟨y + 1, d.cols - w.panelWidth, w.panelWidth⟩] else []

theorem begins_rowAt (d : Display) (row col : Nat) (g : Grid) (y : Nat) :
    Signal.Begins (d.rowAt row col g y) :=
  Signal.begins_moveTo ..

theorem segments_viewRow (h : d.Sound) {y : Nat} (hy : y < Window.viewHeight d.rows) :
    segments (d.viewRow d.desk.active y) = d.viewSegments y := by
  have hlow : y < Window.paneHeight d.rows := by
    unfold Window.viewHeight at hy
    unfold Window.paneHeight
    omega
  have hpane := segments_rowAt_of_neat d (y + 1) 0 h.neat.pane (h.arranged.height ▸ hlow)
  rw [h.arranged.width] at hpane
  unfold viewRow viewSegments
  cases hchannel : d.desk.active.isChannel with
  | false =>
    rw [(h.arranged.plain hchannel).2]
    simp only [List.append_nil, hpane, hchannel, Bool.false_eq_true, if_false]
  | true =>
    obtain ⟨panel, hpanel, hwidth, hheight⟩ := h.arranged.panel hchannel
    have hbeside := segments_rowAt_of_neat d (y + 1) d.desk.active.pane.width
      (h.neat.panel panel hpanel).2 (hheight ▸ hlow)
    rw [h.arranged.width, hwidth] at hbeside
    rw [hpanel, h.arranged.width]
    simp only [segments_append (begins_rowAt ..), hpane, hbeside, hchannel, if_true]
    rfl

theorem begins_viewRow (d : Display) (w : Window) (y : Nat) : Signal.Begins (d.viewRow w y) :=
  rfl

/-- **The segments of a frame**, on a terminal that is not too small: the title bar, the rows of the view,
the status bar and the input row, at whose cursor nothing is written. -/
theorem segments_frame (h : d.Sound) (hsize : d.isTooSmall = false) :
    segments d.frame
      = ⟨0, 0, d.cols⟩ :: (List.range (Window.viewHeight d.rows)).flatMap d.viewSegments
        ++ [⟨d.rows - 2, 0, d.cols⟩, ⟨d.rows - 1, 0, d.cols⟩, ⟨d.rows - 1, d.input.col, 0⟩] := by
  have hbar (row : Nat) {g : Grid} (hg : g.Neat ∧ g.height = 1 ∧ g.width = d.cols) :
      segments (d.rowAt row 0 g 0) = [⟨row, 0, d.cols⟩] := by
    obtain ⟨hneat, hheight, hwidth⟩ := hg
    rw [segments_rowAt_of_neat d row 0 hneat (hheight ▸ Nat.one_pos), hwidth]
  have hview : segments ((List.range (Window.viewHeight d.rows)).flatMap (d.viewRow d.desk.active))
      = (List.range (Window.viewHeight d.rows)).flatMap d.viewSegments := by
    rw [(segments_flatMap _ (begins_viewRow d d.desk.active)).2]
    refine List.flatMap_congr fun y hy => ?_
    exact segments_viewRow h (List.mem_range.1 hy)
  have hinput : segments (d.rowAt (d.rows - 1) 0 d.input 0) = [⟨d.rows - 1, 0, d.cols⟩] := by
    have hzero : 0 < d.input.rows.length := by
      rw [show d.input.rows.length = 1 from h.input.height]
      exact Nat.one_pos
    obtain ⟨hlength, hwhole⟩ := h.input.row _ (List.getElem_mem hzero)
    rw [segments_rowAt d _ _ (List.getElem?_eq_getElem hzero) hwhole, hlength]
  have hhide (rest : List Signal) : segments (.hideCursor :: rest) = segments rest := rfl
  rw [frame, hsize, if_neg Bool.false_ne_true, hhide,
    segments_append (begins_moveTo ..), segments_append (begins_rowAt ..),
    segments_append (begins_rowAt ..),
    segments_append (segments_flatMap _ (begins_viewRow d d.desk.active)).1,
    hbar 0 h.titleBar, hview, hbar _ h.statusBar, hinput]
  simp [Signal.segments, Signal.reach, Signal.columns, Signal.isMove]

/-! ### The edges of the terminal -/

theorem row_of_mem_viewSegments {y : Nat} {s : Segment} (hs : s ∈ d.viewSegments y) :
    s.row = y + 1 := by
  unfold viewSegments at hs
  rcases List.mem_cons.1 hs with rfl | hs
  · rfl
  · split at hs
    · rw [List.mem_singleton.1 hs]
    · cases hs

theorem isTooSmall_eq_false_iff : d.isTooSmall = false ↔ minRows ≤ d.rows ∧ minCols ≤ d.cols := by
  simp [isTooSmall]

/-- A frame stays on the terminal just when the panel of the window with the focus does. -/
theorem fits_frame (h : d.Sound) (hsize : d.isTooSmall = false) :
    (∀ s ∈ segments d.frame, s.col + s.columns ≤ d.cols) ↔ d.desk.active.panelWidth ≤ d.cols := by
  have hrows : 4 ≤ d.rows := (isTooSmall_eq_false_iff.1 hsize).1
  rw [segments_frame h hsize]
  constructor
  · intro hall
    cases hchannel : d.desk.active.isChannel with
    | false =>
      rw [(h.arranged.plain hchannel).1]
      exact Nat.zero_le _
    | true =>
      have hpanel : (⟨1, d.cols - d.desk.active.panelWidth, d.desk.active.panelWidth⟩ : Segment)
          ∈ (List.range (Window.viewHeight d.rows)).flatMap d.viewSegments := by
        refine List.mem_flatMap.2 ⟨0, List.mem_range.2 (Nat.sub_pos_of_lt hrows), ?_⟩
        rw [viewSegments, hchannel]
        exact List.mem_cons_of_mem _ List.mem_cons_self
      have hfits := hall _ (List.mem_cons_of_mem _ (List.mem_append_left _ hpanel))
      exact Nat.le_of_add_left_le hfits
  · intro hpanel
    refine List.forall_mem_cons.2 ⟨Nat.le_of_eq (Nat.zero_add _), ?_⟩
    refine List.forall_mem_append.2 ⟨?_, ?_⟩
    · intro s hs
      obtain ⟨y, -, hs⟩ := List.mem_flatMap.1 hs
      unfold viewSegments at hs
      rcases List.mem_cons.1 hs with rfl | hs
      · exact Nat.le_trans (Nat.le_of_eq (Nat.zero_add _)) (Nat.sub_le ..)
      · split at hs
        · rw [List.mem_singleton.1 hs]
          exact Nat.le_of_eq (Nat.sub_add_cancel hpanel)
        · cases hs
    · simpa using h.input.col_le

theorem apart_view (d : Display) :
    ((List.range (Window.viewHeight d.rows)).flatMap d.viewSegments).Pairwise
      fun s t => ¬ s.Overlaps t := by
  refine List.pairwise_flatMap.2 ⟨?_, ?_⟩
  · intro y _
    unfold viewSegments
    dsimp only
    split
    · refine List.pairwise_pair.2 ?_
      rintro ⟨-, hover⟩
      simp only at hover
      omega
    · exact List.pairwise_singleton ..
  · refine List.Pairwise.imp ?_ List.nodup_range
    intro y z hne s hs t ht
    refine Segment.apart_of_row_ne ?_
    rw [row_of_mem_viewSegments hs, row_of_mem_viewSegments ht]
    omega

/-- Below the view there is a bar, and then the input row, at whose cursor nothing is written. -/
theorem apart_below {row cols : Nat} (col : Nat) (hrow : 0 < row) :
    [(⟨row - 1, 0, cols⟩ : Segment), ⟨row, 0, cols⟩, ⟨row, col, 0⟩].Pairwise
      fun s t => ¬ s.Overlaps t := by
  have hne : row - 1 ≠ row := Nat.ne_of_lt (Nat.sub_lt hrow Nat.one_pos)
  refine List.pairwise_cons.2 ⟨?_, List.pairwise_pair.2 ?_⟩
  · simp only [List.forall_mem_cons, List.not_mem_nil, false_imp_iff, implies_true, and_true]
    exact ⟨Segment.apart_of_row_ne hne, Segment.apart_of_row_ne hne⟩
  · rintro ⟨-, hover⟩
    simp only at hover
    omega

/-- No two segments of a frame have a place in common. -/
theorem apart_frame (h : d.Sound) (hsize : d.isTooSmall = false) :
    (segments d.frame).Pairwise fun s t => ¬ s.Overlaps t := by
  have hrows : 4 ≤ d.rows := (isTooSmall_eq_false_iff.1 hsize).1
  have hview : ∀ s ∈ (List.range (Window.viewHeight d.rows)).flatMap d.viewSegments,
      0 < s.row ∧ s.row < d.rows - 2 := by
    intro s hs
    obtain ⟨y, hy, hs⟩ := List.mem_flatMap.1 hs
    have hy' : y < d.rows - 3 := List.mem_range.1 hy
    rw [row_of_mem_viewSegments hs]
    omega
  have hlow : ∀ t ∈ [(⟨d.rows - 2, 0, d.cols⟩ : Segment), ⟨d.rows - 1, 0, d.cols⟩,
      ⟨d.rows - 1, d.input.col, 0⟩], d.rows - 2 ≤ t.row := by
    simp only [List.forall_mem_cons, List.not_mem_nil, false_imp_iff, implies_true, and_true]
    omega
  have hbelow : 0 < d.rows - 1 := by omega
  rw [segments_frame h hsize]
  refine List.pairwise_cons.2 ⟨List.forall_mem_append.2 ⟨?_, ?_⟩,
    List.pairwise_append.2 ⟨apart_view d, apart_below d.input.col hbelow, ?_⟩⟩
  · intro t ht
    exact Segment.apart_of_row_ne (Nat.ne_of_lt (hview t ht).1)
  · intro t ht
    have hrow := hlow t ht
    exact Segment.apart_of_row_ne (show 0 ≠ t.row by omega)
  · intro s hs t ht
    exact Segment.apart_of_row_ne (Nat.ne_of_lt (Nat.lt_of_lt_of_le (hview s hs).2 (hlow t ht)))

end Display
end ChatConsole
