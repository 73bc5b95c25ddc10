/-
# Lines poured one after another

A grid shows some lines when pouring them anew on a blank grid would leave just this grid, and register
no colour (`Shows`).  This stays so as the palette grows (`Shows.of_le`), and when a further line is
poured (`Shows.pour`).  Each line takes a row at least, so as many lines as the view has rows fill it,
and those before them may be forgotten (`Shows.last`): this is why appending line by line and pouring
the last lines anew cannot differ.
-/

import ChatConsole.Backlog
import ChatConsole.Proofs.Flow.Frame
import ChatConsole.Proofs.Flow.Repaint
import ChatConsole.Proofs.Flow.Rows

namespace ChatConsole
namespace Grid

/-- Pour lines in full, one after another. -/
def pourLines (p : Grid × Color.Palette) : List Line → Grid × Color.Palette
  | [] => p
  | line :: rest =>
    let poured := p.1.pour p.2 line.text line.indent 0
    pourLines (poured.grid, poured.palette) rest

theorem pourLines_append (p : Grid × Color.Palette) (before after : List Line) :
    pourLines p (before ++ after) = pourLines (pourLines p before) after := by
  induction before generalizing p with
  | nil => rfl
  | cons line before ih => exact ih _

/-- Pouring lines keeps the frame of a grid. -/
theorem frame_pourLines (p : Grid × Color.Palette) (lines : List Line) :
    SameFrame p.1 (pourLines p lines).1 := by
  induction lines generalizing p with
  | nil => exact .refl _
  | cons line lines ih =>
    have hline : SameFrame p.1 (p.1.pour p.2 line.text line.indent 0).grid := frame_pour ..
    exact hline.trans (ih (_, _))

/-! ### The rows of lines -/

/-- The rows of some lines as a grid shows them, whatever else is on the grid, and the palette after
them. -/
def rowsOf (g : Grid) (palette : Color.Palette) : List Line → List (List Cell) × Color.Palette
  | [] => ([], palette)
  | line :: rest =>
    let s := Sheet.ofText palette line.text g.width line.indent 0
    let below := rowsOf g s.palette rest
    (s.rows.map g.fill ++ below.1, below.2)

variable {g : Grid} {p q : Color.Palette} {lines : List Line}

theorem rowsOf_append (p : Color.Palette) (before after : List Line) :
    g.rowsOf p (before ++ after)
      = ((g.rowsOf p before).1 ++ (g.rowsOf (g.rowsOf p before).2 after).1,
          (g.rowsOf (g.rowsOf p before).2 after).2) := by
  induction before generalizing p with
  | nil => rfl
  | cons line before ih =>
    simp only [List.cons_append, rowsOf, ih, List.append_assoc]

/-- Each line takes a row at least. -/
theorem length_le_rowsOf (p : Color.Palette) (lines : List Line) :
    lines.length ≤ (g.rowsOf p lines).1.length := by
  induction lines generalizing p with
  | nil => exact Nat.zero_le _
  | cons line lines ih =>
    have hrest := ih (Sheet.ofText p line.text g.width line.indent 0).palette
    have hrow : 0 < (Sheet.ofText p line.text g.width line.indent 0).rows.length :=
      List.length_pos_iff.2 (Sheet.rows_ofText_ne_nil _ _ _ _ _)
    simp only [rowsOf, List.length_append, List.length_map, List.length_cons]
    omega

theorem le_rowsOf (p : Color.Palette) (lines : List Line) : p ≤ (g.rowsOf p lines).2 := by
  induction lines generalizing p with
  | nil => exact le_refl p
  | cons line lines ih => exact le_trans (Sheet.le_palette_ofText ..) (ih _)

/-- Lines have the same rows in every later palette. -/
theorem rowsOf_of_le (h : (g.rowsOf p lines).2 ≤ q) :
    g.rowsOf q lines = ((g.rowsOf p lines).1, q) := by
  induction lines generalizing p with
  | nil => rfl
  | cons line lines ih =>
    have hline : (Sheet.ofText p line.text g.width line.indent 0).palette ≤ q :=
      le_trans (le_rowsOf _ lines) h
    have hrest : g.rowsOf q lines = _ := ih h
    simp only [rowsOf, Sheet.ofText_of_le hline, Sheet.withPalette, hrest]

/-- Pouring lines ends their rows on a page. -/
theorem pourLines_page (hs : g.scrolls = true) (hh : 0 < g.height) (hw : 2 ≤ g.width)
    (hstyle : g.style = {}) (hlines : ∀ line ∈ lines, line.text ≠ "") (p : Color.Palette)
    (ended : List (List Cell)) :
    pourLines (g.page ended [] [], p) lines
      = (g.page (ended ++ (g.rowsOf p lines).1) [] [], (g.rowsOf p lines).2) := by
  have hplain : { g with style := {} } = g := by rw [← hstyle]
  induction lines generalizing p ended with
  | nil => simp [pourLines, rowsOf]
  | cons line lines ih =>
    have hpour : (g.page ended [] []).pour p line.text line.indent 0 = _ :=
      pour_page hs hh hw p (hlines line List.mem_cons_self) line.indent 0
    have hrest : ∀ line ∈ lines, line.text ≠ "" := fun l hl => hlines l (List.mem_cons_of_mem _ hl)
    simp only [pourLines, hpour, hplain, ih hrest, rowsOf, List.append_assoc]

/-! ### A blank grid -/

/-- A grid of one column or no row takes nothing. -/
theorem pour_of_small (h : g.width < 2 ∨ g.height = 0) (p : Color.Palette) (text : String)
    (indent cap : Nat) : g.pour p text indent cap = ⟨g, p, 0⟩ := by
  rw [pour, if_pos]
  simp only [Bool.or_eq_true, decide_eq_true_eq]
  rcases h with h | h
  · exact Or.inl (Or.inr h)
  · exact Or.inr h

theorem pourLines_of_small (h : g.width < 2 ∨ g.height = 0) :
    pourLines (g, p) lines = (g, p) := by
  induction lines with
  | nil => rfl
  | cons line lines ih => simp only [pourLines, pour_of_small h, ih]

variable {width height : Nat}

theorem pourLines_new (hw : 2 ≤ width) (hh : 0 < height) (hlines : ∀ line ∈ lines, line.text ≠ "")
    (p : Color.Palette) :
    pourLines (new width height true, p) lines
      = ((new width height true).page ((new width height true).rowsOf p lines).1 [] [],
          ((new width height true).rowsOf p lines).2) := by
  have hheight : 0 < (new width height true).height := by simpa [new, Grid.height] using hh
  have hpage : pourLines ((new width height true).page [] [] [], p) lines = _ :=
    pourLines_page rfl hheight hw rfl hlines p []
  rwa [← new_eq_page true hh] at hpage

theorem height_new (scrolls : Bool) : (new width height scrolls).height = height := by
  simp [new, Grid.height]

/-- Whether a blank grid takes text or not, pouring lines again in a later palette leaves the same. -/
theorem pourLines_new_of_le (hlines : ∀ line ∈ lines, line.text ≠ "")
    (h : (pourLines (new width height true, p) lines).2 ≤ q) :
    pourLines (new width height true, q) lines
      = ((pourLines (new width height true, p) lines).1, q) := by
  by_cases htakes : 2 ≤ width ∧ 0 < height
  · obtain ⟨hw, hh⟩ := htakes
    rw [pourLines_new hw hh hlines] at h ⊢
    rw [pourLines_new hw hh hlines, rowsOf_of_le h]
  · have hsmall : (new width height true).width < 2 ∨ (new width height true).height = 0 := by
      rw [height_new]
      show width < 2 ∨ height = 0
      omega
    rw [pourLines_of_small hsmall, pourLines_of_small hsmall]

/-! ### The lines that a grid shows -/

/-- Pouring the lines anew would leave this grid, and register no colour. -/
def Shows (g : Grid) (palette : Color.Palette) (lines : List Line) : Prop :=
  pourLines (new g.width g.height true, palette) lines = (g, palette)

namespace Shows

/-- What lines leave on a blank grid shows them. -/
theorem of_pourLines (hlines : ∀ line ∈ lines, line.text ≠ "") :
    Shows (pourLines (new width height true, p) lines).1
      (pourLines (new width height true, p) lines).2 lines := by
  obtain ⟨hwidth, hheight, -, -⟩ := frame_pourLines (new width height true, p) lines
  rw [height_new] at hheight
  unfold Shows
  rw [hwidth, hheight]
  exact pourLines_new_of_le hlines (le_refl _)

/-- Registering more colours changes nothing. -/
theorem of_le (h : Shows g p lines) (hlines : ∀ line ∈ lines, line.text ≠ "") (hq : p ≤ q) :
    Shows g q lines := by
  unfold Shows at h ⊢
  rw [pourLines_new_of_le hlines (by rw [h]; exact hq), h]

/-- Pouring a further line shows it below the others. -/
theorem pour (h : Shows g p lines) (hlines : ∀ line ∈ lines, line.text ≠ "") {line : Line}
    (hline : line.text ≠ "") :
    Shows (g.pour p line.text line.indent 0).grid (g.pour p line.text line.indent 0).palette
      (lines ++ [line]) := by
  have hall : ∀ l ∈ lines ++ [line], l.text ≠ "" :=
    List.forall_mem_append.2 ⟨hlines, List.forall_mem_singleton.2 hline⟩
  have hpoured : pourLines (new g.width g.height true, p) (lines ++ [line])
      = ((g.pour p line.text line.indent 0).grid, (g.pour p line.text line.indent 0).palette) := by
    rw [pourLines_append, h]
    rfl
  have hshows : Shows (pourLines (new g.width g.height true, p) (lines ++ [line])).1 _ _ :=
    of_pourLines hall
  rwa [hpoured] at hshows

/-- Lines above those that fill the grid are out of view. -/
theorem of_append {gone kept : List Line} (h : Shows g p (gone ++ kept))
    (hlines : ∀ line ∈ gone ++ kept, line.text ≠ "") (hfill : g.height ≤ kept.length + 1) :
    Shows g p kept := by
  have hkept : ∀ line ∈ kept, line.text ≠ "" := fun line hline =>
    hlines line (List.mem_append_right gone hline)
  unfold Shows at h ⊢
  by_cases htakes : 2 ≤ g.width ∧ 0 < g.height
  · obtain ⟨hw, hh⟩ := htakes
    have hheight : (new g.width g.height true).height = g.height := height_new true
    rw [pourLines_new hw hh hlines, rowsOf_append, Prod.mk.injEq] at h
    obtain ⟨hgrid, hpalette⟩ := h
    dsimp only at hgrid hpalette
    -- The lines that are gone have registered their colours before, so the others begin with `p`.
    have hgone : ((new g.width g.height true).rowsOf p gone).2 = p :=
      le_antisymm (le_trans (le_rowsOf _ kept) (le_of_eq hpalette)) (le_rowsOf p gone)
    rw [hgone] at hgrid hpalette
    have hmany : kept.length ≤ ((new g.width g.height true).rowsOf p kept).1.length :=
      length_le_rowsOf p kept
    rw [page_append_left (by omega)] at hgrid
    rw [pourLines_new hw hh hkept, hpalette, hgrid]
  · have hsmall : (new g.width g.height true).width < 2 ∨ (new g.width g.height true).height = 0 := by
      rw [height_new]
      show g.width < 2 ∨ g.height = 0
      omega
    rw [pourLines_of_small hsmall] at h ⊢
    exact h

/-- As many lines as there are rows above the last one are all that shows. -/
theorem last (h : Shows g p lines) (hlines : ∀ line ∈ lines, line.text ≠ "") {n : Nat}
    (hn : g.height ≤ n + 1) : Shows g p (lines.drop (lines.length - n)) := by
  by_cases hmore : n < lines.length
  · rw [← List.take_append_drop (lines.length - n) lines] at h hlines
    refine of_append h hlines ?_
    rw [List.length_drop]
    omega
  · rw [Nat.sub_eq_zero_of_le (Nat.le_of_not_lt hmore), List.drop_zero]
    exact h

end Shows
end Grid
end ChatConsole
