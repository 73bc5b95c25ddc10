/-
# What a terminal shows of a row

A row is sent as its glyphs, with a change of look wherever the style of a glyph differs from the one
before it.  On a terminal every glyph then has its own look (`shown_ofCells`), once a first change has been
sent.  None is sent before that: glyphs in the default style at the start of a row are shown in the look
of a terminal that was reset, also where the background of the grid has colours (`shown_rowSignals`).
-/

import ChatConsole.Proofs.Grid.Edits
import ChatConsole.Proofs.Grid.Terminal
import Mathlib.Data.List.TakeWhile

namespace ChatConsole

/-- The look of a glyph: its flags, and the colours of its own pair, or of the background's pair where
it has none. -/
def Look.of (p : Color.Palette) (background style : Style) : Look :=
  let inks := (p.inks? (if style.pair = 0 then background.pair else style.pair)).getD
    (.standard, .standard)
  { bold := style.bold, underline := style.underline, reverse := style.reverse,
    foreground := inks.1, background := inks.2 }

namespace Terminal

variable {p : Color.Palette} {background style last : Style} {look : Look}
  {shown : List (Char × Look)}

/-! ### A change of style -/

theorem isSome_numbers?_ofInk {make : Color.Ink → Signal} (hmake : ∀ ink, (numbers? (make ink)).isSome)
    (ink : Color.Ink) : ∀ s ∈ Signal.ofInk make ink, (numbers? s).isSome := by
  cases ink with
  | standard => exact List.forall_mem_nil _
  | indexed | rgb => exact List.forall_mem_singleton.2 (hmake _)

/-- A change of style is sent in signals about looks. -/
theorem isSome_numbers?_ofStyle (p : Color.Palette) (background style : Style) :
    ∀ s ∈ Signal.ofStyle p background style, (numbers? s).isSome := by
  have hflag {flag : Bool} {signal : Signal} (hsignal : (numbers? signal).isSome) :
      ∀ s ∈ (if flag then [signal] else []), (numbers? s).isSome := by
    cases flag
    · exact List.forall_mem_nil _
    · exact List.forall_mem_singleton.2 hsignal
  unfold Signal.ofStyle
  simp only [List.cons_append, List.forall_mem_cons, List.forall_mem_append]
  refine ⟨rfl, ⟨⟨hflag rfl, hflag rfl⟩, hflag rfl⟩, ?_⟩
  split
  · rw [List.forall_mem_append]
    exact ⟨isSome_numbers?_ofInk (fun _ => rfl) _, isSome_numbers?_ofInk (fun _ => rfl) _⟩
  · exact List.forall_mem_nil _

/-- A change of style gives a glyph its look, whatever the look was before. -/
theorem foldl_ofStyle (p : Color.Palette) (background style : Style) (look : Look) :
    (Signal.ofStyle p background style).foldl restyle look = Look.of p background style := by
  obtain ⟨bold, underline, reverse, pair⟩ := style
  have hreset : restyle look .resetStyle = {} := rfl
  have hbold : (if bold then [Signal.bold] else []).foldl restyle {} = { bold } := by
    cases bold <;> rfl
  have hunderline : (if underline then [Signal.underline] else []).foldl restyle { bold }
      = { bold, underline } := by
    cases underline <;> rfl
  have hreverse : (if reverse then [Signal.reverse] else []).foldl restyle { bold, underline }
      = { bold, underline, reverse } := by
    cases reverse <;> rfl
  have hforeground (ink : Color.Ink) :
      (Signal.ofInk .foreground ink).foldl restyle { bold, underline, reverse }
        = { bold, underline, reverse, foreground := ink } := by
    cases ink <;> rfl
  have hbackground (foreground ink : Color.Ink) :
      (Signal.ofInk .background ink).foldl restyle { bold, underline, reverse, foreground }
        = { bold, underline, reverse, foreground, background := ink } := by
    cases ink <;> rfl
  simp only [Signal.ofStyle, Look.of, List.cons_append, List.foldl_cons, List.foldl_append, hreset,
    hbold, hunderline, hreverse]
  cases p.inks? (if pair = 0 then background.pair else pair) with
  | none => rfl
  | some inks => simp only [List.foldl_append, hforeground, hbackground, Option.getD_some]

/-- A change of style is read as the look it is meant to be. -/
theorem read_ofStyle (p : Color.Palette) (background style : Style) :
    ({ mode := .text, look, shown } : Terminal).read
        (Signal.encodeAll (Signal.ofStyle p background style)).toList
      = { mode := .text, look := Look.of p background style, shown } := by
  rw [read_styles (isSome_numbers?_ofStyle p background style), foldl_ofStyle]

/-! ### The cells of a row -/

/-- Whether a cell is sent. -/
def isSent (cell : Cell) : Bool :=
  cell.char ≠ Cell.filler

/-- A cell as it should be shown. -/
def inOwnLook (p : Color.Palette) (background : Style) (cell : Cell) : Char × Look :=
  (cell.char, Look.of p background cell.style)

/-- A cell as a terminal that was reset shows it. -/
def inNoLook (cell : Cell) : Char × Look :=
  (cell.char, {})

/-- A safe cell that is sent begins no control sequence. -/
theorem ne_escapeChar {cell : Cell} (hsafe : Grid.SafeCell cell) (hsent : cell.char ≠ Cell.filler) :
    cell.char ≠ escapeChar := by
  intro hescape
  have hcolumns : Text.columns escapeChar = 0 := by decide
  rcases hsafe with hfiller | hcolumns'
  · exact hsent hfiller
  · rw [hescape] at hcolumns'
    exact hcolumns' hcolumns

/-- Sending a glyph shows it, and then the rest of the row. -/
theorem read_glyph_cons {cell : Cell} (hsafe : Grid.SafeCell cell) (hsent : cell.char ≠ Cell.filler)
    (signals : List Signal) :
    ({ mode := .text, look, shown } : Terminal).read
        (Signal.encodeAll (.glyph cell.char :: signals)).toList
      = ({ mode := .text, look, shown := shown ++ [(cell.char, look)] } : Terminal).read
          (Signal.encodeAll signals).toList := by
  rw [read_encodeAll_cons, read_glyph (ne_escapeChar hsafe hsent)]

/-- **Where the terminal has the look of the glyph before, every glyph is shown in its own look.** -/
theorem read_ofCells (p : Color.Palette) (background : Style) (look : Look)
    (shown : List (Char × Look)) (last : Style) {cells : List Cell}
    (hsafe : ∀ cell ∈ cells, Grid.SafeCell cell) (hlook : look = Look.of p background last) :
    ∃ after, ({ mode := .text, look, shown } : Terminal).read
        (Signal.encodeAll (Signal.ofCells p background last cells)).toList
      = { mode := .text, look := after,
          shown := shown ++ (cells.filter isSent).map (inOwnLook p background) } := by
  induction cells generalizing last look shown with
  | nil => exact ⟨look, by simp [Signal.ofCells, Signal.encodeAll]⟩
  | cons cell cells ih =>
    obtain ⟨hcell, hcells⟩ := List.forall_mem_cons.1 hsafe
    rw [Signal.ofCells]
    split
    · rename_i hfiller
      rw [List.filter_cons_of_neg (by simpa [isSent] using hfiller)]
      exact ih look shown last hcells hlook
    rename_i hsent
    rw [List.filter_cons_of_pos (by simpa [isSent] using hsent), List.map_cons]
    split
    · rename_i hsame
      obtain ⟨after, hread⟩ := ih look (shown ++ [(cell.char, look)]) last hcells hlook
      refine ⟨after, ?_⟩
      rw [read_glyph_cons hcell hsent, hread, inOwnLook, hsame, ← hlook, List.append_assoc]
      rfl
    · obtain ⟨after, hread⟩ := ih (Look.of p background cell.style)
        (shown ++ [inOwnLook p background cell]) cell.style hcells rfl
      refine ⟨after, ?_⟩
      rw [read_encodeAll_append, read_ofStyle, read_glyph_cons hcell hsent]
      rw [List.append_assoc] at hread
      exact hread

/-- Where the terminal was reset, no change of look is sent for glyphs in the default style, up to the
first glyph in another style. -/
theorem read_ofCells_reset (p : Color.Palette) (background : Style)
    (shown : List (Char × Look)) {cells : List Cell}
    (hsafe : ∀ cell ∈ cells, Grid.SafeCell cell) :
    ∃ after, ({ mode := .text, look := {}, shown } : Terminal).read
        (Signal.encodeAll (Signal.ofCells p background {} cells)).toList
      = { mode := .text, look := after,
          shown := shown
            ++ ((cells.filter isSent).takeWhile (·.style = {})).map inNoLook
            ++ ((cells.filter isSent).dropWhile (·.style = {})).map (inOwnLook p background) } := by
  induction cells generalizing shown with
  | nil => exact ⟨{}, by simp [Signal.ofCells, Signal.encodeAll]⟩
  | cons cell cells ih =>
    obtain ⟨hcell, hcells⟩ := List.forall_mem_cons.1 hsafe
    rw [Signal.ofCells]
    split
    · rename_i hfiller
      rw [List.filter_cons_of_neg (by simpa [isSent] using hfiller)]
      exact ih shown hcells
    rename_i hsent
    rw [List.filter_cons_of_pos (by simpa [isSent] using hsent)]
    split
    · rename_i hdefault
      obtain ⟨after, hread⟩ := ih (shown ++ [inNoLook cell]) hcells
      refine ⟨after, ?_⟩
      rw [read_glyph_cons hcell hsent, List.takeWhile_cons_of_pos (by simpa using hdefault),
        List.dropWhile_cons_of_pos (by simpa using hdefault), List.map_cons]
      rw [List.append_assoc shown] at hread
      exact hread
    · rename_i hstyled
      obtain ⟨after, hread⟩ := read_ofCells p background (Look.of p background cell.style)
        (shown ++ [inOwnLook p background cell]) cell.style hcells rfl
      refine ⟨after, ?_⟩
      rw [read_encodeAll_append, read_ofStyle, read_glyph_cons hcell hsent,
        List.takeWhile_cons_of_neg (by simpa using hstyled),
        List.dropWhile_cons_of_neg (by simpa using hstyled), List.map_nil, List.append_nil,
        List.map_cons]
      rw [List.append_assoc] at hread
      exact hread

/-! ### Rows -/

theorem inNoLook_eq (hlook : Look.of p background {} = {}) {cell : Cell} (hcell : cell.style = {}) :
    inNoLook cell = inOwnLook p background cell := by
  rw [inNoLook, inOwnLook, hcell, hlook]

/-- Nothing is lost by the look of a reset terminal exactly if the background has no colours, or if the
first glyph has a style. -/
theorem inOwnLook_iff (p : Color.Palette) (background : Style) (cells : List Cell) :
    (cells.takeWhile (·.style = {})).map inNoLook
          ++ (cells.dropWhile (·.style = {})).map (inOwnLook p background)
        = cells.map (inOwnLook p background) ↔
      Look.of p background {} = {} ∨ ∀ cell ∈ cells.head?, cell.style ≠ {} := by
  constructor
  · intro hown
    cases cells with
    | nil => exact Or.inr (by simp)
    | cons cell cells =>
      by_cases hcell : cell.style = {}
      · rw [List.takeWhile_cons_of_pos (by simpa using hcell), List.map_cons, List.map_cons,
          List.cons_append, List.cons.injEq] at hown
        left
        have hlook : Look.of p background cell.style = {} := congrArg Prod.snd hown.1.symm
        rwa [hcell] at hlook
      · exact Or.inr (by simpa using hcell)
  · rintro (hlook | hstyled)
    · have hlead : (cells.takeWhile (·.style = {})).map inNoLook
          = (cells.takeWhile (·.style = {})).map (inOwnLook p background) := by
        refine List.map_congr_left fun cell hcell => inNoLook_eq hlook ?_
        simpa using List.mem_takeWhile_imp hcell
      rw [hlead, ← List.map_append, List.takeWhile_append_dropWhile]
    · cases cells with
      | nil => rfl
      | cons cell cells =>
        have hcell : cell.style ≠ {} := hstyled cell rfl
        rw [List.takeWhile_cons_of_neg (by simpa using hcell),
          List.dropWhile_cons_of_neg (by simpa using hcell)]
        rfl

end Terminal

namespace Grid

open Terminal

/-- **What a terminal shows of a row**, of any grid that was edited in any way, whatever its look was
before.  It shows the cells of the row that are no fillers, in order, and ends reset.  Glyphs in the
default style at the start of the row are shown in the look of a reset terminal; from the first glyph in
another style on, every glyph has its own flags and the colours of its own pair, or of the background's
pair where it has none.  So all glyphs have their own look exactly if the background has no colours to
show or the row does not begin in the default style. -/
theorem shown_rowSignals (width height : Nat) (scrolls : Bool) (edits : List Edit)
    (p : Color.Palette) (look : Look) {y : Nat} {row : List Cell}
    (hrow : ((new width height scrolls).editAll edits).rows[y]? = some row) :
    let g := (new width height scrolls).editAll edits
    let cells := row.filter isSent
    let t := ({ look } : Terminal).read (Signal.encodeAll (g.rowSignals p y)).toList
    t.shown
        = (cells.takeWhile (·.style = {})).map inNoLook
          ++ (cells.dropWhile (·.style = {})).map (inOwnLook p g.background) ∧
      (t.mode = .text ∧ t.look = {}) ∧
      (t.shown = cells.map (inOwnLook p g.background) ↔
        Look.of p g.background {} = {} ∨ ∀ cell ∈ cells.head?, cell.style ≠ {}) := by
  intro g cells t
  have hsafe : ∀ cell ∈ row, SafeCell cell :=
    safe_editAll (safe_new width height scrolls) edits row (List.mem_of_getElem? hrow)
  have hreset (l : Look) (shown : List (Char × Look)) :
      ({ mode := .text, look := l, shown } : Terminal).read Signal.resetStyle.encode.toList
        = { mode := .text, look := {}, shown } := read_encode rfl
  obtain ⟨after, hread⟩ := read_ofCells_reset p g.background [] hsafe
  have hsignals : g.rowSignals p y
      = .resetStyle :: (Signal.ofCells p g.background {} row ++ [.resetStyle]) := by
    have hrow' : g.rows[y]? = some row := hrow
    rw [rowSignals, hrow']
    rfl
  have ht : t = { mode := .text, look := {}, shown := (cells.takeWhile (·.style = {})).map inNoLook
      ++ (cells.dropWhile (·.style = {})).map (inOwnLook p g.background) } := by
    have hlast : Signal.encodeAll [.resetStyle] = Signal.resetStyle.encode := rfl
    show ({ look } : Terminal).read (Signal.encodeAll (g.rowSignals p y)).toList = _
    rw [hsignals, read_encodeAll_cons, hreset, read_encodeAll_append, hread, hlast, hreset,
      List.nil_append]
  rw [ht]
  exact ⟨rfl, ⟨rfl, rfl⟩, inOwnLook_iff p g.background cells⟩

/-- On a bar with a coloured background, a bold glyph is shown in the background's colours, and so is
the plain one after it. -/
theorem shown_rowSignals_bold_first :
    let p := Color.Palette.new {} true 1
    let g := (new 2 1 false).editAll
      [.setBackground { pair := 16 }, .erase, .setStyle { bold := true }, .add 'a', .setStyle {},
        .add 'b']
    let t := ({} : Terminal).read (Signal.encodeAll (g.rowSignals p 0)).toList
    t.shown = [('a', { bold := true, foreground := .indexed 0, background := .indexed 7 }),
      ('b', { foreground := .indexed 0, background := .indexed 7 })] := by
  intro p g t
  have hrow : g.rows[0]? = some [⟨'a', { bold := true }⟩, ⟨'b', {}⟩] := by decide +kernel
  obtain ⟨hshown, -, -⟩ := shown_rowSignals 2 1 false
    [.setBackground { pair := 16 }, .erase, .setStyle { bold := true }, .add 'a', .setStyle {},
      .add 'b'] p {} hrow
  refine Eq.trans hshown ?_
  decide +kernel

/-- On the same bar a plain glyph at the start of the row is shown in the colours of a reset terminal,
and not in the background's, as the blanks after it are. -/
theorem shown_rowSignals_plain_first :
    let p := Color.Palette.new {} true 1
    let g := (new 2 1 false).editAll [.setBackground { pair := 16 }, .erase, .add 'a']
    let t := ({} : Terminal).read (Signal.encodeAll (g.rowSignals p 0)).toList
    let cells := ((g.rows[0]?).getD []).filter isSent
    t.shown = [('a', {}), (' ', { foreground := .indexed 0, background := .indexed 7 })] ∧
      cells.map (inOwnLook p g.background)
        = [('a', { foreground := .indexed 0, background := .indexed 7 }),
          (' ', { foreground := .indexed 0, background := .indexed 7 })] ∧
      t.shown ≠ cells.map (inOwnLook p g.background) := by
  decide +kernel

end Grid
end ChatConsole
