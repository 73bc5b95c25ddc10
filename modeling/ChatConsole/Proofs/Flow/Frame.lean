/-
# What pouring leaves alone

Pouring changes the cells of a grid, its cursor and its style.  Its measures stay, it scrolls or not as
before, and cleared space is filled with the same cell.  More generally, pouring runs new lines and puts
glyphs, and what these keep it keeps (`steady_pour`).
-/

import ChatConsole.Flow

namespace ChatConsole

namespace Grid

@[simp] theorem height_resize (g : Grid) (width height : Nat) :
    (g.resize width height).height = height :=
  List.length_replicate

/-- Two grids that differ in their cells, cursors and styles only. -/
structure SameFrame (g h : Grid) : Prop where
  width : h.width = g.width
  height : h.height = g.height
  scrolls : h.scrolls = g.scrolls
  background : h.background = g.background

namespace SameFrame

variable {g h k : Grid}

theorem refl (g : Grid) : SameFrame g g := ⟨rfl, rfl, rfl, rfl⟩

theorem trans (hgh : SameFrame g h) (hhk : SameFrame h k) : SameFrame g k where
  width := hhk.width.trans hgh.width
  height := hhk.height.trans hgh.height
  scrolls := hhk.scrolls.trans hgh.scrolls
  background := hhk.background.trans hgh.background

/-- Blank grids of one frame are the same, but for the style. -/
theorem erase (hgh : SameFrame g h) (hstyle : h.style = g.style) : h.erase = g.erase := by
  obtain ⟨hwidth, hheight, hscrolls, hbackground⟩ := hgh
  simp only [Grid.erase, resize, blank, hwidth, hheight, hscrolls, hbackground, hstyle]

theorem modifyRow (g : Grid) (f : List Cell → List Cell) : SameFrame g (g.modifyRow f) where
  width := rfl
  height := by simp [Grid.modifyRow, Grid.height]
  scrolls := rfl
  background := rfl

theorem write (g : Grid) (c : Char) (style : Style) : SameFrame g (g.write c style) :=
  let ⟨hwidth, hheight, hscrolls, hbackground⟩ := modifyRow g _
  ⟨hwidth, hheight, hscrolls, hbackground⟩

theorem scroll (g : Grid) : SameFrame g g.scroll := by
  unfold Grid.scroll
  split
  · exact refl g
  · rename_i hrows
    exact ⟨rfl, by simp [Grid.height, hrows], rfl, rfl⟩

theorem newline (g : Grid) : SameFrame g g.newline := by
  have hclear : SameFrame g { g.clearToEnd with col := 0 } :=
    let ⟨hwidth, hheight, hscrolls, hbackground⟩ := modifyRow g _
    ⟨hwidth, hheight, hscrolls, hbackground⟩
  unfold Grid.newline
  dsimp only
  split
  · exact hclear.trans ⟨rfl, rfl, rfl, rfl⟩
  split
  · exact hclear.trans (scroll _)
  · exact hclear

theorem put? {c : Char} {style : Style} (hput : g.put? c style = some h) : SameFrame g h := by
  unfold Grid.put? at hput
  dsimp only at hput
  split at hput
  · cases hput
  split at hput
  · cases hput
    exact write g c style
  split at hput
  · cases hput
    exact (newline g).trans (write _ c style)
  · cases hput

end SameFrame

/-- Blanking a grid keeps its frame. -/
theorem frame_erase (g : Grid) : SameFrame g g.erase :=
  ⟨rfl, height_resize .., rfl, rfl⟩

end Grid

/-! ### What new lines and glyphs keep, pouring keeps -/

/-- A property of grids that new lines and glyphs keep.  Only a grid that scrolls gets new lines. -/
structure Grid.Kept (P : Grid → Prop) : Prop where
  newline : ∀ {g : Grid}, g.scrolls = true → P g → P g.newline
  put? : ∀ {g h : Grid} {c : Char} {style : Style}, P g → g.put? c style = some h → P h

namespace Flow

variable {P : Grid → Prop} {s : Flow}

theorem kept_addBlanks (hP : Grid.Kept P) (n : Nat) (hs : P s.grid) : P (s.addBlanks n).grid := by
  induction n generalizing s with
  | zero => exact hs
  | succ n ih =>
    have hput : P ((s.grid.put? ' ' {}).getD s.grid) := by
      cases h : s.grid.put? ' ' {} with
      | none => exact hs
      | some g => exact hP.put? hs h
    exact ih (s := { s with grid := _, column := _ }) hput

theorem kept_addGlyph (hP : Grid.Kept P) (c : Char) (hs : P s.grid) : P (s.addGlyph c).grid := by
  unfold addGlyph
  split
  · rename_i hput
    exact hP.put? hs hput
  · exact hs

theorem kept_wrapGlyph (hP : Grid.Kept P) (m : Measure) (c : Char) (rest : List Markup.Token)
    (hscrolls : s.grid.scrolls = true) (hs : P s.grid) : P (s.wrapGlyph m c rest).grid := by
  have hend : P s.endRow.grid := hP.newline hscrolls hs
  have hindent : P (s.endRow.addBlanks m.indent).grid := kept_addBlanks hP _ hend
  unfold wrapGlyph
  split
  · dsimp only
    split
    · exact hend
    · exact hindent
  split
  · exact hs
  split
  · exact kept_addGlyph hP c hs
  dsimp only
  split
  · exact hend
  split
  · exact hindent
  · exact kept_addGlyph hP c hindent

theorem kept_step (hP : Grid.Kept P) (m : Measure) (t : Markup.Token) (rest : List Markup.Token)
    (hs : P s.grid) : P (s.step m t rest).grid := by
  cases t with
  | toggle | plain | color => exact hs
  | glyph c =>
    rw [step]
    split
    · rename_i hscrolls
      exact kept_wrapGlyph hP m c rest hscrolls hs
    · unfold placeGlyph
      split
      · exact hs
      · exact kept_addGlyph hP c hs

theorem kept_run (hP : Grid.Kept P) (m : Measure) (ts : List Markup.Token) (hs : P s.grid) :
    P (s.run m ts).grid := by
  induction ts generalizing s with
  | nil => exact hs
  | cons t ts ih =>
    rw [run]
    split
    · exact kept_step hP m t ts hs
    · exact ih (kept_step hP m t ts hs)

end Flow

namespace Grid

/-- What glyphs keep, a text keeps. -/
theorem kept_addText {P : Grid → Prop} (hP : Kept P) {g : Grid} (hg : P g) (cs : List Char) :
    P (g.addText cs) := by
  unfold addText
  induction cs generalizing g with
  | nil => exact hg
  | cons c cs ih =>
    refine ih ?_
    unfold add
    cases hput : g.add? c with
    | none => exact hg
    | some h => exact hP.put? hg hput

/-- A property of grids that pouring and blanking keep. -/
structure Steady (P : Grid → Prop) : Prop extends Kept P where
  /-- Pouring leaves the plain style behind. -/
  style : ∀ {g : Grid}, P g → P { g with style := {} }
  erase : ∀ {g : Grid}, P g → P g.erase

theorem style_newline (g : Grid) : g.newline.style = g.style := by
  unfold newline
  dsimp only
  split
  · rfl
  split
  · unfold scroll
    split <;> rfl
  · rfl

theorem style_put? {g h : Grid} {c : Char} {style : Style} (hput : g.put? c style = some h) :
    h.style = g.style := by
  unfold put? at hput
  dsimp only at hput
  split at hput
  · cases hput
  split at hput
  · cases hput
    rfl
  split at hput
  · cases hput
    exact style_newline g
  · cases hput

theorem steady_style : Steady fun g => g.style = {} where
  newline _ h := (style_newline _).trans h
  put? h hput := (style_put? hput).trans h
  style _ := rfl
  erase h := h

theorem steady_sameFrame (g : Grid) : Steady (SameFrame g) where
  newline _ h := h.trans (.newline _)
  put? h hput := h.trans (.put? hput)
  style := fun ⟨hwidth, hheight, hscrolls, hbackground⟩ => ⟨hwidth, hheight, hscrolls, hbackground⟩
  erase h := h.trans (frame_erase _)

variable (g : Grid) (palette : Color.Palette) (text : String) (indent cap : Nat)

/-- What new lines, glyphs and the plain style keep, pouring keeps. -/
theorem steady_pour {P : Grid → Prop} (hP : Steady P) (hg : P g) :
    P (g.pour palette text indent cap).grid := by
  unfold pour
  split
  · exact hg
  · exact hP.style (Flow.kept_run (s := { grid := g, palette }) hP.toKept _ _ hg)

/-- Pouring keeps the frame of a grid. -/
theorem frame_pour : SameFrame g (g.pour palette text indent cap).grid :=
  steady_pour g palette text indent cap (steady_sameFrame g) (.refl g)

/-- Pouring leaves the plain style behind. -/
theorem style_pour (hstyle : g.style = {}) : (g.pour palette text indent cap).grid.style = {} :=
  steady_pour g palette text indent cap steady_style hstyle

end Grid
end ChatConsole
