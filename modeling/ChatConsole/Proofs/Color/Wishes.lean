/-
# What a palette is asked for

Colour codes are resolved while text is painted, and the bars take their slots, in any order.  Whatever
was asked of a palette before (`Palette.run`), its table is tidy; so the slot it gives to a code or a bar
holds just the colours that were asked for, nothing is refused without cause, and what was answered once
is answered alike ever after (`run_keepsSlots`).
-/

import ChatConsole.Proofs.Color.Slots

namespace ChatConsole
namespace Color

/-- What a palette is asked for: the shade of a colour code, or the slot of a bar's base colours. -/
inductive Wish where
  | code (code : Markup.ColorCode)
  | bar (fg bg : { c : ColorNumber // c ∈ baseColors })

namespace Palette

/-- The palette after a wish. -/
def grant (p : Palette) : Wish → Palette
  | .code code => (p.resolve code).2
  | .bar fg bg => (p.pairOf fg bg).2

/-- The palette after one wish and another. -/
def run (p : Palette) (wishes : List Wish) : Palette :=
  wishes.foldl grant p

/-- The two colours a code stands for; none for a code without a foreground. -/
def colorsOf? (p : Palette) (code : Markup.ColorCode) : Option (ColorNumber × ColorNumber) :=
  code.fg.map fun fg =>
    (p.abilities.colorOf fg,
      p.abilities.backColorOf ((code.bg.map Int.ofNat).getD p.defaultBackground))

variable {p : Palette} {code : Markup.ColorCode}

theorem mem_of_colorsOf? {fg bg : ColorNumber} (h : p.colorsOf? code = some (fg, bg)) :
    fg ∈ paintColors ∧ bg ∈ paintColors := by
  rw [colorsOf?, Option.map_eq_some_iff] at h
  obtain ⟨index, -, hcolors⟩ := h
  cases hcolors
  exact ⟨p.abilities.colorOf_mem index, p.abilities.backColorOf_mem _⟩

/-! ### Wishes come down to the table -/

/-- Without a foreground nothing is resolved. -/
theorem resolve_of_colorsOf?_none (h : p.colorsOf? code = none) : p.resolve code = (none, p) := by
  rw [colorsOf?, Option.map_eq_none_iff] at h
  simp [resolve, h]

/-- A code is resolved by resolving its two colours; the code has a say in the weight only. -/
theorem resolve_of_colorsOf? (hon : p.enabled = true) {fg bg : ColorNumber}
    (h : p.colorsOf? code = some (fg, bg)) :
    ∃ bold, p.resolve code = ((p.pairs.resolve fg bg).1.map (⟨·, bold⟩),
      { p with pairs := (p.pairs.resolve fg bg).2 }) := by
  rw [colorsOf?, Option.map_eq_some_iff] at h
  obtain ⟨index, hindex, hcolors⟩ := h
  cases hcolors
  simp only [resolve, hon, if_true, hindex, shade, Abilities.mix_colors]
  exact ⟨_, rfl⟩

theorem pairOf_eq (hon : p.enabled = true) (fg bg : ColorNumber) :
    p.pairOf fg bg = ((p.pairs.resolve fg bg).1.getD 0,
      { p with pairs := (p.pairs.resolve fg bg).2 }) := by
  simp [pairOf, hon]

/-! ### What every palette that is on comes to -/

theorem le_grant (p : Palette) (wish : Wish) : p ≤ p.grant wish := by
  cases wish with
  | code code => exact le_resolve p code
  | bar fg bg => exact le_pairOf p fg bg

theorem le_run (p : Palette) (wishes : List Wish) : p ≤ p.run wishes := by
  unfold run
  induction wishes generalizing p with
  | nil => exact le_refl p
  | cons wish wishes ih => exact le_trans (le_grant p wish) (ih _)

theorem tidy_grant (h : p.pairs.Tidy) (wish : Wish) : (p.grant wish).pairs.Tidy := by
  by_cases hon : p.enabled = true
  · cases wish with
    | code code =>
      cases hcolors : p.colorsOf? code with
      | none =>
        simp only [grant, resolve_of_colorsOf?_none hcolors]
        exact h
      | some colors =>
        obtain ⟨hfg, hbg⟩ := mem_of_colorsOf? hcolors
        obtain ⟨bold, hresolve⟩ := resolve_of_colorsOf? hon hcolors
        simp only [grant, hresolve]
        exact h.resolve hfg hbg
    | bar fg bg =>
      simp only [grant, pairOf_eq hon]
      exact h.resolve (mem_paintColors_of_base fg.2) (mem_paintColors_of_base bg.2)
  · cases wish with
    | code code => simpa [grant, resolve, hon] using h
    | bar fg bg => simpa [grant, pairOf, hon] using h

theorem tidy_run (h : p.pairs.Tidy) (wishes : List Wish) : (p.run wishes).pairs.Tidy := by
  unfold run
  induction wishes generalizing p with
  | nil => exact h
  | cons wish wishes ih => exact ih (tidy_grant h wish)

/-- What a code stands for is settled from the start. -/
theorem colorsOf?_of_le {q : Palette} (h : p ≤ q) : q.colorsOf? code = p.colorsOf? code := by
  rw [← h.settings]
  rfl

/-! ### Answers -/

/-- The slot of a code's shade holds the two colours of the code. -/
theorem holds_resolve (hon : p.enabled = true) (h : p.pairs.Tidy) {shade : Shade}
    (hshade : (p.resolve code).1 = some shade) :
    ∃ colors, p.colorsOf? code = some colors ∧ (p.resolve code).2.pairs.Holds shade.pair colors := by
  cases hcolors : p.colorsOf? code with
  | none =>
    rw [resolve_of_colorsOf?_none hcolors] at hshade
    cases hshade
  | some colors =>
    refine ⟨colors, rfl, ?_⟩
    obtain ⟨hfg, hbg⟩ := mem_of_colorsOf? hcolors
    obtain ⟨bold, hresolve⟩ := resolve_of_colorsOf? hon hcolors
    rw [hresolve] at hshade ⊢
    obtain ⟨s, hs, rfl⟩ := Option.map_eq_some_iff.1 hshade
    exact h.holds_resolve hfg hbg hs

/-- A code has no shade for two causes: it has no foreground, or there is no room for its colours. -/
theorem resolve_eq_none_iff (hon : p.enabled = true) :
    (p.resolve code).1 = none ↔ code.fg = none ∨ ∃ colors, p.colorsOf? code = some colors ∧
      colors ∉ p.pairs.pairs ∧ p.pairs.limit ≤ p.pairs.size + 1 := by
  cases hcolors : p.colorsOf? code with
  | none =>
    have hfg : code.fg = none := by simpa [colorsOf?] using hcolors
    simp [resolve_of_colorsOf?_none hcolors, hfg]
  | some colors =>
    have hfg : code.fg ≠ none := by
      intro hnone
      simp [colorsOf?, hnone] at hcolors
    obtain ⟨bold, hresolve⟩ := resolve_of_colorsOf? hon hcolors
    rw [hresolve, Option.map_eq_none_iff, PairTable.resolve_eq_none_iff]
    simp [hfg]

/-- The slot of a bar holds the bar's colours. -/
theorem holds_pairOf (hon : p.enabled = true) (h : p.pairs.Tidy)
    (fg bg : { c : ColorNumber // c ∈ baseColors }) (hslot : (p.pairOf fg bg).1 ≠ 0) :
    (p.pairOf fg bg).2.pairs.Holds (p.pairOf fg bg).1 (fg, bg) := by
  rw [pairOf_eq hon] at hslot ⊢
  cases hs : (p.pairs.resolve fg bg).1 with
  | none => simp [hs] at hslot
  | some s =>
    exact h.holds_resolve (mem_paintColors_of_base fg.2) (mem_paintColors_of_base bg.2) hs

/-- A bar is left without colour for want of room alone. -/
theorem pairOf_eq_zero_iff (hon : p.enabled = true) (h : p.pairs.Tidy)
    (fg bg : { c : ColorNumber // c ∈ baseColors }) :
    (p.pairOf fg bg).1 = 0 ↔
      ((fg : ColorNumber), (bg : ColorNumber)) ∉ p.pairs.pairs ∧
        p.pairs.limit ≤ p.pairs.size + 1 := by
  rw [pairOf_eq hon, ← PairTable.resolve_eq_none_iff]
  cases hs : (p.pairs.resolve fg bg).1 with
  | none => simp
  | some s =>
    have hpos : 1 ≤ s :=
      (h.holds_resolve (mem_paintColors_of_base fg.2) (mem_paintColors_of_base bg.2) hs).pos
    simp only [Option.getD_some, reduceCtorEq, iff_false]
    omega

/-- **A pair has one slot, and keeps it**, whatever the terminal can do and whatever the palette has
been asked for.  No pair is registered twice, there are fewer pairs than the terminal's limit, and the
content of a slot never changes.  A code that gets a shade gets a slot that has been given out, and in it
are just the colours the code stands for; a code gets none only without a foreground, or when its colours
are not registered and there is no room for them.  The same holds of the bars, where the slot 0 stands
for none.  What was asked once is answered alike ever after, and asking again registers nothing. -/
theorem run_keepsSlots (a : Abilities) (useDefault : Bool) (background : Int) (wishes : List Wish) :
    let start := Palette.new a useDefault background
    let p := start.run wishes
    p.pairs.pairs.Nodup ∧
      p.pairs.size ≤ max a.maxPairs 1 - 1 ∧
      (∀ more s colors, p.pairs.content? s = some colors →
        (p.run more).pairs.content? s = some colors) ∧
      (∀ code shade, (p.resolve code).1 = some shade →
        ∃ colors, start.colorsOf? code = some colors ∧
          (p.resolve code).2.pairs.Holds shade.pair colors) ∧
      (∀ code, (p.resolve code).1 = none ↔ code.fg = none ∨
        ∃ colors, start.colorsOf? code = some colors ∧
          colors ∉ p.pairs.pairs ∧ a.maxPairs ≤ p.pairs.size + 1) ∧
      (∀ fg bg : { c : ColorNumber // c ∈ baseColors }, (p.pairOf fg bg).1 ≠ 0 →
        (p.pairOf fg bg).2.pairs.Holds (p.pairOf fg bg).1 (fg, bg)) ∧
      (∀ fg bg : { c : ColorNumber // c ∈ baseColors }, (p.pairOf fg bg).1 = 0 ↔
        ((fg : ColorNumber), (bg : ColorNumber)) ∉ p.pairs.pairs ∧
          a.maxPairs ≤ p.pairs.size + 1) ∧
      (∀ code more, ((p.resolve code).2.run more).resolve code
        = ((p.resolve code).1, (p.resolve code).2.run more)) ∧
      ∀ (fg bg : { c : ColorNumber // c ∈ baseColors }) (more : List Wish),
        ((p.pairOf fg bg).2.run more).pairOf fg bg
          = ((p.pairOf fg bg).1, (p.pairOf fg bg).2.run more) := by
  intro start p
  have hle : start ≤ p := le_run start wishes
  have hon : p.enabled = true := hle.enabled_eq
  have htidy : p.pairs.Tidy := tidy_run (PairTable.tidy_withStartup ..) wishes
  have hlimit : p.pairs.limit = a.maxPairs :=
    hle.pairs.limit.trans (PairTable.limit_withStartup ..)
  have hcolors (code : Markup.ColorCode) : start.colorsOf? code = p.colorsOf? code :=
    (colorsOf?_of_le hle).symm
  refine ⟨htidy.nodup, hlimit ▸ htidy.size_le, ?_, ?_, ?_, ?_, ?_, ?_, ?_⟩
  · intro more s colors hs
    exact PairTable.content?_of_le (le_run p more).pairs hs
  · intro code shade hshade
    rw [hcolors]
    exact holds_resolve hon htidy hshade
  · intro code
    rw [hcolors, ← hlimit]
    exact resolve_eq_none_iff hon
  · intro fg bg hslot
    exact holds_pairOf hon htidy fg bg hslot
  · intro fg bg
    rw [← hlimit]
    exact pairOf_eq_zero_iff hon htidy fg bg
  · intro code more
    exact resolve_of_le (le_run _ more)
  · intro fg bg more
    exact pairOf_of_le (le_run _ more)

end Palette
end Color
end ChatConsole
