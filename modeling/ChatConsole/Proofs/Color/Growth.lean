/-
# A palette only grows

Painting registers colour pairs as it meets them, so a palette is not the same before and after.  But
pairs are only added, and only while there is room for them.  One palette is at most another when the
second may have come from the first in this way; painting again with any later palette gives the same
slots and registers nothing (`resolve_of_le`).
-/

import ChatConsole.Color.Palette
import Mathlib.Order.Defs.PartialOrder

namespace ChatConsole
namespace Color

namespace PairTable

/-! ### The order of tables -/

/-- A table comes before another that has more pairs and got them while it had room. -/
structure GrowsTo (t u : PairTable) : Prop where
  limit : u.limit = t.limit
  pairs : t.pairs <+: u.pairs
  room : t.size < u.size → u.size < u.limit

theorem GrowsTo.size_le {t u : PairTable} (h : GrowsTo t u) : t.size ≤ u.size :=
  h.pairs.length_le

theorem GrowsTo.eq_of_size_le {t u : PairTable} (h : GrowsTo t u) (hsize : u.size ≤ t.size) :
    t = u := by
  obtain ⟨hlimit, hprefix, -⟩ := h
  have hpairs : t.pairs = u.pairs := hprefix.eq_of_length_le hsize
  cases t
  cases u
  rw [PairTable.mk.injEq]
  exact ⟨hpairs, hlimit.symm⟩

instance : PartialOrder PairTable where
  le := GrowsTo
  le_refl _ := ⟨rfl, List.prefix_refl _, fun h => absurd h (Nat.lt_irrefl _)⟩
  le_trans t u v htu huv := by
    refine ⟨huv.limit.trans htu.limit, htu.pairs.trans huv.pairs, ?_⟩
    intro hmore
    by_cases hsize : u.size < v.size
    · exact huv.room hsize
    · -- The last pairs came with the first of the two steps.
      have hsame : u = v := huv.eq_of_size_le (Nat.le_of_not_lt hsize)
      rw [← hsame] at hmore ⊢
      exact htu.room hmore
  le_antisymm _ _ htu hut := htu.eq_of_size_le hut.size_le

variable {t u : PairTable} {fg bg : ColorNumber}

/-! ### A pair keeps its slot -/

theorem find?_of_le {s : Int} (h : t ≤ u) (hfind : t.find? fg bg = some s) :
    u.find? fg bg = some s := by
  obtain ⟨extra, hextra⟩ := h.pairs
  rw [find?, Option.map_eq_some_iff] at hfind
  obtain ⟨i, hi, hs⟩ := hfind
  rw [find?, ← hextra, List.findIdx?_append, hi]
  exact congrArg some hs

/-- A pair that is registered now gets the next slot. -/
theorem find?_register (hnew : t.find? fg bg = none) :
    ({ t with pairs := t.pairs ++ [(fg, bg)] } : PairTable).find? fg bg
      = some (slot (t.size + 1)) := by
  have hmissing : t.pairs.findIdx? (· == (fg, bg)) = none := by
    simpa [find?] using hnew
  simp [find?, List.findIdx?_append, hmissing, size]

theorem le_register (hroom : t.size + 1 < t.limit) :
    t ≤ { t with pairs := t.pairs ++ [(fg, bg)] } where
  limit := rfl
  pairs := List.prefix_append ..
  room _ := by simpa [size] using hroom

/-- A table without room is the last one. -/
theorem eq_of_le_of_full (h : t ≤ u) (hfull : t.limit ≤ t.size + 1) : u = t := by
  symm
  refine GrowsTo.eq_of_size_le h ?_
  rw [← Nat.not_lt]
  intro hmore
  have hroom := h.room hmore
  rw [h.limit] at hroom
  omega

/-- What resolving a pair can do: find it, register it, or fail for want of room. -/
theorem resolve_cases (t : PairTable) (fg bg : ColorNumber) :
    (∃ s, t.find? fg bg = some s ∧ t.resolve fg bg = (some s, t)) ∨
    (t.find? fg bg = none ∧ t.size + 1 < t.limit ∧ t.resolve fg bg
      = (some (slot (t.size + 1)), { t with pairs := t.pairs ++ [(fg, bg)] })) ∨
    (t.find? fg bg = none ∧ t.limit ≤ t.size + 1 ∧ t.resolve fg bg = (none, t)) := by
  unfold resolve register?
  cases hfind : t.find? fg bg with
  | some s => exact Or.inl ⟨s, rfl, rfl⟩
  | none =>
    refine Or.inr ?_
    by_cases hroom : t.size + 1 ≥ t.limit
    · refine Or.inr ⟨rfl, hroom, ?_⟩
      simp [hroom]
    · refine Or.inl ⟨rfl, Nat.lt_of_not_le hroom, ?_⟩
      simp [hroom]

theorem le_resolve (t : PairTable) (fg bg : ColorNumber) : t ≤ (t.resolve fg bg).2 := by
  rcases resolve_cases t fg bg with ⟨s, -, h⟩ | ⟨-, hroom, h⟩ | ⟨-, -, h⟩ <;> rw [h]
  exact le_register hroom

/-- A pair that was resolved once is resolved alike ever after. -/
theorem resolve_of_le (h : (t.resolve fg bg).2 ≤ u) :
    u.resolve fg bg = ((t.resolve fg bg).1, u) := by
  have hfound {s : Int} (hfind : u.find? fg bg = some s) : u.resolve fg bg = (some s, u) := by
    rw [resolve, hfind]
  rcases resolve_cases t fg bg with ⟨s, hfind, hr⟩ | ⟨hnew, -, hr⟩ | ⟨hnew, hfull, hr⟩ <;>
    rw [hr] at h ⊢
  · exact hfound (find?_of_le h hfind)
  · exact hfound (find?_of_le h (find?_register hnew))
  · have hu : u = t := eq_of_le_of_full h hfull
    rw [hu]
    exact hr

end PairTable

namespace Palette

/-! ### The order of palettes -/

/-- A palette comes before another with the same settings and a later table. -/
structure GrowsTo (p q : Palette) : Prop where
  pairs : p.pairs ≤ q.pairs
  settings : { p with pairs := q.pairs } = q

instance : PartialOrder Palette where
  le := GrowsTo
  le_refl _ := ⟨le_refl _, rfl⟩
  le_trans p q r hpq hqr := by
    refine ⟨le_trans hpq.pairs hqr.pairs, ?_⟩
    rw [← hqr.settings, ← hpq.settings]
  le_antisymm p q hpq hqp := by
    have hpairs : p.pairs = q.pairs := le_antisymm hpq.pairs hqp.pairs
    rw [← hpq.settings, ← hpairs]

variable {p q : Palette}

theorem le_of_pairs {t : PairTable} (h : p.pairs ≤ t) : p ≤ { p with pairs := t } :=
  ⟨h, rfl⟩

/-- A later palette is the palette with a later table. -/
theorem eq_of_le (h : p ≤ q) : ∃ t, p.pairs ≤ t ∧ q = { p with pairs := t } :=
  ⟨q.pairs, h.pairs, h.settings.symm⟩

theorem GrowsTo.enabled_eq (h : p ≤ q) : q.enabled = p.enabled := by
  rw [← h.settings]

/-! ### A colour code keeps its shade -/

theorem le_resolve (p : Palette) (code : Markup.ColorCode) : p ≤ (p.resolve code).2 := by
  unfold resolve
  split
  · split
    · exact le_refl p
    · exact le_of_pairs (PairTable.le_resolve ..)
  · exact le_refl p

/-- **A colour code that was resolved once is resolved alike ever after**, and resolving it again
registers nothing. -/
theorem resolve_of_le {code : Markup.ColorCode} (h : (p.resolve code).2 ≤ q) :
    q.resolve code = ((p.resolve code).1, q) := by
  obtain ⟨t, ht, rfl⟩ := eq_of_le (le_trans (le_resolve p code) h)
  replace h := h.pairs
  unfold resolve at h ⊢
  dsimp only
  split
  · rename_i henabled
    rw [if_pos henabled] at h
    cases hfg : code.fg with
    | none => rfl
    | some fg =>
      rw [hfg] at h
      have hback : defaultBackground { p with pairs := t } = p.defaultBackground := rfl
      simp only [hback, shade] at h ⊢
      rw [PairTable.resolve_of_le h]
  · rfl

theorem le_pairOf (p : Palette) (fg bg : ColorNumber) : p ≤ (p.pairOf fg bg).2 := by
  unfold pairOf
  split
  · exact le_of_pairs (PairTable.le_resolve ..)
  · exact le_refl p

/-- The slot of a pair of base colours stays. -/
theorem pairOf_of_le {fg bg : ColorNumber} (h : (p.pairOf fg bg).2 ≤ q) :
    q.pairOf fg bg = ((p.pairOf fg bg).1, q) := by
  obtain ⟨t, ht, rfl⟩ := eq_of_le (le_trans (le_pairOf p fg bg) h)
  replace h := h.pairs
  unfold pairOf at h ⊢
  dsimp only
  split
  · rename_i henabled
    rw [if_pos henabled] at h
    dsimp only at h
    rw [PairTable.resolve_of_le h]
  · rfl

end Palette
end Color
end ChatConsole
