/-
# A pair has one slot, and keeps it

A table is tidy when no pair is in it twice, every colour in it is one that something is painted in, and
the limit is kept (`PairTable.Tidy`).  The startup pairs are tidy, and so is what resolving adds.  There
are so few colours that a tidy table never comes near the end of the sixteen-bit slot numbers, however
many pairs the terminal could hold (`PairTable.Tidy.size_lt`).  So a slot number is a position, and the
slot of a pair holds this pair (`PairTable.Tidy.content?_resolve`).
-/

import ChatConsole.Proofs.Color.Growth
import Mathlib.Data.List.Perm.Subperm
import Mathlib.Data.List.ProdSigma

namespace ChatConsole
namespace Color

/-! ### The colours something is painted in -/

/-- The colours of the chart, the two greys that may stand for some of them, and the default. -/
def paintColors : List ColorNumber :=
  defaultColor :: grey :: lightGrey :: (baseColors ++ extendedNumbers)

theorem mem_paintColors_of_base {c : ColorNumber} (h : c ∈ baseColors) : c ∈ paintColors := by
  simp [paintColors, h]

theorem color_mem_of_classic : ∀ e ∈ classicEntries, e.color ∈ baseColors := by
  decide

theorem color_mem_paintColors {e : ChartEntry} (h : e ∈ chart) : e.color ∈ paintColors := by
  rcases List.mem_append.1 h with hclassic | hextended
  · exact mem_paintColors_of_base (color_mem_of_classic e hclassic)
  · obtain ⟨c, hc, rfl⟩ := List.mem_map.1 hextended
    simp [paintColors, hc]

namespace Abilities

/-- The colour a foreground index is painted in: on a redefinable palette a grey may stand for it. -/
def colorOf (a : Abilities) (index : Nat) : ColorNumber :=
  let entry := a.entry index
  if a.isRich && a.canRedefine then (greyOf? entry).getD entry.color else entry.color

/-- The colour a background index is painted in; a negative one names the default colour. -/
def backColorOf (a : Abilities) (index : Int) : ColorNumber :=
  if index < 0 then defaultColor else a.colorOf index.toNat

theorem entry_mem (a : Abilities) (index : Nat) :
    a.entry index ∈ chart ∨ a.entry index = ⟨defaultColor, false⟩ := by
  unfold entry
  cases h : chart[index % a.chartSize]? with
  | none => exact Or.inr rfl
  | some e => exact Or.inl (List.mem_of_getElem? h)

theorem greyOf?_mem {e : ChartEntry} {c : ColorNumber} (h : greyOf? e = some c) :
    c ∈ paintColors := by
  unfold greyOf? at h
  split at h
  · cases h
    decide
  · split at h
    · cases h
      decide
    · cases h

theorem colorOf_mem (a : Abilities) (index : Nat) : a.colorOf index ∈ paintColors := by
  have hentry : (a.entry index).color ∈ paintColors := by
    rcases a.entry_mem index with h | h
    · exact color_mem_paintColors h
    · rw [h]
      decide
  unfold colorOf
  dsimp only
  split
  · cases hgrey : greyOf? (a.entry index) with
    | none => exact hentry
    | some c => exact greyOf?_mem hgrey
  · exact hentry

theorem backColorOf_mem (a : Abilities) (index : Int) : a.backColorOf index ∈ paintColors := by
  unfold backColorOf
  split
  · decide
  · exact a.colorOf_mem _

/-- The colours of a foreground on a background do not hang on each other; the weight does. -/
theorem mix_colors (a : Abilities) (fg : Nat) (bg : Int) :
    (mix a fg bg).1 = (a.colorOf fg, a.backColorOf bg) := by
  unfold mix backColorOf
  by_cases hgreys : (a.isRich && a.canRedefine) = true
  · by_cases hback : bg < 0
    · simp [hgreys, hback, colorOf]
    · simp [hgreys, hback, colorOf]
  · by_cases hback : bg < 0
    · simp [hgreys, hback, colorOf]
    · simp [hgreys, hback, colorOf]

end Abilities

namespace PairTable

/-! ### Slot numbers -/

/-- Before the end of its word a slot number is the number. -/
theorem slot_eq {n : Nat} (h : n < 32768) : slot n = n := by
  unfold slot
  rw [Int.bmod_eq_of_le] <;> omega

/-- What holds of every table a palette comes to. -/
structure Tidy (t : PairTable) : Prop where
  nodup : t.pairs.Nodup
  colors : ∀ p ∈ t.pairs, p.1 ∈ paintColors ∧ p.2 ∈ paintColors
  size_le : t.size ≤ max t.limit 1 - 1

variable {t u : PairTable} {fg bg : ColorNumber}

/-- There are not many pairs of colours. -/
theorem Tidy.size_lt (h : t.Tidy) : t.size < 32767 := by
  have hsubset : t.pairs ⊆ paintColors ×ˢ paintColors := by
    intro p hp
    exact List.mem_product.2 (h.colors p hp)
  have hlength : t.pairs.length ≤ (paintColors ×ˢ paintColors).length :=
    (h.nodup.subperm hsubset).length_le
  rw [List.length_product] at hlength
  exact Nat.lt_of_le_of_lt hlength (by decide)

/-! ### What a slot holds -/

/-- The content of a slot never changes. -/
theorem content?_of_le (h : t ≤ u) {s : Int} {p : ColorNumber × ColorNumber}
    (hs : t.content? s = some p) : u.content? s = some p := by
  unfold content? at hs ⊢
  split at hs
  · cases hs
  · rename_i hpositive
    rw [if_neg hpositive]
    obtain ⟨later, hlater⟩ := h.pairs
    obtain ⟨hlt, -⟩ := List.getElem?_eq_some_iff.1 hs
    rw [← hlater, List.getElem?_append_left hlt]
    exact hs

/-- A slot that has been given out, and the pair in it. -/
structure Holds (t : PairTable) (s : Int) (p : ColorNumber × ColorNumber) : Prop where
  pos : 1 ≤ s
  le_size : s ≤ t.size
  content : t.content? s = some p

/-- The pair at a position is in the slot of the next number. -/
theorem Tidy.holds_slot (h : t.Tidy) {i : Nat} {p : ColorNumber × ColorNumber}
    (hi : t.pairs[i]? = some p) : t.Holds (slot (i + 1)) p := by
  obtain ⟨hlt, -⟩ := List.getElem?_eq_some_iff.1 hi
  have hfew : t.pairs.length < 32767 := h.size_lt
  have hslot : slot (i + 1) = ((i + 1 : Nat) : Int) := slot_eq (by omega)
  rw [hslot]
  refine ⟨by omega, Int.ofNat_le.2 hlt, ?_⟩
  rw [content?, if_neg (by omega), Int.toNat_natCast, Nat.add_sub_cancel]
  exact hi

theorem find?_eq_none_iff : t.find? fg bg = none ↔ (fg, bg) ∉ t.pairs := by
  rw [find?, Option.map_eq_none_iff, List.findIdx?_eq_none_iff]
  constructor
  · intro h hmem
    simpa using h _ hmem
  · intro h p hp
    rw [beq_eq_false_iff_ne]
    rintro rfl
    exact h hp

theorem exists_of_find?_eq_some {s : Int} (h : t.find? fg bg = some s) :
    ∃ i, t.pairs[i]? = some (fg, bg) ∧ s = slot (i + 1) := by
  rw [find?, Option.map_eq_some_iff] at h
  obtain ⟨i, hi, rfl⟩ := h
  obtain ⟨hlt, hpair, -⟩ := List.findIdx?_eq_some_iff_getElem.1 hi
  refine ⟨i, ?_, rfl⟩
  rw [List.getElem?_eq_getElem hlt]
  exact congrArg some (by simpa using hpair)

/-! ### Resolving keeps a table tidy -/

theorem Tidy.register (h : t.Tidy) (hfg : fg ∈ paintColors) (hbg : bg ∈ paintColors)
    (hnew : (fg, bg) ∉ t.pairs) (hroom : t.size + 1 < t.limit) :
    Tidy { t with pairs := t.pairs ++ [(fg, bg)] } where
  nodup := by
    rw [List.nodup_append]
    refine ⟨h.nodup, List.pairwise_singleton .., ?_⟩
    intro p hp q hq heq
    rw [List.mem_singleton.1 hq] at heq
    exact hnew (heq ▸ hp)
  colors := List.forall_mem_append.2 ⟨h.colors, List.forall_mem_singleton.2 ⟨hfg, hbg⟩⟩
  size_le := by
    simp only [size, List.length_append, List.length_singleton] at hroom ⊢
    omega

theorem Tidy.resolve (h : t.Tidy) (hfg : fg ∈ paintColors) (hbg : bg ∈ paintColors) :
    (t.resolve fg bg).2.Tidy := by
  rcases resolve_cases t fg bg with ⟨s, -, hr⟩ | ⟨hnew, hroom, hr⟩ | ⟨-, -, hr⟩ <;> rw [hr]
  · exact h
  · exact h.register hfg hbg (find?_eq_none_iff.1 hnew) hroom
  · exact h

/-- **The slot of a pair holds this pair.** -/
theorem Tidy.holds_resolve (h : t.Tidy) (hfg : fg ∈ paintColors) (hbg : bg ∈ paintColors) {s : Int}
    (hs : (t.resolve fg bg).1 = some s) : (t.resolve fg bg).2.Holds s (fg, bg) := by
  have hafter : (t.resolve fg bg).2.Tidy := h.resolve hfg hbg
  rcases resolve_cases t fg bg with ⟨s', hfind, hr⟩ | ⟨hnew, -, hr⟩ | ⟨-, -, hr⟩ <;>
    rw [hr] at hs hafter ⊢
  · obtain rfl := Option.some.inj hs
    obtain ⟨i, hi, hslot⟩ := exists_of_find?_eq_some hfind
    rw [hslot]
    exact h.holds_slot hi
  · obtain rfl := Option.some.inj hs
    exact hafter.holds_slot (by simp [size])
  · cases hs

/-- A pair gets no slot for one cause: it is not in the table, and the table is full. -/
theorem resolve_eq_none_iff :
    (t.resolve fg bg).1 = none ↔ (fg, bg) ∉ t.pairs ∧ t.limit ≤ t.size + 1 := by
  rcases resolve_cases t fg bg with ⟨s, hfind, hr⟩ | ⟨hnew, hroom, hr⟩ | ⟨hnew, hfull, hr⟩ <;>
    rw [hr]
  · have hmem : ¬(fg, bg) ∉ t.pairs := fun hnot => by
      rw [find?_eq_none_iff.2 hnot] at hfind
      cases hfind
    simp [hmem]
  · simp only [reduceCtorEq, false_iff, not_and]
    omega
  · simp [find?_eq_none_iff.1 hnew, hfull]

/-! ### The table at the start -/

/-- Register a pair if there is room for it. -/
def registerWithin (t : PairTable) (p : ColorNumber × ColorNumber) : PairTable :=
  ((t.register? p.1 p.2).map Prod.snd).getD t

/-- Registering pairs one after another takes as many of them as there is room for. -/
theorem foldl_registerWithin (t : PairTable) (ps : List (ColorNumber × ColorNumber)) :
    ps.foldl registerWithin t = { t with pairs := t.pairs ++ ps.take (t.limit - 1 - t.size) } := by
  induction ps generalizing t with
  | nil => simp
  | cons p ps ih =>
    rw [List.foldl_cons, ih]
    by_cases hfull : t.size + 1 ≥ t.limit
    · have hnone : t.limit - 1 - t.size = 0 := by omega
      simp [registerWithin, register?, hfull, hnone]
    · have hsome : t.limit - 1 - t.size = (t.limit - 1 - (t.size + 1)) + 1 := by omega
      have hone : t.registerWithin p = { t with pairs := t.pairs ++ [p] } := by
        simp [registerWithin, register?, hfull]
      have hsize : ({ t with pairs := t.pairs ++ [p] } : PairTable).size = t.size + 1 := by
        simp [size]
      rw [hone, hsome, List.take_succ_cons, hsize, List.append_assoc, List.singleton_append]

theorem withStartup_eq (limit : Nat) (useDefault : Bool) :
    withStartup limit useDefault
      = { limit, pairs := (startupPairs useDefault).take (limit - 1) } := by
  have hfold : withStartup limit useDefault
      = (startupPairs useDefault).foldl registerWithin { limit } := by
    unfold withStartup
    congr 1
    funext t p
    unfold registerWithin
    cases t.register? p.1 p.2 <;> rfl
  rw [hfold, foldl_registerWithin]
  rfl

theorem tidy_startupPairs (useDefault : Bool) : (startupPairs useDefault).Nodup ∧
    ∀ p ∈ startupPairs useDefault, p.1 ∈ paintColors ∧ p.2 ∈ paintColors := by
  cases useDefault <;> decide +kernel

theorem tidy_withStartup (limit : Nat) (useDefault : Bool) :
    (withStartup limit useDefault).Tidy := by
  obtain ⟨hnodup, hcolors⟩ := tidy_startupPairs useDefault
  rw [withStartup_eq]
  refine ⟨?_, ?_, ?_⟩
  · exact hnodup.sublist (List.take_sublist ..)
  · exact fun p hp => hcolors p (List.mem_of_mem_take hp)
  · simp only [size, List.length_take]
    omega

@[simp] theorem limit_withStartup (limit : Nat) (useDefault : Bool) :
    (withStartup limit useDefault).limit = limit := by
  rw [withStartup_eq]

end PairTable
end Color
end ChatConsole
