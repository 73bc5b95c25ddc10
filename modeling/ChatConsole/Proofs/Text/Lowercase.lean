/-
# Lowercase and what stands around a text

The lowercase form of a character depends on its neighbours in one case only: a capital sigma takes its
final form behind a cased letter, unless another one follows, ignorable characters aside.  So what comes
behind a text decides about one character of its lowercase form at most, its last letter
(`lowercaseWithin_nil_iff`).  The lowercase form of a text therefore begins with that of each of its
beginnings, but for those that end in a sigma which ends a word there and is inside one in the whole
text (`lowercase_prefix_iff`).  No lowercase form is a sign that stands before the small letters, so none
of these comes into a text by it (`mem_of_mem_lowercase`).
-/

import ChatConsole.Text.Case
import Mathlib.Data.List.TakeWhile

namespace ChatConsole
namespace Text

variable {before after after' cs front back start rest : List Char} {c d : Char}

/-! ### The next letter -/

/-- Whether a character is passed over in looking for the next letter. -/
def isIgnorable (c : Char) : Bool :=
  caseIgnorableRanges.contains c.toNat

theorem isIgnorable_sigma : isIgnorable 'Σ' = false := by decide +kernel

theorem nextIsCased_nil : nextIsCased [] = false := rfl

theorem nextIsCased_cons_of_ignorable (hc : isIgnorable c = true) (cs : List Char) :
    nextIsCased (c :: cs) = nextIsCased cs := by
  have hskip : caseIgnorableRanges.contains c.toNat = true := hc
  simp [nextIsCased, hskip]

theorem nextIsCased_cons_of_not (hc : isIgnorable c = false) (cs : List Char) :
    nextIsCased (c :: cs) = casedRanges.contains c.toNat := by
  have hstop : caseIgnorableRanges.contains c.toNat = false := hc
  simp [nextIsCased, hstop]

/-- Ignorable characters are passed over. -/
theorem nextIsCased_append_of_ignorable (h : ∀ c ∈ cs, isIgnorable c = true) (after : List Char) :
    nextIsCased (cs ++ after) = nextIsCased after := by
  induction cs with
  | nil => rfl
  | cons c cs ih =>
    obtain ⟨hc, hcs⟩ := List.forall_mem_cons.1 h
    exact (nextIsCased_cons_of_ignorable hc _).trans (ih hcs)

/-- What comes behind some more text is told by what comes behind it all. -/
theorem nextIsCased_append (h : nextIsCased after = nextIsCased after') (cs : List Char) :
    nextIsCased (cs ++ after) = nextIsCased (cs ++ after') := by
  induction cs with
  | nil => exact h
  | cons c cs ih =>
    cases hc : isIgnorable c with
    | true => simpa [nextIsCased_cons_of_ignorable hc] using ih
    | false => simp [nextIsCased_cons_of_not hc]

/-- A text is ignorable, or it has a last character that is not. -/
theorem ignorable_or_split (cs : List Char) :
    (∀ c ∈ cs, isIgnorable c = true) ∨
      ∃ front d back, cs = front ++ d :: back ∧ isIgnorable d = false ∧
        ∀ c ∈ back, isIgnorable c = true := by
  induction cs with
  | nil => exact Or.inl fun c hc => absurd hc List.not_mem_nil
  | cons c cs ih =>
    rcases ih with hall | ⟨front, d, back, rfl, hd, hback⟩
    · cases hc : isIgnorable c with
      | true => exact Or.inl (List.forall_mem_cons.2 ⟨hc, hall⟩)
      | false => exact Or.inr ⟨[], c, cs, rfl, hc, hall⟩
    · exact Or.inr ⟨c :: front, d, back, rfl, hd, hback⟩

/-! ### One character -/

theorem lowercaseAt_of_ne (hc : c ≠ 'Σ') (before after after' : List Char) :
    lowercaseAt before c after = lowercaseAt before c after' := by
  simp [lowercaseAt, hc]

theorem lowercaseAt_congr (h : nextIsCased after = nextIsCased after') (before : List Char) (c : Char) :
    lowercaseAt before c after = lowercaseAt before c after' := by
  simp only [lowercaseAt, h]

theorem length_lowercaseAt (before : List Char) (c : Char) (after after' : List Char) :
    (lowercaseAt before c after).length = (lowercaseAt before c after').length := by
  by_cases hc : c = 'Σ'
  · subst hc
    simp only [lowercaseAt, if_true]
    split <;> split <;> rfl
  · rw [lowercaseAt_of_ne hc]

/-- Behind a cased letter a sigma takes one form in front of a cased letter, and another elsewhere. -/
theorem lowercaseAt_sigma_eq_iff (hafter : nextIsCased after = true)
    (hafter' : nextIsCased after' = false) :
    lowercaseAt before 'Σ' after = lowercaseAt before 'Σ' after' ↔ ¬nextIsCased before = true := by
  simp only [lowercaseAt, if_true, hafter, hafter']
  cases nextIsCased before <;> simp

/-! ### A text between others -/

/-- The lowercase form of a text between what is before it, nearest first, and what comes behind it. -/
def lowercaseWithin (before : List Char) : List Char → List Char → List Char
  | [], _ => []
  | c :: cs, after => lowercaseAt before c (cs ++ after) ++ lowercaseWithin (c :: before) cs after

theorem lowercaseFrom_append (before cs after : List Char) :
    lowercaseFrom before (cs ++ after)
      = lowercaseWithin before cs after ++ lowercaseFrom (cs.reverse ++ before) after := by
  induction cs generalizing before with
  | nil => rfl
  | cons c cs ih => simp [lowercaseFrom, lowercaseWithin, ih]

theorem lowercaseFrom_eq (before cs : List Char) :
    lowercaseFrom before cs = lowercaseWithin before cs [] := by
  have h := lowercaseFrom_append before cs []
  simpa [lowercaseFrom] using h

theorem lowercaseWithin_append (before front back after : List Char) :
    lowercaseWithin before (front ++ back) after
      = lowercaseWithin before front (back ++ after)
        ++ lowercaseWithin (front.reverse ++ before) back after := by
  induction front generalizing before with
  | nil => rfl
  | cons c front ih => simp [lowercaseWithin, ih]

theorem length_lowercaseWithin (before cs after after' : List Char) :
    (lowercaseWithin before cs after).length = (lowercaseWithin before cs after').length := by
  induction cs generalizing before with
  | nil => rfl
  | cons c cs ih =>
    simp only [lowercaseWithin, List.length_append, ih]
    rw [length_lowercaseAt]

theorem lowercaseWithin_congr (h : nextIsCased after = nextIsCased after') (before cs : List Char) :
    lowercaseWithin before cs after = lowercaseWithin before cs after' := by
  induction cs generalizing before with
  | nil => rfl
  | cons c cs ih =>
    simp only [lowercaseWithin, ih]
    rw [lowercaseAt_congr (nextIsCased_append h cs)]

/-- No ignorable character is a sigma. -/
theorem lowercaseWithin_of_ignorable (h : ∀ c ∈ cs, isIgnorable c = true)
    (before after after' : List Char) :
    lowercaseWithin before cs after = lowercaseWithin before cs after' := by
  induction cs generalizing before with
  | nil => rfl
  | cons c cs ih =>
    obtain ⟨hc, hcs⟩ := List.forall_mem_cons.1 h
    have hne : c ≠ 'Σ' := by
      rintro rfl
      rw [isIgnorable_sigma] at hc
      cases hc
    simp only [lowercaseWithin, ih hcs]
    rw [lowercaseAt_of_ne hne]

/-! ### A text and its beginnings -/

/-- Whether a text ends, ignorable characters aside, in a capital sigma behind a cased letter. -/
def endsInSigma (cs : List Char) : Bool :=
  match cs.reverse.dropWhile isIgnorable with
  | [] => false
  | c :: front => c = 'Σ' && nextIsCased front

theorem endsInSigma_of_ignorable (h : ∀ c ∈ cs, isIgnorable c = true) : endsInSigma cs = false := by
  have hnone : cs.reverse.dropWhile isIgnorable = [] :=
    List.dropWhile_eq_nil_iff.2 fun c hc => h c (List.mem_reverse.1 hc)
  rw [endsInSigma, hnone]

theorem endsInSigma_append_cons (hd : isIgnorable d = false) (hback : ∀ c ∈ back, isIgnorable c = true) :
    endsInSigma (front ++ d :: back) = (decide (d = 'Σ') && nextIsCased front.reverse) := by
  have hlast : (front ++ d :: back).reverse.dropWhile isIgnorable = d :: front.reverse := by
    rw [List.reverse_append, List.reverse_cons, List.append_assoc,
      List.dropWhile_append_of_pos fun c hc => hback c (List.mem_reverse.1 hc)]
    simp [hd]
  rw [endsInSigma, hlast]

/-- What comes behind a text decides about the form of its last letter, if that is a sigma at the end of a
word, and about nothing else. -/
theorem lowercaseWithin_nil_iff :
    lowercaseWithin [] start rest = lowercaseWithin [] start [] ↔
      ¬(endsInSigma start = true ∧ nextIsCased rest = true) := by
  cases hrest : nextIsCased rest with
  | false =>
    simp only [Bool.false_eq_true, and_false, not_false_eq_true, iff_true]
    exact lowercaseWithin_congr (hrest.trans nextIsCased_nil.symm) [] start
  | true =>
    rcases ignorable_or_split start with hall | ⟨front, d, back, rfl, hd, hback⟩
    · simp only [endsInSigma_of_ignorable hall, Bool.false_eq_true, false_and, not_false_eq_true,
        iff_true]
      exact lowercaseWithin_of_ignorable hall ..
    · have hfront : lowercaseWithin [] front (d :: back ++ rest)
          = lowercaseWithin [] front (d :: back ++ []) :=
        lowercaseWithin_congr (by simp [nextIsCased_cons_of_not hd]) ..
      have hbehind : nextIsCased (back ++ rest) = true :=
        (nextIsCased_append_of_ignorable hback rest).trans hrest
      have hend : nextIsCased (back ++ []) = false :=
        (nextIsCased_append_of_ignorable hback []).trans nextIsCased_nil
      -- Only the form of `d` is left to compare.
      rw [lowercaseWithin_append, lowercaseWithin_append, hfront, List.append_cancel_left_eq,
        lowercaseWithin, lowercaseWithin, lowercaseWithin_of_ignorable hback _ rest [],
        List.append_cancel_right_eq, endsInSigma_append_cons hd hback, List.append_nil front.reverse]
      by_cases hsigma : d = 'Σ'
      · rw [hsigma, lowercaseAt_sigma_eq_iff hbehind hend]
        simp
      · rw [lowercaseAt_of_ne hsigma _ (back ++ rest) (back ++ [])]
        simp [hsigma]

/-- The lowercase form of a text begins with that of a beginning of it, unless the beginning ends in a sigma
at the end of a word and the text goes on with the word. -/
theorem lowercase_prefix_iff :
    lowercase start <+: lowercase (start ++ rest) ↔
      ¬(endsInSigma start = true ∧ nextIsCased rest = true) := by
  have hwhole : lowercase (start ++ rest)
      = lowercaseWithin [] start rest ++ lowercaseFrom (start.reverse ++ []) rest :=
    lowercaseFrom_append [] start rest
  rw [hwhole, lowercase, lowercaseFrom_eq, ← lowercaseWithin_nil_iff]
  constructor
  · intro h
    have hlength := length_lowercaseWithin [] start [] rest
    have hstart := List.prefix_of_prefix_length_le h (List.prefix_append ..) (Nat.le_of_eq hlength)
    exact (hstart.eq_of_length hlength).symm
  · intro h
    rw [h]
    exact List.prefix_append ..

/-! ### Words apart -/

/-- What comes behind a text and begins no letter leaves the lowercase form of the text as it is. -/
theorem lowercase_append (h : nextIsCased rest = false) (cs : List Char) :
    lowercase (cs ++ rest) = lowercase cs ++ lowercaseFrom cs.reverse rest := by
  have hsame : lowercaseWithin [] cs rest = lowercase cs := by
    rw [lowercase, lowercaseFrom_eq]
    exact lowercaseWithin_congr (h.trans nextIsCased_nil.symm) [] cs
  rw [lowercase, lowercaseFrom_append, hsame, List.append_nil]

/-! ### ASCII characters -/

/-- Runs that begin behind a character do not hold it. -/
theorem lowercaseIn_of_lt {runs : List LowercaseRun} {n : Nat} (h : ∀ run ∈ runs, n < run.1) :
    lowercaseIn runs n = none := by
  induction runs with
  | nil => rfl
  | cons run runs ih =>
    obtain ⟨hrun, hruns⟩ := List.forall_mem_cons.1 h
    obtain ⟨first, last, step, target⟩ := run
    have hnot : ¬ (first ≤ n ∧ n ≤ last ∧ (n - first) % step = 0) := fun hin =>
      absurd hin.1 (Nat.not_le_of_lt hrun)
    rw [lowercaseIn, if_neg hnot, ih hruns]

/-- All runs but the first one begin behind the ASCII characters. -/
theorem lowercaseRuns_tail : ∀ run ∈ lowercaseRuns.tail, 0x80 ≤ run.1 := by decide +kernel

theorem lowercaseIn_ascii {n : Nat} (hn : n < 0x80) :
    ((lowercaseIn lowercaseRuns n).map Char.ofNat).getD (Char.ofNat n) = (Char.ofNat n).toLower := by
  have hfirst : ∀ n < 0x80, ((lowercaseIn [(0x41, 0x5A, 1, 0x61)] n).map Char.ofNat).getD (Char.ofNat n)
      = (Char.ofNat n).toLower := by
    decide +kernel
  have hrest : lowercaseIn lowercaseRuns.tail n = none :=
    lowercaseIn_of_lt fun run hrun => Nat.lt_of_lt_of_le hn (lowercaseRuns_tail run hrun)
  have hruns : lowercaseIn lowercaseRuns n = lowercaseIn [(0x41, 0x5A, 1, 0x61)] n := by
    rw [show lowercaseRuns = (0x41, 0x5A, 1, 0x61) :: lowercaseRuns.tail from rfl, lowercaseIn,
      lowercaseIn, hrest, lowercaseIn]
  rw [hruns]
  exact hfirst n hn

theorem lowercaseAt_of_ascii (hc : c.toNat < 0x80) (before after : List Char) :
    lowercaseAt before c after = [c.toLower] := by
  have hsigma : c ≠ 'Σ' := by
    rintro rfl
    exact absurd hc (by decide)
  have hdot : c ≠ 'İ' := by
    rintro rfl
    exact absurd hc (by decide)
  have hform := lowercaseIn_ascii hc
  rw [Char.ofNat_toNat] at hform
  rw [lowercaseAt, if_neg hsigma, if_neg hdot, ← hform]
  cases lowercaseIn lowercaseRuns c.toNat <;> rfl

theorem lowercaseFrom_of_ascii (h : ∀ c ∈ cs, c.toNat < 0x80) (before : List Char) :
    lowercaseFrom before cs = cs.map Char.toLower := by
  induction cs generalizing before with
  | nil => rfl
  | cons c cs ih =>
    obtain ⟨hc, hcs⟩ := List.forall_mem_cons.1 h
    rw [lowercaseFrom, lowercaseAt_of_ascii hc, ih hcs]
    rfl

/-! ### Signs -/

/-- Whether the targets of a run are characters, none of them before the small letters. -/
def IsLetters : LowercaseRun → Prop
  | (first, last, _, target) =>
    0x61 ≤ target ∧
      (target + (last - first) < 0xD800 ∨ 0xDFFF < target ∧ target + (last - first) < 0x110000)

instance : DecidablePred IsLetters
  | (_, _, _, _) => inferInstanceAs (Decidable (_ ∧ (_ ∨ _ ∧ _)))

theorem isLetters_lowercaseRuns : ∀ run ∈ lowercaseRuns, IsLetters run := by decide +kernel

theorem le_of_lowercaseIn {runs : List LowercaseRun} (h : ∀ run ∈ runs, IsLetters run) {n m : Nat}
    (hm : lowercaseIn runs n = some m) : 0x61 ≤ m ∧ m.isValidChar := by
  induction runs with
  | nil => cases hm
  | cons run runs ih =>
    obtain ⟨hrun, hruns⟩ := List.forall_mem_cons.1 h
    obtain ⟨first, last, step, target⟩ := run
    rw [lowercaseIn] at hm
    split at hm
    · rename_i hin
      obtain rfl := Option.some.inj hm
      obtain ⟨hlow, hvalid⟩ := hrun
      refine ⟨by omega, ?_⟩
      unfold Nat.isValidChar
      omega
    · exact ih hruns hm

/-- A sign before the small letters is in no lowercase form but its own. -/
theorem eq_of_mem_lowercaseAt (hd : d.toNat < 0x61) (h : d ∈ lowercaseAt before c after) : d = c := by
  unfold lowercaseAt at h
  split at h
  · have hform : d = 'ς' ∨ d = 'σ' := by
      split at h
      · exact Or.inl (List.mem_singleton.1 h)
      · exact Or.inr (List.mem_singleton.1 h)
    rcases hform with rfl | rfl
    · exact absurd hd (by decide)
    · exact absurd hd (by decide)
  split at h
  · rcases List.mem_cons.1 h with rfl | h
    · exact absurd hd (by decide)
    · rw [List.mem_singleton.1 h] at hd
      exact absurd hd (by decide)
  split at h
  · rename_i m hm
    obtain ⟨hlow, hvalid⟩ := le_of_lowercaseIn isLetters_lowercaseRuns hm
    have hnumber : (Char.ofNat m).toNat = m := by
      rw [Char.ofNat, dif_pos hvalid]
      rfl
    rw [List.mem_singleton.1 h, hnumber] at hd
    omega
  · exact List.mem_singleton.1 h

theorem mem_of_mem_lowercaseFrom (hd : d.toNat < 0x61) (h : d ∈ lowercaseFrom before cs) : d ∈ cs := by
  induction cs generalizing before with
  | nil => cases h
  | cons c cs ih =>
    rcases List.mem_append.1 h with hfirst | hrest
    · rw [eq_of_mem_lowercaseAt hd hfirst]
      exact List.mem_cons_self
    · exact List.mem_cons_of_mem _ (ih hrest)

/-- A lowercase form has no sign before the small letters that its text does not have. -/
theorem mem_of_mem_lowercase (hd : d.toNat < 0x61) (h : d ∈ lowercase cs) : d ∈ cs :=
  mem_of_mem_lowercaseFrom hd h

end Text
end ChatConsole
