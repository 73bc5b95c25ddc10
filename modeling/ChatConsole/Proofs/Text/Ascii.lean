/-
# ASCII characters

Letters and digits, in the narrow sense in which names are read, are ASCII characters, and only ASCII letters
have a lowercase form in this sense.  So what the case of ASCII characters leaves as it is, it leaves in all
names (`toLower_congr`): their number of bytes (`utf8ByteSize_eq_of_alike`), and where they have letters and
digits (`isAlphanum_toLower`).
-/

import ChatConsole.Text.Case

namespace ChatConsole
namespace Text

variable {c : Char}

/-! ### Characters -/

theorem toNat_lt_of_isAlpha (hc : c.isAlpha = true) : c.toNat < 0x80 := by
  have hlast : c.val ≤ 'Z'.val ∨ c.val ≤ 'z'.val := by
    rcases Bool.or_eq_true_iff.1 hc with hupper | hlower
    · exact Or.inl (of_decide_eq_true hupper).2
    · exact Or.inr (of_decide_eq_true (Bool.and_eq_true_iff.1 hlower).2)
  rcases hlast with h | h
  · exact Nat.lt_of_le_of_lt (UInt32.le_iff_toNat_le.1 h) (by decide)
  · exact Nat.lt_of_le_of_lt (UInt32.le_iff_toNat_le.1 h) (by decide)

theorem toNat_lt_of_isAlphanum (hc : c.isAlphanum = true) : c.toNat < 0x80 := by
  rcases Bool.or_eq_true_iff.1 hc with halpha | hdigit
  · exact toNat_lt_of_isAlpha halpha
  · have hlast : c.val ≤ '9'.val := of_decide_eq_true (Bool.and_eq_true_iff.1 hdigit).2
    exact Nat.lt_of_le_of_lt (UInt32.le_iff_toNat_le.1 hlast) (by decide)

/-- A character that is not an ASCII one is its own lowercase form. -/
theorem toLower_of_not_ascii (hc : ¬ c.toNat < 0x80) : c.toLower = c := by
  have hnot : ¬ ('A'.val ≤ c.val ∧ c.val ≤ 'Z'.val) := by
    rintro ⟨-, hlast⟩
    exact hc (Nat.lt_of_le_of_lt (UInt32.le_iff_toNat_le.1 hlast) (by decide))
  exact dif_neg hnot

/-- What letter case leaves as it is in ASCII characters, it leaves in all. -/
theorem toLower_congr {α : Type} {f : Char → α}
    (h : ∀ n < 0x80, f (Char.ofNat n).toLower = f (Char.ofNat n)) (c : Char) : f c.toLower = f c := by
  by_cases hc : c.toNat < 0x80
  · have hform := h c.toNat hc
    rwa [Char.ofNat_toNat] at hform
  · rw [toLower_of_not_ascii hc]

theorem isAlphanum_toLower (c : Char) : c.toLower.isAlphanum = c.isAlphanum :=
  toLower_congr (f := Char.isAlphanum) (by decide +kernel) c

/-! ### Size -/

theorem utf8Size_toLower (c : Char) : c.toLower.utf8Size = c.utf8Size :=
  toLower_congr (f := Char.utf8Size) (by decide +kernel) c

theorem utf8ByteSize_ofList_cons (c : Char) (cs : List Char) :
    (String.ofList (c :: cs)).utf8ByteSize = c.utf8Size + (String.ofList cs).utf8ByteSize := by
  rw [String.ofList_cons, String.utf8ByteSize_append, String.utf8ByteSize_singleton]

theorem utf8ByteSize_map_toLower (cs : List Char) :
    (String.ofList (cs.map Char.toLower)).utf8ByteSize = (String.ofList cs).utf8ByteSize := by
  induction cs with
  | nil => rfl
  | cons c cs ih =>
    rw [List.map_cons, utf8ByteSize_ofList_cons, utf8ByteSize_ofList_cons, utf8Size_toLower, ih]

/-- Names that are the same, letter case aside, have the same number of bytes. -/
theorem utf8ByteSize_eq_of_alike {a b : String} (h : alike a b = true) :
    a.utf8ByteSize = b.utf8ByteSize := by
  have hfolded : a.toList.map Char.toLower = b.toList.map Char.toLower := alike_iff.1 h
  calc a.utf8ByteSize
    _ = (String.ofList (a.toList.map Char.toLower)).utf8ByteSize := by
      rw [utf8ByteSize_map_toLower, String.ofList_toList]
    _ = (String.ofList (b.toList.map Char.toLower)).utf8ByteSize := by rw [hfolded]
    _ = b.utf8ByteSize := by rw [utf8ByteSize_map_toLower, String.ofList_toList]

end Text
end ChatConsole
