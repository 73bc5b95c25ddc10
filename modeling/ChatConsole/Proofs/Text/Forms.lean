/-
# The bytes of a character

A character is written as one byte, or as a first byte that tells how many bytes its form has and the
continuations that make up that number; and what is read of such a form is the character again
(`utf8EncodeChar_cases`).  So a text is read back from its bytes (`ofBytes?_utf8Encode`).
-/

import ChatConsole.Text.Utf8

namespace ChatConsole
namespace Text

/-- A complete form of several bytes. -/
structure IsForm (first : UInt8) (tail : List UInt8) (c : Char) : Prop where
  length : formLength? first = some (tail.length + 1)
  tail_ne_nil : tail ≠ []
  continues : tail.all isContinuation = true
  reads : ofForm? (first :: tail) = some c

theorem charFrom?_toNat {c : Char} {least : Nat} (h : least ≤ c.toNat) :
    charFrom? least c.toNat = some c := by
  have hvalid : c.toNat.isValidChar := c.valid
  rw [charFrom?, if_pos h, charOf?, dif_pos hvalid]
  rfl

/-- Six bits under a set top bit make a continuation, which carries them. -/
theorem isContinuation_ofNat (n : Nat) : isContinuation (.ofNat (n % 64 + 128)) = true := by
  simp only [isContinuation, Bool.and_eq_true, decide_eq_true_eq, UInt8.le_iff_toNat_le,
    UInt8.toNat_ofNat']
  have hlow : (0x80 : UInt8).toNat = 128 := rfl
  have hhigh : (0xBF : UInt8).toNat = 191 := rfl
  omega

theorem payload_ofNat (n : Nat) : payload (.ofNat (n % 64 + 128)) = n % 64 := by
  rw [payload, UInt8.toNat_ofNat']
  omega

/-! ### The first byte -/

theorem toNat_ofNat_of_le {n : Nat} (h : n ≤ 0x7F) : (UInt8.ofNat n).toNat = n := by
  rw [UInt8.toNat_ofNat']
  omega

/-- What the first byte of a form says, in numbers. -/
theorem formLength?_eq (b : UInt8) :
    formLength? b
      = if 0xC2 ≤ b.toNat ∧ b.toNat ≤ 0xDF then some 2
        else if 0xE0 ≤ b.toNat ∧ b.toNat ≤ 0xEF then some 3
        else if 0xF0 ≤ b.toNat ∧ b.toNat ≤ 0xF4 then some 4
        else none := by
  simp only [formLength?, UInt8.le_iff_toNat_le]
  rfl

/-- A byte below the top bit begins no form. -/
theorem formLength?_of_lt {b : UInt8} (hb : b.toNat < 0x80) : formLength? b = none := by
  rw [formLength?_eq, if_neg (by omega), if_neg (by omega), if_neg (by omega)]

/-! ### The three lengths -/

variable {c : Char}

theorem isForm_two (hlow : 0x7F < c.toNat) (hhigh : c.toNat ≤ 0x7FF) :
    IsForm (.ofNat (c.toNat / 64 % 32 + 192)) [.ofNat (c.toNat % 64 + 128)] c where
  length := by
    rw [formLength?_eq, UInt8.toNat_ofNat', if_pos (by omega)]
    rfl
  tail_ne_nil := List.cons_ne_nil _ _
  continues := by
    simp only [List.all_cons, isContinuation_ofNat, List.all_nil, Bool.and_self]
  reads := by
    have hpoint : (c.toNat / 64 % 32 + 192) % 2 ^ 8 % 32 * 64 + c.toNat % 64 = c.toNat := by omega
    rw [ofForm?, payload_ofNat, UInt8.toNat_ofNat', hpoint, charFrom?_toNat hlow]

theorem isForm_three (hlow : 0x7FF < c.toNat) (hhigh : c.toNat ≤ 0xFFFF) :
    IsForm (.ofNat (c.toNat / 4096 % 16 + 224))
      [.ofNat (c.toNat / 64 % 64 + 128), .ofNat (c.toNat % 64 + 128)] c where
  length := by
    rw [formLength?_eq, UInt8.toNat_ofNat', if_neg (by omega), if_pos (by omega)]
    rfl
  tail_ne_nil := List.cons_ne_nil _ _
  continues := by
    simp only [List.all_cons, isContinuation_ofNat, List.all_nil, Bool.and_self]
  reads := by
    have hpoint : ((c.toNat / 4096 % 16 + 224) % 2 ^ 8 % 16 * 64 + c.toNat / 64 % 64) * 64 + c.toNat % 64
        = c.toNat := by omega
    rw [ofForm?, payload_ofNat, payload_ofNat, UInt8.toNat_ofNat', hpoint,
      charFrom?_toNat hlow]

theorem isForm_four (hlow : 0xFFFF < c.toNat) :
    IsForm (.ofNat (c.toNat / 262144 % 8 + 240))
      [.ofNat (c.toNat / 4096 % 64 + 128), .ofNat (c.toNat / 64 % 64 + 128),
        .ofNat (c.toNat % 64 + 128)] c := by
  have hhigh : c.toNat < 0x110000 := by
    have hvalid : c.toNat < 0xD800 ∨ 0xDFFF < c.toNat ∧ c.toNat < 0x110000 := c.valid
    omega
  refine ⟨?_, List.cons_ne_nil _ _, ?_, ?_⟩
  · rw [formLength?_eq, UInt8.toNat_ofNat', if_neg (by omega), if_neg (by omega), if_pos (by omega)]
    rfl
  · simp only [List.all_cons, isContinuation_ofNat, List.all_nil, Bool.and_self]
  · have hpoint : (((c.toNat / 262144 % 8 + 240) % 2 ^ 8 % 8 * 64 + c.toNat / 4096 % 64) * 64
        + c.toNat / 64 % 64) * 64 + c.toNat % 64 = c.toNat := by omega
    rw [ofForm?, payload_ofNat, payload_ofNat, payload_ofNat, UInt8.toNat_ofNat', hpoint,
      charFrom?_toNat hlow]

/-- **A character is written as itself or as a complete form of it.** -/
theorem utf8EncodeChar_cases (c : Char) :
    (c.toNat ≤ 0x7F ∧ String.utf8EncodeChar c = [.ofNat c.toNat]) ∨
      ∃ first tail, String.utf8EncodeChar c = first :: tail ∧ IsForm first tail c := by
  have hvalue : c.val.toNat = c.toNat := rfl
  unfold String.utf8EncodeChar
  dsimp only
  rw [hvalue]
  by_cases hone : c.toNat ≤ 127
  · exact Or.inl ⟨hone, if_pos hone⟩
  by_cases htwo : c.toNat ≤ 2047
  · rw [if_neg hone, if_pos htwo]
    exact Or.inr ⟨_, _, rfl, isForm_two (by omega) htwo⟩
  by_cases hthree : c.toNat ≤ 65535
  · rw [if_neg hone, if_neg htwo, if_pos hthree]
    exact Or.inr ⟨_, _, rfl, isForm_three (by omega) hthree⟩
  · rw [if_neg hone, if_neg htwo, if_neg hthree]
    exact Or.inr ⟨_, _, rfl, isForm_four (by omega)⟩

/-! ### Reading a text -/

/-- A form is read as its character, whatever comes behind it. -/
theorem ofBytes?_form {first : UInt8} {tail : List UInt8} (h : IsForm first tail c)
    (rest : List UInt8) : ofBytes? (first :: (tail ++ rest)) = (ofBytes? rest).map (c :: ·) := by
  have hmany : ¬ first < 0x80 := by
    intro hsmall
    have hlength := h.length
    rw [formLength?_of_lt (UInt8.lt_iff_toNat_lt.1 hsmall)] at hlength
    cases hlength
  have htail : (tail ++ rest).take (tail.length + 1 - 1) = tail := by
    rw [Nat.add_sub_cancel, List.take_left]
  have hrest : (tail ++ rest).drop (tail.length + 1 - 1) = rest := by
    rw [Nat.add_sub_cancel, List.drop_left]
  rw [ofBytes?, if_neg hmany, h.length]
  simp only [htail, hrest, h.continues, and_self, if_true, h.reads]

/-- **A text is read back from its bytes.** -/
theorem ofBytes?_utf8Encode (text : List Char) :
    ofBytes? (text.flatMap String.utf8EncodeChar) = some text := by
  induction text with
  | nil => rw [List.flatMap_nil, ofBytes?]
  | cons c text ih =>
    rw [List.flatMap_cons]
    rcases utf8EncodeChar_cases c with ⟨hone, hbytes⟩ | ⟨first, tail, hbytes, hform⟩
    · have hnumber := toNat_ofNat_of_le hone
      have hsmall : UInt8.ofNat c.toNat < 0x80 := by
        rw [UInt8.lt_iff_toNat_lt, hnumber]
        exact Nat.lt_succ_of_le hone
      rw [hbytes, List.singleton_append, ofBytes?, if_pos hsmall, ih, hnumber, Char.ofNat_toNat]
      rfl
    · rw [hbytes, List.cons_append, ofBytes?_form hform, ih]
      rfl

end Text
end ChatConsole
