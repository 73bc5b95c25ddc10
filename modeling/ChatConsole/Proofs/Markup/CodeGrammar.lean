/-
# The grammar of colour codes

What follows a colour mark is a code of the grammar

    code   ::= nothing | number | number ',' | number ',' number
    number ::= digit | digit digit

`IsCode` is this grammar, with the two colours that a code names.  A list of characters may begin with
several codes, since every beginning of a code is one (`IsCode.of_prefix`); the scanner reads the
longest of them (`scan_eq_iff`).  It follows that the character that ends a code is the last one that
the scanner looks at: what stands behind it has no say (`scan_take_append`).
-/

import ChatConsole.Proofs.Markup.Seam

namespace ChatConsole
namespace Markup

/-! ### Numbers -/

/-- The number that a digit writes. -/
def digitValue (c : Char) : Nat :=
  c.toNat - '0'.toNat

/-- One or two digits, and the number they write. -/
inductive IsNumber : List Char → Nat → Prop where
  | one {c : Char} (hc : c.isDigit = true) : IsNumber [c] (digitValue c)
  | two {c d : Char} (hc : c.isDigit = true) (hd : d.isDigit = true) :
      IsNumber [c, d] (digitValue c * 10 + digitValue d)

/-- The number of characters that the number at the start of a text takes. -/
def numberLength (cs : List Char) : Nat :=
  (number? cs).elim 0 Prod.snd

variable {c : Char} {cs ds p q rest : List Char} {n m v : Nat}

theorem digit?_eq_some_iff : digit? c = some n ↔ c.isDigit = true ∧ n = digitValue c := by
  have hdigit : c.isDigit = true ↔ '0' ≤ c ∧ c ≤ '9' := by
    simp [Char.isDigit, Char.le_def]
  unfold digit?
  split
  · rename_i hc
    rw [Option.some.injEq, hdigit]
    exact ⟨fun h => ⟨hc, h.symm⟩, fun h => h.2.symm⟩
  · rename_i hc
    rw [hdigit]
    exact ⟨fun h => (Option.noConfusion rfl (heq_of_eq h)), fun h => absurd h.1 hc⟩

theorem digit?_of_isDigit (hc : c.isDigit = true) : digit? c = some (digitValue c) :=
  digit?_eq_some_iff.2 ⟨hc, rfl⟩

theorem digitValue_le (hc : c.isDigit = true) : digitValue c ≤ 9 := by
  have hle : c.toNat ≤ 57 := (Char.isDigit_iff_toNat.1 hc).2
  have hzero : '0'.toNat = 48 := rfl
  unfold digitValue
  omega

theorem IsNumber.le (h : IsNumber ds n) : n ≤ 99 := by
  cases h with
  | one hc => exact Nat.le_trans (digitValue_le hc) (by decide)
  | two hc hd =>
    have htens := digitValue_le hc
    have hunits := digitValue_le hd
    omega

theorem IsNumber.length_pos (h : IsNumber ds n) : 0 < ds.length := by
  cases h <;> exact Nat.succ_pos _

/-- A beginning of a number is nothing or a number. -/
theorem IsNumber.of_prefix (h : IsNumber ds n) (hq : q <+: ds) : q = [] ∨ ∃ m, IsNumber q m := by
  rcases q with _ | ⟨c, q⟩
  · exact Or.inl rfl
  right
  cases h with
  | one hc =>
    obtain ⟨rfl, hq'⟩ := List.cons_prefix_cons.1 hq
    obtain rfl := List.prefix_nil.1 hq'
    exact ⟨_, .one hc⟩
  | two hc hd =>
    obtain ⟨rfl, hq'⟩ := List.cons_prefix_cons.1 hq
    rcases List.prefix_cons_iff.1 hq' with rfl | ⟨q, rfl, hq''⟩
    · exact ⟨_, .one hc⟩
    · obtain rfl := List.prefix_nil.1 hq''
      exact ⟨_, .two hc hd⟩

/-- A number is read whole where no digit follows it. -/
theorem IsNumber.number?_append (h : IsNumber ds n) (hrest : rest.head?.bind digit? = none) :
    number? (ds ++ rest) = some (n, ds.length) := by
  cases h with
  | one hc => simp [number?, digit?_of_isDigit hc, hrest]
  | two hc hd => simp [number?, digit?_of_isDigit hc, digit?_of_isDigit hd]

theorem IsNumber.number?_eq (h : IsNumber ds n) : number? ds = some (n, ds.length) := by
  have hread : number? (ds ++ []) = some (n, ds.length) := h.number?_append rfl
  rwa [List.append_nil] at hread

/-- Where a list begins with a number, a number is read that takes as many characters at least. -/
theorem IsNumber.le_numberLength (h : IsNumber ds n) (rest : List Char) :
    ds.length ≤ numberLength (ds ++ rest) := by
  cases h with
  | @one c hc =>
    cases hunits : rest.head?.bind digit? with
    | none => simp [numberLength, number?, digit?_of_isDigit hc, hunits]
    | some units => simp [numberLength, number?, digit?_of_isDigit hc, hunits]
  | two hc hd => simp [numberLength, number?, digit?_of_isDigit hc, digit?_of_isDigit hd]

/-- What is read as a number is one, at the beginning of the list. -/
theorem exists_of_number? (h : number? cs = some (v, n)) :
    ∃ ds rest, cs = ds ++ rest ∧ IsNumber ds v ∧ ds.length = n := by
  cases cs with
  | nil => cases h
  | cons c cs =>
    cases htens : digit? c with
    | none => simp [number?, htens] at h
    | some tens =>
      obtain ⟨hc, rfl⟩ := digit?_eq_some_iff.1 htens
      rcases cs with _ | ⟨d, cs⟩
      · simp only [number?, htens, List.head?_nil, Option.bind_none, Option.some.injEq,
          Prod.mk.injEq] at h
        obtain ⟨rfl, rfl⟩ := h
        exact ⟨[c], [], rfl, .one hc, rfl⟩
      cases hunits : digit? d with
      | none =>
        simp only [number?, htens, List.head?_cons, Option.bind_some, hunits, Option.some.injEq,
          Prod.mk.injEq] at h
        obtain ⟨rfl, rfl⟩ := h
        exact ⟨[c], d :: cs, rfl, .one hc, rfl⟩
      | some units =>
        simp only [number?, htens, List.head?_cons, Option.bind_some, hunits, Option.some.injEq,
          Prod.mk.injEq] at h
        obtain ⟨hd, rfl⟩ := digit?_eq_some_iff.1 hunits
        obtain ⟨rfl, rfl⟩ := h
        exact ⟨[c, d], cs, rfl, .two hc hd, rfl⟩

/-! ### Codes -/

/-- A code, with the foreground and the background that it names. -/
inductive IsCode : List Char → Option Nat → Option Nat → Prop where
  | nothing : IsCode [] none none
  | foreground {ds : List Char} {n : Nat} (h : IsNumber ds n) : IsCode ds (some n) none
  | comma {ds : List Char} {n : Nat} (h : IsNumber ds n) : IsCode (ds ++ [',']) (some n) none
  | both {ds es : List Char} {n m : Nat} (h : IsNumber ds n) (h' : IsNumber es m) :
      IsCode (ds ++ ',' :: es) (some n) (some m)

variable {fg bg : Option Nat}

/-- A code names colours up to 99, and none exactly if there is nothing. -/
theorem IsCode.colors (h : IsCode p fg bg) :
    (fg = none ↔ p.length = 0) ∧ (∀ n ∈ fg, n ≤ 99) ∧ ∀ n ∈ bg, n ≤ 99 := by
  have hnone : ∀ n ∈ (none : Option Nat), n ≤ 99 := fun n hn => by cases hn
  have hsome {ds : List Char} {n : Nat} (h : IsNumber ds n) : ∀ m ∈ some n, m ≤ 99 :=
    fun m hm => Option.some.inj hm ▸ h.le
  cases h with
  | nothing => exact ⟨by simp, hnone, hnone⟩
  | foreground h =>
    have hlength := h.length_pos
    exact ⟨by simp; rintro rfl; simp at hlength, hsome h, hnone⟩
  | comma h => exact ⟨by simp, hsome h, hnone⟩
  | both h h' => exact ⟨by simp, hsome h, hsome h'⟩

/-- Every beginning of a code is a code. -/
theorem IsCode.of_prefix (h : IsCode p fg bg) (hq : q <+: p) : ∃ fg bg, IsCode q fg bg := by
  have hnumber {ds : List Char} {n : Nat} (h : IsNumber ds n) (hq : q <+: ds) :
      ∃ fg bg, IsCode q fg bg := by
    rcases h.of_prefix hq with rfl | ⟨m, hm⟩
    · exact ⟨_, _, .nothing⟩
    · exact ⟨_, _, .foreground hm⟩
  have hcomma {ds : List Char} {n : Nat} (h : IsNumber ds n) (hq : q <+: ds ++ [',']) :
      ∃ fg bg, IsCode q fg bg := by
    rcases List.prefix_concat_iff.1 hq with rfl | hq
    · exact ⟨_, _, .comma h⟩
    · exact hnumber h hq
  cases h with
  | nothing =>
    obtain rfl := List.prefix_nil.1 hq
    exact ⟨_, _, .nothing⟩
  | foreground h => exact hnumber h hq
  | comma h => exact hcomma h hq
  | @both ds es _ _ h h' =>
    rw [List.append_cons] at hq
    rcases List.prefix_or_prefix_of_prefix hq (List.prefix_append (ds ++ [',']) es) with hq' | hq'
    · exact hcomma h hq'
    · obtain ⟨r, rfl⟩ := hq'
      rcases h'.of_prefix ((List.prefix_append_right_inj _).1 hq) with rfl | ⟨m, hm⟩
      · rw [List.append_nil]
        exact ⟨_, _, .comma h⟩
      · rw [← List.append_cons]
        exact ⟨_, _, .both h hm⟩

namespace ColorCode

/-! ### The scanner -/

theorem scan_of_none (h : number? cs = none) : scan cs = {} := by
  rw [scan, h]

/-- A number with a comma behind it may have a second one behind that. -/
theorem scan_of_comma (h : number? cs = some (v, n)) (hrest : cs.drop n = ',' :: rest) :
    scan cs = ⟨some v, (number? rest).map Prod.fst, n + 1 + numberLength rest⟩ := by
  rw [scan, h]
  simp only [hrest, numberLength]
  cases number? rest <;> rfl

theorem scan_of_no_comma (h : number? cs = some (v, n)) (hrest : ∀ rest, cs.drop n ≠ ',' :: rest) :
    scan cs = ⟨some v, none, n⟩ := by
  rw [scan, h]
  dsimp only
  split
  · rename_i rest hcomma
    exact absurd hcomma (hrest rest)
  · rfl

theorem scan_number_comma (h : IsNumber ds n) (rest : List Char) :
    scan (ds ++ ',' :: rest)
      = ⟨some n, (number? rest).map Prod.fst, ds.length + 1 + numberLength rest⟩ :=
  scan_of_comma (h.number?_append rfl) List.drop_left

/-- A code is read whole. -/
theorem scan_of_isCode (h : IsCode p fg bg) : scan p = ⟨fg, bg, p.length⟩ := by
  cases h with
  | nothing => rfl
  | foreground h => exact scan_of_no_comma h.number?_eq (by simp)
  | comma h =>
    rw [scan_number_comma h []]
    simp [number?, numberLength]
  | both h h' =>
    rw [scan_number_comma h, numberLength, h'.number?_eq]
    simp [Nat.add_assoc, Nat.add_comm 1]

/-- A list of characters names one pair of colours at most. -/
theorem colors_unique {fg' bg' : Option Nat} (h : IsCode p fg bg) (h' : IsCode p fg' bg') :
    fg = fg' ∧ bg = bg' := by
  have hscan := (scan_of_isCode h).symm.trans (scan_of_isCode h')
  simpa using hscan

/-- What is read is a code. -/
theorem isCode_scan (cs : List Char) :
    IsCode (cs.take (scan cs).length) (scan cs).fg (scan cs).bg := by
  cases hfg : number? cs with
  | none =>
    rw [scan_of_none hfg]
    exact .nothing
  | some read =>
    obtain ⟨v, n⟩ := read
    obtain ⟨ds, rest, rfl, hds, rfl⟩ := exists_of_number? hfg
    by_cases hcomma : ∃ rest', rest = ',' :: rest'
    · obtain ⟨rest, rfl⟩ := hcomma
      rw [scan_number_comma hds, numberLength]
      cases hbg : number? rest with
      | none =>
        have htake : (ds ++ ',' :: rest).take (ds.length + 1) = ds ++ [','] := by
          rw [List.take_length_add_append]
          rfl
        exact htake ▸ IsCode.comma hds
      | some read =>
        obtain ⟨w, m⟩ := read
        obtain ⟨es, rest, rfl, hes, rfl⟩ := exists_of_number? hbg
        have htake : (ds ++ ',' :: (es ++ rest)).take (ds.length + 1 + es.length)
            = ds ++ ',' :: es := by
          rw [Nat.add_assoc, List.take_length_add_append, Nat.add_comm 1, List.take_succ_cons,
            List.take_left]
        exact htake ▸ IsCode.both hds hes
    · have hrest (rest' : List Char) : (ds ++ rest).drop ds.length ≠ ',' :: rest' := by
        rw [List.drop_left]
        exact fun h => hcomma ⟨rest', h⟩
      rw [scan_of_no_comma hfg hrest, List.take_left]
      exact .foreground hds

/-- A number at the beginning is part of the code. -/
theorem numberLength_le_length_scan (cs : List Char) : numberLength cs ≤ (scan cs).length := by
  rw [numberLength, scan]
  split
  · exact Nat.le_of_eq (by rw [‹number? cs = none›]; rfl)
  · rename_i fg n hnumber
    rw [hnumber]
    show n ≤ _
    split
    · split
      · exact Nat.le_trans (Nat.le_succ n) (Nat.le_add_right ..)
      · exact Nat.le_succ n
    · exact Nat.le_refl n

/-- No code at the beginning of a list is longer than the one that is read. -/
theorem length_le_scan (h : IsCode p fg bg) (rest : List Char) :
    p.length ≤ (scan (p ++ rest)).length := by
  cases h with
  | nothing => exact Nat.zero_le _
  | foreground h => exact Nat.le_trans (h.le_numberLength rest) (numberLength_le_length_scan _)
  | comma h =>
    rw [List.append_assoc, List.singleton_append, scan_number_comma h, List.length_append]
    exact Nat.le_add_right ..
  | @both ds es _ _ h h' =>
    have hle := h'.le_numberLength rest
    rw [List.append_assoc, List.cons_append, scan_number_comma h, List.length_append,
      List.length_cons]
    show ds.length + (es.length + 1) ≤ ds.length + 1 + numberLength (es ++ rest)
    omega

/-- The code is the longest one at the beginning of a list, with the colours that it names. -/
structure IsLongest (cs : List Char) (code : ColorCode) : Prop where
  isCode : IsCode (cs.take code.length) code.fg code.bg
  length_le : code.length ≤ cs.length
  longest : ∀ p fg bg, p <+: cs → IsCode p fg bg → p.length ≤ code.length

theorem isLongest_scan (cs : List Char) : IsLongest cs (scan cs) where
  isCode := isCode_scan cs
  length_le := length_scan_le cs
  longest := by
    rintro p fg bg ⟨rest, rfl⟩ h
    exact length_le_scan h rest

variable {code code' : ColorCode}

theorem IsLongest.length_le_length (h : IsLongest cs code) (h' : IsLongest cs code') :
    code.length ≤ code'.length := by
  have hle := h'.longest _ _ _ (List.take_prefix _ _) h.isCode
  rwa [List.length_take_of_le h.length_le] at hle

/-- There is one longest code. -/
theorem IsLongest.unique (h : IsLongest cs code) (h' : IsLongest cs code') : code = code' := by
  have hlength : code.length = code'.length :=
    Nat.le_antisymm (h.length_le_length h') (h'.length_le_length h)
  have hcode := h'.isCode
  rw [← hlength] at hcode
  obtain ⟨hfg, hbg⟩ := colors_unique h.isCode hcode
  obtain ⟨fg, bg, length⟩ := code
  obtain ⟨fg', bg', length'⟩ := code'
  exact congr (congr (congrArg ColorCode.mk hfg) hbg) hlength

theorem scan_eq_iff : scan cs = code ↔ IsLongest cs code :=
  ⟨fun h => h ▸ isLongest_scan cs, fun h => (isLongest_scan cs).unique h⟩

/-- What stands behind the character that ends the code has no say in it. -/
theorem scan_take_append (h : (scan cs).length < cs.length) (more : List Char) :
    scan (cs.take ((scan cs).length + 1) ++ more) = scan cs := by
  have hlongest := isLongest_scan cs
  have hhead : (cs.take ((scan cs).length + 1)).length = (scan cs).length + 1 :=
    List.length_take_of_le h
  refine scan_eq_iff.2 ⟨?_, ?_, fun p fg bg hp hcode => ?_⟩
  · rw [List.take_append_of_le_length (by omega), List.take_take, Nat.min_eq_left (Nat.le_succ _)]
    exact hlongest.isCode
  · rw [List.length_append]
    omega
  · -- A longer code would begin with the character that ends the code, and so would a code of `cs`.
    refine Nat.le_of_not_lt fun hlonger => ?_
    have hbegins : cs.take ((scan cs).length + 1) <+: p :=
      List.prefix_of_prefix_length_le (List.prefix_append _ _) hp (by omega)
    obtain ⟨fg', bg', hcode'⟩ := hcode.of_prefix hbegins
    have hle := hlongest.longest _ _ _ (List.take_prefix _ _) hcode'
    omega

/-- **The scanner reads the longest code of the grammar.**  Its result is the one longest beginning
that is a code, with the colours that this names: no foreground exactly if it is empty, and both at
most 99.  The character that ends the code is the last one that is looked at; so whatever is put behind
it changes nothing, and nothing is changed by text that cannot go on a code. -/
theorem scan_longest (cs : List Char) :
    (∀ code, scan cs = code ↔
      (IsCode (cs.take code.length) code.fg code.bg ∧ code.length ≤ cs.length ∧
        ∀ p fg bg, p <+: cs → IsCode p fg bg → p.length ≤ code.length)) ∧
      ((scan cs).fg = none ↔ (scan cs).length = 0) ∧
      ((∀ n ∈ (scan cs).fg, n ≤ 99) ∧ ∀ n ∈ (scan cs).bg, n ≤ 99) ∧
      ((scan cs).length < cs.length →
        ∀ more, scan (cs.take ((scan cs).length + 1) ++ more) = scan cs) ∧
      ∀ rest, EndsCode rest → scan (cs ++ rest) = scan cs := by
  obtain ⟨hempty, hfg, hbg⟩ := (isCode_scan cs).colors
  rw [List.length_take_of_le (length_scan_le cs)] at hempty
  refine ⟨fun code => ?_, hempty, ⟨hfg, hbg⟩, scan_take_append, fun rest => scan_append⟩
  rw [scan_eq_iff]
  exact ⟨fun h => ⟨h.isCode, h.length_le, h.longest⟩, fun ⟨hcode, hle, hlongest⟩ =>
    ⟨hcode, hle, hlongest⟩⟩

/-- A third digit ends a foreground, and a comma that no digit follows is still part of the code. -/
example : scan "123".toList = ⟨some 12, none, 2⟩ ∧ scan "1,x".toList = ⟨some 1, none, 2⟩ := by
  decide

end ColorCode
end Markup
end ChatConsole
