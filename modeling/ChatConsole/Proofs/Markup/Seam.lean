/-
# Where decorated texts may be joined

A colour code takes digits and a comma from what follows the colour mark.  Text that begins with
neither cannot be drawn into the code before it, so at such a seam the tokens of a joined text are the
tokens of its parts (`tokens_append`).
-/

import ChatConsole.Markup.Token

namespace ChatConsole
namespace Markup

/-- Whether a text can follow a colour code without being taken into it. -/
def EndsCode (rest : List Char) : Prop :=
  ∀ c ∈ rest.head?, digit? c = none ∧ c ≠ ','

theorem endsCode_cons {c : Char} {rest : List Char} (hdigit : digit? c = none) (hcomma : c ≠ ',') :
    EndsCode (c :: rest) := by
  intro d hd
  obtain rfl : c = d := by simpa using hd
  exact ⟨hdigit, hcomma⟩

theorem number?_append {cs rest : List Char} (hne : rest ≠ []) (h : EndsCode rest) :
    number? (cs ++ rest) = number? cs := by
  have hrest : rest.head?.bind digit? = none := by
    cases hr : rest.head? with
    | none => rfl
    | some c => exact (h c hr).1
  match cs with
  | [] =>
    obtain ⟨c, rest, rfl⟩ := List.exists_cons_of_ne_nil hne
    simp [number?, show digit? c = none from hrest]
  | [c] =>
    cases hc : digit? c with
    | none => simp [number?, hc]
    | some n => simp [number?, hc, hrest]
  | c :: d :: cs => simp [number?]

theorem length_le_of_number? {cs : List Char} {v n : Nat} (h : number? cs = some (v, n)) :
    n ≤ cs.length := by
  match cs with
  | [] => simp [number?] at h
  | [c] =>
    cases hc : digit? c with
    | none => simp [number?, hc] at h
    | some tens =>
      simp [number?, hc] at h
      simp [← h.2]
  | c :: d :: cs =>
    cases hc : digit? c with
    | none => simp [number?, hc] at h
    | some tens =>
      cases hd : digit? d <;> simp [number?, hc, hd] at h <;> simp [← h.2]

namespace ColorCode

/-- A colour code lies within the text it is read from. -/
theorem length_scan_le (cs : List Char) : (scan cs).length ≤ cs.length := by
  unfold scan
  split
  · simp
  · rename_i fg n hn
    have hlen := length_le_of_number? hn
    split
    · rename_i rest hrest
      have hdrop : cs.length - n = rest.length + 1 := by
        simpa using congrArg List.length hrest
      split
      · rename_i bg m hm
        have := length_le_of_number? hm
        show n + 1 + m ≤ cs.length
        omega
      · show n + 1 ≤ cs.length
        omega
    · exact hlen

/-- Text that ends a colour code is not looked at by it. -/
theorem scan_append {cs rest : List Char} (h : EndsCode rest) : scan (cs ++ rest) = scan cs := by
  by_cases hne : rest = []
  · rw [hne, List.append_nil]
  unfold scan
  rw [number?_append hne h]
  cases hn : number? cs with
  | none => rfl
  | some vn =>
    obtain ⟨fg, n⟩ := vn
    simp only
    rw [List.drop_append_of_le_length (length_le_of_number? hn)]
    match cs.drop n with
    | [] =>
      obtain ⟨c, rest, rfl⟩ := List.exists_cons_of_ne_nil hne
      have hcomma : c ≠ ',' := (h c rfl).2
      simp [hcomma]
    | c :: cs =>
      by_cases hc : c = ','
      · subst hc
        simp only [List.cons_append]
        rw [number?_append hne h]
      · simp [hc]

end ColorCode

/-- **At a seam that ends a colour code the tokens of a joined text are those of its parts.** -/
theorem tokens_append {rest : List Char} (h : EndsCode rest) (cs : List Char) :
    tokens (cs ++ rest) = tokens cs ++ tokens rest := by
  -- The recursion of `tokens` may take several characters at once, so the induction is on its cases.
  induction cs using tokens.induct with
  | case1 => simp
  | case7 c cs hc ih =>
    have hscan : ColorCode.scan (cs ++ rest) = ColorCode.scan cs := ColorCode.scan_append h
    rw [List.cons_append, tokens, tokens, hc]
    simp only
    rw [hscan, List.drop_append_of_le_length (ColorCode.length_scan_le cs), ih, List.cons_append]
  | case2 c cs hc ih | case3 c cs hc ih | case4 c cs hc ih | case5 c cs hc ih | case6 c cs hc ih
  | case8 c cs hc ih =>
    rw [List.cons_append, tokens, tokens, hc]
    simp only
    rw [ih, List.cons_append]

end Markup
end ChatConsole
