/-
# Letter case

Names (window labels, nicks, file names) are told apart with two notions of case.  `alike` compares
two names with the twenty-six ASCII letters folded and everything else exact.  `lowercase` is the
full mapping of a text, in which one letter may become two and a capital sigma at the end of a word
takes its final form.
-/

import ChatConsole.Text.Case.Table

namespace ChatConsole
namespace Text

/-- The characters of a name with its ASCII letters in lower case. -/
def folded (s : String) : List Char :=
  s.toList.map Char.toLower

/-- Whether two names are the same when the case of ASCII letters does not count. -/
def alike (a b : String) : Bool :=
  folded a == folded b

theorem alike_iff {a b : String} : alike a b = true ↔ folded a = folded b := by
  simp [alike]

@[simp] theorem alike_refl (a : String) : alike a a = true := by
  simp [alike]

theorem alike_comm (a b : String) : alike a b = alike b a := by
  unfold alike
  exact Bool.beq_comm

theorem alike_trans {a b c : String} (hab : alike a b = true) (hbc : alike b c = true) :
    alike a c = true := by
  rw [alike_iff] at hab hbc ⊢
  exact hab.trans hbc

theorem alike_symm {a b : String} (h : alike a b = true) : alike b a = true := by
  rwa [alike_comm]

/-- The entry of a table of runs for one code point: its target, when a run holds it. -/
def lowercaseIn : List LowercaseRun → Nat → Option Nat
  | [], _ => none
  | (first, last, step, target) :: rest, n =>
    if first ≤ n ∧ n ≤ last ∧ (n - first) % step = 0 then some (target + (n - first))
    else lowercaseIn rest n

/-- Whether the first character that is not case-ignorable is a cased letter. -/
def nextIsCased (cs : List Char) : Bool :=
  match cs.dropWhile (fun c => caseIgnorableRanges.contains c.toNat) with
  | [] => false
  | c :: _ => casedRanges.contains c.toNat

/-- The lowercase form of one character, given the text before it (nearest first) and after it. -/
def lowercaseAt (before : List Char) (c : Char) (after : List Char) : List Char :=
  if c = 'Σ' then
    if nextIsCased before && !nextIsCased after then ['ς'] else ['σ']
  else if c = 'İ' then ['i', '\u0307']
  else match lowercaseIn lowercaseRuns c.toNat with
    | some n => [Char.ofNat n]
    | none => [c]

/-- `lowercase` of the rest of a text whose beginning, nearest first, is `before`. -/
def lowercaseFrom (before : List Char) : List Char → List Char
  | [] => []
  | c :: cs => lowercaseAt before c cs ++ lowercaseFrom (c :: before) cs

/-- The full lowercase form of a text. -/
def lowercase (cs : List Char) : List Char :=
  lowercaseFrom [] cs

end Text
end ChatConsole
