/-
# Characters as bytes

A character is written in one to four bytes.  Reading accepts exactly the shortest forms of the
scalar values: no longer form, no surrogate, nothing above the last code point.
-/

namespace ChatConsole
namespace Text

/-- The character with a code point, if there is one. -/
def charOf? (n : Nat) : Option Char :=
  if h : n.isValidChar then some (Char.ofNatAux n h) else none

/-- Number of bytes of a form, as its first byte tells; none for a byte that begins no form of
several bytes. -/
def formLength? (first : UInt8) : Option Nat :=
  if 0xC2 ≤ first ∧ first ≤ 0xDF then some 2
  else if 0xE0 ≤ first ∧ first ≤ 0xEF then some 3
  else if 0xF0 ≤ first ∧ first ≤ 0xF4 then some 4
  else none

/-- Whether a byte continues a form. -/
def isContinuation (byte : UInt8) : Bool :=
  0x80 ≤ byte && byte ≤ 0xBF

/-- The six bits a continuation carries. -/
def payload (byte : UInt8) : Nat :=
  byte.toNat % 64

/-- The code point at least `least`, if it is a character's. -/
def charFrom? (least n : Nat) : Option Char :=
  if least ≤ n then charOf? n else none

/-- The character of a complete form of two to four bytes. -/
def ofForm? : List UInt8 → Option Char
  | [a, b] => charFrom? 0x80 (a.toNat % 32 * 64 + payload b)
  | [a, b, c] => charFrom? 0x800 ((a.toNat % 16 * 64 + payload b) * 64 + payload c)
  | [a, b, c, d] =>
    charFrom? 0x10000 (((a.toNat % 8 * 64 + payload b) * 64 + payload c) * 64 + payload d)
  | _ => none

/-- The text of a byte string, if every byte belongs to a character. -/
def ofBytes? : List UInt8 → Option (List Char)
  | [] => some []
  | first :: rest =>
    if first < 0x80 then (ofBytes? rest).map (Char.ofNat first.toNat :: ·)
    else
      match formLength? first with
      | none => none
      | some n =>
        let tail := rest.take (n - 1)
        if tail.length + 1 = n ∧ tail.all isContinuation then
          match ofForm? (first :: tail) with
          | some c => (ofBytes? (rest.drop (n - 1))).map (c :: ·)
          | none => none
        else none
  termination_by bytes => bytes.length
  decreasing_by all_goals simp_wf; try omega

end Text
end ChatConsole
