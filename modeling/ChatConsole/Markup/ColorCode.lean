/-
# Colour codes

After a colour mark come one or two digits, and after them possibly a comma and one or two digits
more: a foreground and a background index.  The comma belongs to the code even when no digit
follows it.  A colour mark with no digit after it is an empty code.
-/

namespace ChatConsole
namespace Markup

/-- The value of an ASCII digit. -/
def digit? (c : Char) : Option Nat :=
  if '0' ≤ c ∧ c ≤ '9' then some (c.toNat - '0'.toNat) else none

/-- The number written in the first one or two characters, with how many characters it takes. -/
def number? : List Char → Option (Nat × Nat)
  | [] => none
  | c :: cs =>
    match digit? c with
    | none => none
    | some tens =>
      match cs.head?.bind digit? with
      | none => some (tens, 1)
      | some units => some (tens * 10 + units, 2)

/-- What follows a colour mark. -/
structure ColorCode where
  /-- Foreground index; none for an empty code. -/
  fg : Option Nat := none
  /-- Background index, when the code names one. -/
  bg : Option Nat := none
  /-- How many characters the code takes after the mark. -/
  length : Nat := 0
  deriving DecidableEq, Repr

namespace ColorCode

/-- Whether the code has no digit at all. -/
def isEmpty (code : ColorCode) : Bool :=
  code.fg.isNone

/-- Read the code at the start of a text. -/
def scan (cs : List Char) : ColorCode :=
  match number? cs with
  | none => {}
  | some (fg, n) =>
    match cs.drop n with
    | ',' :: rest =>
      match number? rest with
      | some (bg, m) => ⟨some fg, some bg, n + 1 + m⟩
      | none => ⟨some fg, none, n + 1⟩
    | _ => ⟨some fg, none, n⟩

end ColorCode
end Markup
end ChatConsole
