/-
# Keys from bytes

A terminal sends a key as one byte, as the bytes of a character, or as an escape sequence.  The
decoder takes a byte at a time.  A pause in the input ends what was begun: a lone escape byte is then
the escape key.
-/

import ChatConsole.Key.Basic
import ChatConsole.Text.Utf8

namespace ChatConsole
namespace Key

/-- What the decoder has taken of a key. -/
inductive Pending where
  | nothing
  | escape
  /-- An escape and a bracket, with the parameters after them. -/
  | bracket (parameters : List Char)
  /-- An escape and a capital O. -/
  | letter
  /-- The first bytes of a character of `length` bytes. -/
  | form (length : Nat) (bytes : List UInt8)
  deriving DecidableEq, Repr

/-- The key of a byte that stands for itself. -/
def ofByte (b : UInt8) : Key :=
  let n := b.toNat
  if n = 0x07 then .bell
  else if n = 0x08 ∨ n = 0x7F then .backspace
  else if n = 0x09 then .tab
  else if n = 0x0A ∨ n = 0x0D then .enter
  else if 0x01 ≤ n ∧ n ≤ 0x1A then .control (Char.ofNat (n + 0x60))
  else if 0x20 ≤ n ∧ n ≤ 0x7E then .char (Char.ofNat n)
  else .unknown b

/-- The cursor key of a final letter. -/
def ofCursorLetter? (n : Char) : Option Key :=
  match n with
  | 'A' => some .up
  | 'B' => some .down
  | 'C' => some .right
  | 'D' => some .left
  | 'H' => some .home
  | 'F' => some .lineEnd
  | _ => none

/-- The key of a number before a tilde. -/
def ofNumber? (parameters : String) : Option Key :=
  match parameters with
  | "1" => some .home
  | "7" => some .home
  | "3" => some .delete
  | "4" => some .lineEnd
  | "8" => some .lineEnd
  | "5" => some .pageUp
  | "6" => some .pageDown
  | "15" => some (.function 5)
  | "17" => some (.function 6)
  | "18" => some (.function 7)
  | "19" => some (.function 8)
  | "20" => some (.function 9)
  | "21" => some (.function 10)
  | "23" => some (.function 11)
  | "24" => some (.function 12)
  | _ => none

/-- The key of a bracket sequence, by its parameters and its final byte. -/
def ofBracket (parameters : List Char) (b : UInt8) : Key :=
  let c := Char.ofNat b.toNat
  if c = '~' then (ofNumber? (String.ofList parameters)).getD (.unknown b)
  else if parameters = ['1', ';', '3'] ∧ c = 'A' then .altUp
  else if parameters = ['1', ';', '3'] ∧ c = 'B' then .altDown
  else (ofCursorLetter? c).getD (.unknown b)

/-- The key of an escape, a capital O and a final byte. -/
def ofLetter (b : UInt8) : Key :=
  let c := Char.ofNat b.toNat
  if 'P' ≤ c ∧ c ≤ 'S' then .function (c.toNat - 'P'.toNat + 1)
  else (ofCursorLetter? c).getD (.unknown b)

namespace Pending

/-- Take a byte when nothing is pending. -/
def start (b : UInt8) : Pending × Option Key :=
  if b = 0x1B then (escape, none)
  else
    match Text.formLength? b with
    | some n => (form n [b], none)
    | none => (nothing, some (ofByte b))

/-- Take a byte; a key is returned when it is complete. -/
def feed (p : Pending) (b : UInt8) : Pending × Option Key :=
  match p with
  | nothing => start b
  | escape =>
    if b = 0x5B then (bracket [], none)
    else if b = 0x4F then (letter, none)
    else (nothing, some (.unknown b))
  | bracket parameters =>
    let c := Char.ofNat b.toNat
    if c.isDigit ∨ c = ';' then (bracket (parameters ++ [c]), none)
    else (nothing, some (ofBracket parameters b))
  | letter => (nothing, some (ofLetter b))
  | form n bytes =>
    if Text.isContinuation b then
      let bytes := bytes ++ [b]
      if bytes.length < n then (form n bytes, none)
      else (nothing, some (((Text.ofForm? bytes).map Key.char).getD (.unknown b)))
    else start b

/-- The key that a pause completes. -/
def flush : Pending → Option Key
  | escape => some .escape
  | _ => none

/-- The keys of the bytes still to come, the last one completed by the end of the input. -/
def decode (p : Pending) : List UInt8 → List Key
  | [] => p.flush.toList
  | b :: bs =>
    let (p, key) := p.feed b
    key.toList ++ decode p bs

end Pending

/-- The keys of a byte string. -/
def decode (bytes : List UInt8) : List Key :=
  Pending.nothing.decode bytes

end Key
end ChatConsole
