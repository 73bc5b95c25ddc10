/-
# Keys

A key is what the user meant, whichever way the terminal told it: a character, a command key, or a
letter pressed with the control key.
-/

namespace ChatConsole

/-- A key. -/
inductive Key where
  | char (c : Char)
  | enter
  | backspace
  | tab
  | escape
  /-- The key that interrupts the input line. -/
  | bell
  | up
  | down
  | left
  | right
  | altUp
  | altDown
  | home
  | lineEnd
  | delete
  | pageUp
  | pageDown
  | function (n : Nat)
  /-- A lowercase letter with the control key. -/
  | control (c : Char)
  /-- Something no key stands for, known by its last byte. -/
  | unknown (byte : UInt8)
  deriving DecidableEq, Repr

end ChatConsole
