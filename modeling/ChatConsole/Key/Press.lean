/-
# Key presses

A live terminal reports which key went down or up and which modifiers were held.  Letters with the
control key that have a name of their own are known by it.
-/

import ChatConsole.Key.Basic

namespace ChatConsole

/-- The keys a live terminal reports. -/
inductive KeyCode where
  | char (c : Char)
  | enter
  | backspace
  | tab
  | escape
  | up
  | down
  | left
  | right
  | home
  | lineEnd
  | delete
  | pageUp
  | pageDown
  | function (n : Nat)
  /-- A key the console has no use for. -/
  | other
  deriving DecidableEq, Repr

/-- A report of a live terminal. -/
structure KeyPress where
  code : KeyCode
  control : Bool := false
  alt : Bool := false
  /-- Whether the key went up. -/
  released : Bool := false
  deriving DecidableEq, Repr

namespace KeyPress

/-- The key of a lowercase letter pressed with the control key. -/
def controlKey (c : Char) : Key :=
  match c with
  | 'g' => .bell
  | 'h' => .backspace
  | 'i' => .tab
  | 'j' => .enter
  | 'm' => .enter
  | c => .control c

/-- The key a press stands for, if the console has a use for it. -/
def key? (p : KeyPress) : Option Key :=
  if p.released then none
  else
    match p.code with
    | .char c => some (if p.control && c.isAlpha then controlKey c.toLower else .char c)
    | .enter => some .enter
    | .backspace => some .backspace
    | .tab => some .tab
    | .escape => some .escape
    | .up => some (if p.alt then .altUp else .up)
    | .down => some (if p.alt then .altDown else .down)
    | .left => some .left
    | .right => some .right
    | .home => some .home
    | .lineEnd => some .lineEnd
    | .delete => some .delete
    | .pageUp => some .pageUp
    | .pageDown => some .pageDown
    | .function n => some (.function n)
    | .other => none

end KeyPress
end ChatConsole
