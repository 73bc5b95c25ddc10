/-
# Decorated text as tokens

A decorated text is a list of tokens: switches, colour codes, and characters to show.  Everything
that reads decoration reads these tokens, so that all readers agree on where a colour code ends.
`strip` keeps the characters to show.
-/

import ChatConsole.Markup.Mark
import ChatConsole.Markup.ColorCode
import ChatConsole.Text.Width

namespace ChatConsole
namespace Markup

/-- The switches of a decorated text. -/
inductive Switch where
  | blink
  | bold
  | reverse
  | underline
  deriving DecidableEq, Repr

/-- A piece of decorated text. -/
inductive Token where
  /-- Turn a decoration on, or off when it is on. -/
  | toggle (s : Switch)
  /-- Back to plain text. -/
  | plain
  /-- Change the colour, or drop it when the code is empty. -/
  | color (code : ColorCode)
  /-- A character of the text itself. -/
  | glyph (c : Char)
  deriving DecidableEq, Repr

/-- The tokens of a decorated text. -/
def tokens : List Char → List Token
  | [] => []
  | c :: cs =>
    match Mark.ofChar? c with
    | some .blink => .toggle .blink :: tokens cs
    | some .bold => .toggle .bold :: tokens cs
    | some .reverse => .toggle .reverse :: tokens cs
    | some .underline => .toggle .underline :: tokens cs
    | some .plain => .plain :: tokens cs
    | some .color => .color (ColorCode.scan cs) :: tokens (cs.drop (ColorCode.scan cs).length)
    | none => .glyph c :: tokens cs
  termination_by cs => cs.length
  decreasing_by all_goals simp_wf; try omega

/-- The character a token shows. -/
def Token.shown? : Token → Option Char
  | .glyph c => some c
  | _ => none

/-- The characters of a decorated text without its decoration. -/
def shown (cs : List Char) : List Char :=
  (tokens cs).filterMap Token.shown?

/-- A decorated text without its decoration. -/
def strip (s : String) : String :=
  String.ofList (shown s.toList)

/-- Columns a decorated text takes. -/
def shownColumns (s : String) : Nat :=
  Text.columnsOf (shown s.toList)

@[simp] theorem tokens_nil : tokens [] = [] := by
  simp [tokens]

end Markup
end ChatConsole
