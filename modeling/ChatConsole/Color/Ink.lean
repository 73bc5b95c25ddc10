/-
# Inks and what a terminal can do with them

An ink is a colour as a terminal takes it.  The abilities of a terminal decide how much of the chart
it can show and how a colour number becomes an ink.
-/

import ChatConsole.Color.Chart

namespace ChatConsole
namespace Color

/-- A colour as a terminal takes it. -/
inductive Ink where
  /-- The terminal's own choice. -/
  | standard
  /-- An entry of the palette. -/
  | indexed (n : Nat)
  /-- Amounts of red, green and blue, each a byte. -/
  | rgb (r g b : Nat)
  deriving DecidableEq, Repr

/-- What a terminal can do with colour. -/
structure Abilities where
  /-- Number of palette entries. -/
  colors : Nat := 16
  /-- Whether palette entries can be redefined. -/
  canRedefine : Bool := false
  /-- One more than the number of colour pairs the terminal can hold, when that is not zero. -/
  maxPairs : Nat := 256
  deriving DecidableEq, Repr

namespace Abilities

/-- Whether the terminal has the 256-colour palette. -/
def isRich (a : Abilities) : Bool :=
  a.colors ≥ 256

/-- Whether a text holds another as one piece. -/
def mentions (part : List Char) : List Char → Bool
  | [] => part.isEmpty
  | c :: cs => part.isPrefixOf (c :: cs) || mentions part cs

/-- What the terminal's kind and its colour hint, both possibly empty, say about its abilities. -/
def ofHints (kind hint : String) : Abilities :=
  let exact := hint == "truecolor" || hint == "24bit"
  let colors :=
    if exact || mentions "256color".toList kind.toList then 256
    else if kind == "" || kind == "dumb" then 8
    else 16
  { colors, canRedefine := exact, maxPairs := if colors ≥ 256 then 32767 else 256 }

/-- Number of chart entries the terminal can show; higher indices wrap around. -/
def chartSize (a : Abilities) : Nat :=
  if a.isRich then chart.length else 16

/-- The chart entry of an index. -/
def entry (a : Abilities) (index : Nat) : ChartEntry :=
  (chart[index % a.chartSize]?).getD ⟨defaultColor, false⟩

/-- The ink of a colour number. -/
def ink (a : Abilities) (color : ColorNumber) : Ink :=
  if color < 0 then .standard
  else
    match if a.canRedefine then redefined.find? (·.1 == color) else none with
    | some (_, r, g, b) =>
      .rgb (byteOfThousandths r) (byteOfThousandths g) (byteOfThousandths b)
    | none => .indexed (min color.toNat 255)

end Abilities
end Color
end ChatConsole
