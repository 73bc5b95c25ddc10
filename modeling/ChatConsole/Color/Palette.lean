/-
# From colour codes to colour pairs

A palette resolves a colour code: the chart gives the two colours, the pair table their slot.  On a
redefinable palette bold black and plain white have greys of their own, and then the glyph is not
drawn bold.  A palette that is off resolves nothing.
-/

import ChatConsole.Color.Ink
import ChatConsole.Color.PairTable
import ChatConsole.Markup.ColorCode

namespace ChatConsole
namespace Color

/-- A resolved colour code: the slot of its pair, and whether its glyphs are bold. -/
structure Shade where
  pair : Int
  bold : Bool
  deriving DecidableEq, Repr

/-- The grey an entry stands for on a redefinable palette, if it stands for one. -/
def greyOf? (entry : ChartEntry) : Option ColorNumber :=
  if entry.color = black ∧ entry.bold then some grey
  else if entry.color = white ∧ !entry.bold then some lightGrey
  else none

/-- The colours and the weight of a foreground index on a background index.  A negative background
is the default colour. -/
def mix (a : Abilities) (fg : Nat) (bg : Int) : (ColorNumber × ColorNumber) × Bool :=
  let front := a.entry fg
  let back := if bg < 0 then none else some (a.entry bg.toNat)
  let backColor := (back.map ChartEntry.color).getD defaultColor
  if a.isRich && a.canRedefine then
    let frontGrey := greyOf? front
    let backGrey := back.bind greyOf?
    ((frontGrey.getD front.color, backGrey.getD backColor),
      frontGrey.isNone && backGrey.isNone && front.bold)
  else ((front.color, backColor), front.bold)

/-- The shade of a foreground index on a background index, and the pairs registered by then. -/
def shade (a : Abilities) (t : PairTable) (fg : Nat) (bg : Int) : Option Shade × PairTable :=
  let ((f, b), bold) := mix a fg bg
  let (slot, t') := t.resolve f b
  (slot.map (⟨·, bold⟩), t')

/-- All that is needed to paint in colour. -/
structure Palette where
  abilities : Abilities
  pairs : PairTable
  enabled : Bool
  useDefault : Bool
  /-- Index of the background where the terminal has no default. -/
  background : Int
  deriving DecidableEq, Repr

namespace Palette

/-- A palette for a terminal, with the startup pairs registered. -/
def new (a : Abilities) (useDefault : Bool) (background : Int) : Palette :=
  { abilities := a, pairs := .withStartup a.maxPairs useDefault, enabled := true, useDefault,
    background }

/-- A palette for a terminal without colour. -/
def off : Palette :=
  { abilities := {}, pairs := { limit := 0 }, enabled := false, useDefault := true,
    background := 1 }

/-- The background of a colour code that names none. -/
def defaultBackground (p : Palette) : Int :=
  if p.useDefault then defaultColor else p.background

/-- The shade of a colour code, if it has one, and the palette after it. -/
def resolve (p : Palette) (code : Markup.ColorCode) : Option Shade × Palette :=
  if p.enabled then
    match code.fg with
    | none => (none, p)
    | some fg =>
      let bg := (code.bg.map Int.ofNat).getD p.defaultBackground
      let (s, t) := shade p.abilities p.pairs fg bg
      (s, { p with pairs := t })
  else (none, p)

/-- The slot of a pair of base colours; 0 when the palette is off or has no slot left. -/
def pairOf (p : Palette) (fg bg : ColorNumber) : Int × Palette :=
  if p.enabled then
    let (s, t) := p.pairs.resolve fg bg
    (s.getD 0, { p with pairs := t })
  else (0, p)

/-- The inks of a slot; none for slot 0 and on a palette that is off. -/
def inks? (p : Palette) (pair : Int) : Option (Ink × Ink) :=
  if p.enabled && pair ≠ 0 then
    (p.pairs.content? pair).map fun (fg, bg) => (p.abilities.ink fg, p.abilities.ink bg)
  else none

end Palette
end Color
end ChatConsole
