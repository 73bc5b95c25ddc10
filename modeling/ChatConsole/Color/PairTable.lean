/-
# Colour pairs

A terminal paints a foreground on a background through a numbered pair.  Pairs are registered when
they are first wanted, up to the terminal's limit, and never change afterwards.  Slot 0 means "no
colour", so the slots count from 1.
-/

import ChatConsole.Color.Chart

namespace ChatConsole
namespace Color

/-- The registered pairs, in the order of their slots. -/
structure PairTable where
  pairs : List (ColorNumber × ColorNumber) := []
  /-- Registering stops when the next slot would reach this number. -/
  limit : Nat
  deriving DecidableEq, Repr

namespace PairTable

/-- A slot number is a signed sixteen-bit word; a count beyond it wraps around. -/
def slot (n : Nat) : Int :=
  Int.bmod n 65536

/-- Number of registered pairs. -/
def size (t : PairTable) : Nat :=
  t.pairs.length

/-- Register a pair, unless no slot is left. -/
def register? (t : PairTable) (fg bg : ColorNumber) : Option (Int × PairTable) :=
  if t.size + 1 ≥ t.limit then none
  else some (slot (t.size + 1), { t with pairs := t.pairs ++ [(fg, bg)] })

/-- The slot of a pair that is registered. -/
def find? (t : PairTable) (fg bg : ColorNumber) : Option Int :=
  (t.pairs.findIdx? (· == (fg, bg))).map fun i => slot (i + 1)

/-- The pair in a slot. -/
def content? (t : PairTable) (pair : Int) : Option (ColorNumber × ColorNumber) :=
  if pair < 1 then none else t.pairs[pair.toNat - 1]?

/-- The slot of a pair, registered now if it was not; none when no slot is left for it. -/
def resolve (t : PairTable) (fg bg : ColorNumber) : Option Int × PairTable :=
  match t.find? fg bg with
  | some s => (some s, t)
  | none =>
    match t.register? fg bg with
    | some (s, t') => (some s, t')
    | none => (none, t)

/-- The pairs registered at the start: black on black, each base colour on the default background
(where the terminal has one), the base colours on each other, and each base colour on itself. -/
def startupPairs (useDefault : Bool) : List (ColorNumber × ColorNumber) :=
  (black, black)
    :: (if useDefault then baseColors.map (·, defaultColor) else [])
    ++ baseColors.flatMap (fun fg => (baseColors.filter (· ≠ fg)).map (fg, ·))
    ++ baseColors.tail.map fun c => (c, c)

/-- A table with the startup pairs, as many as there are slots for. -/
def withStartup (limit : Nat) (useDefault : Bool) : PairTable :=
  (startupPairs useDefault).foldl
    (fun t p => match t.register? p.1 p.2 with
      | some (_, t') => t'
      | none => t)
    { limit }

end PairTable
end Color
end ChatConsole
