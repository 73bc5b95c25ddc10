/-
# How many columns a character takes

Every column count of the console, in wrapping, in indents and in the input line, is a sum of
`columns`.  A character takes no column, one or two (`columns_le_two`).
-/

import ChatConsole.Text.Width.Table

namespace ChatConsole
namespace Text

/-- Columns a character takes on the terminal. -/
def columns (c : Char) : Nat :=
  if zeroColumnRanges.contains c.toNat then 0
  else if twoColumnRanges.contains c.toNat then 2
  else 1

/-- Columns a text takes when its characters stand side by side. -/
def columnsOf (cs : List Char) : Nat :=
  cs.foldr (columns · + ·) 0

theorem columns_le_two (c : Char) : columns c ≤ 2 := by
  unfold columns
  split
  · omega
  · split <;> omega

@[simp] theorem columns_space : columns ' ' = 1 := by decide

@[simp] theorem columnsOf_nil : columnsOf [] = 0 := rfl

@[simp] theorem columnsOf_cons (c : Char) (cs : List Char) :
    columnsOf (c :: cs) = columns c + columnsOf cs := rfl

theorem columnsOf_append (as bs : List Char) :
    columnsOf (as ++ bs) = columnsOf as + columnsOf bs := by
  induction as with
  | nil => exact (Nat.zero_add _).symm
  | cons c as ih => rw [List.cons_append, columnsOf_cons, columnsOf_cons, ih, Nat.add_assoc]

/-- The control characters: the two blocks of codes without a glyph. -/
def isControl (c : Char) : Bool :=
  c.toNat < 0x20 || (0x7F ≤ c.toNat && c.toNat ≤ 0x9F)

end Text
end ChatConsole
