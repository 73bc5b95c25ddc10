/-
# Decoration marks

A chat line carries its decoration inside the text, as six control characters.  Five are switches
and one begins a colour code.
-/

namespace ChatConsole
namespace Markup

/-- What a decoration character stands for. -/
inductive Mark where
  | blink
  | bold
  | color
  | plain
  | reverse
  | underline
  deriving DecidableEq, Repr

namespace Mark

/-- The control character of a mark. -/
def char : Mark → Char
  | blink => '\x1d'
  | bold => '\x02'
  | color => '\x03'
  | plain => '\x0f'
  | reverse => '\x16'
  | underline => '\x1f'

/-- The mark a character stands for, if any. -/
def ofChar? (c : Char) : Option Mark :=
  if c = '\x1d' then some blink
  else if c = '\x02' then some bold
  else if c = '\x03' then some color
  else if c = '\x0f' then some plain
  else if c = '\x16' then some reverse
  else if c = '\x1f' then some underline
  else none

/-- The letter that shows a mark in the input line. -/
def letter : Mark → Char
  | blink => 'I'
  | bold => 'B'
  | color => 'C'
  | plain => 'N'
  | reverse => 'R'
  | underline => 'U'

@[simp] theorem ofChar?_char (m : Mark) : ofChar? m.char = some m := by
  cases m <;> rfl

/-- A character is a mark exactly when it is that mark's control character. -/
theorem ofChar?_eq_some_iff {c : Char} {m : Mark} : ofChar? c = some m ↔ c = m.char := by
  constructor
  · intro h
    unfold ofChar? at h
    repeat' split at h
    all_goals first | (cases h; assumption) | cases h
  · rintro rfl
    exact ofChar?_char m

end Mark
end Markup
end ChatConsole
