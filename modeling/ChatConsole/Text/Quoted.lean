/-
# Quoted texts

A text inside a message is shown between double quotes, with a backslash before what would end or
confuse the quotation, and with the code point of every character that has no shape of its own.
-/

import ChatConsole.Text.Quoted.Table

namespace ChatConsole
namespace Text

/-- The code point escape of a character, in the fewest hexadecimal digits. -/
def codePointEscape (c : Char) : List Char :=
  ['\\', 'u', '\x7b'] ++ Nat.toDigits 16 c.toNat ++ ['\x7d']

/-- The form of one character inside a quotation. -/
def quotedChar (c : Char) : List Char :=
  if c = '\x00' then ['\\', '0']
  else if c = '\t' then ['\\', 't']
  else if c = '\r' then ['\\', 'r']
  else if c = '\n' then ['\\', 'n']
  else if c = '\\' then ['\\', '\\']
  else if c = '"' then ['\\', '"']
  else if extendingRanges.contains c.toNat || shapelessRanges.contains c.toNat then
    codePointEscape c
  else [c]

/-- A text between double quotes. -/
def quoted (s : String) : String :=
  String.ofList ('"' :: s.toList.flatMap quotedChar ++ ['"'])

end Text
end ChatConsole
