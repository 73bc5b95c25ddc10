/-
# The words of a settings file

Each scanner takes a word from the start of the text and returns what it stands for together with
the rest of the text, or refuses.
-/

import ChatConsole.Text.Utf8
import ChatConsole.Toml.Value

namespace ChatConsole
namespace Toml

/-- A scanner: what a word stands for, and the rest of the text. -/
abbrev Scan (α : Type) := List Char → Option (α × List Char)

/-- Whether a character is a blank inside a line. -/
def isSpace (c : Char) : Bool :=
  c == ' ' || c == '\t'

/-- The text after the blanks at its start. -/
def skipSpaces (cs : List Char) : List Char :=
  cs.dropWhile isSpace

/-- Whether a character may stand in a line: no control character but the tab. -/
def isLineChar (c : Char) : Bool :=
  c == '\t' || (0x20 ≤ c.toNat && c.toNat != 0x7F)

/-- The rest of a text after a character. -/
def after? (c : Char) : List Char → Option (List Char)
  | [] => none
  | d :: cs => if c = d then some cs else none

/-- The rest of a text after a line break. -/
def afterBreak? : List Char → Option (List Char)
  | '\n' :: cs => some cs
  | '\r' :: '\n' :: cs => some cs
  | _ => none

/-- The text after a comment, if it begins with one. -/
def skipComment : List Char → List Char
  | '#' :: cs => cs.dropWhile isLineChar
  | cs => cs

/-- The rest of a text after the end of a line: blanks, a comment, and a line break or the end of the
text. -/
def afterLine? (cs : List Char) : Option (List Char) :=
  let cs := skipComment (skipSpaces cs)
  if cs.isEmpty then some [] else afterBreak? cs

/-- The text after blanks, comments and line breaks; `fuel` is at least its length. -/
def skipLines : Nat → List Char → Option (List Char)
  | 0, cs => some cs
  | fuel + 1, cs =>
    match skipSpaces cs with
    | '#' :: cs => (afterBreak? (cs.dropWhile isLineChar)).bind (skipLines fuel)
    | cs =>
      match afterBreak? cs with
      | some cs => skipLines fuel cs
      | none => if cs.head? = some '\r' then none else some cs

/-- The text after blanks, comments and line breaks. -/
def skipLayout (cs : List Char) : Option (List Char) :=
  skipLines cs.length cs

/-- The value of hexadecimal digits, all of them. -/
def hexValue? (cs : List Char) : Option Nat :=
  cs.foldlM (fun n c =>
    if c.isDigit then some (n * 16 + (c.toNat - '0'.toNat))
    else if 'a' ≤ c ∧ c ≤ 'f' then some (n * 16 + (c.toNat - 'a'.toNat + 10))
    else if 'A' ≤ c ∧ c ≤ 'F' then some (n * 16 + (c.toNat - 'A'.toNat + 10))
    else none) 0

/-- The character of a code point in exactly `count` hexadecimal digits. -/
def codePoint? (count : Nat) : Scan Char := fun cs =>
  if cs.length < count then none
  else do
    let n ← hexValue? (cs.take count)
    let c ← Text.charOf? n
    some (c, cs.drop count)

/-- The character of an escape, after its backslash. -/
def escape? : Scan Char
  | 'b' :: cs => some ('\x08', cs)
  | 'f' :: cs => some ('\x0c', cs)
  | 'n' :: cs => some ('\n', cs)
  | 'r' :: cs => some ('\r', cs)
  | 't' :: cs => some ('\t', cs)
  | 'u' :: cs => codePoint? 4 cs
  | 'U' :: cs => codePoint? 8 cs
  | '\\' :: cs => some ('\\', cs)
  | '"' :: cs => some ('"', cs)
  | _ => none

/-- The rest of a text between double quotes on one line; `fuel` is at least its length. -/
def basicBody? : Nat → Scan (List Char)
  | 0, _ => none
  | fuel + 1, cs =>
    match cs with
    | [] => none
    | '"' :: cs => some ([], cs)
    | '\\' :: cs => do
      let (c, cs) ← escape? cs
      let (body, cs) ← basicBody? fuel cs
      some (c :: body, cs)
    | c :: cs =>
      if isLineChar c then do
        let (body, cs) ← basicBody? fuel cs
        some (c :: body, cs)
      else none

/-- The rest of a text between single quotes on one line. -/
def literalBody? : Scan (List Char)
  | [] => none
  | c :: cs =>
    if c = '\'' then some ([], cs)
    else if isLineChar c then do
      let (body, cs) ← literalBody? cs
      some (c :: body, cs)
    else none

/-- Number of quotes at the start of a text. -/
def quotesAt (q : Char) (cs : List Char) : Nat :=
  (cs.takeWhile (· == q)).length

/-- The text after blanks and line breaks; `fuel` is at least its length. -/
def skipBreaks : Nat → List Char → List Char
  | 0, cs => cs
  | fuel + 1, cs =>
    match afterBreak? (skipSpaces cs) with
    | some cs => skipBreaks fuel cs
    | none => skipSpaces cs

/-- The rest of a text between three quotes `q` on either side.  Up to two quotes may stand before
the last three.  A backslash begins an escape if `escapes`, and at the end of a line it joins the
lines.  `fuel` is at least the length of the text. -/
def tripledBody? (q : Char) (escapes : Bool) : Nat → Scan (List Char)
  | 0, _ => none
  | fuel + 1, cs =>
    match cs with
    | [] => none
    | c :: rest =>
      if c = q then
        let n := quotesAt q cs
        if n ≥ 6 then none
        else if n ≥ 3 then some (List.replicate (n - 3) q, cs.drop n)
        else do
          let (body, cs) ← tripledBody? q escapes fuel (cs.drop n)
          some (List.replicate n q ++ body, cs)
      else if c = '\\' ∧ escapes then
        match afterBreak? (skipSpaces rest) with
        | some rest => tripledBody? q escapes fuel (skipBreaks rest.length rest)
        | none => do
          let (c, cs) ← escape? rest
          let (body, cs) ← tripledBody? q escapes fuel cs
          some (c :: body, cs)
      else
        match afterBreak? cs with
        | some cs => do
          let (body, cs) ← tripledBody? q escapes fuel cs
          some ('\n' :: body, cs)
        | none =>
          if isLineChar c then do
            let (body, cs) ← tripledBody? q escapes fuel rest
            some (c :: body, cs)
          else none

/-- A text between three quotes, after the first three.  A line break right after them does not
count. -/
def tripled? (q : Char) (escapes : Bool) : Scan (List Char) := fun cs =>
  let cs := (afterBreak? cs).getD cs
  tripledBody? q escapes (cs.length + 1) cs

/-- A text in quotes of any kind. -/
def quotedText? : Scan String := fun cs =>
  (match cs with
    | '"' :: '"' :: '"' :: cs => tripled? '"' true cs
    | '\'' :: '\'' :: '\'' :: cs => tripled? '\'' false cs
    | '"' :: cs => basicBody? (cs.length + 1) cs
    | '\'' :: cs => literalBody? cs
    | _ => none).map fun (body, cs) => (String.ofList body, cs)

/-- One part of a key: bare, or in quotes on one line. -/
def keyPart? : Scan String := fun cs =>
  match cs with
  | '"' :: cs => (basicBody? (cs.length + 1) cs).map fun (body, cs) => (String.ofList body, cs)
  | '\'' :: cs => (literalBody? cs).map fun (body, cs) => (String.ofList body, cs)
  | cs =>
    let part := cs.takeWhile isBareKeyChar
    if part.isEmpty then none else some (String.ofList part, cs.drop part.length)

/-- The parts of a key, joined by points and with blanks around each; `fuel` is at least the length
of the text. -/
def keyParts? : Nat → Scan (List String)
  | 0, _ => none
  | fuel + 1, cs => do
    let (part, cs) ← keyPart? (skipSpaces cs)
    match skipSpaces cs with
    | '.' :: cs => do
      let (parts, cs) ← keyParts? fuel cs
      some (part :: parts, cs)
    | cs => some ([part], cs)

/-- How deep arrays and tables may lie in each other, and how many parts a key may have: fewer than
this. -/
def depthLimit : Nat := 80

/-- A key. -/
def key? : Scan (List String) := fun cs => do
  let (parts, cs) ← keyParts? (cs.length + 1) cs
  if parts.length < depthLimit then some (parts, cs) else none

/-- A number in exactly two digits, within bounds. -/
def twoDigits? (low high : Nat) : Scan Nat
  | a :: b :: cs =>
    if a.isDigit && b.isDigit then
      let n := Number.Binary.valueOf [a, b]
      if low ≤ n && n ≤ high then some (n, cs) else none
    else none
  | _ => none

/-- Number of days of a month. -/
def daysOf (year month : Nat) : Nat :=
  if month = 2 then
    if year % 4 = 0 ∧ (year % 100 ≠ 0 ∨ year % 400 = 0) then 29 else 28
  else if month = 4 ∨ month = 6 ∨ month = 9 ∨ month = 11 then 30
  else 31

/-- A date, as the characters it is written with. -/
def date? : Scan (List Char) := fun cs => do
  let year := cs.take 4
  if !(year.length = 4 ∧ year.all Char.isDigit) then none
  let cs ← after? '-' (cs.drop 4)
  let (month, _) ← twoDigits? 1 12 cs
  let rest ← after? '-' (cs.drop 2)
  let (_, end') ← twoDigits? 1 (daysOf (Number.Binary.valueOf year) month) rest
  some (year ++ ['-'] ++ cs.take 2 ++ ['-'] ++ rest.take 2, end')

/-- A fraction of a second: nine digits count, and zeros at their end do not. -/
def fraction? : Scan (List Char)
  | '.' :: cs =>
    let ds := cs.takeWhile Char.isDigit
    let kept := ((ds.take 9).reverse.dropWhile (· == '0')).reverse
    if ds.isEmpty then none
    else some (if kept.isEmpty then [] else '.' :: kept, cs.drop ds.length)
  | cs => some ([], cs)

/-- A time of day, in its standard form. -/
def time? : Scan (List Char) := fun cs => do
  let (_, rest) ← twoDigits? 0 23 cs
  let minutes ← after? ':' rest
  let (_, rest) ← twoDigits? 0 59 minutes
  let seconds ← after? ':' rest
  let (_, rest) ← twoDigits? 0 60 seconds
  let (fraction, rest) ← match rest with
    | '.' :: d :: _ => if d.isDigit then fraction? rest else some ([], rest)
    | _ => some ([], rest)
  some (cs.take 2 ++ [':'] ++ minutes.take 2 ++ [':'] ++ seconds.take 2 ++ fraction, rest)

/-- The distance of a time zone from the prime meridian, in its standard form; nothing when there is
none. -/
def zone? : Scan (List Char)
  | 'Z' :: cs => some (['Z'], cs)
  | 'z' :: cs => some (['Z'], cs)
  | c :: cs =>
    if c = '+' ∨ c = '-' then do
      let (hour, rest) ← twoDigits? 0 23 cs
      let minutes ← after? ':' rest
      let (minute, rest) ← twoDigits? 0 59 minutes
      let sign := if hour = 0 ∧ minute = 0 then '+' else c
      some (sign :: cs.take 2 ++ [':'] ++ minutes.take 2, rest)
    else some ([], c :: cs)
  | [] => some ([], [])

/-- What begins like a date-time, so that it can be nothing else. -/
def beginsDatetime (cs : List Char) : Bool :=
  ((cs.take 4).length = 4 ∧ (cs.take 4).all Char.isDigit ∧ cs[4]? = some '-')
    || ((twoDigits? 0 23 cs).isSome ∧ cs[2]? = some ':')

/-- A date, a time, or both with or without a zone. -/
def datetime? : Scan String := fun cs =>
  match date? cs with
  | none => (time? cs).map fun (t, cs) => (String.ofList t, cs)
  | some (d, rest) =>
    match rest with
    | c :: more =>
      if (c = 'T' ∨ c = 't' ∨ c = ' ') ∧ beginsDatetime more ∧ more[2]? = some ':' then do
        let (t, rest) ← time? more
        let (z, rest) ← zone? rest
        some (String.ofList (d ++ ['T'] ++ t ++ z), rest)
      else some (String.ofList d, rest)
    | [] => some (String.ofList d, [])

/-- Digits, among which single underscores may stand.  Returns the characters taken. -/
def groupedDigits (isDigit : Char → Bool) : Bool → List Char → Option (List Char × List Char)
  | afterDigit, [] => if afterDigit then some ([], []) else none
  | afterDigit, c :: cs =>
    if isDigit c then do
      let (ds, cs) ← groupedDigits isDigit true cs
      some (c :: ds, cs)
    else if c = '_' ∧ afterDigit then groupedDigits isDigit false cs
    else if afterDigit then some ([], c :: cs)
    else none

/-- The whole part of a number: a zero alone, or digits that do not begin with one. -/
def wholeDigits? : Scan (List Char)
  | '0' :: cs => some (['0'], cs)
  | cs => groupedDigits Char.isDigit false cs

/-- The whole number of digits in some base, if it is within the range of 64-bit integers. -/
def inRange? (n : Int) : Option Int :=
  if -9223372036854775808 ≤ n ∧ n < 9223372036854775808 then some n else none

/-- A whole number after the letter of its base. -/
def basedInteger? (base : Nat) (isDigit : Char → Bool) : Scan Value := fun cs => do
  let (ds, cs) ← groupedDigits isDigit false cs
  let n := ds.foldl (fun n c => n * base + (hexValue? [c]).getD 0) 0
  let n ← inRange? n
  some (.integer n, cs)

/-- The power of ten of a decimal, as the characters it is written with. -/
def powerChars? : Scan (List Char)
  | c :: cs =>
    if c = 'e' ∨ c = 'E' then do
      let (sign, cs) := match cs with
        | '+' :: cs => (['+'], cs)
        | '-' :: cs => (['-'], cs)
        | cs => ([], cs)
      let (ds, cs) ← groupedDigits Char.isDigit false cs
      some ('e' :: sign ++ ds, cs)
    else some ([], c :: cs)
  | [] => some ([], [])

/-- A number in decimal digits: whole, or with a fraction, a power of ten or both. -/
def decimal? (sign : List Char) : Scan Value := fun cs => do
  let (whole, cs) ← wholeDigits? cs
  let (fraction, cs) ← match cs with
    | '.' :: cs => (groupedDigits Char.isDigit false cs).map fun (ds, cs) => ('.' :: ds, cs)
    | cs => some ([], cs)
  let (power, cs) ← powerChars? cs
  if fraction.isEmpty && power.isEmpty then
    let n : Int := Number.Binary.valueOf whole
    let n ← inRange? (if sign = ['-'] then -n else n)
    some (.integer n, cs)
  else
    let x ← Number.Binary.ofText? (sign ++ whole ++ fraction ++ power)
    if x = .infinite false then none else some (.float x, cs)

/-- A number. -/
def number? : Scan Value := fun cs =>
  match cs with
  | '0' :: 'x' :: cs => basedInteger? 16 (fun c => (hexValue? [c]).isSome) cs
  | '0' :: 'o' :: cs => basedInteger? 8 (fun c => '0' ≤ c ∧ c ≤ '7') cs
  | '0' :: 'b' :: cs => basedInteger? 2 (fun c => c = '0' ∨ c = '1') cs
  | cs =>
    let (sign, rest) := match cs with
      | '+' :: cs => (['+'], cs)
      | '-' :: cs => (['-'], cs)
      | cs => ([], cs)
    match rest with
    | 'i' :: 'n' :: 'f' :: cs => some (.float (.infinite (sign = ['-'])), cs)
    | 'n' :: 'a' :: 'n' :: cs => some (.float .nan, cs)
    | rest => decimal? sign rest

/-- A value that is neither an array nor a table. -/
def scalar? : Scan Value := fun cs =>
  match cs with
  | 't' :: 'r' :: 'u' :: 'e' :: cs => some (.boolean true, cs)
  | 'f' :: 'a' :: 'l' :: 's' :: 'e' :: cs => some (.boolean false, cs)
  | '"' :: _ => (quotedText? cs).map fun (s, cs) => (.string s, cs)
  | '\'' :: _ => (quotedText? cs).map fun (s, cs) => (.string s, cs)
  | cs =>
    if beginsDatetime cs then (datetime? cs).map fun (s, cs) => (.datetime s, cs)
    else number? cs

end Toml
end ChatConsole
