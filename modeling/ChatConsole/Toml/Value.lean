/-
# Values of a settings file

A settings file is TOML: its values are texts, numbers, truth values, date-times, arrays and tables.
A value has a text of its own, on one line where it can be: a table is written between braces, its
plain values before its arrays of tables and these before its tables, each group in the order of
keys.
-/

import ChatConsole.Number.Binary

namespace ChatConsole
namespace Toml

/-- A value. -/
inductive Value where
  | string (s : String)
  | integer (n : Int)
  | float (x : Number.Binary)
  | boolean (b : Bool)
  /-- A date, a time or both, in its standard form. -/
  | datetime (text : String)
  | array (items : List Value)
  /-- Entries in the order of their keys, no key twice. -/
  | table (entries : List (String × Value))

/-- A table: entries in the order of their keys, no key twice. -/
abbrev Table := List (String × Value)

instance : Inhabited Value := ⟨.string ""⟩

namespace Table

/-- The value of a key. -/
def get? (t : Table) (key : String) : Option Value :=
  (t.find? (·.1 == key)).map Prod.snd

/-- Set the value of a key. -/
def insert (key : String) (v : Value) : Table → Table
  | [] => [(key, v)]
  | (k, w) :: rest =>
    if key < k then (key, v) :: (k, w) :: rest
    else if key = k then (key, v) :: rest
    else (k, w) :: insert key v rest

/-- A table of entries, of which a later one replaces an earlier one with its key. -/
def ofList (entries : List (String × Value)) : Table :=
  entries.foldl (fun t e => t.insert e.1 e.2) []

end Table

namespace Value

def asString? : Value → Option String
  | string s => some s
  | _ => none

def asInteger? : Value → Option Int
  | integer n => some n
  | _ => none

def isTable : Value → Bool
  | table _ => true
  | _ => false

/-- Whether the value is an array with a table among its items. -/
def hasTables : Value → Bool
  | array items => items.any isTable
  | _ => false

/-- Position of a value's group in the text of a table. -/
def group (v : Value) : Nat :=
  if v.isTable then 2 else if v.hasTables then 1 else 0

end Value

/-- What a text asks of the way it is quoted. -/
structure QuoteNeeds where
  /-- A control character that only an escape can write. -/
  control : Bool
  backslash : Bool
  newline : Bool
  /-- The longest run of single quotes. -/
  singles : Nat
  /-- The longest run of double quotes. -/
  doubles : Nat

/-- The longest run of a character, after `current` of them. -/
def longestRun (q : Char) (current : Nat) : List Char → Nat
  | [] => current
  | c :: cs => if c = q then longestRun q (current + 1) cs else max current (longestRun q 0 cs)

/-- Whether only an escape can write a character. -/
def needsEscape (c : Char) : Bool :=
  (c.toNat < 0x20 || c.toNat == 0x7F) && c != '\t' && c != '\n'

def QuoteNeeds.of (cs : List Char) : QuoteNeeds where
  control := cs.any needsEscape
  backslash := cs.contains '\\'
  newline := cs.contains '\n'
  singles := longestRun '\'' 0 cs
  doubles := longestRun '"' 0 cs

/-- The escape of a character by its code point, in four digits. -/
def codeEscape (c : Char) : List Char :=
  let ds := (Nat.toDigits 16 c.toNat).map Char.toUpper
  ['\\', 'u'] ++ List.replicate (4 - ds.length) '0' ++ ds

/-- The characters of a text between double quotes, of which `free` may follow one another
unescaped after the `run` before them; `multi` says whether line breaks may stand. -/
def escaped (free : Nat) (multi : Bool) (run : Nat) : List Char → List Char
  | [] => []
  | c :: cs =>
    if c = '"' then
      if run < free then '"' :: escaped free multi (run + 1) cs
      else '\\' :: '"' :: escaped free multi 0 cs
    else
      let form :=
        if c = '\x08' then ['\\', 'b']
        else if c = '\t' then ['\\', 't']
        else if c = '\n' then if multi then ['\n'] else ['\\', 'n']
        else if c = '\x0c' then ['\\', 'f']
        else if c = '\r' then ['\\', 'r']
        else if c = '\\' then ['\\', '\\']
        else if needsEscape c then codeEscape c
        else [c]
      form ++ escaped free multi 0 cs

/-- A text on one line between double quotes. -/
def basic (cs : List Char) : List Char :=
  '"' :: escaped 0 false 0 cs ++ ['"']

/-- A text on one line between single quotes. -/
def literal (cs : List Char) : List Char :=
  '\'' :: cs ++ ['\'']

/-- Three quotes on either side of a body, which begins on a new line if it has line breaks. -/
def tripled (q : Char) (newline : Bool) (body : List Char) : List Char :=
  [q, q, q] ++ (if newline then ['\n'] else []) ++ body ++ [q, q, q]

/-- A text in quotes: plain double quotes if they do, else single ones, else three of a kind, and
escapes only when nothing else will do. -/
def quoteText (cs : List Char) : List Char :=
  let n := QuoteNeeds.of cs
  if !n.control && !n.backslash && n.doubles == 0 && !n.newline then basic cs
  else if !n.control && n.singles == 0 && !n.newline then literal cs
  else if !n.control && !n.backslash && n.doubles ≤ 2 then tripled '"' n.newline (escaped 2 true 0 cs)
  else if !n.control && n.singles ≤ 2 then tripled '\'' n.newline cs
  else if n.newline then tripled '"' true (escaped 2 true 0 cs)
  else basic cs

/-- Whether a character may stand in a key without quotes. -/
def isBareKeyChar (c : Char) : Bool :=
  c.isAlphanum || c == '_' || c == '-'

/-- A key: bare if it can be, else in quotes on one line. -/
def quoteKey (key : String) : List Char :=
  let cs := key.toList
  let n := QuoteNeeds.of cs
  if !cs.isEmpty && cs.all isBareKeyChar then cs
  else if !n.control && !n.newline && !n.backslash && n.doubles == 0 then basic cs
  else if !n.control && !n.newline && n.singles == 0 then literal cs
  else basic cs

/-- Texts with a comma and a space between them. -/
def commaSeparated : List (List Char) → List Char
  | [] => []
  | [x] => x
  | x :: rest => x ++ [',', ' '] ++ commaSeparated rest

mutual

/-- The text of a value inside another. -/
def Value.inner : Value → List Char
  | .string s => quoteText s.toList
  | .integer n => (toString n).toList
  | .float x => x.text.toList
  | .boolean b => (if b then "true" else "false").toList
  | .datetime text => text.toList
  | .array items => '[' :: commaSeparated (innerItems items) ++ [']']
  | .table entries =>
    let es := innerEntries entries
    let at' (g : Nat) := (es.filter (·.1 == g)).map Prod.snd
    if es.isEmpty then ['\x7b', '\x7d']
    else ['\x7b', ' '] ++ commaSeparated (at' 0 ++ at' 1 ++ at' 2) ++ [' ', '\x7d']

/-- The texts of the items of an array. -/
def innerItems : List Value → List (List Char)
  | [] => []
  | v :: vs => v.inner :: innerItems vs

/-- The texts of the entries of a table, each with the group of its value. -/
def innerEntries : List (String × Value) → List (Nat × List Char)
  | [] => []
  | (k, v) :: rest => (v.group, quoteKey k ++ [' ', '=', ' '] ++ v.inner) :: innerEntries rest

end

/-- The key under which a date-time that stands alone is written as a table. -/
def datetimeKey : String := "$__toml_private_datetime"

/-- The text of a value.  A date-time that stands alone is written as a table of one entry. -/
def Value.text (v : Value) : String :=
  String.ofList <| match v with
    | .datetime text => (Value.table [(datetimeKey, .string text)]).inner
    | v => v.inner

end Toml
end ChatConsole
