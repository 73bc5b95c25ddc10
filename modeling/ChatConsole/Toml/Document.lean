/-
# Reading a settings file

A document is a list of lines: entries, headers that say which table the entries below belong to,
blanks and comments.  Tables grow as the lines come.  What was written out once cannot be written
again: no key twice in a table, no table twice under a header, and a key with points only grows
tables that such keys have made.
-/

import ChatConsole.Toml.Scan

namespace ChatConsole
namespace Toml

/-- A part of a document that is still growing. -/
inductive Node where
  /-- A value; it is complete. -/
  | leaf (v : Value)
  /-- A table.  It is implicit until a header names it, and dotted if a key with points made it. -/
  | table (implicit dotted : Bool) (entries : List (String × Node))
  /-- The tables under the headers of an array, the last first. -/
  | tables (last : List (String × Node)) (earlier : List Node)

/-- The entries of a growing table. -/
abbrev Entries := List (String × Node)

/-- A growing table, and whether a key with points made it. -/
structure Growing where
  dotted : Bool := false
  entries : Entries := []

/-- The entry of a key. -/
def Entries.get? (es : Entries) (key : String) : Option Node :=
  (es.find? (·.1 == key)).map Prod.snd

/-- The entries with another node for a key. -/
def Entries.set (es : Entries) (key : String) (n : Node) : Entries :=
  (key, n) :: es.filter (·.1 != key)

/-- Change the table at the end of a path, making the tables on the way.  A path of a key with points
(`dotted`) may not enter a table that is not implicit; no path enters a value.  A path enters the
last table of an array. -/
def change? (dotted : Bool) (f : Growing → Option Entries) :
    List String → Growing → Option Entries
  | [], g => f g
  | key :: path, g =>
    match Entries.get? g.entries key with
    | none =>
      (change? dotted f path ⟨dotted, []⟩).map fun es => Entries.set g.entries key (.table true dotted es)
    | some (.leaf _) => none
    | some (.table implicit d es) =>
      if dotted && !implicit then none
      else (change? dotted f path ⟨d, es⟩).map fun es => Entries.set g.entries key (.table implicit d es)
    | some (.tables last earlier) =>
      (change? dotted f path ⟨false, last⟩).map fun es => Entries.set g.entries key (.tables es earlier)

/-- Add an entry under a key, which may have points. -/
def enter? (keys : List String) (v : Value) (g : Growing) : Option Entries :=
  match keys.getLast? with
  | none => none
  | some last =>
    change? true (fun g =>
      if g.dotted = (keys.length == 1) then none
      else if (Entries.get? g.entries last).isSome then none
      else some (Entries.set g.entries last (.leaf v))) keys.dropLast g

/-- Open the table that a header names. -/
def openTable? (keys : List String) (root : Entries) : Option Entries :=
  match keys.getLast? with
  | none => none
  | some last =>
    change? false (fun g =>
      match Entries.get? g.entries last with
      | none => some (Entries.set g.entries last (.table false false []))
      | some (.table true false es) => some (Entries.set g.entries last (.table false false es))
      | some _ => none) keys.dropLast ⟨false, root⟩

/-- Begin the next table of the array that a header names. -/
def openNext? (keys : List String) (root : Entries) : Option Entries :=
  match keys.getLast? with
  | none => none
  | some last =>
    change? false (fun g =>
      match Entries.get? g.entries last with
      | none => some (Entries.set g.entries last (.tables [] []))
      | some (.tables es earlier) =>
        some (Entries.set g.entries last (.tables [] (.table false false es :: earlier)))
      | some _ => none) keys.dropLast ⟨false, root⟩

mutual

/-- The value of a node that has stopped growing. -/
def Node.value : Node → Value
  | .leaf v => v
  | .table _ _ es => .table (Table.ofList (entryValues es))
  | .tables last earlier =>
    .array ((nodeValues earlier).reverse ++ [.table (Table.ofList (entryValues last))])

/-- The values of entries. -/
def entryValues : List (String × Node) → List (String × Value)
  | [] => []
  | (k, n) :: rest => (k, n.value) :: entryValues rest

/-- The values of nodes. -/
def nodeValues : List Node → List Value
  | [] => []
  | n :: ns => n.value :: nodeValues ns

end

mutual

/-- A value, at most `depth` arrays and tables deep; `fuel` bounds the steps. -/
def value? : Nat → Nat → Scan Value
  | 0, _, _ => none
  | fuel + 1, depth, cs =>
    match cs with
    | '[' :: cs =>
      if depth = 0 then none
      else (items? fuel (depth - 1) cs).map fun (vs, cs) => (.array vs, cs)
    | '\x7b' :: cs =>
      if depth = 0 then none
      else
        match skipSpaces cs with
        | '\x7d' :: cs => some (.table [], cs)
        | cs =>
          (pairs? fuel (depth - 1) {} cs).map fun (es, cs) =>
            (.table (Table.ofList (entryValues es)), cs)
    | cs => scalar? cs

/-- The items of an array up to its end. -/
def items? : Nat → Nat → Scan (List Value)
  | 0, _, _ => none
  | fuel + 1, depth, cs => do
    let cs ← skipLayout cs
    match cs with
    | ']' :: cs => some ([], cs)
    | cs => do
      let (v, cs) ← value? fuel depth cs
      let cs ← skipLayout cs
      match cs with
      | ']' :: cs => some ([v], cs)
      | ',' :: cs => do
        let (vs, cs) ← items? fuel depth cs
        some (v :: vs, cs)
      | _ => none

/-- The entries of a table between braces, up to its end. -/
def pairs? : Nat → Nat → Growing → Scan Entries
  | 0, _, _, _ => none
  | fuel + 1, depth, g, cs => do
    let (keys, cs) ← key? cs
    let cs ← after? '=' cs
    let (v, cs) ← value? fuel depth (skipSpaces cs)
    let es ← enter? keys v g
    match skipSpaces cs with
    | '\x7d' :: cs => some (es, cs)
    | ',' :: cs => pairs? fuel depth { g with entries := es } cs
    | _ => none

end

/-- A value. -/
def value : Scan Value := fun cs =>
  value? (4 * cs.length + 4) (depthLimit - 1) cs

/-- The keys between the brackets of a header, and the rest of the text behind its line. -/
def header? (closing : List Char) : Scan (List String) := fun cs => do
  let (keys, cs) ← key? cs
  if !closing.isPrefixOf cs then none
  let cs ← afterLine? (cs.drop closing.length)
  some (keys, cs)

/-- Take the lines of a document.  The entries of a line go to the table at `path`; `fuel` is at least
the length of the text. -/
def lines? : Nat → List String → Entries → List Char → Option Entries
  | 0, _, root, cs => if cs.isEmpty then some root else none
  | fuel + 1, path, root, cs =>
    match skipSpaces cs with
    | [] => some root
    | '#' :: cs => (afterLine? ('#' :: cs)).bind (lines? fuel path root)
    | '\n' :: cs => lines? fuel path root cs
    | '\r' :: '\n' :: cs => lines? fuel path root cs
    | '[' :: '[' :: cs => do
      let (keys, cs) ← header? [']', ']'] cs
      let root ← openNext? keys root
      lines? fuel keys root cs
    | '[' :: cs => do
      let (keys, cs) ← header? [']'] cs
      let root ← openTable? keys root
      lines? fuel keys root cs
    | cs => do
      let (keys, cs) ← key? cs
      let cs ← after? '=' cs
      let (v, cs) ← value (skipSpaces cs)
      let cs ← afterLine? cs
      let root ← change? false (enter? keys v) path ⟨false, root⟩
      lines? fuel path root cs

/-- The table of a document, if the text is one.  A byte order mark at its start does not count. -/
def read? (text : String) : Option Table :=
  let cs := match text.toList with
    | '\ufeff' :: cs => cs
    | cs => cs
  (lines? (cs.length + 1) [] [] cs).map fun es => Table.ofList (entryValues es)

end Toml
end ChatConsole
