/-
# Reading a line

The editor takes one key after another.  Most keys change the line; some are for the rest of the
client; some end the read.  A read also ends when the terminal has changed its size, of which the
editor takes note before it waits for a key, and when no further key can come.
-/

import ChatConsole.LineEditor.Basic

namespace ChatConsole
namespace LineEditor

open Markup (Mark)

variable {σ : Type} [Client σ]

/-- An editor at work in its client. -/
abbrev At (σ : Type) := LineEditor × σ

/-- Ring for a refusal, unless refusals are silent. -/
def ring (e : LineEditor) (s : σ) : σ :=
  if e.quiet then s else Client.beep s

/-- Make a change that may be refused, and ring if it is. -/
def attempt (change? : LineEditor → Option LineEditor) : At σ → At σ
  | (e, s) =>
    match change? e with
    | some e => (e, s)
    | none => (e, e.ring s)

/-- Insert a character, or ring when the draft is full. -/
def insert (c : Char) : At σ → At σ :=
  attempt (·.insert? c)

/-- Insert the characters of a text. -/
def type (cs : List Char) (a : At σ) : At σ :=
  cs.foldl (fun a c => insert c a) a

/-- Report why nothing is completed, and ring. -/
def fail (why : Completion.Failure) : At σ → At σ
  | (e, s) => (e, e.ring (Client.report why.message s))

/-- Go on with a round of completion, or start one, and put the completed line in the place of the
text. -/
def tab : At σ → At σ
  | (e, s) =>
    if e.draft.size = 0 || e.draft.isInside || e.draft.chars.any (Mark.ofChar? · |>.isSome) then
      fail .noMagic ({ e with round := none }, s)
    else
      let (result, round, s) :=
        Completion.press Client.candidates e.round e.draft.chars (Client.inChannel s) s
      let e := { e with round }
      match result with
      | .ok line => type line.toList (e.clear, s)
      | .error why => fail why (e, s)

/-- Pass a request to scroll on, and ring if nothing can be scrolled. -/
def scroll (request : ScrollRequest) : At σ → At σ
  | (e, s) =>
    let (moved, s) := Client.scroll request s
    (e, if moved then s else e.ring s)

/-- Give the focus to another window and take its prompt. -/
def switchWindow (forward : Bool) : At σ → At σ
  | (e, s) =>
    match Client.switchWindow forward s with
    | (some prompt, s) => (e.setPrompt prompt, s)
    | (none, s) => (e, s)

/-- The mark that a function key inserts. -/
def markOf? : Nat → Option Mark
  | 5 => some .blink
  | 6 => some .bold
  | 7 => some .color
  | 8 => some .plain
  | 9 => some .reverse
  | 10 => some .underline
  | _ => none

/-- What a key that does not end the read does. -/
def apply (key : Key) (a : At σ) : At σ :=
  match key with
  | .control 'p' => switchWindow false a
  | .control 'n' => switchWindow true a
  | .left | .control 'b' => attempt left? a
  | .right | .control 'f' => attempt right? a
  | .backspace => attempt backspace? a
  | .delete | .control 'd' => attempt delete? a
  | .home | .control 'a' => (a.1.home, a.2)
  | .lineEnd | .control 'e' => (a.1.toEnd, a.2)
  | .function n =>
    match markOf? n with
    | some m => insert m.char a
    | none => a
  | .pageUp => scroll .pageUp a
  | .pageDown => scroll .pageDown a
  | .altUp => scroll .panelUp a
  | .altDown => scroll .panelDown a
  | .tab => tab a
  | .char c => if Text.isControl c then a else insert c a
  | _ => a

/-- Take a key.  Every key but the tab key ends a round of completion. -/
def handle (key : Key) : At σ → At σ × Option Outcome
  | (e, s) =>
    let e := if key = .tab then e else { e with round := none }
    match key with
    | .up => ((e, s), some (.cancelled .historyBack))
    | .down => ((e, s), some (.cancelled .historyForward))
    | .bell => ((e, s), some (.cancelled .bell))
    | .enter =>
      let (e, outcome) := e.submit
      ((e, Client.display e.panel s), some outcome)
    | key => (apply key (e, s), none)

/-- What waiting for a key may bring. -/
inductive Arrival where
  | key (k : Key)
  /-- No key for a while. -/
  | pause
  /-- No key for a while, and the terminal changed its size meanwhile. -/
  | resized
  /-- No key ever again. -/
  | closed
  deriving DecidableEq, Repr

/-- What a read leaves. -/
structure Reading (σ : Type) where
  outcome : Outcome
  editor : LineEditor
  client : σ
  /-- Whether a change of size is still to be noted. -/
  resized : Bool
  /-- How often the read waited for a key. -/
  waits : Nat
  /-- What would have come next. -/
  rest : List Arrival

/-- Go on with a read that has waited `waits` times. -/
def resume (resized : Bool) (waits : Nat) (arrivals : List Arrival) : At σ → Reading σ
  | (e, s) =>
    if resized then ⟨.cancelled .resize, e, s, false, waits, arrivals⟩
    else
      match arrivals with
      | [] => ⟨.cancelled .inputClosed, e, s, false, waits + 1, []⟩
      | .closed :: rest => ⟨.cancelled .inputClosed, e, s, false, waits + 1, rest⟩
      | .pause :: rest => resume false (waits + 1) rest (e, s)
      | .resized :: rest => resume true (waits + 1) rest (e, s)
      | .key k :: rest =>
        match handle k (e, s) with
        | ((e, s), some outcome) => ⟨outcome, e, s, false, waits + 1, rest⟩
        | ((e, s), none) => resume false (waits + 1) rest (e, Client.display e.panel s)

/-- Read a line: show the row, then take what arrives until the read ends. -/
def read (resized : Bool) (arrivals : List Arrival) : At σ → Reading σ
  | (e, s) => resume resized 0 arrivals (e, Client.display e.panel s)

end LineEditor
end ChatConsole
