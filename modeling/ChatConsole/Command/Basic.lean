/-
# What a submitted line says

A line that begins with a slash is a command: a word and, after a space, what it applies to.  A word
that is a number asks for the window of that number.  Any other line is said in the conversation.  A
blank line says nothing.
-/

import ChatConsole.Text.Blank

namespace ChatConsole

/-- What a submitted line says. -/
inductive Command where
  | say (text : String)
  /-- Give the focus to a window. -/
  | focus (number : Nat)
  | quit
  | clear
  | close
  /-- Tell of a command, or of all if none is named. -/
  | help (topic : String)
  | join (label : String)
  | log
  | names
  | query (nick : String)
  | set (key : String)
  | topic (title : String)
  | whois (nick : String)
  | unknown (word : String)
  deriving DecidableEq, Repr

namespace Command

/-- One more than the largest number that counts as one. -/
def numberLimit : Nat := Nat.pow 2 64

/-- The number that digits stand for, after the digits of `n`. -/
def numberFrom? (n : Nat) : List Char → Option Nat
  | [] => some n
  | c :: cs =>
    if c.isDigit then
      let n := 10 * n + (c.toNat - '0'.toNat)
      if n < numberLimit then numberFrom? n cs else none
    else none

/-- The number that a word is; a plus sign may stand before it. -/
def number? (word : List Char) : Option Nat :=
  match word with
  | '+' :: c :: cs => numberFrom? 0 (c :: cs)
  | c :: cs => numberFrom? 0 (c :: cs)
  | [] => none

/-- The command of a word and what it applies to. -/
def ofWord (word : List Char) (argument : String) : Command :=
  match number? word with
  | some n => focus n
  | none =>
    match String.ofList (word.map Char.toLower) with
    | "quit" => quit
    | "clear" => clear
    | "close" => close
    | "help" => help argument
    | "join" => join argument
    | "log" => log
    | "names" => names
    | "query" => query argument
    | "set" => set argument
    | "topic" => topic argument
    | "whois" => whois argument
    | _ => unknown (String.ofList word)

/-- What a line says, if it says anything. -/
def ofLine? (line : String) : Option Command :=
  match Text.trim line.toList with
  | [] => none
  | '/' :: rest =>
    let argument := Text.trim ((rest.dropWhile (· ≠ ' ')).drop 1)
    some (ofWord (rest.takeWhile (· ≠ ' ')) (String.ofList argument))
  | text => some (say (String.ofList text))

end Command
end ChatConsole
