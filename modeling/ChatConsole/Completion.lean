/-
# Completing the input line

The first press of the tab key says what the line asks for and puts the first candidate in its
place.  Each further press puts the next one there; after the last, completion starts over.
-/

import ChatConsole.Command.Catalog
import ChatConsole.Text.Case

namespace ChatConsole
namespace Completion

/-- What a line asks for. -/
inductive Kind where
  | help
  | query
  | setting
  | whois
  | command
  /-- The nick of a member of the channel. -/
  | member
  deriving DecidableEq, Repr

/-- Why nothing is completed. -/
inductive Failure where
  /-- The line asks for nothing, or nothing matches. -/
  | noMagic
  | noMoreMatches
  | notInChannel
  deriving DecidableEq, Repr

/-- The wording of a failure. -/
def Failure.message : Failure → String
  | noMagic => "no magic"
  | noMoreMatches => "no more matches"
  | notInChannel => "not in irc channel"

namespace Kind

/-- The text kept in front of a candidate. -/
def lead : Kind → String
  | help => "/help "
  | query => "/query "
  | setting => "/set "
  | whois => "/whois "
  | command => "/"
  | member => ""

/-- The text put after a candidate. -/
def tail : Kind → String
  | member => ": "
  | _ => ""

/-- Whether the candidates are the members of a channel, so that one must be active. -/
def needsChannel : Kind → Bool
  | query => true
  | whois => true
  | _ => false

/-- The kind of command whose argument a line asks for. -/
def ofLead? (line : List Char) : Option Kind :=
  [help, query, setting, whois].find? fun k => k.lead.toList.isPrefixOf line

/-- What a line asks for. -/
def classify (line : List Char) (inChannel : Bool) : Except Failure Kind :=
  match ofLead? line with
  | some k => if k.needsChannel && !inChannel then .error .notInChannel else .ok k
  | none =>
    if line.head? = some '/' then
      if line.length > 1 then .ok command else .error .noMagic
    else if inChannel then .ok member
    else .error .noMagic

/-- The line for a candidate. -/
def render (k : Kind) (candidate : String) : String :=
  k.lead ++ candidate ++ k.tail

/-- The beginning of the word that a line of this kind asks for. -/
def wanted (k : Kind) (line : List Char) : String :=
  String.ofList (line.drop k.lead.length)

end Kind

/-- The items that begin with a text, letter case aside, in their order. -/
def matching (items : List String) (start : String) : List String :=
  let start := Text.lowercase start.toList
  items.filter fun item => start.isPrefixOf (Text.lowercase item.toList)

/-- The commands that begin with a text. -/
def matchingCommands (start : String) : List String :=
  matching (Command.catalog.map Prod.fst) start

/-- A round through the candidates of a line. -/
structure Round where
  kind : Kind
  /-- The candidates still to come. -/
  rest : List String
  deriving DecidableEq, Repr

/-- The next line of a round, and the round after it; none at its end. -/
def Round.next? (r : Round) : Option (String × Round) :=
  match r.rest with
  | [] => none
  | candidate :: rest => some (r.kind.render candidate, { r with rest })

/-- Press the tab key on a line: the line that takes its place, or why there is none, and the round
in progress afterwards.  The candidates are asked for only by the press that starts a round. -/
def press {σ : Type} (ask : Kind → String → σ → List String × σ) (round : Option Round)
    (line : List Char) (inChannel : Bool) (s : σ) : Except Failure String × Option Round × σ :=
  match round with
  | some round =>
    match round.next? with
    | some (line, round) => (.ok line, some round, s)
    | none => (.error .noMoreMatches, none, s)
  | none =>
    match Kind.classify line inChannel with
    | .error why => (.error why, none, s)
    | .ok kind =>
      let (found, s) := ask kind (kind.wanted line) s
      match Round.next? ⟨kind, found⟩ with
      | some (line, round) => (.ok line, some round, s)
      | none => (.error .noMagic, none, s)

end Completion
end ChatConsole
