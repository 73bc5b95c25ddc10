/-
# The members of a channel

A roster is a set of nicks, each with a rank, and no two alike.  A new member is stored last, and the
last member takes the place of one that leaves.  They are shown by rank and then by nick, letter case
aside.  The panel at the right edge of a channel shows one page of them, each row beginning with a
vertical line.
-/

import ChatConsole.Grid.Basic
import ChatConsole.Text.Case

namespace ChatConsole

/-- The rank of a member, highest first. -/
inductive Rank where
  | owner
  | superOp
  | op
  | halfOp
  | voice
  | normal
  deriving DecidableEq, Repr

namespace Rank

/-- The sign of a rank. -/
def symbol : Rank → Char
  | owner => '~'
  | superOp => '&'
  | op => '@'
  | halfOp => '%'
  | voice => '+'
  | normal => ' '

/-- The rank a sign gives; an ordinary member has none. -/
def ofSymbol? (c : Char) : Option Rank :=
  if c = '~' then some owner
  else if c = '&' then some superOp
  else if c = '@' then some op
  else if c = '%' then some halfOp
  else if c = '+' then some voice
  else none

/-- Position in the order of ranks. -/
def level : Rank → Nat
  | owner => 0
  | superOp => 1
  | op => 2
  | halfOp => 3
  | voice => 4
  | normal => 5

end Rank

/-- A member of a channel. -/
structure Member where
  nick : String
  rank : Rank
  deriving DecidableEq, Repr

namespace Member

/-- The order in which members are shown: by rank, then by nick with ASCII letters folded, a nick
before its extensions. -/
def le (a b : Member) : Bool :=
  a.rank.level < b.rank.level
    || (a.rank.level == b.rank.level && !decide (Text.folded b.nick < Text.folded a.nick))

/-- A member as the panel shows it. -/
def shown (m : Member) : List Char :=
  m.rank.symbol :: m.nick.toList

/-- The member an entry of a names list stands for: a sign of rank before the nick, or none. -/
def ofEntry (entry : String) : Member :=
  match entry.toList with
  | [] => ⟨entry, .normal⟩
  | c :: rest =>
    match Rank.ofSymbol? c with
    | some rank => ⟨String.ofList rest, rank⟩
    | none => ⟨entry, .normal⟩

end Member

/-- The members of a channel, and the position of the panel in their order. -/
structure Roster where
  members : List Member := []
  /-- Members above the panel. -/
  top : Nat := 0
  deriving DecidableEq, Repr

namespace Roster

/-- Columns of the longest nick shown in full. -/
def maxNickColumns : Nat := 16

/-- Rows moved by one scroll of the panel. -/
def scrollStep : Nat := 10

/-- The line at the left edge of the panel. -/
def edge : Char := '│'

/-- Where the first member whose nick is alike is stored. -/
def position? (r : Roster) (nick : String) : Option Nat :=
  r.members.findIdx? fun m => Text.alike m.nick nick

/-- The member whose nick is alike. -/
def get? (r : Roster) (nick : String) : Option Member :=
  (r.position? nick).bind fun i => r.members[i]?

/-- Whether a nick alike is a member's. -/
def contains (r : Roster) (nick : String) : Bool :=
  (r.position? nick).isSome

/-- Number of members. -/
def size (r : Roster) : Nat :=
  r.members.length

/-- Add a member.  Refused for an empty nick and for one that is alike a member's. -/
def add? (r : Roster) (m : Member) : Option Roster :=
  if m.nick.isEmpty || r.contains m.nick then none
  else some { r with members := r.members ++ [m] }

/-- Change the member whose nick is alike.  Refused when there is none. -/
def modify? (r : Roster) (nick : String) (f : Member → Member) : Option Roster :=
  (r.position? nick).map fun i => { r with members := r.members.modify i f }

/-- Members without the one at a position, whose place the last of them takes. -/
def swapRemove (members : List Member) (i : Nat) : List Member :=
  match members.getLast? with
  | some last => (members.set i last).dropLast
  | none => []

/-- Remove a member.  Refused when there is none. -/
def remove? (r : Roster) (nick : String) : Option Roster :=
  (r.position? nick).map fun i => { r with members := swapRemove r.members i }

/-- Give a member another nick and keep its rank.  Refused for an empty nick and for the nick of
another member. -/
def rename? (r : Roster) (old new : String) : Option Roster :=
  if new.isEmpty || (r.contains new && !Text.alike new old) then none
  else r.modify? old fun m => { m with nick := new }

/-- Give a member another rank. -/
def setRank? (r : Roster) (nick : String) (rank : Rank) : Option Roster :=
  r.modify? nick fun m => { m with rank }

/-- Number of members of a rank. -/
def count (r : Roster) (rank : Rank) : Nat :=
  r.members.countP (·.rank == rank)

/-- The members in the order they are shown. -/
def sorted (r : Roster) : List Member :=
  r.members.mergeSort Member.le

/-- Columns of the panel: the longest nick, within bounds, after the line and the sign. -/
def panelWidth (r : Roster) : Nat :=
  min ((r.members.map fun m => Text.columnsOf m.nick.toList).foldl max 0) maxNickColumns + 2

/-- Move the panel towards the first members. -/
def scrollUp (r : Roster) : Roster :=
  { r with top := r.top - scrollStep }

/-- Move the panel towards the last members. -/
def scrollDown (r : Roster) : Roster :=
  { r with top := r.top + scrollStep }

/-- Move the panel back so that its page is full, if the members fill one. -/
def settle (r : Roster) (height : Nat) : Roster :=
  { r with top := min r.top (r.size - height) }

/-- The members on the page of a panel. -/
def page (r : Roster) (height : Nat) : List Member :=
  (r.sorted.drop r.top).take height

/-- Draw one row of the panel. -/
def drawRow (g : Grid) (row : Nat) (m : Option Member) : Grid :=
  if row < g.height then
    (g.moveTo row 0).addText (edge :: (m.map Member.shown).getD [])
  else g

/-- Draw the page of a panel: a row for each member, and the edge alone below them. -/
def drawPage (g : Grid) (height : Nat) (page : List Member) : Grid :=
  (List.range height).foldl (fun g row => drawRow g row page[row]?) g.erase

/-- Settle the panel and draw its page. -/
def draw (r : Roster) (g : Grid) (height : Nat) : Roster × Grid :=
  let r := r.settle height
  (r, drawPage g height (r.page height))

end Roster
end ChatConsole
