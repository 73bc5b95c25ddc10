/-
# Window labels

A window is known by its label, letter case aside: the status window by a label of its own, a
channel by the channel's name, a query by the nick of the other side.
-/

import ChatConsole.Text.Case

namespace ChatConsole
namespace Window

/-- The label of the status window. -/
def statusLabel : String := "(status)"

/-- Whether a label is the status window's. -/
def isStatusLabel (label : String) : Bool :=
  Text.alike label statusLabel

@[simp] theorem isStatusLabel_statusLabel : isStatusLabel statusLabel = true :=
  Text.alike_refl _

/-- Whether a label is a channel's name: it begins with one of four signs. -/
def isChannelLabel (label : String) : Bool :=
  match label.toList with
  | c :: _ => c == '&' || c == '#' || c == '+' || c == '!'
  | [] => false

/-- What the input line of a window begins with. -/
def promptOf (label : String) : String :=
  if isStatusLabel label then "> "
  else if isChannelLabel label then label ++ ": "
  else label ++ "> "

/-- Rows of the view on a terminal: all but the bars and the input line. -/
def viewHeight (rows : Nat) : Nat :=
  rows - 3

/-- Rows of a pane: those of the view and one below it, hidden by the status bar. -/
def paneHeight (rows : Nat) : Nat :=
  rows - 2

end Window
end ChatConsole
