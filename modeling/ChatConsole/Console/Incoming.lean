/-
# Incoming messages

A message from the server goes to its conversation: the channel it was sent to, or a query with its
sender if it was sent to us.  The conversation is opened if need be, and the focus stays.  A message
that concerns us gives a notice, and a word in the window with the focus if that is another one.
-/

import ChatConsole.Console.Windows
import ChatConsole.Notice

namespace ChatConsole
namespace Console

/-- Whether a message was sent to us; without a nick of ours, whatever is sent to no channel. -/
def isToUs (c : Console) (target : String) : Bool :=
  match c.settings.nickname? with
  | some nick => Text.alike target nick
  | none => !Window.isChannelLabel target

/-- What is said of a window in which something is new. -/
def activity (w : Window) : String :=
  "activity at window " ++ embolden w.label ++ s!" (refnum: {w.number})"

/-- Say in the window with the focus that something is new in another one. -/
def announce (c : Console) (label : String) : Console :=
  match c.desk.get? label with
  | some w => if w.number = c.active.number then c else c.printActive (activity w) .success
  | none => c

/-- Open a window, unless the label is in use, and give the focus back to the window that had it. -/
def openBehind (c : Console) (label title : String) : Attempt Console :=
  (c.changeDesk (·.spawn label (some title))).andThen (·.focusLabel c.active.label)

/-- A nick between the theme's signs, in a colour of the theme, and what was said. -/
def spoken (s : Settings) (symbol color nick text : String) : String :=
  s.themeText "nick_s1" ++ symbol ++ s.themeText color ++ nick ++
    Markup.Mark.plain.char.toString ++ s.themeText "nick_s2" ++ " " ++ text

/-- The sign of a member of a channel, or a blank. -/
def symbolIn (c : Console) (label nick : String) : Char :=
  (((c.desk.get? label).bind (·.roster.get? nick)).map (·.rank.symbol)).getD ' '

/-- Whether a message addresses us. -/
def isForUs (c : Console) (text : String) : Bool :=
  match c.settings.nickname? with
  | some nick => Notice.concerns text nick c.settings.aliases
  | none => false

/-- A conversation, what is printed in it, and the notice there is to give. -/
structure Delivery where
  label : String
  title : String
  text : String
  notice : Option String
  deriving DecidableEq, Repr

/-- What becomes of a message, when its conversation is open. -/
def delivery (c : Console) (nick target text : String) : Delivery :=
  if c.isToUs target then
    { label := nick, title := nick, text := spoken c.settings "" "secondary_color" nick text,
      notice := some (Notice.ofPrivate nick text) }
  else
    let forUs := c.isForUs text
    { label := target, title := "No title.",
      text := spoken c.settings (c.symbolIn target nick).toString
        (if forUs then "color4" else "secondary_color") nick text,
      notice := if forUs then some (Notice.ofChannel nick target text) else none }

/-- Take a message from the server.  It is dropped when its conversation cannot be opened; the bars are
drawn all the same. -/
def receive (c : Console) (nick target text : String) : Console :=
  let m := c.delivery nick target text
  match c.openBehind m.label m.title with
  | .refused _ c => c.freshen
  | .done c =>
    match c.freshen.print m.label m.text .none with
    | .refused _ c => c
    | .done c =>
      match m.notice with
      | some text => (c.emit (.notice (Notice.prepare text))).announce m.label
      | none => c

end Console
end ChatConsole
