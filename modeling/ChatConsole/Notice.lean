/-
# Notices

A notice tells the desktop of a message that concerns the user: a private one, or one that
addresses them by their nick or an alias.  It is plain text of bounded length.
-/

import ChatConsole.Markup.Token
import ChatConsole.Text.Case
import ChatConsole.Text.Cut

namespace ChatConsole
namespace Notice

/-- The largest number of characters of a notice. -/
def maxLength : Nat := 150

/-- A text fit for a notice: without decoration, and cut. -/
def prepare (text : String) : String :=
  String.ofList ((Markup.shown text.toList).take maxLength)

/-- Whether a character ends the name of the one addressed. -/
def endsName (c : Char) : Bool :=
  c == ':' || c == ',' || c == ' '

/-- Whether a message addresses a nick: it begins with the nick, letter case aside, which a colon, a
comma, a space or the end of the message follows.  The message is cut behind as many bytes as the nick
has.  There is no answer if what comes behind a beginning that is the nick cannot be cut off. -/
def addresses? (text nick : String) : Option Bool :=
  let size := nick.utf8ByteSize
  if nick.isEmpty || text.utf8ByteSize < size then some false
  else
    match Text.first? text size with
    | none => some false
    | some head =>
      if Text.alike head nick then
        (Text.behind? text size).map fun rest => rest.toList.head?.all endsName
      else some false

/-- Whether a message addresses a nick. -/
def addresses (text nick : String) : Bool :=
  (addresses? text nick).getD false

/-- Whether a message addresses a nick or one of its aliases. -/
def concerns (text nick : String) (aliases : List String) : Bool :=
  addresses text nick || aliases.any (addresses text)

/-- The notice of a private message. -/
def ofPrivate (nick text : String) : String :=
  "[PM] <" ++ nick ++ "> " ++ text

/-- The notice of a message in a channel. -/
def ofChannel (nick channel text : String) : String :=
  nick ++ " @ " ++ channel ++ ": " ++ text

end Notice
end ChatConsole
