/-
# Messages

A stored message has a lead, in front of what was said: the time, and the theme's signs for the kind
of message, each followed by a space.  Where a message wraps, its rows line up under the start of
what was said, so the line is indented by the columns of the lead.
-/

import ChatConsole.Backlog
import ChatConsole.Calendar.Pattern
import ChatConsole.Markup.Token
import ChatConsole.Settings

namespace ChatConsole

/-- The kind of a message, which its signs tell. -/
inductive Badge where
  | none
  | first
  | second
  | third
  | firstSecond
  | failure
  | success
  | warning
  deriving DecidableEq, Repr

/-- The keys of the theme under which the signs of a kind are found. -/
def Badge.keys : Badge → List String
  | none => []
  | first => ["specifier1"]
  | second => ["specifier2"]
  | third => ["specifier3"]
  | firstSecond => ["specifier1", "specifier2"]
  | failure => ["specifier1", "gfx_failure"]
  | success => ["specifier1", "gfx_success"]
  | warning => ["specifier1", "gfx_warning"]

namespace Message

/-- The time of a message: the server's words for it, or the clock's. -/
def timeText (s : Settings) (serverTime : Option String) (now : Calendar.Moment) : String :=
  serverTime.getD (now.format (s.themeText "time_format"))

/-- What stands in front of a message. -/
def lead (s : Settings) (badge : Badge) (timed : Bool) (serverTime : Option String)
    (now : Calendar.Moment) : String :=
  let parts := (if timed then [timeText s serverTime now] else []) ++ badge.keys.map s.themeText
  String.join (parts.map (· ++ " "))

/-- A message as it is stored. -/
def assemble (s : Settings) (text : String) (badge : Badge) (timed : Bool)
    (serverTime : Option String) (now : Calendar.Moment) : Line :=
  let lead := lead s badge timed serverTime now
  { text := lead ++ text, indent := Markup.shownColumns lead }

/-- Hour, minute and second between the theme's brackets and signs. -/
def clock (s : Settings) (hour minute second : Nat) : String :=
  let sep := s.themeText "notice_sep"
  let places (n : Nat) := String.ofList (Calendar.padTo 2 .zeros [] n)
  s.themeText "statusbar_leftBracket" ++ places hour ++ sep ++ places minute ++ sep ++
    places second ++ s.themeText "statusbar_rightBracket"

end Message
end ChatConsole
