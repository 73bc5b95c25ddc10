/-
# Carrying out commands

A command changes the console or prints its answer in the window with the focus.  What is refused is
said there too.
-/

import ChatConsole.Command.Basic
import ChatConsole.Command.Catalog
import ChatConsole.Console.Incoming

namespace ChatConsole
/-- The console after an operation, with the refusal printed if there is one. -/
def Attempt.settle : Attempt Console → Console
  | done c => c
  | refused why c => c.printActive why.message .failure

namespace Console

/-- Say something of our own in the conversation with the focus. -/
def say (c : Console) (text : String) : Console :=
  let label := c.active.label
  if label = Window.statusLabel then c.printActive "Not in a conversation" .warning
  else
    let nick := c.settings.nickname?.getD "me"
    (c.print label (spoken c.settings "" "primary_color" nick text) .none).settle

/-- A name with blanks after it, up to eight characters. -/
def nameColumn (name : String) : String :=
  name ++ String.ofList (List.replicate (8 - name.length) ' ')

/-- Tell what all commands do. -/
def helpAll (c : Console) : Console :=
  let c := c.printActive "Commands:" .first
  let c := Command.catalog.foldl
    (fun c (name, about) => c.printActive ("  /" ++ nameColumn name ++ " " ++ about) .none) c
  c.printActive "  /<num>    Switch to window <num>" .none

/-- Tell what a command does. -/
def help (c : Console) (topic : String) : Console :=
  if topic.isEmpty then c.helpAll
  else
    match Command.catalog.find? fun e => Text.alike e.1 topic with
    | some (name, about) => c.printActive (embolden ("/" ++ name) ++ ": " ++ about) .first
    | none => c.printActive ("No help for " ++ topic) .warning

/-- Open the window of a channel. -/
def joinChannel (c : Console) (label : String) : Console :=
  if Window.isChannelLabel label then (c.spawn label (some "No title.")).settle
  else c.printActive "Usage: /join <#channel>" .warning

/-- Open a query. -/
def openQuery (c : Console) (nick : String) : Console :=
  if nick.isEmpty || Window.isChannelLabel nick || nick.toList.contains ' ' then
    c.printActive "Usage: /query <nick>" .warning
  else (c.spawn nick (some nick)).settle

/-- Texts with spaces between them, each without the blanks it begins with. -/
def spaced (texts : List (List Char)) : String :=
  " ".intercalate (texts.map fun cs => String.ofList (cs.dropWhile Text.isBlank))

/-- List the members of the channel with the focus. -/
def listMembers (c : Console) : Console :=
  let w := c.active
  if w.isChannel then
    if w.roster.size = 0 then c.printActive "Nobody here" .first
    else c.printActive (spaced (w.roster.sorted.map Member.shown)) .first
  else c.printActive "Not in a channel" .warning

/-- Show the value of a setting. -/
def showSetting (c : Console) (key : String) : Console :=
  if key.isEmpty then c.printActive "Usage: /set <setting>" .warning
  else
    match c.settings.lookup? key with
    | some value => c.printActive (key ++ " = " ++ Text.quoted value) .first
    | none => c.printActive ("No such setting: " ++ key) .failure

/-- Set the title of the window with the focus. -/
def setTopic (c : Console) (title : String) : Console :=
  match c.setTitle c.active.label title with
  | (true, c) => c
  | (false, c) => c.printActive "Usage: /topic <text>" .warning

/-- The channels that a nick is a member of, each after the sign of its rank there. -/
def channelsOf (c : Console) (nick : String) : List (List Char) :=
  c.desk.channels.filterMap fun w =>
    (w.roster.get? nick).map fun m => m.rank.symbol :: w.label.toList

/-- List the channels that a nick is a member of. -/
def listChannels (c : Console) (nick : String) : Console :=
  match c.channelsOf nick with
  | [] => c.printActive (nick ++ ": no such nick") .warning
  | channels => c.printActive (embolden nick ++ " is on " ++ spaced channels) .first

/-- Carry out a command that does not end the session. -/
def carryOut (c : Console) : Command → Console
  | .say text => c.say text
  | .focus number => (c.focusNumber number).settle
  | .quit => c
  | .clear => c.clear
  | .close => (c.destroy c.active.label).settle
  | .help topic => c.help topic
  | .join label => c.joinChannel label
  | .log => c.toggleLogging.2
  | .names => c.listMembers
  | .query nick => c.openQuery nick
  | .set key => c.showSetting key
  | .topic title => c.setTopic title
  | .whois nick => c.listChannels nick
  | .unknown word => c.printActive ("Unknown command: /" ++ word) .failure

/-- Take a submitted line; says whether the session goes on. -/
def submit (c : Console) (line : String) : Bool × Console :=
  match Command.ofLine? line with
  | none => (true, c)
  | some .quit => (false, c)
  | some command => (true, c.carryOut command)

end Console
end ChatConsole
