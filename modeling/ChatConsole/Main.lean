/-
# The program

Keys come as bytes from standard input, of a terminal that is in raw mode, and the display goes to
standard output.  The environment says where the settings and the logs are, what the terminal can
do, and how large it is.  Logs are written line by line; a notice is dropped, as there is nobody to
give it to.
-/

import Std.Time.Zoned
import ChatConsole.Console.Seat
import ChatConsole.Key.Decoder

namespace ChatConsole
namespace Main

/-- The time by the clock of the machine. -/
def readClock : IO Calendar.Moment := do
  let stamp ← Std.Time.Timestamp.now
  let rules ← Std.Time.Database.defaultGetLocalZoneRules
  let offset := (rules.findLocalTimeTypeForTimestamp stamp).getTimeZone.offset
  let t := Std.Time.PlainDateTime.ofWallTime (.ofTimestamp stamp offset)
  return {
    date := ⟨t.date.year, t.date.month.val.toNat, t.date.day.val.toNat⟩
    hour := t.time.hour.val.toNat
    minute := t.time.minute.val.toNat
    second := t.time.second.val.toNat
    nano := t.time.nanosecond.val.toNat
    zone := .ahead offset.second.val }

/-- What the environment says about files. -/
def readPlaces : IO Places.Environment := do
  return {
    home := ← IO.getEnv "HOME"
    settings := ← IO.getEnv "IRCTERM_CONFIG"
    logs := ← IO.getEnv "IRCTERM_LOG_DIR"
    dataBase := ← IO.getEnv "XDG_DATA_HOME"
    settingsBase := ← IO.getEnv "XDG_CONFIG_HOME" }

/-- What is on the disk in the place of the settings. -/
def readSource (path : String) : IO Settings.Source := do
  try
    return .bytes (← IO.FS.readBinFile path).toList
  catch
    | .noFileOrDirectory .. => return .missing
    | _ => return .unreadable

/-- A number in the environment. -/
def readSize (name : String) (default : Nat) : IO Nat := do
  return ((← IO.getEnv name).bind String.toNat?).getD default

/-- The palette that the settings ask for on the terminal. -/
def readPalette (s : Settings) : IO Color.Palette := do
  if s.themeFlag "term_enable_colors" true then
    let term := (← IO.getEnv "TERM").getD ""
    let depth := (← IO.getEnv "COLORTERM").getD ""
    return .new (.ofHints term depth) (s.themeFlag "term_use_default_colors" true)
      (s.themeInteger Settings.termBackground)
  else return .off

/-- Do what the console asks for. -/
def perform (logs : String) : Effect → IO Unit
  | .frame d => do
    let out ← IO.getStdout
    out.putStr (Signal.encodeAll d.frame)
    out.flush
  | .beep => do
    let out ← IO.getStdout
    out.putStr Signal.bell.encode
    out.flush
  | .notice _ => return
  | .log file line => do
    try
      IO.FS.withFile (Places.join logs file) .append fun h => h.putStr line
    catch _ => return

/-- Do all that the console has asked for. -/
def settle (s : Seat) : IO Seat := do
  for e in s.console.effects do
    perform s.console.logDirectory e
  return { s with console := { s.console with effects := [] } }

/-- Take keys until the input or the session ends. -/
partial def serve (s : Seat) : IO Unit := do
  let s ← settle s
  let bytes ← (← IO.getStdin).read 1024
  if bytes.isEmpty then return
  let s := { s with console := { s.console with now := ← readClock } }
  let (goesOn, s) := s.type (Key.decode bytes.toList)
  if goesOn then serve s else discard (settle s)

end Main
end ChatConsole

open ChatConsole in
/-- Open the console and take keys until the end. -/
def main : IO UInt32 := do
  let places ← Main.readPlaces
  let logs := Places.logDirectory places
  IO.FS.createDirAll logs
  match Settings.load (← Main.readSource (Places.settingsFile places)) with
  | .error _ =>
    IO.eprintln "failed to load config"
    return 1
  | .ok settings =>
    let rows ← Main.readSize "LINES" 24
    let cols ← Main.readSize "COLUMNS" 80
    let c := Console.new settings (← Main.readPalette settings) "irc.example.org" rows cols
      (settings.log.dir.getD logs) (← Main.readClock)
    let c := c.printStatus "Welcome to ircterm. Type /help for commands, /quit to leave." .first
    Main.serve (Seat.begin (settings.flag "disable_beeps" false) c)
    return 0
