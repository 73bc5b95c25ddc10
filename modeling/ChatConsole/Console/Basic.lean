/-
# The console

The console holds the display and the settings.  An operation gives a new console, and what it asks
of the world outside is kept in order among the console's effects: a display to show, a bell, a
notice, a line for a transcript.  The world is asked for nothing back; it tells the time beforehand.
-/

import ChatConsole.Display
import ChatConsole.Message
import ChatConsole.Transcript

namespace ChatConsole

/-- What the console asks of the world outside. -/
inductive Effect where
  /-- Show the display as it is. -/
  | frame (d : Display)
  | beep
  /-- Give a notice to the desktop. -/
  | notice (text : String)
  /-- Add a line at the end of a file in the directory of logs.  That may fail, and then nothing
  comes of it. -/
  | log (file line : String)

/-- The console. -/
structure Console where
  display : Display
  settings : Settings
  /-- The directory of logs. -/
  logDirectory : String
  /-- The time, as it was last told. -/
  now : Calendar.Moment
  /-- What has been asked of the world, in order. -/
  effects : List Effect := []

namespace Console

/-- A console with the status window alone. -/
def new (s : Settings) (palette : Color.Palette) (host : String) (rows cols : Nat)
    (logDirectory : String) (now : Calendar.Moment) : Console where
  display := .new s palette host rows cols
  settings := s
  logDirectory
  now

/-- The open windows. -/
def desk (c : Console) : Desk :=
  c.display.desk

/-- The window with the focus. -/
def active (c : Console) : Window :=
  c.desk.active

/-- Ask something of the world. -/
def emit (c : Console) (e : Effect) : Console :=
  { c with effects := c.effects ++ [e] }

/-- Show the display. -/
def refresh (c : Console) : Console :=
  c.emit (.frame c.display)

/-- Change the display and show it. -/
def redisplay (c : Console) (d : Display) : Console :=
  { c with display := d }.refresh

/-- Ring the bell. -/
def beep (c : Console) : Console :=
  c.emit .beep

/-- Whether messages begin with the time. -/
def isTimed (c : Console) : Bool :=
  c.settings.flag "show_timestamps" true

/-- A message as the console stores it: without decoration where there is no colour. -/
def lineOf (c : Console) (text : String) (badge : Badge) (timed : Bool) : Line :=
  let line := Message.assemble c.settings text badge timed none c.now
  if c.display.palette.enabled then line else { line with text := Markup.strip line.text }

/-- Store a line in a window. -/
def store (c : Console) (index : Nat) (w : Window) (line : Line) : Console :=
  { c with display := c.display.put index (w.append c.display.palette line) }

/-- Add a line to a transcript. -/
def log (c : Console) (file : String) (line : Line) : Console :=
  c.emit (.log file (Transcript.entry c.now.date line.text))

/-- A text between two switches of bold. -/
def embolden (text : String) : String :=
  let mark := Markup.Mark.bold.char.toString
  mark ++ text ++ mark

/-- What the status window is told of a window that can have no transcript. -/
def nameless (label : String) : String :=
  "Inappropriate filename for the log of window " ++ embolden label

/-- Write a message in the window with a label, and in its transcript if it is logged.  The status
window is told of a window that can have none; it has one itself. -/
def write (c : Console) (label text : String) (badge : Badge) (timed : Bool) : Attempt Console :=
  match _hfound : c.desk.locate? label with
  | none => .refused (.notFound label) c
  | some (i, w) =>
    let line := c.lineOf text badge timed
    let stored := c.store i w line
    if w.logging then
      match _hfile : Transcript.file? c.display.host w.label with
      | some file => .done (stored.log file line)
      | none => stored.write Window.statusLabel (nameless w.label) .failure timed
    else .done stored
termination_by if Window.isStatusLabel label then 0 else 1
decreasing_by
  -- Only a window that is not the status window can be without a file.
  have hother : Window.isStatusLabel label = false := by
    have hwindow := Transcript.isStatusLabel_of_file?_eq_none _hfile
    cases hstatus : Window.isStatusLabel label with
    | false => rfl
    | true =>
      have hlabel := Text.alike_trans (Desk.alike_of_locate? _hfound) hstatus
      rw [Window.isStatusLabel, hlabel] at hwindow
      cases hwindow
  simp [hother]

section
variable {c : Console} {label text : String} {badge : Badge} {timed : Bool} {i : Nat} {w : Window}

theorem write_of_missing (h : c.desk.locate? label = none) :
    c.write label text badge timed = .refused (.notFound label) c := by
  rw [write]
  split
  · rfl
  · simp_all

theorem write_of_unlogged (h : c.desk.locate? label = some (i, w)) (hlogging : w.logging = false) :
    c.write label text badge timed = .done (c.store i w (c.lineOf text badge timed)) := by
  rw [write]
  split
  · simp_all
  · rename_i hfound
    rw [h] at hfound
    cases hfound
    simp [hlogging]

theorem write_of_file {file : String} (h : c.desk.locate? label = some (i, w))
    (hlogging : w.logging = true) (hfile : Transcript.file? c.display.host w.label = some file) :
    c.write label text badge timed
      = .done ((c.store i w (c.lineOf text badge timed)).log file (c.lineOf text badge timed)) := by
  rw [write]
  split
  · simp_all
  · rename_i hfound
    rw [h] at hfound
    cases hfound
    simp only [hlogging, if_true]
    split
    · simp_all
    · simp_all

theorem write_of_nameless (h : c.desk.locate? label = some (i, w)) (hlogging : w.logging = true)
    (hfile : Transcript.file? c.display.host w.label = none) :
    c.write label text badge timed
      = (c.store i w (c.lineOf text badge timed)).write Window.statusLabel (nameless w.label)
          .failure timed := by
  rw [write]
  split
  · simp_all
  · rename_i hfound
    rw [h] at hfound
    cases hfound
    simp only [hlogging, if_true]
    split
    · simp_all
    · rfl

end

/-- Print a message in the window with a label, with or without the time. -/
def printTimed (c : Console) (label text : String) (badge : Badge) (timed : Bool) : Attempt Console :=
  (c.write label text badge timed).andThen fun c => .done c.refresh

/-- Print a message in the window with a label. -/
def print (c : Console) (label text : String) (badge : Badge) : Attempt Console :=
  c.printTimed label text badge c.isTimed

/-- Print a message in the window with a label, or nowhere. -/
def printIn (c : Console) (label text : String) (badge : Badge) : Console :=
  (c.print label text badge).state

/-- Print a message in the window with the focus. -/
def printActive (c : Console) (text : String) (badge : Badge) : Console :=
  c.printIn c.active.label text badge

/-- Print a message in the status window. -/
def printStatus (c : Console) (text : String) (badge : Badge) : Console :=
  c.printIn Window.statusLabel text badge

end Console
end ChatConsole
