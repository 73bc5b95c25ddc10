/-
# Settings

The settings of the console are two tables, of general keys and of keys of the theme, and what is
said about logs.  Each key is read through an accessor that knows its kind, its bounds and its
default, so that a value of the wrong kind counts as none.
-/

import ChatConsole.Color.Chart
import ChatConsole.Text.Blank
import ChatConsole.Text.Case
import ChatConsole.Toml.Document

namespace ChatConsole

open Toml (Table Value)

/-- What the settings say about logs. -/
structure LogSettings where
  /-- The directory, if not the usual one. -/
  dir : Option String := none
  /-- Whether a new window is logged. -/
  enabled : Bool := false
  deriving DecidableEq, Repr

/-- The settings. -/
structure Settings where
  general : Table := []
  theme : Table := []
  log : LogSettings := {}

namespace Settings

/-- A whole number with its bounds and its default. -/
structure Bounded where
  key : String
  low : Int
  high : Int
  default : Int
  deriving DecidableEq, Repr

/-- Capacity of a backlog. -/
def backlogCapacity : Bounded := ⟨"textbuffer_size_absolute", 350, 4700, 1000⟩

/-- The largest number of windows. -/
def windowLimit : Bounded := ⟨"max_chat_windows", 10, 200, 60⟩

/-- Index of the terminal's background. -/
def termBackground : Bounded := ⟨"term_background", 0, 15, 1⟩

/-- The bounded numbers. -/
def bounded : List Bounded :=
  [backlogCapacity, windowLimit, termBackground]

/-- The texts of the theme unless the settings say otherwise. -/
def themeDefaults : List (String × String) :=
  [
    ("gfx_failure", "[\x034*\x0f]"),
    ("gfx_success", "[\x039*\x0f]"),
    ("gfx_warning", "[\x038*\x0f]"),
    ("color4", "\x0305"),
    ("left_bracket", "\x0314[\x0f"),
    ("nick_s1", "\x0314:\x0f"),
    ("nick_s2", "\x0314:\x0f"),
    ("notice_sep", "\x0314:\x0f"),
    ("primary_color", "\x0312"),
    ("right_bracket", "\x0314]\x0f"),
    ("secondary_color", "\x0300"),
    ("slogan", "\x033,1The universal IRC client\x0f"),
    ("specifier1", "\x0314[\x030-\x0314]\x0f"),
    ("specifier2", "\x0314[\x030:\x0314]\x0f"),
    ("specifier3", "\x0314[\x030x\x0314]\x0f"),
    ("statusbar_bg", "black"),
    ("statusbar_fg", "white"),
    ("statusbar_leftBracket", "\x0312,1[\x0f"),
    ("statusbar_rightBracket", "\x0312,1]\x0f"),
    ("statusbar_spec", "[-]"),
    ("time_format", "\x0314[\x0f%H:%M\x0314]\x0f"),
    ("titlebar_bg", "white"),
    ("titlebar_fg", "black")
  ]

/-- The general keys. -/
def generalKeys : List String :=
  [
    "disable_beeps",
    "max_chat_windows",
    "nickname",
    "nickname_aliases",
    "show_timestamps",
    "textbuffer_size_absolute"
  ]

/-- The keys of the theme that are not texts. -/
def themeFlags : List String :=
  ["term_background", "term_enable_colors", "term_use_default_colors"]

/-- Every key, in alphabetical order. -/
def names : List String :=
  (generalKeys ++ themeFlags ++ themeDefaults.map Prod.fst).mergeSort fun a b => decide (a ≤ b)

/-- The default text of a key of the theme. -/
def themeDefault? (key : String) : Option String :=
  (themeDefaults.find? (·.1 == key)).map Prod.snd

/-- A bounded number of a table; its default when the table has no such number within the bounds. -/
def boundedIn (t : Table) (b : Bounded) : Int :=
  match (t.get? b.key).bind Value.asInteger? with
  | some n => if b.low ≤ n ∧ n ≤ b.high then n else b.default
  | none => b.default

/-- The truth value that a word stands for, letter case aside. -/
def truthOf? (word : String) : Option Bool :=
  let word := String.ofList (Text.folded word)
  if word ∈ ["yes", "true", "on"] then some true
  else if word ∈ ["no", "false", "off"] then some false
  else none

/-- A truth value of a table. -/
def flagIn (t : Table) (key : String) (default : Bool) : Bool :=
  match t.get? key with
  | some (.boolean b) => b
  | some (.string s) => (truthOf? s).getD default
  | _ => default

/-- A bounded number of the general table. -/
def integer (s : Settings) (b : Bounded) : Int :=
  boundedIn s.general b

/-- A bounded number of the theme. -/
def themeInteger (s : Settings) (b : Bounded) : Int :=
  boundedIn s.theme b

/-- A truth value of the general table. -/
def flag (s : Settings) (key : String) (default : Bool) : Bool :=
  flagIn s.general key default

/-- A truth value of the theme. -/
def themeFlag (s : Settings) (key : String) (default : Bool) : Bool :=
  flagIn s.theme key default

/-- A text of the general table. -/
def text? (s : Settings) (key : String) : Option String :=
  (s.general.get? key).bind Value.asString?

/-- A text of the theme: the one set, else the default, else empty. -/
def themeText (s : Settings) (key : String) : String :=
  match (s.theme.get? key).bind Value.asString? with
  | some text => text
  | none => (themeDefault? key).getD ""

/-- The base colours by name. -/
def colorNames : List (String × Color.ColorNumber) :=
  [("black", Color.black), ("red", Color.red), ("green", Color.green), ("yellow", Color.yellow),
    ("blue", Color.blue), ("magenta", Color.magenta), ("cyan", Color.cyan), ("white", Color.white)]

/-- A colour of the theme, given by its name. -/
def themeColor (s : Settings) (key : String) (default : Color.ColorNumber) : Color.ColorNumber :=
  let name := String.ofList (Text.folded (s.themeText key))
  ((colorNames.find? (·.1 == name)).map Prod.snd).getD default

/-- Our own nick; an empty one counts as none. -/
def nickname? (s : Settings) : Option String :=
  (s.text? "nickname").filter (!·.isEmpty)

/-- The words of a text, without the blanks between them. -/
def words (current : List Char) : List Char → List (List Char)
  | [] => if current.isEmpty then [] else [current.reverse]
  | c :: cs =>
    if Text.isBlank c then
      if current.isEmpty then words [] cs else current.reverse :: words [] cs
    else words (c :: current) cs

/-- Other nicks that stand for us. -/
def aliases (s : Settings) : List String :=
  match s.text? "nickname_aliases" with
  | some text => (words [] text.toList).map String.ofList
  | none => []

/-- The value of a key as it would be shown: the one set, else the default. -/
def lookup? (s : Settings) (key : String) : Option String :=
  match (s.general.get? key).orElse fun _ => s.theme.get? key with
  | some v => some (v.asString?.getD v.text)
  | none =>
    match themeDefault? key with
    | some text => some text
    | none => (bounded.find? (·.key == key)).map fun b => toString b.default

/-- Set a key of the general table. -/
def setGeneral (s : Settings) (key : String) (v : Value) : Settings :=
  { s with general := s.general.insert key v }

/-- Set a key of the theme. -/
def setTheme (s : Settings) (key : String) (v : Value) : Settings :=
  { s with theme := s.theme.insert key v }

/-- A table of settings: a table, or a date-time, which is the table of one entry that it is written
as. -/
def tableOf? : Option Value → Option Table
  | none => some []
  | some (.table t) => some t
  | some (.datetime text) => some [(Toml.datetimeKey, .string text)]
  | some _ => none

/-- The directory of logs, which must be a text if it is said. -/
def dirOf? : Option Value → Option (Option String)
  | none => some none
  | some (.string dir) => some (some dir)
  | some _ => none

/-- Whether new windows are logged, which must be a truth value if it is said. -/
def enabledOf? : Option Value → Option Bool
  | none => some false
  | some (.boolean b) => some b
  | some _ => none

/-- What a value says about logs: a table by its keys, an array by the order of its items. -/
def logOf? : Option Value → Option LogSettings
  | none => some {}
  | some (.datetime _) => some {}
  | some (.table t) => do some ⟨← dirOf? (Table.get? t "dir"), ← enabledOf? (Table.get? t "enabled")⟩
  | some (.array items) => do some ⟨← dirOf? items[0]?, ← enabledOf? items[1]?⟩
  | some _ => none

/-- The settings of a text, if it is a document with tables where they are due. -/
def read? (text : String) : Option Settings := do
  let t ← Toml.read? text
  let general ← tableOf? (t.get? "general")
  let theme ← tableOf? (t.get? "theme")
  let log ← logOf? (t.get? "log")
  some { general, theme, log }

/-- What a settings file may be on the disk. -/
inductive Source where
  | missing
  /-- A directory, or anything else that cannot be read. -/
  | unreadable
  | bytes (content : List UInt8)

/-- Why settings cannot be loaded. -/
inductive LoadFailure where
  /-- The file cannot be read as text. -/
  | read
  /-- The text is no settings file. -/
  | parse
  deriving DecidableEq, Repr

/-- The settings of a file.  A missing file gives the defaults. -/
def load : Source → Except LoadFailure Settings
  | .missing => .ok {}
  | .unreadable => .error .read
  | .bytes content =>
    match Text.ofBytes? content with
    | none => .error .read
    | some cs =>
      match read? (String.ofList cs) with
      | some s => .ok s
      | none => .error .parse

end Settings
end ChatConsole
