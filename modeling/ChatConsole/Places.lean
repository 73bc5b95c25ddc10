/-
# Where files are kept

The settings and the logs have their usual places, which the environment may change: a variable for
each of the two files or directories, else one for the base directory of its kind, else the home
directory.  Without any of them the working directory holds all.  An empty variable counts as none,
but an empty home directory is one.
-/

namespace ChatConsole
namespace Places

/-- What the environment says about files. -/
structure Environment where
  home : Option String := none
  /-- The settings file. -/
  settings : Option String := none
  /-- The directory of logs. -/
  logs : Option String := none
  /-- Base directory of data. -/
  dataBase : Option String := none
  /-- Base directory of settings. -/
  settingsBase : Option String := none
  deriving DecidableEq, Repr

/-- The path of a name under a directory.  A name that begins at the root is its own path. -/
def join (directory name : String) : String :=
  match name.toList.head?, directory.toList.getLast? with
  | some '/', _ => name
  | _, none => name
  | _, some '/' => directory ++ name
  | _, some _ => directory ++ "/" ++ name

/-- The directory of this program's files of a kind. -/
def application : String := "ircterm"

/-- A variable that is set and not empty. -/
def said (v : Option String) : Option String :=
  v.filter (!·.isEmpty)

/-- The directory of a kind of file: under its base, else in its usual place under the home. -/
def directoryOf (base home : Option String) (usual : String) : String :=
  match said base, home with
  | some base, _ => join base application
  | none, some home => join (join home usual) application
  | none, none => "."

/-- The directory of data. -/
def dataDirectory (e : Environment) : String :=
  directoryOf e.dataBase e.home ".local/share"

/-- The directory of settings. -/
def settingsDirectory (e : Environment) : String :=
  directoryOf e.settingsBase e.home ".config"

/-- The settings file. -/
def settingsFile (e : Environment) : String :=
  (said e.settings).getD (join (settingsDirectory e) "config.toml")

/-- The directory of logs. -/
def logDirectory (e : Environment) : String :=
  (said e.logs).getD (join (dataDirectory e) "log")

/-- The record of the program's own doings. -/
def traceFile (e : Environment) : String :=
  join (logDirectory e) (application ++ ".log")

end Places
end ChatConsole
