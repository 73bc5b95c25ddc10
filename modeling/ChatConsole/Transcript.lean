/-
# Transcripts

What is printed in a window may be kept in a file, one for each server and window: a dated line
without decoration for each message.  The name of the file is made of the server's name, a digit for
the kind of window, and the window's label with every character but letters, digits and a few signs
replaced.  A label of which nothing would be left has no file.
-/

import ChatConsole.Calendar.Pattern
import ChatConsole.Markup.Token
import ChatConsole.Places
import ChatConsole.Window.Label

namespace ChatConsole
namespace Transcript

/-- The kind of window that a transcript is of. -/
inductive Kind where
  | status
  | channel
  | query
  deriving DecidableEq, Repr

namespace Kind

/-- The kind of window that a label is of. -/
def ofLabel (label : String) : Kind :=
  if Window.isStatusLabel label then status
  else if Window.isChannelLabel label then channel
  else query

/-- The digit of a kind. -/
def digit : Kind → Nat
  | status => 1
  | channel => 2
  | query => 3

end Kind

/-- The number of characters of a label that count. -/
def maxLabelLength : Nat := 64

/-- Whether a character of a label may stand in the name of a file. -/
def isKept (c : Char) : Bool :=
  c.isAlphanum || c == '#' || c == '&' || c == '+' || c == '-' || c == '.' || c == '_'

/-- The label as it stands in the name of a file; none if it has no letter or digit. -/
def cleaned? (label : String) : Option String :=
  let cs := (label.toList.take maxLabelLength).map fun c => if isKept c then c else '_'
  if cs.any Char.isAlphanum then some (String.ofList cs) else none

/-- The name of the file of a kind of window on a server, of which the label is cleaned. -/
def fileNamed (host : String) (kind : Kind) (name : String) : String :=
  let host := host.toList.filter fun c => c != '-' && c != '.'
  String.ofList (Text.lowercase (host ++ '-' :: (toString kind.digit).toList ++
    '.' :: name.toList ++ ".txt".toList))

/-- The name of the status window's file. -/
def statusFile (host : String) : String :=
  fileNamed host .status "console"

/-- The name of a window's file, if it can have one. -/
def file? (host label : String) : Option String :=
  match Kind.ofLabel label with
  | .status => some (statusFile host)
  | kind => (cleaned? label).map (fileNamed host kind)

/-- The status window has a file. -/
theorem isStatusLabel_of_file?_eq_none {host label : String} (h : file? host label = none) :
    Window.isStatusLabel label = false := by
  cases hstatus : Window.isStatusLabel label with
  | false => rfl
  | true => simp [file?, Kind.ofLabel, hstatus] at h

/-- The path of a window's file under a directory. -/
def path? (directory host label : String) : Option String :=
  (file? host label).map (Places.join directory)

/-- A text as a line of a transcript. -/
def entry (date : Calendar.Date) (text : String) : String :=
  date.text ++ " " ++ Markup.strip text ++ "\n"

end Transcript
end ChatConsole
