/-
# The commands of the console
-/

namespace ChatConsole
namespace Command

/-- The commands, by name, each with a line that says what it does. -/
def catalog : List (String × String) :=
  [
    ("clear", "Clear the active window"),
    ("close", "Close the active window"),
    ("help", "Show available commands"),
    ("join", "Open a channel window"),
    ("log", "Toggle logging for the active window"),
    ("names", "List the nicks in the active channel"),
    ("query", "Open a private conversation"),
    ("quit", "Leave the client"),
    ("set", "Change a setting"),
    ("topic", "Set the window title"),
    ("whois", "Show what is known about a nick")
  ]

end Command
end ChatConsole
