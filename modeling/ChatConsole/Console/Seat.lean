/-
# A seat at the console

Whoever sits at the console types one line after another, each into an editor of its own, which
begins with the prompt of the window with the focus.  A submitted line is carried out; a line that
is given up is dropped.
-/

import ChatConsole.Command.Run
import ChatConsole.Console.Keyboard

namespace ChatConsole

/-- A console and the line that is being typed. -/
structure Seat where
  console : Console
  editor : LineEditor

namespace Seat

/-- Begin a line, with the row of the editor shown. -/
def begin (quiet : Bool) (c : Console) : Seat :=
  let editor := LineEditor.new c.prompt c.display.cols quiet
  { console := Client.display editor.panel c, editor }

/-- Take a key; says whether the session goes on. -/
def press (s : Seat) (key : Key) : Bool × Seat :=
  let quiet := s.editor.quiet
  match LineEditor.handle key (s.editor, s.console) with
  | ((editor, c), none) => (true, { console := Client.display editor.panel c, editor })
  | ((_, c), some (.submitted line)) =>
    let (goesOn, c) := c.submit line
    (goesOn, begin quiet c)
  | ((_, c), some _) => (true, begin quiet c)

/-- Take keys until they end or the session does. -/
def type (s : Seat) : List Key → Bool × Seat
  | [] => (true, s)
  | key :: keys =>
    match s.press key with
    | (true, s) => type s keys
    | (false, s) => (false, s)

end Seat
end ChatConsole
