/-
# Requests to the console

The server, the line editor, the terminal and the one who types ask things of the console, in any order
and with any arguments.  Its bars are never stale: after every request each bar shows what it would show
if it were drawn now (`bars_run`).
-/

import ChatConsole.Proofs.Console.Current

namespace ChatConsole
namespace Console

/-- What can be asked of the console. -/
inductive Request where
  /-- The time is told. -/
  | tell (now : Calendar.Moment)
  | refresh
  | beep
  | print (label text : String) (badge : Badge)
  | printTimed (label text : String) (badge : Badge) (timed : Bool)
  | printActive (text : String) (badge : Badge)
  | printStatus (text : String) (badge : Badge)
  | spawn (label : String) (title : Option String)
  | destroy (label : String)
  | focusNumber (number : Nat)
  | focusNeighbour (forward : Bool)
  | setTitle (label title : String)
  | closeQueries
  | toggleLogging
  | clear
  | resize (rows cols : Nat)
  | setModes (modes : String)
  | setChannelModes (label modes : String)
  | setMembers (label : String) (entries : List String)
  | join (label nick : String)
  | part (label nick : String)
  | setRank (label nick : String) (rank : Rank)
  | rename (old new : String)
  /-- A message comes from the server. -/
  | receive (nick target text : String)
  | announce (label : String)
  /-- The line editor asks for scrolling. -/
  | scroll (request : ScrollRequest)
  | candidates (kind : Completion.Kind) (start : String)
  | report (text : String)
  /-- The row of the line editor is shown. -/
  | display (row : Grid)
  /-- A line is submitted. -/
  | submit (line : String)

/-- The console after a request. -/
def answer (c : Console) : Request → Console
  | .tell now => { c with now }
  | .refresh => c.refresh
  | .beep => Client.beep c
  | .print label text badge => (c.print label text badge).state
  | .printTimed label text badge timed => (c.printTimed label text badge timed).state
  | .printActive text badge => c.printActive text badge
  | .printStatus text badge => c.printStatus text badge
  | .spawn label title => (c.spawn label title).state
  | .destroy label => (c.destroy label).state
  | .focusNumber number => (c.focusNumber number).state
  | .focusNeighbour forward => (Client.switchWindow forward c).2
  | .setTitle label title => (c.setTitle label title).2
  | .closeQueries => c.closeQueries.2
  | .toggleLogging => c.toggleLogging.2
  | .clear => c.clear
  | .resize rows cols => c.resize rows cols
  | .setModes modes => c.setModes modes
  | .setChannelModes label modes => (c.setChannelModes label modes).state
  | .setMembers label entries => (c.setMembers label entries).state
  | .join label nick => (c.join label nick).state
  | .part label nick => (c.part label nick).state
  | .setRank label nick rank => (c.setRank label nick rank).state
  | .rename old new => c.rename old new
  | .receive nick target text => c.receive nick target text
  | .announce label => c.announce label
  | .scroll request => (Client.scroll request c).2
  | .candidates kind start => (Client.candidates kind start c).2
  | .report text => Client.report text c
  | .display row => Client.display row c
  | .submit line => (c.submit line).2

/-- Make one request after another. -/
def run (c : Console) (rs : List Request) : Console :=
  rs.foldl answer c

open Display (Current)

variable {c : Console} {title status : Style}

/-- One request leaves no bar stale. -/
theorem current_answer (h : Current title status c.display) (r : Request) :
    Current title status (c.answer r).display := by
  cases r with
  | tell | refresh | beep | candidates => exact h
  | print | printTimed => exact current_printTimed h ..
  | printActive | printStatus | report => exact current_printIn h ..
  | spawn => exact current_spawn h ..
  | destroy => exact current_destroy h _
  | focusNumber => exact current_focusNumber h _
  | focusNeighbour => exact current_focusNeighbour h _
  | setTitle => exact current_setTitle h ..
  | closeQueries => exact current_closeQueries h
  | toggleLogging => exact current_toggleLogging h
  | clear => exact current_clear h
  | resize => exact h.resize ..
  | setModes => exact h.drawStatusBar ⟨rfl, rfl, rfl⟩ rfl
  | setChannelModes | setMembers | join | part | setRank =>
    refine current_change h _ ?_
    intro w
    rfl
  | rename => exact current_rename h ..
  | receive => exact current_receive h ..
  | announce => exact current_announce h _
  | scroll => exact current_scroll h _
  | display row => exact ⟨h.titleBar, h.statusBar, h.palette⟩
  | submit => exact current_submit h _

theorem current_run (h : Current title status c.display) (rs : List Request) :
    Current title status (c.run rs).display := by
  unfold run
  induction rs generalizing c with
  | nil => exact h
  | cons r rs ih => exact ih (current_answer h r)

end Console
end ChatConsole
