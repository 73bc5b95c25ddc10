/-
# Operations of the console and its bars

Most operations change something that a bar shows, and each has to draw the bar.  The lemmas here go
through the operations one by one: on a console whose bars are not stale, each leaves them so.
Printing draws no bar, because it changes nothing that a bar shows.
-/

import ChatConsole.Command.Run
import ChatConsole.Console.Keyboard
import ChatConsole.Proofs.Console.Attempts
import ChatConsole.Proofs.Display.Bars

namespace ChatConsole
namespace Console

open Display (Current SameBars)

variable {c : Console} {title status : Style}

/-! ### Printing -/

/-- A line may be stored in any window. -/
theorem current_store (h : Current title status c.display) {i : Nat} {w : Window}
    (hw : c.desk.windows[i]? = some w) (line : Line) :
    Current title status (c.store i w line).display := by
  refine h.keep (Desk.size_set ..) ?_ ?_ (Window.le_palette_append ..)
  · exact Desk.active_set hw (Window.title_of_card (Window.card_append ..))
  · exact Desk.active_set hw (Window.face_append ..)

/-- Refused or not, writing leaves the bars current. -/
theorem current_write (h : Current title status c.display) (label text : String) (badge : Badge)
    (timed : Bool) : Current title status (c.write label text badge timed).state.display := by
  induction c, label, text, badge using write.induct timed with
  | case1 c label text badge hmissing =>
    rw [write_of_missing hmissing]
    exact h
  | case2 c label text badge i w hfound hlogging file hfile =>
    rw [write_of_file hfound hlogging hfile]
    exact current_store h (Desk.locate?_eq_some hfound).2 _
  | case3 c label text badge i w hfound line stored hlogging hfile ih =>
    rw [write_of_nameless hfound hlogging hfile]
    exact ih (current_store h (Desk.locate?_eq_some hfound).2 _)
  | case4 c label text badge i w hfound hlogging =>
    rw [write_of_unlogged hfound (eq_false_of_ne_true hlogging)]
    exact current_store h (Desk.locate?_eq_some hfound).2 _

theorem current_printTimed (h : Current title status c.display) (label text : String) (badge : Badge)
    (timed : Bool) : Current title status (c.printTimed label text badge timed).state.display := by
  have hwrite := current_write h label text badge timed
  refine Attempt.state_andThen (P := fun c : Console => Current title status c.display) hwrite ?_
  intro c' hdone
  rwa [hdone] at hwrite

theorem current_printIn (h : Current title status c.display) (label text : String) (badge : Badge) :
    Current title status (c.printIn label text badge).display :=
  current_printTimed h ..

theorem current_printActive (h : Current title status c.display) (text : String) (badge : Badge) :
    Current title status (c.printActive text badge).display :=
  current_printIn h ..

/-! ### Windows -/

/-- Whatever is done to the desk, both bars are drawn after it. -/
theorem current_freshen (h : Current title status c.display) (desk : Desk) :
    Current title status (c.withDesk desk).freshen.display :=
  h.drawBars ⟨rfl, rfl, rfl⟩

theorem current_spawn (h : Current title status c.display) (label : String) (named : Option String) :
    Current title status (c.spawn label named).state.display := by
  cases hspawn : c.desk.spawn label named with
  | done desk =>
    obtain ⟨i, -, hdone⟩ := spawn_of_done hspawn
    rw [hdone]
    exact current_freshen h _
  | refused why desk =>
    rw [spawn_of_refused hspawn]
    exact h

/-- A change of the desk that is followed by a drawing of the bars, unless it is refused. -/
theorem current_changeDesk (h : Current title status c.display) {change : Desk → Attempt Desk}
    (hleaves : (change c.desk).Leaves c.desk) :
    Current title status
      ((c.changeDesk change).andThen fun c => .done c.redraw).state.display := by
  cases hchange : change c.desk with
  | done desk =>
    rw [changeDesk_of_done hchange]
    exact current_freshen h _
  | refused why desk =>
    obtain rfl := hleaves why desk hchange
    rw [changeDesk_of_refused hchange]
    exact h

theorem current_destroy (h : Current title status c.display) (label : String) :
    Current title status (c.destroy label).state.display :=
  current_changeDesk h (c.desk.leaves_destroy label)

theorem current_focusNumber (h : Current title status c.display) (number : Nat) :
    Current title status (c.focusNumber number).state.display :=
  current_changeDesk h ((c.desk.leaves_focusNumber number).map Prod.fst)

theorem current_focusNeighbour (h : Current title status c.display) (forward : Bool) :
    Current title status (c.focusNeighbour forward).2.display := by
  unfold focusNeighbour
  dsimp only
  split
  · exact current_freshen h _
  · exact h

theorem current_setTitle (h : Current title status c.display) (label text : String) :
    Current title status (c.setTitle label text).2.display := by
  unfold setTitle
  cases hset : c.desk.setTitle? label text with
  | none => exact h.drawTitleBar rfl rfl
  | some desk =>
    obtain ⟨i, w, hw, rfl⟩ := Desk.setTitle?_eq_some hset
    exact h.drawTitleBar (Desk.size_set ..) (Desk.active_set hw (Window.face_setTitle ..))

theorem current_closeQueries (h : Current title status c.display) :
    Current title status c.closeQueries.2.display :=
  current_freshen h _

/-- The window with the focus may be replaced by one of the same title. -/
theorem current_setActive (h : Current title status c.display) {w : Window} {q : Color.Palette}
    (htitle : w.title = c.active.title) :
    Current title status
      { c.display with desk := c.desk.setActive w, palette := q }.drawStatusBar :=
  h.drawStatusBar ⟨rfl, rfl, rfl⟩ (Desk.active_setActive htitle)

theorem current_toggleLogging (h : Current title status c.display) :
    Current title status c.toggleLogging.2.display := by
  have hlogging : Current title status
      { c.display with
        desk := c.desk.setActive { c.active with logging := !c.active.logging } }.drawStatusBar :=
    current_setActive h rfl
  unfold toggleLogging
  dsimp only
  split
  · exact current_printActive hlogging ..
  · exact current_printActive hlogging ..

theorem current_clear (h : Current title status c.display) :
    Current title status c.clear.display :=
  current_setActive h (Window.title_of_card (Window.card_recreate ..))

/-! ### Channels -/

theorem card_withPanel (d : Display) (p : Color.Palette) (w : Window) :
    (withPanel d p w).1.card = w.card := by
  unfold withPanel
  cases hupdate : w.updatePanel? p d.rows d.cols with
  | none => rfl
  | some q => exact Window.card_updatePanel? hupdate

/-- A window may be changed in all but its title. -/
theorem current_change (h : Current title status c.display) (label : String) {f : Window → Window}
    (hf : ∀ w, (f w).title = w.title) :
    Current title status (c.change label f).state.display := by
  unfold change
  split
  · exact h
  · rename_i i w hlocate
    refine h.drawStatusBar ⟨rfl, rfl, rfl⟩ ?_
    refine Desk.active_set (Desk.locate?_eq_some hlocate).2 ?_
    exact (Window.title_of_card (card_withPanel ..)).trans (hf w)

theorem title_renameMember (d : Display) (old new : String) (p : Color.Palette) (w : Window) :
    (renameMember d old new p w).1.title = w.title := by
  unfold renameMember
  split
  · rw [Window.title_of_card (card_withPanel ..)]
  · rfl

theorem title_renameIn (d : Display) (old new : String) (p : Color.Palette) (ws : List Window) :
    (renameIn d old new p ws).1.map Window.title = ws.map Window.title := by
  induction ws generalizing p with
  | nil => rfl
  | cons w ws ih => simp only [renameIn, List.map_cons, title_renameMember, ih]

theorem current_rename (h : Current title status c.display) (old new : String) :
    Current title status (c.rename old new).display := by
  have htitle := title_renameIn c.display old new c.display.palette c.desk.windows
  exact h.drawStatusBar ⟨rfl, rfl, rfl⟩ (Desk.active_of_map htitle)

/-! ### Messages from the server -/

theorem current_announce (h : Current title status c.display) (label : String) :
    Current title status (c.announce label).display := by
  unfold announce
  split
  · split
    · exact h
    · exact current_printActive h ..
  · exact h

/-- Refused or not, opening a window behind the one with the focus draws no bar. -/
theorem sameBars_openBehind (c : Console) (label text : String) :
    SameBars c.display (c.openBehind label text).state.display := by
  have hchange (c : Console) (change : Desk → Attempt Desk) :
      SameBars c.display (c.changeDesk change).state.display := by
    unfold changeDesk
    cases change c.desk <;> exact ⟨rfl, rfl, rfl⟩
  have hspawn := hchange c (·.spawn label (some text))
  refine Attempt.state_andThen (P := fun c' : Console => SameBars c.display c'.display) hspawn ?_
  intro c' hdone
  rw [hdone] at hspawn
  have hfocus : SameBars c'.display (c'.focusLabel c.active.label).state.display := hchange c' _
  exact ⟨hfocus.cols.trans hspawn.cols, hfocus.titleBar.trans hspawn.titleBar,
    hfocus.statusBar.trans hspawn.statusBar⟩

theorem current_receive (h : Current title status c.display) (nick target text : String) :
    Current title status (c.receive nick target text).display := by
  have hopen := sameBars_openBehind c (c.delivery nick target text).label
    (c.delivery nick target text).title
  unfold receive
  dsimp only
  split
  · rename_i hrefused
    rw [hrefused] at hopen
    exact h.drawBars hopen
  rename_i opened hdone
  rw [hdone] at hopen
  replace h : Current title status opened.freshen.display := h.drawBars hopen
  have hprint := current_printTimed h (c.delivery nick target text).label
    (c.delivery nick target text).text .none opened.freshen.isTimed
  split
  · rename_i hrefused
    rw [print] at hrefused
    rwa [hrefused] at hprint
  rename_i printed hdone
  rw [print] at hdone
  rw [hdone] at hprint
  split
  · rename_i notice _
    have hemit : Current title status (printed.emit (.notice (Notice.prepare notice))).display :=
      hprint
    exact current_announce hemit _
  · exact hprint

/-! ### The line editor -/

theorem current_scroll (h : Current title status c.display) (request : ScrollRequest) :
    Current title status (scroll request c).2.display := by
  unfold scroll
  dsimp only
  split
  · rename_i p hmoved
    refine current_setActive h (Window.title_of_card ?_)
    cases request with
    | pageUp => exact Window.card_scrollUp? hmoved
    | pageDown => exact Window.card_scrollDown? hmoved
    | panelUp | panelDown =>
      obtain ⟨w, hw, rfl⟩ := Option.map_eq_some_iff.1 hmoved
      exact Window.card_scrollPanel? hw
  · exact h.drawStatusBar ⟨rfl, rfl, rfl⟩ rfl

/-! ### Submitted lines -/

/-- A refusal is printed. -/
theorem current_settle {a : Attempt Console} (ha : Current title status a.state.display) :
    Current title status a.settle.display := by
  cases a with
  | done c => exact ha
  | refused why c => exact current_printActive ha ..

theorem current_say (h : Current title status c.display) (text : String) :
    Current title status (c.say text).display := by
  unfold say
  dsimp only
  split
  · exact current_printActive h ..
  · exact current_settle (current_printTimed h ..)

/-- Lines printed one after another. -/
theorem current_foldl {α : Type} (h : Current title status c.display) (entries : List α)
    (text : α → String) (badge : Badge) :
    Current title status
      (entries.foldl (fun c entry => c.printActive (text entry) badge) c).display := by
  induction entries generalizing c with
  | nil => exact h
  | cons entry entries ih => exact ih (current_printActive h ..)

theorem current_helpAll (h : Current title status c.display) :
    Current title status c.helpAll.display := by
  have hfirst := current_printActive h "Commands:" .first
  exact current_printActive (current_foldl hfirst Command.catalog _ .none) ..

theorem current_help (h : Current title status c.display) (topic : String) :
    Current title status (c.help topic).display := by
  unfold help
  split
  · exact current_helpAll h
  split
  · exact current_printActive h ..
  · exact current_printActive h ..

theorem current_carryOut (h : Current title status c.display) (command : Command) :
    Current title status (c.carryOut command).display := by
  have hprint (text : String) (badge : Badge) :
      Current title status (c.printActive text badge).display := current_printActive h text badge
  cases command with
  | say text => exact current_say h text
  | focus number => exact current_settle (current_focusNumber h _)
  | quit => exact h
  | clear => exact current_clear h
  | close => exact current_settle (current_destroy h _)
  | help topic => exact current_help h topic
  | join label =>
    rw [carryOut, joinChannel]
    split
    · exact current_settle (current_spawn h ..)
    · exact hprint ..
  | log => exact current_toggleLogging h
  | names =>
    rw [carryOut, listMembers]
    split
    · split <;> exact hprint ..
    · exact hprint ..
  | query nick =>
    rw [carryOut, openQuery]
    split
    · exact hprint ..
    · exact current_settle (current_spawn h ..)
  | set key =>
    rw [carryOut, showSetting]
    split
    · exact hprint ..
    · split <;> exact hprint ..
  | topic text =>
    have hset : Current title status (c.setTitle c.active.label text).2.display :=
      current_setTitle h ..
    rw [carryOut, setTopic]
    split
    · rename_i heq
      rwa [heq] at hset
    · rename_i heq
      rw [heq] at hset
      exact current_printActive hset ..
  | whois nick =>
    rw [carryOut, listChannels]
    split <;> exact hprint ..
  | unknown word => exact hprint ..

theorem current_submit (h : Current title status c.display) (line : String) :
    Current title status (c.submit line).2.display := by
  unfold submit
  split
  · exact h
  · exact h
  · exact current_carryOut h _

end Console
end ChatConsole
