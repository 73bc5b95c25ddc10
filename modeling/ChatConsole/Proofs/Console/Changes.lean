/-
# What a request does with the display

Every request leads from one display to the next by changes of the display (`leads_answer`), and so does
every run of requests.  What the changes keep therefore holds of every display that is ever shown.
-/

import ChatConsole.Proofs.Console.Requests
import ChatConsole.Proofs.Desk.Requests
import ChatConsole.Proofs.Display.Changes

namespace ChatConsole
namespace Console

open Display (Leads)

variable {shows : Nat → Grid → Prop} {c : Console} {d : Display}

/-! ### Printing -/

theorem leads_store {i : Nat} {w : Window} (hw : c.desk.windows[i]? = some w) (line : Line) :
    Leads shows c.display (c.store i w line).display :=
  .single (.window c.display hw (.append ..))

theorem leads_write (c : Console) (label text : String) (badge : Badge) (timed : Bool) :
    Leads shows c.display (c.write label text badge timed).state.display := by
  induction c, label, text, badge using write.induct timed with
  | case1 c label text badge hmissing =>
    rw [write_of_missing hmissing]
    exact .refl _
  | case2 c label text badge i w hfound hlogging file hfile =>
    rw [write_of_file hfound hlogging hfile]
    exact leads_store (Desk.locate?_eq_some hfound).2 _
  | case3 c label text badge i w hfound line stored hlogging hfile ih =>
    rw [write_of_nameless hfound hlogging hfile]
    exact (leads_store (Desk.locate?_eq_some hfound).2 _).trans ih
  | case4 c label text badge i w hfound hlogging =>
    rw [write_of_unlogged hfound (eq_false_of_ne_true hlogging)]
    exact leads_store (Desk.locate?_eq_some hfound).2 _

/-- Going on with a further part of an operation. -/
theorem leads_andThen {a : Attempt Console} {next : Console → Attempt Console}
    (ha : Leads shows d a.state.display)
    (hnext : ∀ c, Leads shows c.display (next c).state.display) :
    Leads shows d (a.andThen next).state.display := by
  refine Attempt.state_andThen (P := fun c : Console => Leads shows d c.display) ha ?_
  rintro c rfl
  exact ha.trans (hnext c)

theorem leads_printTimed (c : Console) (label text : String) (badge : Badge) (timed : Bool) :
    Leads shows c.display (c.printTimed label text badge timed).state.display :=
  leads_andThen (leads_write ..) fun _ => .refl _

theorem leads_printIn (c : Console) (label text : String) (badge : Badge) :
    Leads shows c.display (c.printIn label text badge).display :=
  leads_printTimed ..

theorem leads_printActive (c : Console) (text : String) (badge : Badge) :
    Leads shows c.display (c.printActive text badge).display :=
  leads_printIn ..

/-! ### Windows -/

theorem leads_redraw (c : Console) : Leads shows c.display c.redraw.display :=
  (Leads.refl _).drawBars

/-- A change of the desk that the display can make, and that leaves the desk as it is when refused. -/
theorem leads_changeDesk (c : Console) {change : Desk → Attempt Desk}
    (hleaves : (change c.desk).Leaves c.desk)
    (h : ∀ {desk}, change c.desk = .done desk → Leads shows c.display { c.display with desk }) :
    Leads shows c.display (c.changeDesk change).state.display := by
  cases hchange : change c.desk with
  | done desk =>
    rw [changeDesk_of_done hchange]
    exact h hchange
  | refused why desk =>
    obtain rfl := hleaves why desk hchange
    rw [changeDesk_of_refused hchange]
    exact .refl _

theorem leads_focusLabel (c : Console) (label : String) :
    Leads shows c.display (c.focusLabel label).state.display := by
  refine leads_changeDesk c ((c.desk.leaves_focusLabel label).map Prod.fst) ?_
  intro desk h
  obtain ⟨moved, hfocus, rfl⟩ := Attempt.map_eq_done_iff.1 h
  unfold Desk.focusLabel at hfocus
  split at hfocus
  · rename_i i hfound
    obtain rfl := Attempt.done.inj hfocus
    exact .single (.focus c.display (Desk.lt_of_indexOf? hfound))
  · cases hfocus

theorem leads_spawnDesk (c : Console) (label : String) (title : Option String) :
    Leads shows c.display (c.changeDesk (·.spawn label title)).state.display :=
  leads_changeDesk c (c.desk.leaves_spawn label title) fun h => .single (.spawn c.display h)

theorem leads_spawn (c : Console) (label : String) (title : Option String) :
    Leads shows c.display (c.spawn label title).state.display :=
  leads_andThen (leads_spawnDesk ..) fun c =>
    leads_andThen (leads_focusLabel c label) leads_redraw

theorem leads_destroy (c : Console) (label : String) :
    Leads shows c.display (c.destroy label).state.display :=
  leads_andThen
    (leads_changeDesk c (c.desk.leaves_destroy label) fun h => .single (.destroy c.display h))
    leads_redraw

theorem leads_focusNumber (c : Console) (number : Nat) :
    Leads shows c.display (c.focusNumber number).state.display := by
  refine leads_andThen
    (leads_changeDesk c ((c.desk.leaves_focusNumber number).map Prod.fst) ?_) leads_redraw
  intro desk h
  obtain ⟨moved, hfocus, rfl⟩ := Attempt.map_eq_done_iff.1 h
  obtain ⟨i, hi, hmoved⟩ := Desk.focusNumber_cases hfocus
  rw [hmoved]
  exact .single (.focus c.display hi)

theorem leads_focusNeighbour (c : Console) (forward : Bool) :
    Leads shows c.display (c.focusNeighbour forward).2.display := by
  unfold focusNeighbour
  dsimp only
  split
  · rcases c.desk.focusNeighbour_cases forward with hsame | ⟨i, hi, hmoved⟩
    · rw [hsame]
      exact leads_redraw c
    · rw [hmoved]
      exact (Leads.single (.focus c.display hi)).drawBars
  · exact .refl _

theorem leads_setTitle (c : Console) (label title : String) :
    Leads shows c.display (c.setTitle label title).2.display := by
  unfold setTitle
  cases hset : c.desk.setTitle? label title with
  | none => exact .single (.drawTitleBar _)
  | some desk =>
    obtain ⟨i, w, hw, rfl⟩ := Desk.setTitle?_eq_some hset
    have hwindow : Leads shows c.display (c.display.put i (w.setTitle title, c.display.palette)) :=
      .single (.window c.display hw (.setTitle ..))
    exact hwindow.change (.drawTitleBar _)

theorem leads_closeQueries (c : Console) : Leads shows c.display c.closeQueries.2.display := by
  have hclose : Leads shows c.display { c.display with desk := c.desk.closeQueries.1 } := by
    refine Desk.closeQueries_of_destroy
      (P := fun desk => Leads shows c.display { c.display with desk }) ?_ (.refl _)
    intro desk desk' label h hdestroy
    exact h.change (.destroy { c.display with desk } hdestroy)
  exact hclose.drawBars

/-- The window with the focus may change. -/
theorem leads_putActive (hfocus : c.desk.focus < c.desk.size) {q : Window.Painted}
    (hq : Window.Change c.display.rows c.display.cols (c.active, c.display.palette) q) :
    Leads shows c.display (c.display.put c.desk.focus q) :=
  .single (.window c.display (Desk.getElem?_active hfocus) hq)

theorem leads_toggleLogging (hfocus : c.desk.focus < c.desk.size) :
    Leads shows c.display c.toggleLogging.2.display := by
  let set : Console :=
    { c with
      display := { c.display with
        desk := c.desk.setActive { c.active with logging := !c.active.logging } }.drawStatusBar }
  have hset : Leads shows c.display set.display :=
    (leads_putActive hfocus (.setLogging ..)).change (.drawStatusBar _)
  unfold toggleLogging
  dsimp only
  split
  · exact hset.trans (leads_printActive set _ _)
  · exact hset.trans (leads_printActive set _ _)

theorem leads_clear (hfocus : c.desk.focus < c.desk.size) :
    Leads shows c.display c.clear.display :=
  (leads_putActive hfocus (.clear ..)).change (.drawStatusBar _)

/-! ### Channels -/

/-- A window is told its members or its modes anew. -/
theorem leads_change (c : Console) (label : String) {f : Window → Window}
    (hf : ∀ w, ∃ roster modes named, f w = { w with roster, modes, named }) :
    Leads shows c.display (c.change label f).state.display := by
  unfold change
  split
  · exact .refl _
  · rename_i i w hlocate
    obtain ⟨roster, modes, named, hsame⟩ := hf w
    rw [hsame]
    exact (Leads.single (.window c.display (Desk.locate?_eq_some hlocate).2 (.tell ..))).change
      (.drawStatusBar _)

/-- Putting a window in its own place changes nothing. -/
theorem put_self {i : Nat} {w : Window} (hw : d.desk.windows[i]? = some w) :
    d.put i (w, d.palette) = d := by
  obtain ⟨hi, rfl⟩ := List.getElem?_eq_some_iff.1 hw
  rw [Display.put, Desk.set, List.set_getElem_self]
  rfl

/-- A member is renamed in one window. -/
theorem leads_renameMember (old new : String) (size : Display) {i : Nat} {w : Window}
    (hw : d.desk.windows[i]? = some w) (hrows : size.rows = d.rows) (hcols : size.cols = d.cols) :
    Leads shows d (d.put i (renameMember size old new d.palette w)) := by
  unfold renameMember
  split
  · rename_i roster _
    rw [withPanel, hrows, hcols]
    exact .single (.window d hw (.tell w d.palette roster w.modes w.named))
  · rw [put_self hw]
    exact .refl d

/-- Members are renamed in one window after another. -/
theorem leads_renameIn (old new : String) (size : Display) {before ws : List Window}
    (hwindows : d.desk.windows = before ++ ws) (hrows : size.rows = d.rows)
    (hcols : size.cols = d.cols) :
    Leads shows d
      { d with
        desk := d.desk.setWindows (before ++ (renameIn size old new d.palette ws).1)
        palette := (renameIn size old new d.palette ws).2 } := by
  induction ws generalizing d before with
  | nil =>
    rw [renameIn, ← hwindows]
    exact .refl d
  | cons w ws ih =>
    have hw : d.desk.windows[before.length]? = some w := by
      rw [hwindows, List.getElem?_append_right (Nat.le_refl _), Nat.sub_self]
      rfl
    have hput : Leads shows d (d.put before.length (renameMember size old new d.palette w)) :=
      leads_renameMember old new size hw hrows hcols
    simp only [renameIn]
    generalize renameMember size old new d.palette w = q at hput ⊢
    have hset : (d.put before.length q).desk.windows = (before ++ [q.1]) ++ ws := by
      rw [Display.put, Desk.windows_set, hwindows]
      simp
    have hne : before ++ [q.1] ++ (renameIn size old new q.2 ws).1 ≠ [] := by simp
    have hdesk : (d.put before.length q).desk.setWindows
        (before ++ [q.1] ++ (renameIn size old new q.2 ws).1)
          = d.desk.setWindows (before ++ [q.1] ++ (renameIn size old new q.2 ws).1) :=
      Desk.setWindows_setWindows hne
    have hrest := ih hset hrows hcols
    rw [show (d.put before.length q).palette = q.2 from rfl, hdesk, List.append_assoc] at hrest
    exact hput.trans hrest

theorem leads_rename (c : Console) (old new : String) :
    Leads shows c.display (c.rename old new).display := by
  have hwindows : c.desk.windows = [] ++ c.desk.windows := rfl
  exact (leads_renameIn old new c.display hwindows rfl rfl).change (.drawStatusBar _)

/-! ### Messages from the server -/

theorem leads_announce (c : Console) (label : String) :
    Leads shows c.display (c.announce label).display := by
  unfold announce
  split
  · split
    · exact .refl _
    · exact leads_printActive ..
  · exact .refl _

theorem leads_openBehind (c : Console) (label title : String) :
    Leads shows c.display (c.openBehind label title).state.display :=
  leads_andThen (leads_spawnDesk ..) fun c' => leads_focusLabel c' _

theorem leads_receive (c : Console) (nick target text : String) :
    Leads shows c.display (c.receive nick target text).display := by
  have hopen : Leads shows c.display (c.openBehind (c.delivery nick target text).label
      (c.delivery nick target text).title).state.display :=
    leads_openBehind ..
  unfold receive
  dsimp only
  split
  · rename_i hrefused
    rw [hrefused] at hopen
    exact hopen.drawBars
  rename_i opened hdone
  rw [hdone] at hopen
  have hprint : Leads shows opened.freshen.display
      (opened.freshen.print (c.delivery nick target text).label (c.delivery nick target text).text
        .none).state.display :=
    leads_printTimed ..
  split
  · rename_i hrefused
    rw [hrefused] at hprint
    exact hopen.drawBars.trans hprint
  rename_i printed hdone
  rw [hdone] at hprint
  replace hprint : Leads shows c.display printed.display := hopen.drawBars.trans hprint
  split
  · rename_i notice _
    exact hprint.trans (leads_announce (printed.emit (.notice (Notice.prepare notice))) _)
  · exact hprint

/-! ### The line editor -/

theorem leads_scroll (hfocus : c.desk.focus < c.desk.size) (request : ScrollRequest) :
    Leads shows c.display (scroll request c).2.display := by
  have hpanel (move : Roster → Roster) (hmove : ∀ r, (move r).members = r.members)
      {p : Window.Painted}
      (hp : (c.active.scrollPanel? c.display.rows move).map (·, c.display.palette) = some p) :
      Window.Change c.display.rows c.display.cols (c.active, c.display.palette) p := by
    obtain ⟨w, hw, rfl⟩ := Option.map_eq_some_iff.1 hp
    exact .scrollPanel c.display.palette hmove hw
  unfold scroll
  dsimp only
  split
  · rename_i p hmoved
    refine Leads.change (leads_putActive hfocus ?_) (.drawStatusBar _)
    cases request with
    | pageUp => exact .scrollUp hmoved
    | pageDown => exact .scrollDown hmoved
    | panelUp => exact hpanel Roster.scrollUp (fun _ => rfl) hmoved
    | panelDown => exact hpanel Roster.scrollDown (fun _ => rfl) hmoved
  · exact .single (.drawStatusBar _)

/-! ### Submitted lines -/

theorem leads_settle {a : Attempt Console} (ha : Leads shows d a.state.display) :
    Leads shows d a.settle.display := by
  cases a with
  | done c => exact ha
  | refused why c => exact ha.trans (leads_printActive ..)

theorem leads_say (c : Console) (text : String) : Leads shows c.display (c.say text).display := by
  unfold say
  dsimp only
  split
  · exact leads_printActive ..
  · exact leads_settle (leads_printTimed ..)

theorem leads_foldl {α : Type} (c : Console) (entries : List α) (text : α → String)
    (badge : Badge) :
    Leads shows c.display
      (entries.foldl (fun c entry => c.printActive (text entry) badge) c).display := by
  induction entries generalizing c with
  | nil => exact .refl _
  | cons entry entries ih => exact (leads_printActive c _ _).trans (ih _)

theorem leads_helpAll (c : Console) : Leads shows c.display c.helpAll.display :=
  ((leads_printActive c _ _).trans (leads_foldl _ Command.catalog _ _)).trans (leads_printActive ..)

theorem leads_help (c : Console) (topic : String) :
    Leads shows c.display (c.help topic).display := by
  unfold help
  split
  · exact leads_helpAll c
  split
  · exact leads_printActive ..
  · exact leads_printActive ..

theorem leads_carryOut (hfocus : c.desk.focus < c.desk.size) (command : Command) :
    Leads shows c.display (c.carryOut command).display := by
  have hprint (text : String) (badge : Badge) :
      Leads shows c.display (c.printActive text badge).display := leads_printActive ..
  cases command with
  | say text => exact leads_say c text
  | focus number => exact leads_settle (leads_focusNumber c _)
  | quit => exact .refl _
  | clear => exact leads_clear hfocus
  | close => exact leads_settle (leads_destroy c _)
  | help topic => exact leads_help c topic
  | join label =>
    rw [carryOut, joinChannel]
    split
    · exact leads_settle (leads_spawn ..)
    · exact hprint ..
  | log => exact leads_toggleLogging hfocus
  | names =>
    rw [carryOut, listMembers]
    split
    · split <;> exact hprint ..
    · exact hprint ..
  | query nick =>
    rw [carryOut, openQuery]
    split
    · exact hprint ..
    · exact leads_settle (leads_spawn ..)
  | set key =>
    rw [carryOut, showSetting]
    split
    · exact hprint ..
    · split <;> exact hprint ..
  | topic text =>
    have hset : Leads shows c.display (c.setTitle c.active.label text).2.display := leads_setTitle ..
    rw [carryOut, setTopic]
    split
    · rename_i heq
      rwa [heq] at hset
    · rename_i heq
      rw [heq] at hset
      exact hset.trans (leads_printActive ..)
  | whois nick =>
    rw [carryOut, listChannels]
    split <;> exact hprint ..
  | unknown word => exact hprint ..

theorem leads_submit (hfocus : c.desk.focus < c.desk.size) (line : String) :
    Leads shows c.display (c.submit line).2.display := by
  unfold submit
  split
  · exact .refl _
  · exact .refl _
  · exact leads_carryOut hfocus _

/-! ### Requests -/

/-- What a request must keep to: an input row that is shown is one that may come. -/
def Request.Shows (shows : Nat → Grid → Prop) (c : Console) : Request → Prop
  | .display row => shows c.display.cols row
  | _ => True

/-- Every request leads from one display to the next. -/
theorem leads_answer (hfocus : c.desk.focus < c.desk.size) {r : Request} (hr : r.Shows shows c) :
    Leads shows c.display (c.answer r).display := by
  cases r with
  | tell | refresh | beep | candidates => exact .refl _
  | print | printTimed => exact leads_printTimed ..
  | printActive | printStatus | report => exact leads_printIn ..
  | spawn => exact leads_spawn ..
  | destroy => exact leads_destroy ..
  | focusNumber => exact leads_focusNumber ..
  | focusNeighbour => exact leads_focusNeighbour ..
  | setTitle => exact leads_setTitle ..
  | closeQueries => exact leads_closeQueries c
  | toggleLogging => exact leads_toggleLogging hfocus
  | clear => exact leads_clear hfocus
  | resize rows cols => exact .single (.resize c.display rows cols)
  | setModes modes => exact (Leads.single (.setModes c.display modes)).change (.drawStatusBar _)
  | setChannelModes | setMembers | join | part | setRank =>
    refine leads_change c _ ?_
    intro w
    exact ⟨_, _, _, rfl⟩
  | rename => exact leads_rename ..
  | receive => exact leads_receive ..
  | announce => exact leads_announce ..
  | scroll => exact leads_scroll hfocus _
  | display row => exact .single (.input c.display hr)
  | submit => exact leads_submit hfocus _

/-- Every request of a run keeps to what it must. -/
def Shows (shows : Nat → Grid → Prop) : Console → List Request → Prop
  | _, [] => True
  | c, r :: rs => r.Shows shows c ∧ Shows shows (c.answer r) rs

/-- Without a restriction every request may come. -/
theorem shows_any (c : Console) (rs : List Request) : Shows (fun _ _ => True) c rs := by
  induction rs generalizing c with
  | nil => trivial
  | cons r rs ih =>
    refine ⟨?_, ih _⟩
    cases r with
    | display row => exact trivial
    | _ => trivial

/-- **Requests lead from display to display by changes**, and the desk stays well formed. -/
theorem leads_run {limit : Nat} (hdesk : c.desk.WellFormed limit) {rs : List Request}
    (hrs : Shows shows c rs) :
    Leads shows c.display (c.run rs).display ∧ (c.run rs).desk.WellFormed limit := by
  unfold run
  induction rs generalizing c with
  | nil => exact ⟨.refl _, hdesk⟩
  | cons r rs ih =>
    obtain ⟨hr, hrest⟩ := hrs
    have hfirst : Leads shows c.display (c.answer r).display := leads_answer hdesk.focus_lt hr
    have hdesk' : (c.answer r).desk.WellFormed limit :=
      hfirst.keeps (P := fun d => d.desk.WellFormed limit) Display.wellFormed_change hdesk
    obtain ⟨hleads, hwell⟩ := ih hdesk' hrest
    exact ⟨hfirst.trans hleads, hwell⟩

/-- The desk stays well formed, whatever is asked of the console. -/
theorem wellFormed_run {limit : Nat} (hdesk : c.desk.WellFormed limit) (rs : List Request) :
    (c.run rs).desk.WellFormed limit :=
  (leads_run hdesk (shows_any c rs)).2

/-- What windows always have, they have after any requests, on the terminal as it is then. -/
theorem housed_run {P : Nat → Nat → Window → Prop} (hP : Window.Kept P) (s : Settings)
    (palette : Color.Palette) (host : String) (rows cols : Nat) (logDirectory : String)
    (now : Calendar.Moment) (rs : List Request) :
    Display.Housed P ((new s palette host rows cols logDirectory now).run rs).display := by
  let c := new s palette host rows cols logDirectory now
  have hdesk : c.desk.WellFormed (s.integer Settings.windowLimit).toNat :=
    Display.wellFormed_new s palette host rows cols
  obtain ⟨hleads, -⟩ := leads_run hdesk (shows_any c rs)
  exact hleads.keeps (Display.housed_change hP) (Display.housed_new hP s palette host rows cols)

end Console
end ChatConsole
