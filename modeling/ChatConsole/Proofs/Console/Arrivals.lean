/-
# Messages that arrive

Opening a conversation gives it the focus, and the focus is given back by looking for the label of the
window that had it.  No two labels are alike, so it goes back to where it was.  What is left of a message
is then a few lines: its own in its conversation, a word in the window with the focus when a notice was
given and the conversation is another one, and for either window that is logged and can have no transcript
a line in the status window (`arrivals`).  If the conversation cannot be opened, nothing is left at all.
-/

import ChatConsole.Proofs.Console.Changes
import ChatConsole.Proofs.Console.Printing

namespace ChatConsole
namespace Console

open Display (Current Leads)
open Window (Grows)

variable {c : Console} {limit : Nat} {label title : String} {desk : Desk}

/-! ### Opening a conversation -/

theorem openBehind_of_refused {why : Refusal}
    (h : c.desk.spawn label (some title) = .refused why desk) :
    c.openBehind label title = .refused why c := by
  obtain rfl := c.desk.leaves_spawn label (some title) why desk h
  rw [openBehind, changeDesk_of_refused h]
  rfl

/-- The windows that are open stay where they are. -/
theorem windows_of_spawn (h : c.desk.spawn label (some title) = .done desk) :
    desk.windows = c.desk.windows ++
      if (c.desk.indexOf? label).isSome then [] else [c.desk.opened label (some title)] := by
  obtain ⟨-, ⟨hused, rfl⟩ | ⟨hfree, -, rfl⟩⟩ := Desk.spawn_cases h
  · rw [if_pos hused, List.append_nil]
  · rw [hfree]
    rfl

/-- The focus goes back to the window that had it. -/
theorem openBehind_of_done (hdesk : c.desk.WellFormed limit)
    (h : c.desk.spawn label (some title) = .done desk) :
    c.openBehind label title = .done (c.withDesk { desk with focus := c.desk.focus }) := by
  have hactive : desk.windows[c.desk.focus]? = some c.active := by
    rw [windows_of_spawn h, List.getElem?_append_left hdesk.focus_lt]
    exact Desk.getElem?_active hdesk.focus_lt
  have hlabel : desk.labels[c.desk.focus]? = some c.active.label := by
    rw [Desk.labels, List.getElem?_map, hactive]
    rfl
  have hfound : (c.withDesk desk).desk.indexOf? c.active.label = some c.desk.focus :=
    (Desk.wellFormed_spawn hdesk h).indexOf?_label hlabel (Text.alike_refl _)
      (hdesk.label_ne_empty (List.mem_of_getElem? (Desk.getElem?_active hdesk.focus_lt)))
  rw [openBehind, changeDesk_of_done h, Attempt.andThen, focusLabel_of_found hfound]
  rfl

/-- A window that has been opened is found, and it is there. -/
theorem exists_locate?_of_spawn (h : c.desk.spawn label (some title) = .done desk) :
    ∃ i w, desk.locate? label = some (i, w) ∧ desk.windows[i]? = some w := by
  obtain ⟨i, hi⟩ := Option.isSome_iff_exists.1 (Desk.isSome_indexOf?_of_spawn h)
  have hlt : i < desk.windows.length := Desk.lt_of_indexOf? hi
  have hw : desk.windows[i]? = some (desk.windows.get ⟨i, hlt⟩) := List.getElem?_eq_getElem hlt
  refine ⟨i, _, ?_, hw⟩
  rw [Desk.locate?, hi, Option.bind_some, hw]
  rfl

/-! ### The word in the window with the focus -/

/-- What says that something is new in a window hangs on its label and its number only. -/
theorem activity_of_grows {v w : Window} {lines : List Line} (h : Grows v lines w) :
    activity w = activity v := by
  unfold activity
  rw [h.label_eq, h.number_eq]

/-- The window with the focus is found by its label. -/
theorem locate?_active (hdesk : c.desk.WellFormed limit) :
    c.desk.locate? c.active.label = some (c.desk.focus, c.active) := by
  have hactive : c.desk.windows[c.desk.focus]? = some c.active := Desk.getElem?_active hdesk.focus_lt
  have hlabel : c.desk.labels[c.desk.focus]? = some c.active.label := by
    rw [Desk.labels, List.getElem?_map, hactive]
    rfl
  rw [Desk.locate?, hdesk.indexOf?_label hlabel (Text.alike_refl _)
    (hdesk.label_ne_empty (List.mem_of_getElem? hactive)), Option.bind_some, hactive]
  rfl

/-- Printing in the window with the focus posts a line there. -/
theorem posted_printActive (hdesk : c.desk.WellFormed limit) (text : String) (badge : Badge) :
    Posted (c.posts c.desk.focus c.active text badge c.isTimed) [] c (c.printActive text badge) := by
  obtain ⟨c', hdone, hposted⟩ := printTimed_of_found hdesk (locate?_active hdesk) text badge c.isTimed
  rw [printActive, printIn, print, hdone]
  exact hposted

/-- The lines of a message are the same once others have been posted. -/
theorem Posted.posts_eq {c' : Console} {ps : List Post} {told : List String} {lines : List Line}
    {v w : Window} (h : Posted ps told c c') (hgrows : Grows v lines w) (i : Nat) (text : String)
    (badge : Badge) (timed : Bool) : c'.posts i w text badge timed = c.posts i v text badge timed := by
  simp only [posts, h.lineOf, h.host, hgrows.label_eq, hgrows.logging_eq]

/-- The word that something is new in a window goes to the one with the focus, if that is another. -/
theorem posted_announce (hdesk : c.desk.WellFormed limit) {i : Nat} {w : Window}
    (hfound : c.desk.locate? label = some (i, w)) :
    Posted
      (if i = c.desk.focus then []
        else c.posts c.desk.focus c.active (activity w) .success c.isTimed)
      [] c (c.announce label) := by
  have hw : c.desk.windows[i]? = some w := (Desk.locate?_eq_some hfound).2
  have hactive : c.desk.windows[c.desk.focus]? = some c.active := Desk.getElem?_active hdesk.focus_lt
  have hsame : w.number = c.active.number ↔ i = c.desk.focus := by
    rw [hdesk.number_eq hw, hdesk.number_eq hactive, Nat.add_right_cancel_iff]
  have hget : c.desk.get? label = some w := by
    rw [Desk.get?, hfound]
    rfl
  rw [announce, hget]
  dsimp only
  by_cases hi : i = c.desk.focus
  · rw [if_pos hi, if_pos (hsame.2 hi)]
    exact .refl c
  · rw [if_neg hi, if_neg (fun h => hi (hsame.1 h))]
    exact posted_printActive hdesk ..

/-! ### Messages -/

/-- The lines that a message from the server comes to, when its conversation is at a position: one in the
conversation, and one in the window with the focus if a notice is given and the conversation is another
window. -/
def arrivals (c : Console) (m : Delivery) (i : Nat) (w : Window) : List Post :=
  c.posts i w m.text .none c.isTimed ++
    if m.notice.isSome = true ∧ i ≠ c.desk.focus then
      c.posts c.desk.focus c.active (activity w) .success c.isTimed
    else []

/-- Once a message has been printed, its notice is given, and the word that something is new. -/
theorem posted_notice (hdesk : c.desk.WellFormed limit) {i : Nat} {w : Window}
    (hfound : c.desk.locate? label = some (i, w)) {printed : Console} {ps : List Post}
    (hprinted : Posted ps [] c printed) (text : String) :
    Posted
      (ps ++ if i = c.desk.focus then []
        else c.posts c.desk.focus c.active (activity w) .success c.isTimed)
      [text] c ((printed.emit (.notice text)).announce label) := by
  have hemitted : Posted ps [text] c (printed.emit (.notice text)) := hprinted.emit (.notice text)
  generalize printed.emit (.notice text) = emitted at hemitted ⊢
  have hwell := hemitted.wellFormed hdesk
  obtain ⟨v, hv, hgrows⟩ := hemitted.locate? hfound
  obtain ⟨u, hu, hgrows'⟩ := hemitted.grows (Desk.getElem?_active hdesk.focus_lt)
  obtain rfl : emitted.active = u := by
    have hactive : emitted.desk.windows[emitted.desk.focus]? = some emitted.active :=
      Desk.getElem?_active hwell.focus_lt
    rw [hemitted.focus] at hactive
    exact Option.some.inj (hactive.symm.trans hu)
  have hword := posted_announce hwell hv
  rw [hemitted.focus, hemitted.isTimed, activity_of_grows hgrows, hemitted.posts_eq hgrows'] at hword
  exact List.append_nil [text] ▸ hemitted.trans hword

/-- A message whose conversation cannot be opened leaves nothing behind. -/
theorem receive_of_refused {title status : Style} (hbars : Current title status c.display)
    {nick target text : String} {why : Refusal}
    (h : c.desk.spawn (c.delivery nick target text).label
      (some (c.delivery nick target text).title) = .refused why desk) :
    c.receive nick target text = c := by
  have hfresh : c.freshen = c := by
    rw [freshen, Display.drawBars, hbars.drawTitleBar_eq, hbars.drawStatusBar_eq]
  rw [receive, openBehind_of_refused h]
  exact hfresh

/-- Neither the windows nor the bars have a say in what is printed. -/
theorem samePrint_freshen (c : Console) (desk : Desk) :
    SamePrint c (c.withDesk desk).freshen where
  settings := rfl
  now := rfl
  host := rfl
  enabled := (Grid.le_palette_pour ..).enabled_eq

/-- What a message leaves behind once its conversation is open. -/
theorem receive_of_done (hdesk : c.desk.WellFormed limit) {nick target text : String}
    (h : c.desk.spawn (c.delivery nick target text).label
      (some (c.delivery nick target text).title) = .done desk) {i : Nat} {w : Window}
    (hfound : desk.locate? (c.delivery nick target text).label = some (i, w)) :
    Posted (c.arrivals (c.delivery nick target text) i w)
      ((c.delivery nick target text).notice.map Notice.prepare).toList
      (c.withDesk { desk with focus := c.desk.focus }).freshen (c.receive nick target text) := by
  rw [receive, openBehind_of_done hdesk h]
  dsimp only
  generalize c.delivery nick target text = m at h hfound ⊢
  have hsame : SamePrint c (c.withDesk { desk with focus := c.desk.focus }).freshen :=
    samePrint_freshen ..
  have hwindows : (c.withDesk { desk with focus := c.desk.focus }).freshen.desk.windows
      = desk.windows := rfl
  have hfocus : (c.withDesk { desk with focus := c.desk.focus }).freshen.desk.focus
      = c.desk.focus := rfl
  have hfound' : (c.withDesk { desk with focus := c.desk.focus }).freshen.desk.locate? m.label
      = some (i, w) := hfound
  have hwell : (c.withDesk { desk with focus := c.desk.focus }).freshen.desk.WellFormed limit := by
    refine (Desk.wellFormed_spawn hdesk h).focusOn ?_
    rw [Desk.size, windows_of_spawn h, List.length_append]
    exact Nat.lt_of_lt_of_le hdesk.focus_lt (Nat.le_add_right ..)
  generalize (c.withDesk { desk with focus := c.desk.focus }).freshen = opened at *
  have hactive : opened.active = c.active := by
    have hopened : opened.desk.windows[opened.desk.focus]? = some opened.active :=
      Desk.getElem?_active hwell.focus_lt
    rw [hwindows, hfocus, windows_of_spawn h, List.getElem?_append_left hdesk.focus_lt,
      Desk.getElem?_active hdesk.focus_lt] at hopened
    exact (Option.some.inj hopened).symm
  have hposts (j : Nat) (v : Window) (text : String) (badge : Badge) :
      opened.posts j v text badge opened.isTimed = c.posts j v text badge c.isTimed := by
    simp only [posts, hsame.lineOf, hsame.host, hsame.isTimed]
  obtain ⟨printed, hdone, hprinted⟩ := printTimed_of_found hwell hfound' m.text .none opened.isTimed
  rw [print, hdone]
  rw [hposts] at hprinted
  dsimp only
  cases hnotice : m.notice with
  | none => simpa [arrivals, hnotice] using hprinted
  | some text =>
    have hall := posted_notice hwell hfound' hprinted (Notice.prepare text)
    rw [hfocus, hactive, hposts] at hall
    simpa [arrivals, hnotice, ite_not] using hall

/-- **A message keeps the focus where it is and reaches one conversation.**  Whatever has been asked of
the console before, a message is for the window of its sender if it was sent to us, and else for that of
its target.  If the desk refuses to open that window, the console stays as it is.  Otherwise the windows
that were open stay in their places, and the conversation is among them or the one that has been opened
behind them; the window with the focus keeps it.  Every window has grown by the lines in `arrivals` that
are for it, and by no other: these are the last in its backlog, and as many of the oldest have left as there
was no room for.  Its card, its members and the place of its view stay, and a window that gets no line is
the window it was.  A notice is given if the message concerns us, and no other. -/
theorem receive_run (s : Settings) (palette : Color.Palette) (host : String) (rows cols : Nat)
    (logDirectory : String) (now : Calendar.Moment) (requests : List Request)
    (nick target text : String) :
    let c := (new s palette host rows cols logDirectory now).run requests
    let m := c.delivery nick target text
    let c' := c.receive nick target text
    m.label = (if c.isToUs target then nick else target) ∧
      match c.desk.spawn m.label (some m.title) with
      | .refused _ _ => c' = c
      | .done desk =>
        desk.windows = c.desk.windows ++
            (if (c.desk.indexOf? m.label).isSome then []
              else [c.desk.opened m.label (some m.title)]) ∧
          c'.desk.focus = c.desk.focus ∧
          c'.desk.size = desk.size ∧
          ∃ i w, desk.locate? m.label = some (i, w) ∧
            (∀ j v, desk.windows[j]? = some v →
              let added := linesTo (c.arrivals m i w) j
              ∃ v', c'.desk.windows[j]? = some v' ∧ Grows v added v' ∧
                v'.backlog = added.foldl Backlog.push v.backlog ∧
                v'.backlog.lines = (v.backlog.lines ++ added).drop
                  (v.backlog.size + added.length - v.backlog.capacity) ∧
                v'.card = v.card ∧ v'.roster = v.roster ∧ v'.scroll = v.scroll) ∧
            c'.notices = c.notices ++ (m.notice.map Notice.prepare).toList := by
  intro c m c'
  have hdesk : c.desk.WellFormed (s.integer Settings.windowLimit).toNat :=
    wellFormed_run (Display.wellFormed_new s palette host rows cols) requests
  have hbars : Current { pair := (Display.titlePair s palette).1 }
      { pair := (Display.statusPair s palette).1 } c.display :=
    current_run (Display.current_new s palette host rows cols) requests
  refine ⟨?_, ?_⟩
  · simp only [m, delivery]
    split <;> rfl
  split
  · rename_i why hrefused
    exact receive_of_refused hbars hrefused
  · rename_i desk hopened
    obtain ⟨i, w, hfound, -⟩ := exists_locate?_of_spawn hopened
    have hposted := receive_of_done hdesk hopened hfound
    have hspawned : Display.Change (fun _ _ => True) c.display { c.display with desk } :=
      .spawn c.display hopened
    have hbounded : ∀ v ∈ desk.windows, v.backlog.Bounded :=
      (Display.housed_change Window.kept_bounded (housed_run Window.kept_bounded ..) hspawned).windows
    refine ⟨windows_of_spawn hopened, hposted.focus, hposted.size, i, w, hfound, ?_, hposted.notices⟩
    intro j v hv added
    obtain ⟨v', hv', hgrows⟩ := hposted.grows hv
    obtain ⟨hbacklog, hrest⟩ := hgrows.keeps
    have hlines := hgrows.lines_eq (hbounded v (List.mem_of_getElem? hv))
    exact ⟨v', hv', hgrows, hbacklog, hlines, hrest⟩

end Console
end ChatConsole
