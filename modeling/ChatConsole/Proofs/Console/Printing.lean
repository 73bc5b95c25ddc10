/-
# Where printed lines go

A message that is printed is one line in the window with its label.  If that window is logged and can have
no transcript, there is a second line, in the status window; there it ends, because the status window can
have one.  `posts` lists the lines with the positions of their windows, and `Posted` says that these have
been appended, that nothing else of the desk has changed, and which notices have been given meanwhile.
-/

import ChatConsole.Console.Incoming
import ChatConsole.Proofs.Backlog.Kept
import ChatConsole.Proofs.Display.Bars
import ChatConsole.Proofs.Desk.WellFormed

namespace ChatConsole

/-! ### Windows with lines appended -/

/-- The second window is the first after some lines have been appended, painted with some palettes. -/
inductive Window.Grows : Window → List Line → Window → Prop where
  | nil (w : Window) : Grows w [] w
  | cons {w v : Window} {line : Line} {lines : List Line} (p : Color.Palette)
      (h : Grows (w.append p line).1 lines v) : Grows w (line :: lines) v

namespace Window.Grows

variable {u v w : Window} {lines more : List Line}

theorem append (hvw : Grows v more w) (huv : Grows u lines v) : Grows u (lines ++ more) w := by
  induction huv with
  | nil => exact hvw
  | cons p _ ih => exact .cons p (ih hvw)

/-- The lines come at the end of the backlog, the card, the members and the place of the view stay. -/
theorem keeps (h : Grows v lines w) :
    w.backlog = lines.foldl Backlog.push v.backlog ∧ w.card = v.card ∧ w.roster = v.roster ∧
      w.scroll = v.scroll := by
  induction h with
  | nil => exact ⟨rfl, rfl, rfl, rfl⟩
  | @cons v _ line _ p _ ih =>
    obtain ⟨hbacklog, hcard, hroster, hscroll⟩ := ih
    have hpushed : (v.append p line).1.backlog = v.backlog.push line := (append_rest ..).backlog
    refine ⟨?_, hcard.trans (card_append ..), hroster.trans (roster_append ..),
      hscroll.trans (scroll_append ..)⟩
    rw [hbacklog, hpushed]
    rfl

/-- The lines are the last that are stored, and as many of the oldest have left as there was no room
for. -/
theorem lines_eq (h : Grows v lines w) (hv : v.backlog.Bounded) :
    w.backlog.lines
      = (v.backlog.lines ++ lines).drop (v.backlog.size + lines.length - v.backlog.capacity) := by
  rw [h.keeps.1, hv.lines_foldl_push]

theorem label_eq (h : Grows v lines w) : w.label = v.label :=
  congrArg Card.label h.keeps.2.1

theorem number_eq (h : Grows v lines w) : w.number = v.number :=
  congrArg Card.number h.keeps.2.1

theorem logging_eq (h : Grows v lines w) : w.logging = v.logging :=
  congrArg Card.logging h.keeps.2.1

end Window.Grows

open Window (Grows)

/-! ### Posted lines -/

/-- A line and the position of the window it is for. -/
abbrev Post := Nat × Line

/-- The lines for one window. -/
def linesTo (posts : List Post) (i : Nat) : List Line :=
  (posts.filter (·.1 = i)).map Prod.snd

theorem linesTo_append (ps qs : List Post) (i : Nat) :
    linesTo (ps ++ qs) i = linesTo ps i ++ linesTo qs i := by
  rw [linesTo, List.filter_append, List.map_append]
  rfl

/-- The text of a notice. -/
def Effect.notice? : Effect → Option String
  | notice text => some text
  | _ => none

namespace Console

/-- The notices that have been given. -/
def notices (c : Console) : List String :=
  c.effects.filterMap Effect.notice?

/-- All that a line and its file are made of, besides the message, is the same. -/
structure SamePrint (c c' : Console) : Prop where
  settings : c'.settings = c.settings
  now : c'.now = c.now
  host : c'.display.host = c.display.host
  enabled : c'.display.palette.enabled = c.display.palette.enabled

/-- Lines have been appended, each to the window it is for, and nothing else has been done to the desk;
notices have been given of some texts. -/
structure Posted (posts : List Post) (told : List String) (c c' : Console) : Prop extends
    SamePrint c c' where
  focus : c'.desk.focus = c.desk.focus
  size : c'.desk.size = c.desk.size
  limit : c'.desk.limit = c.desk.limit
  grows : ∀ {i w}, c.desk.windows[i]? = some w →
    ∃ v, c'.desk.windows[i]? = some v ∧ Grows w (linesTo posts i) v
  notices : c'.notices = c.notices ++ told

variable {c c' c'' : Console} {ps qs : List Post} {told told' : List String} {limit : Nat}

namespace SamePrint

theorem trans (h : SamePrint c c') (h' : SamePrint c' c'') : SamePrint c c'' where
  settings := h'.settings.trans h.settings
  now := h'.now.trans h.now
  host := h'.host.trans h.host
  enabled := h'.enabled.trans h.enabled

theorem lineOf (h : SamePrint c c') (text : String) (badge : Badge) (timed : Bool) :
    c'.lineOf text badge timed = c.lineOf text badge timed := by
  simp only [Console.lineOf, h.settings, h.now, h.enabled]

theorem isTimed (h : SamePrint c c') : c'.isTimed = c.isTimed := by
  rw [Console.isTimed, h.settings]
  rfl

end SamePrint

theorem notices_emit (c : Console) (e : Effect) :
    (c.emit e).notices = c.notices ++ e.notice?.toList := by
  rw [notices, emit, List.filterMap_append]
  cases e <;> rfl

namespace Posted

theorem refl (c : Console) : Posted [] [] c c where
  settings := rfl
  now := rfl
  host := rfl
  enabled := rfl
  focus := rfl
  size := rfl
  limit := rfl
  grows hw := ⟨_, hw, .nil _⟩
  notices := (List.append_nil _).symm

theorem trans (h : Posted ps told c c') (h' : Posted qs told' c' c'') :
    Posted (ps ++ qs) (told ++ told') c c'' :=
  { h.toSamePrint.trans h'.toSamePrint with
    focus := h'.focus.trans h.focus
    size := h'.size.trans h.size
    limit := h'.limit.trans h.limit
    grows := by
      intro i w hw
      obtain ⟨v, hv, hgrows⟩ := h.grows hw
      obtain ⟨u, hu, hgrows'⟩ := h'.grows hv
      exact ⟨u, hu, linesTo_append .. ▸ hgrows'.append hgrows⟩
    notices := by rw [h'.notices, h.notices, List.append_assoc] }

/-- Windows keep what lines do not touch. -/
theorem map_windows {α : Type} (h : Posted ps told c c') {f : Window → α}
    (hf : ∀ {v w lines}, Grows v lines w → f w = f v) :
    c'.desk.windows.map f = c.desk.windows.map f := by
  apply List.ext_getElem?
  intro i
  rw [List.getElem?_map, List.getElem?_map]
  cases hw : c.desk.windows[i]? with
  | some w =>
    obtain ⟨v, hv, hgrows⟩ := h.grows hw
    rw [hv, Option.map_some, Option.map_some, hf hgrows]
  | none =>
    have hsize : c'.desk.windows.length = c.desk.windows.length := h.size
    have hnone : c'.desk.windows[i]? = none := by
      rw [List.getElem?_eq_none_iff, hsize]
      exact List.getElem?_eq_none_iff.1 hw
    rw [hnone]

theorem wellFormed (h : Posted ps told c c') (hdesk : c.desk.WellFormed limit) :
    c'.desk.WellFormed limit :=
  hdesk.of_same (h.map_windows Grows.label_eq) (h.map_windows Grows.number_eq)
    (by rw [h.focus]; exact hdesk.focus_lt) h.limit

/-- A window that has got lines is found where it was. -/
theorem locate? (h : Posted ps told c c') {label : String} {i : Nat} {w : Window}
    (hfound : c.desk.locate? label = some (i, w)) :
    ∃ v, c'.desk.locate? label = some (i, v) ∧ Grows w (linesTo ps i) v := by
  obtain ⟨hi, hw⟩ := Desk.locate?_eq_some hfound
  obtain ⟨v, hv, hgrows⟩ := h.grows hw
  have hsame : c'.desk.indexOf? label = c.desk.indexOf? label := by
    rw [Desk.indexOf?_eq, Desk.indexOf?_eq]
    exact congrArg (fun labels : List String =>
      if label.isEmpty then none else labels.findIdx? (Text.alike · label))
      (h.map_windows Grows.label_eq)
  refine ⟨v, ?_, hgrows⟩
  rw [Desk.locate?, hsame, hi, Option.bind_some, hv]
  rfl

/-- What is asked of the world does nothing to the desk. -/
theorem emit (h : Posted ps told c c') (e : Effect) :
    Posted ps (told ++ e.notice?.toList) c (c'.emit e) :=
  { h with notices := by rw [notices_emit, h.notices, List.append_assoc] }

end Posted

/-- Storing a line appends it. -/
theorem posted_store {i : Nat} {w : Window} (hw : c.desk.windows[i]? = some w) (line : Line) :
    Posted [(i, line)] [] c (c.store i w line) where
  settings := rfl
  now := rfl
  host := rfl
  enabled := (Window.le_palette_append ..).enabled_eq
  focus := Desk.focus_setWindows ..
  size := Desk.size_set ..
  limit := Desk.limit_setWindows ..
  grows {j v} hv := by
    have hwindows : (c.store i w line).desk.windows[j]?
        = (c.desk.windows.set i (w.append c.display.palette line).1)[j]? :=
      congrArg (·[j]?) (Desk.windows_set ..)
    rw [hwindows]
    by_cases hij : i = j
    · subst hij
      obtain rfl : w = v := Option.some.inj (hw.symm.trans hv)
      refine ⟨_, List.getElem?_set_self (List.getElem?_eq_some_iff.1 hw).1, ?_⟩
      simp only [linesTo, decide_true, List.filter_cons_of_pos, List.filter_nil, List.map_cons,
        List.map_nil]
      exact .cons _ (.nil _)
    · refine ⟨v, (List.getElem?_set_ne hij).trans hv, ?_⟩
      simp only [linesTo, hij, decide_false, Bool.false_eq_true, not_false_eq_true,
        List.filter_cons_of_neg, List.filter_nil, List.map_nil]
      exact .nil v
  notices := (List.append_nil _).symm

/-- The lines that a message for a window comes to. -/
def posts (c : Console) (i : Nat) (w : Window) (text : String) (badge : Badge) (timed : Bool) :
    List Post :=
  (i, c.lineOf text badge timed) ::
    if w.logging = true ∧ Transcript.file? c.display.host w.label = none then
      [(0, c.lineOf (nameless w.label) .failure timed)]
    else []

/-- The status window is found, and it can have a transcript. -/
theorem write_status (h : c.desk.WellFormed limit) (text : String) (badge : Badge) (timed : Bool) :
    ∃ c', c.write Window.statusLabel text badge timed = .done c' ∧
      Posted [(0, c.lineOf text badge timed)] [] c c' := by
  have hstatus : c.desk.windows[0]? = some c.desk.status := rfl
  have hlabel : c.desk.status.label = Window.statusLabel := Option.some.inj h.first_label
  have hfound : c.desk.locate? Window.statusLabel = some (0, c.desk.status) := by
    rw [Desk.locate?, h.indexOf?_label h.first_label (Text.alike_refl _) (by decide)]
    rfl
  have hstored := posted_store hstatus (c.lineOf text badge timed)
  cases hlogging : c.desk.status.logging with
  | false => exact ⟨_, write_of_unlogged hfound hlogging, hstored⟩
  | true =>
    cases hfile : Transcript.file? c.display.host c.desk.status.label with
    | some file => exact ⟨_, write_of_file hfound hlogging hfile, hstored.emit (.log file _)⟩
    | none =>
      have hother := Transcript.isStatusLabel_of_file?_eq_none hfile
      rw [hlabel, Window.isStatusLabel_statusLabel] at hother
      cases hother

/-- Storing a line leaves the desk well formed. -/
theorem wellFormed_store (h : c.desk.WellFormed limit) {i : Nat} {w : Window}
    (hw : c.desk.windows[i]? = some w) (line : Line) : (c.store i w line).desk.WellFormed limit := by
  have hcard : (w.append c.display.palette line).1.card = w.card := Window.card_append ..
  exact h.set hw (congrArg Window.Card.label hcard) (congrArg Window.Card.number hcard)

/-- **Writing in a window that is found posts the message**, and is not refused. -/
theorem write_of_found (h : c.desk.WellFormed limit) {label : String} {i : Nat} {w : Window}
    (hfound : c.desk.locate? label = some (i, w)) (text : String) (badge : Badge) (timed : Bool) :
    ∃ c', c.write label text badge timed = .done c' ∧
      Posted (c.posts i w text badge timed) [] c c' := by
  have hw : c.desk.windows[i]? = some w := (Desk.locate?_eq_some hfound).2
  have hstored := posted_store hw (c.lineOf text badge timed)
  unfold posts
  cases hlogging : w.logging with
  | false =>
    refine ⟨_, write_of_unlogged hfound hlogging, ?_⟩
    rw [if_neg (by simp)]
    exact hstored
  | true =>
    cases hfile : Transcript.file? c.display.host w.label with
    | some file =>
      refine ⟨_, write_of_file hfound hlogging hfile, ?_⟩
      rw [if_neg (by simp)]
      exact hstored.emit (.log file _)
    | none =>
      obtain ⟨c', hdone, hposted⟩ := write_status (wellFormed_store h hw _) (nameless w.label) .failure
        timed
      refine ⟨c', (write_of_nameless hfound hlogging hfile).trans hdone, ?_⟩
      rw [hstored.lineOf] at hposted
      rw [if_pos ⟨rfl, rfl⟩]
      exact hstored.trans hposted

/-- Printing shows what has been written. -/
theorem printTimed_of_found (h : c.desk.WellFormed limit) {label : String} {i : Nat} {w : Window}
    (hfound : c.desk.locate? label = some (i, w)) (text : String) (badge : Badge) (timed : Bool) :
    ∃ c', c.printTimed label text badge timed = .done c' ∧
      Posted (c.posts i w text badge timed) [] c c' := by
  obtain ⟨c', hdone, hposted⟩ := write_of_found h hfound text badge timed
  refine ⟨c'.refresh, ?_, hposted.emit (.frame c'.display)⟩
  rw [printTimed, hdone]
  rfl

theorem printTimed_of_missing {label : String} (hmissing : c.desk.locate? label = none)
    (text : String) (badge : Badge) (timed : Bool) :
    c.printTimed label text badge timed = .refused (.notFound label) c := by
  rw [printTimed, write_of_missing hmissing]
  rfl

end Console
end ChatConsole
