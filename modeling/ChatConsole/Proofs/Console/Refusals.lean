/-
# Refused operations

Ten operations of the console may be refused, and some of them have several parts, each of which may be.
On a well-formed desk only the first part is ever refused, before anything has been done: a window that
has been opened is found, and the status window is found and can have a transcript.  So a refused
operation has no effect at all (`refused_run`).  `Refuses` lists what is refused, and why.
-/

import ChatConsole.Proofs.Console.Changes
import ChatConsole.Proofs.Console.Printing

namespace ChatConsole
namespace Console

/-- An operation that may be refused. -/
inductive Operation where
  | print (label text : String) (badge : Badge)
  | printTimed (label text : String) (badge : Badge) (timed : Bool)
  | spawn (label : String) (title : Option String)
  | destroy (label : String)
  | focusNumber (number : Nat)
  | setChannelModes (label modes : String)
  | setMembers (label : String) (entries : List String)
  | join (label nick : String)
  | part (label nick : String)
  | setRank (label nick : String) (rank : Rank)

/-- Carry out an operation, unless it is refused. -/
def attempt (c : Console) : Operation → Attempt Console
  | .print label text badge => c.print label text badge
  | .printTimed label text badge timed => c.printTimed label text badge timed
  | .spawn label title => c.spawn label title
  | .destroy label => c.destroy label
  | .focusNumber number => c.focusNumber number
  | .setChannelModes label modes => c.setChannelModes label modes
  | .setMembers label entries => c.setMembers label entries
  | .join label nick => c.join label nick
  | .part label nick => c.part label nick
  | .setRank label nick rank => c.setRank label nick rank

/-- The request to the desk that an operation begins with. -/
def Operation.onDesk? : Operation → Option Desk.Request
  | .spawn label title => some (.spawn label title)
  | .destroy label => some (.destroy label)
  | .focusNumber number => some (.focusNumber number)
  | _ => none

/-- The label of the window that an operation is about, if it looks for one. -/
def Operation.label? : Operation → Option String
  | .print label _ _ => some label
  | .printTimed label _ _ _ => some label
  | .setChannelModes label _ => some label
  | .setMembers label _ => some label
  | .join label _ => some label
  | .part label _ => some label
  | .setRank label _ _ => some label
  | _ => none

/-- What a console refuses, and why: what its desk refuses, and whatever is about a window that is not
there. -/
inductive Refuses (c : Console) : Operation → Refusal → Prop where
  | onDesk {op : Operation} {r : Desk.Request} {why : Refusal} (hop : op.onDesk? = some r)
      (h : c.desk.Refuses r why) : Refuses c op why
  | missing {op : Operation} {label : String} (hop : op.label? = some label)
      (h : c.desk.indexOf? label = none) : Refuses c op (.notFound label)

variable {c c' : Console} {limit : Nat} {label : String} {why : Refusal}

/-! ### What the desk refuses -/

/-- An operation that the desk decides on is refused for the causes for which the desk refuses. -/
theorem eq_refused_iff_of_desk {a : Attempt Desk} {b : Attempt Console} {cause : Refusal → Prop}
    (ha : ∀ {why desk}, a = .refused why desk ↔ cause why ∧ desk = c.desk)
    (hdone : ∀ desk, a = .done desk → ∃ after, b = .done after)
    (hrefused : ∀ why, a = .refused why c.desk → b = .refused why c) :
    b = .refused why c' ↔ cause why ∧ c' = c := by
  constructor
  · intro h
    cases hdesk : a with
    | done desk =>
      obtain ⟨after, hafter⟩ := hdone desk hdesk
      cases hafter.symm.trans h
    | refused why' desk =>
      obtain ⟨hcause, rfl⟩ := ha.1 hdesk
      cases (hrefused why' hdesk).symm.trans h
      exact ⟨hcause, rfl⟩
  · rintro ⟨hcause, rfl⟩
    exact hrefused why (ha.2 ⟨hcause, rfl⟩)

/-- A change of the desk with the bars drawn after it is refused when the desk refuses it. -/
theorem changeDesk_eq_refused_iff {change : Desk → Attempt Desk} {cause : Refusal → Prop}
    (h : ∀ {why desk}, change c.desk = .refused why desk ↔ cause why ∧ desk = c.desk) :
    ((c.changeDesk change).andThen fun c => .done c.redraw) = .refused why c' ↔
      cause why ∧ c' = c := by
  refine eq_refused_iff_of_desk h (fun desk hdone => ?_) (fun why hrefused => ?_)
  · rw [changeDesk_of_done hdone]
    exact ⟨_, rfl⟩
  · rw [changeDesk_of_refused hrefused]
    rfl

/-- Opening a window is refused when the desk refuses it. -/
theorem spawn_eq_refused_iff {title : Option String} :
    c.spawn label title = .refused why c' ↔
      c.desk.Refuses (.spawn label title) why ∧ c' = c := by
  refine eq_refused_iff_of_desk Desk.spawn_eq_refused_iff (fun desk hdone => ?_)
    (fun why hrefused => spawn_of_refused hrefused)
  obtain ⟨i, -, hspawn⟩ := spawn_of_done hdone
  exact ⟨_, hspawn⟩

/-! ### What is about a window that is not there -/

theorem locate?_eq_none_iff {d : Desk} : d.locate? label = none ↔ d.indexOf? label = none := by
  constructor
  · intro h
    cases hi : d.indexOf? label with
    | none => rfl
    | some i =>
      have hlt : i < d.windows.length := Desk.lt_of_indexOf? hi
      rw [Desk.locate?, hi, Option.bind_some, List.getElem?_eq_getElem hlt] at h
      cases h
  · intro h
    rw [Desk.locate?, h]
    rfl

theorem printTimed_eq_refused_iff (h : c.desk.WellFormed limit) {text : String} {badge : Badge}
    {timed : Bool} :
    c.printTimed label text badge timed = .refused why c' ↔
      (c.desk.indexOf? label = none ∧ why = .notFound label) ∧ c' = c := by
  rw [← locate?_eq_none_iff]
  cases hfound : c.desk.locate? label with
  | none =>
    rw [printTimed_of_missing hfound]
    simp [eq_comm]
  | some p =>
    obtain ⟨c'', hdone, -⟩ := printTimed_of_found h hfound text badge timed
    rw [hdone]
    simp

theorem change_eq_refused_iff {f : Window → Window} :
    c.change label f = .refused why c' ↔
      (c.desk.indexOf? label = none ∧ why = .notFound label) ∧ c' = c := by
  rw [← locate?_eq_none_iff, change]
  cases hfound : c.desk.locate? label with
  | none => simp [eq_comm]
  | some p => simp

/-! ### Every operation -/

theorem refuses_iff_onDesk {op : Operation} {r : Desk.Request} (hop : op.onDesk? = some r)
    (hlabel : op.label? = none) : c.Refuses op why ↔ c.desk.Refuses r why := by
  constructor
  · intro h
    cases h with
    | onDesk hop' h =>
      obtain rfl := Option.some.inj (hop.symm.trans hop')
      exact h
    | missing hlabel' =>
      rw [hlabel] at hlabel'
      cases hlabel'
  · exact .onDesk hop

theorem refuses_iff_missing {op : Operation} (hop : op.onDesk? = none)
    (hlabel : op.label? = some label) :
    c.Refuses op why ↔ c.desk.indexOf? label = none ∧ why = .notFound label := by
  constructor
  · intro h
    cases h with
    | onDesk hop' =>
      rw [hop] at hop'
      cases hop'
    | missing hlabel' h =>
      obtain rfl := Option.some.inj (hlabel.symm.trans hlabel')
      exact ⟨h, rfl⟩
  · rintro ⟨h, rfl⟩
    exact .missing hlabel h

/-- On a well-formed desk an operation is refused for these causes only, and with nothing done. -/
theorem attempt_eq_refused_iff (h : c.desk.WellFormed limit) {op : Operation} :
    c.attempt op = .refused why c' ↔ c.Refuses op why ∧ c' = c := by
  cases op with
  | print | printTimed =>
    rw [refuses_iff_missing rfl rfl]
    exact printTimed_eq_refused_iff h
  | spawn label title =>
    rw [refuses_iff_onDesk rfl rfl]
    exact spawn_eq_refused_iff
  | destroy label =>
    rw [refuses_iff_onDesk rfl rfl]
    exact changeDesk_eq_refused_iff Desk.destroy_eq_refused_iff
  | focusNumber number =>
    rw [refuses_iff_onDesk rfl rfl]
    exact changeDesk_eq_refused_iff Desk.focusNumber_eq_refused_iff
  | setChannelModes | setMembers | join | part | setRank =>
    rw [refuses_iff_missing rfl rfl]
    exact change_eq_refused_iff

/-- **A refused operation has no effect.**  Whatever has been asked of the console before, an operation
that may be refused is refused exactly for one of the causes in `Refuses`, and then the console is what it
was: every window with its lines, its view, its members and its panes, the focus, the colours, the bars,
the input row, and what has been asked of the world, so that no frame is shown and no line of a transcript
is written. -/
theorem refused_run (s : Settings) (palette : Color.Palette) (host : String) (rows cols : Nat)
    (logDirectory : String) (now : Calendar.Moment) (requests : List Request) (op : Operation)
    (why : Refusal) (after : Console) :
    let c := (new s palette host rows cols logDirectory now).run requests
    c.attempt op = .refused why after ↔ c.Refuses op why ∧ after = c := by
  intro c
  have hdesk : c.desk.WellFormed (s.integer Settings.windowLimit).toNat :=
    wellFormed_run (Display.wellFormed_new s palette host rows cols) requests
  exact attempt_eq_refused_iff hdesk

end Console
end ChatConsole
