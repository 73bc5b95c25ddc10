/-
# Requests to the desk

Windows are opened and closed, given the focus and a title, and laid out anew, in any order and with any
arguments.  One request keeps the desk well formed (`wellFormed_attempt`), and so do all of them
(`run_wellFormed`).  `Refuses` lists what is refused, and why.
-/

import ChatConsole.Proofs.Desk.WellFormed

namespace ChatConsole
namespace Desk

/-- What can be asked of the desk. -/
inductive Request where
  | spawn (label : String) (title : Option String)
  | destroy (label : String)
  | focusLabel (label : String)
  | focusNumber (number : Nat)
  | focusNeighbour (forward : Bool)
  | setTitle (label title : String)
  | closeQueries
  | recreateAll (palette : Color.Palette) (rows cols : Nat)

/-- Make a request, unless it is refused. -/
def answer (d : Desk) : Request → Attempt Desk
  | .spawn label title => d.spawn label title
  | .destroy label => d.destroy label
  | .focusLabel label => (d.focusLabel label).map Prod.fst
  | .focusNumber number => (d.focusNumber number).map Prod.fst
  | .focusNeighbour forward => .done (d.focusNeighbour forward).1
  | .setTitle label title => .done ((d.setTitle? label title).getD d)
  | .closeQueries => .done d.closeQueries.1
  | .recreateAll palette rows cols => .done (d.recreateAll palette rows cols).1

/-- Make a request: the desk as it leaves it, and why it was refused if it was. -/
def attempt (d : Desk) (r : Request) : Desk × Option Refusal :=
  match d.answer r with
  | .done d => (d, none)
  | .refused why d => (d, some why)

/-- Make one request after another. -/
def run (d : Desk) (rs : List Request) : Desk :=
  rs.foldl (fun d r => (d.attempt r).1) d

variable {d : Desk} {label : String} {limit : Nat}

/-! ### Answered requests -/

/-- What is refused leaves the desk as it is. -/
theorem leaves_answer (d : Desk) (r : Request) : (d.answer r).Leaves d := by
  cases r with
  | spawn label title => exact d.leaves_spawn label title
  | destroy label => exact d.leaves_destroy label
  | focusLabel label => exact (d.leaves_focusLabel label).map Prod.fst
  | focusNumber number => exact (d.leaves_focusNumber number).map Prod.fst
  | focusNeighbour | setTitle | closeQueries | recreateAll =>
    intro why d' h
    cases h

/-- One request keeps a desk well formed. -/
theorem wellFormed_answer (h : WellFormed limit d) {r : Request} {d' : Desk}
    (hanswer : d.answer r = .done d') : WellFormed limit d' := by
  cases r with
  | spawn label title => exact wellFormed_spawn h hanswer
  | destroy label => exact wellFormed_destroy h hanswer
  | focusLabel label =>
    obtain ⟨moved, hfocus, rfl⟩ := Attempt.map_eq_done_iff.1 hanswer
    exact wellFormed_focusLabel h hfocus
  | focusNumber number =>
    obtain ⟨moved, hfocus, rfl⟩ := Attempt.map_eq_done_iff.1 hanswer
    exact wellFormed_focusNumber h hfocus
  | focusNeighbour forward =>
    cases hanswer
    exact wellFormed_focusNeighbour h forward
  | setTitle label title =>
    cases hanswer
    cases hset : d.setTitle? label title with
    | none => exact h
    | some d' => exact wellFormed_setTitle? h hset
  | closeQueries =>
    cases hanswer
    exact wellFormed_closeQueries h
  | recreateAll palette rows cols =>
    cases hanswer
    exact wellFormed_recreateAll h palette rows cols

theorem wellFormed_attempt (h : WellFormed limit d) (r : Request) :
    WellFormed limit (d.attempt r).1 := by
  unfold attempt
  cases hanswer : d.answer r with
  | done d' => exact wellFormed_answer h hanswer
  | refused why d' =>
    obtain rfl := d.leaves_answer r why d' hanswer
    exact h

theorem wellFormed_run (h : WellFormed limit d) (rs : List Request) :
    WellFormed limit (d.run rs) := by
  unfold run
  induction rs generalizing d with
  | nil => exact h
  | cons r rs ih => exact ih (wellFormed_attempt h r)

/-! ### Refused requests -/

/-- What a desk refuses, and why: to open a window without a label or beyond the limit, to close the
status window, and to close or give the focus to a window that is not there. -/
inductive Refuses (d : Desk) : Request → Refusal → Prop where
  | spawnUnlabelled (title : Option String) : Refuses d (.spawn "" title) (.invalidLabel "")
  | spawnBeyond {label : String} (title : Option String) (hlabel : label ≠ "")
      (hfree : d.indexOf? label = none) (hfull : d.limit < d.size + 1) :
      Refuses d (.spawn label title) (.limitExceeded d.limit)
  | destroyUnlabelled : Refuses d (.destroy "") (.invalidLabel "")
  | destroyStatus {label : String} (hstatus : Window.isStatusLabel label = true) :
      Refuses d (.destroy label) (.invalidLabel label)
  | destroyMissing {label : String} (hlabel : label ≠ "")
      (hstatus : Window.isStatusLabel label = false) (hfree : d.indexOf? label = none) :
      Refuses d (.destroy label) (.notFound label)
  | focusMissing {label : String} (hfree : d.indexOf? label = none) :
      Refuses d (.focusLabel label) (.notFound label)
  | focusBeyond {number : Nat} (hnumber : number = 0 ∨ d.size < number) :
      Refuses d (.focusNumber number) (.notFound (toString number))

variable {d' : Desk} {why : Refusal}

theorem spawn_eq_refused_iff {title : Option String} :
    d.spawn label title = .refused why d' ↔ d.Refuses (.spawn label title) why ∧ d' = d := by
  constructor
  · intro h
    refine ⟨?_, d.leaves_spawn label title why d' h⟩
    unfold spawn at h
    split at h
    · rename_i hempty
      cases h
      obtain rfl : label = "" := by simpa using hempty
      exact .spawnUnlabelled title
    rename_i hempty
    split at h
    · cases h
    rename_i hfree
    split at h
    · rename_i hfull
      cases h
      exact .spawnBeyond title (by simpa using hempty) (by simpa using hfree) hfull
    · cases h
  · rintro ⟨h, rfl⟩
    cases h with
    | spawnUnlabelled => rfl
    | spawnBeyond _ hlabel hfree hfull => simp [spawn, hlabel, hfree, hfull]

theorem destroy_eq_refused_iff :
    d.destroy label = .refused why d' ↔ d.Refuses (.destroy label) why ∧ d' = d := by
  constructor
  · intro h
    refine ⟨?_, d.leaves_destroy label why d' h⟩
    unfold destroy at h
    split at h
    · rename_i hlabel
      cases h
      rw [Bool.or_eq_true] at hlabel
      rcases hlabel with hempty | hstatus
      · obtain rfl : label = "" := by simpa using hempty
        exact .destroyUnlabelled
      · exact .destroyStatus hstatus
    rename_i hlabel
    simp only [Bool.or_eq_true, not_or, Bool.not_eq_true] at hlabel
    split at h
    · rename_i hfree
      cases h
      exact .destroyMissing (by simpa using hlabel.1) hlabel.2 hfree
    · cases h
  · rintro ⟨h, rfl⟩
    cases h with
    | destroyUnlabelled => rfl
    | destroyStatus hstatus => simp [destroy, hstatus]
    | destroyMissing hlabel hstatus hfree => simp [destroy, hlabel, hstatus, hfree]

theorem focusLabel_eq_refused_iff :
    (d.focusLabel label).map Prod.fst = .refused why d' ↔ d.Refuses (.focusLabel label) why ∧ d' = d := by
  constructor
  · intro h
    refine ⟨?_, (d.leaves_focusLabel label).map Prod.fst why d' h⟩
    obtain ⟨left, hfocus, -⟩ := Attempt.map_eq_refused_iff.1 h
    unfold focusLabel at hfocus
    split at hfocus
    · cases hfocus
    · rename_i hfree
      cases hfocus
      exact .focusMissing hfree
  · rintro ⟨h, rfl⟩
    cases h with
    | focusMissing hfree =>
      rw [focusLabel, hfree]
      rfl

theorem focusNumber_eq_refused_iff {number : Nat} :
    (d.focusNumber number).map Prod.fst = .refused why d' ↔
      d.Refuses (.focusNumber number) why ∧ d' = d := by
  constructor
  · intro h
    refine ⟨?_, (d.leaves_focusNumber number).map Prod.fst why d' h⟩
    obtain ⟨left, hfocus, -⟩ := Attempt.map_eq_refused_iff.1 h
    unfold focusNumber at hfocus
    split at hfocus
    · rename_i hnumber
      cases hfocus
      exact .focusBeyond (by simpa using hnumber)
    · cases hfocus
  · rintro ⟨h, rfl⟩
    cases h with
    | focusBeyond hnumber =>
      rw [focusNumber, if_pos (by simpa using hnumber)]
      rfl

/-- A request is refused for these causes, and for no other, and then the desk is left as it is. -/
theorem answer_eq_refused_iff {r : Request} :
    d.answer r = .refused why d' ↔ d.Refuses r why ∧ d' = d := by
  cases r with
  | spawn label title => exact spawn_eq_refused_iff
  | destroy label => exact destroy_eq_refused_iff
  | focusLabel label => exact focusLabel_eq_refused_iff
  | focusNumber number => exact focusNumber_eq_refused_iff
  | focusNeighbour | setTitle | closeQueries | recreateAll =>
    constructor
    · intro h
      cases h
    · rintro ⟨h, -⟩
      cases h

/-- A refused request is refused for cause and changes nothing. -/
theorem attempt_of_refused {r : Request} (h : (d.attempt r).2 = some why) :
    d.Refuses r why ∧ (d.attempt r).1 = d := by
  unfold attempt at h ⊢
  cases hanswer : d.answer r with
  | done d' =>
    rw [hanswer] at h
    cases h
  | refused why' d' =>
    rw [hanswer] at h
    cases h
    exact answer_eq_refused_iff.1 hanswer

/-- **The desk stays well formed**, whatever is asked of it and in whatever order.  The windows are
numbered by their positions; the status window is the first, and every other label is neither empty nor
alike to its; no two labels are alike; some window has the focus; there are no more windows than may be,
the status window aside.  A label finds the window whose label is alike, a number the window that has
it, and the two agree.  A request is refused for one of the causes in `Refuses`, and then it changes
nothing. -/
theorem run_wellFormed (rows cols limit capacity : Nat) (requests : List Request) :
    let d := (new rows cols limit capacity).run requests
    (∀ i w, d.windows[i]? = some w → w.number = i + 1) ∧
      d.status.label = Window.statusLabel ∧
      (∀ w ∈ d.others, w.label ≠ "" ∧ w.isStatus = false) ∧
      d.windows.Pairwise (fun v w => Text.alike v.label w.label = false) ∧
      d.focus < d.size ∧
      d.size ≤ max 1 limit ∧
      (∀ label w, d.get? label = some w ↔ w ∈ d.windows ∧ Text.alike w.label label = true) ∧
      (∀ number w, d.byNumber? number = some w ↔ w ∈ d.windows ∧ w.number = number) ∧
      (∀ w ∈ d.windows, d.get? w.label = d.byNumber? w.number) ∧
      ∀ request why, (d.attempt request).2 = some why →
        d.Refuses request why ∧ (d.attempt request).1 = d := by
  intro d
  have h : WellFormed limit d := wellFormed_run (wellFormed_new ..) requests
  have hfirst : d.status.label = Window.statusLabel := Option.some.inj h.first_label
  have hdistinct : d.windows.Pairwise fun v w => Text.alike v.label w.label = false :=
    List.pairwise_map.1 h.distinct
  refine ⟨fun i w => h.number_eq, hfirst, ?_, hdistinct, h.focus_lt, h.size_le,
    fun label w => h.get?_eq_some_iff, fun number w => h.byNumber?_eq_some_iff, ?_,
    fun request why => attempt_of_refused⟩
  · intro w hw
    refine ⟨h.label_ne_empty (List.mem_cons_of_mem _ hw), ?_⟩
    have hother := (List.pairwise_cons.1 hdistinct).1 w hw
    rwa [hfirst, Text.alike_comm] at hother
  · intro w hw
    obtain ⟨hlabel, hnumber⟩ := h.get?_label hw
    rw [hlabel, hnumber]

end Desk
end ChatConsole
