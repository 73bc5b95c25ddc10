/-
# Closing the queries

The queries are closed one after another by their labels, and each time the windows behind move up and are
numbered anew.  On a desk on which no two labels are alike each label still finds the window it was taken
from (`WellFormed.destroy_eq`).  So what is left are the windows that are no queries, numbered by their
positions (`closeQueries_eq`).
-/

import ChatConsole.Proofs.Desk.Requests
import Mathlib.Data.List.Basic

namespace ChatConsole

namespace Window

/-- A window that is neither the status window nor a channel. -/
def isQuery (w : Window) : Bool :=
  !w.isStatus && !w.isChannel

theorem not_isQuery (w : Window) : (!w.isQuery) = (w.isStatus || w.isChannel) := by
  rw [isQuery, Bool.not_and, Bool.not_not, Bool.not_not]

/-- A window apart from its number. -/
def unnumbered (w : Window) : Window :=
  { w with number := 0 }

end Window

namespace Desk

variable {d : Desk} {limit : Nat} {w : Window} {ws as bs : List Window} {p : Window → Bool}

/-! ### Numbering anew -/

/-- Numbering does not depend on the numbers there were. -/
theorem renumber_unnumbered (ws : List Window) : renumber (ws.map Window.unnumbered) = renumber ws := by
  apply List.ext_getElem?
  intro i
  rw [renumber, renumber, List.getElem?_mapIdx, List.getElem?_mapIdx, List.getElem?_map]
  cases ws[i]? <;> rfl

theorem unnumbered_renumber (ws : List Window) :
    (renumber ws).map Window.unnumbered = ws.map Window.unnumbered := by
  apply List.ext_getElem?
  intro i
  rw [renumber, List.getElem?_map, List.getElem?_mapIdx, List.getElem?_map]
  cases ws[i]? <;> rfl

/-- Windows that are chosen by anything but their numbers may be numbered before or after. -/
theorem unnumbered_filter_renumber (hp : p ∘ Window.unnumbered = p) (ws : List Window) :
    ((renumber ws).filter p).map Window.unnumbered = (ws.filter p).map Window.unnumbered := by
  have hfilter (vs : List Window) :
      (vs.filter p).map Window.unnumbered = (vs.map Window.unnumbered).filter p := by
    rw [List.filter_map, hp]
  rw [hfilter, unnumbered_renumber, hfilter]

theorem renumber_filter_renumber (hp : p ∘ Window.unnumbered = p) (ws : List Window) :
    renumber ((renumber ws).filter p) = renumber (ws.filter p) := by
  rw [← renumber_unnumbered, unnumbered_filter_renumber hp, renumber_unnumbered]

theorem labels_filter_renumber (hp : p ∘ Window.unnumbered = p) (ws : List Window) :
    ((renumber ws).filter p).map Window.label = (ws.filter p).map Window.label := by
  have hlabel (vs : List Window) :
      vs.map Window.label = (vs.map Window.unnumbered).map Window.label := by
    rw [List.map_map]
    rfl
  rw [hlabel, unnumbered_filter_renumber hp, ← hlabel]

@[simp] theorem length_renumber (ws : List Window) : (renumber ws).length = ws.length :=
  List.length_mapIdx

/-- The windows of a well-formed desk are numbered already. -/
theorem WellFormed.renumber_windows (h : WellFormed limit d) : renumber d.windows = d.windows := by
  apply List.ext_getElem?
  intro i
  rw [renumber, List.getElem?_mapIdx]
  cases hw : d.windows[i]? with
  | none => rfl
  | some w => rw [Option.map_some, ← h.number_eq hw]

/-! ### Closing one of them -/

/-- The desk with some of its windows only, of which the last has the focus. -/
def keepOnly (d : Desk) (ws : List Window) : Desk :=
  { d.setWindows (renumber ws) with focus := ws.length - 1 }

theorem windows_keepOnly (h : ws ≠ []) : (d.keepOnly ws).windows = renumber ws := by
  refine windows_setWindows ?_
  rwa [← List.length_pos_iff, length_renumber, List.length_pos_iff]

/-- What is kept last is left. -/
theorem keepOnly_keepOnly {vs : List Window} (h : ws ≠ []) (hsame : renumber vs = renumber ws) :
    (d.keepOnly as).keepOnly vs = d.keepOnly ws := by
  have hlength : vs.length = ws.length := by
    rw [← length_renumber vs, hsame, length_renumber]
  unfold keepOnly
  rw [hsame, hlength]
  cases hleft : renumber ws with
  | nil => exact absurd (List.eq_nil_of_length_eq_zero (by rw [← length_renumber, hleft]; rfl)) h
  | cons w ws => cases renumber as <;> rfl

/-- The status window is the first. -/
theorem WellFormed.isStatus_status (h : WellFormed limit d) : d.status.isStatus = true := by
  have hlabel : d.status.label = Window.statusLabel := Option.some.inj h.first_label
  rw [Window.isStatus, hlabel, Window.isStatusLabel_statusLabel]

/-- The status window is left, whatever else is closed. -/
theorem WellFormed.others_ne_nil (h : WellFormed limit d) (hwindows : d.windows = as ++ w :: bs)
    (hstatus : w.isStatus = false) : as ++ bs ≠ [] := by
  intro hnone
  obtain ⟨rfl, -⟩ := List.append_eq_nil_iff.1 hnone
  obtain ⟨rfl, -⟩ := List.cons_eq_cons.1 hwindows
  rw [h.isStatus_status] at hstatus
  cases hstatus

/-- **A window is closed by its label**, whichever it is but the status window. -/
theorem WellFormed.destroy_eq (h : WellFormed limit d) (hwindows : d.windows = as ++ w :: bs)
    (hstatus : w.isStatus = false) : d.destroy w.label = .done (d.keepOnly (as ++ bs)) := by
  have hw : d.windows[as.length]? = some w := by
    rw [hwindows, List.getElem?_append_right (Nat.le_refl _), Nat.sub_self]
    rfl
  have hlabel : d.labels[as.length]? = some w.label := by
    rw [labels, List.getElem?_map, hw]
    rfl
  have hne : w.label ≠ "" := h.label_ne_empty (List.mem_of_getElem? hw)
  have hfound : d.indexOf? w.label = some as.length := h.indexOf?_label hlabel (Text.alike_refl _) hne
  have hleft : d.windows.eraseIdx as.length = as ++ bs := by
    rw [hwindows, List.eraseIdx_append_of_length_le (Nat.le_refl _), Nat.sub_self]
    rfl
  have hsize : (d.setWindows (renumber (as ++ bs))).size = (as ++ bs).length := by
    rw [← length_renumber]
    exact congrArg List.length (windows_keepOnly (h.others_ne_nil hwindows hstatus))
  have hnamed : (w.label.isEmpty || Window.isStatusLabel w.label) = false := by
    rw [Bool.or_eq_false_iff]
    exact ⟨by simpa using hne, hstatus⟩
  unfold destroy keepOnly
  rw [hnamed, hfound]
  simp only [hleft, hsize, Bool.false_eq_true, if_false]

/-! ### Closing all of them -/

/-- The labels of the queries, in order. -/
def queries (d : Desk) : List String :=
  (d.windows.filter Window.isQuery).map Window.label

/-- The desk without its queries. -/
def withoutQueries (d : Desk) : Desk :=
  if d.queries = [] then d else d.keepOnly (d.windows.filter (!·.isQuery))

/-- The first query, and what there is before and after it. -/
theorem exists_of_queries {label : String} {labels : List String} (h : d.queries = label :: labels) :
    ∃ as w bs, d.windows = as ++ w :: bs ∧ w.label = label ∧ w.isQuery = true ∧
      ((as ++ bs).filter Window.isQuery).map Window.label = labels := by
  obtain ⟨w, rest, hfilter, hlabel, hrest⟩ := List.map_eq_cons_iff.1 h
  obtain ⟨as, bs, hwindows, has, hw, hbs⟩ := List.filter_eq_cons_iff.1 hfilter
  refine ⟨as, w, bs, hwindows, hlabel, hw, ?_⟩
  rw [List.filter_append, List.filter_eq_nil_iff.2 has, hbs]
  exact hrest

theorem isStatus_of_isQuery (h : w.isQuery = true) : w.isStatus = false := by
  obtain ⟨hstatus, -⟩ := Bool.and_eq_true_iff.1 h
  simpa using hstatus

theorem WellFormed.queries_keepOnly (h : WellFormed limit d) (hwindows : d.windows = as ++ w :: bs)
    (hquery : w.isQuery = true) :
    (d.keepOnly (as ++ bs)).queries = ((as ++ bs).filter Window.isQuery).map Window.label := by
  rw [queries, windows_keepOnly (h.others_ne_nil hwindows (isStatus_of_isQuery hquery)),
    labels_filter_renumber rfl]

/-- At least the status window is left. -/
theorem WellFormed.filter_ne_nil (h : WellFormed limit d) : d.windows.filter (!·.isQuery) ≠ [] := by
  refine List.ne_nil_of_mem (a := d.status) (List.mem_filter.2 ⟨List.mem_cons_self, ?_⟩)
  rw [Window.not_isQuery, h.isStatus_status, Bool.true_or]

/-- A query less makes no difference to what is left without them. -/
theorem WellFormed.withoutQueries_keepOnly (h : WellFormed limit d) (hwindows : d.windows = as ++ w :: bs)
    (hquery : w.isQuery = true) : (d.keepOnly (as ++ bs)).withoutQueries = d.withoutQueries := by
  have hothers := h.others_ne_nil hwindows (isStatus_of_isQuery hquery)
  have hkept : d.windows.filter (!·.isQuery) = (as ++ bs).filter (!·.isQuery) := by
    rw [hwindows, List.filter_append, List.filter_append, List.filter_cons_of_neg (by simp [hquery])]
  have hsome : d.queries ≠ [] := by
    refine List.ne_nil_of_mem (List.mem_map_of_mem (a := w) (List.mem_filter.2 ⟨?_, hquery⟩))
    rw [hwindows]
    exact List.mem_append_right _ List.mem_cons_self
  have hstatus : (as ++ bs).filter (!·.isQuery) ≠ [] := hkept ▸ h.filter_ne_nil
  unfold withoutQueries
  rw [if_neg hsome, hkept, h.queries_keepOnly hwindows hquery]
  split
  · -- It was the last one.
    rename_i hnone
    have hall : (as ++ bs).filter (!·.isQuery) = as ++ bs := by
      refine List.filter_eq_self.2 fun v hv => ?_
      have hnot := List.filter_eq_nil_iff.1 (List.map_eq_nil_iff.1 hnone) v hv
      simpa using hnot
    rw [hall]
  · rw [windows_keepOnly hothers]
    exact keepOnly_keepOnly hstatus (renumber_filter_renumber rfl _)

/-- Close the window of a label, and count it. -/
def closeNext (x : Desk × Nat) (label : String) : Desk × Nat :=
  match x.1.destroy label with
  | .done d => (d, x.2 + 1)
  | .refused _ d => (d, x.2)

/-- The labels of the queries are gone through, and each of them closes its window. -/
theorem foldl_closeNext {labels : List String} (h : WellFormed limit d) (hqueries : d.queries = labels)
    (n : Nat) : labels.foldl closeNext (d, n) = (d.withoutQueries, n + labels.length) := by
  induction labels generalizing d n with
  | nil =>
    rw [withoutQueries, if_pos hqueries]
    rfl
  | cons label labels ih =>
    obtain ⟨as, w, bs, hwindows, rfl, hquery, hrest⟩ := exists_of_queries hqueries
    have hdestroy := h.destroy_eq hwindows (isStatus_of_isQuery hquery)
    have hnext : closeNext (d, n) w.label = (d.keepOnly (as ++ bs), n + 1) := by
      rw [closeNext, hdestroy]
    have hqueries' : (d.keepOnly (as ++ bs)).queries = labels :=
      (h.queries_keepOnly hwindows hquery).trans hrest
    rw [List.foldl_cons, hnext, ih (wellFormed_destroy h hdestroy) hqueries' (n + 1),
      h.withoutQueries_keepOnly hwindows hquery, List.length_cons, Nat.add_assoc, Nat.add_comm 1]

theorem closeQueries_eq (h : WellFormed limit d) :
    d.closeQueries = (d.withoutQueries, d.queries.length) := by
  have hclose : d.closeQueries = d.queries.foldl closeNext (d, 0) := rfl
  rw [hclose, foldl_closeNext h rfl, Nat.zero_add]

/-! ### Desks that are reached -/

/-- The desks that are reached from a new one.  Requests are made of them, and at any time a window may
change in its place, in all but its label and its number. -/
inductive Reached (limit : Nat) : Desk → Prop where
  | new (rows cols capacity : Nat) : Reached limit (new rows cols limit capacity)
  | attempt {d : Desk} (h : Reached limit d) (r : Request) : Reached limit (d.attempt r).1
  | set {d : Desk} {i : Nat} {w v : Window} (h : Reached limit d) (hw : d.windows[i]? = some w)
      (hlabel : v.label = w.label) (hnumber : v.number = w.number) : Reached limit (d.set i v)
  | setLogging {d : Desk} (h : Reached limit d) (logging : Bool) : Reached limit { d with logging }

theorem Reached.answer {d' : Desk} (h : Reached limit d) {r : Request} (hanswer : d.answer r = .done d') :
    Reached limit d' := by
  have hattempt : (d.attempt r).1 = d' := by
    rw [Desk.attempt, hanswer]
  exact hattempt ▸ h.attempt r

theorem Reached.run (h : Reached limit d) (rs : List Request) : Reached limit (d.run rs) := by
  unfold Desk.run
  induction rs generalizing d with
  | nil => exact h
  | cons r rs ih => exact ih (h.attempt r)

theorem Reached.wellFormed (h : Reached limit d) : WellFormed limit d := by
  induction h with
  | new rows cols capacity => exact wellFormed_new rows cols limit capacity
  | attempt _ r ih => exact wellFormed_attempt ih r
  | set _ hw hlabel hnumber ih => exact ih.set hw hlabel hnumber
  | setLogging _ logging ih => exact ih.of_same rfl rfl ih.focus_lt rfl

/-- **Closing the queries closes just these.**  Of a desk that is reached the status window and the channels
are left, in their order and with all they have, and are numbered by their positions; it is told how many
windows have been closed.  If there was none to close, the desk is the same as before; else the last window
that is left has the focus, and nothing else of the desk is changed. -/
theorem closeQueries_reached (h : Reached limit d) :
    let kept := d.windows.filter fun w => w.isStatus || w.isChannel
    let d' := d.closeQueries.1
    let closed := d.closeQueries.2
    d'.windows = renumber kept ∧
      closed + kept.length = d.size ∧
      (closed = 0 → d' = d) ∧
      (closed ≠ 0 → d' = { d.setWindows (renumber kept) with focus := kept.length - 1 } ∧
        d'.windows.getLast? = some d'.active) := by
  intro kept d' closed
  have hwell := h.wellFormed
  have hkept : d.windows.filter (!·.isQuery) = kept :=
    List.filter_congr fun w _ => Window.not_isQuery w
  have hclosed : closed = d.queries.length := congrArg Prod.snd (closeQueries_eq hwell)
  have hleft : d' = d.withoutQueries := congrArg Prod.fst (closeQueries_eq hwell)
  have hcount : closed + kept.length = d.size := by
    rw [hclosed, ← hkept, queries, List.length_map]
    exact (List.length_eq_length_filter_add Window.isQuery).symm
  have hnone : closed = 0 → d' = d := by
    intro hzero
    rw [hleft, withoutQueries, if_pos (List.eq_nil_of_length_eq_zero (hclosed.symm.trans hzero))]
  have hsome : closed ≠ 0 → d' = d.keepOnly kept := by
    intro hpos
    have hqueries : d.queries ≠ [] := by
      intro hnil
      exact hpos (by rw [hclosed, hnil]; rfl)
    rw [hleft, withoutQueries, if_neg hqueries, hkept]
  have hne : kept ≠ [] := hkept ▸ hwell.filter_ne_nil
  have hwindows : d'.windows = renumber kept := by
    by_cases hzero : closed = 0
    · have hall : kept = d.windows := by
        refine List.filter_sublist.eq_of_length ?_
        rw [hzero, Nat.zero_add] at hcount
        exact hcount
      rw [hnone hzero, hall, hwell.renumber_windows]
    · rw [hsome hzero, windows_keepOnly hne]
  refine ⟨hwindows, hcount, hnone, fun hpos => ⟨hsome hpos, ?_⟩⟩
  have hfocus : d'.focus = d'.windows.length - 1 := by
    rw [hwindows, length_renumber, hsome hpos]
    rfl
  rw [List.getLast?_eq_getElem?, ← hfocus]
  exact getElem?_active (wellFormed_closeQueries hwell).focus_lt

/-- Two queries are closed, of which one stands between two channels, while the window with the focus is one
of them.  The channels keep their titles and modes. -/
theorem closeQueries_reached_two :
    let opened := (new 5 12 8 3).run [.spawn "alice" none, .spawn "#lean" (some "Lean"), .spawn "BOB" none,
      .spawn "&ops" none, .focusNumber 4]
    let d := opened.set 2 { (opened.windows[2]?).getD opened.status with modes := "n" }
    let d' := d.closeQueries.1
    let kept := d.windows.filter fun w => w.isStatus || w.isChannel
    Reached 8 d ∧ d.size = 5 ∧ d.focus = 3 ∧ d.closeQueries.2 = 2 ∧
      kept.length = 3 ∧ d' = { d.setWindows (renumber kept) with focus := kept.length - 1 } ∧
      d'.windows.map (fun w => (w.number, w.label, w.title, w.modes))
        = [(1, "(status)", none, ""), (2, "#lean", some "Lean", "n"), (3, "&ops", none, "")] := by
  intro opened d d' kept
  have hopened : Reached 8 opened := (Reached.new 5 12 3).run _
  have hwindow : opened.windows[2]? = some ((opened.windows[2]?).getD opened.status) := by
    have hthird : (opened.windows[2]?).isSome = true := by decide +kernel
    rw [← Option.some_get hthird]
    rfl
  have hreached : Reached 8 d := hopened.set hwindow rfl rfl
  have hclosed : d.closeQueries.2 = 2 := by decide +kernel
  have hkept : kept.length = 3 := by decide +kernel
  obtain ⟨-, -, -, hsome⟩ := closeQueries_reached hreached
  obtain ⟨hleft, -⟩ := hsome (by rw [hclosed]; decide)
  exact ⟨hreached, by decide +kernel, by decide +kernel, hclosed, hkept, hleft, by decide +kernel⟩

end Desk
end ChatConsole
