/-
# Well-formed desks

Numbers are stored in the windows beside their positions, and the focus is a bare position, so each
operation on the desk has to put all of them right together.  `WellFormed` says what is right, in terms
of the labels and the numbers of the windows in order.  On a well-formed desk a window is found by its
label and by its number alike.
-/

import ChatConsole.Proofs.Desk.Windows
import ChatConsole.Proofs.Window.Card
import Mathlib.Data.List.InsertIdx

namespace ChatConsole

namespace Desk

/-! ### Labels and numbers -/

/-- The labels of the open windows, in order. -/
def labels (d : Desk) : List String :=
  d.windows.map Window.label

/-- The numbers of the open windows, in order. -/
def numbers (d : Desk) : List Nat :=
  d.windows.map Window.number

variable {d : Desk} {ws : List Window} {label : String} {i limit : Nat} {w : Window}

@[simp] theorem length_labels (d : Desk) : d.labels.length = d.size :=
  List.length_map ..

/-- Windows get the numbers from 1 on. -/
theorem numbers_renumber (ws : List Window) :
    (renumber ws).map Window.number = (List.range ws.length).map (· + 1) := by
  apply List.ext_getElem?
  intro i
  rw [renumber, List.getElem?_map, List.getElem?_mapIdx, List.getElem?_map]
  by_cases hi : i < ws.length
  · simp [hi]
  · simp [Nat.le_of_not_lt hi]

theorem labels_renumber (ws : List Window) :
    (renumber ws).map Window.label = ws.map Window.label := by
  apply List.ext_getElem?
  intro i
  rw [renumber, List.getElem?_map, List.getElem?_mapIdx, List.getElem?_map]
  cases ws[i]? <;> rfl

/-- A window is looked for by its label. -/
theorem indexOf?_eq (d : Desk) (label : String) :
    d.indexOf? label
      = if label.isEmpty then none else d.labels.findIdx? (Text.alike · label) := by
  rw [indexOf?, labels, List.findIdx?_map]
  rfl

/-- What finding a label says. -/
theorem of_indexOf? (h : d.indexOf? label = some i) :
    label ≠ "" ∧ ∃ l, d.labels[i]? = some l ∧ Text.alike l label = true := by
  rw [indexOf?_eq] at h
  split at h
  · cases h
  · rename_i hlabel
    obtain ⟨hi, hl, -⟩ := List.findIdx?_eq_some_iff_getElem.1 h
    exact ⟨by simpa using hlabel, d.labels[i], List.getElem?_eq_getElem hi, hl⟩

theorem lt_of_indexOf? (h : d.indexOf? label = some i) : i < d.size := by
  obtain ⟨-, l, hl, -⟩ := of_indexOf? h
  obtain ⟨hi, -⟩ := List.getElem?_eq_some_iff.1 hl
  rwa [length_labels] at hi

/-- A label that is not found is alike to none. -/
theorem not_alike_of_indexOf? (hlabel : label ≠ "") (h : d.indexOf? label = none) :
    ∀ l ∈ d.labels, Text.alike l label = false := by
  rw [indexOf?_eq, if_neg (by simpa using hlabel)] at h
  simpa using h

/-! ### Well-formed desks -/

/-- What every desk has that is reached by requests. -/
structure WellFormed (limit : Nat) (d : Desk) : Prop where
  /-- A window's number is its position, from 1. -/
  numbers_eq : d.numbers = (List.range d.size).map (· + 1)
  head_labels : d.labels.head? = some Window.statusLabel
  labels_ne_empty : ∀ l ∈ d.labels, l ≠ ""
  distinct : d.labels.Pairwise fun l m => Text.alike l m = false
  focus_lt : d.focus < d.size
  limit_eq : d.limit = limit
  size_le : d.size ≤ max 1 limit

namespace WellFormed

/-- Windows may change in all but their labels and numbers. -/
theorem of_same {d' : Desk} (h : WellFormed limit d) (hlabels : d'.labels = d.labels)
    (hnumbers : d'.numbers = d.numbers) (hfocus : d'.focus < d.size) (hlimit : d'.limit = d.limit) :
    WellFormed limit d' := by
  have hsize : d'.size = d.size := by
    rw [← length_labels, hlabels, length_labels]
  exact
    { numbers_eq := by rw [hnumbers, hsize]; exact h.numbers_eq
      head_labels := by rw [hlabels]; exact h.head_labels
      labels_ne_empty := by rw [hlabels]; exact h.labels_ne_empty
      distinct := by rw [hlabels]; exact h.distinct
      focus_lt := by rw [hsize]; exact hfocus
      limit_eq := hlimit.trans h.limit_eq
      size_le := by rw [hsize]; exact h.size_le }

/-- Any position may have the focus. -/
theorem focusOn (h : WellFormed limit d) (hi : i < d.size) : WellFormed limit (d.focusOn i).1 :=
  h.of_same rfl rfl hi rfl

/-- A label is found where it stands. -/
theorem indexOf?_label (h : WellFormed limit d) {l : String} (hl : d.labels[i]? = some l)
    (halike : Text.alike l label = true) (hlabel : label ≠ "") : d.indexOf? label = some i := by
  obtain ⟨hi, rfl⟩ := List.getElem?_eq_some_iff.1 hl
  rw [indexOf?_eq, if_neg (by simpa using hlabel), List.findIdx?_eq_some_iff_getElem]
  refine ⟨hi, halike, ?_⟩
  -- An earlier label would be alike to this one.
  intro j hj hearlier
  have hpair := List.pairwise_iff_getElem.1 h.distinct j i (Nat.lt_trans hj hi) hi hj
  rw [Text.alike_trans hearlier (Text.alike_symm halike)] at hpair
  cases hpair

end WellFormed

/-! ### Each operation keeps the desk well formed -/

theorem wellFormed_new (rows cols limit capacity : Nat) :
    WellFormed limit (new rows cols limit capacity) := by
  have hcard : (new rows cols limit capacity).status.card = _ := Window.card_new ..
  have hlabel : (new rows cols limit capacity).status.label = Window.statusLabel :=
    congrArg Window.Card.label hcard
  have hnumber : (new rows cols limit capacity).status.number = 1 :=
    congrArg Window.Card.number hcard
  have hlabels : (new rows cols limit capacity).labels = [Window.statusLabel] :=
    congrArg (· :: []) hlabel
  have hnumbers : (new rows cols limit capacity).numbers = [1] := congrArg (· :: []) hnumber
  exact
    { numbers_eq := hnumbers
      head_labels := by rw [hlabels]; rfl
      labels_ne_empty := by rw [hlabels]; decide
      distinct := by rw [hlabels]; exact List.pairwise_singleton ..
      focus_lt := Nat.one_pos
      limit_eq := rfl
      size_le := Nat.le_max_left .. }

/-- A window may be opened at the end, with the next number and a label that no other has. -/
theorem WellFormed.push {d' : Desk} (h : WellFormed limit d)
    (hwindows : d'.windows = d.windows ++ [w]) (hnumber : w.number = d.size + 1)
    (hlabel : w.label ≠ "") (hfree : d.indexOf? w.label = none) (hfocus : d'.focus = d.size)
    (hlimit : d'.limit = d.limit) (hroom : d.size + 1 ≤ d.limit) : WellFormed limit d' := by
  have hsize : d'.size = d.size + 1 := by
    rw [size, hwindows, List.length_append]
    rfl
  have hlabels : d'.labels = d.labels ++ [w.label] := by
    rw [labels, hwindows, List.map_append]
    rfl
  exact
    { numbers_eq := by
        have hnumbers : d'.numbers = d.numbers ++ [w.number] := by
          rw [numbers, hwindows, List.map_append]
          rfl
        rw [hnumbers, h.numbers_eq, hnumber, hsize, List.range_succ, List.map_append]
        rfl
      head_labels := by rw [hlabels, List.head?_append, h.head_labels]; rfl
      labels_ne_empty := by
        rw [hlabels]
        exact List.forall_mem_append.2 ⟨h.labels_ne_empty, List.forall_mem_singleton.2 hlabel⟩
      distinct := by
        rw [hlabels, List.pairwise_append]
        refine ⟨h.distinct, List.pairwise_singleton .., ?_⟩
        intro l hl m hm
        rw [List.mem_singleton.1 hm]
        exact not_alike_of_indexOf? hlabel hfree l hl
      focus_lt := by omega
      limit_eq := hlimit.trans h.limit_eq
      size_le := by
        have hlimit' := h.limit_eq
        omega }

theorem wellFormed_spawn (h : WellFormed limit d) {title : Option String} {d' : Desk}
    (hspawn : d.spawn label title = .done d') : WellFormed limit d' := by
  obtain ⟨hlabel, ⟨-, rfl⟩ | ⟨hfree, hroom, rfl⟩⟩ := spawn_cases hspawn
  · exact h
  · have hopened : (d.opened label title).label = label := label_opened ..
    exact h.push rfl (number_opened ..) (by rwa [hopened]) (by rwa [hopened]) rfl rfl hroom

theorem WellFormed.first_label (h : WellFormed limit d) :
    d.labels[0]? = some Window.statusLabel := by
  rw [← List.head?_eq_getElem?]
  exact h.head_labels

/-- A window may be closed, except the status window. -/
theorem WellFormed.erase {d' : Desk} (h : WellFormed limit d) (hi : i < d.size) (hi0 : i ≠ 0)
    (hwindows : d'.windows = renumber (d.windows.eraseIdx i)) (hfocus : d'.focus = d'.size - 1)
    (hlimit : d'.limit = d.limit) : WellFormed limit d' := by
  have hlabels : d'.labels = d.labels.eraseIdx i := by
    rw [labels, hwindows, labels_renumber, ← List.eraseIdx_map]
    rfl
  have hsize : d'.size = d.size - 1 := by
    rw [← length_labels, hlabels, List.length_eraseIdx_of_lt (by rwa [length_labels]), length_labels]
  have hlength : (d.windows.eraseIdx i).length = d'.size := by
    rw [hsize]
    exact List.length_eraseIdx_of_lt hi
  have hsublist : d'.labels.Sublist d.labels := by
    rw [hlabels]
    exact List.eraseIdx_sublist ..
  exact
    { numbers_eq := by rw [numbers, hwindows, numbers_renumber, hlength]
      head_labels := by
        rw [hlabels, List.head?_eq_getElem?, List.getElem?_eraseIdx_of_lt (Nat.pos_of_ne_zero hi0)]
        exact h.first_label
      labels_ne_empty := fun l hl => h.labels_ne_empty l (hsublist.subset hl)
      distinct := h.distinct.sublist hsublist
      focus_lt := by omega
      limit_eq := hlimit.trans h.limit_eq
      size_le := by
        have hbound := h.size_le
        omega }

theorem wellFormed_destroy (h : WellFormed limit d) {d' : Desk}
    (hdestroy : d.destroy label = .done d') : WellFormed limit d' := by
  obtain ⟨hlabel, i, hi, rfl⟩ := destroy_cases hdestroy
  have hlt : i < d.size := lt_of_indexOf? hi
  have hi0 : i ≠ 0 := by
    rintro rfl
    obtain ⟨-, l, hl, halike⟩ := of_indexOf? hi
    obtain rfl : Window.statusLabel = l := Option.some.inj (h.first_label.symm.trans hl)
    have hstatus : Window.isStatusLabel label = true := Text.alike_symm halike
    rw [hstatus] at hlabel
    cases hlabel
  have hleft : renumber (d.windows.eraseIdx i) ≠ [] := by
    rw [renumber, ← List.length_pos_iff, List.length_mapIdx, List.length_eraseIdx_of_lt hlt]
    exact Nat.sub_pos_of_lt (Nat.lt_of_le_of_lt (Nat.pos_of_ne_zero hi0) hlt)
  exact h.erase hlt hi0 (windows_setWindows hleft) rfl (limit_setWindows ..)

theorem wellFormed_focusLabel (h : WellFormed limit d) {moved : Desk × Bool}
    (hfocus : d.focusLabel label = .done moved) : WellFormed limit moved.1 := by
  unfold focusLabel at hfocus
  split at hfocus
  · rename_i i hi
    cases hfocus
    exact h.focusOn (lt_of_indexOf? hi)
  · cases hfocus

theorem wellFormed_focusNumber (h : WellFormed limit d) {number : Nat} {moved : Desk × Bool}
    (hfocus : d.focusNumber number = .done moved) : WellFormed limit moved.1 := by
  obtain ⟨i, hi, hmoved⟩ := focusNumber_cases hfocus
  rw [hmoved]
  exact h.focusOn hi

theorem wellFormed_focusNeighbour (h : WellFormed limit d) (forward : Bool) :
    WellFormed limit (d.focusNeighbour forward).1 := by
  rcases d.focusNeighbour_cases forward with hsame | ⟨i, hi, hmoved⟩
  · rwa [hsame]
  · rw [hmoved]
    exact h.focusOn hi

/-- Putting a window in the place of one with the same label and number. -/
theorem WellFormed.set {v : Window} (h : WellFormed limit d) (hw : d.windows[i]? = some w)
    (hlabel : v.label = w.label) (hnumber : v.number = w.number) : WellFormed limit (d.set i v) := by
  refine h.of_same (map_windows_set hw hlabel) (map_windows_set hw hnumber) ?_ (limit_setWindows ..)
  rw [Desk.set, focus_setWindows]
  exact h.focus_lt

theorem wellFormed_setTitle? (h : WellFormed limit d) {title : String} {d' : Desk}
    (hset : d.setTitle? label title = some d') : WellFormed limit d' := by
  obtain ⟨i, w, hw, rfl⟩ := setTitle?_eq_some hset
  have hlabel : (w.setTitle title).label = w.label := by
    unfold Window.setTitle
    split <;> rfl
  have hnumber : (w.setTitle title).number = w.number := by
    unfold Window.setTitle
    split <;> rfl
  exact h.set hw hlabel hnumber

theorem wellFormed_closeQueries (h : WellFormed limit d) : WellFormed limit d.closeQueries.1 :=
  closeQueries_of_destroy (fun h hdestroy => wellFormed_destroy h hdestroy) h

/-- Laying windows out anew leaves their cards. -/
theorem card_recreateWindows (p : Color.Palette) (rows cols : Nat) (ws : List Window) :
    (recreateWindows p rows cols ws).1.map Window.card = ws.map Window.card := by
  induction ws generalizing p with
  | nil => rfl
  | cons w ws ih =>
    simp only [recreateWindows, List.map_cons, Window.card_recreate, ih]

/-- Laying windows out anew, one after another, keeps them in their places. -/
theorem windows_recreateAll (d : Desk) (p : Color.Palette) (rows cols : Nat) :
    (d.recreateAll p rows cols).1.windows = (recreateWindows p rows cols d.windows).1 := by
  have hne : (recreateWindows p rows cols d.windows).1 ≠ [] := by
    intro hnil
    have hcards := card_recreateWindows p rows cols d.windows
    rw [hnil] at hcards
    exact d.windows_ne_nil (List.map_eq_nil_iff.1 hcards.symm)
  exact windows_setWindows hne

theorem wellFormed_recreateAll (h : WellFormed limit d) (p : Color.Palette) (rows cols : Nat) :
    WellFormed limit (d.recreateAll p rows cols).1 := by
  have hkeep {α : Type} (f : Window.Card → α) :
      (d.recreateAll p rows cols).1.windows.map (f ∘ Window.card)
        = d.windows.map (f ∘ Window.card) := by
    rw [windows_recreateAll, ← List.map_map, card_recreateWindows, List.map_map]
  refine h.of_same (hkeep Window.Card.label) (hkeep Window.Card.number) ?_ (limit_setWindows ..)
  have hfocus : (d.recreateAll p rows cols).1.focus = d.focus := focus_setWindows ..
  rw [hfocus]
  exact h.focus_lt

/-! ### Looking for a window -/

namespace WellFormed

theorem number_eq (h : WellFormed limit d) (hw : d.windows[i]? = some w) : w.number = i + 1 := by
  have hi : i < d.size := (List.getElem?_eq_some_iff.1 hw).1
  have hnumber : d.numbers[i]? = some w.number := by
    rw [numbers, List.getElem?_map, hw]
    rfl
  rw [h.numbers_eq, List.getElem?_map, List.getElem?_range hi] at hnumber
  exact (Option.some.inj hnumber).symm

theorem label_ne_empty (h : WellFormed limit d) (hw : w ∈ d.windows) : w.label ≠ "" :=
  h.labels_ne_empty _ (List.mem_map_of_mem hw)

/-- A label finds the window whose label is alike. -/
theorem get?_eq_some_iff (h : WellFormed limit d) :
    d.get? label = some w ↔ w ∈ d.windows ∧ Text.alike w.label label = true := by
  constructor
  · intro hget
    obtain ⟨⟨i, w⟩, hlocate, rfl⟩ := Option.map_eq_some_iff.1 hget
    obtain ⟨hi, hw⟩ := locate?_eq_some hlocate
    obtain ⟨-, l, hl, halike⟩ := of_indexOf? hi
    rw [labels, List.getElem?_map, hw] at hl
    cases hl
    exact ⟨List.mem_of_getElem? hw, halike⟩
  · rintro ⟨hw, halike⟩
    obtain ⟨i, hi⟩ := List.mem_iff_getElem?.1 hw
    have hlabel : d.labels[i]? = some w.label := by
      rw [labels, List.getElem?_map, hi]
      rfl
    have hne : label ≠ "" := by
      rintro rfl
      exact h.label_ne_empty hw (by simpa [Text.alike_iff, Text.folded] using halike)
    rw [get?, locate?, h.indexOf?_label hlabel halike hne]
    simp [hi]

/-- A number finds the window that has it. -/
theorem byNumber?_eq_some_iff (h : WellFormed limit d) {number : Nat} :
    d.byNumber? number = some w ↔ w ∈ d.windows ∧ w.number = number := by
  constructor
  · intro hget
    unfold byNumber? at hget
    split at hget
    · cases hget
    · have hnumber := h.number_eq hget
      exact ⟨List.mem_of_getElem? hget, by omega⟩
  · rintro ⟨hw, rfl⟩
    obtain ⟨i, hi⟩ := List.mem_iff_getElem?.1 hw
    rw [byNumber?, h.number_eq hi, if_neg (Nat.succ_ne_zero i), Nat.add_sub_cancel]
    exact hi

/-- Looking for a window by its label and by its number finds it either way. -/
theorem get?_label (h : WellFormed limit d) (hw : w ∈ d.windows) :
    d.get? w.label = some w ∧ d.byNumber? w.number = some w :=
  ⟨h.get?_eq_some_iff.2 ⟨hw, Text.alike_refl _⟩, h.byNumber?_eq_some_iff.2 ⟨hw, rfl⟩⟩

end WellFormed

end Desk
end ChatConsole
