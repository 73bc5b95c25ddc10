/-
# The windows of a desk

A desk keeps its status window apart from the others, so that it is never without a window.  The lemmas
here say what its operations do to the list of all windows, and to what is told of the one with the
focus.
-/

import ChatConsole.Desk

namespace ChatConsole
namespace Desk

variable {d : Desk} {ws : List Window} {i : Nat} {w v : Window}

theorem windows_ne_nil (d : Desk) : d.windows ≠ [] :=
  List.cons_ne_nil d.status d.others

theorem size_pos (d : Desk) : 0 < d.size :=
  List.length_pos_iff.2 d.windows_ne_nil

/-! ### Other windows in the same places -/

theorem windows_setWindows (h : ws ≠ []) : (d.setWindows ws).windows = ws := by
  cases ws with
  | nil => exact absurd rfl h
  | cons w ws => rfl

@[simp] theorem focus_setWindows (d : Desk) (ws : List Window) :
    (d.setWindows ws).focus = d.focus := by
  cases ws <;> rfl

@[simp] theorem limit_setWindows (d : Desk) (ws : List Window) :
    (d.setWindows ws).limit = d.limit := by
  cases ws <;> rfl

@[simp] theorem rows_setWindows (d : Desk) (ws : List Window) :
    (d.setWindows ws).rows = d.rows := by
  cases ws <;> rfl

@[simp] theorem cols_setWindows (d : Desk) (ws : List Window) :
    (d.setWindows ws).cols = d.cols := by
  cases ws <;> rfl

/-- Without windows nothing is replaced. -/
theorem mem_windows_setWindows (h : w ∈ (d.setWindows ws).windows) : w ∈ ws ∨ w ∈ d.windows := by
  cases ws with
  | nil => exact Or.inr h
  | cons v vs => exact Or.inl h

/-- The windows put last are there. -/
theorem setWindows_setWindows {vs : List Window} (h : ws ≠ []) :
    (d.setWindows vs).setWindows ws = d.setWindows ws := by
  cases ws with
  | nil => exact absurd rfl h
  | cons w ws => cases vs <;> rfl

theorem windows_set (d : Desk) (i : Nat) (w : Window) : (d.set i w).windows = d.windows.set i w := by
  refine windows_setWindows ?_
  rw [← List.length_pos_iff, List.length_set]
  exact d.size_pos

@[simp] theorem size_set (d : Desk) (i : Nat) (w : Window) : (d.set i w).size = d.size := by
  rw [size, windows_set, List.length_set]
  rfl

/-- What is told of the windows, when one is replaced by another of which the same is told. -/
theorem map_windows_set {α : Type} {f : Window → α} (hw : d.windows[i]? = some w) (hf : f v = f w) :
    (d.set i v).windows.map f = d.windows.map f := by
  obtain ⟨hi, rfl⟩ := List.getElem?_eq_some_iff.1 hw
  rw [windows_set, List.map_set, hf, ← List.getElem_map f, List.set_getElem_self]
  rwa [List.length_map]

/-! ### The window with the focus -/

/-- The focus is on a window that is there. -/
theorem getElem?_active (h : d.focus < d.size) : d.windows[d.focus]? = some d.active := by
  rw [active, List.getElem?_eq_getElem h]
  rfl

/-- If the same is told of all windows, then also of the one with the focus. -/
theorem active_of_map {α : Type} {f : Window → α} (h : ws.map f = d.windows.map f) :
    f (d.setWindows ws).active = f d.active := by
  have hne : ws ≠ [] := by
    rintro rfl
    exact d.windows_ne_nil (List.map_eq_nil_iff.1 h.symm)
  have hwindows : (d.setWindows ws).windows = ws := windows_setWindows hne
  have hstatus : f (d.setWindows ws).status = f d.status := by
    rw [← hwindows] at h
    exact (List.cons_eq_cons.1 h).1
  have hfocus : (ws[d.focus]?).map f = (d.windows[d.focus]?).map f := by
    rw [← List.getElem?_map, h, List.getElem?_map]
  rw [active, active, focus_setWindows, hwindows]
  cases hold : d.windows[d.focus]? <;> cases hnew : ws[d.focus]? <;> rw [hold, hnew] at hfocus
  · exact hstatus
  · cases hfocus
  · cases hfocus
  · exact Option.some.inj hfocus

theorem active_set {α : Type} {f : Window → α} (hw : d.windows[i]? = some w) (hf : f v = f w) :
    f (d.set i v).active = f d.active := by
  refine active_of_map ?_
  rw [← windows_set]
  exact map_windows_set hw hf

/-- The window with the focus may be replaced by another of which the same is told. -/
theorem active_setActive {α : Type} {f : Window → α} (hf : f v = f d.active) :
    f (d.setActive v).active = f d.active := by
  cases hw : d.windows[d.focus]? with
  | some w =>
    have hactive : d.active = w := by rw [active, hw]; rfl
    rw [hactive] at hf
    exact active_set hw hf
  | none =>
    -- Without a focus nothing is replaced.
    have hsame : d.windows.set d.focus v = d.windows :=
      List.set_eq_of_length_le (List.getElem?_eq_none_iff.1 hw)
    refine active_of_map ?_
    rw [hsame]

/-! ### Looking for a window -/

theorem locate?_eq_some {label : String} (h : d.locate? label = some (i, w)) :
    d.indexOf? label = some i ∧ d.windows[i]? = some w := by
  obtain ⟨j, hj, hpair⟩ := Option.bind_eq_some_iff.1 h
  obtain ⟨w', hw', heq⟩ := Option.map_eq_some_iff.1 hpair
  cases heq
  exact ⟨hj, hw'⟩

theorem setTitle?_eq_some {label title : String} {d' : Desk}
    (h : d.setTitle? label title = some d') :
    ∃ i w, d.windows[i]? = some w ∧ d' = d.set i (w.setTitle title) := by
  unfold setTitle? at h
  split at h
  · cases h
  split at h
  · rename_i i _
    obtain ⟨w, hw, rfl⟩ := Option.map_eq_some_iff.1 h
    exact ⟨i, w, hw, rfl⟩
  · cases h

/-! ### Opening windows -/

/-- The window that is opened for a label. -/
def opened (d : Desk) (label : String) (title : Option String) : Window :=
  { Window.new label title (d.size + 1) d.capacity d.rows d.cols with logging := d.logging }

@[simp] theorem label_opened (d : Desk) (label : String) (title : Option String) :
    (d.opened label title).label = label := by
  unfold opened Window.new Window.layout
  dsimp only
  split <;> rfl

@[simp] theorem number_opened (d : Desk) (label : String) (title : Option String) :
    (d.opened label title).number = d.size + 1 := by
  unfold opened Window.new Window.layout
  dsimp only
  split <;> rfl

/-- What opening a window can do: nothing, if the label is in use, or put a new window at the end. -/
theorem spawn_cases {label : String} {title : Option String} {d' : Desk}
    (h : d.spawn label title = .done d') :
    label ≠ "" ∧
      ((d.indexOf? label).isSome = true ∧ d' = d ∨
        d.indexOf? label = none ∧ d.size + 1 ≤ d.limit ∧
          d' = { d with others := d.others ++ [d.opened label title], focus := d.size }) := by
  unfold spawn at h
  split at h
  · cases h
  rename_i hlabel
  refine ⟨by simpa using hlabel, ?_⟩
  split at h
  · rename_i hused
    exact Or.inl ⟨hused, (Attempt.done.inj h).symm⟩
  rename_i hfree
  split at h
  · cases h
  · rename_i hroom
    exact Or.inr ⟨by simpa using hfree, Nat.le_of_not_lt hroom, (Attempt.done.inj h).symm⟩

/-- A window that may not be opened leaves the desk as it is. -/
theorem leaves_spawn (d : Desk) (label : String) (title : Option String) :
    (d.spawn label title).Leaves d := by
  intro why d' h
  unfold spawn at h
  split at h
  · exact (Attempt.refused.inj h).2.symm
  split at h
  · cases h
  split at h
  · exact (Attempt.refused.inj h).2.symm
  · cases h

/-- A window that has been opened is found by its label. -/
theorem isSome_indexOf?_of_spawn {label : String} {title : Option String} {d' : Desk}
    (h : d.spawn label title = .done d') : (d'.indexOf? label).isSome = true := by
  obtain ⟨hlabel, ⟨hused, rfl⟩ | ⟨-, -, rfl⟩⟩ := spawn_cases h
  · exact hused
  · have hempty : label.isEmpty = false := by simpa using hlabel
    rw [indexOf?, hempty, if_neg Bool.false_ne_true, List.findIdx?_isSome, List.any_eq_true]
    refine ⟨d.opened label title, ?_, by rw [label_opened, Text.alike_refl]⟩
    exact List.mem_cons_of_mem _ (List.mem_append_right _ (List.mem_singleton_self _))

/-! ### Giving the focus -/

/-- A number that is not refused gives the focus to a window that is there. -/
theorem focusNumber_cases {number : Nat} {moved : Desk × Bool}
    (h : d.focusNumber number = .done moved) : ∃ i < d.size, moved.1 = { d with focus := i } := by
  unfold focusNumber at h
  split at h
  · cases h
  · rename_i hnumber
    simp only [Bool.or_eq_true, decide_eq_true_eq, not_or] at hnumber
    cases h
    exact ⟨number - 1, by omega, rfl⟩

/-- A label that is refused leaves the focus where it is. -/
theorem leaves_focusLabel (d : Desk) (label : String) :
    (d.focusLabel label).Leaves (d, false) := by
  intro why left h
  unfold focusLabel at h
  split at h
  · cases h
  · exact (Attempt.refused.inj h).2.symm

/-- A number that is refused leaves the focus where it is. -/
theorem leaves_focusNumber (d : Desk) (number : Nat) :
    (d.focusNumber number).Leaves (d, false) := by
  intro why left h
  unfold focusNumber at h
  split at h
  · exact (Attempt.refused.inj h).2.symm
  · cases h

/-- The neighbour of a window gets the focus, unless there is none. -/
theorem focusNeighbour_cases (d : Desk) (forward : Bool) :
    (d.focusNeighbour forward).1 = d ∨
      ∃ i < d.size, (d.focusNeighbour forward).1 = { d with focus := i } := by
  unfold focusNeighbour
  dsimp only
  generalize (if forward then d.active.number + 1 else d.active.number - 1) = number
  cases hfocus : d.focusNumber number with
  | done moved => exact Or.inr (focusNumber_cases hfocus)
  | refused why left => exact Or.inl (congrArg Prod.fst (d.leaves_focusNumber number why left hfocus))

/-! ### Closing windows -/

/-- What closing a window does: the windows after it move up, and the last one gets the focus. -/
theorem destroy_cases {label : String} {d' : Desk} (h : d.destroy label = .done d') :
    Window.isStatusLabel label = false ∧ ∃ i, d.indexOf? label = some i ∧
      d' = { d.setWindows (renumber (d.windows.eraseIdx i)) with
        focus := (d.setWindows (renumber (d.windows.eraseIdx i))).size - 1 } := by
  unfold destroy at h
  split at h
  · cases h
  rename_i hlabel
  simp only [Bool.or_eq_true, not_or, Bool.not_eq_true] at hlabel
  split at h
  · cases h
  · rename_i i hi
    exact ⟨hlabel.2, i, hi, (Attempt.done.inj h).symm⟩

/-- A window that may not be closed leaves the desk as it is. -/
theorem leaves_destroy (d : Desk) (label : String) : (d.destroy label).Leaves d := by
  intro why d' h
  unfold destroy at h
  split at h
  · exact (Attempt.refused.inj h).2.symm
  split at h
  · exact (Attempt.refused.inj h).2.symm
  · cases h

/-- What closing a window keeps, closing all queries keeps, whether some are refused or not. -/
theorem closeQueries_of_destroy {P : Desk → Prop}
    (hdestroy : ∀ {d d' : Desk} {label : String}, P d → d.destroy label = .done d' → P d')
    (h : P d) : P d.closeQueries.1 := by
  unfold closeQueries
  generalize (d.windows.filter fun w => !w.isStatus && !w.isChannel).map Window.label = labels
  generalize 0 = n
  induction labels generalizing d n with
  | nil => exact h
  | cons label labels ih =>
    rw [List.foldl_cons]
    dsimp only
    cases hd : d.destroy label with
    | done d' => exact ih (hdestroy h hd) (n + 1)
    | refused why d' =>
      obtain rfl := d.leaves_destroy label why d' hd
      exact ih h n

end Desk
end ChatConsole
