/-
# What the console does with the display

Whatever is asked of a console, its display goes through changes of a few kinds (`Change`): a bar is
drawn, our modes or the input row are replaced, everything is laid out on another terminal, a window is
opened, closed or given the focus, or one window changes in its place.  What each of these keeps, every
sequence of them keeps (`Leads.keeps`).  Two such things are proved here: the desk stays well formed
(`wellFormed_change`), and it knows the size of the terminal, on which its windows have all that windows
always have (`housed_change`).
-/

import ChatConsole.Display
import ChatConsole.Proofs.Desk.WellFormed
import ChatConsole.Proofs.Window.Changes
import Mathlib.Logic.Relation

namespace ChatConsole
namespace Display

/-- One change of a display.  `shows` says which input rows may come on so many columns. -/
inductive Change (shows : Nat → Grid → Prop) : Display → Display → Prop where
  | drawTitleBar (d : Display) : Change shows d d.drawTitleBar
  | drawStatusBar (d : Display) : Change shows d d.drawStatusBar
  | setModes (d : Display) (modes : String) : Change shows d { d with modes }
  | input (d : Display) {row : Grid} (h : shows d.cols row) : Change shows d { d with input := row }
  | resize (d : Display) (rows cols : Nat) : Change shows d (d.resize rows cols)
  | spawn (d : Display) {label : String} {title : Option String} {desk : Desk}
      (h : d.desk.spawn label title = .done desk) : Change shows d { d with desk }
  | destroy (d : Display) {label : String} {desk : Desk} (h : d.desk.destroy label = .done desk) :
      Change shows d { d with desk }
  | focus (d : Display) {index : Nat} (h : index < d.desk.size) :
      Change shows d { d with desk := { d.desk with focus := index } }
  | window (d : Display) {index : Nat} {w : Window} {q : Window.Painted}
      (hw : d.desk.windows[index]? = some w)
      (h : Window.Change d.rows d.cols (w, d.palette) q) : Change shows d (d.put index q)

/-- One display becomes the other by some changes. -/
def Leads (shows : Nat → Grid → Prop) : Display → Display → Prop :=
  Relation.ReflTransGen (Change shows)

variable {shows : Nat → Grid → Prop} {d e f : Display}

namespace Leads

theorem refl (d : Display) : Leads shows d d :=
  Relation.ReflTransGen.refl

theorem trans (hde : Leads shows d e) (hef : Leads shows e f) : Leads shows d f :=
  Relation.ReflTransGen.trans hde hef

theorem change (hde : Leads shows d e) (hef : Change shows e f) : Leads shows d f :=
  Relation.ReflTransGen.tail hde hef

theorem single (h : Change shows d e) : Leads shows d e :=
  Relation.ReflTransGen.single h

theorem drawBars (h : Leads shows d e) : Leads shows d e.drawBars :=
  (h.change (.drawTitleBar e)).change (.drawStatusBar _)

/-- What one change keeps, all changes keep. -/
theorem keeps {P : Display → Prop} (hP : ∀ {d e}, P d → Change shows d e → P e)
    (h : Leads shows d e) (hd : P d) : P e := by
  induction h with
  | refl => exact hd
  | tail _ hstep ih => exact hP ih hstep

end Leads

/-! ### The desk stays well formed -/

theorem wellFormed_change {limit : Nat} (h : d.desk.WellFormed limit) (hchange : Change shows d e) :
    e.desk.WellFormed limit := by
  cases hchange with
  | drawTitleBar | drawStatusBar | setModes | input => exact h
  | resize rows cols => exact Desk.wellFormed_recreateAll h ..
  | spawn hspawn => exact Desk.wellFormed_spawn h hspawn
  | destroy hdestroy => exact Desk.wellFormed_destroy h hdestroy
  | focus hindex => exact h.focusOn hindex
  | window hw hq =>
    obtain ⟨hlabel, hnumber⟩ := Window.label_number_change hq
    exact h.set hw hlabel hnumber

/-- Whether a new window is logged has no say in it. -/
theorem wellFormed_new (s : Settings) (palette : Color.Palette) (host : String) (rows cols : Nat) :
    (new s palette host rows cols).desk.WellFormed (s.integer Settings.windowLimit).toNat := by
  have h := Desk.wellFormed_new rows cols (s.integer Settings.windowLimit).toNat
    (s.integer Settings.backlogCapacity).toNat
  exact h.of_same rfl rfl h.focus_lt rfl

/-! ### What every window has -/

/-- The desk knows the size of the terminal, and its windows have a property there. -/
structure Housed (P : Nat → Nat → Window → Prop) (d : Display) : Prop where
  rows_eq : d.desk.rows = d.rows
  cols_eq : d.desk.cols = d.cols
  windows : ∀ w ∈ d.desk.windows, P d.rows d.cols w

/-- Each window is laid out anew, with the palette that the windows before it left. -/
theorem exists_of_mem_recreateWindows {rows cols : Nat} {v : Window} {p : Color.Palette}
    {ws : List Window} (h : v ∈ (Desk.recreateWindows p rows cols ws).1) :
    ∃ w ∈ ws, ∃ p, v = (w.recreate p rows cols).1 := by
  induction ws generalizing p with
  | nil => cases h
  | cons w ws ih =>
    rcases List.mem_cons.1 h with rfl | hrest
    · exact ⟨w, List.mem_cons_self, p, rfl⟩
    · obtain ⟨w', hw', hsame⟩ := ih hrest
      exact ⟨w', List.mem_cons_of_mem _ hw', hsame⟩

/-- Numbering windows anew leaves the rest of each. -/
theorem exists_of_mem_renumber {v : Window} {ws : List Window} (h : v ∈ Desk.renumber ws) :
    ∃ w ∈ ws, ∃ number, v = { w with number } := by
  obtain ⟨i, hi, rfl⟩ := List.mem_mapIdx.1 h
  exact ⟨ws[i], List.getElem_mem hi, i + 1, rfl⟩

variable {P : Nat → Nat → Window → Prop}

/-- What every window has, it has on a terminal of another size. -/
theorem Housed.resize (h : Housed P d) (hP : Window.Kept P) (rows cols : Nat) :
    Housed P (d.resize rows cols) := by
  refine ⟨rfl, rfl, ?_⟩
  intro v hv
  have hmem : v ∈ (d.desk.recreateAll d.palette rows cols).1.windows := hv
  rw [Desk.windows_recreateAll] at hmem
  obtain ⟨w, hw, p, rfl⟩ := exists_of_mem_recreateWindows hmem
  exact hP.recreate (h.windows w hw) p rows cols

theorem housed_change (hP : Window.Kept P) (h : Housed P d) (hchange : Change shows d e) :
    Housed P e := by
  obtain ⟨hrows, hcols, hall⟩ := h
  cases hchange with
  | drawTitleBar | drawStatusBar | setModes | input | focus => exact ⟨hrows, hcols, hall⟩
  | resize rows cols => exact Housed.resize ⟨hrows, hcols, hall⟩ hP rows cols
  | spawn hspawn =>
    obtain ⟨-, ⟨-, rfl⟩ | ⟨-, -, rfl⟩⟩ := Desk.spawn_cases hspawn
    · exact ⟨hrows, hcols, hall⟩
    · refine ⟨hrows, hcols, List.forall_mem_append.2 ⟨hall, List.forall_mem_singleton.2 ?_⟩⟩
      rw [← hrows, ← hcols]
      exact hP.new ..
  | destroy hdestroy =>
    obtain ⟨-, i, -, rfl⟩ := Desk.destroy_cases hdestroy
    refine ⟨(Desk.rows_setWindows ..).trans hrows, (Desk.cols_setWindows ..).trans hcols, ?_⟩
    intro v hv
    rcases Desk.mem_windows_setWindows hv with hleft | hold
    · obtain ⟨w, hw, number, rfl⟩ := exists_of_mem_renumber hleft
      exact hP.renumber (hall w (List.mem_of_mem_eraseIdx hw)) number
    · exact hall v hold
  | window hw hq =>
    refine ⟨(Desk.rows_setWindows ..).trans hrows, (Desk.cols_setWindows ..).trans hcols, ?_⟩
    intro v hv
    rcases Desk.mem_windows_setWindows hv with hset | hold
    · rcases List.mem_or_eq_of_mem_set hset with hold | rfl
      · exact hall v hold
      · exact hP.change (hall _ (List.mem_of_getElem? hw)) hq
    · exact hall v hold

theorem housed_new (hP : Window.Kept P) (s : Settings) (palette : Color.Palette) (host : String)
    (rows cols : Nat) : Housed P (new s palette host rows cols) := by
  refine ⟨rfl, rfl, List.forall_mem_singleton.2 ?_⟩
  exact hP.new ..

end Display
end ChatConsole
