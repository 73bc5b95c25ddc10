/-
# Where a view stands

A live view remembers nothing of where it stood.  A frozen one stands further back than its height, on
lines that are still counted: otherwise it would show the end, and be live.  Going back is bounded by the
lines there were when the view froze; going on and a new size of the terminal let a view thaw that has
come too near to the end; lines that come never make the backlog shorter (`stands_act`).  So whatever was
done with a window, its view stands within its backlog (`view_stands`).
-/

import ChatConsole.Proofs.Window.Card

namespace ChatConsole
namespace Scroll

/-! ### Where a view may stand -/

/-- A view that is within some number of lines. -/
structure Within (s : Scroll) (size : Nat) : Prop where
  /-- A live view has forgotten where it stood. -/
  live : s.frozen = false → s = {}
  back_le : s.back ≤ s.size
  size_le : s.size ≤ size

/-- A view of some height that is within some number of lines, and frozen only on older ones. -/
structure Stands (s : Scroll) (height size : Nat) : Prop extends Within s size where
  behind : s.frozen = true → height < s.back

variable {s : Scroll} {height size : Nat}

theorem stands_live (height size : Nat) : Stands {} height size where
  live _ := rfl
  back_le := Nat.le_refl _
  size_le := Nat.zero_le _
  behind h := nomatch h

theorem Within.grow {more : Nat} (h : s.Within size) (hmore : size ≤ more) : s.Within more :=
  ⟨h.live, h.back_le, Nat.le_trans h.size_le hmore⟩

/-- The view as it freezes, or the frozen view as it is. -/
def froze (s : Scroll) (size : Nat) : Scroll :=
  if s.frozen then s else { s with frozen := true, size }

@[simp] theorem frozen_froze (s : Scroll) (size : Nat) : (s.froze size).frozen = true := by
  unfold froze
  split
  · assumption
  · rfl

/-- Going back by a line at least leaves a view behind its height, if there are lines enough. -/
theorem Stands.goBack (h : s.Stands height size) (hsize : height < size) {step : Nat}
    (hstep : 1 ≤ step) :
    Stands { s.froze size with back := Window.Scroll.goBack (s.froze size) height step } height size := by
  have hbounds : (s.froze size).size ≤ size ∧ height < (s.froze size).size ∧
      (s.froze size).back ≤ (s.froze size).size ∧
      ((s.froze size).back = 0 ∨ height < (s.froze size).back) := by
    cases hfrozen : s.frozen with
    | true =>
      have hbehind := h.behind hfrozen
      have hback := h.back_le
      simp only [froze, hfrozen, if_true]
      exact ⟨h.size_le, by omega, hback, Or.inr hbehind⟩
    | false =>
      obtain rfl : s = {} := h.live hfrozen
      exact ⟨Nat.le_refl _, hsize, Nat.zero_le _, Or.inl rfl⟩
  obtain ⟨hcount, hheight, hback, hbehind⟩ := hbounds
  have hgo : Window.Scroll.goBack (s.froze size) height step
      = min ((if (s.froze size).back = 0 then height else (s.froze size).back) + step)
          (s.froze size).size := by
    rw [Window.Scroll.goBack, if_neg (Nat.not_lt.2 hback)]
  refine ⟨⟨fun hlive => absurd ((frozen_froze s size).symm.trans hlive) Bool.noConfusion, ?_, hcount⟩,
    fun _ => ?_⟩
  · rw [hgo]
    exact Nat.min_le_right ..
  · rw [hgo]
    dsimp only
    rcases hbehind with hnone | hbehind
    · rw [if_pos hnone]
      omega
    · rw [if_neg (by omega)]
      omega

/-- Going back, by any number of lines, keeps a view within the lines there are. -/
theorem Within.goBack (h : s.Within size) (height step : Nat) :
    Within { s.froze size with back := Window.Scroll.goBack (s.froze size) height step } size where
  live hlive := absurd ((frozen_froze s size).symm.trans hlive) Bool.noConfusion
  back_le := by
    dsimp only
    unfold Window.Scroll.goBack
    split
    · exact Nat.le_refl _
    · exact Nat.min_le_right ..
  size_le := by
    dsimp only
    unfold froze
    split
    · exact h.size_le
    · exact Nat.le_refl _

/-- Going on keeps a frozen view within its lines. -/
theorem Within.goOn (h : s.Within size) (hfrozen : s.frozen = true) (step : Nat) :
    Within { s with back := s.back - step } size where
  live hlive := absurd (hfrozen.symm.trans hlive) Bool.noConfusion
  back_le := Nat.le_trans (Nat.sub_le ..) h.back_le
  size_le := h.size_le

end Scroll

namespace Backlog

/-- A line that comes never makes the backlog shorter. -/
theorem size_le_size_push (b : Backlog) (line : Line) : b.size ≤ (b.push line).size := by
  unfold push size
  split
  · simp
    omega
  · simp

end Backlog

namespace Window

variable {w : Window} {p : Color.Palette} {rows : Nat} {s : Scene}

/-! ### What the acts do to the view -/

/-- Going back, if not refused, moves the view among the lines there are. -/
theorem scroll_scrollUp? {step : Nat} {q : Painted} (h : w.scrollUp? p rows step = some q) :
    q.1.scroll = { w.scroll.froze w.backlog.size with
      back := Scroll.goBack (w.scroll.froze w.backlog.size) (viewHeight rows) step } := by
  replace h : w.scrollUp p rows step = (q, true) := moved?_eq_some_iff.1 h
  unfold scrollUp at h
  dsimp only at h
  split at h
  · cases h
  · obtain rfl := congrArg Prod.fst h
    exact (paneOnly_redrawFrom ..).scroll

/-- Pouring the view anew keeps it where it stands, or lets it thaw. -/
theorem scroll_refreshView (w : Window) (p : Color.Palette) (rows : Nat) :
    (w.refreshView p rows).1.scroll
      = if w.scroll.frozen && w.scroll.back > viewHeight rows then w.scroll
        else if w.scroll.frozen then {} else w.scroll := by
  unfold refreshView
  split
  · exact (paneOnly_redrawFrom ..).scroll
  · dsimp only
    rw [redrawTail, (paneOnly_redrawFull ..).scroll]
    split <;> rfl

/-- Wherever the view is within the backlog, pouring it anew brings it to where it may stand. -/
theorem stands_refreshView (h : w.scroll.Within w.backlog.size) (p : Color.Palette) (rows : Nat) :
    (w.refreshView p rows).1.scroll.Stands (viewHeight rows) w.backlog.size := by
  rw [scroll_refreshView]
  split
  · rename_i hstill
    simp only [Bool.and_eq_true, decide_eq_true_eq] at hstill
    exact ⟨h, fun _ => hstill.2⟩
  · split
    · exact Scroll.stands_live ..
    · rename_i hlive
      rw [h.live (by simpa using hlive)]
      exact Scroll.stands_live ..

/-! ### One act -/

namespace Scene

/-- The view stands within the backlog. -/
def Stands (s : Scene) : Prop :=
  s.window.scroll.Stands (viewHeight s.rows) s.window.backlog.size

end Scene

/-- Going back takes a line at least; everything else is free. -/
def Act.Moves : Act → Prop
  | .scrollUp step => 1 ≤ step
  | _ => True

theorem stands_scrollUp (h : s.Stands) {step : Nat} (hstep : 1 ≤ step) :
    (s.act (.scrollUp step)).Stands := by
  rcases s.scrollUp_cases step with ⟨-, hsame⟩ | ⟨q, hq, -, hact⟩
  · rwa [hsame]
  · have hsize : viewHeight s.rows < s.window.backlog.size := (scrollUp?_eq_some hq).1
    have hgone := Scroll.Stands.goBack h hsize hstep
    rw [hact]
    simp only [Scene.Stands, Scene.painted, scroll_scrollUp? hq, backlog_scrollUp? hq]
    exact hgone

theorem stands_scrollDown (h : s.Stands) (step : Nat) : (s.act (.scrollDown step)).Stands := by
  rcases s.scrollDown_cases step with ⟨-, hsame⟩ | ⟨q, hq, -, hact⟩
  · rwa [hsame]
  · obtain ⟨hfrozen, rfl⟩ := scrollDown?_eq_some hq
    rw [hact]
    simp only [Scene.Stands, Scene.painted, backlog_refreshView]
    exact stands_refreshView (h.toWithin.goOn hfrozen step) ..

/-- **One act keeps the view within the backlog.** -/
theorem stands_act (h : s.Stands) {a : Act} (ha : a.Moves) : (s.act a).Stands := by
  cases a with
  | append line =>
    have hrest := append_rest s.window s.palette line
    simp only [Scene.Stands, Scene.act, Scene.painted, hrest.scroll, hrest.backlog]
    exact ⟨h.toWithin.grow (s.window.backlog.size_le_size_push line), h.behind⟩
  | scrollUp step => exact stands_scrollUp h ha
  | scrollDown step => exact stands_scrollDown h step
  | pageUp => exact stands_scrollUp h (Nat.le_max_left ..)
  | pageDown => exact stands_scrollDown h _
  | recreate rows cols =>
    simp only [Scene.Stands, Scene.act, Scene.painted, recreate, backlog_refreshView]
    refine stands_refreshView ?_ ..
    rw [scroll_drawPanel, scroll_layout, backlog_drawPanel, backlog_layout]
    exact h.toWithin
  | seat roster named => exact h
  | resolve code => exact h

theorem stands_run (h : s.Stands) {acts : List Act} (hacts : ∀ a ∈ acts, a.Moves) :
    (s.run acts).Stands := by
  induction acts generalizing s with
  | nil => exact h
  | cons a acts ih =>
    have hfirst : (s.act a).Stands := stands_act h (hacts a List.mem_cons_self)
    exact ih hfirst fun b hb => hacts b (List.mem_cons_of_mem _ hb)

theorem stands_start (label : String) (title : Option String) (number capacity rows cols : Nat)
    (p : Color.Palette) : (Scene.start label title number capacity rows cols p).Stands := by
  have hscroll : (Window.new label title number capacity rows cols).scroll = {} := scroll_layout ..
  simp only [Scene.Stands, Scene.start, hscroll]
  exact Scroll.stands_live ..

/-! ### Refusals -/

namespace Scene

/-- What is refused, and why: to go back when all lines are in view or the view is at the top, and to
go on from a live view. -/
inductive Refuses (s : Scene) : Act → Prop where
  | scrollUp (step : Nat)
      (h : s.window.backlog.size ≤ viewHeight s.rows ∨ s.window.scroll.atTop = true) :
      Refuses s (.scrollUp step)
  | pageUp (h : s.window.backlog.size ≤ viewHeight s.rows ∨ s.window.scroll.atTop = true) :
      Refuses s .pageUp
  | scrollDown (step : Nat) (h : s.window.scroll.frozen = false) : Refuses s (.scrollDown step)
  | pageDown (h : s.window.scroll.frozen = false) : Refuses s .pageDown

end Scene

/-- An act is refused for these causes, and for no other. -/
theorem refuses_iff {a : Act} : s.refuses a = true ↔ s.Refuses a := by
  cases a with
  | scrollUp step =>
    rw [Scene.refuses, Bool.not_eq_true', scrollUp_stays_iff]
    exact ⟨.scrollUp step, fun | .scrollUp _ h => h⟩
  | scrollDown step =>
    rw [Scene.refuses, Bool.not_eq_true', scrollDown_stays_iff]
    exact ⟨.scrollDown step, fun | .scrollDown _ h => h⟩
  | pageUp =>
    rw [Scene.refuses, Bool.not_eq_true', pageUp, scrollUp_stays_iff]
    exact ⟨.pageUp, fun | .pageUp h => h⟩
  | pageDown =>
    rw [Scene.refuses, Bool.not_eq_true', pageDown, scrollDown_stays_iff]
    exact ⟨.pageDown, fun | .pageDown h => h⟩
  | append | recreate | seat | resolve => exact ⟨nofun, nofun⟩

/-- What is refused changes nothing. -/
theorem act_of_refuses {a : Act} (h : s.refuses a = true) : s.act a = s := by
  have hup {step : Nat} (h : s.refuses (.scrollUp step) = true) : s.act (.scrollUp step) = s := by
    rcases s.scrollUp_cases step with ⟨-, hsame⟩ | ⟨-, -, hmoves, -⟩
    · exact hsame
    · exact absurd (h.symm.trans hmoves) Bool.noConfusion
  have hdown {step : Nat} (h : s.refuses (.scrollDown step) = true) :
      s.act (.scrollDown step) = s := by
    rcases s.scrollDown_cases step with ⟨-, hsame⟩ | ⟨-, -, hmoves, -⟩
    · exact hsame
    · exact absurd (h.symm.trans hmoves) Bool.noConfusion
  cases a with
  | scrollUp | pageUp => exact hup h
  | scrollDown | pageDown => exact hdown h
  | append | recreate | seat | resolve => cases h

end Window
end ChatConsole
