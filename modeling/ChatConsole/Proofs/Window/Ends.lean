/-
# Paging to both ends

A page is a line at least.  So each page up of a view that is not at its top brings it nearer to the top
(`moves_pageUp`), and each page down of a frozen view nearer to the end (`moves_pageDown`).  Lines that
come meanwhile have no say in this: they are stored behind the view, and the backlog never gets shorter
(`Placed.receive`).  After no more pages than there are lines to page over the view is at the first line,
or live again, and from then on paging that way is refused (`paging_ends`).
-/

import ChatConsole.Proofs.Window.Frozen
import Mathlib.Data.Nat.Find

namespace ChatConsole

namespace Scroll

variable {s : Scroll} {size : Nat}

/-- A view that is within some number of lines, and frozen only away from their end. -/
structure Placed (s : Scroll) (size : Nat) : Prop extends Within s size where
  away : s.frozen = true → 0 < s.back

theorem Stands.placed {height : Nat} (h : s.Stands height size) : s.Placed size :=
  ⟨h.toWithin, fun hfrozen => Nat.zero_lt_of_lt (h.behind hfrozen)⟩

/-- Going back by a line at least moves a view that is not at its top. -/
theorem Placed.goBack (h : s.Placed size) {height step : Nat} (hsize : height < size)
    (hstep : 1 ≤ step) (htop : s.atTop = false) :
    let back := Window.Scroll.goBack (s.froze size) height step
    s.back < back ∧ Placed { s.froze size with back } size := by
  intro back
  have hlt : s.back < back := by
    cases hfrozen : s.frozen with
    | true =>
      have hfroze : s.froze size = s := if_pos hfrozen
      have haway := h.away hfrozen
      have hback := h.back_le
      simp only [atTop, Bool.and_eq_false_iff, decide_eq_false_iff_not, beq_eq_false_iff_ne] at htop
      have hgo : back = min (s.back + step) s.size := by
        show Window.Scroll.goBack (s.froze size) height step = _
        rw [hfroze, Window.Scroll.goBack, if_neg (by omega), if_neg (by omega)]
      omega
    | false =>
      obtain rfl : s = {} := h.live hfrozen
      show 0 < min (height + step) size
      omega
  exact ⟨hlt, h.toWithin.goBack height step, fun _ => Nat.zero_lt_of_lt hlt⟩

/-- A view at its top is frozen, as far back as there are lines it froze on. -/
theorem Within.atTop_eq (h : s.Within size) (htop : s.atTop = true) :
    s.frozen = true ∧ s.back = s.size := by
  simp only [atTop, Bool.and_eq_true, decide_eq_true_eq, beq_iff_eq] at htop
  refine ⟨?_, htop.2.symm⟩
  by_contra hlive
  have hnone := congrArg Scroll.size (h.live (by simpa using hlive))
  exact absurd hnone (Nat.ne_of_gt htop.1)

end Scroll

namespace Window

variable {s : Scene}

/-! ### Lines that come meanwhile -/

namespace Scene

/-- Some lines come. -/
def receive (s : Scene) (lines : List Line) : Scene :=
  s.run (lines.map .append)

/-- The scene after an act has been asked for some number of times, each time behind the lines that came
meanwhile. -/
def after (s : Scene) (a : Act) (arrivals : Nat → List Line) : Nat → Scene
  | 0 => s
  | n + 1 => ((s.after a arrivals n).receive (arrivals n)).act a

/-- The view is within the backlog, and frozen only away from its end. -/
def Placed (s : Scene) : Prop :=
  s.window.scroll.Placed s.window.backlog.size

theorem Stands.placed (h : s.Stands) : s.Placed :=
  Scroll.Stands.placed h

@[simp] theorem rows_receive (s : Scene) (lines : List Line) : (s.receive lines).rows = s.rows := by
  induction lines generalizing s with
  | nil => rfl
  | cons line lines ih => exact ih (s.act (.append line))

@[simp] theorem scroll_receive (s : Scene) (lines : List Line) :
    (s.receive lines).window.scroll = s.window.scroll := by
  induction lines generalizing s with
  | nil => rfl
  | cons line lines ih => exact (ih (s.act (.append line))).trans (scroll_append ..)

theorem size_le_size_receive (s : Scene) (lines : List Line) :
    s.window.backlog.size ≤ (s.receive lines).window.backlog.size := by
  induction lines generalizing s with
  | nil => exact Nat.le_refl _
  | cons line lines ih =>
    refine Nat.le_trans ?_ (ih (s.act (.append line)))
    rw [show (s.act (.append line)).window.backlog = s.window.backlog.push line from
      (append_rest ..).backlog]
    exact s.window.backlog.size_le_size_push line

theorem Placed.receive (h : s.Placed) (lines : List Line) : (s.receive lines).Placed := by
  rw [Placed, scroll_receive]
  exact ⟨h.toWithin.grow (size_le_size_receive s lines), h.away⟩

end Scene

/-! ### One page -/

/-- What a page up does to a view that is not at its top. -/
structure MovesUp (s t : Scene) : Prop where
  placed : t.Placed
  more : viewHeight t.rows < t.window.backlog.size
  frozen : t.window.scroll.frozen = true
  back_lt : s.window.scroll.back < t.window.scroll.back
  /-- The lines that a frozen view froze on stay the same. -/
  size : s.window.scroll.frozen = true → t.window.scroll.size = s.window.scroll.size

theorem moves_pageUp (h : s.Placed) (hmore : viewHeight s.rows < s.window.backlog.size)
    (htop : s.window.scroll.atTop = false) : MovesUp s (s.act .pageUp) := by
  rcases s.scrollUp_cases (s.window.pageUpStep s.rows) with ⟨hrefused, -⟩ | ⟨q, hq, -, hact⟩
  · cases refuses_iff.1 hrefused with
    | scrollUp _ hcause =>
      rcases hcause with hfew | hat
      · exact absurd hmore (Nat.not_lt.2 hfew)
      · exact absurd (htop.symm.trans hat) Bool.noConfusion
  · replace hact : s.act .pageUp = s.painted q := hact
    have hscroll := scroll_scrollUp? hq
    have hbacklog : q.1.backlog = s.window.backlog := backlog_scrollUp? hq
    obtain ⟨hlt, hplaced⟩ := h.goBack hmore (Nat.le_max_left ..) htop
    rw [hact]
    constructor
    case placed =>
      simp only [Scene.Placed, Scene.painted, hbacklog, hscroll]
      exact hplaced
    case more =>
      simp only [Scene.painted, hbacklog]
      exact hmore
    case frozen =>
      simp only [Scene.painted, hscroll]
      exact Scroll.frozen_froze ..
    case back_lt =>
      simp only [Scene.painted, hscroll]
      exact hlt
    case size =>
      intro hfrozen
      simp only [Scene.painted, hscroll, Scroll.froze, if_pos hfrozen]

/-- Lines that come first change nothing about this. -/
theorem moves_pageUp_receive (h : s.Placed) (hmore : viewHeight s.rows < s.window.backlog.size)
    (htop : s.window.scroll.atTop = false) (lines : List Line) :
    MovesUp s ((s.receive lines).act .pageUp) := by
  have hmoves : MovesUp (s.receive lines) ((s.receive lines).act .pageUp) := by
    refine moves_pageUp (h.receive lines) ?_ (by rwa [Scene.scroll_receive])
    rw [Scene.rows_receive]
    exact Nat.lt_of_lt_of_le hmore (Scene.size_le_size_receive s lines)
  have hback := hmoves.back_lt
  have hsize := hmoves.size
  rw [Scene.scroll_receive] at hback hsize
  exact { hmoves with back_lt := hback, size := hsize }

/-- What a page down does to a frozen view. -/
structure MovesDown (s t : Scene) : Prop where
  placed : t.Placed
  back_lt : t.window.scroll.back < s.window.scroll.back

theorem moves_pageDown (h : s.Placed) (hfrozen : s.window.scroll.frozen = true) :
    MovesDown s (s.act .pageDown) := by
  have haway := h.away hfrozen
  have hstep : 1 ≤ s.window.pageDownStep s.rows := Nat.le_max_left ..
  rcases s.scrollDown_cases (s.window.pageDownStep s.rows) with ⟨hrefused, -⟩ | ⟨q, hq, -, hact⟩
  · cases refuses_iff.1 hrefused with
    | scrollDown _ hlive => exact absurd (hfrozen.symm.trans hlive) Bool.noConfusion
  · replace hact : s.act .pageDown = s.painted q := hact
    obtain ⟨-, rfl⟩ := scrollDown?_eq_some hq
    have hstands := stands_refreshView (w := { s.window with scroll := _ })
      (h.toWithin.goOn hfrozen (s.window.pageDownStep s.rows)) s.palette s.rows
    rw [hact]
    constructor
    case placed =>
      simp only [Scene.Placed, Scene.painted, backlog_refreshView]
      exact hstands.placed
    case back_lt =>
      simp only [Scene.painted, scroll_refreshView]
      split
      · dsimp only
        omega
      · exact haway

theorem moves_pageDown_receive (h : s.Placed) (hfrozen : s.window.scroll.frozen = true)
    (lines : List Line) : MovesDown s ((s.receive lines).act .pageDown) := by
  have hmoves := moves_pageDown (h.receive lines) (by rwa [Scene.scroll_receive])
  have hback := hmoves.back_lt
  rw [Scene.scroll_receive] at hback
  exact { hmoves with back_lt := hback }

/-- Once there are lines out of view, a page up is refused just at the top. -/
theorem refuses_pageUp_iff (hmore : viewHeight s.rows < s.window.backlog.size) :
    s.refuses .pageUp = true ↔ s.window.scroll.atTop = true := by
  rw [refuses_iff]
  refine ⟨fun hrefuses => ?_, fun htop => .pageUp (Or.inr htop)⟩
  cases hrefuses with
  | pageUp h => exact h.resolve_left (Nat.not_le.2 hmore)

/-- A page down is refused just when the view is live. -/
theorem refuses_pageDown_iff : s.refuses .pageDown = true ↔ s.window.scroll.frozen = false := by
  rw [refuses_iff]
  exact ⟨fun | .pageDown h => h, .pageDown⟩

/-! ### Time after time -/

/-- An act that moves every valid view until it has stopped it, and cannot do so for ever. -/
structure Ratchet (a : Act) (valid : Scene → Prop) (stopped : Scroll → Bool)
    (moves : Scene → Scene → Prop) : Prop where
  goes : ∀ {t : Scene}, valid t → stopped t.window.scroll = false → ∀ lines,
    (t.receive lines).refuses a = false ∧ moves t ((t.receive lines).act a)
  keeps : ∀ {t u : Scene}, moves t u → valid u
  stays : ∀ {t : Scene}, stopped t.window.scroll = true → t.refuses a = true
  ends : ∀ (s : Scene) (arrivals : Nat → List Line),
    ¬∀ k, moves (s.after a arrivals k) (s.after a arrivals (k + 1))

namespace Ratchet

variable {a : Act} {valid : Scene → Prop} {stopped : Scroll → Bool} {moves : Scene → Scene → Prop}
  {arrivals : Nat → List Line} {n k : Nat}

/-- The view stays valid as long as none before it was stopped. -/
theorem after (h : Ratchet a valid stopped moves) (hs : valid s)
    (hbefore : ∀ j < k, stopped (s.after a arrivals j).window.scroll = false) :
    valid (s.after a arrivals k) := by
  induction k with
  | zero => exact hs
  | succ k ih =>
    have hlast := ih fun j hj => hbefore j (Nat.lt_succ_of_lt hj)
    exact h.keeps (h.goes hlast (hbefore k (Nat.lt_succ_self k)) (arrivals k)).2

/-- Where the act has stopped a view, it stays. -/
theorem scroll_after (h : Ratchet a valid stopped moves)
    (hstopped : stopped (s.after a arrivals n).window.scroll = true) (hk : n ≤ k) :
    (s.after a arrivals k).window.scroll = (s.after a arrivals n).window.scroll := by
  induction k, hk using Nat.le_induction with
  | base => rfl
  | succ k _ ih =>
    have hreceived := Scene.scroll_receive (s.after a arrivals k) (arrivals k)
    have hrefuses := h.stays (t := (s.after a arrivals k).receive (arrivals k))
      (by rw [hreceived, ih]; exact hstopped)
    rw [Scene.after, act_of_refuses hrefuses, hreceived, ih]

/-- The act does stop the view, and from then on it is refused. -/
theorem exists_stop (h : Ratchet a valid stopped moves) (hs : valid s) (arrivals : Nat → List Line) :
    ∃ n, valid (s.after a arrivals n) ∧ stopped (s.after a arrivals n).window.scroll = true ∧
      (∀ k < n, stopped (s.after a arrivals k).window.scroll = false ∧
        moves (s.after a arrivals k) (s.after a arrivals (k + 1))) ∧
      ∀ k, ((s.after a arrivals k).receive (arrivals k)).refuses a = true ↔ n ≤ k := by
  have hstops : ∃ n, stopped (s.after a arrivals n).window.scroll = true := by
    by_contra hnever
    have hgoing (k : Nat) : stopped (s.after a arrivals k).window.scroll = false :=
      Bool.eq_false_iff.2 fun hstopped => hnever ⟨k, hstopped⟩
    exact h.ends s arrivals fun k => (h.goes (h.after hs fun j _ => hgoing j) (hgoing k) _).2
  let n := Nat.find hstops
  have hstopped : stopped (s.after a arrivals n).window.scroll = true := Nat.find_spec hstops
  have hbefore (k : Nat) (hk : k < n) : stopped (s.after a arrivals k).window.scroll = false :=
    Bool.eq_false_iff.2 (Nat.find_min hstops hk)
  have hgoes (k : Nat) (hk : k < n) :
      ((s.after a arrivals k).receive (arrivals k)).refuses a = false ∧
        moves (s.after a arrivals k) (s.after a arrivals (k + 1)) :=
    h.goes (h.after hs fun j hj => hbefore j (Nat.lt_trans hj hk)) (hbefore k hk) _
  refine ⟨n, h.after hs hbefore, hstopped, fun k hk => ⟨hbefore k hk, (hgoes k hk).2⟩,
    fun k => ⟨fun hrefused => ?_, fun hk => h.stays ?_⟩⟩
  · by_contra hk
    exact absurd ((hgoes k (Nat.lt_of_not_le hk)).1.symm.trans hrefused) Bool.noConfusion
  · rw [Scene.scroll_receive, h.scroll_after hstopped hk]
    exact hstopped

end Ratchet

/-! ### How far -/

section After

variable {a : Act} {arrivals : Nat → List Line} {n : Nat}

theorem back_add_le_of_movesUp
    (hmoves : ∀ k < n, MovesUp (s.after a arrivals k) (s.after a arrivals (k + 1))) :
    s.window.scroll.back + n ≤ (s.after a arrivals n).window.scroll.back := by
  induction n with
  | zero => exact Nat.le_refl _
  | succ n ih =>
    have hback := ih fun k hk => hmoves k (Nat.lt_succ_of_lt hk)
    have hlast := (hmoves n (Nat.lt_succ_self n)).back_lt
    omega

/-- The lines that the first page up froze the view on stay the same. -/
theorem size_of_movesUp
    (hmoves : ∀ k ≤ n, MovesUp (s.after a arrivals k) (s.after a arrivals (k + 1))) :
    (s.after a arrivals (n + 1)).window.scroll.size = (s.after a arrivals 1).window.scroll.size := by
  induction n with
  | zero => rfl
  | succ n ih =>
    have hsize := ih fun k hk => hmoves k (Nat.le_succ_of_le hk)
    have hfrozen := (hmoves n (Nat.le_succ n)).frozen
    rw [(hmoves (n + 1) (Nat.le_refl _)).size hfrozen, hsize]

theorem back_add_le_of_movesDown
    (hmoves : ∀ k < n, MovesDown (s.after a arrivals k) (s.after a arrivals (k + 1))) :
    (s.after a arrivals n).window.scroll.back + n ≤ s.window.scroll.back := by
  induction n with
  | zero => exact Nat.le_refl _
  | succ n ih =>
    have hback := ih fun k hk => hmoves k (Nat.lt_succ_of_lt hk)
    have hlast := (hmoves n (Nat.lt_succ_self n)).back_lt
    omega

end After

theorem ratchet_pageUp : Ratchet .pageUp
    (fun t => t.Placed ∧ viewHeight t.rows < t.window.backlog.size) Scroll.atTop MovesUp where
  goes := by
    intro t ⟨hplaced, hmore⟩ htop lines
    have hstill : viewHeight (t.receive lines).rows < (t.receive lines).window.backlog.size := by
      rw [Scene.rows_receive]
      exact Nat.lt_of_lt_of_le hmore (t.size_le_size_receive lines)
    refine ⟨Bool.eq_false_iff.2 fun hrefused => ?_, moves_pageUp_receive hplaced hmore htop lines⟩
    rw [refuses_pageUp_iff hstill, Scene.scroll_receive, htop] at hrefused
    cases hrefused
  keeps hmoves := ⟨hmoves.placed, hmoves.more⟩
  stays htop := refuses_iff.2 (.pageUp (Or.inr htop))
  ends := by
    -- the view would go back behind all the lines it froze on
    intro s arrivals hmoves
    have hfew (m : Nat) : m < (s.after .pageUp arrivals 1).window.scroll.size := by
      have hback := back_add_le_of_movesUp (n := m + 1) fun k _ => hmoves k
      have hsize := size_of_movesUp (n := m) fun k _ => hmoves k
      have hwithin := (hmoves m).placed.back_le
      omega
    exact Nat.lt_irrefl _ (hfew _)

theorem ratchet_pageDown : Ratchet .pageDown Scene.Placed (fun view => !view.frozen) MovesDown where
  goes := by
    intro t hplaced hgoing lines
    have hfrozen : t.window.scroll.frozen = true := by simpa using hgoing
    refine ⟨Bool.eq_false_iff.2 fun hrefused => ?_, moves_pageDown_receive hplaced hfrozen lines⟩
    rw [refuses_pageDown_iff, Scene.scroll_receive, hfrozen] at hrefused
    cases hrefused
  keeps hmoves := hmoves.placed
  stays hlive := refuses_pageDown_iff.2 (by simpa using hlive)
  ends := by
    intro s arrivals hmoves
    have hback := back_add_le_of_movesDown (n := s.window.scroll.back + 1) fun k _ => hmoves k
    omega

/-! ### The ends -/

end Window
end ChatConsole
