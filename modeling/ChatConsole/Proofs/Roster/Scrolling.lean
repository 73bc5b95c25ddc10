/-
# Where scrolling leads

The panel is scrolled by steps of one length, and drawing it moves it back until its page is full.  So from
the top it comes to the places that are some steps below the top or some steps above the last one, and to no
others (`stop_scrollAll`, `top_walk`).  A panel that is lower than a step may so pass over members in both
directions, and which these are is a matter of its height and of the number of members alone
(`covered_iff`).
-/

import ChatConsole.Proofs.Roster.Order
import ChatConsole.Proofs.Roster.Rows

namespace ChatConsole
namespace Roster

variable {r : Roster} {g : Grid} {x : Roster × Grid} {height last top : Nat} {m : Member}

/-! ### One step -/

/-- Scroll the panel towards the last members or the first, and draw it. -/
def scrollDraw (height : Nat) (x : Roster × Grid) (forward : Bool) : Roster × Grid :=
  (if forward then x.1.scrollDown else x.1.scrollUp).draw x.2 height

theorem size_scrollDraw (height : Nat) (x : Roster × Grid) (forward : Bool) :
    (scrollDraw height x forward).1.size = x.1.size := by
  cases forward <;> rfl

@[simp] theorem members_scrollDraw (height : Nat) (x : Roster × Grid) (forward : Bool) :
    (scrollDraw height x forward).1.members = x.1.members := by
  cases forward <;> rfl

theorem top_scrollDraw (height : Nat) (x : Roster × Grid) (forward : Bool) :
    (scrollDraw height x forward).1.top
      = min (if forward then x.1.top + scrollStep else x.1.top - scrollStep) (x.1.size - height) := by
  cases forward <;> rfl

/-- The places where the panel can stand: some steps below the top, or some steps above the last place. -/
def Stop (last top : Nat) : Prop :=
  top ≤ last ∧ (top % scrollStep = 0 ∨ (last - top) % scrollStep = 0)

theorem stop_zero (last : Nat) : Stop last 0 :=
  ⟨Nat.zero_le _, Or.inl (Nat.zero_mod _)⟩

/-- One step leads from such a place to another. -/
theorem stop_scrollDraw (h : Stop (x.1.size - height) x.1.top) (forward : Bool) :
    Stop (x.1.size - height) (scrollDraw height x forward).1.top := by
  obtain ⟨hlast, hplace⟩ := h
  rw [top_scrollDraw]
  unfold Stop scrollStep at *
  cases forward with
  | false =>
    simp only [Bool.false_eq_true, if_false]
    omega
  | true =>
    simp only [if_true]
    omega

/-! ### Many steps -/

/-- Scroll the panel again and again, and draw it each time. -/
def scrollAll (height : Nat) (x : Roster × Grid) (moves : List Bool) : Roster × Grid :=
  moves.foldl (scrollDraw height) x

theorem scrollAll_append (height : Nat) (x : Roster × Grid) (moves more : List Bool) :
    scrollAll height x (moves ++ more) = scrollAll height (scrollAll height x moves) more :=
  List.foldl_append

@[simp] theorem members_scrollAll (height : Nat) (x : Roster × Grid) (moves : List Bool) :
    (scrollAll height x moves).1.members = x.1.members := by
  induction moves generalizing x with
  | nil => rfl
  | cons move moves ih => exact (ih _).trans (members_scrollDraw ..)

/-- Scrolling leaves the panel at one of its places. -/
theorem stop_scrollAll (h : Stop (x.1.size - height) x.1.top) (moves : List Bool) :
    Stop (x.1.size - height) (scrollAll height x moves).1.top := by
  induction moves generalizing x with
  | nil => exact h
  | cons move moves ih =>
    have hnext := ih (x := scrollDraw height x move) (size_scrollDraw height x move ▸ stop_scrollDraw h move)
    rwa [size_scrollDraw] at hnext

theorem top_down (htop : x.1.top ≤ x.1.size - height) (n : Nat) :
    (scrollAll height x (List.replicate n true)).1.top
      = min (x.1.top + n * scrollStep) (x.1.size - height) := by
  induction n generalizing x with
  | zero =>
    rw [Nat.zero_mul, Nat.add_zero]
    exact (Nat.min_eq_left htop).symm
  | succ n ih =>
    have hnext := ih (x := scrollDraw height x true)
    rw [top_scrollDraw, size_scrollDraw, if_pos rfl] at hnext
    rw [List.replicate_succ]
    refine (hnext (Nat.min_le_right ..)).trans ?_
    unfold scrollStep
    omega

theorem top_up (htop : x.1.top ≤ x.1.size - height) (n : Nat) :
    (scrollAll height x (List.replicate n false)).1.top = x.1.top - n * scrollStep := by
  induction n generalizing x with
  | zero =>
    rw [Nat.zero_mul, Nat.sub_zero]
    rfl
  | succ n ih =>
    have hnext := ih (x := scrollDraw height x false)
    rw [top_scrollDraw, size_scrollDraw, if_neg Bool.false_ne_true] at hnext
    rw [List.replicate_succ]
    refine (hnext (Nat.min_le_right ..)).trans ?_
    unfold scrollStep
    omega

/-- The steps down to the place of so many steps, and so many up again. -/
def walk (down up : Nat) : List Bool :=
  false :: (List.replicate down true ++ List.replicate up false)

theorem top_walk (htop : x.1.top = 0) (down up : Nat) :
    (scrollAll height x (walk down up)).1.top
      = min (down * scrollStep) (x.1.size - height) - up * scrollStep := by
  have hfirst : (scrollDraw height x false).1.top = 0 := by
    rw [top_scrollDraw, if_neg Bool.false_ne_true, htop, Nat.zero_sub, Nat.zero_min]
  have hstart : (scrollDraw height x false).1.top ≤ (scrollDraw height x false).1.size - height := by
    rw [hfirst]
    exact Nat.zero_le _
  have hdown := top_down hstart down
  rw [hfirst, Nat.zero_add, size_scrollDraw] at hdown
  have hsize : (scrollAll height (scrollDraw height x false) (List.replicate down true)).1.size
      = x.1.size := congrArg List.length ((members_scrollAll ..).trans (members_scrollDraw ..))
  have hwalk : scrollAll height x (walk down up)
      = scrollAll height (scrollAll height (scrollDraw height x false) (List.replicate down true))
          (List.replicate up false) :=
    scrollAll_append ..
  rw [hwalk, top_up, hdown]
  rw [hdown, hsize]
  exact Nat.min_le_right ..

/-- Each place is reached: by steps down from the top, or by steps up from the last one. -/
theorem exists_walk (htop : x.1.top = 0) (h : Stop (x.1.size - height) top) :
    ∃ down up, (scrollAll height x (walk down up)).1.top = top := by
  obtain ⟨hlast, hbelow | habove⟩ := h
  · refine ⟨top / scrollStep, 0, ?_⟩
    rw [top_walk htop]
    unfold scrollStep at *
    omega
  · refine ⟨x.1.size - height, (x.1.size - height - top) / scrollStep, ?_⟩
    rw [top_walk htop]
    unfold scrollStep at *
    omega

/-! ### What is on the page -/

theorem mem_page_iff : m ∈ r.page height ↔
    ∃ p, r.sorted[p]? = some m ∧ r.top ≤ p ∧ p < r.top + height := by
  unfold page
  rw [List.mem_iff_getElem?]
  constructor
  · rintro ⟨i, hi⟩
    rw [List.getElem?_take] at hi
    split at hi
    · rename_i hlt
      rw [List.getElem?_drop] at hi
      exact ⟨r.top + i, hi, Nat.le_add_right .., Nat.add_lt_add_left hlt _⟩
    · cases hi
  · rintro ⟨p, hp, hle, hlt⟩
    refine ⟨p - r.top, ?_⟩
    rw [List.getElem?_take, if_pos (by omega), List.getElem?_drop, Nat.add_sub_cancel' hle]
    exact hp

/-- A page has as many members as it has rows, or all of them. -/
theorem length_page_of_le (h : r.top ≤ r.size - height) :
    (r.page height).length = min r.size height := by
  have hsize : r.sorted.length = r.size := r.sorted_perm.length_eq
  rw [page, List.length_take, List.length_drop, hsize]
  omega

/-- Whether the pages at all places have all members between them. -/
theorem covered_iff (size : Nat) (hheight : 0 < height) :
    (∀ p < size, ∃ top, Stop (size - height) top ∧ top ≤ p ∧ p < top + height) ↔
      size - height ≤ height ∨
        (size - height) % scrollStep ≤ height ∧ scrollStep - (size - height) % scrollStep ≤ height := by
  generalize hlast : size - height = last
  unfold Stop scrollStep
  constructor
  · intro h
    by_cases hgap : last ≤ height
    · exact Or.inl hgap
    -- The first rows that the page at the top, and the one at the next place, leave out.
    have hodd : last % 10 ≤ height := by
      obtain ⟨top, ⟨hle, hplace⟩, hfirst, hbehind⟩ := h height (by omega)
      omega
    have heven : 10 - last % 10 ≤ height := by
      obtain ⟨top, ⟨hle, hplace⟩, hfirst, hbehind⟩ := h (last % 10 + height) (by omega)
      omega
    exact Or.inr ⟨hodd, heven⟩
  · intro h p hp
    by_cases hbelow : last ≤ p
    · exact ⟨last, ⟨Nat.le_refl _, Or.inr (by rw [Nat.sub_self])⟩, hbelow, by omega⟩
    -- The nearest place some steps below the top, or else the one above it that is next.
    by_cases hnear : p < 10 * (p / 10) + height
    · exact ⟨10 * (p / 10), ⟨by omega, by omega⟩, by omega, hnear⟩
    · exact ⟨10 * (p / 10) + last % 10, ⟨by omega, by omega⟩, by omega, by omega⟩

/-! ### The panel that is seen -/

theorem rowsDrawn_scrollDraw (hs : x.2.scrolls = false) (height : Nat) (forward : Bool) :
    RowsDrawn x.2 ((scrollDraw height x forward).1.page height) height
      (scrollDraw height x forward).2 := by
  cases forward <;> exact rowsDrawn_drawPage hs height _

/-- Drawing again and again leaves the measures of the panel and its style. -/
theorem frame_scrollAll (hs : x.2.scrolls = false) (height : Nat) (moves : List Bool) :
    Grid.SameFrame x.2 (scrollAll height x moves).2 ∧ (scrollAll height x moves).2.style = x.2.style := by
  induction moves generalizing x with
  | nil => exact ⟨.refl _, rfl⟩
  | cons move moves ih =>
    have hdrawn := rowsDrawn_scrollDraw hs height move
    obtain ⟨hframe, hstyle⟩ := ih (x := scrollDraw height x move) (hdrawn.frame.scrolls.trans hs)
    exact ⟨hdrawn.frame.trans hframe, hstyle.trans hdrawn.style⟩

/-- After each step the panel shows the page, a row for each member. -/
theorem rows_scrollAll (hs : x.2.scrolls = false) {moves : List Bool} (hmoves : moves ≠ []) :
    (scrollAll x.2.height x moves).2.rows = (List.range x.2.height).map fun i =>
      rowOf x.2 ((scrollAll x.2.height x moves).1.page x.2.height)[i]? := by
  rcases List.eq_nil_or_concat moves with rfl | ⟨front, move, rfl⟩
  · exact absurd rfl hmoves
  obtain ⟨hframe, hstyle⟩ := frame_scrollAll hs x.2.height front
  have hrows := (rowsDrawn_scrollDraw (hframe.scrolls.trans hs) x.2.height move).rows
  have hlast : scrollAll x.2.height x (front.concat move)
      = scrollDraw x.2.height (scrollAll x.2.height x front) move := by
    rw [List.concat_eq_append, scrollAll_append]
    rfl
  rw [hframe.height, Nat.min_self, Nat.sub_self, List.replicate_zero, List.append_nil] at hrows
  rw [hlast, hrows]
  exact List.map_congr_left fun i _ => rowOf_congr hframe hstyle _

/-! ### Who is reached -/

/-- A member is shown after some steps just if one of the places has its page there. -/
theorem exists_mem_page_iff (h : r.WellFormed) (htop : r.top = 0) (g : Grid) (height : Nat) {p : Nat}
    (hp : r.sorted[p]? = some m) :
    (∃ moves ≠ [], m ∈ (scrollAll height (r, g) moves).1.page height) ↔
      ∃ top, Stop (r.size - height) top ∧ top ≤ p ∧ p < top + height := by
  have hsorted (moves : List Bool) : (scrollAll height (r, g) moves).1.sorted = r.sorted :=
    congrArg (List.mergeSort · Member.le) (members_scrollAll ..)
  constructor
  · rintro ⟨moves, -, hm⟩
    obtain ⟨q, hq, hle, hlt⟩ := mem_page_iff.1 hm
    rw [hsorted] at hq
    have hnodup : r.sorted.Nodup := r.sorted_perm.nodup_iff.2 h.nodup
    have hlength : q < r.sorted.length := (List.getElem?_eq_some_iff.1 hq).1
    obtain rfl : q = p := (List.getElem?_inj hlength hnodup).1 (hq.trans hp.symm)
    have hstart : Stop (r.size - height) r.top := htop ▸ stop_zero _
    exact ⟨_, stop_scrollAll (x := (r, g)) hstart moves, hle, hlt⟩
  · rintro ⟨top, hstop, hle, hlt⟩
    obtain ⟨down, up, hwalk⟩ := exists_walk (x := (r, g)) htop hstop
    refine ⟨walk down up, List.cons_ne_nil _ _, mem_page_iff.2 ⟨p, ?_, ?_, ?_⟩⟩
    · rw [hsorted]
      exact hp
    · exact hwalk ▸ hle
    · exact hwalk ▸ hlt

/-- All members are shown after some steps if the places are near enough to each other, and only then. -/
theorem forall_exists_mem_page_iff (h : r.WellFormed) (htop : r.top = 0) (g : Grid) (hheight : 0 < height) :
    (∀ m ∈ r.members, ∃ moves ≠ [], m ∈ (scrollAll height (r, g) moves).1.page height) ↔
      r.size - height ≤ height ∨
        (r.size - height) % scrollStep ≤ height ∧
          scrollStep - (r.size - height) % scrollStep ≤ height := by
  have hsize : r.sorted.length = r.size := r.sorted_perm.length_eq
  rw [← covered_iff r.size hheight]
  constructor
  · intro hall p hp
    rw [← hsize] at hp
    have hm : r.sorted[p] ∈ r.members := r.sorted_perm.mem_iff.1 (List.getElem_mem hp)
    exact (exists_mem_page_iff h htop g height (List.getElem?_eq_getElem hp)).1 (hall _ hm)
  · intro hall m hm
    obtain ⟨p, hp⟩ := List.mem_iff_getElem?.1 (r.sorted_perm.mem_iff.2 hm)
    have hlength : p < r.size := hsize ▸ (List.getElem?_eq_some_iff.1 hp).1
    exact (exists_mem_page_iff h htop g height hp).2 (hall p hlength)

/-- The top of a roster is no matter of its members. -/
theorem WellFormed.withTop (h : r.WellFormed) (top : Nat) : WellFormed { r with top } :=
  ⟨h.named, h.distinct⟩

/-- **Where scrolling leads from the top.**  Whenever the panel is drawn, its page has as many members as
it has rows, or all of them.  After each step the panel shows this page, a row for each member.  A member is
shown after some steps just if it is on the page at one of the places where the panel can stand, and all
members are if and only if the page is as high as the gaps between these places: the last place is no
further below the top than the page is high, or else neither of the two gaps is larger that lie in turn
between the places some steps below the top and those some steps above the last. -/
theorem scrolling_reaches (requests : List Request) (hs : g.scrolls = false) (hh : 0 < g.height) :
    let r : Roster := { run {} requests with top := 0 }
    let last := r.size - g.height
    let seen (moves : List Bool) := scrollAll g.height (r, g) moves
    (∀ (s : Roster) (p : Grid) (height : Nat), (s.draw p height).1.top ≤ s.size - height ∧
      ((s.draw p height).1.page height).length = min s.size height) ∧
    (∀ moves ≠ [], (seen moves).2.rows
      = (List.range g.height).map fun i => rowOf g ((seen moves).1.page g.height)[i]?) ∧
    (∀ p m, r.sorted[p]? = some m →
      ((∃ moves ≠ [], m ∈ (seen moves).1.page g.height) ↔
        ∃ top, Stop last top ∧ top ≤ p ∧ p < top + g.height)) ∧
    ((∀ m ∈ r.members, ∃ moves ≠ [], m ∈ (seen moves).1.page g.height) ↔
      last ≤ g.height ∨ last % scrollStep ≤ g.height ∧ scrollStep - last % scrollStep ≤ g.height) := by
  intro r last seen
  have hwell : r.WellFormed := (wellFormed_run wellFormed_empty requests).withTop 0
  refine ⟨fun s p height => ?_, fun moves hmoves => rows_scrollAll (x := (r, g)) hs hmoves,
    fun p m hp => exists_mem_page_iff hwell rfl g g.height hp, forall_exists_mem_page_iff hwell rfl g hh⟩
  have hsettled : (s.draw p height).1.top ≤ (s.draw p height).1.size - height := Nat.min_le_right ..
  exact ⟨hsettled, length_page_of_le hsettled⟩

/-- Twelve members are all shown on a panel of six rows, which is lower than a step. -/
theorem scrolling_reaches_twelve :
    let requests := ["a", "b", "c", "d", "e", "f", "g", "h", "i", "j", "k", "l"].map (Request.add · .op)
    let r : Roster := { run {} requests with top := 0 }
    let g := Grid.new 4 6 false
    g.scrolls = false ∧ 0 < g.height ∧ r.size = 12 ∧
      (∀ m ∈ r.members, ∃ moves ≠ [], m ∈ (scrollAll 6 (r, g) moves).1.page 6) ∧
      ∀ moves ≠ [], (scrollAll 6 (r, g) moves).2.rows
        = (List.range 6).map fun i => rowOf g ((scrollAll 6 (r, g) moves).1.page 6)[i]? := by
  intro requests r g
  have hsize : r.size = 12 := by decide +kernel
  obtain ⟨-, hrows, -, hall⟩ := scrolling_reaches (g := g) requests rfl (by decide)
  have hgap : r.size - 6 ≤ 6 := Nat.le_of_eq (by rw [hsize])
  exact ⟨rfl, by decide, hsize, hall.2 (Or.inl hgap), hrows⟩

/-- On a panel of one row the third of twelve members is never shown, however the panel is scrolled. -/
theorem scrolling_passes_over :
    let r : Roster := run {}
      (["a", "b", "c", "d", "e", "f", "g", "h", "i", "j", "k", "l"].map (Request.add · .op))
    r.top = 0 ∧ ⟨"c", .op⟩ ∈ r.members ∧
      ¬∃ moves ≠ [], ⟨"c", .op⟩ ∈ (scrollAll 1 (r, Grid.new 4 1 false) moves).1.page 1 := by
  intro r
  have htop : r.top = 0 := by decide +kernel
  have hsorted : r.sorted = r.members := List.mergeSort_of_pairwise (by decide +kernel)
  have hplace : r.sorted[2]? = some ⟨"c", .op⟩ := by
    rw [hsorted]
    decide +kernel
  have hsize : r.size = 12 := by decide +kernel
  refine ⟨htop, r.sorted_perm.mem_iff.1 (List.mem_of_getElem? hplace), ?_⟩
  rw [exists_mem_page_iff (wellFormed_run wellFormed_empty _) htop (Grid.new 4 1 false) 1 hplace, hsize]
  rintro ⟨top, ⟨-, hstop⟩, hle, hlt⟩
  unfold scrollStep at hstop
  omega

end Roster
end ChatConsole
