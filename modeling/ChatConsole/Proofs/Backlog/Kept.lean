/-
# What a backlog keeps

A full backlog lets its oldest line go for each one that comes, and a smaller capacity lets go of all
that are too many.  So a backlog always holds the lines that came last (`Keeps`), in a number that can
be told without looking at them: `Tally` counts the lines and the room.  `run_keeps_last` says this of
every run, whichever way the capacity moves in it, together with what is found at each position.
-/

import ChatConsole.Backlog
import Mathlib.Data.List.DropRight

namespace ChatConsole
namespace Backlog

variable {b : Backlog}

/-! ### Lines that leave -/

/-- There is room for a line at least, and no more lines are stored than there is room for. -/
structure Bounded (b : Backlog) : Prop where
  room : 1 ≤ b.capacity
  size_le : b.size ≤ b.capacity

theorem bounded_new (capacity : Nat) : (new capacity).Bounded where
  room := Nat.le_max_right ..
  size_le := Nat.zero_le _

/-- The line that leaves a full backlog is its oldest one. -/
theorem Bounded.lines_push_full (h : b.Bounded) (hfull : b.isFull = true) (line : Line) :
    ∃ oldest rest, b.lines = oldest :: rest ∧ (b.push line).lines = rest ++ [line] := by
  have hroom := h.room
  have hlast : b.capacity < b.lines.length + 1 := by simpa [isFull, size] using hfull
  obtain ⟨oldest, rest, hlines⟩ := List.exists_cons_of_length_pos (show 0 < b.lines.length by omega)
  refine ⟨oldest, rest, hlines, ?_⟩
  rw [push, if_pos hfull, hlines]
  rfl

/-- No line leaves a backlog that is not full. -/
theorem lines_push_of_not_isFull (hfree : b.isFull = false) (line : Line) :
    (b.push line).lines = b.lines ++ [line] := by
  rw [push, hfree, if_neg Bool.false_ne_true]

/-- A line comes behind those there are, and the top one leaves for want of room. -/
theorem Bounded.lines_push (h : b.Bounded) (line : Line) :
    (b.push line).lines = (b.lines ++ [line]).drop (b.size + 1 - b.capacity) := by
  have hroom := h.room
  have hsize := h.size_le
  cases hfull : b.isFull with
  | true =>
    have hlast : b.capacity < b.size + 1 := by simpa [isFull] using hfull
    have hone : b.size + 1 - b.capacity = 1 := by omega
    have htop : 1 ≤ b.lines.length := Nat.le_trans hroom (Nat.le_of_lt_succ hlast)
    rw [push, hfull, if_pos rfl, hone, List.drop_append_of_le_length htop]
  | false =>
    have hfree : b.size + 1 ≤ b.capacity := by simpa [isFull] using hfull
    rw [push, hfull, if_neg Bool.false_ne_true, Nat.sub_eq_zero_of_le hfree, List.drop_zero]

theorem Bounded.size_push (h : b.Bounded) (line : Line) :
    (b.push line).size = min (b.size + 1) b.capacity := by
  have hroom := h.room
  have hsize := h.size_le
  rw [size, h.lines_push, List.length_drop, List.length_append, List.length_singleton]
  unfold size at *
  omega

theorem Bounded.push (h : b.Bounded) (line : Line) : (b.push line).Bounded where
  room := h.room
  size_le := by
    rw [h.size_push]
    exact Nat.min_le_right ..

theorem Bounded.clear (h : b.Bounded) : b.clear.Bounded where
  room := h.room
  size_le := Nat.zero_le _

/-- Of the lines there were and those that came, the last ones are stored, as many as there is room
for. -/
theorem Bounded.lines_foldl_push (h : b.Bounded) (lines : List Line) :
    (lines.foldl Backlog.push b).lines
      = (b.lines ++ lines).drop (b.size + lines.length - b.capacity) := by
  induction lines generalizing b with
  | nil =>
    rw [List.foldl_nil, List.append_nil, List.length_nil, Nat.add_zero,
      Nat.sub_eq_zero_of_le h.size_le, List.drop_zero]
  | cons line lines ih =>
    have hroom := h.room
    have hsize := h.size_le
    have hcapacity : (b.push line).capacity = b.capacity := rfl
    have hleaves : b.size + 1 - b.capacity ≤ (b.lines ++ [line]).length := by
      rw [List.length_append, List.length_singleton]
      exact Nat.sub_le ..
    have hcount : b.size + 1 - b.capacity + (min (b.size + 1) b.capacity + lines.length - b.capacity)
        = b.size + (lines.length + 1) - b.capacity := by omega
    rw [List.foldl_cons, ih (h.push line), h.size_push, hcapacity, h.lines_push,
      ← List.drop_append_of_le_length hleaves, List.drop_drop, hcount, List.append_assoc,
      List.singleton_append, List.length_cons]

/-- A line left exactly if the backlog was full; then it was the oldest one. -/
theorem Bounded.isFull_iff (h : b.Bounded) (line : Line) :
    (b.isFull = true ↔
        ∃ oldest rest, b.lines = oldest :: rest ∧ (b.push line).lines = rest ++ [line]) ∧
      (b.isFull = false ↔ (b.push line).lines = b.lines ++ [line]) := by
  constructor
  · refine ⟨fun hfull => h.lines_push_full hfull line, ?_⟩
    rintro ⟨oldest, rest, hlines, hpush⟩
    by_contra hfree
    rw [lines_push_of_not_isFull (by simpa using hfree), hlines] at hpush
    simpa using congrArg List.length hpush
  · refine ⟨fun hfree => lines_push_of_not_isFull hfree line, fun hpush => ?_⟩
    by_contra hfull
    obtain ⟨oldest, rest, hlines, hpush'⟩ :=
      h.lines_push_full (by simpa using hfull) line
    rw [hpush', hlines] at hpush
    simpa using congrArg List.length hpush

/-! ### Runs -/

/-- What is done to a backlog. -/
inductive Step where
  | push (line : Line)
  | setCapacity (capacity : Nat)
  | clear

/-- The backlog after a step. -/
def step (b : Backlog) : Step → Backlog
  | .push line => b.push line
  | .setCapacity capacity => b.setCapacity capacity
  | .clear => b.clear

/-- The backlog after some steps. -/
def run (b : Backlog) (steps : List Step) : Backlog :=
  steps.foldl step b

/-- The lines that have come since the backlog was last cleared, after one more step. -/
def Step.come (came : List Line) : Step → List Line
  | .push line => came ++ [line]
  | .setCapacity _ => came
  | .clear => []

/-- The lines that come in some steps after the last time that the backlog is cleared. -/
def comeIn (steps : List Step) : List Line :=
  steps.foldl Step.come []

/-- How many lines are kept, and how many there is room for. -/
structure Tally where
  kept : Nat
  room : Nat

namespace Tally

/-- The tally of an empty backlog; there is room for one line at least. -/
def start (capacity : Nat) : Tally :=
  ⟨0, max capacity 1⟩

/-- The tally after a step. -/
def step (t : Tally) : Step → Tally
  | .push _ => { t with kept := min (t.kept + 1) t.room }
  | .setCapacity capacity => ⟨min t.kept (max capacity 1), max capacity 1⟩
  | .clear => { t with kept := 0 }

/-- The tally after some steps. -/
def run (t : Tally) (steps : List Step) : Tally :=
  steps.foldl step t

end Tally

/-! ### The last lines -/

/-- The last lines without some of the first of them. -/
theorem drop_rtake {α : Type} {l : List α} {n : Nat} (h : n ≤ l.length) (k : Nat) :
    (l.rtake n).drop k = l.rtake (n - k) := by
  have hcount : l.length - (n - k) = l.length - n + k ∨ n ≤ k := by omega
  rw [List.rtake, List.rtake, List.drop_drop]
  rcases hcount with hcount | hnone
  · rw [hcount]
  · rw [Nat.sub_eq_zero_of_le hnone, Nat.sub_zero, List.drop_length,
      List.drop_of_length_le (by omega)]

/-- The backlog holds the last of the lines that came, as the tally has it. -/
structure Keeps (b : Backlog) (came : List Line) (t : Tally) : Prop where
  lines : b.lines = came.rtake t.kept
  kept_le : t.kept ≤ came.length
  kept_le_room : t.kept ≤ t.room
  room : 1 ≤ t.room
  capacity : b.capacity = t.room

variable {came : List Line} {t : Tally}

theorem keeps_new (capacity : Nat) : (new capacity).Keeps [] (.start capacity) where
  lines := rfl
  kept_le := Nat.le_refl 0
  kept_le_room := Nat.zero_le _
  room := Nat.le_max_right ..
  capacity := rfl

theorem Keeps.size (h : b.Keeps came t) : b.size = t.kept := by
  have hkept := h.kept_le
  rw [Backlog.size, h.lines, List.rtake, List.length_drop]
  omega

theorem Keeps.bounded (h : b.Keeps came t) : b.Bounded where
  room := h.capacity ▸ h.room
  size_le := by
    rw [h.size, h.capacity]
    exact h.kept_le_room

theorem Keeps.push (h : b.Keeps came t) (line : Line) :
    (b.push line).Keeps (came ++ [line]) (t.step (.push line)) where
  lines := by
    have hcame : t.kept + 1 ≤ (came ++ [line]).length := by
      rw [List.length_append, List.length_singleton]
      exact Nat.succ_le_succ h.kept_le
    have hkept : t.kept + 1 - (t.kept + 1 - t.room) = min (t.kept + 1) t.room := by omega
    rw [h.bounded.lines_push, h.size, h.capacity, h.lines, ← List.rtake_concat_succ,
      drop_rtake hcame, hkept]
    rfl
  kept_le := by
    have hkept := h.kept_le
    rw [List.length_append, List.length_singleton]
    exact Nat.le_trans (Nat.min_le_left ..) (Nat.succ_le_succ hkept)
  kept_le_room := Nat.min_le_right ..
  room := h.room
  capacity := h.capacity

theorem Keeps.setCapacity (h : b.Keeps came t) (capacity : Nat) :
    (b.setCapacity capacity).Keeps came (t.step (.setCapacity capacity)) where
  lines := by
    have hkept : t.kept - (t.kept - max capacity 1) = min t.kept (max capacity 1) := by omega
    rw [Backlog.setCapacity, h.size, h.lines, drop_rtake h.kept_le, hkept]
    rfl
  kept_le := Nat.le_trans (Nat.min_le_left ..) h.kept_le
  kept_le_room := Nat.min_le_right ..
  room := Nat.le_max_right ..
  capacity := rfl

theorem Keeps.clear (h : b.Keeps came t) : b.clear.Keeps [] (t.step .clear) where
  lines := rfl
  kept_le := Nat.le_refl 0
  kept_le_room := Nat.zero_le _
  room := h.room
  capacity := h.capacity

theorem Keeps.step (h : b.Keeps came t) (s : Step) : (b.step s).Keeps (s.come came) (t.step s) := by
  cases s with
  | push line => exact h.push line
  | setCapacity capacity => exact h.setCapacity capacity
  | clear => exact h.clear

theorem Keeps.run (h : b.Keeps came t) (steps : List Step) :
    (b.run steps).Keeps (steps.foldl Step.come came) (t.run steps) := by
  induction steps generalizing b came t with
  | nil => exact h
  | cons s steps ih => exact ih (h.step s)

/-- **A backlog keeps the lines that came last.**  After any steps it holds the last of the lines that
came since it was cleared, in order and as they came.  Their number goes up by one with each line up to
the capacity, down to a smaller capacity, and to nothing when the backlog is cleared; there is room for
one line always.  The next line is said to make one leave exactly if one does, the oldest.  A position
is looked up among these lines, and what is behind the last of them is empty. -/
theorem run_keeps_last (capacity : Nat) (steps : List Step) :
    let b := (new capacity).run steps
    let t := (Tally.start capacity).run steps
    let kept := (comeIn steps).rtake t.kept
    (b.lines = kept ∧ b.size = t.kept ∧ t.kept ≤ (comeIn steps).length) ∧
      (b.capacity = t.room ∧ b.size ≤ b.capacity ∧ 1 ≤ b.capacity) ∧
      (∀ line,
        (b.isFull = true ↔
          ∃ oldest rest, b.lines = oldest :: rest ∧ (b.push line).lines = rest ++ [line]) ∧
        (b.isFull = false ↔ (b.push line).lines = b.lines ++ [line])) ∧
      ∀ position,
        (b.get? position = kept[position]? ∧ b.since position = kept.drop position) ∧
        (b.get? position = none ↔ t.kept ≤ position) ∧
        (b.since position).length = t.kept - position := by
  intro b t kept
  have h : b.Keeps (comeIn steps) t := (keeps_new capacity).run steps
  have hlength : kept.length = t.kept := (congrArg List.length h.lines).symm.trans h.size
  refine ⟨⟨h.lines, h.size, h.kept_le⟩, ⟨h.capacity, h.bounded.size_le, h.bounded.room⟩,
    h.bounded.isFull_iff, fun position => ?_⟩
  rw [get?, since, h.lines]
  refine ⟨⟨rfl, rfl⟩, ?_, ?_⟩
  · rw [List.getElem?_eq_none_iff, hlength]
  · rw [List.length_drop, hlength]

/-- A smaller capacity keeps the last two of four lines, and a larger one brings none back. -/
example :
    let line (text : String) : Line := ⟨text, 0⟩
    ((new 5).run [.push (line "a"), .push (line "b"), .push (line "c"), .push (line "d"),
      .setCapacity 2, .setCapacity 9, .push (line "e")]).lines = [line "c", line "d", line "e"] := by
  decide

end Backlog
end ChatConsole
