/-
# Where a read ends

A read waits for one arrival after another.  Before each wait it looks whether a change of size has been
noted, and after a key it looks whether the key had an outcome; the first of these, or the end of the
arrivals, ends the read.  `ending?` says of a number of arrivals whether the read ends there and how, from
the keys among the arrivals before and from the last of them, without a loop; `read_ends_at_first` says that
the read is the first such ending, and so that it loses no key and no note of a change of size.
-/

import ChatConsole.Proofs.LineEditor.OffScreen

namespace ChatConsole
namespace LineEditor

variable {σ : Type} [Client σ]

/-! ### The state after some arrivals -/

/-- The key that arrived, if one did. -/
def Arrival.key? : Arrival → Option Key
  | .key k => some k
  | .pause | .resized | .closed => none

/-- The keys among the arrivals. -/
def keysOf (arrivals : List Arrival) : List Key :=
  arrivals.filterMap Arrival.key?

/-- The editor with its row on the screen. -/
def shown (a : At σ) : At σ :=
  (a.1, Client.display a.1.panel a.2)

/-- Take keys that have no outcome, and show the row after each. -/
def showEach (keys : List Key) (a : At σ) : At σ :=
  keys.foldl (fun a key => shown (handle key a).1) a

/-- The editor after `i` arrivals. -/
def stateAt (arrivals : List Arrival) (a : At σ) (i : Nat) : At σ :=
  showEach (keysOf (arrivals.take i)) a

/-- Whether a change of size is noted after `i` arrivals, if none was before the last of them. -/
def notedAt (resized : Bool) (arrivals : List Arrival) : Nat → Bool
  | 0 => resized
  | i + 1 => arrivals[i]? == some .resized

/-! ### What ends a read -/

/-- An end of a read. -/
structure Ending (σ : Type) where
  outcome : Outcome
  /-- The editor and the client as the read leaves them. -/
  last : At σ
  waits : Nat

/-- How a read ends that has come past `i` arrivals, unless it goes on: a change of size is noted, or the
next wait brings no key ever again, or a key that has an outcome. -/
def ending? (resized : Bool) (arrivals : List Arrival) (a : At σ) (i : Nat) : Option (Ending σ) :=
  if notedAt resized arrivals i then some ⟨.cancelled .resize, stateAt arrivals a i, i⟩
  else
    match arrivals[i]? with
    | none | some .closed => some ⟨.cancelled .inputClosed, stateAt arrivals a i, i + 1⟩
    | some .pause | some .resized => none
    | some (.key k) =>
      let pressed := handle k (stateAt arrivals a i)
      pressed.2.map (⟨·, pressed.1, i + 1⟩)

/-- The same end, one wait later. -/
def Ending.later (e : Ending σ) : Ending σ :=
  { e with waits := e.waits + 1 }

variable {resized : Bool} {arrivals : List Arrival} {a : At σ} {i : Nat} {e : Ending σ} {x : Arrival}

theorem keysOf_append (xs ys : List Arrival) : keysOf (xs ++ ys) = keysOf xs ++ keysOf ys :=
  List.filterMap_append ..

theorem stateAt_cons (xs : List Arrival) (j : Nat) :
    stateAt (x :: xs) a (j + 1) = stateAt xs (showEach (keysOf [x]) a) j := by
  have hkeys : keysOf (x :: xs.take j) = keysOf [x] ++ keysOf (xs.take j) := keysOf_append [x] _
  rw [stateAt, List.take_succ_cons, hkeys, showEach, List.foldl_append]
  rfl

theorem notedAt_cons (xs : List Arrival) (j : Nat) :
    notedAt resized (x :: xs) (j + 1) = notedAt (x == .resized) xs j := by
  cases j with
  | zero => rfl
  | succ j => rfl

/-- Behind the first arrival a read ends as one that starts there. -/
theorem ending?_cons (xs : List Arrival) (j : Nat) :
    ending? resized (x :: xs) a (j + 1)
      = (ending? (x == .resized) xs (showEach (keysOf [x]) a) j).map Ending.later := by
  unfold ending?
  rw [notedAt_cons, stateAt_cons, List.getElem?_cons_succ]
  split
  · rfl
  · split <;> simp [Ending.later, Function.comp_def]

theorem resume_noted (waits : Nat) (arrivals : List Arrival) (a : At σ) :
    resume true waits arrivals a = ⟨.cancelled .resize, a.1, a.2, false, waits, arrivals⟩ := by
  rw [resume.eq_def]
  rfl

theorem resume_key (waits : Nat) (k : Key) (rest : List Arrival) (a : At σ) :
    resume false waits (.key k :: rest) a
      = match (handle k a).2 with
        | some outcome => ⟨outcome, (handle k a).1.1, (handle k a).1.2, false, waits + 1, rest⟩
        | none => resume false (waits + 1) rest (shown (handle k a).1) := by
  rw [resume]
  generalize handle k a = pressed
  obtain ⟨-, outcome⟩ := pressed
  cases outcome <;> rfl

/-! ### The first end -/

/-- What a read leaves that had waited `waits` times before these arrivals. -/
def Ending.reading (e : Ending σ) (waits : Nat) (arrivals : List Arrival) : Reading σ where
  outcome := e.outcome
  editor := e.last.1
  client := e.last.2
  resized := false
  waits := waits + e.waits
  rest := arrivals.drop e.waits

/-- A read that had waited `waits` times before these arrivals leaves what the first end among them does. -/
def EndsFirst (resized : Bool) (waits : Nat) (arrivals : List Arrival) (a : At σ) (r : Reading σ) : Prop :=
  ∃ i ≤ arrivals.length, (∀ j < i, ending? resized arrivals a j = none) ∧
    ∃ e, ending? resized arrivals a i = some e ∧ r = e.reading waits arrivals

theorem EndsFirst.now {waits : Nat} {r : Reading σ} (he : ending? resized arrivals a 0 = some e)
    (hr : r = e.reading waits arrivals) : EndsFirst resized waits arrivals a r :=
  ⟨0, Nat.zero_le _, fun j hj => absurd hj j.not_lt_zero, e, he, hr⟩

/-- If nothing ends a read before its first arrival, nor with that, the first end is behind it. -/
theorem EndsFirst.cons {waits : Nat} {xs : List Arrival} {r : Reading σ}
    (hfirst : ending? resized (x :: xs) a 0 = none)
    (h : EndsFirst (x == .resized) (waits + 1) xs (showEach (keysOf [x]) a) r) :
    EndsFirst resized waits (x :: xs) a r := by
  obtain ⟨i, hi, hbefore, e, he, rfl⟩ := h
  refine ⟨i + 1, Nat.succ_le_succ hi, fun j hj => ?_, e.later, ?_, ?_⟩
  · cases j with
    | zero => exact hfirst
    | succ j => rw [ending?_cons, hbefore j (Nat.lt_of_succ_lt_succ hj), Option.map_none]
  · rw [ending?_cons, he, Option.map_some]
  · rw [Ending.reading, Ending.reading, Ending.later, List.drop_succ_cons, Nat.add_right_comm, Nat.add_assoc]

/-- The loop of a read, by induction on what arrives. -/
theorem endsFirst_resume (resized : Bool) (waits : Nat) (arrivals : List Arrival) (a : At σ) :
    EndsFirst resized waits arrivals a (resume resized waits arrivals a) := by
  induction arrivals generalizing resized waits a with
  | nil => cases resized <;> exact .now rfl rfl
  | cons x xs ih =>
    cases resized with
    | true => exact .now rfl (resume_noted ..)
    | false =>
      cases x with
      | closed => exact .now rfl rfl
      | pause => exact .cons rfl (ih false (waits + 1) a)
      | resized => exact .cons rfl (ih true (waits + 1) a)
      | key k =>
        have hpressed : ending? false (.key k :: xs) a 0
            = (handle k a).2.map (⟨·, (handle k a).1, 1⟩) := rfl
        rw [resume_key]
        cases houtcome : (handle k a).2 with
        | none =>
          rw [houtcome] at hpressed
          exact .cons hpressed (ih false (waits + 1) (shown (handle k a).1))
        | some outcome =>
          rw [houtcome] at hpressed
          exact .now hpressed rfl

theorem endsFirst_read (resized : Bool) (arrivals : List Arrival) (a : At σ) :
    EndsFirst resized 0 arrivals (shown a) (read resized arrivals a) :=
  endsFirst_resume resized 0 arrivals (shown a)

/-! ### What the keys have done -/

/-- No key brings about a change of size. -/
theorem handle_outcome_ne_resize (key : Key) (a : At σ) :
    (handle key a).2 ≠ some (.cancelled .resize) := by
  have hsubmit (e : LineEditor) : e.submit.2 ≠ .cancelled .resize := by
    unfold submit
    split <;> nofun
  cases key with
  | enter => exact fun h => hsubmit _ (Option.some.inj h)
  | up | down | bell | char | backspace | tab | escape | left | right | altUp | altDown | home | lineEnd
  | delete | pageUp | pageDown | function | control | unknown => nofun

/-- A read ends by a change of size before the next wait, and by anything else in the next wait. -/
theorem ending?_cases (h : ending? resized arrivals a i = some e) :
    (notedAt resized arrivals i = true ∧ e = ⟨.cancelled .resize, stateAt arrivals a i, i⟩) ∨
      (e.outcome ≠ .cancelled .resize ∧ arrivals[i]? ≠ some .resized ∧ e.waits = i + 1 ∧
        e.last = (pressAll handle (keysOf arrivals[i]?.toList) (stateAt arrivals a i)).1) := by
  unfold ending? at h
  split at h
  · rename_i hnoted
    exact .inl ⟨hnoted, (Option.some.inj h).symm⟩
  · right
    split at h
    · rename_i hclosed
      obtain rfl := Option.some.inj h
      exact ⟨nofun, by simp [hclosed], rfl, by rw [hclosed]; rfl⟩
    · rename_i hclosed
      obtain rfl := Option.some.inj h
      exact ⟨nofun, by simp [hclosed], rfl, by rw [hclosed]; rfl⟩
    · cases h
    · cases h
    · rename_i k hkey
      obtain ⟨outcome, houtcome, rfl⟩ := Option.map_eq_some_iff.1 h
      refine ⟨?_, by simp [hkey], rfl, by rw [hkey]; rfl⟩
      rintro rfl
      exact handle_outcome_ne_resize k _ houtcome

theorem pressAll_append {α : Type} (press : Key → α → α × Option Outcome) (keys more : List Key) (a : α) :
    (pressAll press (keys ++ more) a).1 = (pressAll press more (pressAll press keys a).1).1 := by
  induction keys generalizing a with
  | nil => rfl
  | cons key keys ih => exact ih _

section Views

variable {τ : Type} [Client τ] {view : σ → τ} (h : Client.OffScreen view)
include h

theorem viewed_shown (a : At σ) : viewed view (shown a) = viewed view a :=
  congrArg (Prod.mk a.1) (h.unseen _ a.2)

theorem viewed_pressAll (keys : List Key) (a : At σ) :
    viewed view (pressAll handle keys a).1 = (pressAll handle keys (viewed view a)).1 := by
  induction keys generalizing a with
  | nil => rfl
  | cons key keys ih =>
    rw [pressAll, pressAll, handle_viewed h]
    exact ih _

/-- In a view the keys do the same whether their rows are shown or not. -/
theorem viewed_showEach (keys : List Key) (a : At σ) :
    viewed view (showEach keys a) = (pressAll handle keys (viewed view a)).1 := by
  induction keys generalizing a with
  | nil => rfl
  | cons key keys ih =>
    have hfirst : viewed view (shown (handle key a).1) = (handle key (viewed view a)).1 := by
      rw [viewed_shown h, handle_viewed h]
      rfl
    rw [pressAll, ← hfirst]
    exact ih _

theorem viewed_last (he : ending? resized arrivals a i = some e) :
    viewed view e.last = (pressAll handle (keysOf (arrivals.take e.waits)) (viewed view a)).1 := by
  rcases ending?_cases he with ⟨-, rfl⟩ | ⟨-, -, hwaits, hlast⟩
  · exact viewed_showEach h _ a
  · rw [hlast, hwaits, List.take_add_one, keysOf_append, pressAll_append, viewed_pressAll h, stateAt,
      viewed_showEach h]

/-- A read has taken the keys that came while it waited, and no other. -/
theorem viewed_read (resized : Bool) (arrivals : List Arrival) (a : At σ) :
    let r := read resized arrivals a
    viewed view (r.editor, r.client)
      = (pressAll handle (keysOf (arrivals.take r.waits)) (viewed view a)).1 := by
  intro r
  obtain ⟨i, -, -, e, he, hr⟩ := endsFirst_read resized arrivals a
  change r = _ at hr
  rw [hr, Ending.reading, Nat.zero_add, ← viewed_shown h a]
  exact viewed_last h he

end Views

/-- **A read consumes the keys it acts on, and no other.**  Whatever the editor and its client, whatever
arrives and whether or not a change of size was noted before, the read comes to an end, which is the first
that there is: a change of size that is noted before a wait, a key with an outcome, or the end of the
arrivals.  It has waited as often as it takes to come there, and what it has not waited for is left.  But
for what is on the screen, the editor and its client are as the keys that arrived make them, one after
another.  When the read ends by a change of size, no note of one is left, and every key that arrived was
taken and shown; when it ends otherwise, the note is as the last wait left it. -/
theorem read_ends_at_first (resized : Bool) (arrivals : List Arrival) (a : At σ) :
    let r := read resized arrivals a
    (∃ i ≤ arrivals.length, (∀ j < i, ending? resized arrivals (shown a) j = none) ∧
        ending? resized arrivals (shown a) i = some ⟨r.outcome, (r.editor, r.client), r.waits⟩) ∧
      r.rest = arrivals.drop r.waits ∧
      (∀ (τ : Type) [Client τ] (view : σ → τ), Client.OffScreen view →
        (r.editor, view r.client)
          = (pressAll handle (keysOf (arrivals.take r.waits)) (a.1, view a.2)).1) ∧
      (r.outcome = .cancelled .resize → r.resized = false ∧ notedAt resized arrivals r.waits = true ∧
        (r.editor, r.client) = stateAt arrivals (shown a) r.waits) ∧
      (r.outcome ≠ .cancelled .resize → r.resized = notedAt resized arrivals r.waits) ∧
      (resized = true → r.outcome = .cancelled .resize ∧ r.waits = 0) := by
  intro r
  have hviewed (τ : Type) [Client τ] (view : σ → τ) (h : Client.OffScreen view) :=
    viewed_read h resized arrivals a
  obtain ⟨i, hi, hbefore, e, he, hr⟩ := endsFirst_read resized arrivals a
  rw [Ending.reading, Nat.zero_add] at hr
  change r = _ at hr
  refine ⟨?_, ?_, hviewed, fun hresize => ?_, fun hother => ?_, fun hnoted => ?_⟩
  · rw [hr]
    exact ⟨i, hi, hbefore, he⟩
  · rw [hr]
  · rw [hr] at hresize ⊢
    rcases ending?_cases he with ⟨hnoted, rfl⟩ | ⟨hne, -⟩
    · exact ⟨rfl, hnoted, rfl⟩
    · exact absurd hresize hne
  · rw [hr] at hother ⊢
    rcases ending?_cases he with ⟨-, rfl⟩ | ⟨-, hlast, hwaits, -⟩
    · exact absurd rfl hother
    · dsimp only
      rw [hwaits, notedAt, beq_eq_false_iff_ne.2 hlast]
  · subst hnoted
    have hnow : r = _ := resume_noted 0 arrivals (shown a)
    rw [hnow]
    exact ⟨rfl, rfl⟩

/-- A change of size that is noted while the read waits leaves the key behind it for the next read. -/
example :
    let r := read false [.key (.char 'a'), .pause, .resized, .key .enter]
      (new "> " 20 false, (⟨"> ", []⟩ : Fixed))
    r.outcome = .cancelled .resize ∧ r.waits = 3 ∧ r.rest = [.key .enter] ∧ r.editor.draft.text = "a" := by
  decide +kernel

end LineEditor
end ChatConsole
