/-
# A plain text with a cursor

`Plain` is the editor without a display: a list of characters, and the number of characters left of the
cursor.  Its edits are those of lists.  The content of a line editor follows a plain one
(`Follows`) through every edit, with the offset being the columns of the text left of the cursor.
-/

import ChatConsole.Proofs.LineEditor.Content
import Mathlib.Logic.Function.Iterate

namespace ChatConsole
namespace LineEditor

open Markup (Mark)

/-- A text with a cursor. -/
structure Plain where
  text : List Char := []
  /-- Number of characters left of the cursor. -/
  cursor : Nat := 0
  round : Option Completion.Round := none
  quiet : Bool

/-! ### The plain editor -/

namespace Plain

/-- The longest text. -/
def limit : Nat := 2699

/-- Insert a character at the cursor.  Refused when the text has its longest length. -/
def insert? (p : Plain) (c : Char) : Option Plain :=
  if p.text.length ≥ limit then none
  else some { p with text := p.text.insertIdx p.cursor c, cursor := p.cursor + 1 }

/-- Step left.  Refused at the start. -/
def left? (p : Plain) : Option Plain :=
  if p.cursor = 0 then none else some { p with cursor := p.cursor - 1 }

/-- Step right.  Refused at the end. -/
def right? (p : Plain) : Option Plain :=
  if p.cursor ≥ p.text.length then none else some { p with cursor := p.cursor + 1 }

/-- Remove the character left of the cursor.  Refused at the start. -/
def backspace? (p : Plain) : Option Plain :=
  if p.cursor = 0 then none
  else some { p with text := p.text.eraseIdx (p.cursor - 1), cursor := p.cursor - 1 }

/-- Remove the character at the cursor.  Refused at the end. -/
def delete? (p : Plain) : Option Plain :=
  if p.cursor ≥ p.text.length then none else some { p with text := p.text.eraseIdx p.cursor }

def home (p : Plain) : Plain :=
  { p with cursor := 0 }

def toEnd (p : Plain) : Plain :=
  { p with cursor := p.text.length }

/-- Put another text in the place of this one, cut at the longest length. -/
def replace (p : Plain) (cs : List Char) : Plain :=
  { p with text := cs.take limit, cursor := (cs.take limit).length }

/-- End the line. -/
def submit (p : Plain) : Plain × Outcome :=
  if p.text = [] then (p, .empty)
  else ({ p with text := [], cursor := 0 }, .submitted (String.ofList p.text))

/-- Make a change some times, or until it is refused. -/
def repeatStep (step? : Plain → Option Plain) : Nat → Plain → Plain
  | 0, p => p
  | n + 1, p =>
    match step? p with
    | some p => repeatStep step? n p
    | none => p

/-- Steps to the left stop at the start. -/
theorem repeat_left? (n : Nat) (p : Plain) :
    repeatStep left? n p = { p with cursor := p.cursor - n } := by
  induction n generalizing p with
  | zero => rfl
  | succ n ih =>
    rw [repeatStep, left?]
    by_cases hstart : p.cursor = 0
    · have hsame : p.cursor - (n + 1) = p.cursor := by omega
      rw [if_pos hstart, hsame]
    · have hmore : p.cursor - 1 - n = p.cursor - (n + 1) := by omega
      rw [if_neg hstart]
      dsimp only
      rw [ih]
      dsimp only
      rw [hmore]

/-- Steps to the right stop at the end. -/
theorem repeat_right? (n : Nat) (p : Plain) :
    repeatStep right? n p = { p with cursor := min (p.cursor + n) (max p.cursor p.text.length) } := by
  induction n generalizing p with
  | zero =>
    have hsame : min (p.cursor + 0) (max p.cursor p.text.length) = p.cursor := by omega
    rw [hsame]
    rfl
  | succ n ih =>
    rw [repeatStep, right?]
    by_cases hend : p.cursor ≥ p.text.length
    · have hsame : min (p.cursor + (n + 1)) (max p.cursor p.text.length) = p.cursor := by omega
      rw [if_pos hend, hsame]
    · have hmore : min (p.cursor + 1 + n) (max (p.cursor + 1) p.text.length)
          = min (p.cursor + (n + 1)) (max p.cursor p.text.length) := by omega
      rw [if_neg hend]
      dsimp only
      rw [ih]
      dsimp only
      rw [hmore]

variable {σ : Type} [Client σ]

/-- Ring for a refusal, unless refusals are silent. -/
def ring (p : Plain) (s : σ) : σ :=
  if p.quiet then s else Client.beep s

/-- Make a change that may be refused, and ring if it is. -/
def attempt (change? : Plain → Option Plain) : Plain × σ → Plain × σ
  | (p, s) =>
    match change? p with
    | some p => (p, s)
    | none => (p, p.ring s)

/-- Report why nothing is completed, and ring. -/
def fail (why : Completion.Failure) : Plain × σ → Plain × σ
  | (p, s) => (p, p.ring (Client.report why.message s))

/-- Put the next candidate in the place of the text; each character that it has too many rings. -/
def tab : Plain × σ → Plain × σ
  | (p, s) =>
    if p.text = [] ∨ p.cursor ≠ p.text.length ∨ p.text.any (Mark.ofChar? · |>.isSome) then
      fail .noMagic ({ p with round := none }, s)
    else
      let (result, round, s) :=
        Completion.press Client.candidates p.round p.text (Client.inChannel s) s
      let p := { p with round }
      match result with
      | .ok line => (p.replace line.toList, p.ring^[line.toList.length - limit] s)
      | .error why => fail why (p, s)

def scroll (request : ScrollRequest) : Plain × σ → Plain × σ
  | (p, s) =>
    let (moved, s) := Client.scroll request s
    (p, if moved then s else p.ring s)

/-- Give the focus to another window, whose prompt does not matter. -/
def switchWindow (forward : Bool) : Plain × σ → Plain × σ
  | (p, s) => (p, (Client.switchWindow forward s).2)

/-- What a key that does not end the read does. -/
def apply (key : Key) (a : Plain × σ) : Plain × σ :=
  match key with
  | .control 'p' => switchWindow false a
  | .control 'n' => switchWindow true a
  | .left | .control 'b' => attempt left? a
  | .right | .control 'f' => attempt right? a
  | .backspace => attempt backspace? a
  | .delete | .control 'd' => attempt delete? a
  | .home | .control 'a' => (a.1.home, a.2)
  | .lineEnd | .control 'e' => (a.1.toEnd, a.2)
  | .function n =>
    match markOf? n with
    | some m => attempt (·.insert? m.char) a
    | none => a
  | .pageUp => scroll .pageUp a
  | .pageDown => scroll .pageDown a
  | .altUp => scroll .panelUp a
  | .altDown => scroll .panelDown a
  | .tab => tab a
  | .char c => if Text.isControl c then a else attempt (·.insert? c) a
  | _ => a

/-- Take a key.  Every key but the tab key ends a round of completion. -/
def handle (key : Key) : Plain × σ → (Plain × σ) × Option Outcome
  | (p, s) =>
    let p := if key = .tab then p else { p with round := none }
    match key with
    | .up => ((p, s), some (.cancelled .historyBack))
    | .down => ((p, s), some (.cancelled .historyForward))
    | .bell => ((p, s), some (.cancelled .bell))
    | .enter =>
      let (p, outcome) := p.submit
      -- There is no row to show.
      ((p, Client.display (.new 0 1 false) s), some outcome)
    | key => (apply key (p, s), none)

end Plain

/-! ### Following the plain editor -/

theorem insertIdx_length_append {α : Type} (a : α) :
    ∀ l r : List α, (l ++ r).insertIdx l.length a = l ++ a :: r
  | [], r => rfl
  | b :: l, r => by
      rw [List.cons_append, List.length_cons, List.insertIdx_succ_cons, insertIdx_length_append a l r]
      rfl

/-- The content of an editor is a plain text, with the columns left of the cursor counted. -/
structure Follows (x : Content) (p : Plain) : Prop where
  chars : x.draft.chars = p.text
  position : x.draft.position = p.cursor
  round : x.round = p.round
  quiet : x.quiet = p.quiet
  offset : x.offset = columnsOf x.draft.before.reverse
  room : x.draft.size < capacity

namespace Follows

variable {x : Content} {p : Plain} {c : Char}

theorem start (quiet : Bool) : Follows ⟨{}, 0, none, quiet⟩ { quiet } :=
  ⟨rfl, rfl, rfl, rfl, rfl, Nat.zero_lt_succ _⟩

theorem size_eq (h : Follows x p) : x.draft.size = p.text.length := by
  rw [Draft.size_eq_length_chars, h.chars]

/-- What follows the same text at the same cursor is split alike. -/
theorem draft_eq {y : Content} (hx : Follows x p) (hy : Follows y p) : x.draft = y.draft := by
  have hchars : x.draft.before.reverse ++ x.draft.after = y.draft.before.reverse ++ y.draft.after :=
    hx.chars.trans hy.chars.symm
  have hlength : x.draft.before.reverse.length = y.draft.before.reverse.length := by
    rw [List.length_reverse, List.length_reverse]
    exact hx.position.trans hy.position.symm
  obtain ⟨hbefore, hafter⟩ := List.append_inj hchars hlength
  rw [List.reverse_inj] at hbefore
  cases hd : x.draft
  cases hd' : y.draft
  simp_all

/-- A character that comes to the left of the cursor is counted. -/
theorem offset_add (h : Follows x p) (c : Char) :
    x.offset + columns c = columnsOf (c :: x.draft.before).reverse := by
  rw [List.reverse_cons, columnsOf_append, columnsOf_cons, columnsOf_nil, h.offset, Nat.add_zero]

/-- A character that leaves the left of the cursor is no longer counted. -/
theorem offset_sub (h : Follows x p) {before : List Char} (hbefore : x.draft.before = c :: before) :
    x.offset - columns c = columnsOf before.reverse := by
  rw [h.offset, hbefore, List.reverse_cons, columnsOf_append, columnsOf_cons, columnsOf_nil]
  omega

/-- The character left of the cursor is counted, so that the offset can do without it. -/
theorem columns_le (h : Follows x p) {before : List Char} (hbefore : x.draft.before = c :: before) :
    columns c ≤ x.offset := by
  rw [h.offset, hbefore, List.reverse_cons, columnsOf_append, columnsOf_cons]
  omega

theorem withRound (h : Follows x p) (round : Option Completion.Round) :
    Follows { x with round } { p with round } :=
  ⟨h.chars, h.position, rfl, h.quiet, h.offset, h.room⟩

theorem insert (h : Follows x p) (c : Char) (hroom : x.draft.size + 1 < capacity) :
    Follows { x with draft := x.draft.insert c, offset := x.offset + columns c }
      { p with text := p.text.insertIdx p.cursor c, cursor := p.cursor + 1 } where
  chars := by
    rw [← h.chars, ← h.position, Draft.chars_insert, Draft.chars, Draft.position,
      ← List.length_reverse, insertIdx_length_append]
  position := congrArg (· + 1) h.position
  round := h.round
  quiet := h.quiet
  offset := h.offset_add c
  room := by
    simp only [Draft.size, Draft.insert, List.length_cons] at hroom ⊢
    omega

theorem left (h : Follows x p) {before : List Char} (hbefore : x.draft.before = c :: before) :
    Follows { x with draft := ⟨before, c :: x.draft.after⟩, offset := x.offset - columns c }
      { p with cursor := p.cursor - 1 } where
  chars := (Draft.chars_stepLeft hbefore).trans h.chars
  position := by
    rw [← h.position, Draft.position, Draft.position, hbefore]
    rfl
  round := h.round
  quiet := h.quiet
  offset := h.offset_sub hbefore
  room := by
    have hroom := h.room
    simp only [Draft.size, hbefore, List.length_cons] at hroom ⊢
    omega

theorem right (h : Follows x p) {after : List Char} (hafter : x.draft.after = c :: after) :
    Follows { x with draft := ⟨c :: x.draft.before, after⟩, offset := x.offset + columns c }
      { p with cursor := p.cursor + 1 } where
  chars := (Draft.chars_stepRight hafter).trans h.chars
  position := congrArg (· + 1) h.position
  round := h.round
  quiet := h.quiet
  offset := h.offset_add c
  room := by
    have hroom := h.room
    simp only [Draft.size, hafter, List.length_cons] at hroom ⊢
    omega

theorem eraseLeft (h : Follows x p) {before : List Char} (hbefore : x.draft.before = c :: before) :
    Follows { x with draft := { x.draft with before }, offset := x.offset - columns c }
      { p with text := p.text.eraseIdx (p.cursor - 1), cursor := p.cursor - 1 } where
  chars := by
    have hlength : before.length = before.reverse.length := List.length_reverse.symm
    rw [← h.chars, ← h.position, Draft.chars, Draft.chars, Draft.position, hbefore,
      List.reverse_cons, List.length_cons, Nat.add_sub_cancel, hlength, List.append_assoc,
      List.eraseIdx_append_of_length_le (Nat.le_refl _), Nat.sub_self]
    rfl
  position := by
    rw [← h.position, Draft.position, Draft.position, hbefore]
    rfl
  round := h.round
  quiet := h.quiet
  offset := h.offset_sub hbefore
  room := by
    have hroom := h.room
    simp only [Draft.size, hbefore, List.length_cons] at hroom ⊢
    omega

theorem eraseRight (h : Follows x p) {after : List Char} (hafter : x.draft.after = c :: after) :
    Follows { x with draft := { x.draft with after } } { p with text := p.text.eraseIdx p.cursor } where
  chars := by
    rw [← h.chars, ← h.position, Draft.chars, Draft.chars, Draft.position, hafter,
      ← List.length_reverse, List.eraseIdx_append_of_length_le (Nat.le_refl _), Nat.sub_self]
    rfl
  position := h.position
  round := h.round
  quiet := h.quiet
  offset := h.offset
  room := by
    have hroom := h.room
    simp only [Draft.size, hafter, List.length_cons] at hroom ⊢
    omega

theorem clear (h : Follows x p) :
    Follows { x with draft := {}, offset := 0 } { p with text := [], cursor := 0 } :=
  ⟨rfl, rfl, h.round, h.quiet, rfl, Nat.zero_lt_succ _⟩

end Follows

/-! ### Each edit follows -/

/-- Both changes are refused, or both are made and the one follows the other. -/
abbrev Alike : Option LineEditor → Option Plain → Prop :=
  Option.Rel fun e p => Follows e.content p

variable {e : LineEditor} {p : Plain}

theorem alike_of_some {change : Option LineEditor} {x : Content} (h : change.map content = some x)
    (hx : Follows x p) : Alike change (some p) := by
  cases change with
  | none => cases h
  | some e =>
    have he : e.content = x := Option.some.inj h
    rw [← he] at hx
    exact .some hx

theorem alike_of_none {change : Option LineEditor} (h : change.map content = none) :
    Alike change none := by
  cases change with
  | none => exact .none
  | some e => cases h

theorem insert?_alike (h : Follows e.content p) (c : Char) : Alike (e.insert? c) (p.insert? c) := by
  have hsize : e.draft.size = p.text.length := h.size_eq
  have hchange := content_insert? e c
  by_cases hfull : e.draft.size + 1 ≥ capacity
  · rw [if_pos (by simp [isFull, hfull])] at hchange
    have hrefused : p.insert? c = none := by
      rw [Plain.insert?, if_pos]
      simp only [capacity, Plain.limit] at hfull ⊢
      omega
    rw [hrefused]
    exact alike_of_none hchange
  · rw [if_neg (by simp only [isFull, decide_eq_true_eq]; exact hfull)] at hchange
    have hmade : p.insert? c
        = some { p with text := p.text.insertIdx p.cursor c, cursor := p.cursor + 1 } := by
      rw [Plain.insert?, if_neg]
      simp only [capacity, Plain.limit] at hfull ⊢
      omega
    rw [hmade]
    exact alike_of_some hchange (h.insert c (Nat.lt_of_not_le hfull))

theorem left?_alike (h : Follows e.content p) : Alike e.left? p.left? := by
  have hcursor : e.draft.before.length = p.cursor := h.position
  have hchange := content_left? e
  cases hbefore : e.draft.before with
  | nil =>
    rw [hbefore, List.length_nil] at hcursor
    rw [Plain.left?, if_pos hcursor.symm]
    refine alike_of_none ?_
    rw [hchange, Draft.left?, hbefore]
    rfl
  | cons c before =>
    rw [hbefore, List.length_cons] at hcursor
    rw [Plain.left?, if_neg (by omega)]
    refine alike_of_some (x := { e.content with
      draft := ⟨before, c :: e.draft.after⟩, offset := e.offset - columns c }) ?_ ?_
    · rw [hchange, Draft.left?, hbefore]
      rfl
    · exact h.left hbefore

theorem after_eq_nil_iff (h : Follows e.content p) :
    e.draft.after = [] ↔ p.text.length ≤ p.cursor := by
  have hcursor : e.draft.before.length = p.cursor := h.position
  have hsize : e.draft.before.length + e.draft.after.length = p.text.length := h.size_eq
  rw [← List.length_eq_zero_iff]
  omega

theorem right?_alike (h : Follows e.content p) : Alike e.right? p.right? := by
  have hend := after_eq_nil_iff h
  have hchange := content_right? e
  cases hafter : e.draft.after with
  | nil =>
    rw [Plain.right?, if_pos (hend.1 hafter)]
    refine alike_of_none ?_
    rw [hchange, Draft.right?, hafter]
    rfl
  | cons c after =>
    rw [hafter] at hend
    rw [Plain.right?, if_neg (fun hlast => List.cons_ne_nil _ _ (hend.2 hlast))]
    refine alike_of_some (x := { e.content with
      draft := ⟨c :: e.draft.before, after⟩, offset := e.offset + columns c }) ?_ ?_
    · rw [hchange, Draft.right?, hafter]
      rfl
    · exact h.right hafter

theorem backspace?_alike (h : Follows e.content p) : Alike e.backspace? p.backspace? := by
  have hcursor : e.draft.before.length = p.cursor := h.position
  have hchange := content_backspace? e
  cases hbefore : e.draft.before with
  | nil =>
    rw [hbefore, List.length_nil] at hcursor
    rw [Plain.backspace?, if_pos hcursor.symm]
    refine alike_of_none ?_
    rw [hchange, Draft.eraseLeft?, hbefore]
    rfl
  | cons c before =>
    rw [hbefore, List.length_cons] at hcursor
    rw [Plain.backspace?, if_neg (by omega)]
    refine alike_of_some (x := { e.content with
      draft := { e.draft with before }, offset := e.offset - columns c }) ?_ ?_
    · rw [hchange, Draft.eraseLeft?, hbefore]
      rfl
    · exact h.eraseLeft hbefore

theorem delete?_alike (h : Follows e.content p) : Alike e.delete? p.delete? := by
  have hend := after_eq_nil_iff h
  have hchange := content_delete? e
  cases hafter : e.draft.after with
  | nil =>
    rw [Plain.delete?, if_pos (hend.1 hafter)]
    refine alike_of_none ?_
    rw [hchange, Draft.eraseRight?, hafter]
    rfl
  | cons c after =>
    rw [hafter] at hend
    rw [Plain.delete?, if_neg (fun hlast => List.cons_ne_nil _ _ (hend.2 hlast))]
    refine alike_of_some (x := { e.content with draft := { e.draft with after } }) ?_ ?_
    · rw [hchange, Draft.eraseRight?, hafter]
      rfl
    · exact h.eraseRight hafter

/-! ### Steps repeated -/

/-- Changes that are refused alike are repeated alike. -/
theorem repeatStep_follows {step? : LineEditor → Option LineEditor} {plain? : Plain → Option Plain}
    (hstep : ∀ {e p}, Follows e.content p → Alike (step? e) (plain? p)) (n : Nat)
    (h : Follows e.content p) :
    Follows (repeatStep step? n e).content (Plain.repeatStep plain? n p) := by
  induction n generalizing e p with
  | zero => exact h
  | succ n ih =>
    have hnext : Alike (step? e) (plain? p) := hstep h
    rw [repeatStep, Plain.repeatStep]
    generalize step? e = change at hnext
    generalize plain? p = plain at hnext
    cases hnext with
    | some hnext => exact ih hnext
    | none => exact h

/-- Some steps to the left follow as many of the plain cursor. -/
theorem repeatLeft_follows (h : Follows e.content p) (n : Nat) :
    Follows (repeatStep left? n e).content { p with cursor := p.cursor - n } := by
  rw [← Plain.repeat_left?]
  exact repeatStep_follows left?_alike n h

theorem home_follows (h : Follows e.content p) : Follows e.home.content p.home := by
  have hposition : e.draft.position = p.cursor := h.position
  have hsteps := repeatLeft_follows h e.draft.position
  rw [hposition, Nat.sub_self, ← hposition] at hsteps
  exact hsteps

theorem toEnd_follows (h : Follows e.content p) : Follows e.toEnd.content p.toEnd := by
  have hcursor : e.draft.before.length = p.cursor := h.position
  have hsize : e.draft.before.length + e.draft.after.length = p.text.length := h.size_eq
  have hsteps := repeatStep_follows right?_alike e.draft.after.length h
  have hend : min (p.cursor + e.draft.after.length) (max p.cursor p.text.length) = p.text.length := by
    omega
  rw [Plain.repeat_right?, hend] at hsteps
  exact hsteps

theorem submit_follows (h : Follows e.content p) :
    Follows e.submit.1.content p.submit.1 ∧ e.submit.2 = p.submit.2 := by
  have hsize : e.draft.size = p.text.length := h.size_eq
  obtain ⟨hcontent, houtcome⟩ := content_submit e
  rw [hcontent, houtcome, Plain.submit]
  by_cases hempty : p.text = []
  · have hzero : e.draft.size = 0 := by rw [hsize, hempty, List.length_nil]
    rw [if_pos hempty, if_pos hzero, if_pos hzero]
    exact ⟨h, rfl⟩
  · have hsome : ¬e.draft.size = 0 := by rwa [hsize, List.length_eq_zero_iff]
    rw [if_neg hempty, if_neg hsome, if_neg hsome]
    refine ⟨h.clear, ?_⟩
    rw [Draft.text, ← h.chars]
    rfl

end LineEditor
end ChatConsole
