/-
# The display has no say in the text

A line editor in a client, key after key, does what the plain editor does: the same text, the same
cursor, the same outcomes, and the same calls for a bell or a message (`editor_follows_plain`).  As the
plain editor has no prompt, no columns and no panels, two line editors that differ only in these agree
in all that is not display.  Clients are compared by a relation that says which of their states give
the same answers.
-/

import ChatConsole.Proofs.LineEditor.Plain

namespace ChatConsole

open Markup (Mark)

/-! ### Clients that give the same answers -/

namespace Client

variable {σ τ : Type} [Client σ] [Client τ]

/-- Related states give the same answers, now and after whatever they are asked or told.  The prompts of
their windows and the rows they are shown may differ. -/
structure Alike (R : σ → τ → Prop) : Prop where
  beep {s : σ} {t : τ} : R s t → R (Client.beep s) (Client.beep t)
  switchWindow {s : σ} {t : τ} (forward : Bool) :
    R s t → R (Client.switchWindow forward s).2 (Client.switchWindow forward t).2
  scroll {s : σ} {t : τ} (request : ScrollRequest) :
    R s t → (Client.scroll request s).1 = (Client.scroll request t).1 ∧
      R (Client.scroll request s).2 (Client.scroll request t).2
  inChannel {s : σ} {t : τ} : R s t → Client.inChannel s = Client.inChannel t
  candidates {s : σ} {t : τ} (kind : Completion.Kind) (start : String) :
    R s t → (Client.candidates kind start s).1 = (Client.candidates kind start t).1 ∧
      R (Client.candidates kind start s).2 (Client.candidates kind start t).2
  report {s : σ} {t : τ} (message : String) :
    R s t → R (Client.report message s) (Client.report message t)
  display {s : σ} {t : τ} (g h : Grid) : R s t → R (Client.display g s) (Client.display h t)

/-- A call that the user hears or reads. -/
inductive Call where
  | beep
  | report (message : String)
  deriving DecidableEq

/-- A client with the calls made so far. -/
structure Recorded (σ : Type) where
  client : σ
  calls : List Call := []

instance : Client (Recorded σ) where
  beep r := ⟨Client.beep r.client, r.calls ++ [.beep]⟩
  switchWindow forward r :=
    ((Client.switchWindow forward r.client).1, ⟨(Client.switchWindow forward r.client).2, r.calls⟩)
  scroll request r :=
    ((Client.scroll request r.client).1, ⟨(Client.scroll request r.client).2, r.calls⟩)
  inChannel r := Client.inChannel r.client
  candidates kind start r :=
    ((Client.candidates kind start r.client).1, ⟨(Client.candidates kind start r.client).2, r.calls⟩)
  report message r := ⟨Client.report message r.client, r.calls ++ [.report message]⟩
  display g r := ⟨Client.display g r.client, r.calls⟩

/-- Related states after the same calls. -/
def SameCalls (R : σ → τ → Prop) (r : Recorded σ) (q : Recorded τ) : Prop :=
  R r.client q.client ∧ r.calls = q.calls

/-- Clients that give the same answers do so when their calls are recorded. -/
theorem Alike.recorded {R : σ → τ → Prop} (h : Alike R) : Alike (SameCalls R) where
  beep hr := ⟨h.beep hr.1, congrArg (· ++ [.beep]) hr.2⟩
  switchWindow forward hr := ⟨h.switchWindow forward hr.1, hr.2⟩
  scroll request hr := ⟨(h.scroll request hr.1).1, (h.scroll request hr.1).2, hr.2⟩
  inChannel hr := h.inChannel hr.1
  candidates kind start hr :=
    ⟨(h.candidates kind start hr.1).1, (h.candidates kind start hr.1).2, hr.2⟩
  report message hr := ⟨h.report message hr.1, congrArg (· ++ [.report message]) hr.2⟩
  display g k hr := ⟨h.display g k hr.1, hr.2⟩

/-- States that are related to one and the same state are alike. -/
theorem Alike.common {R : σ → τ → Prop} (hR : Alike R) :
    Alike fun t t' : τ => ∃ s, R s t ∧ R s t' where
  beep := by
    rintro t t' ⟨s, ht, ht'⟩
    exact ⟨_, hR.beep ht, hR.beep ht'⟩
  switchWindow := by
    rintro t t' forward ⟨s, ht, ht'⟩
    exact ⟨_, hR.switchWindow forward ht, hR.switchWindow forward ht'⟩
  scroll := by
    rintro t t' request ⟨s, ht, ht'⟩
    obtain ⟨hmoved, hstate⟩ := hR.scroll request ht
    obtain ⟨hmoved', hstate'⟩ := hR.scroll request ht'
    exact ⟨hmoved.symm.trans hmoved', _, hstate, hstate'⟩
  inChannel := by
    rintro t t' ⟨s, ht, ht'⟩
    exact (hR.inChannel ht).symm.trans (hR.inChannel ht')
  candidates := by
    rintro t t' kind start ⟨s, ht, ht'⟩
    obtain ⟨hfound, hstate⟩ := hR.candidates kind start ht
    obtain ⟨hfound', hstate'⟩ := hR.candidates kind start ht'
    exact ⟨hfound.symm.trans hfound', _, hstate, hstate'⟩
  report := by
    rintro t t' message ⟨s, ht, ht'⟩
    exact ⟨_, hR.report message ht, hR.report message ht'⟩
  display := by
    rintro t t' g h ⟨s, ht, ht'⟩
    exact ⟨_, hR.display g g ht, hR.display g h ht'⟩

end Client

open Client (Recorded Call)

/-- Asking for a completion gives related clients the same line. -/
theorem Completion.press_alike {σ τ : Type} [Client σ] [Client τ] {R : σ → τ → Prop}
    (hR : Client.Alike R) {s : σ} {t : τ} (hst : R s t) (round : Option Round) (line : List Char) :
    let a := press Client.candidates round line (Client.inChannel s) s
    let b := press Client.candidates round line (Client.inChannel t) t
    a.1 = b.1 ∧ a.2.1 = b.2.1 ∧ R a.2.2 b.2.2 := by
  intro a b
  simp only [a, b, press, hR.inChannel hst]
  cases round with
  | some round =>
    dsimp only
    cases round.next? <;> exact ⟨rfl, rfl, hst⟩
  | none =>
    cases Kind.classify line (Client.inChannel t) with
    | error why => exact ⟨rfl, rfl, hst⟩
    | ok kind =>
      obtain ⟨hfound, hstate⟩ := hR.candidates kind (kind.wanted line) hst
      dsimp only
      rw [hfound]
      cases Round.next? ⟨kind, (Client.candidates kind (kind.wanted line) t).1⟩ <;>
        exact ⟨rfl, rfl, hstate⟩

namespace LineEditor

/-! ### One key -/

section Along

variable {σ τ : Type} [Client σ] [Client τ] {R : σ → τ → Prop}

/-- The editor follows the plain one, in clients that give the same answers. -/
def Along (R : σ → τ → Prop) (a : At σ) (b : Plain × τ) : Prop :=
  Follows a.1.content b.1 ∧ R a.2 b.2

variable {e : LineEditor} {p : Plain} {s : σ} {t : τ} {a : At σ} {b : Plain × τ}

theorem ring_along (hR : Client.Alike R) (h : Follows e.content p) (hst : R s t) :
    R (e.ring s) (p.ring t) := by
  have hquiet : e.quiet = p.quiet := h.quiet
  unfold ring Plain.ring
  rw [hquiet]
  split
  · exact hst
  · exact hR.beep hst

theorem attempt_along (hR : Client.Alike R) (hab : Along R a b)
    {change? : LineEditor → Option LineEditor} {plain? : Plain → Option Plain}
    (h : Alike (change? a.1) (plain? b.1)) :
    Along R (attempt change? a) (Plain.attempt plain? b) := by
  obtain ⟨e, s⟩ := a
  obtain ⟨p, t⟩ := b
  dsimp only at h
  unfold attempt Plain.attempt
  dsimp only
  generalize change? e = change at h
  generalize plain? p = plain at h
  cases h with
  | some h => exact ⟨h, hab.2⟩
  | none => exact ⟨hab.1, ring_along hR hab.1 hab.2⟩

theorem fail_along (hR : Client.Alike R) (hab : Along R a b) (why : Completion.Failure) :
    Along R (fail why a) (Plain.fail why b) :=
  ⟨hab.1, ring_along hR hab.1 (hR.report _ hab.2)⟩

theorem scroll_along (hR : Client.Alike R) (hab : Along R a b) (request : ScrollRequest) :
    Along R (scroll request a) (Plain.scroll request b) := by
  obtain ⟨e, s⟩ := a
  obtain ⟨p, t⟩ := b
  obtain ⟨hmoved, hstate⟩ := hR.scroll request hab.2
  unfold scroll Plain.scroll
  dsimp only at hmoved hstate ⊢
  rw [hmoved]
  refine ⟨hab.1, ?_⟩
  dsimp only
  split
  · exact hstate
  · exact ring_along hR hab.1 hstate

theorem switchWindow_along (hR : Client.Alike R) (hab : Along R a b) (forward : Bool) :
    Along R (switchWindow forward a) (Plain.switchWindow forward b) := by
  obtain ⟨e, s⟩ := a
  obtain ⟨p, t⟩ := b
  have hstate := hR.switchWindow forward hab.2
  unfold switchWindow Plain.switchWindow
  dsimp only at hstate ⊢
  split
  · rename_i prompt s' hs
    rw [hs] at hstate
    refine ⟨?_, hstate⟩
    rw [content_setPrompt]
    exact hab.1
  · rename_i s' hs
    rw [hs] at hstate
    exact ⟨hab.1, hstate⟩

/-- The longest text takes no character. -/
theorem Plain.attempt_insert_full (hfull : p.text.length ≥ Plain.limit) (c : Char) (t : τ) :
    Plain.attempt (·.insert? c) (p, t) = (p, p.ring t) := by
  simp only [Plain.attempt, Plain.insert?, if_pos hfull]

/-- Any other takes it, at the end as elsewhere. -/
theorem Plain.attempt_insert_end (hroom : ¬p.text.length ≥ Plain.limit)
    (hend : p.cursor = p.text.length) (c : Char) (t : τ) :
    Plain.attempt (·.insert? c) (p, t)
      = ({ p with text := p.text ++ [c], cursor := p.cursor + 1 }, t) := by
  simp only [Plain.attempt, Plain.insert?, if_neg hroom, hend, List.insertIdx_length_self]

/-- Typing a text at the end of a line appends it, up to the longest length, and rings for each
character beyond. -/
theorem type_along (hR : Client.Alike R) (cs : List Char) (hab : Along R a b)
    (hend : b.1.cursor = b.1.text.length) :
    Along R (type cs a)
      (b.1.replace (b.1.text ++ cs), b.1.ring^[(b.1.text ++ cs).length - Plain.limit] b.2) := by
  induction cs generalizing a b with
  | nil =>
    have hroom : b.1.text.length ≤ Plain.limit := by
      have hsize := hab.1.size_eq
      have hlimit := hab.1.room
      simp only [capacity, Plain.limit] at hlimit ⊢
      omega
    have hsame : b.1.replace b.1.text = b.1 := by
      simp only [Plain.replace, List.take_of_length_le hroom, ← hend]
    rw [List.append_nil, hsame, Nat.sub_eq_zero_of_le hroom]
    exact hab
  | cons c cs ih =>
    obtain ⟨e, s⟩ := a
    obtain ⟨p, t⟩ := b
    dsimp only at hend ⊢
    have hfirst : Along R (insert c (e, s)) (Plain.attempt (·.insert? c) (p, t)) :=
      attempt_along hR hab (insert?_alike hab.1 c)
    have htype : type (c :: cs) (e, s) = type cs (insert c (e, s)) := rfl
    rw [htype]
    by_cases hfull : p.text.length ≥ Plain.limit
    · rw [Plain.attempt_insert_full hfull] at hfirst
      have hrest := ih hfirst hend
      have hcut (ds : List Char) : p.replace (p.text ++ ds) = p.replace p.text := by
        simp only [Plain.replace, List.take_append_of_le_length hfull]
      have hrings : (p.text ++ c :: cs).length - Plain.limit
          = (p.text ++ cs).length - Plain.limit + 1 := by
        simp only [List.length_append, List.length_cons]
        omega
      rw [hcut, hrings, Function.iterate_succ_apply, ← hcut cs]
      exact hrest
    · rw [Plain.attempt_insert_end hfull hend] at hfirst
      have hrest := ih hfirst (by simp [hend])
      have hjoin : p.text ++ [c] ++ cs = p.text ++ c :: cs := by simp
      dsimp only at hrest
      rw [hjoin] at hrest
      exact hrest

/-- Completion asks for a text with the cursor at its end and no mark in it. -/
theorem tab_refused_iff (h : Follows e.content p) :
    (e.draft.size = 0 || e.draft.isInside || e.draft.chars.any (Mark.ofChar? · |>.isSome)) = true ↔
      p.text = [] ∨ p.cursor ≠ p.text.length ∨ p.text.any (Mark.ofChar? · |>.isSome) := by
  have hchars : e.draft.chars = p.text := h.chars
  have hsize : e.draft.size = 0 ↔ p.text = [] := by
    rw [Draft.size_eq_length_chars, hchars, List.length_eq_zero_iff]
  have hinside : e.draft.isInside = true ↔ p.cursor ≠ p.text.length := by
    have hend := after_eq_nil_iff h
    have hle : e.draft.position ≤ e.draft.size := e.draft.position_le_size
    rw [show e.draft.position = p.cursor from h.position,
      show e.draft.size = p.text.length from h.size_eq] at hle
    simp only [Draft.isInside, Bool.not_eq_true', List.isEmpty_eq_false_iff, ne_eq, hend]
    omega
  simp only [Bool.or_eq_true, decide_eq_true_eq, hsize, hinside, hchars, or_assoc]

theorem tab_along (hR : Client.Alike R) (hab : Along R a b) : Along R (tab a) (Plain.tab b) := by
  obtain ⟨e, s⟩ := a
  obtain ⟨p, t⟩ := b
  obtain ⟨hfollows, hst⟩ := hab
  dsimp only at hfollows hst
  have hchars : e.draft.chars = p.text := hfollows.chars
  have hround : e.round = p.round := hfollows.round
  have hrefused := tab_refused_iff hfollows
  rw [tab, Plain.tab]
  by_cases hno : p.text = [] ∨ p.cursor ≠ p.text.length ∨ p.text.any (Mark.ofChar? · |>.isSome)
  · rw [if_pos hno, if_pos (hrefused.2 hno)]
    exact fail_along hR (a := (_, s)) (b := (_, t)) ⟨hfollows.withRound none, hst⟩ _
  · rw [if_neg hno, if_neg (fun h => hno (hrefused.1 h)), hchars, hround]
    obtain ⟨hresult, hnext, hstate⟩ := Completion.press_alike hR hst p.round p.text
    generalize Completion.press Client.candidates p.round p.text (Client.inChannel s) s = x at *
    generalize Completion.press Client.candidates p.round p.text (Client.inChannel t) t = y at *
    obtain ⟨result, round, s'⟩ := x
    obtain ⟨result', round', t'⟩ := y
    dsimp only at hresult hnext hstate
    subst hresult hnext
    cases result with
    | error why =>
      exact fail_along hR (a := (_, s')) (b := (_, t')) ⟨hfollows.withRound round, hstate⟩ why
    | ok line =>
      have hcleared : Along R ({ e with round }.clear, s')
          ({ p with round, text := [], cursor := 0 }, t') :=
        ⟨(hfollows.withRound round).clear, hstate⟩
      exact type_along hR line.toList hcleared rfl

/-- The letters whose control key does something. -/
def controlLetters : List Char :=
  ['p', 'n', 'b', 'f', 'd', 'a', 'e']

theorem apply_control_other {c : Char} (hc : c ∉ controlLetters) (a : At σ) :
    apply (.control c) a = a := by
  simp only [controlLetters, List.mem_cons, List.not_mem_nil, or_false, not_or] at hc
  unfold apply
  split <;> simp_all

theorem Plain.apply_control_other {c : Char} (hc : c ∉ controlLetters) (b : Plain × τ) :
    Plain.apply (.control c) b = b := by
  simp only [controlLetters, List.mem_cons, List.not_mem_nil, or_false, not_or] at hc
  unfold Plain.apply
  split <;> simp_all

theorem apply_control_along (hR : Client.Alike R) (hab : Along R a b) (c : Char) :
    Along R (apply (.control c) a) (Plain.apply (.control c) b) := by
  by_cases hc : c ∈ controlLetters
  · simp only [controlLetters, List.mem_cons, List.not_mem_nil, or_false] at hc
    rcases hc with rfl | rfl | rfl | rfl | rfl | rfl | rfl
    · exact switchWindow_along hR hab false
    · exact switchWindow_along hR hab true
    · exact attempt_along hR hab (left?_alike hab.1)
    · exact attempt_along hR hab (right?_alike hab.1)
    · exact attempt_along hR hab (delete?_alike hab.1)
    · exact ⟨home_follows hab.1, hab.2⟩
    · exact ⟨toEnd_follows hab.1, hab.2⟩
  · rw [apply_control_other hc, Plain.apply_control_other hc]
    exact hab

/-- A key that does not end the read is taken alike. -/
theorem apply_along (hR : Client.Alike R) (hab : Along R a b) (key : Key) :
    Along R (apply key a) (Plain.apply key b) := by
  cases key with
  | control c => exact apply_control_along hR hab c
  | left => exact attempt_along hR hab (left?_alike hab.1)
  | right => exact attempt_along hR hab (right?_alike hab.1)
  | backspace => exact attempt_along hR hab (backspace?_alike hab.1)
  | delete => exact attempt_along hR hab (delete?_alike hab.1)
  | home => exact ⟨home_follows hab.1, hab.2⟩
  | lineEnd => exact ⟨toEnd_follows hab.1, hab.2⟩
  | function n =>
    simp only [apply, Plain.apply]
    cases markOf? n with
    | none => exact hab
    | some m => exact attempt_along hR hab (insert?_alike hab.1 m.char)
  | pageUp => exact scroll_along hR hab .pageUp
  | pageDown => exact scroll_along hR hab .pageDown
  | altUp => exact scroll_along hR hab .panelUp
  | altDown => exact scroll_along hR hab .panelDown
  | tab => exact tab_along hR hab
  | char c =>
    simp only [apply, Plain.apply]
    split
    · exact hab
    · exact attempt_along hR hab (insert?_alike hab.1 c)
  | enter | escape | bell | up | down | unknown => exact hab

/-- A key is taken alike, with the same outcome. -/
theorem handle_along (hR : Client.Alike R) (hab : Along R a b) (key : Key) :
    Along R (handle key a).1 (Plain.handle key b).1 ∧ (handle key a).2 = (Plain.handle key b).2 := by
  obtain ⟨e, s⟩ := a
  obtain ⟨p, t⟩ := b
  obtain ⟨hfollows, hst⟩ := hab
  have hround : Follows (if key = .tab then e else { e with round := none }).content
      (if key = .tab then p else { p with round := none }) := by
    split
    · exact hfollows
    · exact hfollows.withRound none
  unfold handle Plain.handle
  dsimp only
  generalize (if key = .tab then e else { e with round := none }) = e' at hround ⊢
  generalize (if key = .tab then p else { p with round := none }) = p' at hround ⊢
  have happly : Along R (apply key (e', s)) (Plain.apply key (p', t)) :=
    apply_along hR (a := (e', s)) (b := (p', t)) ⟨hround, hst⟩ key
  cases key with
  | up | down | bell => exact ⟨⟨hround, hst⟩, rfl⟩
  | enter =>
    obtain ⟨hline, houtcome⟩ := submit_follows hround
    exact ⟨⟨hline, hR.display _ _ hst⟩, congrArg some houtcome⟩
  | char | backspace | tab | escape | left | right | altUp | altDown | home | lineEnd | delete | pageUp
  | pageDown | function | control | unknown => exact ⟨happly, rfl⟩

end Along

/-! ### Key after key -/

/-- Take keys one after another; the outcome of each is kept. -/
def pressAll {α : Type} (press : Key → α → α × Option Outcome) :
    List Key → α → α × List (Option Outcome)
  | [], a => (a, [])
  | key :: keys, a =>
    let pressed := press key a
    let rest := pressAll press keys pressed.1
    (rest.1, pressed.2 :: rest.2)

section Run

variable {σ τ : Type} [Client σ] [Client τ] {R : σ → τ → Prop}

theorem pressAll_along (hR : Client.Alike R) (keys : List Key) {a : At σ} {b : Plain × τ}
    (hab : Along R a b) :
    Along R (pressAll handle keys a).1 (pressAll Plain.handle keys b).1 ∧
      (pressAll handle keys a).2 = (pressAll Plain.handle keys b).2 := by
  induction keys generalizing a b with
  | nil => exact ⟨hab, rfl⟩
  | cons key keys ih =>
    obtain ⟨hkey, houtcome⟩ := handle_along hR hab key
    obtain ⟨hrest, houtcomes⟩ := ih hkey
    refine ⟨hrest, ?_⟩
    simp only [pressAll, houtcome, houtcomes]

/-- **The line editor is a plain text with a cursor, whatever is on the screen.**  Two editors whose
clients give the same answers may have any prompts and columns: after any keys they have the same text,
cursor and counters, the keys had the same outcomes, and the same bells and messages were asked for.
All this is so for the plain editor too.  The text stays below the capacity of the draft, the offset
counts the columns left of the cursor, and no step to the left, nor any of those that go home, takes
more from the offset than there is. -/
theorem editor_follows_plain (hR : Client.Alike R) {s : σ} {t : τ} (hst : R s t)
    (prompt prompt' : String) (cols cols' : Nat) (quiet : Bool) (keys : List Key) :
    let a := pressAll handle keys (new prompt cols quiet, ({ client := s } : Recorded σ))
    let b := pressAll handle keys (new prompt' cols' quiet, ({ client := t } : Recorded τ))
    let p := pressAll Plain.handle keys ({ quiet }, ({ client := t } : Recorded τ))
    (a.1.1.draft = b.1.1.draft ∧ a.1.1.offset = b.1.1.offset ∧ a.2 = b.2 ∧
        a.1.2.calls = b.1.2.calls) ∧
      (a.1.1.draft.chars = p.1.1.text ∧ a.1.1.draft.position = p.1.1.cursor ∧ a.2 = p.2 ∧
        a.1.2.calls = p.1.2.calls) ∧
      (a.1.1.draft.position ≤ a.1.1.draft.size ∧ a.1.1.draft.size < 2700 ∧
        a.1.1.offset = columnsOf (a.1.1.draft.chars.take a.1.1.draft.position)) ∧
      ∀ n c before, (repeatStep left? n a.1.1).draft.before = c :: before →
        columns c ≤ (repeatStep left? n a.1.1).offset := by
  intro a b p
  obtain ⟨⟨hap, -, hcalls⟩, houtcomes⟩ : Along (Client.SameCalls R) a.1 p.1 ∧ a.2 = p.2 := by
    refine pressAll_along hR.recorded keys ⟨?_, hst, rfl⟩
    rw [content_new]
    exact Follows.start quiet
  obtain ⟨⟨hbp, -, hcalls'⟩, houtcomes'⟩ :
      Along (Client.SameCalls fun t t' : τ => ∃ s, R s t ∧ R s t') b.1 p.1 ∧ b.2 = p.2 := by
    refine pressAll_along hR.common.recorded keys ⟨?_, ⟨s, hst, hst⟩, rfl⟩
    rw [content_new]
    exact Follows.start quiet
  have hdraft : a.1.1.draft = b.1.1.draft := hap.draft_eq hbp
  have hbefore : a.1.1.draft.chars.take a.1.1.draft.position = a.1.1.draft.before.reverse := by
    rw [Draft.chars, Draft.position, ← List.length_reverse, List.take_left]
  refine ⟨⟨hdraft, ?_, houtcomes.trans houtcomes'.symm, hcalls.trans hcalls'.symm⟩,
    ⟨hap.chars, hap.position, houtcomes, hcalls⟩,
    ⟨a.1.1.draft.position_le_size, hap.room, ?_⟩, ?_⟩
  · rw [show a.1.1.offset = _ from hap.offset, show b.1.1.offset = _ from hbp.offset]
    simp only [content_draft, hdraft]
  · rw [hbefore]
    exact hap.offset
  · intro n c before h
    exact (repeatLeft_follows hap n).columns_le h

end Run

/-- A client whose answers stay the same. -/
structure Fixed where
  /-- The prompt of every window. -/
  prompt : String
  found : List String

instance : Client Fixed where
  beep := id
  switchWindow _ s := (some s.prompt, s)
  scroll _ s := (false, s)
  inChannel _ := false
  candidates _ _ s := (s.found, s)
  report _ := id
  display _ := id

theorem fixed_alike : Client.Alike fun s t : Fixed => s.found = t.found where
  beep h := h
  switchWindow _ h := h
  scroll _ h := ⟨rfl, h⟩
  inChannel _ := rfl
  candidates _ _ h := ⟨h, h⟩
  report _ h := h
  display _ _ h := h

/-- Two editors of three and of eighty columns, after a completion, a change of the window, an edit
inside the line and a refusal. -/
theorem editor_follows_plain_completed :
    let keys := [.char '/', .char 'h', .tab, .control 'n', .left, .backspace, .pageUp, .home, .left]
    let a := pressAll handle keys
      (new "> " 3 false, ({ client := ⟨"(status)> ", ["help"]⟩ } : Recorded Fixed))
    let b := pressAll handle keys
      (new "#lean: " 80 false, ({ client := ⟨"#verification: ", ["help"]⟩ } : Recorded Fixed))
    (fun s t : Fixed => s.found = t.found) ⟨"(status)> ", ["help"]⟩ ⟨"#verification: ", ["help"]⟩ ∧
      a.1.1.draft = b.1.1.draft ∧ a.1.1.draft.chars = "/hep".toList ∧
      a.1.2.calls = b.1.2.calls ∧ a.1.2.calls = [.beep, .beep] := by
  intro keys a b
  have hfound : (fun s t : Fixed => s.found = t.found)
      ⟨"(status)> ", ["help"]⟩ ⟨"#verification: ", ["help"]⟩ := rfl
  obtain ⟨⟨hdraft, -, -, hcalls⟩, -⟩ :=
    editor_follows_plain fixed_alike hfound "> " "#lean: " 3 80 false keys
  have hchars : a.1.1.draft.chars = "/hep".toList := by decide +kernel
  have hbeeps : a.1.2.calls = [.beep, .beep] := by decide +kernel
  exact ⟨hfound, hdraft, hchars, hcalls, hbeeps⟩

end LineEditor
end ChatConsole
