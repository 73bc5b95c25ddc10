/-
# What is not on the screen

A client is shown the row of the editor after each key.  What of the client has nothing to do with that is a
client of its own, `OffScreen`: it gives the same answers, and showing it a row leaves it as it is.  A key
does to it what it does to the whole client (`handle_viewed`).
-/

import ChatConsole.Proofs.LineEditor.Blind

namespace ChatConsole

namespace Client

variable {σ τ : Type} [Client σ] [Client τ]

/-- A view of a client without the screen: a client that gives the same answers and that no row changes. -/
structure OffScreen (view : σ → τ) : Prop where
  beep (s : σ) : Client.beep (view s) = view (Client.beep s)
  switchWindow (forward : Bool) (s : σ) :
    Client.switchWindow forward (view s) = (Client.switchWindow forward s).map id view
  scroll (request : ScrollRequest) (s : σ) :
    Client.scroll request (view s) = (Client.scroll request s).map id view
  inChannel (s : σ) : Client.inChannel (view s) = Client.inChannel s
  candidates (kind : Completion.Kind) (start : String) (s : σ) :
    Client.candidates kind start (view s) = (Client.candidates kind start s).map id view
  report (message : String) (s : σ) : Client.report message (view s) = view (Client.report message s)
  /-- A row changes nothing that is in view. -/
  unseen (row : Grid) (s : σ) : view (Client.display row s) = view s
  display (row : Grid) (s : σ) : Client.display row (view s) = view s

end Client

open Client (OffScreen)

variable {σ τ : Type} [Client σ] [Client τ] {view : σ → τ}

theorem Completion.press_viewed (h : OffScreen view) (round : Option Round) (line : List Char) (s : σ) :
    press Client.candidates round line (Client.inChannel (view s)) (view s)
      = (press Client.candidates round line (Client.inChannel s) s).map id (Prod.map id view) := by
  unfold press
  rw [h.inChannel]
  cases round with
  | some round => cases hnext : round.next? <;> simp [hnext]
  | none =>
    cases Kind.classify line (Client.inChannel s) with
    | error why => rfl
    | ok kind =>
      dsimp only
      rw [h.candidates]
      cases hnext : Round.next? ⟨kind, (Client.candidates kind (kind.wanted line) s).1⟩ <;> simp [hnext]

namespace LineEditor

/-- An editor at work in a view of its client. -/
def viewed (view : σ → τ) (a : At σ) : At τ :=
  (a.1, view a.2)

variable (h : OffScreen view)
include h

theorem ring_viewed (e : LineEditor) (s : σ) : e.ring (view s) = view (e.ring s) := by
  unfold ring
  split
  · rfl
  · exact h.beep s

theorem attempt_viewed (change? : LineEditor → Option LineEditor) (a : At σ) :
    attempt change? (viewed view a) = viewed view (attempt change? a) := by
  obtain ⟨e, s⟩ := a
  unfold attempt viewed
  dsimp only
  cases change? e with
  | some e' => rfl
  | none => exact congrArg (Prod.mk e) (ring_viewed h e s)

theorem type_viewed (cs : List Char) (a : At σ) :
    type cs (viewed view a) = viewed view (type cs a) := by
  induction cs generalizing a with
  | nil => rfl
  | cons c cs ih =>
    have hfirst : insert c (viewed view a) = viewed view (insert c a) := attempt_viewed h _ a
    have htype (b : At τ) : type (c :: cs) b = type cs (insert c b) := rfl
    rw [htype, hfirst, ih]
    rfl

theorem fail_viewed (why : Completion.Failure) (a : At σ) :
    fail why (viewed view a) = viewed view (fail why a) := by
  obtain ⟨e, s⟩ := a
  unfold fail viewed
  dsimp only
  rw [h.report, ring_viewed h]

theorem tab_viewed (a : At σ) : tab (viewed view a) = viewed view (tab a) := by
  obtain ⟨e, s⟩ := a
  unfold tab viewed
  dsimp only
  split
  · exact fail_viewed h _ (_, s)
  · rw [Completion.press_viewed h]
    generalize Completion.press Client.candidates e.round e.draft.chars (Client.inChannel s) s = x
    obtain ⟨result, round, s'⟩ := x
    cases result with
    | ok line => exact type_viewed h _ (_, s')
    | error why => exact fail_viewed h _ (_, s')

theorem scroll_viewed (request : ScrollRequest) (a : At σ) :
    scroll request (viewed view a) = viewed view (scroll request a) := by
  obtain ⟨e, s⟩ := a
  unfold scroll viewed
  dsimp only
  rw [h.scroll]
  dsimp only [Prod.map_fst, Prod.map_snd, id]
  split
  · rfl
  · rw [ring_viewed h]

theorem switchWindow_viewed (forward : Bool) (a : At σ) :
    switchWindow forward (viewed view a) = viewed view (switchWindow forward a) := by
  obtain ⟨e, s⟩ := a
  unfold switchWindow viewed
  dsimp only
  rw [h.switchWindow]
  generalize Client.switchWindow forward s = x
  obtain ⟨prompt, s'⟩ := x
  cases prompt <;> rfl

theorem apply_control_viewed (c : Char) (a : At σ) :
    apply (.control c) (viewed view a) = viewed view (apply (.control c) a) := by
  by_cases hc : c ∈ controlLetters
  · simp only [controlLetters, List.mem_cons, List.not_mem_nil, or_false] at hc
    rcases hc with rfl | rfl | rfl | rfl | rfl | rfl | rfl
    · exact switchWindow_viewed h false a
    · exact switchWindow_viewed h true a
    · exact attempt_viewed h left? a
    · exact attempt_viewed h right? a
    · exact attempt_viewed h delete? a
    · rfl
    · rfl
  · rw [apply_control_other hc, apply_control_other hc]

/-- A key that does not end the read does to a view what it does to the client. -/
theorem apply_viewed (key : Key) (a : At σ) : apply key (viewed view a) = viewed view (apply key a) := by
  cases key with
  | control c => exact apply_control_viewed h c a
  | left => exact attempt_viewed h left? a
  | right => exact attempt_viewed h right? a
  | backspace => exact attempt_viewed h backspace? a
  | delete => exact attempt_viewed h delete? a
  | function n =>
    simp only [apply]
    cases markOf? n with
    | none => rfl
    | some m => exact attempt_viewed h _ a
  | pageUp => exact scroll_viewed h .pageUp a
  | pageDown => exact scroll_viewed h .pageDown a
  | altUp => exact scroll_viewed h .panelUp a
  | altDown => exact scroll_viewed h .panelDown a
  | tab => exact tab_viewed h a
  | char c =>
    simp only [apply]
    split
    · rfl
    · exact attempt_viewed h _ a
  | home | lineEnd | enter | escape | bell | up | down | unknown => rfl

/-- A key does to a view what it does to the client, with the same outcome. -/
theorem handle_viewed (key : Key) (a : At σ) :
    handle key (viewed view a) = (handle key a).map (viewed view) id := by
  obtain ⟨e, s⟩ := a
  unfold handle viewed
  dsimp only
  generalize (if key = .tab then e else { e with round := none }) = e'
  have happly := apply_viewed h key (e', s)
  cases key with
  | up | down | bell => rfl
  | enter =>
    dsimp only
    rw [h.display]
    exact congrArg (fun t => ((e'.submit.1, t), some e'.submit.2)) (h.unseen _ s).symm
  | char | backspace | tab | escape | left | right | altUp | altDown | home | lineEnd | delete | pageUp
  | pageDown | function | control | unknown => exact congrArg (·, none) happly

end LineEditor
end ChatConsole
