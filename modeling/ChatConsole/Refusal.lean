/-
# Requests that may be refused

A request about windows is done, or it is refused for some reason.  Either way it leaves a state, and what
was done before the refusal stays done.
-/

import ChatConsole.Text.Quoted

namespace ChatConsole

/-- Why a request about windows is refused. -/
inductive Refusal where
  /-- A label that no window, or no window that may be closed, can have. -/
  | invalidLabel (label : String)
  /-- No window has the label or the number. -/
  | notFound (wanted : String)
  /-- As many windows are open as may be. -/
  | limitExceeded (limit : Nat)
  /-- The position is behind the last stored line. -/
  | badPosition (position : Nat)
  deriving DecidableEq, Repr

namespace Refusal

/-- The wording of a refusal. -/
def message : Refusal → String
  | invalidLabel label => "invalid window label: " ++ Text.quoted label
  | notFound wanted => "no such window: " ++ wanted
  | limitExceeded limit => s!"too many windows (limit {limit})"
  | badPosition position => s!"scroll position {position} is outside the buffer"

/-- The classic error number of a refusal. -/
def code : Refusal → Nat
  | invalidLabel _ => 22
  | notFound _ => 2
  | limitExceeded _ => 28
  | badPosition _ => 34

end Refusal

/-- What comes of a request that may be refused, with the state it leaves. -/
inductive Attempt (σ : Type) where
  | done (s : σ)
  | refused (why : Refusal) (s : σ)

namespace Attempt

variable {σ τ : Type}

/-- The state as the request left it. -/
def state : Attempt σ → σ
  | done s => s
  | refused _ s => s

/-- Go on from the state, unless the request was refused. -/
def andThen (a : Attempt σ) (next : σ → Attempt σ) : Attempt σ :=
  match a with
  | done s => next s
  | refused why s => refused why s

/-- The same attempt, as it looks in another state. -/
def map (f : σ → τ) : Attempt σ → Attempt τ
  | done s => done (f s)
  | refused why s => refused why (f s)

/-- The state after the request, or why it was refused. -/
def result : Attempt σ → Except Refusal σ
  | done s => .ok s
  | refused why _ => .error why

instance : Coe (Attempt σ) (Except Refusal σ) := ⟨result⟩

/-- If the request was refused, this is the state it left. -/
def Leaves (a : Attempt σ) (s : σ) : Prop :=
  ∀ why t, a = .refused why t → t = s

variable {a : Attempt σ} {f : σ → τ} {s : σ} {t : τ} {why : Refusal}

theorem map_eq_done_iff : a.map f = .done t ↔ ∃ s, a = .done s ∧ f s = t := by
  cases a <;> simp [map]

theorem map_eq_refused_iff : a.map f = .refused why t ↔ ∃ s, a = .refused why s ∧ f s = t := by
  cases a <;> simp [map, and_assoc]

theorem Leaves.map (h : a.Leaves s) (f : σ → τ) : (a.map f).Leaves (f s) := by
  intro why t hmap
  obtain ⟨s', hrefused, rfl⟩ := map_eq_refused_iff.1 hmap
  rw [h why s' hrefused]

/-- What the first part of a request ensures, refused or not, and the next part keeps. -/
theorem state_andThen {P : σ → Prop} {next : σ → Attempt σ} (ha : P a.state)
    (hnext : ∀ s, a = .done s → P (next s).state) : P (a.andThen next).state := by
  cases a with
  | done s => exact hnext s rfl
  | refused why s => exact ha

end Attempt
end ChatConsole
