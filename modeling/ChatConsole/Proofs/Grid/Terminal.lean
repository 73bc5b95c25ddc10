/-
# A terminal that is sent text

A terminal shows the characters it is sent, in the look it has at the time, and changes its look on
control sequences: the escape character, a bracket, numbers with semicolons between them, and a letter.
Sequences that end in another letter than that for looks are passed over.  The signals for styles are
read as such sequences (`read_styles`).
-/

import ChatConsole.Grid.Signal

namespace ChatConsole

/-- How a terminal shows characters. -/
structure Look where
  bold : Bool := false
  underline : Bool := false
  reverse : Bool := false
  foreground : Color.Ink := .standard
  background : Color.Ink := .standard
  deriving DecidableEq, Repr

/-- The look that the numbers of a sequence select. -/
def Look.select (l : Look) : List Nat → Look
  | [] => l
  | 38 :: 5 :: n :: rest => select { l with foreground := .indexed n } rest
  | 38 :: 2 :: r :: g :: b :: rest => select { l with foreground := .rgb r g b } rest
  | 48 :: 5 :: n :: rest => select { l with background := .indexed n } rest
  | 48 :: 2 :: r :: g :: b :: rest => select { l with background := .rgb r g b } rest
  | 0 :: rest => select {} rest
  | 1 :: rest => select { l with bold := true } rest
  | 4 :: rest => select { l with underline := true } rest
  | 7 :: rest => select { l with reverse := true } rest
  | 39 :: rest => select { l with foreground := .standard } rest
  | 49 :: rest => select { l with background := .standard } rest
  | _ :: rest => select l rest

/-- What a terminal waits for. -/
inductive TerminalMode where
  | text
  /-- What follows the escape character. -/
  | escape
  /-- The rest of a sequence, after some numbers and the digits of another one. -/
  | sequence (numbers : List Nat) (number : Nat)
  deriving DecidableEq, Repr

/-- A terminal, as far as one row is concerned. -/
structure Terminal where
  mode : TerminalMode := .text
  look : Look := {}
  /-- The characters on the row, each in its look. -/
  shown : List (Char × Look) := []
  deriving DecidableEq, Repr

namespace Terminal

/-- The character that control sequences begin with. -/
def escapeChar : Char := '\x1b'

/-- Take a character. -/
def take (t : Terminal) (c : Char) : Terminal :=
  match t.mode with
  | .text =>
    if c = escapeChar then { t with mode := .escape }
    else { t with shown := t.shown ++ [(c, t.look)] }
  | .escape => { t with mode := if c = '[' then .sequence [] 0 else .text }
  | .sequence numbers n =>
    if c.isDigit then { t with mode := .sequence numbers (10 * n + (c.toNat - '0'.toNat)) }
    else if c = ';' then { t with mode := .sequence (numbers ++ [n]) 0 }
    else if c = 'm' then { t with mode := .text, look := t.look.select (numbers ++ [n]) }
    else if '@' ≤ c ∧ c ≤ '~' then { t with mode := .text }
    else t

/-- Take characters one after another. -/
def read (t : Terminal) (cs : List Char) : Terminal :=
  cs.foldl take t

variable {t : Terminal} {look : Look} {shown : List (Char × Look)} {numbers : List Nat}

@[simp] theorem read_nil (t : Terminal) : t.read [] = t := rfl

theorem read_cons (t : Terminal) (c : Char) (cs : List Char) :
    t.read (c :: cs) = (t.take c).read cs := rfl

theorem read_append (t : Terminal) (as bs : List Char) :
    t.read (as ++ bs) = (t.read as).read bs :=
  List.foldl_append

/-! ### Numbers -/

/-- Numbers with semicolons between them. -/
def writeNumbers : List Nat → List Char
  | [] => []
  | [n] => (toString n).toList
  | n :: n' :: ns => (toString n).toList ++ ';' :: writeNumbers (n' :: ns)

theorem read_digits (n : Nat) {cs : List Char} (h : ∀ c ∈ cs, c.isDigit = true) :
    ({ mode := .sequence numbers n, look, shown } : Terminal).read cs
      = { mode := .sequence numbers (Nat.ofDigitChars 10 cs n), look, shown } := by
  induction cs generalizing n with
  | nil => rfl
  | cons c cs ih =>
    have hc : c.isDigit = true := h c List.mem_cons_self
    have htake : ({ mode := .sequence numbers n, look, shown } : Terminal).take c
        = { mode := .sequence numbers (10 * n + (c.toNat - '0'.toNat)), look, shown } := if_pos hc
    rw [read_cons, htake, ih _ fun d hd => h d (List.mem_cons_of_mem _ hd), Nat.ofDigitChars_cons]

/-- A number is read as it was written. -/
theorem read_toString (n : Nat) :
    ({ mode := .sequence numbers 0, look, shown } : Terminal).read (toString n).toList
      = { mode := .sequence numbers n, look, shown } := by
  have hdigits : ∀ c ∈ Nat.toDigits 10 n, c.isDigit = true :=
    fun c hc => Nat.isDigit_of_mem_toDigits (by decide) (by decide) hc
  rw [Nat.toString_eq_repr, Nat.toList_repr, read_digits 0 hdigits, Nat.ofDigitChars_ten_toDigits]

/-- Numbers are read as they were written, and select a look. -/
theorem read_writeNumbers {ns : List Nat} (hns : ns ≠ []) :
    ({ mode := .sequence numbers 0, look, shown } : Terminal).read (writeNumbers ns ++ ['m'])
      = { mode := .text, look := look.select (numbers ++ ns), shown } := by
  induction ns generalizing numbers with
  | nil => exact absurd rfl hns
  | cons n ns ih =>
    cases ns with
    | nil => rw [writeNumbers, read_append, read_toString]; rfl
    | cons n' ns =>
      have hnext : ({ mode := .sequence (numbers ++ [n]) 0, look, shown } : Terminal).read
          (writeNumbers (n' :: ns) ++ ['m']) = _ := ih (List.cons_ne_nil n' ns)
      rw [List.append_assoc] at hnext
      rw [writeNumbers, List.append_assoc, read_append, read_toString, List.cons_append, read_cons]
      exact hnext

/-! ### Signals -/

theorem toList_encodeAll (signals : List Signal) :
    (Signal.encodeAll signals).toList = signals.flatMap fun s => s.encode.toList := by
  have hfold (acc : String) : ((signals.map Signal.encode).foldl (fun r s => r ++ s) acc).toList
      = acc.toList ++ signals.flatMap fun s => s.encode.toList := by
    induction signals generalizing acc with
    | nil => simp
    | cons s signals ih => simp [ih]
  exact hfold ""

theorem read_encodeAll_append (t : Terminal) (as bs : List Signal) :
    t.read (Signal.encodeAll (as ++ bs)).toList
      = (t.read (Signal.encodeAll as).toList).read (Signal.encodeAll bs).toList := by
  rw [toList_encodeAll, List.flatMap_append, read_append, ← toList_encodeAll, ← toList_encodeAll]

theorem read_encodeAll_cons (t : Terminal) (s : Signal) (signals : List Signal) :
    t.read (Signal.encodeAll (s :: signals)).toList
      = (t.read s.encode.toList).read (Signal.encodeAll signals).toList := by
  rw [toList_encodeAll, List.flatMap_cons, read_append, ← toList_encodeAll]

/-- A character that is sent is shown, unless a control sequence begins with it. -/
theorem read_glyph {c : Char} (hc : c ≠ escapeChar) :
    ({ mode := .text, look, shown } : Terminal).read (Signal.glyph c).encode.toList
      = { mode := .text, look, shown := shown ++ [(c, look)] } := by
  have hchar : (Signal.glyph c).encode.toList = [c] := by simp [Signal.encode]
  rw [hchar]
  exact if_neg hc

/-! ### Styles -/

/-- The numbers that stand for an ink: `base` is 3 for the foreground and 4 for the background. -/
def inkNumbers (base : Nat) : Color.Ink → List Nat
  | .standard => [10 * base + 9]
  | .indexed n => [10 * base + 8, 5, n]
  | .rgb r g b => [10 * base + 8, 2, r, g, b]

/-- The numbers that stand for a signal about looks. -/
def numbers? : Signal → Option (List Nat)
  | .resetStyle => some [0]
  | .bold => some [1]
  | .underline => some [4]
  | .reverse => some [7]
  | .foreground ink => some (inkNumbers 3 ink)
  | .background ink => some (inkNumbers 4 ink)
  | _ => none

/-- A colour is sent as its numbers. -/
theorem toList_colorParameters {base : Nat} (hbase : base = 3 ∨ base = 4) (ink : Color.Ink) :
    (Signal.colorParameters base ink).toList = writeNumbers (inkNumbers base ink) := by
  rcases hbase with rfl | rfl <;> cases ink <;>
    simp only [Signal.colorParameters, String.toList_append, List.append_assoc] <;> rfl

/-- A signal about looks is sent as its numbers. -/
theorem toList_encode {s : Signal} {ns : List Nat} (h : numbers? s = some ns) :
    s.encode.toList = escapeChar :: '[' :: (writeNumbers ns ++ ['m']) := by
  cases s with
  | resetStyle | bold | underline | reverse =>
    cases h
    rfl
  | foreground ink =>
    cases h
    simp only [Signal.encode, Signal.sequence, String.toList_append,
      toList_colorParameters (Or.inl rfl)]
    rfl
  | background ink =>
    cases h
    simp only [Signal.encode, Signal.sequence, String.toList_append,
      toList_colorParameters (Or.inr rfl)]
    rfl
  | glyph | moveTo | clear | hideCursor | showCursor | bell => cases h

/-- The look after a signal. -/
def restyle (l : Look) (s : Signal) : Look :=
  l.select ((numbers? s).getD [])

/-- A signal about looks changes the look, and shows nothing. -/
theorem read_encode {s : Signal} (h : (numbers? s).isSome) :
    ({ mode := .text, look, shown } : Terminal).read s.encode.toList
      = { mode := .text, look := restyle look s, shown } := by
  obtain ⟨ns, hs⟩ := Option.isSome_iff_exists.1 h
  have hns : ns ≠ [] := by
    rintro rfl
    cases s with
    | foreground ink | background ink => cases ink <;> cases hs
    | _ => cases hs
  rw [toList_encode hs, restyle, hs]
  exact read_writeNumbers hns

theorem read_styles {signals : List Signal} (h : ∀ s ∈ signals, (numbers? s).isSome) :
    ({ mode := .text, look, shown } : Terminal).read (Signal.encodeAll signals).toList
      = { mode := .text, look := signals.foldl restyle look, shown } := by
  induction signals generalizing look with
  | nil => rfl
  | cons s signals ih =>
    rw [read_encodeAll_cons, read_encode (h s List.mem_cons_self),
      ih fun s' hs' => h s' (List.mem_cons_of_mem _ hs'), List.foldl_cons]

end Terminal
end ChatConsole
