/-
# Keys sent as bytes

A terminal sends a key press as bytes, some presses in one of two ways (`KeyPress.encodings`).  Each of
these byte strings is decoded to one key, and then nothing is pending (`Sends`), whatever comes behind
it.  So the bytes of many presses are decoded to their keys one after another, and these are the keys
that a live terminal reports (`decode_encodings`).
-/

import ChatConsole.Key.Decoder
import ChatConsole.Key.Press
import ChatConsole.Proofs.Text.Ascii
import ChatConsole.Proofs.Text.Forms

namespace ChatConsole

/-! ### The bytes of a key press -/

namespace Key

/-- An escape sequence with a bracket. -/
def bracketBytes (parameters : String) (final : Char) : List UInt8 :=
  0x1B :: 0x5B :: (parameters.toList.map Char.toUInt8 ++ [final.toUInt8])

/-- An escape sequence with a capital O. -/
def letterBytes (final : Char) : List UInt8 :=
  [0x1B, 0x4F, final.toUInt8]

/-- The two ways of sending a cursor key. -/
def cursorBytes (final : Char) : List (List UInt8) :=
  [bracketBytes "" final, letterBytes final]

/-- The ways of sending a function key. -/
def functionBytes : Nat → List (List UInt8)
  | 1 => [letterBytes 'P']
  | 2 => [letterBytes 'Q']
  | 3 => [letterBytes 'R']
  | 4 => [letterBytes 'S']
  | 5 => [bracketBytes "15" '~']
  | 6 => [bracketBytes "17" '~']
  | 7 => [bracketBytes "18" '~']
  | 8 => [bracketBytes "19" '~']
  | 9 => [bracketBytes "20" '~']
  | 10 => [bracketBytes "21" '~']
  | 11 => [bracketBytes "23" '~']
  | 12 => [bracketBytes "24" '~']
  | _ => []

/-- Whether a character is sent as itself. -/
def isPrintable (c : Char) : Bool :=
  0x20 ≤ c.toNat && c.toNat != 0x7F

end Key

open Key

/-- The ways in which a terminal sends a key press, if it does.  The escape key has none here: what its
byte means depends on what comes behind it. -/
def KeyPress.encodings (p : KeyPress) : List (List UInt8) :=
  if p.released then []
  else
    match p.code with
    | .char c =>
      if p.control then if c.isAlpha then [[.ofNat (c.toLower.toNat - 0x60)]] else []
      else if isPrintable c then [String.utf8EncodeChar c]
      else []
    | .enter => [[0x0D]]
    | .backspace => [[0x7F]]
    | .tab => [[0x09]]
    | .up => if p.alt then [bracketBytes "1;3" 'A'] else cursorBytes 'A'
    | .down => if p.alt then [bracketBytes "1;3" 'B'] else cursorBytes 'B'
    | .right => cursorBytes 'C'
    | .left => cursorBytes 'D'
    | .home => cursorBytes 'H'
    | .lineEnd => cursorBytes 'F'
    | .delete => [bracketBytes "3" '~']
    | .pageUp => [bracketBytes "5" '~']
    | .pageDown => [bracketBytes "6" '~']
    | .function n => functionBytes n
    | .escape => []
    | .other => []

namespace Key

/-! ### Bytes that are decoded to one key -/

/-- Bytes that are decoded to one key, whatever comes behind them. -/
def Sends (bytes : List UInt8) (key : Key) : Prop :=
  ∀ rest, Pending.nothing.decode (bytes ++ rest) = key :: Pending.nothing.decode rest

variable {key : Key}

theorem decode_of_feed_none {p q : Pending} {b : UInt8} (h : p.feed b = (q, none)) (rest : List UInt8) :
    p.decode (b :: rest) = q.decode rest := by
  rw [Pending.decode, h]
  rfl

theorem decode_of_feed_some {p q : Pending} {b : UInt8} (h : p.feed b = (q, some key))
    (rest : List UInt8) : p.decode (b :: rest) = key :: q.decode rest := by
  rw [Pending.decode, h]
  rfl

/-- A byte that begins nothing is a key. -/
theorem sends_byte {b : UInt8} (hb : b.toNat < 0x80) (hescape : b ≠ 0x1B) : Sends [b] (ofByte b) := by
  intro rest
  refine decode_of_feed_some ?_ rest
  rw [Pending.feed, Pending.start, if_neg hescape, Text.formLength?_of_lt hb]

/-! ### Characters -/

/-- The continuations of a form complete it. -/
theorem decode_form {c : Char} {bytes tail : List UInt8} (htail : tail ≠ [])
    (hcontinues : tail.all Text.isContinuation = true)
    (hreads : Text.ofForm? (bytes ++ tail) = some c) (rest : List UInt8) :
    (Pending.form (bytes.length + tail.length) bytes).decode (tail ++ rest)
      = .char c :: Pending.nothing.decode rest := by
  induction tail generalizing bytes with
  | nil => exact absurd rfl htail
  | cons b tail ih =>
    rw [List.all_cons, Bool.and_eq_true] at hcontinues
    obtain ⟨hb, hcontinues⟩ := hcontinues
    have hsplit : bytes ++ b :: tail = bytes ++ [b] ++ tail := by
      rw [List.append_assoc, List.singleton_append]
    cases tail with
    | nil =>
      refine decode_of_feed_some ?_ rest
      simp [Pending.feed, hb, hreads]
    | cons b' tail =>
      have hmore : (Pending.form (bytes.length + (b :: b' :: tail).length) bytes).feed b
          = (.form ((bytes ++ [b]).length + (b' :: tail).length) (bytes ++ [b]), none) := by
        simp [Pending.feed, hb]
        omega
      rw [List.cons_append, decode_of_feed_none hmore]
      exact ih (List.cons_ne_nil _ _) hcontinues (hsplit ▸ hreads)

theorem sends_form {first : UInt8} {tail : List UInt8} {c : Char} (h : Text.IsForm first tail c) :
    Sends (first :: tail) (.char c) := by
  intro rest
  have hescape : first ≠ 0x1B := by
    rintro rfl
    have hlength := h.length
    simp [Text.formLength?] at hlength
  have hbegin : Pending.nothing.feed first = (.form (tail.length + 1) [first], none) := by
    rw [Pending.feed, Pending.start, if_neg hescape, h.length]
  have hreads : Text.ofForm? ([first] ++ tail) = some c := h.reads
  rw [List.cons_append, decode_of_feed_none hbegin, Nat.add_comm]
  exact decode_form h.tail_ne_nil h.continues hreads rest

theorem isPrintable_iff {c : Char} : isPrintable c = true ↔ 0x20 ≤ c.toNat ∧ c.toNat ≠ 0x7F := by
  simp [isPrintable]

/-- A printable character of one byte is the key of its byte. -/
theorem ofByte_char {c : Char} (hone : c.toNat ≤ 0x7F) (hc : isPrintable c = true) :
    ofByte (.ofNat c.toNat) = .char c := by
  obtain ⟨hlow, hdelete⟩ := isPrintable_iff.1 hc
  simp only [ofByte, Text.toNat_ofNat_of_le hone]
  rw [if_neg (by omega), if_neg (by omega), if_neg (by omega), if_neg (by omega), if_neg (by omega),
    if_pos (by omega), Char.ofNat_toNat]

/-- **A printable character is decoded from its bytes.** -/
theorem sends_char {c : Char} (hc : isPrintable c = true) :
    Sends (String.utf8EncodeChar c) (.char c) := by
  rcases Text.utf8EncodeChar_cases c with ⟨hone, hbytes⟩ | ⟨first, tail, hbytes, hform⟩
  · obtain ⟨hlow, -⟩ := isPrintable_iff.1 hc
    have hbyte := Text.toNat_ofNat_of_le hone
    rw [hbytes, ← ofByte_char hone hc]
    refine sends_byte ?_ ?_
    · omega
    · intro hescape
      have hnumber : (UInt8.ofNat c.toNat).toNat = 0x1B := congrArg UInt8.toNat hescape
      omega
  · rw [hbytes]
    exact sends_form hform

/-! ### Letters with the control key -/

/-- The letters one by one. -/
theorem ofByte_control : ∀ n < 0x80, (Char.ofNat n).isAlpha = true →
    let b := UInt8.ofNat ((Char.ofNat n).toLower.toNat - 0x60)
    b.toNat < 0x80 ∧ b ≠ 0x1B ∧ ofByte b = KeyPress.controlKey (Char.ofNat n).toLower := by
  decide +kernel

theorem sends_control {c : Char} (hc : c.isAlpha = true) :
    Sends [.ofNat (c.toLower.toNat - 0x60)] (KeyPress.controlKey c.toLower) := by
  have hletter := ofByte_control c.toNat (Text.toNat_lt_of_isAlpha hc)
  rw [Char.ofNat_toNat] at hletter
  obtain ⟨hbyte, hescape, hkey⟩ := hletter hc
  rw [← hkey]
  exact sends_byte hbyte hescape

/-! ### Escape sequences -/

/-- Parameters are digits and semicolons. -/
def isParameter (c : Char) : Bool :=
  c.isDigit || c == ';'

theorem ofNat_toUInt8 {c : Char} (h : c.toNat ≤ 0x7F) : Char.ofNat c.toUInt8.toNat = c := by
  have hbyte : c.toUInt8.toNat = c.toNat := Text.toNat_ofNat_of_le h
  rw [hbyte, Char.ofNat_toNat]

theorem toNat_le_of_isParameter {c : Char} (h : isParameter c = true) : c.toNat ≤ 0x7F := by
  simp only [isParameter, Bool.or_eq_true, beq_iff_eq, Char.isDigit_iff_toNat] at h
  rcases h with ⟨-, hdigit⟩ | rfl
  · exact Nat.le_trans hdigit (by decide)
  · decide

/-- Parameters are taken one after another. -/
theorem decode_parameters {parameters : List Char} (h : parameters.all isParameter = true)
    (taken : List Char) (rest : List UInt8) :
    (Pending.bracket taken).decode (parameters.map Char.toUInt8 ++ rest)
      = (Pending.bracket (taken ++ parameters)).decode rest := by
  induction parameters generalizing taken with
  | nil => rw [List.append_nil, List.map_nil, List.nil_append]
  | cons c parameters ih =>
    rw [List.all_cons, Bool.and_eq_true] at h
    obtain ⟨hc, h⟩ := h
    have hfeed : (Pending.bracket taken).feed c.toUInt8 = (.bracket (taken ++ [c]), none) := by
      have hparameter : c.isDigit = true ∨ c = ';' := by simpa [isParameter] using hc
      simp only [Pending.feed, ofNat_toUInt8 (toNat_le_of_isParameter hc), if_pos hparameter]
    rw [List.map_cons, List.cons_append, decode_of_feed_none hfeed, ih h, List.append_assoc,
      List.singleton_append]

/-- A sequence with a bracket is the key of its parameters and its final byte. -/
theorem sends_bracket {parameters : String} {final : Char}
    (hparameters : parameters.toList.all isParameter = true) (hfinal : isParameter final = false)
    (hascii : final.toNat ≤ 0x7F) (hkey : ofBracket parameters.toList final.toUInt8 = key) :
    Sends (bracketBytes parameters final) key := by
  intro rest
  have hfeed : (Pending.bracket parameters.toList).feed final.toUInt8 = (.nothing, some key) := by
    have hparameter : ¬(final.isDigit = true ∨ final = ';') := by simpa [isParameter] using hfinal
    simp only [Pending.feed, ofNat_toUInt8 hascii, if_neg hparameter, hkey]
  have hescape : Pending.nothing.feed 0x1B = (.escape, none) := rfl
  have hbracket : Pending.escape.feed 0x5B = (.bracket [], none) := rfl
  rw [bracketBytes, List.cons_append, List.cons_append, decode_of_feed_none hescape,
    decode_of_feed_none hbracket, List.append_assoc, decode_parameters hparameters, List.nil_append,
    List.singleton_append, decode_of_feed_some hfeed]

/-- A sequence with a capital O is the key of its final byte. -/
theorem sends_letter {final : Char} (hkey : ofLetter final.toUInt8 = key) :
    Sends (letterBytes final) key := by
  intro rest
  rw [← hkey]
  rfl

/-- A cursor key is decoded from both of its sequences. -/
theorem sends_cursor {final : Char} (hkey : ofCursorLetter? final = some key) {bytes : List UInt8}
    (hbytes : bytes ∈ cursorBytes final) : Sends bytes key := by
  have hways : bytes = bracketBytes "" final ∨ bytes = letterBytes final := by
    simpa [cursorBytes] using hbytes
  unfold ofCursorLetter? at hkey
  split at hkey
  case h_7 => cases hkey
  all_goals
    obtain rfl := Option.some.inj hkey
    rcases hways with rfl | rfl
    · exact sends_bracket rfl rfl (by decide) rfl
    · exact sends_letter rfl

/-- A function key is decoded from its sequence. -/
theorem sends_function : ∀ n, ∀ bytes ∈ functionBytes n, Sends bytes (.function n)
  | 1 | 2 | 3 | 4 => by
    rw [functionBytes, List.forall_mem_singleton]
    exact sends_letter rfl
  | 5 | 6 | 7 | 8 | 9 | 10 | 11 | 12 => by
    rw [functionBytes, List.forall_mem_singleton]
    exact sends_bracket rfl rfl (by decide) rfl
  | 0 => nofun
  | n + 13 => nofun

/-! ### Key presses -/

theorem sends_charCode {c : Char} {control alt : Bool} {bytes : List UInt8}
    (h : bytes ∈ KeyPress.encodings ⟨.char c, control, alt, false⟩) :
    ∃ key, KeyPress.key? ⟨.char c, control, alt, false⟩ = some key ∧ Sends bytes key := by
  cases control with
  | true =>
    by_cases hc : c.isAlpha = true
    · have hbytes : bytes = [.ofNat (c.toLower.toNat - 0x60)] := by
        simpa [KeyPress.encodings, hc] using h
      refine ⟨KeyPress.controlKey c.toLower, ?_, hbytes ▸ sends_control hc⟩
      simp [KeyPress.key?, hc]
    · simp [KeyPress.encodings, hc] at h
  | false =>
    by_cases hc : isPrintable c = true
    · have hbytes : bytes = String.utf8EncodeChar c := by simpa [KeyPress.encodings, hc] using h
      refine ⟨.char c, ?_, hbytes ▸ sends_char hc⟩
      simp [KeyPress.key?]
    · simp [KeyPress.encodings, hc] at h

/-- **What a key press sends is decoded to the key that a live terminal reports**, one case for each
press. -/
theorem sends_encoding {p : KeyPress} {bytes : List UInt8} (h : bytes ∈ p.encodings) :
    ∃ key, p.key? = some key ∧ Sends bytes key := by
  obtain ⟨code, control, alt, released⟩ := p
  cases released with
  | true => cases h
  | false =>
    cases code with
    | char c => exact sends_charCode h
    | enter | backspace | tab =>
      obtain rfl := List.mem_singleton.1 h
      exact ⟨_, rfl, sends_byte (by decide) (by decide)⟩
    | up | down =>
      cases alt with
      | false => exact ⟨_, rfl, sends_cursor rfl h⟩
      | true =>
        obtain rfl := List.mem_singleton.1 h
        exact ⟨_, rfl, sends_bracket rfl rfl (by decide) rfl⟩
    | left | right | home | lineEnd => exact ⟨_, rfl, sends_cursor rfl h⟩
    | delete | pageUp | pageDown =>
      obtain rfl := List.mem_singleton.1 h
      exact ⟨_, rfl, sends_bracket rfl rfl (by decide) rfl⟩
    | function n => exact ⟨_, rfl, sends_function n bytes h⟩
    | escape | other => cases h

/-- What sends a key each is decoded to the keys one after another. -/
theorem decode_flatMap {α : Type} {bytes : α → List UInt8} {key? : α → Option Key} {sent : List α}
    (h : ∀ x ∈ sent, ∃ key, key? x = some key ∧ Sends (bytes x) key) :
    (decode (sent.flatMap bytes)).map some = sent.map key? := by
  induction sent with
  | nil => rfl
  | cons x sent ih =>
    obtain ⟨key, hkey, hsends⟩ := h x List.mem_cons_self
    have hrest : (Pending.nothing.decode (sent.flatMap bytes)).map some = sent.map key? :=
      ih fun y hy => h y (List.mem_cons_of_mem _ hy)
    rw [List.flatMap_cons, decode, hsends, List.map_cons, List.map_cons, hrest, hkey]

/-- **Bytes and live reports give the same keys.**  The bytes of many key presses, each sent in one of
its ways, are decoded to the keys that a live terminal reports, one for each press and in their order.
So the bytes of a printable text are decoded to its characters. -/
theorem decode_encodings (sent : List (KeyPress × List UInt8))
    (hsent : ∀ press ∈ sent, press.2 ∈ press.1.encodings) :
    (decode (sent.flatMap (·.2))).map some = sent.map (·.1.key?) ∧
      ∀ text : String, (∀ c ∈ text.toList, isPrintable c = true) →
        decode text.toUTF8.data.toList = text.toList.map Key.char := by
  refine ⟨decode_flatMap fun press hpress => sends_encoding (hsent press hpress), ?_⟩
  intro text htext
  have hbytes : text.toUTF8.data.toList = text.toList.flatMap String.utf8EncodeChar := by
    have hencode : text.toUTF8 = text.toList.utf8Encode := String.utf8Encode_toList.symm
    rw [hencode, List.utf8Encode, List.toList_data_toByteArray]
  have hkeys : (decode (text.toList.flatMap String.utf8EncodeChar)).map some
      = text.toList.map fun c => some (.char c) :=
    decode_flatMap fun c hc => ⟨.char c, rfl, sends_char (htext c hc)⟩
  rw [hbytes]
  refine (List.map_inj_right fun _ _ => Option.some.inj).1 ?_
  rw [hkeys, List.map_map]
  rfl

/-- A letter with the control key, the up key in both of its ways, a character of three bytes, and the
last function key. -/
theorem decode_encodings_mixed :
    let sent : List (KeyPress × List UInt8) :=
      [({ code := .char 'P', control := true }, [0x10]), ({ code := .up }, [0x1B, 0x5B, 0x41]),
        ({ code := .up }, [0x1B, 0x4F, 0x41]), ({ code := .char '日' }, [0xE6, 0x97, 0xA5]),
        ({ code := .function 12 }, [0x1B, 0x5B, 0x32, 0x34, 0x7E])]
    (∀ press ∈ sent, press.2 ∈ press.1.encodings) ∧
      (decode (sent.flatMap (·.2))).map some = [some (.control 'p'), some .up, some .up,
        some (.char '日'), some (.function 12)] ∧
      decode "tea 日".toUTF8.data.toList = [.char 't', .char 'e', .char 'a', .char ' ', .char '日'] := by
  intro sent
  have hsent : ∀ press ∈ sent, press.2 ∈ press.1.encodings := by decide +kernel
  obtain ⟨hkeys, htext⟩ := decode_encodings sent hsent
  exact ⟨hsent, hkeys, htext "tea 日" (by simp [isPrintable])⟩

end Key
end ChatConsole
