/-
# Decoration as a matter of what was read

The pen reads a decorated text token by token.  What it has become by then can be said of the tokens
alone, without going through them in turn: a switch is on if it was turned an odd number of times since
the text was last plain, and the colour is that of the last code since then (`penAfter_eq`).  The
inscription of a text is the glyphs it shows, each in the style of the tokens before it.
-/

import ChatConsole.Proofs.Flow.Repaint
import Mathlib.Data.List.Induction

namespace ChatConsole
namespace Markup

/-! ### What was read -/

/-- The tokens since the text was last plain, from the last one back. -/
def sincePlain (ts : List Token) : List Token :=
  ts.reverse.takeWhile (· ≠ .plain)

/-- Whether a switch is on after some tokens. -/
def isOn (s : Switch) (ts : List Token) : Bool :=
  (sincePlain ts).count (.toggle s) % 2 = 1

/-- The colour code of a token. -/
def Token.code? : Token → Option ColorCode
  | .color code => some code
  | _ => none

/-- The colour code in force after some tokens. -/
def codeAfter? (ts : List Token) : Option ColorCode :=
  (sincePlain ts).findSome? Token.code?

/-- The palette after the colour codes of some tokens. -/
def paletteAfter (p : Color.Palette) (ts : List Token) : Color.Palette :=
  (ts.filterMap Token.code?).foldl (fun p code => (p.resolve code).2) p

/-- The shade in force after some tokens. -/
def shadeAfter (p : Color.Palette) (ts : List Token) : Option Color.Shade :=
  (codeAfter? ts).bind fun code => ((paletteAfter p ts).resolve code).1

/-- The style of a glyph that stands after some tokens. -/
def styleAfter (p : Color.Palette) (ts : List Token) : Style where
  bold := isOn .bold ts || (shadeAfter p ts).any Color.Shade.bold
  underline := isOn .underline ts
  reverse := isOn .reverse ts
  pair := ((shadeAfter p ts).map Color.Shade.pair).getD 0

/-! ### The pen after some tokens -/

/-- The pen after some tokens, and the palette after them. -/
def penAfter (p : Color.Palette) (ts : List Token) : Pen × Color.Palette :=
  ts.foldl (fun s t => s.1.read s.2 t) ({}, p)

variable {p : Color.Palette} {ts : List Token} {t : Token}

theorem penAfter_concat (p : Color.Palette) (ts : List Token) (t : Token) :
    penAfter p (ts ++ [t]) = (penAfter p ts).1.read (penAfter p ts).2 t := by
  rw [penAfter, List.foldl_append]
  rfl

theorem sincePlain_concat (ht : t ≠ .plain) (ts : List Token) :
    sincePlain (ts ++ [t]) = t :: sincePlain ts := by
  rw [sincePlain, List.reverse_append, List.reverse_singleton, List.singleton_append,
    List.takeWhile_cons_of_pos (by simpa using ht)]
  rfl

theorem sincePlain_concat_plain (ts : List Token) : sincePlain (ts ++ [.plain]) = [] := by
  simp [sincePlain]

/-- A switch is turned by its own token, and turned off by a plain one. -/
theorem isOn_concat (s : Switch) (ts : List Token) (t : Token) :
    isOn s (ts ++ [t])
      = if t = .plain then false else if t = .toggle s then !isOn s ts else isOn s ts := by
  split
  · rename_i ht
    rw [ht, isOn, sincePlain_concat_plain]
    rfl
  rename_i ht
  rw [isOn, sincePlain_concat ht, isOn]
  split
  · rename_i hs
    rw [hs, List.count_cons_self, Nat.add_mod]
    rcases Nat.mod_two_eq_zero_or_one ((sincePlain ts).count (.toggle s)) with h | h <;> rw [h] <;> rfl
  · rename_i hs
    rw [List.count_cons_of_ne hs]

theorem codeAfter?_concat (ts : List Token) (t : Token) :
    codeAfter? (ts ++ [t]) = if t = .plain then none else t.code?.or (codeAfter? ts) := by
  split
  · rename_i ht
    rw [ht, codeAfter?, sincePlain_concat_plain]
    rfl
  · rename_i ht
    rw [codeAfter?, sincePlain_concat ht, List.findSome?_cons, codeAfter?]
    cases t.code? <;> rfl

theorem paletteAfter_concat (p : Color.Palette) (ts : List Token) (t : Token) :
    paletteAfter p (ts ++ [t])
      = match t.code? with
        | some code => ((paletteAfter p ts).resolve code).2
        | none => paletteAfter p ts := by
  rw [paletteAfter, List.filterMap_append, List.foldl_append]
  cases t <;> rfl

/-- A token that is no colour code leaves the shade, unless it is the plain one. -/
theorem shadeAfter_concat (hplain : t ≠ .plain) (hcode : t.code? = none) (p : Color.Palette)
    (ts : List Token) : shadeAfter p (ts ++ [t]) = shadeAfter p ts := by
  rw [shadeAfter, codeAfter?_concat, if_neg hplain, paletteAfter_concat, hcode]
  rfl

/-- A colour code gives the shade that the palette had for it when it was read. -/
theorem shadeAfter_concat_color (p : Color.Palette) (ts : List Token) (code : ColorCode) :
    shadeAfter p (ts ++ [.color code]) = ((paletteAfter p ts).resolve code).1 := by
  have hcode : codeAfter? (ts ++ [.color code]) = some code := by
    rw [codeAfter?_concat, if_neg (by simp)]
    rfl
  have hpalette : paletteAfter p (ts ++ [.color code]) = ((paletteAfter p ts).resolve code).2 :=
    paletteAfter_concat p ts (.color code)
  rw [shadeAfter, hcode, hpalette, Option.bind_some]
  exact congrArg Prod.fst (Color.Palette.resolve_of_le (le_refl _))

theorem shadeAfter_concat_plain (p : Color.Palette) (ts : List Token) :
    shadeAfter p (ts ++ [.plain]) = none := by
  rw [shadeAfter, codeAfter?_concat, if_pos rfl]
  rfl

/-- **The pen is a matter of what was read**: turns since the text was last plain, and the last colour
code since then. -/
theorem penAfter_eq (p : Color.Palette) (ts : List Token) :
    penAfter p ts
      = ({ blink := isOn .blink ts, bold := isOn .bold ts, reverse := isOn .reverse ts,
           underline := isOn .underline ts, shade := shadeAfter p ts }, paletteAfter p ts) := by
  -- The last token decides, so the induction is from the end.
  induction ts using List.reverseRecOn with
  | nil => rfl
  | append_singleton ts t ih =>
    simp only [penAfter_concat, ih, paletteAfter_concat, isOn_concat]
    cases t with
    | plain => simp [Pen.read, Token.code?, shadeAfter_concat_plain]
    | toggle s =>
      have hshade : shadeAfter p (ts ++ [.toggle s]) = shadeAfter p ts :=
        shadeAfter_concat Token.noConfusion rfl p ts
      cases s <;> simp [Pen.read, Pen.toggle, Token.code?, hshade]
    | color code => simp [Pen.read, Token.code?, shadeAfter_concat_color]
    | glyph c =>
      have hshade : shadeAfter p (ts ++ [.glyph c]) = shadeAfter p ts :=
        shadeAfter_concat Token.noConfusion rfl p ts
      simp [Pen.read, Token.code?, hshade]

theorem style_penAfter (p : Color.Palette) (ts : List Token) :
    (penAfter p ts).1.style = styleAfter p ts := by
  rw [penAfter_eq]
  rfl

theorem snd_penAfter (p : Color.Palette) (ts : List Token) :
    (penAfter p ts).2 = paletteAfter p ts := by
  rw [penAfter_eq]

/-! ### Inscriptions -/

/-- Whether a character shows: it takes a column, and is neither a space nor a control character. -/
def isVisible (c : Char) : Bool :=
  Text.columns c ≠ 0 && c ≠ ' ' && !Text.isControl c

/-- The cell that a token shows in some style, if it shows any. -/
def Token.cell? (style : Style) : Token → Option Cell
  | .glyph c => if isVisible c then some ⟨c, style⟩ else none
  | _ => none

/-- The glyphs that tokens show, each in the style of the tokens before it; some tokens stand before
all of them. -/
def inscribed (p : Color.Palette) (before : List Token) : List Token → List Cell
  | [] => []
  | t :: ts => (t.cell? (styleAfter p before)).toList ++ inscribed p (before ++ [t]) ts

/-- The glyphs that a decorated text shows, each in the style of the decoration before it. -/
def inscription (p : Color.Palette) (text : String) : List Cell :=
  inscribed p [] (tokens text.toList)

theorem chars_cell? (style : Style) (t : Token) :
    (t.cell? style).toList.map Cell.char = t.shown?.toList.filter isVisible := by
  cases t with
  | glyph c => by_cases hc : isVisible c = true <;> simp [Token.cell?, Token.shown?, hc]
  | toggle | plain | color => rfl

theorem chars_inscribed (p : Color.Palette) (before ts : List Token) :
    (inscribed p before ts).map Cell.char = (ts.filterMap Token.shown?).filter isVisible := by
  induction ts generalizing before with
  | nil => rfl
  | cons t ts ih =>
    have hcons : (t :: ts).filterMap Token.shown? = t.shown?.toList ++ ts.filterMap Token.shown? := by
      cases t <;> rfl
    rw [inscribed, List.map_append, ih, chars_cell?, hcons, List.filter_append]

/-- What is shown is visible. -/
theorem isVisible_of_mem_inscribed {before : List Token} {cell : Cell}
    (h : cell ∈ inscribed p before ts) : isVisible cell.char = true := by
  have hchar : cell.char ∈ (inscribed p before ts).map Cell.char := List.mem_map_of_mem h
  rw [chars_inscribed] at hchar
  exact (List.mem_filter.1 hchar).2

theorem inscribed_append (p : Color.Palette) (before ts us : List Token) :
    inscribed p before (ts ++ us) = inscribed p before ts ++ inscribed p (before ++ ts) us := by
  induction ts generalizing before with
  | nil => simp [inscribed]
  | cons t ts ih =>
    rw [List.cons_append, inscribed, inscribed, ih, List.append_assoc, List.append_assoc,
      List.singleton_append]

/-- **No glyph is lost or repeated**: a text shows the visible characters of the text without its
decoration, in order. -/
theorem chars_inscription (p : Color.Palette) (text : String) :
    (inscription p text).map Cell.char = (strip text).toList.filter isVisible := by
  rw [inscription, chars_inscribed, strip, String.toList_ofList, shown]

/-- The decoration of a text is read off in one pass: a colour mark takes its code with it, any other
mark goes alone. -/
theorem shown_cons (c : Char) (cs : List Char) :
    shown (c :: cs)
      = if c = Mark.color.char then shown (cs.drop (ColorCode.scan cs).length)
        else if (Mark.ofChar? c).isSome then shown cs
        else c :: shown cs := by
  unfold shown
  rw [tokens]
  cases hc : Mark.ofChar? c with
  | none =>
    have hcolor : c ≠ Mark.color.char := by
      rintro rfl
      simp at hc
    rw [if_neg hcolor]
    rfl
  | some mark =>
    obtain rfl : c = mark.char := Mark.ofChar?_eq_some_iff.1 hc
    cases mark <;> rfl

/-- What a text shows is its own, and holds no mark. -/
theorem of_mem_shown {c : Char} {cs : List Char} (h : c ∈ shown cs) :
    c ∈ cs ∧ Mark.ofChar? c = none := by
  induction hn : cs.length using Nat.strongRecOn generalizing cs with
  | ind n ih =>
    cases cs with
    | nil => simp [shown] at h
    | cons d cs =>
      have hshorter (k : Nat) : (cs.drop k).length < n := by
        rw [← hn, List.length_drop, List.length_cons]
        omega
      rw [shown_cons] at h
      split at h
      · obtain ⟨hmem, hmark⟩ := ih _ (hshorter _) h rfl
        exact ⟨List.mem_cons_of_mem _ (List.mem_of_mem_drop hmem), hmark⟩
      split at h
      · obtain ⟨hmem, hmark⟩ := ih _ (hshorter 0) h rfl
        exact ⟨List.mem_cons_of_mem _ hmem, hmark⟩
      · rename_i hnone
        rcases List.mem_cons.1 h with rfl | h
        · exact ⟨List.mem_cons_self, by simpa using hnone⟩
        · obtain ⟨hmem, hmark⟩ := ih _ (hshorter 0) h rfl
          exact ⟨List.mem_cons_of_mem _ hmem, hmark⟩

/-- The glyphs that tokens show as a pen draws them that reads the tokens one by one. -/
def penned (s : Pen × Color.Palette) : List Token → List Cell
  | [] => []
  | t :: ts => (t.cell? s.1.style).toList ++ penned (s.1.read s.2 t) ts

theorem penned_append (s : Pen × Color.Palette) (ts us : List Token) :
    penned s (ts ++ us) = penned s ts ++ penned (ts.foldl (fun s t => s.1.read s.2 t) s) us := by
  induction ts generalizing s with
  | nil => rfl
  | cons t ts ih => rw [List.cons_append, penned, penned, ih, List.append_assoc, List.foldl_cons]

/-- Reading on, the pen draws each glyph in the style of the tokens before it. -/
theorem penned_penAfter (p : Color.Palette) (before ts : List Token) :
    penned (penAfter p before) ts = inscribed p before ts := by
  induction ts generalizing before with
  | nil => rfl
  | cons t ts ih => rw [penned, inscribed, style_penAfter, ← penAfter_concat, ih]

end Markup
end ChatConsole
