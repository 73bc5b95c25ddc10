/-
# Who is addressed

A message is cut behind as many bytes as a nick has, wherever that may be.  A beginning that is the nick,
letter case aside, has just that size (`Text.utf8ByteSize_eq_of_alike`).  So the cut finds every such
beginning, and what comes behind one is never cut off inside a character (`addresses?_append`).
-/

import ChatConsole.Notice
import ChatConsole.Proofs.Text.Ascii

namespace ChatConsole
namespace Notice

variable {text nick head rest : String}

/-! ### Addressing by characters -/

/-- A text that does not go on with a name before it: it is empty, or begins with a character that ends
the name. -/
def EndsName (rest : String) : Prop :=
  rest = "" ∨ ∃ c more, rest.toList = c :: more ∧ (c = ':' ∨ c = ',' ∨ c = ' ')

/-- A message addresses a nick: it begins with the nick, letter case aside, and does not go on with the
name. -/
def Addressed (text nick : String) : Prop :=
  nick ≠ "" ∧ ∃ head rest, text = head ++ rest ∧ Text.alike head nick = true ∧ EndsName rest

theorem endsName_iff {c : Char} : endsName c = true ↔ c = ':' ∨ c = ',' ∨ c = ' ' := by
  simp [endsName, or_assoc]

theorem all_endsName_iff : rest.toList.head?.all endsName = true ↔ EndsName rest := by
  unfold EndsName
  cases hrest : rest.toList with
  | nil => simp [String.toList_eq_nil_iff.1 hrest]
  | cons c more =>
    have hne : rest ≠ "" := by
      rintro rfl
      cases hrest
    simp [hne, endsName_iff]

/-! ### Addressing by bytes -/

theorem addresses?_empty (text : String) : addresses? text "" = some false :=
  rfl

/-- A message that begins with the nick is cut behind it, and what is left decides. -/
theorem addresses?_append (hnick : nick ≠ "") (hhead : Text.alike head nick = true) (rest : String) :
    addresses? (head ++ rest) nick = some (rest.toList.head?.all endsName) := by
  have hsize := Text.utf8ByteSize_eq_of_alike hhead
  have hlong : ¬ (head ++ rest).utf8ByteSize < nick.utf8ByteSize := by
    rw [String.utf8ByteSize_append]
    omega
  have hcut : ¬ (nick.isEmpty || decide ((head ++ rest).utf8ByteSize < nick.utf8ByteSize)) = true := by
    rw [Bool.or_eq_true, decide_eq_true_eq, String.isEmpty_iff]
    exact not_or.2 ⟨hnick, hlong⟩
  unfold addresses?
  dsimp only
  rw [if_neg hcut, ← hsize, Text.first?_append, Text.behind?_append]
  simp only [hhead, if_true, Option.map_some]

/-- A message that does not begin with the nick is not cut any further. -/
theorem addresses?_of_not_begins
    (h : ∀ head rest, text = head ++ rest → Text.alike head nick = false) :
    addresses? text nick = some false := by
  unfold addresses?
  dsimp only
  split
  · rfl
  split
  · rfl
  rename_i head hfirst
  obtain ⟨rest, htext, -⟩ := Text.exists_of_first? hfirst
  rw [h head rest htext]
  rfl

/-- A message begins with the nick, and what is left decides, or it does not address the nick. -/
theorem addresses?_cases (text nick : String) :
    (∃ head rest, nick ≠ "" ∧ text = head ++ rest ∧ Text.alike head nick = true ∧
        addresses? text nick = some (rest.toList.head?.all endsName)) ∨
      addresses? text nick = some false ∧ ¬ Addressed text nick := by
  by_cases hnick : nick = ""
  · subst hnick
    exact Or.inr ⟨addresses?_empty text, fun haddressed => haddressed.1 rfl⟩
  by_cases hbegins : ∃ head rest, text = head ++ rest ∧ Text.alike head nick = true
  · obtain ⟨head, rest, rfl, hhead⟩ := hbegins
    exact Or.inl ⟨head, rest, hnick, rfl, hhead, addresses?_append hnick hhead rest⟩
  · refine Or.inr ⟨addresses?_of_not_begins fun head rest htext => ?_, ?_⟩
    · exact Bool.eq_false_iff.2 fun hhead => hbegins ⟨head, rest, htext, hhead⟩
    · rintro ⟨-, head, rest, htext, hhead, -⟩
      exact hbegins ⟨head, rest, htext, hhead⟩

/-- There is an answer for every message and nick. -/
theorem addresses?_eq (text nick : String) : addresses? text nick = some (addresses text nick) := by
  unfold addresses
  obtain ⟨head, rest, -, -, -, hanswer⟩ | ⟨hanswer, -⟩ := addresses?_cases text nick
  · rw [hanswer, Option.getD_some]
  · rw [hanswer, Option.getD_some]

theorem addresses_iff : addresses text nick = true ↔ Addressed text nick := by
  rw [addresses]
  constructor
  · intro hyes
    obtain ⟨head, rest, hnick, htext, hhead, hanswer⟩ | ⟨hanswer, -⟩ := addresses?_cases text nick
    · rw [hanswer, Option.getD_some, all_endsName_iff] at hyes
      exact ⟨hnick, head, rest, htext, hhead, hyes⟩
    · rw [hanswer] at hyes
      cases hyes
  · rintro ⟨hnick, head, rest, rfl, hhead, hrest⟩
    rw [addresses?_append hnick hhead, Option.getD_some, all_endsName_iff]
    exact hrest

instance (text nick : String) : Decidable (Addressed text nick) :=
  decidable_of_iff _ addresses_iff

/-- **Cutting by bytes tells who is addressed by characters.**  A message addresses a nick just when the
nick is not empty and the message is a beginning that is the nick, ASCII letter case aside, with nothing
behind it or a colon, a comma or a space; and it concerns us just when it addresses our nick or one of the
aliases.  The message is never cut inside a character: there is an answer for all texts. -/
theorem concerns_iff_addressed (text nick : String) (aliases : List String) :
    addresses? text nick = some (addresses text nick) ∧
      (addresses text nick = true ↔ Addressed text nick) ∧
      (concerns text nick aliases = true ↔ ∃ name ∈ nick :: aliases, Addressed text name) := by
  refine ⟨addresses?_eq text nick, addresses_iff, ?_⟩
  simp only [concerns, Bool.or_eq_true, List.any_eq_true, addresses_iff]
  constructor
  · rintro (hnick | ⟨name, hmem, hname⟩)
    · exact ⟨nick, List.mem_cons_self, hnick⟩
    · exact ⟨name, List.mem_cons_of_mem _ hmem, hname⟩
  · rintro ⟨name, hmem, hname⟩
    rcases List.mem_cons.1 hmem with rfl | hmem
    · exact Or.inl hname
    · exact Or.inr ⟨name, hmem, hname⟩

/-- The second byte of a nick may fall inside a character of the message. -/
example : addresses? "fé: hi" "fe" = some false ∧ addresses? "FÉ: hi" "fé" = some false ∧
    addresses? "Fé: hi" "fé" = some true := by decide +kernel

end Notice
end ChatConsole
