/-
# Parts of a text by their size

A text is cut behind a number of bytes.  There is nothing to cut inside a character.
-/

namespace ChatConsole
namespace Text

/-- The first bytes of a text, if a character ends with them. -/
def first? (text : String) (size : Nat) : Option String :=
  if h : String.Pos.Raw.IsValid text ⟨size⟩ then some (text.sliceTo ⟨_, h⟩).copy else none

/-- What comes behind the first bytes of a text, if a character ends with them. -/
def behind? (text : String) (size : Nat) : Option String :=
  if h : String.Pos.Raw.IsValid text ⟨size⟩ then some (text.sliceFrom ⟨_, h⟩).copy else none

/-- A text can be cut behind each of its beginnings. -/
theorem isValid_append (head rest : String) :
    String.Pos.Raw.IsValid (head ++ rest) ⟨head.utf8ByteSize⟩ :=
  String.Pos.Raw.isValid_iff_exists_append.2 ⟨head, rest, rfl, rfl⟩

theorem splits_append (head rest : String) :
    String.Pos.Splits ⟨_, isValid_append head rest⟩ head rest :=
  ⟨rfl, rfl⟩

@[simp] theorem first?_append (head rest : String) :
    first? (head ++ rest) head.utf8ByteSize = some head := by
  rw [first?, dif_pos (isValid_append head rest), (splits_append head rest).copy_sliceTo_eq]

@[simp] theorem behind?_append (head rest : String) :
    behind? (head ++ rest) head.utf8ByteSize = some rest := by
  rw [behind?, dif_pos (isValid_append head rest), (splits_append head rest).copy_sliceFrom_eq]

/-- The first bytes of a text are a beginning of it. -/
theorem exists_of_first? {text head : String} {size : Nat} (h : first? text size = some head) :
    ∃ rest, text = head ++ rest ∧ size = head.utf8ByteSize := by
  unfold first? at h
  split at h
  · rename_i hcut
    obtain rfl := Option.some.inj h
    have hsplits := String.Pos.splits (⟨⟨size⟩, hcut⟩ : text.Pos)
    exact ⟨_, hsplits.eq_append, congrArg String.Pos.Raw.byteIdx hsplits.offset_eq_rawEndPos⟩
  · cases h

end Text
end ChatConsole
