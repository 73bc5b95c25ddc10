/-
# A line with a cursor

A draft is the text being typed and a place in it.  Every edit happens at the cursor; an edit that
has nothing to act on is refused.
-/

namespace ChatConsole

/-- A text split at its cursor. -/
structure Draft where
  /-- The characters left of the cursor, nearest first. -/
  before : List Char := []
  /-- The characters from the cursor on. -/
  after : List Char := []
  deriving DecidableEq, Repr

namespace Draft

/-- The characters of the text. -/
def chars (d : Draft) : List Char :=
  d.before.reverse ++ d.after

/-- The text. -/
def text (d : Draft) : String :=
  String.ofList d.chars

/-- Number of characters left of the cursor. -/
def position (d : Draft) : Nat :=
  d.before.length

/-- Number of characters. -/
def size (d : Draft) : Nat :=
  d.before.length + d.after.length

/-- Whether the cursor is inside the text and not at its end. -/
def isInside (d : Draft) : Bool :=
  !d.after.isEmpty

/-- Put a character at the cursor and step over it. -/
def insert (d : Draft) (c : Char) : Draft :=
  { d with before := c :: d.before }

/-- Step left, over the character that is returned. -/
def left? (d : Draft) : Option (Char × Draft) :=
  match d.before with
  | [] => none
  | c :: before => some (c, ⟨before, c :: d.after⟩)

/-- Step right, over the character that is returned. -/
def right? (d : Draft) : Option (Char × Draft) :=
  match d.after with
  | [] => none
  | c :: after => some (c, ⟨c :: d.before, after⟩)

/-- Remove the character left of the cursor and return it. -/
def eraseLeft? (d : Draft) : Option (Char × Draft) :=
  match d.before with
  | [] => none
  | c :: before => some (c, { d with before })

/-- Remove the character at the cursor and return it. -/
def eraseRight? (d : Draft) : Option (Char × Draft) :=
  match d.after with
  | [] => none
  | c :: after => some (c, { d with after })

theorem size_eq_length_chars (d : Draft) : d.size = d.chars.length := by
  simp [size, chars]

theorem position_le_size (d : Draft) : d.position ≤ d.size :=
  Nat.le_add_right _ _

end Draft
end ChatConsole
