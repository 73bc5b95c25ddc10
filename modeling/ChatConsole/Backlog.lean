/-
# The backlog of a window

The lines a window has shown, oldest first, decoration included, each with the indent of its
continuation rows.  A backlog holds a bounded number of lines; when it is full the oldest line
leaves as a new one comes.
-/

namespace ChatConsole

/-- A stored line. -/
structure Line where
  text : String
  indent : Nat
  deriving DecidableEq, Repr

/-- The stored lines of a window. -/
structure Backlog where
  lines : List Line := []
  /-- The largest number of lines, at least one. -/
  capacity : Nat
  deriving DecidableEq, Repr

namespace Backlog

/-- An empty backlog; it has room for one line at least. -/
def new (capacity : Nat) : Backlog where
  capacity := max capacity 1

/-- Number of stored lines. -/
def size (b : Backlog) : Nat :=
  b.lines.length

/-- Whether the next line makes the oldest one leave. -/
def isFull (b : Backlog) : Bool :=
  b.size + 1 > b.capacity

/-- Store a line. -/
def push (b : Backlog) (line : Line) : Backlog :=
  { b with lines := (if b.isFull then b.lines.drop 1 else b.lines) ++ [line] }

/-- Change the capacity; the oldest lines beyond it leave. -/
def setCapacity (b : Backlog) (capacity : Nat) : Backlog where
  lines := b.lines.drop (b.size - max capacity 1)
  capacity := max capacity 1

/-- Drop every line. -/
def clear (b : Backlog) : Backlog :=
  { b with lines := [] }

/-- The line at a position, counted from the oldest. -/
def get? (b : Backlog) (position : Nat) : Option Line :=
  b.lines[position]?

/-- The lines from a position on. -/
def since (b : Backlog) (position : Nat) : List Line :=
  b.lines.drop position

end Backlog
end ChatConsole
