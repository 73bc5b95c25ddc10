/-
# The open windows

The desk holds the open windows in the order they were opened, the status window first, and says
which of them has the focus.  A window's number is its position.  No two labels are alike.
-/

import ChatConsole.Window.View

namespace ChatConsole

/-- The open windows. -/
structure Desk where
  status : Window
  /-- The windows after the status window. -/
  others : List Window := []
  /-- Position of the window with the focus, from 0. -/
  focus : Nat := 0
  rows : Nat
  cols : Nat
  /-- The largest number of windows. -/
  limit : Nat
  /-- Capacity of a new window's backlog. -/
  capacity : Nat
  /-- Whether a new window is logged. -/
  logging : Bool := false

namespace Desk

/-- The status window alone, with the focus. -/
def new (rows cols limit capacity : Nat) : Desk where
  status := .new Window.statusLabel none 1 capacity rows cols
  rows
  cols
  limit
  capacity

/-- Every open window, in order. -/
def windows (d : Desk) : List Window :=
  d.status :: d.others

/-- The desk with other windows in the same places. -/
def setWindows (d : Desk) : List Window → Desk
  | [] => d
  | status :: others => { d with status, others }

/-- Number of open windows. -/
def size (d : Desk) : Nat :=
  d.windows.length

/-- Position of the window with a label. -/
def indexOf? (d : Desk) (label : String) : Option Nat :=
  if label.isEmpty then none else d.windows.findIdx? fun w => Text.alike w.label label

/-- The window with a label, and its position. -/
def locate? (d : Desk) (label : String) : Option (Nat × Window) :=
  (d.indexOf? label).bind fun i => (d.windows[i]?).map (i, ·)

/-- A window is found by its label, letter case aside. -/
theorem alike_of_locate? {d : Desk} {label : String} {i : Nat} {w : Window}
    (h : d.locate? label = some (i, w)) : Text.alike w.label label = true := by
  obtain ⟨j, hj, hpair⟩ := Option.bind_eq_some_iff.1 h
  obtain ⟨v, hv, heq⟩ := Option.map_eq_some_iff.1 hpair
  cases heq
  unfold indexOf? at hj
  split at hj
  · cases hj
  · obtain ⟨hi, hlabel, -⟩ := List.findIdx?_eq_some_iff_getElem.1 hj
    rw [List.getElem?_eq_getElem hi] at hv
    cases hv
    exact hlabel

/-- The window with a label. -/
def get? (d : Desk) (label : String) : Option Window :=
  (d.locate? label).map Prod.snd

/-- The window with a number. -/
def byNumber? (d : Desk) (number : Nat) : Option Window :=
  if number = 0 then none else d.windows[number - 1]?

/-- The window with the focus. -/
def active (d : Desk) : Window :=
  (d.windows[d.focus]?).getD d.status

/-- Put a window in the place of the one at a position. -/
def set (d : Desk) (index : Nat) (w : Window) : Desk :=
  d.setWindows (d.windows.set index w)

/-- Put a window in the place of the one with the focus. -/
def setActive (d : Desk) (w : Window) : Desk :=
  d.set d.focus w

/-- Open a window at the end and give it the focus.  A label in use opens nothing.  Refused for an
empty label and at the limit. -/
def spawn (d : Desk) (label : String) (title : Option String) : Attempt Desk :=
  if label.isEmpty then .refused (.invalidLabel label) d
  else if (d.indexOf? label).isSome then .done d
  else if d.size + 1 > d.limit then .refused (.limitExceeded d.limit) d
  else
    let w := Window.new label title (d.size + 1) d.capacity d.rows d.cols
    .done { d with others := d.others ++ [{ w with logging := d.logging }], focus := d.size }

/-- Number windows from 1. -/
def renumber (ws : List Window) : List Window :=
  ws.mapIdx fun i w => { w with number := i + 1 }

/-- Close a window and give the last one the focus.  The status window stays. -/
def destroy (d : Desk) (label : String) : Attempt Desk :=
  if label.isEmpty || Window.isStatusLabel label then .refused (.invalidLabel label) d
  else
    match d.indexOf? label with
    | none => .refused (.notFound label) d
    | some i =>
      let d := d.setWindows (renumber (d.windows.eraseIdx i))
      .done { d with focus := d.size - 1 }

/-- Give the focus to a position; says whether it moved. -/
def focusOn (d : Desk) (index : Nat) : Desk × Bool :=
  ({ d with focus := index }, index != d.focus)

/-- Give the focus to the window with a label; says whether it moved. -/
def focusLabel (d : Desk) (label : String) : Attempt (Desk × Bool) :=
  match d.indexOf? label with
  | some i => .done (d.focusOn i)
  | none => .refused (.notFound label) (d, false)

/-- Give the focus to the window with a number; says whether it moved. -/
def focusNumber (d : Desk) (number : Nat) : Attempt (Desk × Bool) :=
  if number = 0 || number > d.size then .refused (.notFound (toString number)) (d, false)
  else .done (d.focusOn (number - 1))

/-- Give the focus to the next window or the one before; says whether it moved. -/
def focusNeighbour (d : Desk) (forward : Bool) : Desk × Bool :=
  let number := if forward then d.active.number + 1 else d.active.number - 1
  (d.focusNumber number).state

/-- Set a window's title.  An empty title changes nothing. -/
def setTitle? (d : Desk) (label title : String) : Option Desk :=
  if title.isEmpty then none
  else
    match d.indexOf? label with
    | some i => (d.windows[i]?).map fun w => d.set i (w.setTitle title)
    | none => none

/-- Close every query: all windows but the status window and the channels.  Says how many. -/
def closeQueries (d : Desk) : Desk × Nat :=
  let labels := (d.windows.filter fun w => !w.isStatus && !w.isChannel).map Window.label
  labels.foldl (fun (d, n) label =>
    match d.destroy label with
    | .done d => (d, n + 1)
    | .refused _ d => (d, n)) (d, 0)

/-- Lay out and draw windows one after another. -/
def recreateWindows (palette : Color.Palette) (rows cols : Nat) :
    List Window → List Window × Color.Palette
  | [] => ([], palette)
  | w :: ws =>
    let (w, palette) := w.recreate palette rows cols
    let (ws, palette) := recreateWindows palette rows cols ws
    (w :: ws, palette)

/-- Lay every window out on a terminal of another size. -/
def recreateAll (d : Desk) (palette : Color.Palette) (rows cols : Nat) : Desk × Color.Palette :=
  let (ws, palette) := recreateWindows palette rows cols d.windows
  ({ d.setWindows ws with rows, cols }, palette)

/-- The channel windows. -/
def channels (d : Desk) : List Window :=
  d.windows.filter Window.isChannel

end Desk
end ChatConsole
