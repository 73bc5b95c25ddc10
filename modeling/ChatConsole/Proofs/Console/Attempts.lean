/-
# Operations that may be refused

An operation in several parts may be refused in any of them, and what the parts before it did stays
done.  The lemmas here say how such an operation goes on.  Once a window is open the focus can be given
to it, so opening a window is refused before anything is done or not at all (`spawn_of_done`,
`spawn_of_refused`).
-/

import ChatConsole.Console.Windows
import ChatConsole.Proofs.Desk.Windows

namespace ChatConsole
namespace Console

variable {c : Console} {label : String} {title : Option String} {desk : Desk} {why : Refusal}

theorem changeDesk_of_done {change : Desk → Attempt Desk} (h : change c.desk = .done desk) :
    c.changeDesk change = .done (c.withDesk desk) := by
  rw [changeDesk, h]
  rfl

theorem changeDesk_of_refused {change : Desk → Attempt Desk} (h : change c.desk = .refused why desk) :
    c.changeDesk change = .refused why (c.withDesk desk) := by
  rw [changeDesk, h]
  rfl

/-- The focus can be given to a window that is found. -/
theorem focusLabel_of_found {i : Nat} (h : c.desk.indexOf? label = some i) :
    c.focusLabel label = .done (c.withDesk { c.desk with focus := i }) := by
  refine changeDesk_of_done ?_
  rw [Desk.focusLabel, h]
  rfl

theorem spawn_of_refused (h : c.desk.spawn label title = .refused why desk) :
    c.spawn label title = .refused why c := by
  obtain rfl := c.desk.leaves_spawn label title why desk h
  rw [spawn, changeDesk_of_refused h]
  rfl

/-- A window that is open gets the focus. -/
theorem spawn_of_done (h : c.desk.spawn label title = .done desk) :
    ∃ i, desk.indexOf? label = some i ∧
      c.spawn label title = .done (c.withDesk { desk with focus := i }).redraw := by
  obtain ⟨i, hi⟩ := Option.isSome_iff_exists.1 (Desk.isSome_indexOf?_of_spawn h)
  refine ⟨i, hi, ?_⟩
  have hfocus : (c.withDesk desk).focusLabel label
      = .done ((c.withDesk desk).withDesk { desk with focus := i }) := focusLabel_of_found hi
  rw [spawn, changeDesk_of_done h, Attempt.andThen, hfocus]
  rfl

end Console
end ChatConsole
