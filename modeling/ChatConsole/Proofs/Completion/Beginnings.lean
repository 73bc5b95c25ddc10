/-
# Candidates and their beginnings

A candidate is offered for a text when its lowercase form begins with that of the text, each taken on its
own (`mem_matching_iff`).  So a candidate is offered for its own beginnings, but not for one that breaks off
within a word behind a capital sigma: there the beginning has the final sigma, and the candidate has not
(`offered_for_beginnings`).
-/

import ChatConsole.Completion
import ChatConsole.Proofs.Text.Lowercase

namespace ChatConsole
namespace Completion

variable {items : List String} {item start rest : String}

theorem mem_matching_iff :
    item ∈ matching items start ↔
      item ∈ items ∧ Text.lowercase start.toList <+: Text.lowercase item.toList := by
  simp only [matching, List.mem_filter, List.isPrefixOf_iff_prefix]

/-- **Candidates are offered for their beginnings.**  What is offered for a text are items in their order,
and just those whose lowercase form begins with that of the text.  An item that begins with the very text is
one of them, unless the text ends, ignorable characters aside, in a capital sigma behind a cased letter, and
the next letter of the item is a cased one. -/
theorem offered_for_beginnings (items : List String) (start : String) :
    (matching items start).Sublist items ∧
      (∀ item, item ∈ matching items start ↔
        item ∈ items ∧ Text.lowercase start.toList <+: Text.lowercase item.toList) ∧
      ∀ rest, start ++ rest ∈ matching items start ↔
        start ++ rest ∈ items ∧
          ¬(Text.endsInSigma start.toList = true ∧ Text.nextIsCased rest.toList = true) := by
  refine ⟨List.filter_sublist, fun item => mem_matching_iff, fun rest => ?_⟩
  rw [mem_matching_iff, String.toList_append, Text.lowercase_prefix_iff]

/-- A name is not offered for its own first three letters. -/
theorem offered_for_beginnings_within_word :
    "ΒΑΣΩ" ∈ ["ΒΑΣΩ"] ∧ "ΒΑΣ" ++ "Ω" = "ΒΑΣΩ" ∧ "ΒΑΣΩ" ∉ matching ["ΒΑΣΩ"] "ΒΑΣ" := by
  decide +kernel

end Completion
end ChatConsole
