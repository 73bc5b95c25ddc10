/-
# The members of a roster

Members are added, removed, renamed and ranked anew, in any order.  A nick stands for the member whose nick
is alike, and there is one such member at most (`WellFormed.exists_split`): so a request adds a member to
the others, or changes or removes just this one, and no request leaves an empty nick or two that are alike
(`wellFormed_attempt?`).  In which order the members are stored has no say (`Same.attempt?`).
-/

import ChatConsole.Roster

namespace ChatConsole
namespace Roster

/-! ### Requests -/

/-- What can be asked of a roster. -/
inductive Request where
  | add (nick : String) (rank : Rank)
  /-- Add the member that an entry of a names list stands for. -/
  | addEntry (entry : String)
  | remove (nick : String)
  | rename (old new : String)
  | setRank (nick : String) (rank : Rank)
  | clear
  | scrollUp
  | scrollDown
  /-- Settle the panel, as drawing it does. -/
  | settle (height : Nat)

/-- The roster after a request, unless it is refused. -/
def attempt? (r : Roster) : Request → Option Roster
  | .add nick rank => r.add? ⟨nick, rank⟩
  | .addEntry entry => r.add? (.ofEntry entry)
  | .remove nick => r.remove? nick
  | .rename old new => r.rename? old new
  | .setRank nick rank => r.setRank? nick rank
  | .clear => some {}
  | .scrollUp => some r.scrollUp
  | .scrollDown => some r.scrollDown
  | .settle height => some (r.settle height)

/-- Make a request; what is refused changes nothing. -/
def answer (r : Roster) (q : Request) : Roster :=
  (r.attempt? q).getD r

/-- Make one request after another. -/
def run (r : Roster) (requests : List Request) : Roster :=
  requests.foldl answer r

/-! ### The member of a nick -/

/-- No nick is empty, and no two are alike. -/
structure WellFormed (r : Roster) : Prop where
  named : ∀ m ∈ r.members, m.nick ≠ ""
  distinct : r.members.Pairwise fun a b => Text.alike a.nick b.nick = false

variable {r s : Roster} {m new : Member} {nick : String} {before after : List Member}

theorem wellFormed_empty : WellFormed {} where
  named _ hm := absurd hm List.not_mem_nil
  distinct := .nil

theorem contains_iff : r.contains nick = true ↔ ∃ m ∈ r.members, Text.alike m.nick nick = true := by
  rw [contains, position?, List.findIdx?_isSome, List.any_eq_true]

theorem position?_eq_none_iff :
    r.position? nick = none ↔ ∀ m ∈ r.members, Text.alike m.nick nick = false :=
  List.findIdx?_eq_none_iff

theorem contains_eq_false_iff :
    r.contains nick = false ↔ ∀ m ∈ r.members, Text.alike m.nick nick = false := by
  rw [contains, Option.isSome_eq_false_iff, Option.isNone_iff_eq_none, position?_eq_none_iff]

/-- A nick that is not alike one of two that are alike is not alike the other. -/
theorem alike_eq_false_of_alike {a b c : String} (hab : Text.alike a b = true)
    (hac : Text.alike a c = false) : Text.alike c b = false := by
  rw [← Bool.not_eq_true] at hac ⊢
  exact fun hcb => hac (Text.alike_trans hab (Text.alike_symm hcb))

/-- No two of some members are alike, wherever one of them stands. -/
theorem pairwise_split_iff :
    (before ++ m :: after).Pairwise (fun a b => Text.alike a.nick b.nick = false) ↔
      (∀ a ∈ before ++ after, Text.alike m.nick a.nick = false) ∧
        (before ++ after).Pairwise (fun a b => Text.alike a.nick b.nick = false) := by
  rw [List.pairwise_middle fun h => Text.alike_comm .. ▸ h, List.pairwise_cons]

/-- What is done to the member at a position is done to no other. -/
theorem modify_middle (before : List Member) (m : Member) (after : List Member) (f : Member → Member) :
    (before ++ m :: after).modify before.length f = before ++ f m :: after := by
  rw [List.modify_eq_take_drop, List.take_left, List.drop_left, List.modifyHead_cons]

/-- The member at a position is gone, and the others are left. -/
theorem swapRemove_perm (before : List Member) (m : Member) (after : List Member) :
    (swapRemove (before ++ m :: after) before.length).Perm (before ++ after) := by
  rcases List.eq_nil_or_concat after with rfl | ⟨inner, last, rfl⟩
  · rw [swapRemove, List.getLast?_concat]
    dsimp only
    rw [List.set_append_right _ _ (Nat.le_refl _), Nat.sub_self, List.set_cons_zero,
      List.dropLast_concat, List.append_nil]
  · have hlast : (before ++ m :: inner.concat last).getLast? = some last := by
      rw [List.concat_eq_append, ← List.cons_append, ← List.append_assoc, List.getLast?_concat]
    rw [swapRemove, hlast]
    dsimp only
    rw [List.set_append_right _ _ (Nat.le_refl _), Nat.sub_self, List.set_cons_zero,
      List.concat_eq_append, ← List.cons_append, ← List.append_assoc, List.dropLast_concat]
    exact (List.perm_append_singleton last inner).symm.append_left before

namespace WellFormed

/-- A nick stands for one member. -/
theorem exists_split (h : r.WellFormed) {i : Nat} (hi : r.position? nick = some i) :
    ∃ before m after, r.members = before ++ m :: after ∧ before.length = i ∧
      Text.alike m.nick nick = true ∧ ∀ a ∈ before ++ after, Text.alike a.nick nick = false := by
  obtain ⟨hlt, halike, -⟩ := List.findIdx?_eq_some_iff_getElem.1 hi
  have hmembers : r.members = r.members.take i ++ r.members[i] :: r.members.drop (i + 1) := by
    rw [List.getElem_cons_drop, List.take_append_drop]
  obtain ⟨hothers, -⟩ := pairwise_split_iff.1 (hmembers ▸ h.distinct)
  exact ⟨_, _, _, hmembers, List.length_take_of_le (Nat.le_of_lt hlt), halike,
    fun a ha => alike_eq_false_of_alike halike (hothers a ha)⟩

/-- Just the member of the nick is changed. -/
theorem modify?_eq_some (h : r.WellFormed) {f : Member → Member} (hs : r.modify? nick f = some s) :
    ∃ before m after, r.members = before ++ m :: after ∧ Text.alike m.nick nick = true ∧
      (∀ a ∈ before ++ after, Text.alike a.nick nick = false) ∧
      s = { r with members := before ++ f m :: after } := by
  obtain ⟨i, hi, rfl⟩ := Option.map_eq_some_iff.1 hs
  obtain ⟨before, m, after, hmembers, rfl, halike, hothers⟩ := h.exists_split hi
  exact ⟨before, m, after, hmembers, halike, hothers, by rw [hmembers, modify_middle]⟩

/-- Just the member of the nick is removed. -/
theorem remove?_eq_some (h : r.WellFormed) (hs : r.remove? nick = some s) :
    ∃ before m after, r.members = before ++ m :: after ∧ Text.alike m.nick nick = true ∧
      s.members.Perm (before ++ after) := by
  obtain ⟨i, hi, rfl⟩ := Option.map_eq_some_iff.1 hs
  obtain ⟨before, m, after, hmembers, rfl, halike, -⟩ := h.exists_split hi
  exact ⟨before, m, after, hmembers, halike, hmembers ▸ swapRemove_perm before m after⟩

/-! ### Requests keep a roster well formed -/

/-- In which order the members are stored has no say. -/
theorem of_perm (h : r.WellFormed) (hs : s.members.Perm r.members) : s.WellFormed where
  named m hm := h.named m (hs.mem_iff.1 hm)
  distinct := hs.symm.pairwise h.distinct fun h => Text.alike_comm .. ▸ h

theorem add? (h : r.WellFormed) (hs : r.add? m = some s) : s.WellFormed := by
  unfold Roster.add? at hs
  split at hs
  · cases hs
  · rename_i hfree
    simp only [Bool.or_eq_true, not_or, Bool.not_eq_true, String.isEmpty_eq_false_iff,
      contains_eq_false_iff] at hfree
    obtain ⟨hnamed, hnone⟩ := hfree
    obtain rfl := Option.some.inj hs
    refine ⟨List.forall_mem_append.2 ⟨h.named, List.forall_mem_singleton.2 hnamed⟩, ?_⟩
    refine List.pairwise_append.2 ⟨h.distinct, List.pairwise_singleton .., fun a ha b hb => ?_⟩
    rw [List.mem_singleton.1 hb]
    exact hnone a ha

/-- Another member may take the place of one, unless its nick is alike the others'. -/
theorem replace (h : r.WellFormed) (hmembers : r.members = before ++ m :: after)
    (hnamed : new.nick ≠ "") (hothers : ∀ a ∈ before ++ after, Text.alike new.nick a.nick = false) :
    WellFormed { r with members := before ++ new :: after } := by
  obtain ⟨hbefore, hafter⟩ := List.forall_mem_append.1 (hmembers ▸ h.named)
  obtain ⟨-, hdistinct⟩ := pairwise_split_iff.1 (hmembers ▸ h.distinct)
  exact ⟨List.forall_mem_append.2 ⟨hbefore,
    List.forall_mem_cons.2 ⟨hnamed, (List.forall_mem_cons.1 hafter).2⟩⟩,
    pairwise_split_iff.2 ⟨hothers, hdistinct⟩⟩

theorem remove? (h : r.WellFormed) (hs : r.remove? nick = some s) : s.WellFormed := by
  obtain ⟨before, m, after, hmembers, -, hleft⟩ := h.remove?_eq_some hs
  obtain ⟨hbefore, hafter⟩ := List.forall_mem_append.1 (hmembers ▸ h.named)
  obtain ⟨-, hdistinct⟩ := pairwise_split_iff.1 (hmembers ▸ h.distinct)
  have hothers : WellFormed { r with members := before ++ after } :=
    ⟨List.forall_mem_append.2 ⟨hbefore, (List.forall_mem_cons.1 hafter).2⟩, hdistinct⟩
  exact hothers.of_perm hleft

theorem setRank? (h : r.WellFormed) {rank : Rank} (hs : r.setRank? nick rank = some s) :
    s.WellFormed := by
  obtain ⟨before, m, after, hmembers, -, -, rfl⟩ := h.modify?_eq_some hs
  have hm : m ∈ r.members := hmembers ▸ List.mem_append_right before List.mem_cons_self
  obtain ⟨hothers, -⟩ := pairwise_split_iff.1 (hmembers ▸ h.distinct)
  exact h.replace hmembers (h.named m hm) hothers

end WellFormed

/-! ### Renaming -/

variable {old name : String}

/-- A nick is another member's if a member has it who is not the one that takes it. -/
theorem taken_iff : (r.contains name && !Text.alike name old) = true ↔
    ∃ m ∈ r.members, Text.alike m.nick name = true ∧ Text.alike m.nick old = false := by
  rw [Bool.and_eq_true, contains_iff, Bool.not_eq_true']
  constructor
  · rintro ⟨⟨m, hm, halike⟩, hold⟩
    refine ⟨m, hm, halike, ?_⟩
    rw [← Bool.not_eq_true] at hold ⊢
    exact fun hmold => hold (Text.alike_trans (Text.alike_symm halike) hmold)
  · rintro ⟨m, hm, halike, hold⟩
    refine ⟨⟨m, hm, halike⟩, ?_⟩
    rw [← Bool.not_eq_true] at hold ⊢
    exact fun hname => hold (Text.alike_trans halike hname)

theorem modify?_eq_none_iff {f : Member → Member} :
    r.modify? nick f = none ↔ ∀ m ∈ r.members, Text.alike m.nick nick = false := by
  rw [modify?, Option.map_eq_none_iff, position?_eq_none_iff]

/-- Renaming is refused for an empty nick, for the nick of another member, and if there is no member to
rename. -/
theorem rename?_eq_none_iff : r.rename? old name = none ↔
    name = "" ∨
      (∃ m ∈ r.members, Text.alike m.nick name = true ∧ Text.alike m.nick old = false) ∨
      ∀ m ∈ r.members, Text.alike m.nick old = false := by
  rw [rename?, ← taken_iff, ← modify?_eq_none_iff (f := fun m => { m with nick := name }), ← or_assoc,
    ← String.isEmpty_iff, ← Bool.or_eq_true]
  split
  · rename_i hrefused
    exact iff_of_true rfl (Or.inl hrefused)
  · rename_i hfree
    exact ⟨Or.inr, fun h => h.resolve_left hfree⟩

/-- A member that is renamed keeps its rank, and the others stay. -/
theorem WellFormed.rename?_eq_some (h : r.WellFormed) (hs : r.rename? old name = some s) :
    ∃ before m after, r.members = before ++ m :: after ∧ Text.alike m.nick old = true ∧
      (name ≠ "" ∧ ∀ a ∈ before ++ after, Text.alike name a.nick = false) ∧
      s = { r with members := before ++ ⟨name, m.rank⟩ :: after } := by
  have hgranted : r.rename? old name ≠ none := by rw [hs]; exact Option.some_ne_none s
  rw [ne_eq, rename?_eq_none_iff, not_or, not_or] at hgranted
  obtain ⟨hnamed, hfree, -⟩ := hgranted
  unfold Roster.rename? at hs
  split at hs
  · cases hs
  · obtain ⟨before, m, after, hmembers, halike, hothers, rfl⟩ := h.modify?_eq_some hs
    refine ⟨before, m, after, hmembers, halike, ⟨hnamed, fun a ha => ?_⟩, rfl⟩
    have hmem : a ∈ r.members := by
      rw [hmembers]
      rcases List.mem_append.1 ha with ha | ha
      · exact List.mem_append_left _ ha
      · exact List.mem_append_right _ (List.mem_cons_of_mem m ha)
    rw [Text.alike_comm, ← Bool.not_eq_true]
    exact fun hname => hfree ⟨a, hmem, hname, hothers a ha⟩

/-! ### All requests -/

/-- **One request keeps a roster well formed.** -/
theorem wellFormed_attempt? (h : r.WellFormed) {q : Request} (hs : r.attempt? q = some s) :
    s.WellFormed := by
  cases q with
  | add nick rank => exact h.add? hs
  | addEntry entry => exact h.add? hs
  | remove nick => exact h.remove? hs
  | rename old name =>
    obtain ⟨before, m, after, hmembers, -, ⟨hnamed, hothers⟩, rfl⟩ := h.rename?_eq_some hs
    exact h.replace hmembers hnamed hothers
  | setRank nick rank => exact h.setRank? hs
  | clear => exact Option.some.inj hs ▸ wellFormed_empty
  | scrollUp | scrollDown | settle => exact Option.some.inj hs ▸ { h with }

theorem wellFormed_answer (h : r.WellFormed) (q : Request) : (r.answer q).WellFormed := by
  unfold answer
  cases hs : r.attempt? q with
  | none => exact h
  | some s => exact wellFormed_attempt? h hs

/-- All requests do. -/
theorem wellFormed_run (h : r.WellFormed) (requests : List Request) : (r.run requests).WellFormed := by
  induction requests generalizing r with
  | nil => exact h
  | cons q requests ih => exact ih (wellFormed_answer h q)

/-! ### The order of storage -/

/-- Two rosters store the same members, each in an order of its own, and their panels stand at the same
place. -/
structure Same (r s : Roster) : Prop where
  members : r.members.Perm s.members
  top : r.top = s.top

namespace Same

theorem wellFormed (h : Same r s) (hr : r.WellFormed) : s.WellFormed :=
  hr.of_perm h.members.symm

theorem contains (h : Same r s) (nick : String) : r.contains nick = s.contains nick := by
  rw [Bool.eq_iff_iff, contains_iff, contains_iff]
  simp only [h.members.mem_iff]

theorem position?_eq_none (h : Same r s) (hr : r.position? nick = none) : s.position? nick = none :=
  position?_eq_none_iff.2 fun m hm => position?_eq_none_iff.1 hr m (h.members.mem_iff.2 hm)

/-- A nick stands for the same member in both, wherever each stores it and the others. -/
theorem exists_split (h : Same r s) (hr : r.WellFormed) {i : Nat} (hi : r.position? nick = some i) :
    ∃ m before after before' after', (r.members = before ++ m :: after ∧ before.length = i) ∧
      (s.members = before' ++ m :: after' ∧ s.position? nick = some before'.length) ∧
      (before ++ after).Perm (before' ++ after') := by
  obtain ⟨before, m, after, hmembers, hlength, halike, hothers⟩ := hr.exists_split hi
  have hcontains : s.contains nick = true := by
    rw [← h.contains, Roster.contains, hi, Option.isSome_some]
  obtain ⟨j, hj⟩ := Option.isSome_iff_exists.1 hcontains
  obtain ⟨before', m', after', hmembers', rfl, halike', -⟩ := (h.wellFormed hr).exists_split hj
  obtain rfl : m' = m := by
    have hmem : m' ∈ before ++ m :: after := by
      rw [← hmembers, h.members.mem_iff, hmembers']
      exact List.mem_append_right _ List.mem_cons_self
    rcases List.mem_cons.1 (List.perm_middle.mem_iff.1 hmem) with heq | hother
    · exact heq
    · exact absurd halike' (by rw [hothers m' hother]; exact Bool.false_ne_true)
  have hperm : (before ++ m' :: after).Perm (before' ++ m' :: after') :=
    hmembers ▸ hmembers' ▸ h.members
  exact ⟨m', before, after, before', after', ⟨hmembers, hlength⟩, ⟨hmembers', hj⟩,
    (List.perm_middle.symm.trans (hperm.trans List.perm_middle)).cons_inv⟩

theorem add? (h : Same r s) (m : Member) : Option.Rel Same (r.add? m) (s.add? m) := by
  rw [Roster.add?, Roster.add?, h.contains]
  split
  · exact .none
  · exact .some ⟨h.members.append_right [m], h.top⟩

theorem modify? (h : Same r s) (hr : r.WellFormed) (nick : String) (f : Member → Member) :
    Option.Rel Same (r.modify? nick f) (s.modify? nick f) := by
  cases hi : r.position? nick with
  | none =>
    rw [Roster.modify?, Roster.modify?, hi, h.position?_eq_none hi]
    exact .none
  | some i =>
    obtain ⟨m, before, after, before', after', ⟨hmembers, rfl⟩, ⟨hmembers', hj⟩, hothers⟩ :=
      h.exists_split hr hi
    rw [Roster.modify?, Roster.modify?, hi, hj, Option.map_some, Option.map_some, hmembers, hmembers',
      modify_middle, modify_middle]
    exact .some ⟨List.perm_middle.trans ((hothers.cons _).trans List.perm_middle.symm), h.top⟩

theorem remove? (h : Same r s) (hr : r.WellFormed) (nick : String) :
    Option.Rel Same (r.remove? nick) (s.remove? nick) := by
  cases hi : r.position? nick with
  | none =>
    rw [Roster.remove?, Roster.remove?, hi, h.position?_eq_none hi]
    exact .none
  | some i =>
    obtain ⟨m, before, after, before', after', ⟨hmembers, rfl⟩, ⟨hmembers', hj⟩, hothers⟩ :=
      h.exists_split hr hi
    rw [Roster.remove?, Roster.remove?, hi, hj, Option.map_some, Option.map_some, hmembers, hmembers']
    exact .some ⟨(swapRemove_perm ..).trans (hothers.trans (swapRemove_perm ..).symm), h.top⟩

theorem rename? (h : Same r s) (hr : r.WellFormed) (old name : String) :
    Option.Rel Same (r.rename? old name) (s.rename? old name) := by
  rw [Roster.rename?, Roster.rename?, h.contains]
  split
  · exact .none
  · exact h.modify? hr old _

theorem settle (h : Same r s) (height : Nat) : Same (r.settle height) (s.settle height) := by
  refine ⟨h.members, ?_⟩
  rw [Roster.settle, Roster.settle, size, size, h.members.length_eq, h.top]

/-- **The order in which members are stored has no say in what is asked next**: what is refused of the one
roster is refused of the other, and what is not leaves the same members. -/
theorem attempt? (h : Same r s) (hr : r.WellFormed) (q : Request) :
    Option.Rel Same (r.attempt? q) (s.attempt? q) := by
  cases q with
  | add nick rank => exact h.add? _
  | addEntry entry => exact h.add? _
  | remove nick => exact h.remove? hr nick
  | rename old name => exact h.rename? hr old name
  | setRank nick rank => exact h.modify? hr nick _
  | clear => exact .some ⟨.nil, rfl⟩
  | scrollUp => exact .some ⟨h.members, congrArg (· - scrollStep) h.top⟩
  | scrollDown => exact .some ⟨h.members, congrArg (· + scrollStep) h.top⟩
  | settle height => exact .some (h.settle height)

theorem answer (h : Same r s) (hr : r.WellFormed) (q : Request) : Same (r.answer q) (s.answer q) := by
  have hattempt := h.attempt? hr q
  unfold Roster.answer
  cases hleft : r.attempt? q <;> cases hright : s.attempt? q <;> rw [hleft, hright] at hattempt <;>
    cases hattempt
  · exact h
  · assumption

theorem run (h : Same r s) (hr : r.WellFormed) (requests : List Request) :
    Same (r.run requests) (s.run requests) := by
  induction requests generalizing r s with
  | nil => exact h
  | cons q requests ih => exact ih (h.answer hr q) (wellFormed_answer hr q)

end Same

end Roster
end ChatConsole
