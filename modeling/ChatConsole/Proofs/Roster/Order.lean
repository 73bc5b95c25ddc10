/-
# The order of a roster

Members are shown by rank, and those of one rank by nick, letter case aside.  As no two nicks are alike,
one of two members always comes before the other (`Member.precedes_of_le`).  So there is one order of some
members, in whatever order they are stored (`sorted_eq_of_perm`), and with it go their numbers, the width
of the panel and what is drawn on it (`run_shows`).
-/

import ChatConsole.Proofs.Roster.Members

namespace ChatConsole

/-! ### One member before another -/

namespace Rank

theorem level_injective {a b : Rank} (h : a.level = b.level) : a = b := by
  cases a <;> cases b <;> first | rfl | cases h

end Rank

namespace Member

variable {a b : Member}

/-- One member comes before another: it has a higher rank, or the same and the smaller nick, letter by
letter, a nick coming before its extensions. -/
def Precedes (a b : Member) : Prop :=
  a.rank.level < b.rank.level ∨ a.rank = b.rank ∧ Text.folded a.nick < Text.folded b.nick

theorem le_iff : le a b = true ↔
    a.rank.level < b.rank.level ∨
      a.rank.level = b.rank.level ∧ ¬Text.folded b.nick < Text.folded a.nick := by
  rw [le, Bool.or_eq_true, Bool.and_eq_true, decide_eq_true_eq, beq_iff_eq, Bool.not_eq_true',
    decide_eq_false_iff_not]

theorem le_trans (a b c : Member) (hab : le a b = true) (hbc : le b c = true) : le a c = true := by
  rw [le_iff] at hab hbc ⊢
  rcases hab with hab | ⟨hab, hnick⟩ <;> rcases hbc with hbc | ⟨hbc, hnick'⟩
  · exact Or.inl (Nat.lt_trans hab hbc)
  · exact Or.inl (hbc ▸ hab)
  · exact Or.inl (hab ▸ hbc)
  · have hle := List.le_trans (List.not_lt.1 hnick) (List.not_lt.1 hnick')
    exact Or.inr ⟨hab.trans hbc, List.not_lt.2 hle⟩

theorem le_total (a b : Member) : (le a b || le b a) = true := by
  rw [Bool.or_eq_true, le_iff, le_iff]
  rcases Nat.lt_trichotomy a.rank.level b.rank.level with hlt | heq | hgt
  · exact Or.inl (Or.inl hlt)
  · by_cases hnick : Text.folded b.nick < Text.folded a.nick
    · exact Or.inr (Or.inr ⟨heq.symm, List.lt_asymm hnick⟩)
    · exact Or.inl (Or.inr ⟨heq, hnick⟩)
  · exact Or.inr (Or.inl hgt)

theorem precedes_of_le (h : le a b = true) (hnick : Text.alike a.nick b.nick = false) :
    Precedes a b := by
  rw [← Bool.not_eq_true, Text.alike_iff] at hnick
  rcases le_iff.1 h with hrank | ⟨hrank, hle⟩
  · exact Or.inl hrank
  · refine Or.inr ⟨Rank.level_injective hrank, Classical.byContradiction fun hlt => hnick ?_⟩
    exact List.le_antisymm (List.not_lt.1 hle) (List.not_lt.1 hlt)

/-- Of two members one at most comes before the other. -/
theorem Precedes.asymm (hab : Precedes a b) : ¬Precedes b a := by
  intro hba
  rcases hab with hab | ⟨hrank, hab⟩ <;> rcases hba with hba | ⟨hrank', hba⟩
  · exact Nat.lt_asymm hab hba
  · exact absurd (congrArg Rank.level hrank') (Nat.ne_of_gt hab)
  · exact absurd (congrArg Rank.level hrank) (Nat.ne_of_gt hba)
  · exact List.lt_asymm hab hba

end Member

namespace Roster

variable {r s : Roster}

/-! ### The order in which the members are shown -/

theorem sorted_perm (r : Roster) : r.sorted.Perm r.members :=
  List.mergeSort_perm ..

/-- Each member is shown before those behind it in the order. -/
theorem WellFormed.pairwise_sorted (h : r.WellFormed) : r.sorted.Pairwise Member.Precedes := by
  have hle : (r.members.mergeSort Member.le).Pairwise fun a b => Member.le a b = true :=
    List.pairwise_mergeSort Member.le_trans Member.le_total _
  have hdistinct : r.sorted.Pairwise fun a b => Text.alike a.nick b.nick = false :=
    r.sorted_perm.symm.pairwise h.distinct fun h => Text.alike_comm .. ▸ h
  exact (hle.and hdistinct).imp fun ⟨hle, hnick⟩ => Member.precedes_of_le hle hnick

/-- The order in which the members are stored has no say. -/
theorem sorted_eq_of_perm (hr : r.WellFormed) (hs : s.WellFormed) (h : s.members.Perm r.members) :
    s.sorted = r.sorted := by
  refine List.Perm.eq_of_pairwise (fun a b _ _ hab hba => absurd hba hab.asymm) hs.pairwise_sorted
    hr.pairwise_sorted ?_
  exact (s.sorted_perm.trans h).trans r.sorted_perm.symm

/-! ### The same members -/

theorem WellFormed.nodup (h : r.WellFormed) : r.members.Nodup := by
  refine h.distinct.imp ?_
  rintro a b hnick rfl
  rw [Text.alike_refl] at hnick
  cases hnick

theorem perm_of_mem_iff (hr : r.WellFormed) (hs : s.WellFormed)
    (h : ∀ m, m ∈ s.members ↔ m ∈ r.members) : s.members.Perm r.members :=
  (List.perm_ext_iff_of_nodup hs.nodup hr.nodup).2 h

theorem count_eq_of_perm (h : s.members.Perm r.members) (rank : Rank) : s.count rank = r.count rank :=
  h.countP_eq _

theorem size_eq_of_perm (h : s.members.Perm r.members) : s.size = r.size :=
  h.length_eq

theorem panelWidth_eq_of_perm (h : s.members.Perm r.members) : s.panelWidth = r.panelWidth := by
  have hlongest := (h.map fun m => Text.columnsOf m.nick.toList).foldl_eq' (f := max)
    (fun _ _ _ _ _ => Nat.max_right_comm ..) 0
  rw [panelWidth, panelWidth, hlongest]

/-- A panel shows so many members of the order from its top on. -/
theorem draw_eq_of_sorted (hsorted : s.sorted = r.sorted) (hsize : s.size = r.size)
    (htop : s.top = r.top) (g : Grid) (height : Nat) : (s.draw g height).2 = (r.draw g height).2 := by
  have hsettled : (s.settle height).top = (r.settle height).top := by
    rw [settle, settle, hsize, htop]
  have hpage : (s.settle height).page height = (r.settle height).page height := by
    show (s.sorted.drop (s.settle height).top).take height
      = (r.sorted.drop (r.settle height).top).take height
    rw [hsorted, hsettled]
  rw [draw, draw, hpage]

/-! ### Numbers -/

/-- Each member has one of the ranks. -/
theorem count_sum (r : Roster) :
    r.count .owner + r.count .superOp + r.count .op + r.count .halfOp + r.count .voice + r.count .normal
      = r.size := by
  unfold count size
  induction r.members with
  | nil => rfl
  | cons m members ih =>
    simp only [List.countP_cons, List.length_cons]
    cases m.rank <;> simp <;> omega

/-! ### Rosters -/

/-- **What a roster shows.**  Whatever was asked of a roster, no nick is empty and no two are alike.  A
member that is renamed keeps its rank, and it is not given an empty nick or one that is alike another
member's.  Each member is counted at its rank.  The members are shown by rank and nick, each before those
behind it in this order.  Any other roster of the same members, however it came about and in whatever
order it stores them, shows them in the same order, has the same numbers and asks for the same width.  Where
its panel stands at the same place, the same is drawn on it, and both go on alike, whatever more is asked of
them. -/
theorem run_shows (requests : List Request) :
    let r := run {} requests
    r.WellFormed ∧
      (∀ old name,
        (r.rename? old name = none ↔ name = "" ∨
          (∃ m ∈ r.members, Text.alike m.nick name = true ∧ Text.alike m.nick old = false) ∨
          ∀ m ∈ r.members, Text.alike m.nick old = false) ∧
        ∀ s, r.rename? old name = some s → ∃ before m after, r.members = before ++ m :: after ∧
          Text.alike m.nick old = true ∧ s = { r with members := before ++ ⟨name, m.rank⟩ :: after }) ∧
      r.count .owner + r.count .superOp + r.count .op + r.count .halfOp + r.count .voice
          + r.count .normal = r.size ∧
      (r.sorted.Perm r.members ∧ r.sorted.Pairwise Member.Precedes) ∧
      ∀ s : Roster, s.WellFormed → (∀ m, m ∈ s.members ↔ m ∈ r.members) →
        s.sorted = r.sorted ∧ (∀ rank, s.count rank = r.count rank) ∧ s.size = r.size ∧
        s.panelWidth = r.panelWidth ∧
        (s.top = r.top → (∀ g height, (s.draw g height).2 = (r.draw g height).2) ∧
          ∀ more, (s.run more).sorted = (r.run more).sorted) := by
  intro r
  have h : r.WellFormed := wellFormed_run wellFormed_empty requests
  refine ⟨h, fun old name => ⟨rename?_eq_none_iff, fun s hs => ?_⟩, r.count_sum,
    ⟨r.sorted_perm, h.pairwise_sorted⟩, fun s hs hsame => ?_⟩
  · obtain ⟨before, m, after, hmembers, halike, -, hrenamed⟩ := h.rename?_eq_some hs
    exact ⟨before, m, after, hmembers, halike, hrenamed⟩
  · have hperm := perm_of_mem_iff h hs hsame
    have hsorted := sorted_eq_of_perm h hs hperm
    refine ⟨hsorted, count_eq_of_perm hperm, size_eq_of_perm hperm, panelWidth_eq_of_perm hperm,
      fun htop => ⟨draw_eq_of_sorted hsorted (size_eq_of_perm hperm) htop, fun more => ?_⟩⟩
    have hgoes : Same (s.run more) (r.run more) := Same.run ⟨hperm, htop⟩ hs more
    exact sorted_eq_of_perm (wellFormed_run h more) (wellFormed_run hs more) hgoes.members

/-- Two rosters come about differently and store their three members in different orders. -/
theorem run_shows_two_ways :
    let r := run {} [.addEntry "@alice", .add "Bob" .normal, .add "carol" .voice, .rename "BOB" "bob"]
    let s := run {} [.add "carol" .normal, .add "x" .op, .setRank "Carol" .voice, .add "bob" .normal,
      .addEntry "@alice", .remove "X"]
    s.members ≠ r.members ∧ (∀ m, m ∈ s.members ↔ m ∈ r.members) ∧ s.sorted = r.sorted ∧
      s.panelWidth = r.panelWidth ∧ ∀ g height, (s.draw g height).2 = (r.draw g height).2 := by
  intro r s
  have hperm : s.members.Perm r.members := by decide +kernel
  have hdiffer : s.members ≠ r.members := by decide +kernel
  have htop : s.top = r.top := by decide +kernel
  have hsame : ∀ m, m ∈ s.members ↔ m ∈ r.members := fun _ => hperm.mem_iff
  obtain ⟨-, -, -, -, hshows⟩ := run_shows [.addEntry "@alice", .add "Bob" .normal, .add "carol" .voice,
    .rename "BOB" "bob"]
  obtain ⟨hsorted, -, -, hwidth, hdraw⟩ := hshows s (wellFormed_run wellFormed_empty _) hsame
  exact ⟨hdiffer, hsame, hsorted, hwidth, (hdraw htop).1⟩

end Roster
end ChatConsole
