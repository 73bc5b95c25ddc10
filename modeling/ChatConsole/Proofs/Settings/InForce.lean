/-
# What is shown of a setting, and what is in force

What is shown of a setting is what is written under its key, in the general table or else in the theme
(`lookup?_eq`).  What is in force is read from the setting's own table, and only if it is of the right kind
and within its bounds; otherwise it is the default.  So the two agree when nothing is written, and when what
is written first is in the setting's own table and does.  In any other case they agree only if what is
written happens to read as what is in force (`lookup?_eq_inForce_iff`).
-/

import ChatConsole.Settings

namespace ChatConsole

/-! ### Tables -/

namespace Toml
namespace Table

variable {key key' : String} {v : Value}

theorem get?_cons (entry : String × Value) (t : Table) (key : String) :
    get? (entry :: t) key = if entry.1 = key then some entry.2 else get? t key := by
  unfold get?
  by_cases h : entry.1 = key
  · rw [List.find?_cons_of_pos (by simpa using h), if_pos h, Option.map_some]
  · rw [List.find?_cons_of_neg (by simpa using h), if_neg h]

/-- Setting a key changes its value and no other. -/
theorem get?_insert (t : Table) (key key' : String) (v : Value) :
    get? (insert key v t) key' = if key = key' then some v else get? t key' := by
  induction t with
  | nil => exact get?_cons (key, v) [] key'
  | cons entry t ih =>
    obtain ⟨k, w⟩ := entry
    rw [insert]
    split
    · exact get?_cons (key, v) _ key'
    split
    · rename_i hsame
      subst hsame
      rw [get?_cons, get?_cons]
      split <;> rfl
    · rename_i hother
      rw [get?_cons, get?_cons, ih]
      by_cases h : key = key'
      · rw [if_pos h, if_pos h, if_neg fun hk => hother (h.trans hk.symm)]
      · rw [if_neg h, if_neg h]

end Table
end Toml

namespace Settings

open Toml (Table Value)

variable {s : Settings} {key text : String} {b : Bounded} {v : Value}

/-! ### Changes -/

/-- The two tables of settings. -/
inductive Part where
  | general
  | theme
  deriving DecidableEq, Repr

/-- The table of a part. -/
def table (s : Settings) : Part → Table
  | .general => s.general
  | .theme => s.theme

/-- A value set under a key. -/
structure Change where
  part : Part
  key : String
  value : Value

/-- Set a value. -/
def change (s : Settings) (c : Change) : Settings :=
  match c.part with
  | .general => s.setGeneral c.key c.value
  | .theme => s.setTheme c.key c.value

/-- Set one value after another. -/
def run (s : Settings) (changes : List Change) : Settings :=
  changes.foldl change s

/-- The value that a change sets under a key, if it does. -/
def Change.valueAt? (part : Part) (key : String) (c : Change) : Option Value :=
  if c.part = part ∧ c.key = key then some c.value else none

theorem table_change (s : Settings) (c : Change) (part : Part) :
    (s.change c).table part
      = if c.part = part then (s.table part).insert c.key c.value else s.table part := by
  unfold change
  cases c.part <;> cases part <;> rfl

theorem get?_change (s : Settings) (c : Change) (part : Part) (key : String) :
    ((s.change c).table part).get? key = (c.valueAt? part key).or ((s.table part).get? key) := by
  rw [table_change, Change.valueAt?]
  by_cases hpart : c.part = part
  · rw [if_pos hpart, Toml.Table.get?_insert]
    by_cases hkey : c.key = key
    · rw [if_pos hkey, if_pos ⟨hpart, hkey⟩, Option.some_or]
    · rw [if_neg hkey, if_neg fun h => hkey h.2, Option.none_or]
  · rw [if_neg hpart, if_neg fun h => hpart h.1, Option.none_or]

/-- Of all that is set under a key, the last stays. -/
theorem get?_run (s : Settings) (changes : List Change) (part : Part) (key : String) :
    ((s.run changes).table part).get? key
      = (changes.filterMap (·.valueAt? part key)).getLast?.or ((s.table part).get? key) := by
  induction changes generalizing s with
  | nil => rfl
  | cons c changes ih =>
    have hrun : s.run (c :: changes) = (s.change c).run changes := rfl
    rw [hrun, ih, get?_change, List.filterMap_cons]
    cases c.valueAt? part key with
    | none => rfl
    | some v =>
      rw [List.getLast?_cons]
      cases (changes.filterMap (·.valueAt? part key)).getLast? <;> rfl

/-! ### What is shown -/

/-- A value as it is shown: a text by itself, and any other value as a settings file has it. -/
def shown (v : Value) : String :=
  v.asString?.getD v.text

/-- What is written under a key, in the general table or else in the theme. -/
def written? (s : Settings) (key : String) : Option Value :=
  (s.general.get? key).or (s.theme.get? key)

/-- What is shown under a key under which nothing is written. -/
def unwritten? (key : String) : Option String :=
  (themeDefault? key).or ((bounded.find? (·.key == key)).map fun b => toString b.default)

theorem lookup?_eq (s : Settings) (key : String) :
    s.lookup? key = ((s.written? key).map shown).or (unwritten? key) := by
  unfold lookup? written? unwritten?
  cases s.general.get? key with
  | some v => rfl
  | none =>
    cases s.theme.get? key with
    | some v => rfl
    | none => cases themeDefault? key <;> rfl

theorem shown_integer (n : Int) : shown (.integer n) = toString n :=
  String.ofList_toList

/-! ### What is in force -/

/-- Whether a value is a number within the bounds. -/
def Bounded.Admits (b : Bounded) (v : Value) : Prop :=
  ∃ n, v = .integer n ∧ b.low ≤ n ∧ n ≤ b.high

theorem boundedIn_of_admits {t : Table} {n : Int} (h : t.get? b.key = some (.integer n))
    (hlow : b.low ≤ n) (hhigh : n ≤ b.high) : boundedIn t b = n := by
  unfold boundedIn
  rw [h]
  exact if_pos ⟨hlow, hhigh⟩

theorem boundedIn_of_none {t : Table} (h : t.get? b.key = none) : boundedIn t b = b.default := by
  unfold boundedIn
  rw [h]
  rfl

theorem boundedIn_of_not_admits {t : Table} (h : t.get? b.key = some v) (hv : ¬ b.Admits v) :
    boundedIn t b = b.default := by
  unfold boundedIn
  rw [h, Option.bind_some]
  cases v with
  | integer n => exact if_neg fun hbounds => hv ⟨n, rfl, hbounds⟩
  | _ => rfl

/-- A value in the table of a bounded number reads as what is in force if it is a number within the bounds,
or else reads as the default. -/
theorem shown_eq_boundedIn_iff {t : Table} (h : t.get? b.key = some v) :
    shown v = toString (boundedIn t b) ↔ b.Admits v ∨ shown v = toString b.default := by
  by_cases hv : b.Admits v
  · obtain ⟨n, rfl, hlow, hhigh⟩ := hv
    rw [boundedIn_of_admits h hlow hhigh, shown_integer]
    exact iff_of_true rfl (Or.inl ⟨n, rfl, hlow, hhigh⟩)
  · rw [boundedIn_of_not_admits h hv]
    exact ⟨Or.inr, fun hcases => hcases.resolve_left hv⟩

theorem themeText_of_none (h : s.theme.get? key = none) (hdefault : themeDefault? key = some text) :
    s.themeText key = text := by
  unfold themeText
  rw [h, hdefault]
  rfl

/-- A value in the theme reads as what is in force if it is a text, or else reads as the default. -/
theorem shown_eq_themeText_iff (h : s.theme.get? key = some v) (hdefault : themeDefault? key = some text) :
    shown v = s.themeText key ↔ (∃ written, v = .string written) ∨ shown v = text := by
  unfold themeText
  rw [h, hdefault, Option.bind_some]
  cases v with
  | string written => exact iff_of_true rfl (Or.inl ⟨written, rfl⟩)
  | _ => simp [Value.asString?]

/-! ### What is shown and what is in force -/

/-- What is shown is in force if what is written first reads as that, or nothing is written and the default
is in force. -/
theorem lookup?_eq_some_iff {default inForce : String} (hdefault : unwritten? key = some default) :
    s.lookup? key = some inForce ↔
      (∀ v, s.general.get? key = some v → shown v = inForce) ∧
      (s.general.get? key = none → ∀ v, s.theme.get? key = some v → shown v = inForce) ∧
      (s.general.get? key = none → s.theme.get? key = none → default = inForce) := by
  rw [lookup?_eq, written?, hdefault]
  cases s.general.get? key with
  | some v => simp
  | none => cases s.theme.get? key <;> simp

theorem unwritten?_of_themeDefault? (h : themeDefault? key = some text) : unwritten? key = some text := by
  rw [unwritten?, h, Option.some_or]

theorem unwritten?_bounded : ∀ b ∈ bounded, unwritten? b.key = some (toString b.default) := by
  decide +kernel

theorem lookup?_eq_themeText_iff (hdefault : themeDefault? key = some text) :
    s.lookup? key = some (s.themeText key) ↔
      (∀ v, s.general.get? key = some v → shown v = s.themeText key) ∧
      (s.general.get? key = none → ∀ v, s.theme.get? key = some v →
        (∃ written, v = .string written) ∨ shown v = text) := by
  rw [lookup?_eq_some_iff (unwritten?_of_themeDefault? hdefault)]
  constructor
  · rintro ⟨hgeneral, htheme, -⟩
    exact ⟨hgeneral, fun hnone v hv => (shown_eq_themeText_iff hv hdefault).1 (htheme hnone v hv)⟩
  · rintro ⟨hgeneral, htheme⟩
    refine ⟨hgeneral, fun hnone v hv => ?_, fun _ hunset => ?_⟩
    · exact (shown_eq_themeText_iff hv hdefault).2 (htheme hnone v hv)
    · exact (themeText_of_none hunset hdefault).symm

theorem lookup?_eq_integer_iff (hb : b ∈ bounded) :
    s.lookup? b.key = some (toString (s.integer b)) ↔
      (∀ v, s.general.get? b.key = some v → b.Admits v ∨ shown v = toString b.default) ∧
      (s.general.get? b.key = none → ∀ v, s.theme.get? b.key = some v →
        shown v = toString b.default) := by
  rw [lookup?_eq_some_iff (unwritten?_bounded b hb), integer]
  constructor
  · rintro ⟨hgeneral, htheme, -⟩
    refine ⟨fun v hv => (shown_eq_boundedIn_iff hv).1 (hgeneral v hv), fun hnone v hv => ?_⟩
    rw [htheme hnone v hv, boundedIn_of_none hnone]
  · rintro ⟨hgeneral, htheme⟩
    refine ⟨fun v hv => (shown_eq_boundedIn_iff hv).2 (hgeneral v hv), fun hnone v hv => ?_,
      fun hnone _ => ?_⟩
    · rw [htheme hnone v hv, boundedIn_of_none hnone]
    · rw [boundedIn_of_none hnone]

theorem lookup?_eq_themeInteger_iff (hb : b ∈ bounded) :
    s.lookup? b.key = some (toString (s.themeInteger b)) ↔
      (∀ v, s.general.get? b.key = some v → shown v = toString (s.themeInteger b)) ∧
      (s.general.get? b.key = none → ∀ v, s.theme.get? b.key = some v →
        b.Admits v ∨ shown v = toString b.default) := by
  rw [lookup?_eq_some_iff (unwritten?_bounded b hb), themeInteger]
  constructor
  · rintro ⟨hgeneral, htheme, -⟩
    exact ⟨hgeneral, fun hnone v hv => (shown_eq_boundedIn_iff hv).1 (htheme hnone v hv)⟩
  · rintro ⟨hgeneral, htheme⟩
    refine ⟨hgeneral, fun hnone v hv => (shown_eq_boundedIn_iff hv).2 (htheme hnone v hv), fun _ hunset => ?_⟩
    rw [boundedIn_of_none hunset]

/-- **When the value shown for a setting is the one in force.**  Take any settings, and set any values in
either table.  Under each key of a table stands what was set there last, or else what was there before.
What is shown of a key is what is written under it, in the general table or else in the theme, and the
default if there is nothing.  This is what is in force in the following cases, and in no others:
* for a text of the theme, when the general table has nothing that reads otherwise and the theme, if the
  general table has nothing, has a text, or something that reads as the default, or nothing;
* for a number of the general table, when this table has a number within the bounds, or something that reads
  as the default, or when it has nothing and neither has the theme, but for what reads as the default;
* for a number of the theme, when the general table has nothing that reads otherwise and the theme, if the
  general table has nothing, has a number within the bounds, or something that reads as the default, or
  nothing. -/
theorem shown_inForce_run (s : Settings) (changes : List Change) :
    let s' := s.run changes
    (∀ part key, (s'.table part).get? key
        = (changes.filterMap (·.valueAt? part key)).getLast?.or ((s.table part).get? key)) ∧
      (∀ key, s'.lookup? key = ((s'.written? key).map shown).or (unwritten? key)) ∧
      (∀ key text, themeDefault? key = some text →
        (s'.lookup? key = some (s'.themeText key) ↔
          (∀ v, s'.general.get? key = some v → shown v = s'.themeText key) ∧
          (s'.general.get? key = none → ∀ v, s'.theme.get? key = some v →
            (∃ written, v = .string written) ∨ shown v = text))) ∧
      (∀ b ∈ [backlogCapacity, windowLimit],
        (s'.lookup? b.key = some (toString (s'.integer b)) ↔
          (∀ v, s'.general.get? b.key = some v → b.Admits v ∨ shown v = toString b.default) ∧
          (s'.general.get? b.key = none → ∀ v, s'.theme.get? b.key = some v →
            shown v = toString b.default))) ∧
      (s'.lookup? termBackground.key = some (toString (s'.themeInteger termBackground)) ↔
        (∀ v, s'.general.get? termBackground.key = some v →
          shown v = toString (s'.themeInteger termBackground)) ∧
        (s'.general.get? termBackground.key = none → ∀ v, s'.theme.get? termBackground.key = some v →
          termBackground.Admits v ∨ shown v = toString termBackground.default)) := by
  intro s'
  refine ⟨get?_run s changes, lookup?_eq s', fun key text => lookup?_eq_themeText_iff, ?_, ?_⟩
  · intro b hb
    have hbounded : b ∈ bounded := by
      rcases List.mem_cons.1 hb with rfl | hb
      · exact List.mem_cons_self
      · rw [List.mem_singleton.1 hb]
        exact List.mem_cons_of_mem _ List.mem_cons_self
    exact lookup?_eq_integer_iff hbounded
  · exact lookup?_eq_themeInteger_iff (List.mem_cons_of_mem _ (List.mem_cons_of_mem _ List.mem_cons_self))

/-- A number outside of its bounds is shown, and the default is in force; a text of the theme that stands in
the general table is shown, and the default is in force. -/
theorem shown_not_inForce :
    (∃ s, read? "[general]\nmax_chat_windows = 5\n" = some s ∧
        s.lookup? windowLimit.key = some "5" ∧ s.integer windowLimit = 60) ∧
      ∃ s, read? "[general]\nstatusbar_bg = \"red\"\n" = some s ∧
        s.lookup? "statusbar_bg" = some "red" ∧ s.themeText "statusbar_bg" = "black" := by
  have hnumber : (read? "[general]\nmax_chat_windows = 5\n").map
      (fun s => (s.lookup? windowLimit.key, s.integer windowLimit)) = some (some "5", 60) := by
    decide +kernel
  have htext : (read? "[general]\nstatusbar_bg = \"red\"\n").map
      (fun s => (s.lookup? "statusbar_bg", s.themeText "statusbar_bg")) = some (some "red", "black") := by
    decide +kernel
  obtain ⟨s, hs, hvalues⟩ := Option.map_eq_some_iff.1 hnumber
  obtain ⟨s', hs', hvalues'⟩ := Option.map_eq_some_iff.1 htext
  exact ⟨⟨s, hs, Prod.mk.inj hvalues⟩, ⟨s', hs', Prod.mk.inj hvalues'⟩⟩

end Settings
end ChatConsole
