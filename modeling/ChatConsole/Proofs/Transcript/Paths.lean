/-
# Where transcripts are kept

The label of a window may be any text, and so it is cleaned before it becomes part of the name of a file.
The name of a transcript has three parts (`IsName`): the lowercase form of the server's name, the digit of
the kind of window and what is left of the label.  No part has a slash, if the server's name has none, so
that the name is one step below the directory (`steps_join`); what a name begins with tells its kind of
window (`kind_eq_of_isName`); and what is left of a label depends on the label up to the case of its ASCII
letters (`file?_congr`).
-/

import ChatConsole.Proofs.Text.Ascii
import ChatConsole.Proofs.Text.Lowercase
import ChatConsole.Transcript

namespace ChatConsole

/-! ### Paths -/

namespace Places

variable {directory name : List Char}

/-- Whether a name leads anywhere from a directory. -/
def leads (name : List Char) : Bool :=
  name != [] && name != ['.']

/-- What counts of the names along a path.  The first one says where the path begins, and always counts;
the others count if they lead anywhere. -/
def counted (names : List (List Char)) : List (List Char) :=
  names.take 1 ++ (names.drop 1).filter leads

/-- The steps along a path.  The first step of a path from the root is empty. -/
def steps : List Char → List (List Char)
  | [] => []
  | c :: cs => counted ((c :: cs).splitOn '/')

theorem steps_eq (h : directory ≠ []) : steps directory = counted (directory.splitOn '/') := by
  cases directory with
  | nil => exact absurd rfl h
  | cons c cs => rfl

theorem leads_nil : leads [] = false := rfl

theorem counted_concat {names : List (List Char)} (hnames : names ≠ []) (name : List Char) :
    counted (names ++ [name]) = counted names ++ if leads name then [name] else [] := by
  have hlength : 1 ≤ names.length := List.length_pos_iff.2 hnames
  rw [counted, counted, List.take_append_of_le_length hlength, List.drop_append_of_le_length hlength,
    List.filter_append, List.append_assoc, List.filter_cons, List.filter_nil]

/-- A name behind a slash counts if it leads anywhere. -/
theorem steps_slash (hname : '/' ∉ name) (directory : List Char) :
    steps (directory ++ '/' :: name)
      = counted (directory.splitOn '/') ++ if leads name then [name] else [] := by
  rw [steps_eq (by simp), List.splitOn_append_cons_self, List.splitOn_eq_singleton hname,
    counted_concat (List.splitOn_ne_nil _ _)]

/-- A name without a slash is one step below a directory. -/
theorem steps_join {name : String} (hname : '/' ∉ name.toList) (hleads : leads name.toList = true)
    (directory : String) :
    steps (join directory name).toList = steps directory.toList ++ [name.toList] := by
  have hne : name.toList ≠ [] := by
    rintro hnil
    rw [hnil] at hleads
    cases hleads
  unfold join
  split
  · rename_i hhead
    exact absurd (List.mem_of_mem_head? hhead) hname
  · rename_i hlast _
    rw [List.getLast?_eq_none_iff.1 hlast, steps_eq hne, List.splitOn_eq_singleton hname]
    rfl
  · rename_i hlast _
    obtain ⟨front, hfront⟩ := List.getLast?_eq_some_iff.1 hlast
    have hpath : (directory ++ name).toList = front ++ '/' :: name.toList := by
      rw [String.toList_append, hfront, List.append_assoc, List.singleton_append]
    rw [hpath, hfront, steps_slash hname, steps_slash List.not_mem_nil, if_pos hleads, leads_nil,
      if_neg Bool.false_ne_true, List.append_nil]
  · rename_i _ hlast _
    have hdirectory : directory.toList ≠ [] := by
      intro hnil
      rw [hnil] at hlast
      cases hlast
    have hpath : (directory ++ "/" ++ name).toList = directory.toList ++ '/' :: name.toList := by
      rw [String.toList_append, String.toList_append, List.append_assoc]
      rfl
    rw [hpath, steps_slash hname, steps_eq hdirectory, if_pos hleads]

/-- A file right in a directory: its path leads there and one step on, to a name that is neither the
directory itself nor the one above. -/
structure IsBelow (directory file path : String) : Prop where
  path_eq : path = join directory file
  steps_eq : steps path.toList = steps directory.toList ++ [file.toList]
  no_slash : '/' ∉ file.toList
  ne_here : file ≠ "."
  ne_above : file ≠ ".."

theorem isBelow_join {file : String} (hslash : '/' ∉ file.toList) (hlength : 2 < file.toList.length)
    (directory : String) : IsBelow directory file (join directory file) := by
  have hleads : leads file.toList = true := by
    simp only [leads, Bool.and_eq_true, bne_iff_ne, ne_eq]
    constructor
    · intro hfile
      rw [hfile] at hlength
      cases hlength
    · intro hfile
      rw [hfile] at hlength
      exact absurd hlength (by decide)
  refine ⟨rfl, steps_join hslash hleads directory, hslash, ?_, ?_⟩
  · rintro rfl
    exact absurd hlength (by decide)
  · rintro rfl
    exact absurd hlength (by decide)

end Places

/-! ### Labels -/

namespace Transcript

variable {host label a b : String} {c : Char} {kind : Kind} {part : List Char}

theorem toNat_lt_of_isKept (hc : isKept c = true) : c.toNat < 0x80 := by
  simp only [isKept, Bool.or_eq_true, beq_iff_eq] at hc
  rcases hc with (((((hletter | rfl) | rfl) | rfl) | rfl) | rfl) | rfl
  · exact Text.toNat_lt_of_isAlphanum hletter
  all_goals decide

theorem ascii_of_all {cs : List Char} (h : cs.all (·.toNat < 0x80) = true) : ∀ c ∈ cs, c.toNat < 0x80 :=
  fun c hc => of_decide_eq_true (List.all_eq_true.1 h c hc)

theorem isKept_toLower (c : Char) : isKept c.toLower = isKept c :=
  Text.toLower_congr (f := isKept) (by decide +kernel) c

/-- Whether a label that begins with a character is a channel's. -/
def isSign (c : Char) : Bool :=
  c == '&' || c == '#' || c == '+' || c == '!'

theorem isSign_toLower (c : Char) : isSign c.toLower = isSign c :=
  Text.toLower_congr (f := isSign) (by decide +kernel) c

/-- The character that stands for one of a label. -/
def cleanedChar (c : Char) : Char :=
  if isKept c then c else '_'

theorem isKept_cleanedChar (c : Char) : isKept (cleanedChar c) = true := by
  unfold cleanedChar
  split
  · assumption
  · rfl

theorem isAlphanum_cleanedChar (c : Char) : (cleanedChar c).isAlphanum = c.isAlphanum := by
  unfold cleanedChar
  split
  · rfl
  · rename_i hnot
    have hnone : c.isAlphanum = false := by
      rw [Bool.eq_false_iff]
      intro hletter
      exact hnot (by simp [isKept, hletter])
    rw [hnone]
    rfl

theorem toLower_cleanedChar (c : Char) : (cleanedChar c).toLower = cleanedChar c.toLower := by
  rw [cleanedChar, cleanedChar, isKept_toLower]
  split <;> rfl

/-- Whether a label has a letter or a digit where it counts. -/
def hasLetter (label : String) : Bool :=
  (label.toList.take maxLabelLength).any Char.isAlphanum

theorem hasLetter_eq (label : String) :
    hasLetter label = ((Text.folded label).take maxLabelLength).any Char.isAlphanum := by
  rw [hasLetter, Text.folded, ← List.map_take, List.any_map]
  congr 1
  funext c
  exact (Text.isAlphanum_toLower c).symm

theorem cleaned?_eq (label : String) :
    cleaned? label = if hasLetter label then
      some (String.ofList ((label.toList.take maxLabelLength).map cleanedChar)) else none := by
  have hletter : ((label.toList.take maxLabelLength).map cleanedChar).any Char.isAlphanum
      = hasLetter label := by
    rw [hasLetter, List.any_map]
    congr 1
    funext c
    exact isAlphanum_cleanedChar c
  rw [← hletter]
  rfl

/-- A label is known by its characters up to their case. -/
theorem isChannelLabel_eq (label : String) :
    Window.isChannelLabel label = (Text.folded label).head?.any isSign := by
  unfold Window.isChannelLabel Text.folded
  cases label.toList with
  | nil => rfl
  | cons c cs => exact (isSign_toLower c).symm

theorem ofLabel_congr (h : Text.alike a b = true) : Kind.ofLabel a = Kind.ofLabel b := by
  have hstatus : Window.isStatusLabel a = Window.isStatusLabel b := by
    rw [Window.isStatusLabel, Window.isStatusLabel, Text.alike, Text.alike, Text.alike_iff.1 h]
  rw [Kind.ofLabel, Kind.ofLabel, hstatus, isChannelLabel_eq, isChannelLabel_eq, Text.alike_iff.1 h]

/-! ### Names of transcripts -/

/-- What the name of a transcript begins with: what is left of the name of the server. -/
def serverPart (host : String) : List Char :=
  Text.lowercase (host.toList.filter fun c => c != '-' && c != '.')

/-- What stands in the name of a transcript for the label of a window. -/
def labelPart (label : String) : List Char :=
  match Kind.ofLabel label with
  | .status => "console".toList
  | _ => ((Text.folded label).take maxLabelLength).map cleanedChar

/-- The name of a transcript from its parts. -/
def nameOf (host : String) (kind : Kind) (part : List Char) : List Char :=
  serverPart host ++ '-' :: (toString kind.digit).toList ++ '.' :: part ++ ".txt".toList

theorem nextIsCased_dash (cs : List Char) : Text.nextIsCased ('-' :: cs) = false := by
  rw [Text.nextIsCased_cons_of_not (by decide +kernel)]
  decide +kernel

/-- What stands behind the name of the server does not change its lowercase form. -/
theorem fileNamed_eq {name : String} (hname : ∀ c ∈ name.toList, c.toNat < 0x80) (host : String)
    (kind : Kind) :
    fileNamed host kind name = String.ofList (nameOf host kind (name.toList.map Char.toLower)) := by
  have hascii : ∀ c ∈ '-' :: (toString kind.digit).toList ++ '.' :: name.toList ++ ".txt".toList,
      c.toNat < 0x80 := by
    intro c hc
    have hkind : ∀ c ∈ (toString kind.digit).toList, c.toNat < 0x80 :=
      ascii_of_all (by cases kind <;> decide)
    have hsuffix : ∀ c ∈ ".txt".toList, c.toNat < 0x80 := ascii_of_all (by decide)
    rcases List.mem_append.1 hc with hc | hc
    · rcases List.mem_append.1 hc with hc | hc
      · rcases List.mem_cons.1 hc with rfl | hc
        · decide
        · exact hkind c hc
      · rcases List.mem_cons.1 hc with rfl | hc
        · decide
        · exact hname c hc
    · exact hsuffix c hc
  have hdigit : (toString kind.digit).toList.map Char.toLower = (toString kind.digit).toList := by
    cases kind <;> decide
  unfold fileNamed nameOf serverPart
  dsimp only
  congr 1
  simp only [List.cons_append, List.append_assoc] at hascii ⊢
  rw [Text.lowercase_append (nextIsCased_dash _), Text.lowercaseFrom_of_ascii hascii]
  simp only [List.map_cons, List.map_append, hdigit]
  rfl

/-- A label is cleaned before its case is dropped, or after that. -/
theorem map_fileNamed_cleaned? (host label : String) (kind : Kind) :
    (cleaned? label).map (fileNamed host kind) = if hasLetter label then
      some (String.ofList (nameOf host kind (((Text.folded label).take maxLabelLength).map cleanedChar)))
      else none := by
  rw [cleaned?_eq]
  split
  · have hkept : ∀ c ∈ (String.ofList ((label.toList.take maxLabelLength).map cleanedChar)).toList,
        c.toNat < 0x80 := by
      intro c hc
      rw [String.toList_ofList] at hc
      obtain ⟨d, -, rfl⟩ := List.mem_map.1 hc
      exact toNat_lt_of_isKept (isKept_cleanedChar d)
    have hfolded : ((label.toList.take maxLabelLength).map cleanedChar).map Char.toLower
        = ((Text.folded label).take maxLabelLength).map cleanedChar := by
      rw [Text.folded, ← List.map_take, List.map_map, List.map_map]
      congr 1
      funext c
      exact toLower_cleanedChar c
    rw [Option.map_some, fileNamed_eq hkept, String.toList_ofList, hfolded]
  · rfl

/-- The transcript of a window has a name, unless the window is not the status window and its label has no
letter and no digit where it counts. -/
theorem file?_eq (host label : String) :
    file? host label = if Kind.ofLabel label = .status ∨ hasLetter label = true then
      some (String.ofList (nameOf host (Kind.ofLabel label) (labelPart label))) else none := by
  unfold file? labelPart
  cases Kind.ofLabel label with
  | status =>
    rw [if_pos (Or.inl rfl)]
    exact congrArg some (fileNamed_eq (ascii_of_all (by decide)) host .status)
  | channel =>
    simp only [reduceCtorEq, false_or]
    exact map_fileNamed_cleaned? host label .channel
  | query =>
    simp only [reduceCtorEq, false_or]
    exact map_fileNamed_cleaned? host label .query

theorem isKept_of_mem_labelPart (hc : c ∈ labelPart label) : isKept c = true := by
  unfold labelPart at hc
  split at hc
  · have hconsole : "console".toList.all isKept = true := by decide
    exact List.all_eq_true.1 hconsole c hc
  · obtain ⟨d, -, rfl⟩ := List.mem_map.1 hc
    exact isKept_cleanedChar d

/-- A label says which transcript it has up to the case of its letters. -/
theorem file?_congr (h : Text.alike a b = true) (host : String) : file? host a = file? host b := by
  have hfolded := Text.alike_iff.1 h
  rw [file?_eq, file?_eq, hasLetter_eq, hasLetter_eq, labelPart, labelPart, ofLabel_congr h, hfolded]

theorem slash_not_mem_nameOf (hhost : '/' ∉ host.toList) (hpart : ∀ c ∈ part, isKept c = true)
    (kind : Kind) : '/' ∉ nameOf host kind part := by
  have hserver : '/' ∉ serverPart host := fun hmem =>
    hhost (List.mem_filter.1 (Text.mem_of_mem_lowercase (by decide) hmem)).1
  have hkind : '/' ∉ (toString kind.digit).toList := by cases kind <;> decide
  have hlabel : '/' ∉ part := fun hmem => absurd (hpart _ hmem) (by decide)
  have hsuffix : '/' ∉ ".txt".toList := by decide
  simp only [nameOf, List.mem_append, List.mem_cons, not_or]
  exact ⟨⟨⟨hserver, by decide, hkind⟩, by decide, hlabel⟩, hsuffix⟩

theorem length_nameOf (host : String) (kind : Kind) (part : List Char) :
    4 < (nameOf host kind part).length := by
  have hsuffix : ".txt".toList.length = 4 := rfl
  simp only [nameOf, List.length_append, List.length_cons, hsuffix]
  omega

theorem toList_digit (kind : Kind) : (toString kind.digit).toList = [Nat.digitChar kind.digit] := by
  cases kind <;> decide

/-- What a name begins with on a server tells the kind of window. -/
theorem kind_eq_of_nameOf {kind' : Kind} {part' : List Char}
    (h : nameOf host kind part = nameOf host kind' part') : kind = kind' := by
  simp only [nameOf, toList_digit, List.append_assoc, List.cons_append, List.append_cancel_left_eq,
    List.cons.injEq, true_and] at h
  have hdigit := h.1
  cases kind <;> cases kind' <;> revert hdigit <;> decide

/-! ### Paths of transcripts -/

theorem path?_eq_none_iff {directory : String} : path? directory host label = none ↔
    Kind.ofLabel label ≠ .status ∧ ∀ c ∈ label.toList.take maxLabelLength, c.isAlphanum = false := by
  rw [path?, Option.map_eq_none_iff, file?_eq, ite_eq_right_iff, hasLetter]
  simp

/-- A transcript is right in the directory, under the name that its parts make. -/
theorem isBelow_of_path? {directory path : String} (hhost : '/' ∉ host.toList)
    (h : path? directory host label = some path) :
    ∃ file, Places.IsBelow directory file path ∧
      file.toList = nameOf host (Kind.ofLabel label) (labelPart label) := by
  obtain ⟨file, hfile, rfl⟩ := Option.map_eq_some_iff.1 h
  rw [file?_eq] at hfile
  split at hfile
  · obtain rfl := Option.some.inj hfile
    have hpart : ∀ c ∈ labelPart label, isKept c = true := fun c => isKept_of_mem_labelPart
    have hslash := slash_not_mem_nameOf hhost hpart (Kind.ofLabel label)
    have hlength := length_nameOf host (Kind.ofLabel label) (labelPart label)
    rw [← String.toList_ofList (l := nameOf _ _ _)] at hslash hlength
    exact ⟨_, Places.isBelow_join hslash (by omega) directory, String.toList_ofList⟩
  · cases hfile

/-- **A transcript stays in its directory and among its kind.**  Let the name of the server have no slash.
A window has no transcript just when it is not the status window and its label has no ASCII letter and no
digit among the characters that count.  Otherwise its transcript is right in the directory, and its name
there consists of the server's part, the digit of the window's kind, a part for the label that has ASCII
letters, digits and the signs `#&+-._` alone, and ".txt".  Labels that are the same up to the case of ASCII
letters have the same path, and the paths of two windows of different kinds never lead along the same
steps. -/
theorem path?_confined {host : String} (hhost : '/' ∉ host.toList) (directory label : String) :
    (match path? directory host label with
      | none => Kind.ofLabel label ≠ .status ∧
          ∀ c ∈ label.toList.take maxLabelLength, c.isAlphanum = false
      | some path => ∃ file, Places.IsBelow directory file path ∧
          file.toList = nameOf host (Kind.ofLabel label) (labelPart label) ∧
          ∀ c ∈ labelPart label, isKept c = true) ∧
      (∀ label', Text.alike label label' = true →
        path? directory host label' = path? directory host label) ∧
      ∀ label' path path', Kind.ofLabel label ≠ Kind.ofLabel label' →
        path? directory host label = some path → path? directory host label' = some path' →
          Places.steps path.toList ≠ Places.steps path'.toList := by
  refine ⟨?_, ?_, ?_⟩
  · split
    · rename_i hpath
      exact path?_eq_none_iff.1 hpath
    · rename_i path hpath
      obtain ⟨file, hbelow, hname⟩ := isBelow_of_path? hhost hpath
      exact ⟨file, hbelow, hname, fun c => isKept_of_mem_labelPart⟩
  · intro label' hlabel
    rw [path?, path?, file?_congr hlabel]
  · intro label' path path' hkind hpath hpath' hsteps
    obtain ⟨file, hbelow, hname⟩ := isBelow_of_path? hhost hpath
    obtain ⟨file', hbelow', hname'⟩ := isBelow_of_path? hhost hpath'
    rw [hbelow.steps_eq, hbelow'.steps_eq, List.append_cancel_left_eq] at hsteps
    rw [← List.singleton_inj.1 hsteps, hname] at hname'
    exact hkind (kind_eq_of_nameOf hname')

/-- A label that looks like a way out of the directory, and a channel whose label is cleaned to the same. -/
theorem path?_confined_way_out :
    let host := "irc.example.org"
    let path := "/logs/ircexampleorg-3.__.._etc.txt"
    '/' ∉ host.toList ∧ path? "/logs" host "//../Etc" = some path ∧
      path? "/logs" host "//../eTC" = some path ∧
      ∀ path', path? "/logs" host "#//../etc" = some path' →
        Places.steps path.toList ≠ Places.steps path'.toList := by
  intro host path
  have hhost : '/' ∉ host.toList := by decide
  have hpath : path? "/logs" host "//../Etc" = some path := by decide +kernel
  obtain ⟨-, hcase, hkinds⟩ := path?_confined hhost "/logs" "//../Etc"
  refine ⟨hhost, hpath, ?_, ?_⟩
  · rw [hcase "//../eTC" (by decide), hpath]
  · intro path' hpath'
    exact hkinds _ _ _ (by decide) hpath hpath'

end Transcript
end ChatConsole
