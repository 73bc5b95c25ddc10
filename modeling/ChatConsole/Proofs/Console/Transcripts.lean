/-
# What printing leaves behind

Printing a message in an open window leaves one line at the end of that window's backlog.  If the window is
logged, it leaves a dated line without decoration at the end of the window's file; and if the window can
have no file, one notice in the status window, with a line of its own in the console's file if the status
window is logged.  Nothing else of the desk or of the files changes (`print_run`).  The notice is the only
message that begins another one, and it begins none itself (`writeWithin_one`).
-/

import ChatConsole.FileTree
import ChatConsole.Proofs.Console.Changes
import ChatConsole.Proofs.Console.Printing

namespace ChatConsole

/-! ### Files -/

namespace FileTree

variable {t t' : FileTree} {directory path : List String} {name text : String}

/-- Adding a text to what is written under one path changes what is read there, and nowhere else. -/
theorem find?_map_append (files : List (List String × String)) (written path : List String)
    (text : String) :
    ((files.map fun f => if f.1 == written then (f.1, f.2 ++ text) else f).find? (·.1 == path)).map
        Prod.snd
      = ((files.find? (·.1 == path)).map Prod.snd).map
          fun old => if path = written then old ++ text else old := by
  induction files with
  | nil => rfl
  | cons f files ih =>
    have hpath : (if f.1 == written then (f.1, f.2 ++ text) else f).1 = f.1 := by split <;> rfl
    rw [List.map_cons, List.find?_cons, List.find?_cons, hpath]
    cases hf : f.1 == path with
    | false => exact ih
    | true =>
      rw [eq_of_beq hf]
      simp only [Option.map_some, beq_iff_eq]
      split <;> rfl

/-- Adding a text to a file puts it at the end of what was in the file, if anything was, and changes no
other file. -/
theorem read?_of_append? (h : t.append? directory name text = some t') :
    t'.read? (directory ++ [name]) = some ((t.read? (directory ++ [name])).getD "" ++ text) ∧
      ∀ path, path ≠ directory ++ [name] → t'.read? path = t.read? path := by
  unfold append? at h
  dsimp only at h
  split at h
  · cases h
  split at h
  · rename_i old hold
    obtain rfl := Option.some.inj h
    have hread (path : List String) : read? { t with files := t.files.map _ } path = _ :=
      find?_map_append t.files (directory ++ [name]) path text
    refine ⟨?_, fun path hpath => ?_⟩
    · rw [hread, show (t.files.find? _).map Prod.snd = some old from hold, hold, Option.map_some,
        if_pos rfl]
      rfl
    · rw [hread]
      simp only [if_neg hpath, Option.map_id_fun', id_eq]
      rfl
  · rename_i hnone
    obtain rfl := Option.some.inj h
    have hread (path : List String) :
        read? { t with files := t.files ++ [(directory ++ [name], text)] } path
          = ((t.files.find? (·.1 == path)).or
              ([(directory ++ [name], text)].find? (·.1 == path))).map Prod.snd := by
      rw [read?, List.find?_append]
    have hmissing : t.files.find? (·.1 == directory ++ [name]) = none := Option.map_eq_none_iff.1 hnone
    refine ⟨?_, fun path hpath => ?_⟩
    · rw [hread, hmissing, hnone]
      simp
    · have hother : ([(directory ++ [name], text)] : List (List String × String)).find? (·.1 == path)
          = none := by
        simpa using fun heq => hpath heq.symm
      rw [hread, hother, Option.or_none]
      rfl

end FileTree

namespace Console

variable {c c' : Console} {label text file : String} {badge : Badge} {timed : Bool} {i j limit : Nat}
  {w v : Window}

/-! ### How deep writing goes -/

/-- Write a message, with at most some number of writings one inside the other below it. -/
def writeWithin (depth : Nat) (c : Console) (label text : String) (badge : Badge) (timed : Bool) :
    Option (Attempt Console) :=
  match c.desk.locate? label with
  | none => some (.refused (.notFound label) c)
  | some (i, w) =>
    let line := c.lineOf text badge timed
    let stored := c.store i w line
    if w.logging then
      match Transcript.file? c.display.host w.label with
      | some file => some (.done (stored.log file line))
      | none =>
        match depth with
        | 0 => none
        | depth + 1 => stored.writeWithin depth Window.statusLabel (nameless w.label) .failure timed
    else some (.done stored)

/-- A window that is found under the label of the status window can have a file. -/
theorem file?_ne_none_of_status (hfound : c.desk.locate? Window.statusLabel = some (i, w)) (host : String) :
    Transcript.file? host w.label ≠ none := by
  intro hfile
  have hother := Transcript.isStatusLabel_of_file?_eq_none hfile
  rw [Window.isStatusLabel, Desk.alike_of_locate? hfound] at hother
  cases hother

/-- Writing in the status window begins no other writing. -/
theorem writeWithin_status (c : Console) (text : String) (badge : Badge) (timed : Bool) :
    c.writeWithin 0 Window.statusLabel text badge timed
      = some (c.write Window.statusLabel text badge timed) := by
  unfold writeWithin
  split
  · rename_i hmissing
    rw [write_of_missing hmissing]
  · rename_i i w hfound
    dsimp only
    cases hlogging : w.logging with
    | false =>
      rw [write_of_unlogged hfound hlogging]
      rfl
    | true =>
      rw [if_pos rfl]
      split
      · rename_i file hfile
        rw [write_of_file hfound hlogging hfile]
      · rename_i hfile
        exact absurd hfile (file?_ne_none_of_status hfound _)

/-- **Writing goes one level deep at most.** -/
theorem writeWithin_one (c : Console) (label text : String) (badge : Badge) (timed : Bool) :
    c.writeWithin 1 label text badge timed = some (c.write label text badge timed) := by
  unfold writeWithin
  split
  · rename_i hmissing
    rw [write_of_missing hmissing]
  · rename_i i w hfound
    dsimp only
    cases hlogging : w.logging with
    | false =>
      rw [write_of_unlogged hfound hlogging]
      rfl
    | true =>
      rw [if_pos rfl]
      split
      · rename_i file hfile
        rw [write_of_file hfound hlogging hfile]
      · rename_i hfile
        rw [write_of_nameless hfound hlogging hfile, writeWithin_status]

/-! ### What is asked of the world -/

/-- The line of a transcript for a line of a window. -/
def entry (c : Console) (file : String) (line : Line) : Effect :=
  .log file (c.now.date.text ++ " " ++ Markup.strip line.text ++ "\n")

/-- The lines of transcripts that a line of a window comes to, with the notice there is if the window can
have no transcript. -/
def entries (c : Console) (w : Window) (line notice : Line) : List Effect :=
  if w.logging then
    match Transcript.file? c.display.host w.label with
    | some file => [c.entry file line]
    | none =>
      if c.desk.status.logging then [c.entry (Transcript.statusFile c.display.host) notice] else []
  else []

/-- A message in the status window comes to a line of the console's file, if that window is logged. -/
theorem effects_write_status (h : c.desk.WellFormed limit) (text : String) (badge : Badge)
    (timed : Bool) :
    (c.write Window.statusLabel text badge timed).state.effects
      = c.effects ++ if c.desk.status.logging then
          [c.entry (Transcript.statusFile c.display.host) (c.lineOf text badge timed)] else [] := by
  have hlabel : c.desk.status.label = Window.statusLabel := Option.some.inj h.first_label
  have hfound : c.desk.locate? Window.statusLabel = some (0, c.desk.status) := by
    rw [Desk.locate?, h.indexOf?_label h.first_label (Text.alike_refl _) (by decide)]
    rfl
  have hfile : Transcript.file? c.display.host c.desk.status.label
      = some (Transcript.statusFile c.display.host) := by
    rw [hlabel]
    rfl
  cases hlogging : c.desk.status.logging with
  | false =>
    rw [write_of_unlogged hfound hlogging]
    exact (List.append_nil _).symm
  | true =>
    rw [write_of_file hfound hlogging hfile]
    rfl

/-- What a message asks of the world. -/
theorem effects_write (h : c.desk.WellFormed limit) (hfound : c.desk.locate? label = some (i, w))
    (text : String) (badge : Badge) (timed : Bool) :
    (c.write label text badge timed).state.effects
      = c.effects ++ c.entries w (c.lineOf text badge timed)
          (c.lineOf (nameless w.label) .failure timed) := by
  have hw : c.desk.windows[i]? = some w := (Desk.locate?_eq_some hfound).2
  have hstored := posted_store hw (c.lineOf text badge timed)
  unfold entries
  cases hlogging : w.logging with
  | false =>
    rw [write_of_unlogged hfound hlogging]
    exact (List.append_nil _).symm
  | true =>
    rw [if_pos rfl]
    cases hfile : Transcript.file? c.display.host w.label with
    | some file =>
      rw [write_of_file hfound hlogging hfile]
      rfl
    | none =>
      rw [write_of_nameless hfound hlogging hfile,
        effects_write_status (wellFormed_store h hw _), hstored.lineOf]
      obtain ⟨status, hstatus, hgrows⟩ := hstored.grows (i := 0) (w := c.desk.status) rfl
      have hsame : (c.store i w (c.lineOf text badge timed)).desk.status.logging
          = c.desk.status.logging := by
        obtain rfl := Option.some.inj hstatus
        exact hgrows.logging_eq
      rw [hsame]
      rfl

/-! ### What is added to the windows -/

theorem linesTo_singleton (i j : Nat) (line : Line) :
    linesTo [(i, line)] j = if j = i then [line] else [] := by
  unfold linesTo
  by_cases hij : i = j
  · simp [hij]
  · simp [hij, Ne.symm hij]

/-- The lines that a message adds to one window. -/
theorem linesTo_posts (c : Console) (i j : Nat) (w : Window) (text : String) (badge : Badge)
    (timed : Bool) :
    linesTo (c.posts i w text badge timed) j
      = (if j = i then [c.lineOf text badge timed] else []) ++
        if j = 0 ∧ w.logging = true ∧ Transcript.file? c.display.host w.label = none then
          [c.lineOf (nameless w.label) .failure timed] else [] := by
  have hposts : c.posts i w text badge timed
      = [(i, c.lineOf text badge timed)] ++
        if w.logging = true ∧ Transcript.file? c.display.host w.label = none then
          [(0, c.lineOf (nameless w.label) .failure timed)] else [] := rfl
  rw [hposts, linesTo_append, linesTo_singleton]
  congr 1
  by_cases hlost : w.logging = true ∧ Transcript.file? c.display.host w.label = none
  · rw [if_pos hlost, linesTo_singleton]
    simp only [hlost, and_true]
  · rw [if_neg hlost, if_neg fun h => hlost h.2]
    rfl

/-- **Printing adds one line, and at most one notice.**  Whatever has been asked of the console before, a
message for a window that is open is printed, and writing it goes one level deep at most.  The window gets
the assembled message at the end of its backlog, without decoration where there is no colour, and as many of
its oldest lines leave as there was no room for.  If the window is logged and can have no file, the status
window gets one notice.  The focus, the number of windows and the cards, members and views of all windows
stay, and a window that gets no line is the window it was.  Before the display is shown, the world is asked
for the lines of `entries` alone: one for the file of the window if it is logged, or one for the console's
file if there is a notice and the status window is logged.  A file that takes such a line has it at its end,
and no other file changes. -/
theorem print_run (s : Settings) (palette : Color.Palette) (host : String) (rows cols : Nat)
    (logDirectory : String) (now : Calendar.Moment) (requests : List Request) (label text : String)
    (badge : Badge) (timed : Bool) :
    let c := (new s palette host rows cols logDirectory now).run requests
    let message := Message.assemble c.settings text badge timed none c.now
    let line := c.lineOf text badge timed
    (line.text = if c.display.palette.enabled then message.text else Markup.strip message.text) ∧
      line.indent = message.indent ∧
      c.writeWithin 1 label text badge timed = some (c.write label text badge timed) ∧
      match c.desk.locate? label with
      | none => c.printTimed label text badge timed = .refused (.notFound label) c
      | some (i, w) =>
        let notice := c.lineOf (nameless w.label) .failure timed
        let lost := w.logging = true ∧ Transcript.file? c.display.host w.label = none
        ∃ c', c.printTimed label text badge timed = .done c' ∧
          c'.desk.focus = c.desk.focus ∧ c'.desk.size = c.desk.size ∧
          (∀ j v, c.desk.windows[j]? = some v →
            let added := (if j = i then [line] else []) ++ if j = 0 ∧ lost then [notice] else []
            ∃ v', c'.desk.windows[j]? = some v' ∧
              v'.card = v.card ∧ v'.roster = v.roster ∧ v'.scroll = v.scroll ∧
              v'.backlog = added.foldl Backlog.push v.backlog ∧
              v'.backlog.lines = (v.backlog.lines ++ added).drop
                (v.backlog.size + added.length - v.backlog.capacity) ∧
              (j ≠ i → ¬(j = 0 ∧ lost) → v' = v)) ∧
          c'.effects = c.effects ++ c.entries w line notice ++ [.frame c'.display] ∧
          ∀ file added, c.entries w line notice = [.log file added] →
            ∀ (t t' : FileTree) directory, t.append? directory file added = some t' →
              t'.read? (directory ++ [file]) = some ((t.read? (directory ++ [file])).getD "" ++ added) ∧
                ∀ path, path ≠ directory ++ [file] → t'.read? path = t.read? path := by
  intro c message line
  have hdesk : c.desk.WellFormed (s.integer Settings.windowLimit).toNat :=
    wellFormed_run (Display.wellFormed_new s palette host rows cols) requests
  have hbounded : ∀ v ∈ c.desk.windows, v.backlog.Bounded :=
    (housed_run Window.kept_bounded s palette host rows cols logDirectory now requests).windows
  refine ⟨?_, ?_, writeWithin_one c label text badge timed, ?_⟩
  · simp only [line, lineOf]
    split <;> rfl
  · simp only [line, lineOf]
    split <;> rfl
  split
  · rename_i hmissing
    exact printTimed_of_missing hmissing text badge timed
  rename_i i w hfound
  intro notice lost
  obtain ⟨written, hdone, hposted⟩ := write_of_found hdesk hfound text badge timed
  have hprinted : c.printTimed label text badge timed = .done written.refresh := by
    rw [printTimed, hdone]
    rfl
  have heffects : written.effects = c.effects ++ c.entries w line notice := by
    rw [← effects_write hdesk hfound, hdone]
    rfl
  refine ⟨written.refresh, hprinted, hposted.focus, hposted.size, ?_, ?_, ?_⟩
  · intro j v hv added
    obtain ⟨v', hv', hgrows⟩ := hposted.grows hv
    rw [linesTo_posts] at hgrows
    obtain ⟨hbacklog, hcard, hroster, hscroll⟩ := hgrows.keeps
    have hlines := hgrows.lines_eq (hbounded v (List.mem_of_getElem? hv))
    refine ⟨v', hv', hcard, hroster, hscroll, hbacklog, hlines, fun hother hstatus => ?_⟩
    rw [if_neg hother, if_neg hstatus] at hgrows
    cases hgrows
    rfl
  · rw [← heffects]
    rfl
  · intro file added _ t t' directory hadded
    exact FileTree.read?_of_append? hadded

end Console
end ChatConsole
