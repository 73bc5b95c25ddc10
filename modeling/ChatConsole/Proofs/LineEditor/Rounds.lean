/-
# A round through the candidates

The first press of the tab key on a line that asks for something puts the first candidate in its place,
and every further press the next one; the press after the last candidate says that there are no more and
leaves the line (`tabs_go_round`).  The row of the editor has no part in this, so the editors here may
have any panel.  The client is asked for candidates by the first press alone: to say so, the client keeps
a log of all that it is asked and told.
-/

import ChatConsole.Proofs.LineEditor.Blind

namespace ChatConsole

open Markup (Mark)
open Completion (Kind Round)

/-! ### What a client is asked and told -/

namespace Client

/-- Anything that a client is asked or told and that may change it. -/
inductive Event where
  | beep
  | switchWindow (forward : Bool)
  | scroll (request : ScrollRequest)
  | candidates (kind : Kind) (start : String)
  | report (message : String)
  | display (row : Grid)
  deriving DecidableEq

/-- A client with a log of what it was asked and told so far. -/
structure Logged (σ : Type) where
  client : σ
  events : List Event := []

instance {σ : Type} [Client σ] : Client (Logged σ) where
  beep r := ⟨Client.beep r.client, r.events ++ [.beep]⟩
  switchWindow forward r :=
    ((Client.switchWindow forward r.client).1,
      ⟨(Client.switchWindow forward r.client).2, r.events ++ [.switchWindow forward]⟩)
  scroll request r :=
    ((Client.scroll request r.client).1,
      ⟨(Client.scroll request r.client).2, r.events ++ [.scroll request]⟩)
  inChannel r := Client.inChannel r.client
  candidates kind start r :=
    ((Client.candidates kind start r.client).1,
      ⟨(Client.candidates kind start r.client).2, r.events ++ [.candidates kind start]⟩)
  report message r := ⟨Client.report message r.client, r.events ++ [.report message]⟩
  display row r := ⟨Client.display row r.client, r.events ++ [.display row]⟩

end Client

/-! ### Lines of candidates -/

/-- Whether a text has no mark in it. -/
def Markup.Unmarked (cs : List Char) : Prop :=
  ∀ c ∈ cs, Mark.ofChar? c = none

instance (cs : List Char) : Decidable (Markup.Unmarked cs) :=
  List.decidableBAll _ cs

open Markup (Unmarked)

namespace Completion

/-- A candidate without marks whose line an editor can hold. -/
structure Fits (kind : Kind) (candidate : String) : Prop where
  unmarked : Unmarked candidate.toList
  room : (kind.render candidate).length ≤ 2699

theorem Kind.toList_render (kind : Kind) (candidate : String) :
    (kind.render candidate).toList = kind.lead.toList ++ candidate.toList ++ kind.tail.toList := by
  rw [render, String.toList_append, String.toList_append]

/-- A kind puts text around a candidate, and no mark. -/
theorem Kind.unmarked_around (kind : Kind) :
    Unmarked kind.lead.toList ∧ Unmarked kind.tail.toList ∧
      kind.lead.toList ++ kind.tail.toList ≠ [] := by
  cases kind <;> decide

theorem Kind.render_ne_nil (kind : Kind) (candidate : String) :
    (kind.render candidate).toList ≠ [] := by
  obtain ⟨-, -, haround⟩ := kind.unmarked_around
  intro hnil
  rw [Kind.toList_render] at hnil
  simp only [List.append_eq_nil_iff] at hnil
  exact haround (List.append_eq_nil_iff.2 ⟨hnil.1.1, hnil.2⟩)

theorem Fits.unmarked_render {kind : Kind} {candidate : String} (h : Fits kind candidate) :
    Unmarked (kind.render candidate).toList := by
  obtain ⟨hlead, htail, -⟩ := kind.unmarked_around
  intro c hc
  rw [Kind.toList_render, List.mem_append, List.mem_append] at hc
  rcases hc with (hc | hc) | hc
  · exact hlead c hc
  · exact h.unmarked c hc
  · exact htail c hc

end Completion

namespace LineEditor

open Completion (Fits)

/-- Text without marks takes the columns on the row that it takes elsewhere. -/
theorem columnsOf_of_unmarked {cs : List Char} (h : Unmarked cs) : columnsOf cs = Text.columnsOf cs := by
  induction cs with
  | nil => rfl
  | cons c cs ih =>
    have hc : columns c = Text.columns c := by
      rw [columns, h c List.mem_cons_self]
      rfl
    rw [columnsOf_cons, Text.columnsOf_cons, hc, ih fun d hd => h d (List.mem_cons_of_mem _ hd)]

variable {σ : Type} [Client σ] {e f : LineEditor} {s s' : σ} {line cs : List Char} {c d : String}
  {kind : Kind} {rest found : List String} {round : Option Round} {quiet : Bool}

/-! ### Typing a line -/

/-- The editor holds a line and has its cursor at the end. -/
structure Holds (line : List Char) (round : Option Round) (quiet : Bool) (e : LineEditor) : Prop where
  draft : e.draft = ⟨line.reverse, []⟩
  offset : e.offset = columnsOf line
  round : e.round = round
  quiet : e.quiet = quiet

namespace Holds

theorem chars (h : Holds line round quiet e) : e.draft.chars = line := by
  rw [h.draft, Draft.chars, List.reverse_reverse, List.append_nil]

theorem text (h : Holds line round quiet e) : e.draft.text = String.ofList line := by
  rw [Draft.text, h.chars]

theorem size_eq (h : Holds line round quiet e) : e.draft.size = line.length := by
  rw [Draft.size_eq_length_chars, h.chars]

/-- A line with room takes a further character. -/
theorem insert? (h : Holds line round quiet e) (hroom : line.length < 2699) (c : Char) :
    ∃ f, e.insert? c = some f ∧ Holds (line ++ [c]) round quiet f := by
  have hfull : e.isFull = false := by
    simp only [isFull, h.size_eq, capacity, decide_eq_false_iff_not]
    omega
  have hcontent := content_insert? e c
  rw [hfull, if_neg Bool.false_ne_true] at hcontent
  obtain ⟨f, hf, hfcontent⟩ := Option.map_eq_some_iff.1 hcontent
  refine ⟨f, hf, ?_, ?_, ?_, ?_⟩
  · have hdraft : f.draft = e.draft.insert c := congrArg Content.draft hfcontent
    rw [hdraft, h.draft, Draft.insert, List.reverse_concat]
  · have hoffset : f.offset = e.offset + columns c := congrArg Content.offset hfcontent
    rw [hoffset, h.offset, columnsOf_append]
    rfl
  · exact (congrArg Content.round hfcontent).trans h.round
  · exact (congrArg Content.quiet hfcontent).trans h.quiet

/-- Typing a text that fits appends it, and the client hears nothing of it. -/
theorem type (h : Holds line round quiet e) (hroom : (line ++ cs).length ≤ 2699) :
    ∃ f, LineEditor.type cs (e, s) = (f, s) ∧ Holds (line ++ cs) round quiet f := by
  induction cs generalizing line e with
  | nil => exact ⟨e, rfl, by rwa [List.append_nil]⟩
  | cons c cs ih =>
    rw [List.length_append, List.length_cons] at hroom
    obtain ⟨f, hf, hholds⟩ := h.insert? (by omega) c
    have hfirst : LineEditor.type (c :: cs) (e, s) = LineEditor.type cs (f, s) := by
      simp only [LineEditor.type, List.foldl_cons, insert, attempt, hf]
    have hjoin : line ++ c :: cs = line ++ [c] ++ cs := List.append_cons line c cs
    rw [hfirst, hjoin]
    exact ih hholds (by simp only [List.length_append, List.length_singleton]; omega)

end Holds

/-! ### One press -/

/-- The tab key looks at the line: it is not empty, has no mark in it, and the cursor is at its end. -/
structure Completes (e : LineEditor) : Prop where
  atEnd : e.draft.after = []
  nonempty : e.draft.chars ≠ []
  unmarked : Unmarked e.draft.chars

theorem Completes.not_refused (h : Completes e) :
    (e.draft.size = 0 || e.draft.isInside || e.draft.chars.any (Mark.ofChar? · |>.isSome)) = false := by
  have hsize : e.draft.size ≠ 0 := by
    rw [Draft.size_eq_length_chars]
    exact fun hzero => h.nonempty (List.length_eq_zero_iff.1 hzero)
  have hinside : e.draft.isInside = false := by rw [Draft.isInside, h.atEnd]; rfl
  have hmarks : e.draft.chars.any (Mark.ofChar? · |>.isSome) = false :=
    List.any_eq_false.2 fun c hc => by rw [h.unmarked c hc]; exact Bool.false_ne_true
  rw [hinside, hmarks, decide_eq_false hsize]
  rfl

/-- A press that finds a line types it into a cleared editor. -/
theorem Completes.tab_of_ok (h : Completes e) {next : Option Round} {text : String}
    (hpress : Completion.press Client.candidates e.round e.draft.chars (Client.inChannel s) s
      = (.ok text, next, s'))
    (hroom : text.length ≤ 2699) :
    ∃ f, tab (e, s) = (f, s') ∧ Holds text.toList next e.quiet f := by
  have hstart : Holds [] next e.quiet ({ e with round := next }.clear) :=
    ⟨rfl, rfl, rfl, rfl⟩
  have hlength : ([] ++ text.toList).length ≤ 2699 := by
    rwa [List.nil_append, String.length_toList]
  obtain ⟨f, hf, hholds⟩ := hstart.type (s := s') hlength
  refine ⟨f, ?_, by rwa [List.nil_append] at hholds⟩
  rw [tab, if_neg (by rw [h.not_refused]; exact Bool.false_ne_true), hpress]
  exact hf

/-- A press that finds none leaves the line and says why. -/
theorem Completes.tab_of_error (h : Completes e) {next : Option Round} {why : Completion.Failure}
    (hpress : Completion.press Client.candidates e.round e.draft.chars (Client.inChannel s) s
      = (.error why, next, s')) :
    tab (e, s) = fail why ({ e with round := next }, s') := by
  rw [tab, if_neg (by rw [h.not_refused]; exact Bool.false_ne_true), hpress]

/-- The line of a candidate, with the round at the candidates after it. -/
abbrev Shows (kind : Kind) (c : String) (rest : List String) (quiet : Bool) (e : LineEditor) : Prop :=
  Holds (kind.render c).toList (some ⟨kind, rest⟩) quiet e

/-- The line of a candidate is one that the tab key looks at. -/
theorem Shows.completes (h : Shows kind c rest quiet e) (hc : Fits kind c) : Completes e where
  atEnd := by rw [h.draft]
  nonempty := h.chars ▸ kind.render_ne_nil c
  unmarked := h.chars ▸ hc.unmarked_render

/-- The first press asks for the candidates and shows the first one. -/
theorem Completes.tab_first (h : Completes e) (hround : e.round = none)
    (hkind : Kind.classify e.draft.chars (Client.inChannel s) = .ok kind)
    (hfound : Client.candidates kind (kind.wanted e.draft.chars) s = (c :: rest, s'))
    (hc : Fits kind c) :
    ∃ f, tab (e, s) = (f, s') ∧ Shows kind c rest e.quiet f := by
  refine h.tab_of_ok ?_ hc.room
  simp only [Completion.press, hround, hkind, hfound, Round.next?]

/-- A press inside a round shows the next candidate; the client has no part in it. -/
theorem Shows.tab_next (h : Shows kind c (d :: rest) quiet e) (hc : Fits kind c) (hd : Fits kind d) :
    ∃ f, tab (e, s) = (f, s) ∧ Shows kind d rest quiet f := by
  rw [← h.quiet]
  refine (h.completes hc).tab_of_ok ?_ hd.room
  simp only [Completion.press, h.round, Round.next?]

/-- The press after the last candidate ends the round. -/
theorem Shows.tab_last (h : Shows kind c [] quiet e) (hc : Fits kind c) :
    tab (e, s) = fail .noMoreMatches ({ e with round := none }, s) := by
  refine (h.completes hc).tab_of_error ?_
  simp only [Completion.press, h.round, Round.next?]

/-! ### Press after press -/

/-- Some presses of the tab key. -/
def tabs (n : Nat) : At σ → At σ × List (Option Outcome) :=
  pressAll handle (List.replicate n .tab)

theorem tabs_succ (n : Nat) (a : At σ) :
    tabs (n + 1) a = ((tabs n (tab a)).1, none :: (tabs n (tab a)).2) := rfl

/-- Further presses show the candidates in their order, and leave the client alone. -/
theorem Shows.tabs_next {n : Nat} (h : Shows kind c rest quiet e)
    (hfit : ∀ x ∈ c :: rest, Fits kind x) (hd : (c :: rest)[n]? = some d) :
    ∃ f, tabs n (e, s) = ((f, s), List.replicate n none) ∧
      Shows kind d ((c :: rest).drop (n + 1)) quiet f := by
  induction n generalizing c rest e with
  | zero =>
    obtain rfl := Option.some.inj hd
    exact ⟨e, rfl, h⟩
  | succ n ih =>
    rw [List.getElem?_cons_succ] at hd
    cases rest with
    | nil => cases hd
    | cons b rest =>
      obtain ⟨f, hf, hshows⟩ := h.tab_next (s := s) (hfit c List.mem_cons_self)
        (hfit b (List.mem_cons_of_mem _ List.mem_cons_self))
      obtain ⟨g, hg, hlast⟩ := ih hshows (fun x hx => hfit x (List.mem_cons_of_mem _ hx)) hd
      refine ⟨g, ?_, hlast⟩
      rw [tabs_succ, hf, hg]
      rfl

/-- One press more than there are candidates to come ends the round, at the last of them. -/
theorem Shows.tabs_end (h : Shows kind c rest quiet e) (hfit : ∀ x ∈ c :: rest, Fits kind x) :
    ∃ f, tabs (rest.length + 1) (e, s)
        = (fail .noMoreMatches (f, s), List.replicate (rest.length + 1) none) ∧
      Holds (kind.render ((c :: rest).getLast (List.cons_ne_nil c rest))).toList none quiet f := by
  induction rest generalizing c e with
  | nil =>
    refine ⟨{ e with round := none }, ?_, ⟨h.draft, h.offset, rfl, h.quiet⟩⟩
    rw [List.length_nil, tabs_succ, h.tab_last (hfit c List.mem_cons_self)]
    rfl
  | cons d rest ih =>
    obtain ⟨f, hf, hshows⟩ := h.tab_next (s := s) (hfit c List.mem_cons_self)
      (hfit d (List.mem_cons_of_mem _ List.mem_cons_self))
    obtain ⟨g, hg, hlast⟩ := ih hshows fun x hx => hfit x (List.mem_cons_of_mem _ hx)
    refine ⟨g, ?_, hlast⟩
    rw [List.length_cons, tabs_succ, hf, hg]
    rfl

open Client (Logged) in
/-- **The tab key goes through the candidates once.**  On a line that asks for something of a kind, with no
round in progress, the n-th press shows the line of the n-th candidate with the cursor at its end, whatever
the panel and whatever the client.  The press after the last one leaves the last line, ends the round, says
that there are no more matches, and rings unless refusals are silent.  No press ends the read.  In all this
the client is asked for candidates once, and nothing else is asked of it. -/
theorem tabs_go_round (h : Completes e) (hround : e.round = none)
    (hkind : Kind.classify e.draft.chars (Client.inChannel s) = .ok kind)
    (hsome : (Client.candidates kind (kind.wanted e.draft.chars) s).1 ≠ [])
    (hfit : ∀ c ∈ (Client.candidates kind (kind.wanted e.draft.chars) s).1, Fits kind c) :
    let start := kind.wanted e.draft.chars
    let found := (Client.candidates kind start s).1
    let after n := tabs n (e, ({ client := s } : Logged σ))
    (∀ n c, found[n]? = some c →
      let (f, r) := (after (n + 1)).1
      f.draft.text = kind.render c ∧ f.draft.after = [] ∧
        f.offset = Text.columnsOf (kind.render c).toList ∧
        f.round = some ⟨kind, found.drop (n + 1)⟩ ∧
        r = ⟨(Client.candidates kind start s).2, [.candidates kind start]⟩ ∧
        (after (n + 1)).2 = List.replicate (n + 1) none) ∧
      let (f, r) := (after (found.length + 1)).1
      f.draft.text = kind.render (found.getLast hsome) ∧ f.draft.after = [] ∧
        f.offset = Text.columnsOf (kind.render (found.getLast hsome)).toList ∧
        f.round = none ∧
        r.events = [.candidates kind start, .report "no more matches"]
          ++ (if e.quiet then [] else [.beep]) ∧
        (after (found.length + 1)).2 = List.replicate (found.length + 1) none := by
  intro start found after
  obtain ⟨c, rest, hcons⟩ := List.exists_cons_of_ne_nil hsome
  let asked : Logged σ := ⟨(Client.candidates kind start s).2, [.candidates kind start]⟩
  have hfound : Client.candidates kind start ({ client := s } : Logged σ) = (c :: rest, asked) :=
    congrArg (·, asked) hcons
  rw [hcons] at hfit
  obtain ⟨f, hf, hshows⟩ := h.tab_first (s := ({ client := s } : Logged σ)) hround hkind hfound
    (hfit c List.mem_cons_self)
  have hafter (n : Nat) :
      after (n + 1) = ((tabs n (f, asked)).1, none :: (tabs n (f, asked)).2) := by
    rw [show after (n + 1) = _ from tabs_succ n _, hf]
  refine ⟨fun n d hd => ?_, ?_⟩
  · have hd' : (c :: rest)[n]? = some d := hcons ▸ hd
    obtain ⟨g, hg, hlast⟩ := hshows.tabs_next (s := asked) hfit hd'
    have hfits : Fits kind d := hfit d (List.mem_of_getElem? hd')
    rw [hafter, hg]
    refine ⟨hlast.text.trans String.ofList_toList, by rw [hlast.draft],
      hlast.offset.trans (columnsOf_of_unmarked hfits.unmarked_render), ?_, rfl, rfl⟩
    rw [show found = c :: rest from hcons]
    exact hlast.round
  · obtain ⟨g, hg, hlast⟩ := hshows.tabs_end (s := asked) hfit
    have hfits : Fits kind ((c :: rest).getLast (List.cons_ne_nil c rest)) :=
      hfit _ (List.getLast_mem _)
    have hlength : found.length = rest.length + 1 := congrArg List.length hcons
    have hgetLast : found.getLast hsome = (c :: rest).getLast (List.cons_ne_nil c rest) := by
      simp only [found, start, hcons]
    have hfail : fail .noMoreMatches (g, asked)
        = (g, g.ring (Client.report Completion.Failure.noMoreMatches.message asked)) := rfl
    rw [hlength, hafter, hg, hgetLast, hfail]
    refine ⟨hlast.text.trans String.ofList_toList, by rw [hlast.draft],
      hlast.offset.trans (columnsOf_of_unmarked hfits.unmarked_render), hlast.round, ?_, rfl⟩
    rw [ring, hlast.quiet]
    cases e.quiet <;> rfl

/-- Two commands, one of them wide, on a row so short that each of them turns it. -/
theorem tabs_go_round_commands :
    let s : Fixed := ⟨"> ", ["help", "日本"]⟩
    let e := (pressAll handle [.char '/', .char 'h'] (new "> " 6 false, s)).1.1
    let after n := tabs n (e, ({ client := s } : Client.Logged Fixed))
    Completes e ∧ e.round = none ∧ Kind.classify e.draft.chars (Client.inChannel s) = .ok .command ∧
      (Client.candidates .command (Kind.command.wanted e.draft.chars) s).1 = s.found ∧
      (∀ c ∈ s.found, Fits .command c) ∧
      (after 1).1.1.draft.text = "/help" ∧ (after 2).1.1.draft.text = "/日本" ∧
      (after 2).1.1.offset = 5 ∧ (after 3).1.1.draft.text = "/日本" ∧ (after 3).1.1.round = none ∧
      (after 3).1.2.events = [.candidates .command "h", .report "no more matches", .beep] := by
  intro s e
  have hcompletes : Completes e := ⟨by decide +kernel, by decide +kernel, by decide +kernel⟩
  have hround : e.round = none := by decide +kernel
  have hquiet : e.quiet = false := by decide +kernel
  have hchars : e.draft.chars = "/h".toList := by decide +kernel
  clear_value e
  have hkind : Kind.classify e.draft.chars (Client.inChannel s) = .ok .command := by
    rw [hchars]
    rfl
  have hwanted : Kind.command.wanted e.draft.chars = "h" := by
    rw [hchars]
    rfl
  have hwide : Text.columnsOf (Kind.command.render "日本").toList = 5 := by decide +kernel
  have hfit : ∀ c ∈ s.found, Fits .command c := by
    intro c hc
    rcases List.mem_cons.1 hc with rfl | hc
    · exact ⟨by decide +kernel, by decide +kernel⟩
    · obtain rfl := List.mem_singleton.1 hc
      exact ⟨by decide +kernel, by decide +kernel⟩
  intro after
  obtain ⟨hshow, hend⟩ := tabs_go_round hcompletes hround hkind (List.cons_ne_nil _ _) hfit
  have hfirst := hshow 0 "help" rfl
  have hsecond := hshow 1 "日本" rfl
  refine ⟨hcompletes, hround, hkind, rfl, hfit, hfirst.1, hsecond.1, hsecond.2.2.1.trans hwide, hend.1,
    hend.2.2.2.1, hend.2.2.2.2.1.trans ?_⟩
  rw [hwanted, hquiet]
  rfl

end LineEditor
end ChatConsole
