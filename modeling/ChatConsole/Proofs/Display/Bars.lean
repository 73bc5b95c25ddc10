/-
# Bars that are not stale

A bar is a blank row with a text poured on it.  A display is current when the text on each bar is the
one that the bar would be given now, and the status bar's colours have their pairs already; drawing the
bars again then changes nothing (`drawTitleBar_eq`, `drawStatusBar_eq`).  Each lemma below says what may
change between two drawings: nothing that the bars show, nothing that the title bar shows, nothing that
the status bar shows, or anything.
-/

import ChatConsole.Display
import ChatConsole.Proofs.Flow.Again
import ChatConsole.Proofs.Window.Card

namespace ChatConsole

/-! ### What the bars show of a window -/

namespace Window

/-- What the status bar shows of a window. -/
structure Face where
  label : String
  number : Nat
  logging : Bool
  modes : String
  named : Bool
  members : Nat
  frozen : Bool

/-- What the status bar shows of a window. -/
def face (w : Window) : Face where
  label := w.label
  number := w.number
  logging := w.logging
  modes := w.modes
  named := w.named
  members := w.roster.size
  frozen := w.scroll.frozen

variable {w v : Window}

/-- No channel has the label of the status window. -/
theorem isStatus_of_isChannel (h : w.isChannel = true) : w.isStatus = false := by
  rw [isChannel, isChannelLabel] at h
  split at h
  · rename_i c rest hlabel
    rw [← Bool.not_eq_true, isStatus, isStatusLabel, Text.alike_iff]
    intro hfolded
    have hhead : c.toLower = '(' := by
      simpa [Text.folded, hlabel, statusLabel] using congrArg List.head? hfolded
    simp only [Bool.or_eq_true, beq_iff_eq] at h
    rcases h with ((rfl | rfl) | rfl) | rfl <;> exact absurd hhead (by decide)
  · cases h

theorem title_of_card (h : v.card = w.card) : v.title = w.title :=
  congrArg Card.title h

theorem face_of_card (hcard : v.card = w.card) (hroster : v.roster = w.roster)
    (hscroll : v.scroll = w.scroll) : v.face = w.face := by
  obtain ⟨hlabel, -, hnumber, hlogging, hmodes, hnamed⟩ := Card.mk.inj hcard
  rw [face, face, hlabel, hnumber, hlogging, hmodes, hnamed, hroster, hscroll]

theorem face_append (w : Window) (p : Color.Palette) (line : Line) :
    (w.append p line).1.face = w.face :=
  face_of_card (card_append ..) (roster_append ..) (scroll_append ..)

theorem le_palette_append (w : Window) (p : Color.Palette) (line : Line) :
    p ≤ (w.append p line).2 := by
  unfold append
  dsimp only
  split
  · exact le_refl p
  · exact Grid.le_palette_pour ..

theorem face_setTitle (w : Window) (title : String) : (w.setTitle title).face = w.face := by
  unfold setTitle
  split <;> rfl

end Window

/-! ### Bars -/

/-- A bar before a text is poured on it. -/
def blankBar (cols : Nat) (background : Style) : Grid where
  width := cols
  rows := [List.replicate cols ⟨' ', background⟩]
  background := background

/-- A bar that is erased is blank again, whatever was poured on it. -/
theorem erase_pour_blankBar (cols : Nat) (background : Style) (p : Color.Palette) (text : String)
    (indent cap : Nat) :
    ((blankBar cols background).pour p text indent cap).grid.erase = blankBar cols background :=
  (Grid.frame_pour ..).erase (Grid.style_pour _ _ _ _ _ rfl)

namespace Display

variable {d e : Display} {title status : Style}

/-- The text of the status bar, as it is poured. -/
def shownStatus (d : Display) : String :=
  if d.palette.enabled then d.statusText else Markup.strip d.statusText

/-- Pouring the text of the title bar. -/
def titlePoured (d : Display) (background : Style) : Poured :=
  (blankBar d.cols background).pour .off d.titleText 0 0

/-- Pouring the text of the status bar. -/
def statusPoured (d : Display) (background : Style) : Poured :=
  (blankBar d.cols background).pour d.palette d.shownStatus 0 0

/-- The bars show the text they would be given now, each on its background. -/
structure Current (title status : Style) (d : Display) : Prop where
  titleBar : d.titleBar = (d.titlePoured title).grid
  statusBar : d.statusBar = (d.statusPoured status).grid
  /-- The colours on the status bar have their pairs. -/
  palette : (d.statusPoured status).palette = d.palette

/-! ### What the texts say -/

/-- What the texts of the bars say of a window.  The title bar shows its title, without decoration.  The
status bar shows its number and how many windows are open, who we are and where, what the window is called,
whether it is logged, how many members it has, if it is a channel whose members are known, and at the end
whether its view is open. -/
structure Tells (d : Display) (w : Window) : Prop where
  title : ∀ title, w.title = some title → d.titleText = " " ++ Markup.strip title ++ " "
  untitled : w.title = none → d.titleText = ""
  slogan : w.isStatus = true → d.placeText w = d.theme.slogan
  channel : w.isChannel = true → d.placeText w = w.label ++ "(" ++ w.modes ++ ")"
  query : w.isStatus = false → w.isChannel = false → d.placeText w = w.label
  status :
    let left := d.theme.left
    let right := d.theme.right
    let place := d.placeText w
    let logged := if w.logging then "Yes" else "No"
    d.statusText
      = s!"{d.theme.sign} {left}{w.number}({d.desk.size}){right} "
        ++ s!"{left}{d.nick}({d.shownModes})@{d.host}{right} {left}{place}{right} {left}Log: {logged}{right}"
        ++ (if w.isChannel = true ∧ w.named = true then s!" {left}Nicks: {w.roster.size}{right}" else "")
        ++ (if w.scroll.frozen = true then " -- MORE --" else "")

/-- The texts of the bars tell of the window with the focus. -/
theorem tells (d : Display) : d.Tells d.desk.active where
  title title h := by rw [titleText, h]
  untitled h := by rw [titleText, h]
  slogan h := by rw [placeText, if_pos h]
  channel h := by
    rw [placeText, if_neg (by rw [Window.isStatus_of_isChannel h]; exact Bool.false_ne_true), if_pos h]
  query hstatus hchannel := by
    rw [placeText, hstatus, hchannel]
    rfl
  status := by
    simp only [statusText, statusParts, bracketed, ← Bool.and_eq_true, more]
    cases d.desk.active.isChannel && d.desk.active.named <;> cases d.desk.active.scroll.frozen <;>
      simp [String.append_assoc, toString]

example :
    let d := new { general := [("nickname", .string "ann")] } .off "irc" 5 80
    let w := { d.desk.status with
      label := "#lean", modes := "+nt", named := true, roster := { members := [⟨"ann", .op⟩] }
      scroll := { frozen := true } }
    Markup.strip { d with desk := { d.desk with status := w } }.statusText
      = "[-] [1(1)] [ann()@irc] [#lean(+nt)] [Log: No] [Nicks: 1] -- MORE --" := by
  decide +kernel

/-! ### What the texts depend on -/

theorem titleText_congr (h : e.desk.active.title = d.desk.active.title) :
    e.titleText = d.titleText := by
  rw [titleText, titleText, h]

/-- Two displays that say the same of the session, and show as many windows. -/
structure SameSession (d e : Display) : Prop where
  theme : e.theme = d.theme
  nick : e.nick = d.nick
  host : e.host = d.host
  modes : e.modes = d.modes
  enabled : e.palette.enabled = d.palette.enabled
  size : e.desk.size = d.desk.size

theorem shownStatus_congr (h : SameSession d e) (hface : e.desk.active.face = d.desk.active.face) :
    e.shownStatus = d.shownStatus := by
  obtain ⟨htheme, hnick, hhost, hown, henabled, hsize⟩ := h
  obtain ⟨hlabel, hnumber, hlogging, hmodes, hnamed, hmembers, hfrozen⟩ := Window.Face.mk.inj hface
  have hshownModes : e.shownModes = d.shownModes := by
    rw [shownModes, shownModes, hown]
  simp only [shownStatus, statusText, statusParts, bracketed, placeText, Window.isStatus,
    Window.isChannel, htheme, hnick, hhost, hshownModes, henabled, hsize, hlabel, hnumber, hlogging,
    hmodes, hnamed, hmembers, hfrozen]
  rfl

/-! ### Drawing on blank bars -/

theorem drawTitleBar_of_blank (h : d.titleBar.erase = blankBar d.cols title) :
    d.drawTitleBar = { d with titleBar := (d.titlePoured title).grid } := by
  rw [drawTitleBar, h, titlePoured]

theorem drawStatusBar_of_blank (h : d.statusBar.erase = blankBar d.cols status) :
    d.drawStatusBar
      = { d with
          statusBar := (d.statusPoured status).grid
          palette := (d.statusPoured status).palette } := by
  unfold drawStatusBar
  rw [h]
  rfl

/-- The text of the status bar stays when its colours get their pairs. -/
theorem shownStatus_drawStatusBar (d : Display) : d.drawStatusBar.shownStatus = d.shownStatus := by
  have hle : d.palette ≤ d.drawStatusBar.palette := Grid.le_palette_pour ..
  exact shownStatus_congr ⟨rfl, rfl, rfl, rfl, hle.enabled_eq, rfl⟩ rfl

namespace Current

theorem erase_titleBar (h : Current title status d) :
    d.titleBar.erase = blankBar d.cols title := by
  rw [h.titleBar]
  exact erase_pour_blankBar ..

theorem erase_statusBar (h : Current title status d) :
    d.statusBar.erase = blankBar d.cols status := by
  rw [h.statusBar]
  exact erase_pour_blankBar ..

/-- Both bars are as wide as the terminal. -/
theorem width_bars (h : Current title status d) :
    d.titleBar.width = d.cols ∧ d.statusBar.width = d.cols := by
  rw [h.titleBar, h.statusBar]
  exact ⟨(Grid.frame_pour ..).width, (Grid.frame_pour ..).width⟩

/-- Drawing a current title bar changes nothing. -/
theorem drawTitleBar_eq (h : Current title status d) : d.drawTitleBar = d := by
  rw [drawTitleBar_of_blank h.erase_titleBar, ← h.titleBar]

/-- Drawing a current status bar changes nothing. -/
theorem drawStatusBar_eq (h : Current title status d) : d.drawStatusBar = d := by
  rw [drawStatusBar_of_blank h.erase_statusBar, ← h.statusBar, h.palette]

end Current

/-- The status bar is right as soon as it is drawn, if the title bar is. -/
theorem current_drawStatusBar (htitle : d.titleBar = (d.titlePoured title).grid)
    (hstatus : d.statusBar.erase = blankBar d.cols status) :
    Current title status d.drawStatusBar := by
  -- Pouring again in the palette that the first time left is pouring the same.
  have hpoured : d.drawStatusBar.statusPoured status = d.statusPoured status := by
    have hpalette : d.drawStatusBar.palette = (d.statusPoured status).palette := by
      rw [drawStatusBar_of_blank hstatus]
    have hcols : d.drawStatusBar.cols = d.cols := rfl
    rw [statusPoured, hcols, shownStatus_drawStatusBar, hpalette]
    exact Grid.pour_of_le _ (le_refl _)
  exact
    { titleBar := htitle
      statusBar := by rw [hpoured, drawStatusBar_of_blank hstatus]
      palette := by rw [hpoured, drawStatusBar_of_blank hstatus] }

theorem current_drawBars (htitle : d.titleBar.erase = blankBar d.cols title)
    (hstatus : d.statusBar.erase = blankBar d.cols status) : Current title status d.drawBars := by
  refine current_drawStatusBar ?_ hstatus
  rw [drawTitleBar_of_blank htitle]
  rfl

/-! ### Between two drawings -/

/-- Two displays with the same bars. -/
structure SameBars (d e : Display) : Prop where
  cols : e.cols = d.cols
  titleBar : e.titleBar = d.titleBar
  statusBar : e.statusBar = d.statusBar

namespace Current

/-- Anything else may change before both bars are drawn. -/
theorem drawBars (h : Current title status d) (hbars : SameBars d e) :
    Current title status e.drawBars := by
  refine current_drawBars ?_ ?_
  · rw [hbars.titleBar, hbars.cols]
    exact h.erase_titleBar
  · rw [hbars.statusBar, hbars.cols]
    exact h.erase_statusBar

/-- Anything but the title may change before the status bar is drawn. -/
theorem drawStatusBar (h : Current title status d) (hbars : SameBars d e)
    (htitle : e.desk.active.title = d.desk.active.title) :
    Current title status e.drawStatusBar := by
  refine current_drawStatusBar ?_ ?_
  · rw [titlePoured, hbars.titleBar, hbars.cols, titleText_congr htitle]
    exact h.titleBar
  · rw [hbars.statusBar, hbars.cols]
    exact h.erase_statusBar

/-- The desk may change in all that the bars do not show, and pairs may be registered. -/
theorem keep {desk : Desk} {q : Color.Palette} (h : Current title status d)
    (hsize : desk.size = d.desk.size)
    (htitle : desk.active.title = d.desk.active.title)
    (hface : desk.active.face = d.desk.active.face) (hq : d.palette ≤ q) :
    Current title status { d with desk, palette := q } := by
  have htitlePoured : { d with desk, palette := q }.titlePoured title = d.titlePoured title := by
    rw [titlePoured, titleText_congr htitle]
    rfl
  have hshown : { d with desk, palette := q }.shownStatus = d.shownStatus :=
    shownStatus_congr ⟨rfl, rfl, rfl, rfl, hq.enabled_eq, hsize⟩ hface
  have hpoured : { d with desk, palette := q }.statusPoured status
      = { d.statusPoured status with palette := q } := by
    have hle : (d.statusPoured status).palette ≤ q := by rwa [h.palette]
    rw [statusPoured, hshown]
    exact Grid.pour_of_le _ hle
  exact
    { titleBar := h.titleBar.trans (by rw [htitlePoured])
      statusBar := h.statusBar.trans (by rw [hpoured])
      palette := by rw [hpoured] }

/-- The title may change before the title bar is drawn. -/
theorem drawTitleBar {desk : Desk} (h : Current title status d) (hsize : desk.size = d.desk.size)
    (hface : desk.active.face = d.desk.active.face) :
    Current title status { d with desk }.drawTitleBar := by
  have hblank : { d with desk }.titleBar.erase = blankBar { d with desk }.cols title :=
    h.erase_titleBar
  have hpoured : { d with desk }.drawTitleBar.statusPoured status = d.statusPoured status := by
    have htext : { d with desk }.drawTitleBar.shownStatus = d.shownStatus :=
      shownStatus_congr ⟨rfl, rfl, rfl, rfl, rfl, hsize⟩ hface
    rw [statusPoured, htext]
    rfl
  exact
    { titleBar := by rw [drawTitleBar_of_blank hblank]; rfl
      statusBar := by rw [hpoured]; exact h.statusBar
      palette := by rw [hpoured]; exact h.palette }

end Current

/-! ### At the start and on another terminal -/

/-- A display is current on a terminal of any size, as soon as it is laid out there. -/
theorem Current.resize (h : Current title status d) (rows cols : Nat) :
    Current title status (d.resize rows cols) := by
  have hblank {g : Grid} {background : Style} {n : Nat} (hg : g.erase = blankBar n background) :
      (g.resize cols 1).erase = blankBar cols background := by
    have hresize : (g.resize cols 1).erase = g.erase.resize cols 1 := rfl
    rw [hresize, hg]
    rfl
  exact current_drawBars (hblank h.erase_titleBar) (hblank h.erase_statusBar)

/-- The pair of the title bar's colours in the theme, and the palette that has it. -/
def titlePair (s : Settings) (palette : Color.Palette) : Int × Color.Palette :=
  palette.pairOf (s.themeColor "titlebar_fg" Color.black) (s.themeColor "titlebar_bg" Color.white)

/-- The pair of the status bar's colours in the theme, and the palette that has both bars' pairs. -/
def statusPair (s : Settings) (palette : Color.Palette) : Int × Color.Palette :=
  (titlePair s palette).2.pairOf (s.themeColor "statusbar_fg" Color.white)
    (s.themeColor "statusbar_bg" Color.black)

theorem current_new (s : Settings) (palette : Color.Palette) (host : String) (rows cols : Nat) :
    Current { pair := (titlePair s palette).1 } { pair := (statusPair s palette).1 }
      (new s palette host rows cols) :=
  current_drawBars rfl rfl

end Display
end ChatConsole
