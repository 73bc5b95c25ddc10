/-
# The layout of a window

The width of the panel is kept in the window and is worked out only when the window is laid out, and when
the members are told anew; meanwhile members come and go.  `Arranged` says what the pane and the panel
measure nonetheless, at any time and whatever has been done with the window (`kept_arranged`).
-/

import ChatConsole.Proofs.Window.Changes
import ChatConsole.Proofs.Window.Live
import ChatConsole.Proofs.Window.Panel

namespace ChatConsole
namespace Window

/-- What the pane and the panel of a window measure on a terminal. -/
structure Arranged (rows cols : Nat) (w : Window) : Prop where
  height : w.pane.height = paneHeight rows
  width : w.pane.width = cols - w.panelWidth
  /-- Only a channel has a panel. -/
  plain : w.isChannel = false → w.panelWidth = 0 ∧ w.panel = none
  panel : w.isChannel = true → ∃ panel, w.panel = some panel ∧ panel.width = w.panelWidth ∧
    panel.height = paneHeight rows
  /-- The panel is as wide as the members that are known ask for. -/
  named : w.isChannel = true → w.named = true → w.panelWidth = w.roster.panelWidth

variable {rows cols : Nat} {w v : Window}

theorem arranged_layout (w : Window) (rows cols : Nat) : Arranged rows cols (w.layout rows cols) := by
  unfold layout
  split
  · rename_i hchannel
    refine ⟨Grid.height_resize .., rfl, ?_, fun _ => ⟨_, rfl, rfl, Grid.height_resize ..⟩, fun _ _ => rfl⟩
    intro hother
    cases hchannel.symm.trans hother
  · rename_i hother
    refine ⟨Grid.height_resize .., rfl, fun _ => ⟨rfl, rfl⟩, ?_, ?_⟩
    · intro hchannel
      exact absurd hchannel hother
    · intro hchannel
      exact absurd hchannel hother

namespace Arranged

theorem of_paneOnly (h : Arranged rows cols w) (hv : PaneOnly w v) : Arranged rows cols v := by
  have hframe := hv.frame
  rw [hv.rest]
  exact ⟨hframe.height.trans h.height, hframe.width.trans h.width, h.plain, h.panel, h.named⟩

/-- Where the view stands, and what is stored, has no say in the layout. -/
theorem of_view (h : Arranged rows cols w) (backlog : Backlog) (scroll : Scroll) :
    Arranged rows cols { w with backlog, scroll } :=
  ⟨h.height, h.width, h.plain, h.panel, h.named⟩

theorem drawPanel (h : Arranged rows cols w) (height : Nat) :
    Arranged rows cols (w.drawPanel height) := by
  rcases w.drawPanel_cases height with hsame | ⟨panel, page, hpanel, hdrawn⟩
  · rwa [hsame]
  · rw [hdrawn]
    refine ⟨h.height, h.width, ?_, ?_, h.named⟩
    · intro hother
      rw [(h.plain hother).2] at hpanel
      cases hpanel
    · intro hchannel
      obtain ⟨panel', hpanel', hwidth, hheight⟩ := h.panel hchannel
      obtain rfl : panel = panel' := Option.some.inj (hpanel.symm.trans hpanel')
      have hframe := Roster.frame_drawPage panel (viewHeight height) page
      exact ⟨_, rfl, hframe.width.trans hwidth, hframe.height.trans hheight⟩

theorem refreshView (h : Arranged rows cols w) (p : Color.Palette) (height : Nat) :
    Arranged rows cols (w.refreshView p height).1 := by
  unfold Window.refreshView
  split
  · exact h.of_paneOnly (paneOnly_redrawFrom ..)
  · dsimp only
    split
    · exact (h.of_view w.backlog {}).of_paneOnly (paneOnly_redrawFull ..)
    · exact h.of_paneOnly (paneOnly_redrawFull ..)

end Arranged

theorem arranged_recreate (w : Window) (p : Color.Palette) (rows cols : Nat) :
    Arranged rows cols (w.recreate p rows cols).1 :=
  ((arranged_layout w rows cols).drawPanel rows).refreshView p rows

/-- Members that are told anew are drawn on a panel of the width they ask for. -/
theorem arranged_tell (h : Arranged rows cols w) (p : Color.Palette) (roster : Roster)
    (modes : String) (named : Bool) :
    Arranged rows cols
      ((updatePanel? { w with roster, modes, named } p rows cols).getD
        ({ w with roster, modes, named }, p)).1 := by
  rcases updatePanel?_cases { w with roster, modes, named } p rows cols with
    ⟨hnone, hupdate⟩ | ⟨hchannel, hnamed, ⟨hwidth, hupdate⟩ | hupdate⟩ <;> rw [hupdate]
  · refine ⟨h.height, h.width, h.plain, h.panel, ?_⟩
    intro hchannel hnamed
    simp_all
  · have htold : Arranged rows cols { w with roster, modes, named } :=
      ⟨h.height, h.width, h.plain, h.panel, fun _ _ => hwidth.symm⟩
    exact htold.drawPanel rows
  · exact arranged_recreate ..

/-- **The layout follows the terminal and the members.** -/
theorem kept_arranged : Kept Arranged where
  new label title number capacity rows cols logging := by
    obtain ⟨hheight, hwidth, hplain, hpanel, hnamed⟩ : Arranged rows cols
      (new label title number capacity rows cols) := arranged_layout ..
    exact ⟨hheight, hwidth, hplain, hpanel, hnamed⟩
  change {rows cols p q} h hchange := by
    cases hchange with
    | append w p line =>
      exact (h.of_view (w.backlog.push line) w.scroll).of_paneOnly (append_rest ..)
    | setTitle w p title =>
      dsimp only
      unfold setTitle
      split
      · exact h
      · exact ⟨h.height, h.width, h.plain, h.panel, h.named⟩
    | setLogging w p logging => exact ⟨h.height, h.width, h.plain, h.panel, h.named⟩
    | tell w p roster modes named => exact arranged_tell h ..
    | clear w p => exact arranged_recreate ..
    | @scrollUp w p _ _ hup =>
      obtain ⟨-, -, scroll, -, rfl⟩ := scrollUp?_eq_some hup
      exact (h.of_view w.backlog scroll).of_paneOnly (paneOnly_redrawFrom ..)
    | @scrollDown w p step _ hdown =>
      obtain ⟨-, rfl⟩ := scrollDown?_eq_some hdown
      exact (h.of_view w.backlog _).refreshView p rows
    | @scrollPanel w _ p move hmove hpanel =>
      obtain ⟨-, -, rfl⟩ := scrollPanel?_eq_some hpanel
      have hmoved : Arranged rows cols { w with roster := move w.roster } :=
        ⟨h.height, h.width, h.plain, h.panel, fun hchannel hnamed =>
          (h.named hchannel hnamed).trans (Roster.panelWidth_of_members (hmove _)).symm⟩
      exact hmoved.drawPanel rows
  recreate _ p rows cols := arranged_recreate ..
  renumber h number := ⟨h.height, h.width, h.plain, h.panel, h.named⟩

end Window
end ChatConsole
