/-
# What is drawn in a window

A pane is poured on and a panel is drawn on from the top down, and either is blanked before it is drawn
anew.  So whatever is done with a window, the rows of its pane and of its panel are made of whole glyphs
(`kept_neat`).
-/

import ChatConsole.Proofs.Window.Changes
import ChatConsole.Proofs.Window.Panel

namespace ChatConsole
namespace Window

/-- The pane and the panel have been written on row by row; the panel does not scroll. -/
structure Neat (w : Window) : Prop where
  pane : w.pane.Neat
  panel : ∀ panel, w.panel = some panel → panel.scrolls = false ∧ panel.Neat

variable {w v : Window}

theorem Neat.of_paneOnly (h : w.Neat) (hv : PaneOnly w v) : v.Neat := by
  have hpane := hv.kept Grid.steady_neat h.pane
  rw [hv.rest]
  exact ⟨hpane, h.panel⟩

/-- A layout blanks the pane and the panel. -/
theorem neat_layout (hpanel : ∀ panel, w.panel = some panel → panel.scrolls = false)
    (rows cols : Nat) : (w.layout rows cols).Neat := by
  unfold layout
  split
  · refine ⟨Grid.neat_resize .., ?_⟩
    intro panel hsome
    obtain rfl := Option.some.inj hsome
    refine ⟨?_, Grid.neat_resize ..⟩
    cases hold : w.panel with
    | none => rfl
    | some old => exact hpanel old hold
  · refine ⟨Grid.neat_resize .., ?_⟩
    intro panel hsome
    cases hsome

namespace Neat

theorem layout (h : w.Neat) (rows cols : Nat) : (w.layout rows cols).Neat :=
  neat_layout (fun panel hpanel => (h.panel panel hpanel).1) rows cols

theorem drawPanel (h : w.Neat) (rows : Nat) : (w.drawPanel rows).Neat := by
  rcases w.drawPanel_cases rows with hsame | ⟨panel, page, hpanel, hdrawn⟩
  · rwa [hsame]
  · have hscrolls := (h.panel panel hpanel).1
    rw [hdrawn]
    refine ⟨h.pane, ?_⟩
    intro drawn hsome
    obtain rfl := Option.some.inj hsome
    exact ⟨(Roster.frame_drawPage ..).scrolls.trans hscrolls, Roster.neat_drawPage hscrolls ..⟩

theorem refreshView (h : w.Neat) (p : Color.Palette) (rows : Nat) :
    (w.refreshView p rows).1.Neat := by
  unfold Window.refreshView
  split
  · exact h.of_paneOnly (paneOnly_redrawFrom ..)
  · dsimp only
    split
    · have hthawed : Neat { w with scroll := {} } := ⟨h.pane, h.panel⟩
      exact hthawed.of_paneOnly (paneOnly_redrawFull ..)
    · exact h.of_paneOnly (paneOnly_redrawFull ..)

theorem recreate (h : w.Neat) (p : Color.Palette) (rows cols : Nat) :
    (w.recreate p rows cols).1.Neat :=
  ((h.layout rows cols).drawPanel rows).refreshView p rows

end Neat

/-- **The rows of panes and panels are whole.** -/
theorem kept_neat : Kept fun _ _ w => Neat w where
  new label title number capacity rows cols logging := by
    obtain ⟨hpane, hpanel⟩ : Neat (new label title number capacity rows cols) :=
      neat_layout (fun _ hpanel => by cases hpanel) rows cols
    exact ⟨hpane, hpanel⟩
  change {rows cols p q} h hchange := by
    cases hchange with
    | append w p line =>
      have hstored : Neat { w with backlog := w.backlog.push line } := ⟨h.pane, h.panel⟩
      exact hstored.of_paneOnly (append_rest ..)
    | setTitle w p title =>
      dsimp only
      unfold setTitle
      split
      · exact h
      · exact ⟨h.pane, h.panel⟩
    | setLogging w p logging => exact ⟨h.pane, h.panel⟩
    | tell w p roster modes named =>
      have htold : Neat { w with roster, modes, named } := ⟨h.pane, h.panel⟩
      rcases updatePanel?_cases { w with roster, modes, named } p rows cols with
        ⟨-, hupdate⟩ | ⟨-, -, ⟨-, hupdate⟩ | hupdate⟩ <;> rw [hupdate]
      · exact htold
      · exact htold.drawPanel rows
      · exact htold.recreate p rows cols
    | clear w p =>
      have hcleared : Neat { w with backlog := w.backlog.clear, scroll := {} } := ⟨h.pane, h.panel⟩
      exact hcleared.recreate p rows cols
    | @scrollUp w p _ _ hup =>
      obtain ⟨-, -, scroll, -, rfl⟩ := scrollUp?_eq_some hup
      have hscrolled : Neat { w with scroll } := ⟨h.pane, h.panel⟩
      exact hscrolled.of_paneOnly (paneOnly_redrawFrom ..)
    | @scrollDown w p step _ hdown =>
      obtain ⟨-, rfl⟩ := scrollDown?_eq_some hdown
      have hscrolled : Neat { w with scroll := { w.scroll with back := w.scroll.back - step } } :=
        ⟨h.pane, h.panel⟩
      exact hscrolled.refreshView p rows
    | @scrollPanel w _ p move hmove hpanel =>
      obtain ⟨-, -, rfl⟩ := scrollPanel?_eq_some hpanel
      have hmoved : Neat { w with roster := move w.roster } := ⟨h.pane, h.panel⟩
      exact hmoved.drawPanel rows
  recreate h p rows cols := h.recreate p rows cols
  renumber h number := ⟨h.pane, h.panel⟩

end Window
end ChatConsole
