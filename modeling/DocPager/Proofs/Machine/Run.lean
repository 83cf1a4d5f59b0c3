import DocPager.Proofs.Machine.Frame

/-!
Runs of a viewer on a machine.  Actions and draws follow each other in any order, from the start of the
viewer on.  Each of them leaves a bounded viewer bounded, and so none of them ends in a fault: the
machine shows and does what exact numbers say.
-/

namespace DocPager.Machine

open Highlight (CodeRow)
open Viewer (Action)

/-- What happens to an open viewer. -/
inductive Step where
  | act (action : Action)
  | draw (code : List CodeRow) (screenHeight now : Nat)
  deriving DecidableEq, Repr

namespace Step

/-- A step that a machine can be asked for. -/
def Fits : Step → Prop
  | .act action => ActionFits action
  | .draw _ screenHeight _ => screenHeight < 2 ^ 64

/-- The viewer after a step with exact numbers. -/
def after (v : Viewer) : Step → Viewer
  | .act action => v.act action
  | .draw _ screenHeight _ => v.fit screenHeight

def afterAll (v : Viewer) (steps : List Step) : Viewer := steps.foldl after v

end Step

def step (v : Viewer) : Step → Checked Viewer
  | .act action => act v action
  | .draw code screenHeight now => do
    let drawing ← draw v code screenHeight now
    return drawing.viewer

def run (v : Viewer) (steps : List Step) : Checked Viewer := steps.foldlM step v

/-! ## Bounded viewers stay bounded -/

section

variable {source : String} {settings : Settings} {v : Viewer}

theorem Bounded.after (h : Bounded source settings v) {s : Step} (hs : s.Fits) :
    Bounded source settings (s.after v) := by
  cases s with
  | act action => exact h.act hs
  | draw code screenHeight now => exact h.fit hs

theorem step_eq (h : Bounded source settings v) {s : Step} (hs : s.Fits) :
    step v s = pure (s.after v) := by
  cases s with
  | act action => exact act_eq h action
  | draw code screenHeight now =>
    rw [step, draw_eq h code hs now, pure_bind]
    rfl

theorem run_eq (h : Bounded source settings v) {steps : List Step} (hsteps : ∀ s ∈ steps, s.Fits) :
    run v steps = pure (Step.afterAll v steps) ∧
      Bounded source settings (Step.afterAll v steps) := by
  induction steps generalizing v with
  | nil => exact ⟨rfl, h⟩
  | cons s rest ih =>
    rw [List.forall_mem_cons] at hsteps
    obtain ⟨hrun, hbounded⟩ := ih (h.after hsteps.1) hsteps.2
    refine ⟨?_, hbounded⟩
    rw [run, List.foldlM_cons, step_eq h hsteps.1, pure_bind]
    exact hrun

/-- A viewer starts with dark indicators and one row on screen. -/
theorem exists_start_bounded (hnav : (Page.parse source).navigation settings.navDepth ≠ [])
    (hheight : (Page.parse source).height < 2 ^ 63)
    (hsections : (Page.parse source).sections.length < 2 ^ 64)
    (hhold : settings.copiedFor < 2 ^ 64) :
    ∃ v, Viewer.start (Page.parse source) settings = .ok v ∧ Bounded source settings v := by
  obtain ⟨v, hstart, htracks⟩ := Viewer.exists_start_tracks hnav
  refine ⟨v, hstart, Viewer.sound_start hstart htracks, hheight, hsections, ?_, ?_⟩
  · obtain ⟨t, -, rfl⟩ := Viewer.eq_of_start hstart
    show 1 < 2 ^ 64
    decide
  · obtain ⟨t, -, rfl⟩ := Viewer.eq_of_start hstart
    intro timer htimer
    obtain ⟨s, -, rfl⟩ := List.mem_map.mp htimer
    exact ⟨hhold, fun time htime => by cases htime⟩

end

/-- A page with a heading for the navigation can be viewed on a machine, and no run of actions and
draws comes to a fault, nor does anything that is asked of the viewer after it.  All that comes of them
is what comes of exact numbers.  The sections are as many as a word counts, as those of any list that a
machine holds. -/
theorem run_without_fault {source : String} {settings : Settings}
    (hnav : (Page.parse source).navigation settings.navDepth ≠ [])
    (hheight : (Page.parse source).height < 2 ^ 63)
    (hsections : (Page.parse source).sections.length < 2 ^ 64)
    (hhold : settings.copiedFor < 2 ^ 64) :
    ∃ v, start (Page.parse source) settings = .ok (.ok v) ∧
      Viewer.start (Page.parse source) settings = .ok v ∧
      ∀ steps : List Step, (∀ s ∈ steps, s.Fits) → let w := Step.afterAll v steps
        run v steps = .ok w ∧
        visibleSnippets w = .ok w.visibleSnippets ∧
        nextDeadline? w = .ok w.nextDeadline? ∧
        (∀ index now, isCopied w index now = .ok (w.isCopied index now)) ∧
        (∀ id, anchorTop w.page w.scroll id = .ok (w.anchors id)) ∧
        ∀ code screenHeight now, screenHeight < 2 ^ 64 →
          draw w code screenHeight now = .ok (.ofViewer w code screenHeight now) := by
  obtain ⟨v, hstart, hbounded⟩ := exists_start_bounded hnav hheight hsections hhold
  refine ⟨v, ?_, hstart, fun steps hsteps => ?_⟩
  · rw [start_eq hheight, hstart]
    rfl
  · intro w
    obtain ⟨hrun, hw⟩ := run_eq hbounded hsteps
    have hrows : ∀ s ∈ w.page.sections, s.row < 2 ^ 63 := fun s hs => (hw.section_within hs).2
    exact ⟨hrun, visibleSnippets_eq hw, nextDeadline?_eq hw.timely, isCopied_eq hw.timely,
      anchorTop_eq hrows hw.scroll_lt, fun code _ now hscreen => draw_eq hw code hscreen now⟩

/-- The view is as high as a word allows for a while, and a snippet is copied as late as can be and
shown as copied as long as can be. -/
theorem run_without_fault_extreme :
    let p := Page.parse "# A\n\x60\x60\x60\nx\n\x60\x60\x60\n## B\n"
    let settings := { Settings.standard with copiedFor := 2 ^ 64 - 1 }
    let steps : List Step := [.act .selectNext, .act .pageDown, .act (.resize (2 ^ 64 - 1)),
      .act (.copy .accepts (2 ^ 62 * 1000 - 1)), .act .nextNav, .draw [] 8 7, .act .flush,
      .act .prevNav]
    p.navigation settings.navDepth ≠ [] ∧ p.height < 2 ^ 63 ∧ p.sections.length < 2 ^ 64 ∧
      settings.copiedFor < 2 ^ 64 ∧ (∀ s ∈ steps, s.Fits) ∧
      ∃ v w, start p settings = .ok (.ok v) ∧ run v steps = .ok w ∧ w.scroll = 0 ∧ w.height = 2 ∧
        nextDeadline? w = .ok (some (2 ^ 62 * 1000 - 1 + (2 ^ 64 - 1))) := by
  intro p settings steps
  have hnav : p.navigation settings.navDepth ≠ [] := by decide
  have hheight : p.height < 2 ^ 63 := by decide
  have hsections : p.sections.length < 2 ^ 64 := by decide
  have hhold : settings.copiedFor < 2 ^ 64 := by decide
  have hsteps : ∀ s ∈ steps, s.Fits := by
    simp [steps, Step.Fits, ActionFits]
  obtain ⟨v, hstart, hexact, hruns⟩ := run_without_fault hnav hheight hsections hhold
  obtain ⟨hrun, -, hdeadline, -⟩ := hruns steps hsteps
  have hend : ∃ u, Viewer.start p settings = .ok u ∧
      (Step.afterAll u steps).scroll = 0 ∧ (Step.afterAll u steps).height = 2 ∧
      (Step.afterAll u steps).nextDeadline? = some (2 ^ 62 * 1000 - 1 + (2 ^ 64 - 1)) :=
    ⟨_, rfl, by decide, by decide, by decide⟩
  obtain ⟨u, hu, hscroll, hlow, hlast⟩ := hend
  obtain rfl : u = v := Except.ok.inj (hu.symm.trans hexact)
  rw [hlast] at hdeadline
  exact ⟨hnav, hheight, hsections, hhold, hsteps, u, _, hstart, hrun, hscroll, hlow, hdeadline⟩

end DocPager.Machine
