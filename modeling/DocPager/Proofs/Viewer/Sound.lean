import DocPager.Proofs.Viewer.Copied
import DocPager.Proofs.Viewer.Input
import DocPager.Proofs.Viewer.Range
import DocPager.Proofs.Viewer.Tracking

/-!
A viewer that fits its page.  Whatever comes to it, it stays within the page, and what it holds for
each snippet and each section of the page stays where it was put at the start.
-/

namespace DocPager.Viewer

theorem sections_act (v : Viewer) (a : Action) :
    (v.act a).tracker.sections = v.tracker.sections := by
  rcases tracker_act v a with ⟨-, hflush⟩ | ⟨-, htracker⟩ | htracker
  · rw [hflush]
    exact v.tracker.sections_flush v.anchors
  · rw [htracker]
  · rw [htracker]
    rfl

theorem contains_current_act {v : Viewer} (h : v.tracker.contains v.tracker.current = true)
    (a : Action) : (v.act a).tracker.contains (v.act a).tracker.current = true := by
  rcases tracker_act v a with ⟨-, hflush⟩ | ⟨-, htracker⟩ | htracker
  · rw [hflush]
    exact Tracker.contains_current_flush h v.anchors
  · rw [htracker]
    exact h
  · rw [htracker]
    exact h

theorem contains_current_start {p : Page} {settings : Settings} {v : Viewer}
    (h : Viewer.start p settings = .ok v) : v.tracker.contains v.tracker.current = true := by
  obtain ⟨t, ht, rfl⟩ := eq_of_start h
  have hfirst : t.contains t.current = true := Tracker.contains_current_start ht
  have hnoted : (t.noteScroll 0).contains (t.noteScroll 0).current = true := hfirst
  exact Tracker.contains_current_flush hnoted _

/-- There is a timer for each snippet on screen. -/
theorem TimersFit.exists_timer {p : Page} {settings : Settings} {v : Viewer}
    (h : TimersFit p settings v) (hpage : v.page = p) {index : Nat}
    (hindex : index ∈ v.visibleSnippets) : ∃ t, v.timers[index]? = some t := by
  obtain ⟨s, hs, -⟩ := mem_visibleSnippets.mp hindex
  rw [hpage] at hs
  obtain ⟨t, ht, -⟩ := h.getElem? hs
  exact ⟨t, ht⟩

/-- What a viewer of the page `p` keeps to. -/
structure Sound (p : Page) (settings : Settings) (v : Viewer) : Prop extends InRange v where
  page : v.page = p
  timers : TimersFit p settings v
  sections : v.tracker.sections = p.navigation settings.navDepth
  current : ∃ s ∈ p.navigation settings.navDepth, s.id = v.tracker.current

theorem Sound.contains_current {p : Page} {settings : Settings} {v : Viewer}
    (h : Sound p settings v) : v.tracker.contains v.tracker.current = true := by
  rw [Tracker.contains_iff, h.sections]
  exact h.current

theorem Sound.act {p : Page} {settings : Settings} {v : Viewer} (h : Sound p settings v)
    (a : Action) : Sound p settings (v.act a) := by
  have hsections := sections_act v a
  refine ⟨h.toInRange.act a, (page_act v a).trans h.page, h.timers.act a,
    hsections.trans h.sections, ?_⟩
  rw [← h.sections, ← hsections]
  exact Tracker.contains_iff.mp (contains_current_act h.contains_current a)

/-- The active section is one of the navigation. -/
theorem Sound.exists_current {p : Page} {settings : Settings} {v : Viewer} (h : Sound p settings v) :
    ∃ s, v.tracker.sections[v.tracker.currentIndex]? = some s := by
  obtain ⟨s, hs, -⟩ := Tracker.getElem?_currentIndex h.contains_current
  exact ⟨s, hs⟩

theorem Sound.currentIndex_lt {p : Page} {settings : Settings} {v : Viewer} (h : Sound p settings v) :
    v.tracker.currentIndex < v.tracker.sections.length := by
  obtain ⟨s, hs⟩ := h.exists_current
  exact (List.getElem?_eq_some_iff.mp hs).1

theorem sound_start {source : String} {settings : Settings} {v : Viewer}
    (hstart : Viewer.start (Page.parse source) settings = .ok v)
    (htracks : Tracks (Page.parse source) settings v) : Sound (Page.parse source) settings v := by
  refine ⟨.of_start hstart, htracks.page, .of_start hstart, htracks.sections, ?_⟩
  rw [← htracks.sections]
  exact Tracker.contains_iff.mp (contains_current_start hstart)

theorem sound_run {source : String} {settings : Settings} {v : Viewer}
    (hstart : Viewer.start (Page.parse source) settings = .ok v)
    (htracks : Tracks (Page.parse source) settings v) (actions : List Action) :
    Sound (Page.parse source) settings (v.run actions) :=
  run_induction (fun _ a h => h.act a) (sound_start hstart htracks) actions

/-- A page with a heading for the navigation can be viewed, and after any events, frames, flushes and
ticks its viewer is within the page and fits it. -/
theorem sound_takeAll {source : String} {settings : Settings}
    (h : (Page.parse source).navigation settings.navDepth ≠ []) :
    ∃ v, Viewer.start (Page.parse source) settings = .ok v ∧
      ∀ inputs : List Input, Sound (Page.parse source) settings (v.takeAll inputs) := by
  obtain ⟨v, hstart, htracks⟩ := exists_start_tracks h
  refine ⟨v, hstart, fun inputs => ?_⟩
  obtain ⟨actions, hrun⟩ := exists_run_takeAll v inputs
  rw [hrun]
  exact sound_run hstart htracks actions

theorem sound_takeAll_copied :
    let p := Page.parse "# A\n\x60\x60\x60\nx\n\x60\x60\x60\n"
    p.navigation Settings.standard.navDepth ≠ [] ∧
      ∃ v, Viewer.start p .standard = .ok v ∧
        Sound p .standard (v.takeAll [.event (.key (.plain (.char ']'))) .accepts 0, .draw 8,
          .event (.key (.plain (.char 'y'))) .accepts 5, .flush, .tick 9]) := by
  intro p
  have hnav : p.navigation Settings.standard.navDepth ≠ [] := by decide
  obtain ⟨v, hstart, hsound⟩ := sound_takeAll hnav
  exact ⟨hnav, v, hstart, hsound _⟩

end DocPager.Viewer
