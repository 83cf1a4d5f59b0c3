import DocPager.Proofs.Page.Sections
import DocPager.Proofs.Viewer.Run

/-!
The active section along a run.  It is evaluated later than the scroll is noted, against the view as
it is by then.  That does no harm because a scroll that is not evaluated yet is always the present
one; so a viewer that has nothing left to evaluate shows the section that belongs to its scroll.
-/

namespace DocPager

/-- The last section of the navigation whose heading has arrived when the page is scrolled to
`scroll`. -/
def Page.lastArrived? (p : Page) (settings : Settings) (scroll : Nat) : Option Section :=
  ((p.navigation settings.navDepth).filter
    fun s => decide ((s.row : Int) ≤ scroll + settings.threshold)).getLast?

namespace Viewer

/-- The tracker is as evaluating the present scroll leaves it.  Where no heading has arrived, any
section may be the active one. -/
structure Evaluated (p : Page) (settings : Settings) (v : Viewer) : Prop where
  scrolled : v.tracker.scrolled = decide (settings.scrolledOffset < v.scroll)
  current : ∀ s, p.lastArrived? settings v.scroll = some s → v.tracker.current = s.id

/-- The tracker goes by the navigation of the page, and either the present scroll is still to be
evaluated or it is evaluated. -/
structure Tracks (p : Page) (settings : Settings) (v : Viewer) : Prop where
  page : v.page = p
  sections : v.tracker.sections = p.navigation settings.navDepth
  limits : v.tracker.limits = settings.limits
  pending : v.tracker.pending = none ∨ v.tracker.pending = some (v.scroll : Int)
  evaluated : v.tracker.pending = none → Evaluated p settings v

/-- A heading of the navigation is measured as itself, since no other section has its id. -/
theorem anchorTop_of_mem_navigation {source : String} {depth : Nat} {s : Section}
    (hs : s ∈ (Page.parse source).navigation depth) (scroll : Nat) :
    anchorTop (Page.parse source) scroll s.id = some ((s.row : Int) - scroll) := by
  rw [anchorTop, Page.section?_of_mem (Page.mem_sections_of_mem_navigation hs), Option.map_some]

namespace Tracks

variable {source : String} {settings : Settings} {v w : Viewer}

theorem arrived (h : Tracks (Page.parse source) settings v) :
    v.tracker.arrived? v.anchors = (Page.parse source).lastArrived? settings v.scroll := by
  have hmeasured : ∀ s ∈ v.tracker.sections, v.anchors s.id = some ((s.row : Int) - v.scroll) := by
    intro s hs
    rw [h.sections] at hs
    rw [anchors, h.page]
    exact anchorTop_of_mem_navigation hs v.scroll
  rw [Tracker.arrived?_eq_getLast? hmeasured, h.sections, h.limits, Page.lastArrived?]
  congr 1
  apply List.filter_congr
  intro s _
  rw [decide_eq_decide]
  show (s.row : Int) - v.scroll ≤ settings.threshold ↔ _
  omega

theorem flush (h : Tracks (Page.parse source) settings v) :
    Tracks (Page.parse source) settings v.flush := by
  refine ⟨h.page, ?_, ?_, .inl (v.tracker.pending_flush v.anchors), fun _ => ?_⟩
  · rw [← h.sections]
    exact v.tracker.sections_flush v.anchors
  · rw [← h.limits]
    exact v.tracker.limits_flush v.anchors
  · rcases h.pending with hclean | hdirty
    · rw [flush_of_clean hclean]
      exact h.evaluated hclean
    · have htracker : v.flush.tracker =
          { v.tracker with pending := none }.evaluate v.scroll v.anchors :=
        Tracker.flush_of_pending hdirty v.anchors
      constructor
      · rw [htracker]
        show decide (v.tracker.limits.scrolledOffset < v.scroll) = _
        rw [h.limits]
        rfl
      · intro s hs
        rw [htracker]
        show ((v.tracker.arrived? v.anchors).map (·.id)).getD v.tracker.current = s.id
        rw [h.arrived, show v.scroll = v.flush.scroll from rfl, hs]
        rfl

/-- Nothing but the page, the scroll and the tracker counts. -/
theorem of_eq {p : Page} (h : Tracks p settings v) (hpage : w.page = v.page)
    (hscroll : w.scroll = v.scroll) (htracker : w.tracker = v.tracker) : Tracks p settings w := by
  refine ⟨hpage.trans h.page, ?_, ?_, ?_, ?_⟩
  · rw [htracker]
    exact h.sections
  · rw [htracker]
    exact h.limits
  · rw [htracker, hscroll]
    exact h.pending
  · intro hclean
    rw [htracker] at hclean
    have he := h.evaluated hclean
    constructor
    · rw [htracker, hscroll]
      exact he.scrolled
    · rw [htracker, hscroll]
      exact he.current

/-- Once the scroll is noted again there is nothing evaluated to be right. -/
theorem of_noteScroll {p : Page} (h : Tracks p settings v) (hpage : w.page = v.page)
    (htracker : w.tracker = v.tracker.noteScroll w.scroll) : Tracks p settings w := by
  refine ⟨hpage.trans h.page, ?_, ?_, ?_, ?_⟩
  · rw [htracker]
    exact h.sections
  · rw [htracker]
    exact h.limits
  · rw [htracker]
    exact .inr rfl
  · intro hclean
    rw [htracker] at hclean
    cases hclean

theorem act (h : Tracks (Page.parse source) settings v) (a : Action) :
    Tracks (Page.parse source) settings (v.act a) := by
  rcases tracker_act v a with ⟨-, hflush⟩ | ⟨hscroll, htracker⟩ | htracker
  · rw [hflush]
    exact h.flush
  · exact h.of_eq (page_act v a) hscroll htracker
  · exact h.of_noteScroll (page_act v a) htracker

theorem run (h : Tracks (Page.parse source) settings v) (actions : List Action) :
    Tracks (Page.parse source) settings (v.run actions) :=
  run_induction (fun _ a h => h.act a) h actions

end Tracks

/-- A page with a heading for the navigation can be viewed, and the first view of it has scroll 0
evaluated. -/
theorem exists_start_tracks {source : String} {settings : Settings}
    (h : (Page.parse source).navigation settings.navDepth ≠ []) :
    ∃ v, Viewer.start (Page.parse source) settings = .ok v ∧
      Tracks (Page.parse source) settings v := by
  obtain ⟨first, rest, hnav⟩ := List.exists_cons_of_ne_nil h
  have hsorted : (first :: rest).Pairwise (·.order ≤ ·.order) := by
    rw [← hnav]
    exact (Page.pairwise_order_navigation source _).imp Nat.le_of_lt
  let unevaluated : Viewer :=
    { page := Page.parse source
      tracker :=
        { sections := first :: rest, limits := settings.limits, current := first.id,
          scrolled := false, pending := some 0 }
      timers := (Page.parse source).snippets.map fun s => .dark s.text settings.copiedFor
      scroll := 0
      height := 1
      selected := none
      navOpen := false
      notice := none }
  have htracks : Tracks (Page.parse source) settings unevaluated :=
    ⟨rfl, hnav.symm, rfl, .inr rfl, fun hclean => by cases hclean⟩
  refine ⟨unevaluated.flush, ?_, htracks.flush⟩
  rw [Viewer.start, hnav, Tracker.start_of_pairwise settings.limits hsorted]
  rfl

/-- Only a flush makes another section the active one or changes whether the page counts as
scrolled. -/
theorem current_scrolled_act {a : Action} (ha : a ≠ .flush) (v : Viewer) :
    (v.act a).tracker.current = v.tracker.current ∧
      (v.act a).tracker.scrolled = v.tracker.scrolled := by
  rcases tracker_act v a with ⟨hflush, -⟩ | ⟨-, htracker⟩ | htracker
  · exact absurd hflush ha
  · rw [htracker]
    exact ⟨rfl, rfl⟩
  · rw [htracker]
    exact ⟨rfl, rfl⟩

/-- Along every run the scroll that waits to be evaluated is the present one.  When none waits, the
page counts as scrolled exactly beyond the offset, and the last section of the navigation whose
heading has arrived is the active one.  Only a flush changes either. -/
theorem active_section_follows_scroll (source : String) (settings : Settings)
    (h : (Page.parse source).navigation settings.navDepth ≠ []) :
    ∃ v, Viewer.start (Page.parse source) settings = .ok v ∧ ∀ actions : List Action,
      ((v.run actions).tracker.pending = none ∨
        (v.run actions).tracker.pending = some ((v.run actions).scroll : Int)) ∧
      ((v.run actions).tracker.pending = none →
        (v.run actions).tracker.scrolled =
          decide (settings.scrolledOffset < (v.run actions).scroll) ∧
        ∀ s, (Page.parse source).lastArrived? settings (v.run actions).scroll = some s →
          (v.run actions).tracker.current = s.id) ∧
      ∀ a, a ≠ .flush →
        ((v.run actions).act a).tracker.current = (v.run actions).tracker.current ∧
        ((v.run actions).act a).tracker.scrolled = (v.run actions).tracker.scrolled := by
  obtain ⟨v, hstart, htracks⟩ := exists_start_tracks h
  refine ⟨v, hstart, fun actions => ?_⟩
  have hrun := htracks.run actions
  refine ⟨hrun.pending, fun hclean => ?_, fun a ha => current_scrolled_act ha _⟩
  exact ⟨(hrun.evaluated hclean).scrolled, (hrun.evaluated hclean).current⟩

/-- The second heading arrives when the page is scrolled to row 2. -/
theorem active_section_follows_scroll_two_headings :
    let p := Page.parse "# A\n\nx\n\n\n## B\n"
    p.navigation Settings.standard.navDepth ≠ [] ∧
      ∃ v, Viewer.start p .standard = .ok v ∧
        (∀ actions, (v.run (actions ++ [.flush])).tracker.scrolled =
          decide (1 < ((v.run (actions ++ [.flush])).scroll : Int))) ∧
        (v.run [.scrollTo 1, .flush]).tracker.current = "a" ∧
        (v.run [.scrollTo 2]).tracker.current = "a" ∧
        (v.run [.scrollTo 2, .flush]).tracker.current = "b" := by
  intro p
  have hnav : p.navigation Settings.standard.navDepth ≠ [] := by decide
  obtain ⟨v, hstart, hrun⟩ := active_section_follows_scroll _ Settings.standard hnav
  have hclean : ∀ actions, (v.run (actions ++ [.flush])).tracker.pending = none := by
    intro actions
    rw [run_append, run_singleton]
    exact Tracker.pending_flush _ _
  have hview : ∃ u, Viewer.start p .standard = .ok u ∧ u.tracker.current = "a" ∧
      (u.run [.scrollTo 1, .flush]).scroll = 1 ∧ (u.run [.scrollTo 2, .flush]).scroll = 2 :=
    ⟨_, rfl, by decide, by decide, by decide⟩
  obtain ⟨u, hu, hcurrent, hone, htwo⟩ := hview
  obtain rfl : u = v := Except.ok.inj (hu.symm.trans hstart)
  have hfirst := ((hrun [.scrollTo 1, .flush]).2.1 (hclean [.scrollTo 1])).2 ⟨"a", "A", 1, 0, 0⟩
    (by rw [hone]; decide)
  have hsecond := ((hrun [.scrollTo 2, .flush]).2.1 (hclean [.scrollTo 2])).2 ⟨"b", "B", 2, 1, 5⟩
    (by rw [htwo]; decide)
  have hwaits := ((hrun []).2.2 (.scrollTo 2) nofun).1
  exact ⟨hnav, u, hstart, fun actions => ((hrun (actions ++ [.flush])).2.1 (hclean actions)).1, hfirst,
    hwaits.trans hcurrent, hsecond⟩

end Viewer
end DocPager
