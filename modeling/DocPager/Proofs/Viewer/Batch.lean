import DocPager.Proofs.Viewer.Input
import DocPager.Proofs.Viewer.Position

/-!
Events that come in together are evaluated once, after the last of them.  A reader who moves along the
navigation between two evaluations still starts from the section that was active at the first of them.
As long as that is the section the scroll has come to as well, it makes no difference to the viewer
whether it evaluates once or after every event.
-/

namespace DocPager.Viewer

/-- The viewer after events that are evaluated one by one, `none` if one of them closes it. -/
def handleEach (v : Viewer) : List Arrival → Option Viewer
  | [] => some v
  | a :: rest => (v.handle a.event a.clipboard a.now).bind fun w => w.flush.handleEach rest

theorem handleAll_cons (v : Viewer) (a : Arrival) (rest : List Arrival) :
    v.handleAll (a :: rest) =
      (v.handle a.event a.clipboard a.now).bind fun w => w.handleAll rest := rfl

/-- Each event that starts from the active section finds the one that belongs to the scroll. -/
def FindsActive (v : Viewer) (arrivals : List Arrival) : Prop :=
  ∀ before a after u, arrivals = before ++ a :: after → v.handleAll before = some u →
    a.event.goesByActive = true → u.flush.tracker.current = u.tracker.current

theorem FindsActive.tail {v w : Viewer} {a : Arrival} {rest : List Arrival}
    (h : FindsActive v (a :: rest)) (hw : v.handle a.event a.clipboard a.now = some w) :
    FindsActive w rest := by
  intro before b after u hrest hu hb
  refine h (a :: before) b after u (by rw [hrest]; rfl) ?_ hb
  rw [handleAll_cons, hw]
  exact hu

theorem current_handle {v w : Viewer} {event : Event} {clipboard : Clipboard} {now : Nat}
    (h : v.handle event clipboard now = some w) : w.tracker.current = v.tracker.current := by
  rcases act_of_handle h with rfl | ⟨a, hflush, rfl⟩
  · rfl
  · exact (current_scrolled_act hflush v).1

theorem current_handleAll {v w : Viewer} {arrivals : List Arrival}
    (h : v.handleAll arrivals = some w) : w.tracker.current = v.tracker.current := by
  induction arrivals generalizing v with
  | nil =>
    obtain rfl := Option.some.inj h
    rfl
  | cons a rest ih =>
    obtain ⟨u, hu, hrest⟩ := Option.bind_eq_some_iff.mp h
    exact (ih hrest).trans (current_handle hu)

section Tracks

variable {source : String} {settings : Settings} {v w : Viewer}

theorem Tracks.handle (h : Tracks (Page.parse source) settings v) {event : Event}
    {clipboard : Clipboard} {now : Nat} (hw : v.handle event clipboard now = some w) :
    Tracks (Page.parse source) settings w := by
  rcases act_of_handle hw with rfl | ⟨a, -, rfl⟩
  · exact h
  · exact h.act a

theorem Tracks.handleAll (h : Tracks (Page.parse source) settings v) {arrivals : List Arrival}
    (hw : v.handleAll arrivals = some w) : Tracks (Page.parse source) settings w := by
  induction arrivals generalizing v with
  | nil =>
    obtain rfl := Option.some.inj hw
    exact h
  | cons a rest ih =>
    obtain ⟨u, hu, hrest⟩ := Option.bind_eq_some_iff.mp hw
    exact ih (h.handle hu) hrest

variable (hv : Tracks (Page.parse source) settings v)
  (hpos : ∀ scroll, 0 < (Page.parse source).arrivedCount settings scroll)
include hv hpos

/-- What is evaluated is told by the scroll, so viewers that are alike are the same after a flush. -/
theorem Tracks.flush_eq_of_alike (hw : Tracks (Page.parse source) settings w) (h : Alike v w) :
    w.flush = v.flush := by
  have halike : Alike v.flush w.flush := ((alike_flush v).symm.trans h).trans (alike_flush w)
  have hclean : v.flush.tracker.pending = none := v.tracker.pending_flush v.anchors
  have hclean' : w.flush.tracker.pending = none := w.tracker.pending_flush w.anchors
  obtain ⟨hcurrent, hscrolled⟩ :=
    hw.flush.eq_of_scroll_eq hclean' (hpos _) hv.flush hclean halike.scroll
  exact halike.eq_of_tracker hcurrent hscrolled (hclean'.trans hclean.symm)

/-- A flush now and after every event comes to the same as one flush at the end. -/
theorem Tracks.handleEach_flush {arrivals : List Arrival} (hfinds : FindsActive v arrivals) :
    v.flush.handleEach arrivals = (v.handleAll arrivals).map Viewer.flush := by
  induction arrivals generalizing v with
  | nil => rfl
  | cons a rest ih =>
    have hrel := sameAct_handle (alike_flush v) a.event a.clipboard a.now
    rw [handleAll_cons, handleEach]
    generalize hx : v.handle a.event a.clipboard a.now = x at hrel ⊢
    generalize hy : v.flush.handle a.event a.clipboard a.now = y at hrel ⊢
    cases hrel with
    | none => rfl
    | @some v' w' hstep =>
      have halike : Alike v' w' := by
        rcases hstep with ⟨rfl, rfl⟩ | ⟨b, -, hb, rfl, rfl⟩
        · exact alike_flush _
        · exact (alike_flush v).act fun hgoes => hfinds [] a rest v rfl rfl (hb hgoes)
      have hv' := hv.handle hx
      show w'.flush.handleEach rest = (v'.handleAll rest).map Viewer.flush
      rw [hv'.flush_eq_of_alike hpos (hv.flush.handle hy) halike]
      exact ih hv' (hfinds.tail hx)

variable (hclean : v.tracker.pending = none)
include hclean

theorem Tracks.handleEach_of_clean {arrivals : List Arrival} (hfinds : FindsActive v arrivals) :
    v.handleEach arrivals = (v.handleAll arrivals).map Viewer.flush := by
  rw [← hv.handleEach_flush hpos hfinds, flush_of_clean hclean]

/-- Events that start from the active section do no harm before the first one that scrolls. -/
theorem Tracks.handleEach_of_scroll_eq {arrivals : List Arrival}
    (hstays : ∀ before a after u, arrivals = before ++ a :: after → v.handleAll before = some u →
      a.event.goesByActive = true → u.scroll = v.scroll) :
    v.handleEach arrivals = (v.handleAll arrivals).map Viewer.flush := by
  apply hv.handleEach_of_clean hpos hclean
  intro before a after u hsplit hu ha
  have hscroll : u.flush.scroll = v.scroll :=
    (alike_flush u).scroll.symm.trans (hstays before a after u hsplit hu ha)
  have hsame := (hv.handleAll hu).flush.eq_of_scroll_eq (u.tracker.pending_flush u.anchors) (hpos _) hv
    hclean hscroll
  rw [hsame.1, current_handleAll hu]

theorem Tracks.handleEach_of_goesByActive_eq_false {arrivals : List Arrival}
    (hnone : ∀ a ∈ arrivals, a.event.goesByActive = false) :
    v.handleEach arrivals = (v.handleAll arrivals).map Viewer.flush := by
  apply hv.handleEach_of_scroll_eq hpos hclean
  intro before a after u hsplit _ ha
  have hmem : a ∈ arrivals := by simp [hsplit]
  rw [hnone a hmem] at ha
  cases ha

end Tracks

/-- Events that come in together are all handled with the section active that was active before them.
If each event that starts from the active section finds that one still belonging to the scroll, then
the viewer after a flush at the end is the viewer after a flush at every event.  They all do where the
scroll has not moved before the last of them, and where there are none. -/
theorem handleEach_eq_flush_handleAll {source : String} {settings : Settings} {first : Section}
    (hfirst : ((Page.parse source).navigation settings.navDepth).head? = some first)
    (hrow : (first.row : Int) ≤ settings.threshold) :
    ∃ v, Viewer.start (Page.parse source) settings = .ok v ∧
      ∀ actions : List Action, (v.run actions).tracker.isDirty = false →
        ∀ arrivals : List Arrival,
          (∀ before after u, arrivals = before ++ after → (v.run actions).handleAll before = some u →
            u.tracker.current = (v.run actions).tracker.current) ∧
          ((∀ before a after u, arrivals = before ++ a :: after →
              (v.run actions).handleAll before = some u → a.event.goesByActive = true →
              u.flush.tracker.current = (v.run actions).tracker.current) →
            (v.run actions).handleEach arrivals =
              ((v.run actions).handleAll arrivals).map flush) ∧
          ((∀ before a after u, arrivals = before ++ a :: after →
              (v.run actions).handleAll before = some u → a.event.goesByActive = true →
              u.scroll = (v.run actions).scroll) →
            (v.run actions).handleEach arrivals =
              ((v.run actions).handleAll arrivals).map flush) ∧
          ((∀ a ∈ arrivals, a.event.goesByActive = false) →
            (v.run actions).handleEach arrivals =
              ((v.run actions).handleAll arrivals).map flush) := by
  have hne : (Page.parse source).navigation settings.navDepth ≠ [] :=
    List.ne_nil_of_mem (List.mem_of_head? hfirst)
  obtain ⟨v, hstart, htracks⟩ := exists_start_tracks hne
  refine ⟨v, hstart, fun actions hclean arrivals => ?_⟩
  have hrun := htracks.run actions
  have hpos := Page.arrivedCount_pos hfirst hrow
  have hevaluated : (v.run actions).tracker.pending = none := Tracker.isDirty_eq_false_iff.mp hclean
  refine ⟨fun _ _ u _ hu => current_handleAll hu, fun hstays => ?_,
    hrun.handleEach_of_scroll_eq hpos hevaluated,
    hrun.handleEach_of_goesByActive_eq_false hpos hevaluated⟩
  apply hrun.handleEach_of_clean hpos hevaluated
  intro before a after u hsplit hu ha
  rw [hstays before a after u hsplit hu ha, current_handleAll hu]

theorem handleEach_eq_flush_handleAll_tab_wheel :
    let p := Page.parse "# A\n\n\n\n## B\n\n\n\n## C\n"
    let tab : Arrival := { event := .key (.plain .tab), clipboard := .accepts, now := 0 }
    let wheel : Arrival := { event := .mouse .wheelDown, clipboard := .accepts, now := 1 }
    (p.navigation Settings.standard.navDepth).head? = some ⟨"a", "A", 1, 0, 0⟩ ∧
      ((0 : Nat) : Int) ≤ Settings.standard.threshold ∧
      ∃ v, Viewer.start p .standard = .ok v ∧ (v.run [.flush]).tracker.isDirty = false ∧
        (∀ before a after u, [tab, wheel] = before ++ a :: after →
          (v.run [.flush]).handleAll before = some u → a.event.goesByActive = true →
          u.flush.tracker.current = (v.run [.flush]).tracker.current) ∧
        (v.run [.flush]).handleEach [tab, wheel] =
          ((v.run [.flush]).handleAll [tab, wheel]).map flush := by
  intro p tab wheel
  have hfirst : (p.navigation Settings.standard.navDepth).head? = some ⟨"a", "A", 1, 0, 0⟩ := by
    decide
  have hrow : ((0 : Nat) : Int) ≤ Settings.standard.threshold := by decide
  obtain ⟨v, hstart, hbatch⟩ := handleEach_eq_flush_handleAll hfirst hrow
  have hclean : (v.run [.flush]).tracker.isDirty = false := Tracker.isDirty_flush _ _
  have hstays : ∀ before a after u, [tab, wheel] = before ++ a :: after →
      (v.run [.flush]).handleAll before = some u → a.event.goesByActive = true →
      u.flush.tracker.current = (v.run [.flush]).tracker.current := by
    intro before a after u hsplit hu ha
    cases before with
    | nil =>
      obtain rfl := Option.some.inj hu
      rw [flush_of_clean (Tracker.isDirty_eq_false_iff.mp hclean)]
    | cons b before =>
      -- Only the first of the two events starts from the active section.
      have hmem : a ∈ [wheel] := by
        rw [(List.cons.inj hsplit).2]
        simp
      obtain rfl := List.mem_singleton.mp hmem
      cases ha
  exact ⟨hfirst, hrow, v, hstart, hclean, hstays, (hbatch _ hclean _).2.1 hstays⟩

/-- The second of two moves along the navigation starts from where the first one did, unless the first
one is evaluated before it. -/
theorem handleEach_ne_flush_handleAll_two_tabs :
    let p := Page.parse "# A\n\n\n\n## B\n\n\n\n## C\n"
    let tab : Arrival := { event := .key (.plain .tab), clipboard := .accepts, now := 0 }
    0 ≤ Settings.standard.threshold ∧
      (p.navigation Settings.standard.navDepth).head? = some ⟨"a", "A", 1, 0, 0⟩ ∧
      ((0 : Nat) : Int) ≤ Settings.standard.threshold ∧
      ∃ v once each, Viewer.start p .standard = .ok v ∧ v.tracker.isDirty = false ∧
        (v.handleAll [tab, tab]).map flush = some once ∧ v.handleEach [tab, tab] = some each ∧
        once.scroll = 4 ∧ each.scroll = 8 ∧
        once.tracker.current = "b" ∧ each.tracker.current = "c" := by
  refine ⟨by decide, by decide, by decide, _, _, _, rfl, ?_, rfl, rfl, ?_, ?_, ?_, ?_⟩ <;> decide

end DocPager.Viewer
