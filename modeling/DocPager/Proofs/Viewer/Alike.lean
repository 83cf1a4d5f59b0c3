import DocPager.Proofs.Viewer.Run

/-!
Viewers that differ in nothing but what is noted and evaluated of their scroll.  They stay so whatever
is done to both, as long as they agree on the active section where a move along the navigation starts
from it.
-/

namespace DocPager.Viewer

/-- `w` is `v` but for what its tracker has noted and evaluated. -/
def Alike (v w : Viewer) : Prop :=
  ∃ t : Tracker, t.sections = v.tracker.sections ∧ t.limits = v.tracker.limits ∧
    w = { v with tracker := t }

namespace Action

/-- Whether an action starts from the active section. -/
def goesByActive : Action → Bool
  | .nextNav | .prevNav => true
  | _ => false

end Action

theorem alike_flush (v : Viewer) : Alike v v.flush :=
  ⟨v.flush.tracker, v.tracker.sections_flush _, v.tracker.limits_flush _, rfl⟩

namespace Alike

variable {u v w : Viewer}

theorem refl (v : Viewer) : Alike v v := ⟨v.tracker, rfl, rfl, rfl⟩

theorem symm (h : Alike v w) : Alike w v := by
  obtain ⟨t, hsections, hlimits, rfl⟩ := h
  exact ⟨v.tracker, hsections.symm, hlimits.symm, rfl⟩

theorem trans (huv : Alike u v) (hvw : Alike v w) : Alike u w := by
  obtain ⟨t, hsections, hlimits, rfl⟩ := huv
  obtain ⟨t', hsections', hlimits', rfl⟩ := hvw
  exact ⟨t', hsections'.trans hsections, hlimits'.trans hlimits, rfl⟩

variable (h : Alike v w)
include h

theorem page : w.page = v.page := by
  obtain ⟨t, -, -, rfl⟩ := h
  rfl

theorem sections : w.tracker.sections = v.tracker.sections := by
  obtain ⟨t, hsections, -, rfl⟩ := h
  exact hsections

theorem scroll : w.scroll = v.scroll := by
  obtain ⟨t, -, -, rfl⟩ := h
  rfl

theorem height : w.height = v.height := by
  obtain ⟨t, -, -, rfl⟩ := h
  rfl

theorem selected : w.selected = v.selected := by
  obtain ⟨t, -, -, rfl⟩ := h
  rfl

theorem navOpen : w.navOpen = v.navOpen := by
  obtain ⟨t, -, -, rfl⟩ := h
  rfl

theorem maxScroll : w.maxScroll = v.maxScroll := by
  rw [Viewer.maxScroll, Viewer.maxScroll, h.page, h.height]

/-- Only these three parts of the tracker can tell the viewers apart. -/
theorem eq_of_tracker (hcurrent : w.tracker.current = v.tracker.current)
    (hscrolled : w.tracker.scrolled = v.tracker.scrolled)
    (hpending : w.tracker.pending = v.tracker.pending) : w = v := by
  obtain ⟨⟨sections, limits, current, scrolled, pending⟩, hsections, hlimits, rfl⟩ := h
  obtain ⟨page, tracker, timers, scroll, height, selected, navOpen, notice⟩ := v
  obtain rfl : sections = tracker.sections := hsections
  obtain rfl : limits = tracker.limits := hlimits
  obtain rfl : current = tracker.current := hcurrent
  obtain rfl : scrolled = tracker.scrolled := hscrolled
  obtain rfl : pending = tracker.pending := hpending
  rfl

/-! ## What scrolls both -/

theorem scrollTo (row : Nat) : Alike (v.scrollTo row) (w.scrollTo row) := by
  simp only [Viewer.scrollTo, h.maxScroll, h.scroll]
  obtain ⟨t, hsections, hlimits, rfl⟩ := h
  split
  · exact ⟨t, hsections, hlimits, rfl⟩
  · exact ⟨t.noteScroll _, hsections, hlimits, rfl⟩

theorem resize (height : Nat) : Alike (v.resize height) (w.resize height) := by
  obtain ⟨t, hsections, hlimits, rfl⟩ := h
  have hfit : Alike { v with height := max height 1 }
      { v with height := max height 1, tracker := t } := ⟨t, hsections, hlimits, rfl⟩
  simp only [Viewer.resize, hfit.maxScroll]
  split
  · exact hfit.scrollTo _
  · exact hfit

theorem jump (link : String) : Alike ((v.jump? link).getD v) ((w.jump? link).getD w) := by
  rw [jump?, jump?, h.page]
  cases v.page.section? (linkTarget link) with
  | none => exact h
  | some s => exact h.scrollTo s.row

theorem jumpToNav (index : Nat) :
    Alike ((v.jumpToNav? index).getD v) ((w.jumpToNav? index).getD w) := by
  rw [jumpToNav?, jumpToNav?, h.sections]
  cases v.tracker.sections[index]? with
  | none => exact h
  | some s => exact h.jump s.id

theorem currentIndex (hcurrent : w.tracker.current = v.tracker.current) :
    w.tracker.currentIndex = v.tracker.currentIndex := by
  rw [Tracker.currentIndex, Tracker.currentIndex, h.sections, hcurrent]

theorem nextNav (hcurrent : w.tracker.current = v.tracker.current) :
    Alike (v.nextNav?.getD v) (w.nextNav?.getD w) := by
  rw [nextNav?, nextNav?, h.currentIndex hcurrent]
  exact h.jumpToNav _

theorem prevNav (hcurrent : w.tracker.current = v.tracker.current) :
    Alike (v.prevNav?.getD v) (w.prevNav?.getD w) := by
  simp only [prevNav?, h.currentIndex hcurrent, h.sections, h.scroll]
  split
  · exact h.jumpToNav _
  · split
    · exact h
    · exact h.jumpToNav _

/-! ## Snippets -/

theorem reveal (index : Nat) : Alike (v.reveal index) (w.reveal index) := by
  unfold Viewer.reveal
  rw [h.page, h.scroll, h.height]
  split
  · exact h
  · split
    · exact h.scrollTo _
    · split
      · exact h.scrollTo _
      · exact h

theorem select (index : Nat) : Alike (v.select index) (w.select index) := by
  have hchosen : Alike { v with selected := some index } { w with selected := some index } := by
    obtain ⟨t, hsections, hlimits, rfl⟩ := h
    exact ⟨t, hsections, hlimits, rfl⟩
  exact hchosen.reveal index

theorem select_firstBelowTop :
    Alike ((v.firstBelowTop?.map v.select).getD v) ((w.firstBelowTop?.map w.select).getD w) := by
  have hfirst : w.firstBelowTop? = v.firstBelowTop? := by
    rw [firstBelowTop?, firstBelowTop?, h.page, h.scroll]
  rw [hfirst]
  cases v.firstBelowTop? with
  | none => exact h
  | some index => exact h.select index

theorem selectNext : Alike v.selectNext w.selectNext := by
  unfold Viewer.selectNext
  rw [h.selected, h.page]
  split
  · exact h.select _
  · exact h.select_firstBelowTop

theorem selectPrevious : Alike v.selectPrevious w.selectPrevious := by
  unfold Viewer.selectPrevious
  rw [h.selected]
  split
  · exact h.select _
  · exact h.select_firstBelowTop

theorem copy (clipboard : Clipboard) (now : Nat) :
    Alike (v.copy clipboard now) (w.copy clipboard now) := by
  obtain ⟨t, hsections, hlimits, rfl⟩ := h
  have htarget : ({ v with tracker := t } : Viewer).copyTarget? = v.copyTarget? := rfl
  unfold Viewer.copy
  rw [htarget]
  split <;> exact ⟨t, hsections, hlimits, rfl⟩

/-! ## Any action -/

theorem act {a : Action} (hactive : a.goesByActive = true → w.tracker.current = v.tracker.current) :
    Alike (v.act a) (w.act a) := by
  cases a with
  | scrollTo row => exact h.scrollTo row
  | resize height => exact h.resize height
  | flush => exact ((alike_flush v).symm.trans h).trans (alike_flush w)
  | jump link => exact h.jump link
  | jumpToNav index => exact h.jumpToNav index
  | nextNav => exact h.nextNav (hactive rfl)
  | prevNav => exact h.prevNav (hactive rfl)
  | selectNext => exact h.selectNext
  | selectPrevious => exact h.selectPrevious
  | copy clipboard now => exact h.copy clipboard now
  | scrollBy _ | pageDown | pageUp =>
    simp only [Viewer.act, scrollBy, pageDown, pageUp, h.scroll, h.height]
    exact h.scrollTo _
  | toggleNav | tick _ | shutdown =>
    obtain ⟨t, hsections, hlimits, rfl⟩ := h
    exact ⟨t, hsections, hlimits, rfl⟩

end Alike
end DocPager.Viewer
