import DocPager.Proofs.Viewer.Run

/-!
The bounds of a view.  Along every run at least one row is on screen, the view does not go beyond the
end of the page, and a snippet that is chosen exists.
-/

namespace DocPager.Viewer

theorem mem_visibleSnippets {v : Viewer} {index : Nat} :
    index ∈ v.visibleSnippets ↔ ∃ s, v.page.snippets[index]? = some s ∧ v.shows s = true := by
  rw [visibleSnippets, List.mem_filter, List.mem_range, Option.any_eq_true]
  constructor
  · exact fun h => h.2
  · intro h
    obtain ⟨s, hs, hshows⟩ := h
    exact ⟨(List.getElem?_eq_some_iff.mp hs).1, s, hs, hshows⟩

theorem mem_visibleSnippets_of_copyTarget {v : Viewer} {index : Nat}
    (h : v.copyTarget? = some index) : index ∈ v.visibleSnippets := by
  rcases Option.or_eq_some_iff.mp h with hchosen | ⟨-, hfirst⟩
  · have hvisible := (Option.filter_eq_some_iff.mp hchosen).2
    simpa using hvisible
  · exact List.mem_of_head? hfirst

theorem lt_of_firstBelowTop {v : Viewer} {index : Nat} (h : v.firstBelowTop? = some index) :
    index < v.page.snippets.length := by
  rcases Option.or_eq_some_iff.mp h with hfound | ⟨-, hlast⟩
  · exact (List.findIdx?_eq_some_iff_getElem.mp hfound).1
  · split at hlast
    · cases hlast
    · next hne =>
      obtain rfl := Option.some.inj hlast
      have hpos : 0 < v.page.snippets.length := List.length_pos_iff.mpr (by simpa using hne)
      omega

structure InRange (v : Viewer) : Prop where
  height : 1 ≤ v.height
  scroll : v.scroll ≤ v.maxScroll
  selected : ∀ index ∈ v.selected, index < v.page.snippets.length

namespace InRange

/-- Scrolling is what brings a view back into the page. -/
theorem of_scrollTo {v : Viewer} (hheight : 1 ≤ v.height)
    (hselected : ∀ index ∈ v.selected, index < v.page.snippets.length) (row : Nat) :
    InRange (v.scrollTo row) := by
  refine ⟨?_, ?_, ?_⟩
  · rw [height_scrollTo]
    exact hheight
  · rw [scroll_scrollTo, maxScroll_scrollTo]
    exact Nat.min_le_right row v.maxScroll
  · rw [selected_scrollTo, page_scrollTo]
    exact hselected

variable {v w : Viewer} (h : InRange v)
include h

/-- Nothing but these four parts counts. -/
theorem of_eq (hpage : w.page = v.page) (hheight : w.height = v.height)
    (hscroll : w.scroll = v.scroll) (hselected : w.selected = v.selected) : InRange w := by
  refine ⟨?_, ?_, ?_⟩
  · rw [hheight]
    exact h.height
  · rw [hscroll, maxScroll, hpage, hheight]
    exact h.scroll
  · rw [hselected, hpage]
    exact h.selected

theorem scrollTo (row : Nat) : InRange (v.scrollTo row) := of_scrollTo h.height h.selected row

theorem scrolls (hw : Scrolls v w) : InRange w := by
  rcases hw with rfl | ⟨row, rfl⟩
  · exact h
  · exact h.scrollTo row

/-- A view that grows may reach beyond the end of the page, and then it is scrolled up. -/
theorem resize (height : Nat) : InRange (v.resize height) := by
  simp only [Viewer.resize]
  split
  · have hheight : 1 ≤ ({ v with height := max height 1 } : Viewer).height :=
      Nat.le_max_right height 1
    exact of_scrollTo hheight h.selected _
  · next hfits => exact ⟨Nat.le_max_right height 1, Nat.le_of_not_lt hfits, h.selected⟩

theorem select {index : Nat} (hindex : index < v.page.snippets.length) : InRange (v.select index) := by
  have hchosen : InRange { v with selected := some index } := by
    refine ⟨h.height, h.scroll, fun i hi => ?_⟩
    obtain rfl := Option.some.inj hi
    exact hindex
  exact hchosen.scrolls (scrolls_reveal _ index)

theorem select_firstBelowTop : InRange ((v.firstBelowTop?.map v.select).getD v) := by
  cases hfirst : v.firstBelowTop? with
  | none => exact h
  | some index => exact h.select (lt_of_firstBelowTop hfirst)

theorem selectNext : InRange v.selectNext := by
  unfold Viewer.selectNext
  split
  · next i hi =>
    have hindex := h.selected i hi
    refine h.select ?_
    split <;> omega
  · exact h.select_firstBelowTop

theorem selectPrevious : InRange v.selectPrevious := by
  unfold Viewer.selectPrevious
  split
  · next i hi =>
    have hindex := h.selected i hi
    exact h.select (by omega)
  · exact h.select_firstBelowTop

theorem copy (clipboard : Clipboard) (now : Nat) : InRange (v.copy clipboard now) := by
  unfold Viewer.copy
  split
  · exact h.of_eq rfl rfl rfl rfl
  · next target htarget =>
    refine ⟨h.height, h.scroll, fun index hindex => ?_⟩
    obtain rfl := Option.some.inj hindex
    obtain ⟨s, hs, -⟩ := mem_visibleSnippets.mp (mem_visibleSnippets_of_copyTarget htarget)
    exact (List.getElem?_eq_some_iff.mp hs).1

theorem act (a : Action) : InRange (v.act a) := by
  cases a with
  | scrollTo row => exact h.scrollTo row
  | scrollBy delta => exact h.scrollTo _
  | pageDown => exact h.scrollTo _
  | pageUp => exact h.scrollTo _
  | resize height => exact h.resize height
  | jump link => exact h.scrolls (scrolls_jump v link)
  | jumpToNav index => exact h.scrolls (scrolls_jumpToNav v index)
  | nextNav => exact h.scrolls (scrolls_jumpToNav v _)
  | prevNav => exact h.scrolls (scrolls_prevNav v)
  | selectNext => exact h.selectNext
  | selectPrevious => exact h.selectPrevious
  | copy clipboard now => exact h.copy clipboard now
  | flush | toggleNav | tick _ | shutdown => exact h.of_eq rfl rfl rfl rfl

theorem run (actions : List Action) : InRange (v.run actions) :=
  run_induction (fun _ a h => h.act a) h actions

end InRange

theorem InRange.of_start {p : Page} {settings : Settings} {v : Viewer}
    (h : Viewer.start p settings = .ok v) : InRange v := by
  obtain ⟨t, -, rfl⟩ := eq_of_start h
  exact ⟨Nat.le_refl 1, Nat.zero_le _, fun index hindex => absurd hindex (by simp [Viewer.flush])⟩

end DocPager.Viewer
