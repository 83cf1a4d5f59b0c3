import DocPager.Viewer.Basic

/-!
Scrolling.  A view is scrolled in one way only, as far as the page goes, and a jump or the choice of a
snippet that scrolls at all does it in this way.
-/

namespace DocPager.Viewer

/-! ## What scrolling does to each part -/

theorem scrollTo_eq (v : Viewer) (row : Nat) :
    v.scrollTo row =
      { v with
        scroll := min row v.maxScroll
        tracker := if min row v.maxScroll = v.scroll then v.tracker
          else v.tracker.noteScroll (min row v.maxScroll : Nat) } := by
  simp only [scrollTo]
  split
  · next h => rw [h]
  · rfl

@[simp] theorem scroll_scrollTo (v : Viewer) (row : Nat) :
    (v.scrollTo row).scroll = min row v.maxScroll := by rw [scrollTo_eq]

@[simp] theorem page_scrollTo (v : Viewer) (row : Nat) : (v.scrollTo row).page = v.page := by
  rw [scrollTo_eq]

@[simp] theorem timers_scrollTo (v : Viewer) (row : Nat) : (v.scrollTo row).timers = v.timers := by
  rw [scrollTo_eq]

@[simp] theorem height_scrollTo (v : Viewer) (row : Nat) : (v.scrollTo row).height = v.height := by
  rw [scrollTo_eq]

@[simp] theorem selected_scrollTo (v : Viewer) (row : Nat) :
    (v.scrollTo row).selected = v.selected := by rw [scrollTo_eq]

@[simp] theorem notice_scrollTo (v : Viewer) (row : Nat) : (v.scrollTo row).notice = v.notice := by
  rw [scrollTo_eq]

@[simp] theorem maxScroll_scrollTo (v : Viewer) (row : Nat) :
    (v.scrollTo row).maxScroll = v.maxScroll := by
  rw [maxScroll, page_scrollTo, height_scrollTo, maxScroll]

theorem height_resize (v : Viewer) (height : Nat) : (v.resize height).height = max height 1 := by
  simp only [resize]
  split
  · exact height_scrollTo _ _
  · rfl

/-- A view that is fitted to the screen keeps its scroll as far as the page goes. -/
theorem resize_eq (v : Viewer) (height : Nat) :
    v.resize height =
      { v with
        height := max height 1
        scroll := min v.scroll (v.page.height - max height 1)
        tracker := if v.scroll ≤ v.page.height - max height 1 then v.tracker
          else v.tracker.noteScroll (v.page.height - max height 1 : Nat) } := by
  simp only [resize]
  split
  · next hlt =>
    have hbeyond : v.page.height - max height 1 < v.scroll := hlt
    rw [scrollTo_eq, Nat.min_self, if_neg (Nat.ne_of_lt hlt), if_neg (Nat.not_le.mpr hbeyond),
      Nat.min_eq_right (Nat.le_of_lt hbeyond)]
    rfl
  · next hfits =>
    have hle : v.scroll ≤ v.page.height - max height 1 := Nat.le_of_not_lt hfits
    rw [if_pos hle, Nat.min_eq_left hle]

theorem scroll_resize (v : Viewer) (height : Nat) :
    (v.resize height).scroll = min v.scroll (v.page.height - max height 1) := by rw [resize_eq]

theorem maxScroll_resize (v : Viewer) (height : Nat) :
    (v.resize height).maxScroll = v.page.height - max height 1 := by
  rw [maxScroll, height_resize, resize_eq]

/-! ## What scrolls -/

/-- `w` is `v` scrolled to some row, or as it was. -/
def Scrolls (v w : Viewer) : Prop := w = v ∨ ∃ row, w = v.scrollTo row

theorem scrolls_scrollTo (v : Viewer) (row : Nat) : Scrolls v (v.scrollTo row) := .inr ⟨row, rfl⟩

theorem Scrolls.height {v w : Viewer} (h : Scrolls v w) : w.height = v.height := by
  rcases h with rfl | ⟨row, rfl⟩
  · rfl
  · exact height_scrollTo v row

theorem Scrolls.selected {v w : Viewer} (h : Scrolls v w) : w.selected = v.selected := by
  rcases h with rfl | ⟨row, rfl⟩
  · rfl
  · exact selected_scrollTo v row

theorem Scrolls.notice {v w : Viewer} (h : Scrolls v w) : w.notice = v.notice := by
  rcases h with rfl | ⟨row, rfl⟩
  · rfl
  · exact notice_scrollTo v row

theorem scrolls_jump (v : Viewer) (link : String) : Scrolls v ((v.jump? link).getD v) := by
  rw [jump?]
  cases v.page.section? (linkTarget link) with
  | none => exact .inl rfl
  | some s => exact scrolls_scrollTo v s.row

theorem scrolls_jumpToNav (v : Viewer) (index : Nat) : Scrolls v ((v.jumpToNav? index).getD v) := by
  rw [jumpToNav?]
  cases v.tracker.sections[index]? with
  | none => exact .inl rfl
  | some s => exact scrolls_jump v s.id

theorem scrolls_prevNav (v : Viewer) : Scrolls v (v.prevNav?.getD v) := by
  simp only [prevNav?]
  split
  · exact scrolls_jumpToNav v _
  · split
    · exact .inl rfl
    · exact scrolls_jumpToNav v _

theorem scrolls_reveal (v : Viewer) (index : Nat) : Scrolls v (v.reveal index) := by
  unfold reveal
  split
  · exact .inl rfl
  · split
    · exact scrolls_scrollTo v _
    · split
      · exact scrolls_scrollTo v _
      · exact .inl rfl

end DocPager.Viewer
