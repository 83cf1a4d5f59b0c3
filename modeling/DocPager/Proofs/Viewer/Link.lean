import DocPager.Proofs.Viewer.Alike
import DocPager.Proofs.Viewer.Jump
import DocPager.Proofs.Viewer.Range

/-!
Links to the sections of a page.  A link leads to every section, at whatever depth its heading stands,
and the heading is on screen then even where the page ends too soon to put it on top.  A link that is
followed before the size of the screen is known leads to the same view as one that is followed after.
-/

namespace DocPager.Viewer

theorem linkTarget_append (id : String) : linkTarget ("#" ++ id) = id := by
  have hchars : ("#" ++ id).toList = '#' :: id.toList := by simp
  rw [linkTarget, hchars]
  exact String.ofList_toList

theorem jump?_append {source : String} {v : Viewer} (hpage : v.page = Page.parse source) {s : Section}
    (hs : s ∈ (Page.parse source).sections) : v.jump? ("#" ++ s.id) = some (v.scrollTo s.row) := by
  rw [jump?, linkTarget_append, hpage, Page.section?_of_mem hs, Option.map_some]

theorem act_jump_append {source : String} {v : Viewer} (hpage : v.page = Page.parse source)
    {s : Section} (hs : s ∈ (Page.parse source).sections) :
    v.act (.jump ("#" ++ s.id)) = v.scrollTo s.row := by
  rw [act, jump?_append hpage hs, Option.getD_some]

theorem jump?_eq_none {v : Viewer} {link : String}
    (h : ∀ s ∈ v.page.sections, s.id ≠ linkTarget link) : v.jump? link = none := by
  have hnone : v.page.section? (linkTarget link) = none := by
    rw [Page.section?, List.find?_eq_none]
    intro s hs
    simpa using h s hs
  rw [jump?, hnone, Option.map_none]

/-- A row that the view is scrolled to is on screen, on top or as near to the top as the end of the page
lets it come. -/
theorem onScreen_scrollTo {v : Viewer} (hheight : 1 ≤ v.height) {row : Nat}
    (hrow : row < v.page.height) :
    (v.scrollTo row).scroll ≤ row ∧ row < (v.scrollTo row).scroll + (v.scrollTo row).height := by
  rw [scroll_scrollTo, height_scrollTo, maxScroll]
  omega

/-! ## Before the size of the screen is known -/

/-- Only a screen smaller than before could show more of the page further down. -/
theorem scroll_resize_scrollTo {v : Viewer} {height : Nat} (hgrows : v.height ≤ max height 1)
    (row : Nat) :
    ((v.scrollTo row).resize height).scroll = ((v.resize height).scrollTo row).scroll := by
  rw [scroll_resize, scroll_scrollTo, page_scrollTo, scroll_scrollTo, maxScroll_resize, maxScroll]
  omega

theorem alike_resize_scrollTo {v : Viewer} {height : Nat} (hgrows : v.height ≤ max height 1)
    (row : Nat) : Alike ((v.scrollTo row).resize height) ((v.resize height).scrollTo row) := by
  have hmoves := (moves_scrollTo v row).trans (moves_resize _ height)
  have hmoves' := (moves_resize v height).trans (moves_scrollTo _ row)
  have hscroll := scroll_resize_scrollTo hgrows row
  refine ⟨((v.resize height).scrollTo row).tracker, hmoves'.sections.trans hmoves.sections.symm,
    hmoves'.limits.trans hmoves.limits.symm, ?_⟩
  simp only [resize_eq, scrollTo_eq] at hscroll ⊢
  congr 1
  exact hscroll.symm

section Tracks

variable {source : String} {settings : Settings} {v w : Viewer}

theorem Tracks.current_flush (h : Tracks (Page.parse source) settings v) :
    v.flush.tracker.current =
      (((Page.parse source).lastArrived? settings v.scroll).map (·.id)).getD v.tracker.current := by
  rcases h.pending with hclean | hdirty
  · rw [flush_of_clean hclean]
    cases hlast : (Page.parse source).lastArrived? settings v.scroll with
    | none => rfl
    | some s => exact (h.evaluated hclean).current s hlast
  · rw [← h.arrived, Viewer.flush, Tracker.flush_of_pending hdirty]
    rfl

/-- What a flush makes of viewers that are alike depends on the active section alone. -/
theorem Tracks.flush_eq_of_current (hv : Tracks (Page.parse source) settings v)
    (hw : Tracks (Page.parse source) settings w) (h : Alike v w)
    (hcurrent : w.tracker.current = v.tracker.current) : w.flush = v.flush := by
  have halike : Alike v.flush w.flush := ((alike_flush v).symm.trans h).trans (alike_flush w)
  have hclean : v.flush.tracker.pending = none := v.tracker.pending_flush v.anchors
  have hclean' : w.flush.tracker.pending = none := w.tracker.pending_flush w.anchors
  refine halike.eq_of_tracker ?_ ?_ (hclean'.trans hclean.symm)
  · rw [hw.current_flush, hv.current_flush, h.scroll, hcurrent]
  · rw [(hw.flush.evaluated hclean').scrolled, (hv.flush.evaluated hclean).scrolled, halike.scroll]

theorem Tracks.flush_resize_scrollTo (h : Tracks (Page.parse source) settings v) {height : Nat}
    (hgrows : v.height ≤ max height 1) (row : Nat) :
    ((v.scrollTo row).resize height).flush = ((v.resize height).scrollTo row).flush := by
  have hfirst : Tracks (Page.parse source) settings ((v.scrollTo row).resize height) :=
    (h.act (.scrollTo row)).act (.resize height)
  have hlater : Tracks (Page.parse source) settings ((v.resize height).scrollTo row) :=
    (h.act (.resize height)).act (.scrollTo row)
  have hcurrent := ((moves_scrollTo v row).trans (moves_resize _ height)).current
  have hcurrent' := ((moves_resize v height).trans (moves_scrollTo _ row)).current
  exact (hfirst.flush_eq_of_current hlater (alike_resize_scrollTo hgrows row)
    (hcurrent'.trans hcurrent.symm)).symm

end Tracks

/-- At any time the link to a section of the page, given with a number sign, scrolls to its heading and
the heading is on screen, and a link to anything else changes nothing.  At the start it does not count
whether the link is followed before or after the view is fitted to the screen. -/
theorem jump_shows_section {source : String} {settings : Settings}
    (h : (Page.parse source).navigation settings.navDepth ≠ []) :
    ∃ v, Viewer.start (Page.parse source) settings = .ok v ∧ v.height = 1 ∧
      (∀ actions : List Action, let w := v.run actions
        (∀ s ∈ (Page.parse source).sections, ∃ u, w.jump? ("#" ++ s.id) = some u ∧
          u.scroll = min s.row w.maxScroll ∧ u.scroll ≤ s.row ∧ s.row < u.scroll + u.height ∧
          u.height = w.height) ∧
        ∀ link, (∀ s ∈ (Page.parse source).sections, s.id ≠ linkTarget link) →
          w.jump? link = none ∧ w.act (.jump link) = w) ∧
      ∀ s ∈ (Page.parse source).sections, ∀ height,
        (v.run [.jump ("#" ++ s.id), .resize height]).scroll =
          (v.run [.resize height, .jump ("#" ++ s.id)]).scroll ∧
        v.run [.jump ("#" ++ s.id), .resize height, .flush] =
          v.run [.resize height, .jump ("#" ++ s.id), .flush] := by
  obtain ⟨v, hstart, htracks⟩ := exists_start_tracks h
  have hrange : InRange v := .of_start hstart
  have hfresh : v.height = 1 := by
    obtain ⟨t, -, rfl⟩ := eq_of_start hstart
    rfl
  refine ⟨v, hstart, hfresh, fun actions => ⟨fun s hs => ?_, fun link hlink => ?_⟩,
    fun s hs height => ?_⟩
  · have hpage : (v.run actions).page = Page.parse source := (htracks.run actions).page
    have hrow : s.row < (v.run actions).page.height := by
      rw [hpage]
      exact (Page.level_row_of_mem_sections hs).2
    obtain ⟨habove, hbelow⟩ := onScreen_scrollTo (hrange.run actions).height hrow
    exact ⟨_, jump?_append hpage hs, scroll_scrollTo _ _, habove, hbelow, height_scrollTo _ _⟩
  · have hnone : (v.run actions).jump? link = none := by
      apply jump?_eq_none
      rw [(htracks.run actions).page]
      exact hlink
    exact ⟨hnone, by rw [act, hnone, Option.getD_none]⟩
  · have hgrows : v.height ≤ max height 1 := by omega
    have hpage : (v.resize height).page = Page.parse source := (htracks.act (.resize height)).page
    simp only [run_cons, run_nil, act_jump_append htracks.page hs]
    show ((v.scrollTo s.row).resize height).scroll =
        ((v.resize height).act (.jump ("#" ++ s.id))).scroll ∧
      ((v.scrollTo s.row).resize height).flush =
        ((v.resize height).act (.jump ("#" ++ s.id))).flush
    rw [act_jump_append hpage hs]
    exact ⟨scroll_resize_scrollTo hgrows s.row, htracks.flush_resize_scrollTo hgrows s.row⟩

/-- The second heading is too deep for the navigation and its id begins with a number sign.  Only three
rows fit on screen, and it is the last of them. -/
theorem jump_shows_section_deep :
    let p := Page.parse "# A\n\nx\ny\n### B \x7b##b\x7d\n"
    let s : Section := ⟨"#b", "B", 3, 1, 4⟩
    p.navigation Settings.standard.navDepth ≠ [] ∧ s ∈ p.sections ∧
      (∀ t ∈ p.sections, t.id ≠ linkTarget "#b") ∧
      ∃ v u, Viewer.start p .standard = .ok v ∧ (v.run [.resize 3]).maxScroll = 2 ∧
        (v.run [.resize 3]).jump? "##b" = some u ∧ u.scroll = min 4 2 ∧
        u.scroll ≤ 4 ∧ 4 < u.scroll + u.height ∧ (v.run [.resize 3]).act (.jump "#b") = v.run [.resize 3] ∧
        v.run [.jump "##b", .resize 3, .flush] = v.run [.resize 3, .jump "##b", .flush] := by
  intro p s
  have hnav : p.navigation Settings.standard.navDepth ≠ [] := by decide
  have hs : s ∈ p.sections := by decide
  have hother : ∀ t ∈ p.sections, t.id ≠ linkTarget "#b" := by decide
  obtain ⟨v, hstart, -, hlinks, hopened⟩ := jump_shows_section hnav
  have hmax : (v.run [.resize 3]).maxScroll = 2 := by
    have hfits : ∃ w, Viewer.start p .standard = .ok w ∧ (w.run [.resize 3]).maxScroll = 2 :=
      ⟨_, rfl, by decide⟩
    obtain ⟨w, hw, hmax⟩ := hfits
    obtain rfl : w = v := Except.ok.inj (hw.symm.trans hstart)
    exact hmax
  obtain ⟨u, hjump, hscroll, habove, hbelow, -⟩ := (hlinks [.resize 3]).1 s hs
  rw [hmax] at hscroll
  exact ⟨hnav, hs, hother, v, u, hstart, hmax, hjump, hscroll, habove, hbelow,
    ((hlinks [.resize 3]).2 "#b" hother).2, (hopened s hs 3).2⟩

end DocPager.Viewer
