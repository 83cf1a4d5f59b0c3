import DocPager.Proofs.Viewer.Advance
import DocPager.Proofs.Viewer.Link

/-!
Going back along the navigation.  The key for the previous section puts the heading of the active section
on top, or if the view is not below that, the heading of the section before it.  A heading has arrived
before it comes to the top, so both of them may still be below the top, and then going back scrolls down.
It does so in no other case.
-/

namespace DocPager.Viewer

open Page (lastArrived?_eq_none row_le_iff_lt_arrivedCount)

section Tracks

variable {source : String} {settings : Settings} {v : Viewer}
  (h : Tracks (Page.parse source) settings v)
include h

theorem Tracks.currentIndex_flush_of_none
    (hnone : (Page.parse source).arrivedCount settings v.scroll = 0) :
    v.flush.tracker.currentIndex = v.tracker.currentIndex := by
  have hcurrent : v.flush.tracker.current = v.tracker.current := by
    rw [h.current_flush, lastArrived?_eq_none hnone]
    rfl
  have hsections : v.flush.tracker.sections = v.tracker.sections := v.tracker.sections_flush v.anchors
  rw [Tracker.currentIndex, hcurrent, hsections, Tracker.currentIndex]

/-- A flush moves on to a later section exactly if the heading behind the active one has arrived. -/
theorem Tracks.lt_currentIndex_flush_iff :
    v.tracker.currentIndex < v.flush.tracker.currentIndex ↔
      ∃ s, v.tracker.sections[v.tracker.currentIndex + 1]? = some s ∧
        (s.row : Int) ≤ v.scroll + settings.threshold := by
  rw [h.sections]
  constructor
  · intro hlater
    have hpos : 0 < (Page.parse source).arrivedCount settings v.scroll := by
      rw [Nat.pos_iff_ne_zero]
      intro hnone
      rw [h.currentIndex_flush_of_none hnone] at hlater
      exact Nat.lt_irrefl _ hlater
    have hindex : v.flush.tracker.currentIndex + 1 =
        (Page.parse source).arrivedCount settings v.scroll :=
      h.flush.currentIndex_succ (Tracker.pending_flush _ _) hpos
    have hcount : (Page.parse source).arrivedCount settings v.scroll ≤
        ((Page.parse source).navigation settings.navDepth).length := List.countP_le_length
    have hlt : v.tracker.currentIndex + 1 <
        ((Page.parse source).navigation settings.navDepth).length := by omega
    have hs := List.getElem?_eq_getElem hlt
    exact ⟨_, hs, (row_le_iff_lt_arrivedCount v.scroll hs).mpr (by omega)⟩
  · rintro ⟨s, hs, hrow⟩
    exact h.flush.le_currentIndex_of_row_le (Tracker.pending_flush _ _) hs hrow

end Tracks

/-- The section `t` stands before the active one, its heading is below the first row on screen, and there
is room to scroll down. -/
structure PreviousBelowTop (v : Viewer) (t : Section) : Prop where
  place : ∃ k, v.tracker.currentIndex = k + 1 ∧ v.tracker.sections[k]? = some t
  below : v.scroll < t.row
  room : v.scroll < v.maxScroll

/-- The ways in which the key for the previous section can go, with `s` being the active section. -/
inductive Retreat (v : Viewer) (s : Section) : Viewer → Prop where
  | toTop (above : s.row < v.scroll) : Retreat v s (v.scrollTo s.row)
  | stay (below : v.scroll ≤ s.row) (first : v.tracker.currentIndex = 0) : Retreat v s v
  | toPrevious (k : Nat) (t : Section) (below : v.scroll ≤ s.row)
      (place : v.tracker.currentIndex = k + 1) (previous : v.tracker.sections[k]? = some t) :
      Retreat v s (v.scrollTo t.row)

namespace Retreat

variable {v u : Viewer} {s : Section} (h : Retreat v s u)
include h

theorem moves : Moves v u := by
  cases h with
  | toTop => exact moves_scrollTo v _
  | stay => exact .refl v
  | toPrevious => exact moves_scrollTo v _

theorem scroll_of_above (hscroll : v.scroll ≤ v.maxScroll) (habove : s.row < v.scroll) :
    u.scroll = s.row := by
  cases h with
  | toTop =>
    rw [scroll_scrollTo]
    exact Nat.min_eq_left (by omega)
  | stay below => omega
  | toPrevious k t below => omega

/-- If the active heading is above the top, so is the one before it. -/
theorem scroll_of_previousBelowTop {t : Section} (ht : PreviousBelowTop v t) (hrow : t.row ≤ s.row) :
    u.scroll = min t.row v.maxScroll := by
  have hbelow := ht.below
  obtain ⟨k, hk, hprevious⟩ := ht.place
  cases h with
  | toTop above => omega
  | stay below first => omega
  | toPrevious k' t' below place previous =>
    obtain rfl : k = k' := by omega
    obtain rfl : t = t' := Option.some.inj (hprevious.symm.trans previous)
    exact scroll_scrollTo v t.row

theorem scroll_le_of_not (hnone : ∀ t, ¬PreviousBelowTop v t) : u.scroll ≤ v.scroll := by
  cases h with
  | toTop above =>
    rw [scroll_scrollTo]
    omega
  | stay => exact Nat.le_refl _
  | toPrevious k t below place previous =>
    rw [scroll_scrollTo]
    by_cases hbelow : v.scroll < t.row
    · have hroom : ¬v.scroll < v.maxScroll := fun hroom =>
        hnone t ⟨⟨k, place, previous⟩, hbelow, hroom⟩
      omega
    · omega

end Retreat

/-- `u` is `v` after the key for the previous section. -/
structure GoesBack (settings : Settings) (v u : Viewer) : Prop where
  own : ∀ s, v.tracker.sections[v.tracker.currentIndex]? = some s → s.row < v.scroll →
    u.scroll = s.row
  scroll_le_iff : u.scroll ≤ v.scroll ↔ ∀ t, ¬PreviousBelowTop v t
  index_le : u.scroll ≤ v.scroll → u.flush.tracker.currentIndex ≤ v.tracker.currentIndex
  down : ∀ t, PreviousBelowTop v t → u.scroll = min t.row v.maxScroll
  near : (∃ s ∈ v.tracker.sections, (s.row : Int) ≤ v.scroll + settings.threshold) →
    ∀ t, PreviousBelowTop v t → (u.scroll : Int) ≤ v.scroll + settings.threshold
  index_lt_iff : v.tracker.currentIndex < u.flush.tracker.currentIndex ↔
    ∃ s, v.tracker.sections[v.tracker.currentIndex + 1]? = some s ∧
      (s.row : Int) ≤ u.scroll + settings.threshold

section

variable {source : String} {settings : Settings}
  (hsigns : ∀ s ∈ (Page.parse source).navigation settings.navDepth, s.id.toList.head? ≠ some '#')
  {v : Viewer} (h : Tracks (Page.parse source) settings v)

include hsigns h in
theorem Tracks.retreat {s : Section} (hs : v.tracker.sections[v.tracker.currentIndex]? = some s) :
    Retreat v s (v.act .prevNav) := by
  have hjump : ∀ {index : Nat} {t : Section}, v.tracker.sections[index]? = some t →
      v.jumpToNav? index = some (v.scrollTo t.row) := by
    intro index t ht
    exact h.jumpToNav?_eq_some ht (hsigns t (h.mem_navigation ht))
  rw [Viewer.act, prevNav?, hs, Option.any_some]
  by_cases habove : s.row < v.scroll
  · rw [if_pos (by simpa using habove), hjump hs]
    exact .toTop habove
  · rw [if_neg (by simpa using habove)]
    have hbelow := Nat.le_of_not_lt habove
    cases hindex : v.tracker.currentIndex with
    | zero => exact .stay hbelow hindex
    | succ k =>
      have hactive := (List.getElem?_eq_some_iff.mp hs).1
      have hlt : k < v.tracker.sections.length := by omega
      have ht := List.getElem?_eq_getElem hlt
      rw [if_neg (Nat.succ_ne_zero k), Nat.add_sub_cancel, hjump ht]
      exact .toPrevious k _ hbelow hindex ht

include h in
/-- The heading before the active one has arrived if any has. -/
theorem Tracks.row_le_of_previous (hclean : v.tracker.pending = none)
    (harrived : ∃ s ∈ v.tracker.sections, (s.row : Int) ≤ v.scroll + settings.threshold) {k : Nat}
    {t : Section} (hk : v.tracker.currentIndex = k + 1) (ht : v.tracker.sections[k]? = some t) :
    (t.row : Int) ≤ v.scroll + settings.threshold := by
  obtain ⟨s, hs, hrow⟩ := harrived
  obtain ⟨j, hj⟩ := List.getElem?_of_mem hs
  rw [h.sections] at hj ht
  have hlt := (row_le_iff_lt_arrivedCount v.scroll hj).mp hrow
  have hindex := h.currentIndex_succ hclean (by omega)
  exact (row_le_iff_lt_arrivedCount v.scroll ht).mpr (by omega)

include hsigns h in
theorem Tracks.goesBack (hsound : Sound (Page.parse source) settings v)
    (hclean : v.tracker.pending = none) : GoesBack settings v (v.act .prevNav) := by
  obtain ⟨s, hs⟩ := hsound.exists_current
  have hretreat := h.retreat hsigns hs
  have hmoves := hretreat.moves
  have hdown : ∀ t, PreviousBelowTop v t → (v.act .prevNav).scroll = min t.row v.maxScroll := by
    intro t ht
    obtain ⟨k, hk, hprevious⟩ := ht.place
    exact hretreat.scroll_of_previousBelowTop ht (h.row_le_row (by omega) hprevious hs)
  have hlt_iff := (h.act .prevNav).lt_currentIndex_flush_iff
  rw [hmoves.currentIndex, hmoves.sections] at hlt_iff
  constructor
  case own =>
    intro s' hs' habove
    obtain rfl : s = s' := Option.some.inj (hs.symm.trans hs')
    exact hretreat.scroll_of_above hsound.scroll habove
  case scroll_le_iff =>
    refine ⟨fun hle t ht => ?_, hretreat.scroll_le_of_not⟩
    have hbelow := ht.below
    have hroom := ht.room
    have hscroll := hdown t ht
    omega
  case index_le =>
    intro hle
    refine Nat.le_of_not_lt fun hlater => ?_
    obtain ⟨t, ht, hrow⟩ := hlt_iff.mp hlater
    rw [h.sections] at ht
    have hbeyond := h.lt_row_of_currentIndex_lt hclean ht (Nat.lt_succ_self _)
    omega
  case down => exact hdown
  case near =>
    intro harrived t ht
    obtain ⟨k, hk, hprevious⟩ := ht.place
    have hrow := h.row_le_of_previous hclean harrived hk hprevious
    have hscroll := hdown t ht
    omega
  case index_lt_iff => exact hlt_iff

end

/-- At any time with nothing left to evaluate the key for the previous section does not scroll down, nor
does it make a later section the active one, but for one case: the heading before the active one is below
the first row on screen as well.  It is that heading then that comes to the top, from within the
threshold, and a section behind the active one can arrive with it. -/
theorem prevNav_goes_back {source : String} {settings : Settings}
    (h : (Page.parse source).navigation settings.navDepth ≠ [])
    (hsigns : ∀ s ∈ (Page.parse source).navigation settings.navDepth, s.id.toList.head? ≠ some '#') :
    ∃ v, Viewer.start (Page.parse source) settings = .ok v ∧
      ∀ actions : List Action, (v.run actions).tracker.isDirty = false →
        GoesBack settings (v.run actions) ((v.run actions).act .prevNav) := by
  obtain ⟨v, hstart, htracks⟩ := exists_start_tracks h
  refine ⟨v, hstart, fun actions hclean => ?_⟩
  exact (htracks.run actions).goesBack hsigns (sound_run hstart htracks actions)
    (Tracker.isDirty_eq_false_iff.mp hclean)

/-- At the end of this page going back leads to the heading before. -/
theorem prevNav_goes_back_four_headings :
    let p := Page.parse "# A\n# B\n# C\n\n# D\n"
    p.navigation Settings.standard.navDepth ≠ [] ∧
      (∀ s ∈ p.navigation Settings.standard.navDepth, s.id.toList.head? ≠ some '#') ∧
      ∃ v, Viewer.start p .standard = .ok v ∧ let w := v.run [.scrollTo 4, .flush]
        w.tracker.isDirty = false ∧ (∀ t, ¬PreviousBelowTop w t) ∧
          w.scroll = 4 ∧ (w.act .prevNav).scroll ≤ 4 ∧
          w.tracker.currentIndex = 3 ∧ (w.act .prevNav).flush.tracker.currentIndex ≤ 3 := by
  intro p
  have hnav : p.navigation Settings.standard.navDepth ≠ [] := by decide
  have hsigns : ∀ s ∈ p.navigation Settings.standard.navDepth, s.id.toList.head? ≠ some '#' := by
    decide
  obtain ⟨v, hstart, hback⟩ := prevNav_goes_back hnav hsigns
  have hv : ∃ u, Viewer.start p .standard = .ok u ∧ let w := u.run [.scrollTo 4, .flush]
      w.tracker.isDirty = false ∧ w.scroll = 4 ∧ w.maxScroll = 4 ∧ w.tracker.currentIndex = 3 :=
    ⟨_, rfl, by decide, by decide, by decide, by decide⟩
  obtain ⟨u, hu, hclean, hscroll, hmax, hindex⟩ := hv
  obtain rfl : u = v := Except.ok.inj (hu.symm.trans hstart)
  have hend : ∀ t, ¬PreviousBelowTop (u.run [.scrollTo 4, .flush]) t := by
    intro t ht
    have hroom := ht.room
    omega
  have hgoes := hback _ hclean
  have hle := hgoes.scroll_le_iff.mpr hend
  have hindex_le := hgoes.index_le hle
  rw [hscroll] at hle
  rw [hindex] at hindex_le
  exact ⟨hnav, hsigns, u, hstart, hclean, hend, hscroll, hle, hindex, hindex_le⟩

/-- Three headings have arrived at the start.  The one before the last of them is brought up from the
second row, and the fourth arrives with it. -/
theorem not_prevNav_goes_back_three_arrived :
    let p := Page.parse "# A\n# B\n# C\n\n# D\n"
    (∀ s ∈ p.sections, s.id.toList.head? ≠ some '#') ∧ 0 ≤ Settings.standard.threshold ∧
      ∃ v, Viewer.start p .standard = .ok v ∧ v.tracker.isDirty = false ∧
        v.scroll = 0 ∧ v.tracker.currentIndex = 2 ∧
        (v.act .prevNav).scroll = 1 ∧ (v.act .prevNav).flush.tracker.currentIndex = 3 ∧
        ¬((v.act .prevNav).scroll ≤ v.scroll ∧
          (v.act .prevNav).flush.tracker.currentIndex ≤ v.tracker.currentIndex) := by
  intro p
  exact ⟨by decide, by decide, _, rfl, by decide, by decide, by decide, by decide, by decide, by decide⟩

end DocPager.Viewer
