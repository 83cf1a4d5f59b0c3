import DocPager.Proofs.Viewer.Jump
import DocPager.Proofs.Viewer.Position
import DocPager.Proofs.Viewer.Sound

/-!
Going on along the navigation.  The headings behind the active one have not arrived, so the view scrolls
down to the next of them, and once it has come to the top it has arrived.  Only the end of the page can
stop that.
-/

namespace DocPager.Viewer

open Page (row_le_iff_lt_arrivedCount)

section Tracks

variable {source : String} {settings : Settings} {v : Viewer}
  (h : Tracks (Page.parse source) settings v) (hclean : v.tracker.pending = none)
include h hclean

/-- This holds as well where no heading has arrived and the active section is one from before. -/
theorem Tracks.lt_row_of_currentIndex_lt {j : Nat} {s : Section}
    (hs : ((Page.parse source).navigation settings.navDepth)[j]? = some s)
    (hj : v.tracker.currentIndex < j) : (v.scroll : Int) + settings.threshold < s.row := by
  have harrived := row_le_iff_lt_arrivedCount v.scroll hs
  by_cases hpos : 0 < (Page.parse source).arrivedCount settings v.scroll
  · have hindex := h.currentIndex_succ hclean hpos
    omega
  · omega

theorem Tracks.le_currentIndex_of_row_le {j : Nat} {s : Section}
    (hs : ((Page.parse source).navigation settings.navDepth)[j]? = some s)
    (hrow : (s.row : Int) ≤ v.scroll + settings.threshold) : j ≤ v.tracker.currentIndex := by
  have harrived := (row_le_iff_lt_arrivedCount v.scroll hs).mp hrow
  have hindex := h.currentIndex_succ hclean (by omega)
  omega

end Tracks

theorem Tracks.row_le_row {source : String} {settings : Settings} {v : Viewer}
    (h : Tracks (Page.parse source) settings v) {i j : Nat} {s t : Section} (hij : i ≤ j)
    (hs : v.tracker.sections[i]? = some s) (ht : v.tracker.sections[j]? = some t) :
    s.row ≤ t.row := by
  rw [h.sections] at hs ht
  obtain ⟨hi, rfl⟩ := List.getElem?_eq_some_iff.mp hs
  obtain ⟨hj, rfl⟩ := List.getElem?_eq_some_iff.mp ht
  by_cases heq : i = j
  · subst heq
    exact Nat.le_refl _
  · have hrows := Page.pairwise_row_navigation source settings.navDepth
    exact List.pairwise_iff_getElem.mp hrows i j hi hj (by omega)

/-- `u` is `v` after the key for the next section, with `s` being the section after the active one. -/
structure Advances (v u : Viewer) (s : Section) : Prop where
  le : v.scroll ≤ u.scroll
  lt : s.row ≤ v.maxScroll → v.scroll < u.scroll
  row : s.row ≤ v.maxScroll → u.scroll = s.row
  index : s.row ≤ v.maxScroll → v.tracker.currentIndex + 1 ≤ u.flush.tracker.currentIndex

/-- The key for the next section pressed `n` times, with a flush after each time. -/
def pressNext : Nat → List Action
  | 0 => []
  | n + 1 => .nextNav :: .flush :: pressNext n

/-- Each of the first `n` presses makes a later section the active one, and what comes after the active
one then is too close to the end of the page to be put on top. -/
structure AdvancesTo (v : Viewer) (n : Nat) : Prop where
  step : ∀ m < n, (v.run (pressNext m)).tracker.currentIndex <
    (v.run (pressNext (m + 1))).tracker.currentIndex
  stop : ∀ j s, (v.run (pressNext n)).tracker.currentIndex < j → v.tracker.sections[j]? = some s →
    v.maxScroll < s.row

theorem AdvancesTo.zero {v : Viewer} (hstop : ∀ j s, v.tracker.currentIndex < j →
    v.tracker.sections[j]? = some s → v.maxScroll < s.row) : AdvancesTo v 0 := ⟨nofun, hstop⟩

theorem AdvancesTo.succ {v w : Viewer} {n : Nat} (hpress : (v.act .nextNav).flush = w)
    (hsections : w.tracker.sections = v.tracker.sections) (hmax : w.maxScroll = v.maxScroll)
    (hnext : v.tracker.currentIndex < w.tracker.currentIndex) (h : AdvancesTo w n) :
    AdvancesTo v (n + 1) := by
  have hrun : ∀ m, v.run (pressNext (m + 1)) = w.run (pressNext m) := by
    intro m
    rw [← hpress]
    rfl
  constructor
  · intro m hm
    rw [hrun]
    cases m with
    | zero => exact hnext
    | succ m =>
      rw [hrun]
      exact h.step m (by omega)
  · rw [hrun, ← hsections, ← hmax]
    exact h.stop

section

variable {source : String} {settings : Settings} (hthreshold : 0 ≤ settings.threshold)
  (hsigns : ∀ s ∈ (Page.parse source).navigation settings.navDepth, s.id.toList.head? ≠ some '#')

include hsigns in
theorem Tracks.nextNav?_eq_some {v : Viewer} (h : Tracks (Page.parse source) settings v) {s : Section}
    (hs : v.tracker.sections[v.tracker.currentIndex + 1]? = some s) :
    v.nextNav? = some (v.scrollTo s.row) :=
  h.jumpToNav?_eq_some hs (hsigns s (h.mem_navigation hs))

include hthreshold in
theorem Tracks.advances_scrollTo {v : Viewer} (h : Tracks (Page.parse source) settings v)
    (hclean : v.tracker.pending = none) (hscroll : v.scroll ≤ v.maxScroll) {s : Section}
    (hs : v.tracker.sections[v.tracker.currentIndex + 1]? = some s) :
    Advances v (v.scrollTo s.row) s := by
  rw [h.sections] at hs
  have hbelow := h.lt_row_of_currentIndex_lt hclean hs (Nat.lt_succ_self _)
  have htop := scroll_scrollTo v s.row
  refine ⟨by omega, by omega, by omega, fun hfits => ?_⟩
  have htracks : Tracks (Page.parse source) settings (v.scrollTo s.row).flush :=
    (h.act (.scrollTo s.row)).flush
  apply htracks.le_currentIndex_of_row_le (Tracker.pending_flush _ _) hs
  show (s.row : Int) ≤ (v.scrollTo s.row).scroll + settings.threshold
  omega

include hthreshold hsigns in
/-- Each press leaves fewer sections behind the active one, so there is an end to it. -/
theorem exists_advancesTo {v : Viewer} (h : Tracks (Page.parse source) settings v)
    (hsound : Sound (Page.parse source) settings v) (hclean : v.tracker.pending = none) (left : Nat)
    (hleft : v.tracker.sections.length ≤ v.tracker.currentIndex + left) :
    ∃ n, n + v.tracker.currentIndex < v.tracker.sections.length ∧ AdvancesTo v n := by
  induction left generalizing v with
  | zero =>
    have hindex := hsound.currentIndex_lt
    omega
  | succ left ih =>
    have hindex := hsound.currentIndex_lt
    cases hs : v.tracker.sections[v.tracker.currentIndex + 1]? with
    | none =>
      have hlast := List.getElem?_eq_none_iff.mp hs
      refine ⟨0, by omega, .zero fun j t hj ht => ?_⟩
      have hwithin := (List.getElem?_eq_some_iff.mp ht).1
      omega
    | some s =>
      by_cases hfits : s.row ≤ v.maxScroll
      · have hw : Tracks (Page.parse source) settings (v.scrollTo s.row).flush :=
          (h.act (.scrollTo s.row)).flush
        have hwsound : Sound (Page.parse source) settings (v.scrollTo s.row).flush :=
          (hsound.act (.scrollTo s.row)).act .flush
        have hsections := hw.sections.trans h.sections.symm
        have hnext := (h.advances_scrollTo hthreshold hclean hsound.scroll hs).index hfits
        obtain ⟨n, hn, hadvances⟩ := ih hw hwsound (Tracker.pending_flush _ _)
          (by rw [hsections]; omega)
        rw [hsections] at hn
        have hpress : (v.act .nextNav).flush = (v.scrollTo s.row).flush := by
          rw [act, h.nextNav?_eq_some hsigns hs, Option.getD_some]
        exact ⟨n + 1, by omega,
          .succ hpress hsections (maxScroll_scrollTo v s.row) hnext hadvances⟩
      · refine ⟨0, by omega, .zero fun j t hj ht => ?_⟩
        have hrow := h.row_le_row hj hs ht
        omega

end

/-- At any time with nothing left to evaluate the key for the next section leads on if there is a next
section.  It never scrolls back, and if the page is long enough to have the heading of that section on
top, the key puts it there and a flush makes that section, or one behind it, the active one.  So no more
presses than there are sections come to the last one or to where the page ends. -/
theorem nextNav_advances {source : String} {settings : Settings}
    (h : (Page.parse source).navigation settings.navDepth ≠ []) (hthreshold : 0 ≤ settings.threshold)
    (hsigns : ∀ s ∈ (Page.parse source).navigation settings.navDepth, s.id.toList.head? ≠ some '#') :
    ∃ v, Viewer.start (Page.parse source) settings = .ok v ∧
      ∀ actions : List Action, (v.run actions).tracker.isDirty = false → let w := v.run actions
        (∀ s, w.tracker.sections[w.tracker.currentIndex + 1]? = some s →
          ∃ u, w.nextNav? = some u ∧ Advances w u s) ∧
        ∃ n, n + w.tracker.currentIndex < w.tracker.sections.length ∧ AdvancesTo w n := by
  obtain ⟨v, hstart, htracks⟩ := exists_start_tracks h
  refine ⟨v, hstart, fun actions hclean => ?_⟩
  intro w
  have hw : Tracks (Page.parse source) settings w := htracks.run actions
  have hsound : Sound (Page.parse source) settings w := sound_run hstart htracks actions
  have hpending := Tracker.isDirty_eq_false_iff.mp hclean
  refine ⟨fun s hs => ⟨_, hw.nextNav?_eq_some hsigns hs, ?_⟩, ?_⟩
  · exact hw.advances_scrollTo hthreshold hpending hsound.scroll hs
  · exact exists_advancesTo hthreshold hsigns hw hsound hpending _ (Nat.le_add_left _ _)

theorem nextNav_advances_three_headings :
    let p := Page.parse "# A\n\n\n\n## B\n\n\n\n## C\n"
    p.navigation Settings.standard.navDepth ≠ [] ∧ 0 ≤ Settings.standard.threshold ∧
      (∀ s ∈ p.navigation Settings.standard.navDepth, s.id.toList.head? ≠ some '#') ∧
      ∃ v u n, Viewer.start p .standard = .ok v ∧ v.tracker.isDirty = false ∧
        v.tracker.sections[v.tracker.currentIndex + 1]? = some ⟨"b", "B", 2, 1, 4⟩ ∧
        v.nextNav? = some u ∧ v.scroll = 0 ∧ u.scroll = 4 ∧ 1 ≤ u.flush.tracker.currentIndex ∧
        n < 3 ∧ AdvancesTo v n := by
  intro p
  have hnav : p.navigation Settings.standard.navDepth ≠ [] := by decide
  have hthreshold : 0 ≤ Settings.standard.threshold := by decide
  have hsigns : ∀ s ∈ p.navigation Settings.standard.navDepth, s.id.toList.head? ≠ some '#' := by
    decide
  obtain ⟨v, hstart, hnext⟩ := nextNav_advances hnav hthreshold hsigns
  have hfresh : ∃ w, Viewer.start p .standard = .ok w ∧ w.tracker.isDirty = false ∧
      w.tracker.sections[1]? = some ⟨"b", "B", 2, 1, 4⟩ ∧ w.tracker.sections.length = 3 ∧
      w.tracker.currentIndex = 0 ∧ w.scroll = 0 ∧ w.maxScroll = 8 :=
    ⟨_, rfl, by decide, by decide, by decide, by decide, by decide, by decide⟩
  obtain ⟨w, hw, hclean, hs, hlength, hindex, hscroll, hmax⟩ := hfresh
  obtain rfl : w = v := Except.ok.inj (hw.symm.trans hstart)
  obtain ⟨hleads, n, hn, hadvances⟩ := hnext [] hclean
  rw [run_nil, hlength] at hn
  have hs' : w.tracker.sections[w.tracker.currentIndex + 1]? = some ⟨"b", "B", 2, 1, 4⟩ := by
    rw [hindex]
    exact hs
  obtain ⟨u, hu, hadvance⟩ := hleads _ hs'
  have hfits : 4 ≤ w.maxScroll := by omega
  have hlater : w.tracker.currentIndex + 1 ≤ u.flush.tracker.currentIndex := hadvance.index hfits
  exact ⟨hnav, hthreshold, hsigns, w, u, n, hstart, hclean, hs', hu, hscroll, hadvance.row hfits,
    by omega, by omega, hadvances⟩

end DocPager.Viewer
