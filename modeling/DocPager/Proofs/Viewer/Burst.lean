import DocPager.Proofs.Machine.Viewer
import DocPager.Proofs.Viewer.Batch
import DocPager.Proofs.Viewer.Paging
import Mathlib.Algebra.Order.BigOperators.Group.List

/-!
Scrolling on in one direction.  The ends of the page stop a scroll, and a scroll is noted only where it
leads to another row; but for scrolls that go one way it makes no difference whether they are made one by
one or at once, not even where one of them comes to an end of the page.
-/

namespace DocPager.Viewer

/-! ## Two scrolls -/

/-- How far a row is beyond the end of the page does not count. -/
theorem scrollTo_congr {v : Viewer} {row row' : Nat}
    (h : min row v.maxScroll = min row' v.maxScroll) : v.scrollTo row = v.scrollTo row' := by
  rw [scrollTo_eq, scrollTo_eq, h]

theorem scrollTo_of_min_ne {v : Viewer} {row : Nat} (h : min row v.maxScroll ≠ v.scroll) :
    v.scrollTo row =
      { v with
        scroll := min row v.maxScroll
        tracker := v.tracker.noteScroll (min row v.maxScroll : Nat) } := by
  rw [scrollTo_eq, if_neg h]

/-- The second of two scrolls makes up for the first one, unless it leads back to where that one
started. -/
theorem scrollTo_scrollTo {v : Viewer} {row later : Nat}
    (h : min later v.maxScroll = v.scroll → min row v.maxScroll = v.scroll) :
    (v.scrollTo row).scrollTo later = v.scrollTo later := by
  by_cases hrow : min row v.maxScroll = v.scroll
  · rw [scrollTo_of_min_eq hrow]
  · have hlater : min later v.maxScroll ≠ v.scroll := fun heq => hrow (h heq)
    rw [scrollTo_of_min_ne hlater, scrollTo_eq (v.scrollTo row), maxScroll_scrollTo, scroll_scrollTo,
      scrollTo_of_min_ne hrow]
    split
    · next heq => rw [heq]
    · rfl

theorem scrollBy_scrollBy {v : Viewer} (hscroll : v.scroll ≤ v.maxScroll) {d e : Int}
    (hsigns : 0 ≤ d ∧ 0 ≤ e ∨ d ≤ 0 ∧ e ≤ 0) : (v.scrollBy d).scrollBy e = v.scrollBy (d + e) := by
  have hfirst : (v.scrollBy d).scroll = min ((v.scroll : Int) + d).toNat v.maxScroll :=
    scroll_scrollTo v _
  rw [scrollBy, hfirst, scrollBy, scrollTo_scrollTo, scrollBy]
  · exact scrollTo_congr (by omega)
  · omega

theorem scrollBy_zero {v : Viewer} (hscroll : v.scroll ≤ v.maxScroll) : v.scrollBy 0 = v := by
  have hsame : min ((v.scroll : Int) + 0).toNat v.maxScroll = v.scroll := by omega
  exact scrollTo_of_min_eq hsame

/-! ## Any number of scrolls -/

/-- All of some scrolls go down, or all of them go up. -/
def OneWay (deltas : List Int) : Prop := (∀ d ∈ deltas, 0 ≤ d) ∨ ∀ d ∈ deltas, d ≤ 0

theorem OneWay.of_cons {d : Int} {rest : List Int} (h : OneWay (d :: rest)) :
    OneWay rest ∧ (0 ≤ d ∧ 0 ≤ rest.sum ∨ d ≤ 0 ∧ rest.sum ≤ 0) := by
  rcases h with h | h
  · rw [List.forall_mem_cons] at h
    exact ⟨.inl h.2, .inl ⟨h.1, List.sum_nonneg h.2⟩⟩
  · rw [List.forall_mem_cons] at h
    refine ⟨.inr h.2, .inr ⟨h.1, ?_⟩⟩
    exact (List.sum_le_card_nsmul rest 0 h.2).trans_eq (nsmul_zero _)

theorem oneWay_replicate (n : Nat) (d : Int) : OneWay (List.replicate n d) := by
  rcases Int.le_total 0 d with h | h
  · exact .inl fun e he => List.eq_of_mem_replicate he ▸ h
  · exact .inr fun e he => List.eq_of_mem_replicate he ▸ h

theorem run_scrollBy {v : Viewer} (hscroll : v.scroll ≤ v.maxScroll) {deltas : List Int}
    (h : OneWay deltas) : v.run (deltas.map .scrollBy) = v.scrollBy deltas.sum := by
  induction deltas generalizing v with
  | nil => rw [List.map_nil, run_nil, List.sum_nil, scrollBy_zero hscroll]
  | cons d rest ih =>
    obtain ⟨hrest, hsigns⟩ := h.of_cons
    have hstill : (v.scrollBy d).scroll ≤ (v.scrollBy d).maxScroll := by
      rw [scrollBy, scroll_scrollTo, maxScroll_scrollTo]
      exact Nat.min_le_right _ _
    rw [List.map_cons, run_cons, act, ih hstill hrest, scrollBy_scrollBy hscroll hsigns, List.sum_cons]

theorem run_replicate_scrollBy {v : Viewer} (hscroll : v.scroll ≤ v.maxScroll) (n : Nat) (d : Int) :
    v.run (List.replicate n (.scrollBy d)) = v.scrollBy (n * d) := by
  have hrun := run_scrollBy hscroll (oneWay_replicate n d)
  rwa [List.map_replicate, List.sum_replicate_int] at hrun

/-! ## On a machine -/

theorem foldl_scrollBy_eq {v : Viewer} (hpage : v.page.height < 2 ^ 63) (deltas : List Int) :
    deltas.foldl Machine.scrollBy v = v.run (deltas.map .scrollBy) := by
  induction deltas generalizing v with
  | nil => rfl
  | cons d rest ih =>
    have hfirst : Machine.scrollBy v d = v.scrollBy d := Machine.scrollTo_saturate hpage _
    have hstill : (v.scrollBy d).page.height < 2 ^ 63 := by
      rw [scrollBy, page_scrollTo]
      exact hpage
    rw [List.foldl_cons, hfirst, ih hstill, List.map_cons, run_cons, act]

/-! ## The wheel -/

theorem handleAll_eq_run {event : Event} {delta : Int}
    (hevent : ∀ (v : Viewer) clipboard now, v.handle event clipboard now = some (v.scrollBy delta))
    {arrivals : List Arrival} (h : ∀ a ∈ arrivals, a.event = event) (v : Viewer) :
    v.handleAll arrivals = some (v.run (List.replicate arrivals.length (.scrollBy delta))) := by
  induction arrivals generalizing v with
  | nil => rfl
  | cons a rest ih =>
    rw [List.forall_mem_cons] at h
    rw [handleAll_cons, h.1, hevent, Option.bind_some, ih h.2, List.length_cons, List.replicate_succ,
      run_cons, act]

/-- The events that have come in scroll as one scroll by `rows` does, and a flush after them finds what a
flush after that one finds. -/
structure ScrollsAtOnce (v : Viewer) (arrivals : List Arrival) (rows : Int) : Prop where
  handled : v.handleAll arrivals = some (v.scrollBy rows)
  flushed : (v.handleAll arrivals).map flush = some (v.scrollBy rows).flush

theorem scrollsAtOnce {v : Viewer} (hscroll : v.scroll ≤ v.maxScroll) {event : Event} {delta : Int}
    (hevent : ∀ (w : Viewer) clipboard now, w.handle event clipboard now = some (w.scrollBy delta))
    {arrivals : List Arrival} (h : ∀ a ∈ arrivals, a.event = event) :
    ScrollsAtOnce v arrivals (arrivals.length * delta) := by
  have hall := handleAll_eq_run hevent h v
  rw [run_replicate_scrollBy hscroll] at hall
  exact ⟨hall, by rw [hall, Option.map_some]⟩

/-- At any time scrolls that go one way come to the same as one scroll by their sum, in all that a viewer
holds, and so do notches of the wheel that come in together, at three rows a notch. -/
theorem scrolls_compose {source : String} {settings : Settings}
    (h : (Page.parse source).navigation settings.navDepth ≠ []) :
    ∃ v, Viewer.start (Page.parse source) settings = .ok v ∧
      ∀ actions : List Action, let w := v.run actions
        (∀ deltas, OneWay deltas → w.run (deltas.map .scrollBy) = w.scrollBy deltas.sum ∧
          ((Page.parse source).height < 2 ^ 63 →
            deltas.foldl Machine.scrollBy w = Machine.scrollBy w deltas.sum)) ∧
        ∀ arrivals : List Arrival,
          ((∀ a ∈ arrivals, a.event = .mouse .wheelDown) →
            ScrollsAtOnce w arrivals (arrivals.length * 3)) ∧
          ((∀ a ∈ arrivals, a.event = .mouse .wheelUp) →
            ScrollsAtOnce w arrivals (arrivals.length * -3)) := by
  obtain ⟨v, hstart, htracks⟩ := exists_start_tracks h
  refine ⟨v, hstart, fun actions => ?_⟩
  intro w
  have hscroll : w.scroll ≤ w.maxScroll := ((InRange.of_start hstart).run actions).scroll
  have hpage : w.page = Page.parse source := (htracks.run actions).page
  refine ⟨fun deltas hdeltas => ⟨run_scrollBy hscroll hdeltas, fun hheight => ?_⟩,
    fun arrivals => ⟨?_, ?_⟩⟩
  · rw [← hpage] at hheight
    have hsum : Machine.scrollBy w deltas.sum = w.scrollBy deltas.sum :=
      Machine.scrollTo_saturate hheight _
    rw [foldl_scrollBy_eq hheight, run_scrollBy hscroll hdeltas, hsum]
  · exact scrollsAtOnce hscroll fun _ _ _ => rfl
  · exact scrollsAtOnce hscroll fun _ _ _ => rfl

/-- The second of the three scrolls comes to the end of the page, as the first notch does, and what follows
changes nothing. -/
theorem scrolls_compose_beyond_end :
    let p := Page.parse "# A\n\nb\nc\nd\ne\n"
    let notch : Arrival := { event := .mouse .wheelDown, clipboard := .accepts, now := 0 }
    p.navigation Settings.standard.navDepth ≠ [] ∧ OneWay [2, 7, 1] ∧ p.height < 2 ^ 63 ∧
      (∀ a ∈ [notch, notch, notch], a.event = .mouse .wheelDown) ∧
      ∃ v, Viewer.start p .standard = .ok v ∧ let w := v.run [.resize 2, .scrollTo 1]
        w.run [.scrollBy 2, .scrollBy 7, .scrollBy 1] = w.scrollBy 10 ∧
        [2, 7, 1].foldl Machine.scrollBy w = Machine.scrollBy w 10 ∧
        ScrollsAtOnce w [notch, notch, notch] 9 ∧ (w.scrollBy 9).scroll = 4 := by
  intro p notch
  have hnav : p.navigation Settings.standard.navDepth ≠ [] := by decide
  have hway : OneWay [2, 7, 1] := .inl (by decide)
  have hheight : p.height < 2 ^ 63 := by decide
  have hwheel : ∀ a ∈ [notch, notch, notch], a.event = .mouse .wheelDown := by decide
  obtain ⟨v, hstart, hcompose⟩ := scrolls_compose hnav
  have hend : ∃ u, Viewer.start p .standard = .ok u ∧
      ((u.run [.resize 2, .scrollTo 1]).scrollBy 9).scroll = 4 := ⟨_, rfl, by decide⟩
  obtain ⟨u, hu, hlast⟩ := hend
  obtain rfl : u = v := Except.ok.inj (hu.symm.trans hstart)
  obtain ⟨hscrolls, hnotches⟩ := hcompose [.resize 2, .scrollTo 1]
  obtain ⟨hrun, hmachine⟩ := hscrolls [2, 7, 1] hway
  exact ⟨hnav, hway, hheight, hwheel, u, hstart, hrun, hmachine hheight, (hnotches _).1 hwheel, hlast⟩

end DocPager.Viewer
