import DocPager.Proofs.Viewer.Tracking

/-!
The active section as a matter of the scroll alone.  The headings that have arrived are the first ones
of the navigation, since their rows come down the page, and the active section is the last of them.
So where one has arrived from the start, it makes no difference how a reader came to a scroll.
-/

namespace DocPager

namespace Page

/-- The number of headings of the navigation that have arrived when the page is scrolled to
`scroll`. -/
def arrivedCount (p : Page) (settings : Settings) (scroll : Nat) : Nat :=
  (p.navigation settings.navDepth).countP fun s => decide ((s.row : Int) ≤ scroll + settings.threshold)

/-- Below a heading that has not arrived no other one has. -/
theorem not_row_le_of_head {t : Section} {rest : List Section}
    (h : (t :: rest).Pairwise (·.row ≤ ·.row)) {bound : Int} (ht : ¬(t.row : Int) ≤ bound) :
    ∀ u ∈ t :: rest, ¬decide ((u.row : Int) ≤ bound) = true := by
  intro u hu
  rw [decide_eq_true_iff]
  rcases List.mem_cons.mp hu with rfl | hu
  · exact ht
  · have := (List.pairwise_cons.mp h).1 u hu
    omega

theorem filter_row_eq_take {sections : List Section} (h : sections.Pairwise (·.row ≤ ·.row))
    (bound : Int) :
    sections.filter (fun s => decide ((s.row : Int) ≤ bound)) =
      sections.take (sections.countP fun s => decide ((s.row : Int) ≤ bound)) := by
  induction sections with
  | nil => rfl
  | cons s rest ih =>
    by_cases hs : (s.row : Int) ≤ bound
    · rw [List.filter_cons_of_pos (by simpa using hs), List.countP_cons_of_pos (by simpa using hs),
        List.take_succ_cons, ih (List.pairwise_cons.mp h).2]
    · have hnone := not_row_le_of_head h hs
      rw [List.filter_eq_nil_iff.mpr hnone, List.countP_eq_zero.mpr hnone, List.take_zero]

theorem row_le_iff_lt_countP {sections : List Section} (h : sections.Pairwise (·.row ≤ ·.row))
    (bound : Int) {j : Nat} {s : Section} (hs : sections[j]? = some s) :
    (s.row : Int) ≤ bound ↔ j < sections.countP fun t => decide ((t.row : Int) ≤ bound) := by
  induction sections generalizing j with
  | nil => simp at hs
  | cons t rest ih =>
    by_cases ht : (t.row : Int) ≤ bound
    · rw [List.countP_cons_of_pos (by simpa using ht)]
      cases j with
      | zero =>
        obtain rfl : t = s := by simpa using hs
        simp [ht]
      | succ j =>
        rw [ih (List.pairwise_cons.mp h).2 (by simpa using hs)]
        omega
    · have hnone := not_row_le_of_head h ht
      have hbeyond := hnone s (List.mem_of_getElem? hs)
      rw [decide_eq_true_iff] at hbeyond
      rw [List.countP_eq_zero.mpr hnone]
      omega

theorem lastArrived?_of_arrivedCount {source : String} {settings : Settings} {scroll k : Nat}
    (h : (parse source).arrivedCount settings scroll = k + 1) :
    ∃ s, ((parse source).navigation settings.navDepth)[k]? = some s ∧
      (parse source).lastArrived? settings scroll = some s := by
  have hle : (parse source).arrivedCount settings scroll ≤
      ((parse source).navigation settings.navDepth).length := List.countP_le_length
  have hk : k < ((parse source).navigation settings.navDepth).length := by omega
  refine ⟨_, List.getElem?_eq_getElem hk, ?_⟩
  rw [lastArrived?, filter_row_eq_take (pairwise_row_navigation source _),
    show List.countP _ _ = k + 1 from h, List.getLast?_take, if_neg (Nat.succ_ne_zero k),
    Nat.add_sub_cancel, List.getElem?_eq_getElem hk, Option.some_or]

theorem lastArrived?_eq_none {p : Page} {settings : Settings} {scroll : Nat}
    (h : p.arrivedCount settings scroll = 0) : p.lastArrived? settings scroll = none := by
  rw [lastArrived?, List.getLast?_eq_none_iff, List.filter_eq_nil_iff]
  exact List.countP_eq_zero.mp h

theorem row_le_iff_lt_arrivedCount {source : String} {settings : Settings} (scroll : Nat) {j : Nat}
    {s : Section} (hs : ((parse source).navigation settings.navDepth)[j]? = some s) :
    (s.row : Int) ≤ scroll + settings.threshold ↔ j < (parse source).arrivedCount settings scroll :=
  row_le_iff_lt_countP (pairwise_row_navigation source _) _ hs

theorem arrivedCount_pos {p : Page} {settings : Settings} {first : Section}
    (hfirst : (p.navigation settings.navDepth).head? = some first)
    (hrow : (first.row : Int) ≤ settings.threshold) (scroll : Nat) :
    0 < p.arrivedCount settings scroll := by
  refine List.countP_pos_iff.mpr ⟨first, List.mem_of_head? hfirst, ?_⟩
  rw [decide_eq_true_iff]
  omega

theorem arrivedCount_mono (p : Page) (settings : Settings) {scroll later : Nat}
    (h : scroll ≤ later) : p.arrivedCount settings scroll ≤ p.arrivedCount settings later := by
  refine List.countP_mono_left fun s _ hs => ?_
  rw [decide_eq_true_iff] at hs ⊢
  omega

end Page

namespace Viewer

open Page (arrivedCount_mono arrivedCount_pos lastArrived?_of_arrivedCount)

section Tracks

variable {source : String} {settings : Settings} {v w : Viewer}
  (hv : Tracks (Page.parse source) settings v) (hclean : v.tracker.pending = none)
  (hpos : 0 < (Page.parse source).arrivedCount settings v.scroll)
include hv hclean hpos

/-- The place of the active section in the navigation is that of the last heading that has arrived. -/
theorem Tracks.currentIndex_succ :
    v.tracker.currentIndex + 1 = (Page.parse source).arrivedCount settings v.scroll := by
  obtain ⟨k, hk⟩ := Nat.exists_eq_succ_of_ne_zero (Nat.ne_of_gt hpos)
  obtain ⟨s, hs, hlast⟩ := lastArrived?_of_arrivedCount hk
  have hcurrent := (hv.evaluated hclean).current s hlast
  have hindex := Page.findIdx?_id_of_getElem? (Page.nodup_id_navigation source _) hs
  rw [Tracker.currentIndex, hv.sections, hcurrent, hindex, hk]
  rfl

theorem Tracks.eq_of_scroll_eq (hw : Tracks (Page.parse source) settings w)
    (hclean' : w.tracker.pending = none) (hscroll : v.scroll = w.scroll) :
    v.tracker.current = w.tracker.current ∧ v.tracker.scrolled = w.tracker.scrolled := by
  obtain ⟨k, hk⟩ := Nat.exists_eq_succ_of_ne_zero (Nat.ne_of_gt hpos)
  obtain ⟨s, -, hlast⟩ := lastArrived?_of_arrivedCount hk
  have hevaluated := hv.evaluated hclean
  have hevaluated' := hw.evaluated hclean'
  constructor
  · rw [hevaluated.current s hlast, hevaluated'.current s (hscroll ▸ hlast)]
  · rw [hevaluated.scrolled, hevaluated'.scrolled, hscroll]

end Tracks

/-- Whenever nothing is left to evaluate, the active section is the last one whose heading has
arrived.  So the scroll alone decides on it, and it never goes back as the scroll goes on. -/
theorem currentIndex_eq_arrivedCount {source : String} {settings : Settings} {first : Section}
    (hfirst : ((Page.parse source).navigation settings.navDepth).head? = some first)
    (hrow : (first.row : Int) ≤ settings.threshold) :
    ∃ v, Viewer.start (Page.parse source) settings = .ok v ∧
      (∀ actions : List Action, (v.run actions).tracker.isDirty = false →
        (v.run actions).tracker.currentIndex + 1 =
          (Page.parse source).arrivedCount settings (v.run actions).scroll) ∧
      ∀ before after : List Action, (v.run before).tracker.isDirty = false →
        (v.run after).tracker.isDirty = false →
        ((v.run before).scroll = (v.run after).scroll →
          (v.run before).tracker.current = (v.run after).tracker.current ∧
          (v.run before).tracker.scrolled = (v.run after).tracker.scrolled) ∧
        ((v.run before).scroll ≤ (v.run after).scroll →
          (v.run before).tracker.currentIndex ≤ (v.run after).tracker.currentIndex) := by
  have hne : (Page.parse source).navigation settings.navDepth ≠ [] := by
    intro hnil
    rw [hnil] at hfirst
    cases hfirst
  obtain ⟨v, hstart, htracks⟩ := exists_start_tracks hne
  have hpos := arrivedCount_pos hfirst hrow
  have hindex : ∀ actions : List Action, (v.run actions).tracker.isDirty = false →
      (v.run actions).tracker.currentIndex + 1 =
        (Page.parse source).arrivedCount settings (v.run actions).scroll := by
    intro actions hclean
    exact (htracks.run actions).currentIndex_succ (Tracker.isDirty_eq_false_iff.mp hclean) (hpos _)
  refine ⟨v, hstart, hindex, fun before after hbefore hafter => ⟨fun hscroll => ?_, fun hle => ?_⟩⟩
  · exact (htracks.run before).eq_of_scroll_eq (Tracker.isDirty_eq_false_iff.mp hbefore) (hpos _)
      (htracks.run after) (Tracker.isDirty_eq_false_iff.mp hafter) hscroll
  · have hmono := arrivedCount_mono (Page.parse source) settings hle
    rw [← hindex before hbefore, ← hindex after hafter] at hmono
    omega

theorem currentIndex_eq_arrivedCount_two_headings :
    let p := Page.parse "# A\n\n\n\n\n## B\n"
    (p.navigation Settings.standard.navDepth).head? = some ⟨"a", "A", 1, 0, 0⟩ ∧
      ((0 : Nat) : Int) ≤ Settings.standard.threshold ∧
      p.arrivedCount .standard 1 = 1 ∧ p.arrivedCount .standard 2 = 2 ∧
      ∃ v, Viewer.start p .standard = .ok v ∧
        (v.run [.scrollTo 2, .flush]).tracker.currentIndex + 1 =
          p.arrivedCount .standard (v.run [.scrollTo 2, .flush]).scroll := by
  intro p
  have hfirst : (p.navigation Settings.standard.navDepth).head? = some ⟨"a", "A", 1, 0, 0⟩ := by decide
  have hrow : ((0 : Nat) : Int) ≤ Settings.standard.threshold := by decide
  obtain ⟨v, hstart, hindex, -⟩ := currentIndex_eq_arrivedCount hfirst hrow
  exact ⟨hfirst, hrow, by decide, by decide, v, hstart,
    hindex [.scrollTo 2, .flush] (Tracker.isDirty_flush _ _)⟩

end Viewer
end DocPager
