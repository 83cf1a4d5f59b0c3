import DocPager.Proofs.Machine.Word
import DocPager.Proofs.Page.Snippets
import DocPager.Proofs.Viewer.Sound
import Mathlib.Data.List.Perm.Subperm

/-!
A viewer whose numbers are small.  Its page, its lists and its times have the sizes that a machine can
hold, and what is added or subtracted in any of its operations then has such a size too.  The view
alone can be as high as a word allows; but a view that is higher than the page begins at the first row.
-/

namespace DocPager.Machine

open Viewer (Action Sound)

/-! ## Times -/

/-- An indicator with times that a machine can tell: it was lit, if it is lit, within half of them. -/
structure Timely (t : CopyTimer) : Prop where
  hold : t.hold < 2 ^ 64
  armed : ∀ time ∈ t.armedAt, time < 2 ^ 62 * 1000

/-- An action that a machine can be asked for: a view is as high as a word allows at most, and a copy
is made at a time within half of what a machine can tell. -/
def ActionFits : Action → Prop
  | .resize height => height < 2 ^ 64
  | .copy _ now => now < 2 ^ 62 * 1000
  | _ => True

theorem Timely.copy {t : CopyTimer} (h : Timely t) (clipboard : Clipboard) {now : Nat}
    (hnow : now < 2 ^ 62 * 1000) : Timely (t.copy clipboard now) := by
  unfold CopyTimer.copy
  split
  · refine ⟨h.hold, fun time htime => ?_⟩
    obtain rfl := Option.some.inj htime
    exact hnow
  · exact h

theorem Timely.cancel {t : CopyTimer} (h : Timely t) : Timely t.cancel :=
  ⟨h.hold, fun _ htime => by cases htime⟩

theorem Timely.tick {t : CopyTimer} (h : Timely t) (now : Nat) : Timely (t.tick now) := by
  unfold CopyTimer.tick
  split
  · exact h.cancel
  · exact h

theorem Timely.act {t : CopyTimer} (h : Timely t) {a : Action} (ha : ActionFits a) (v : Viewer)
    (index : Nat) : Timely (v.actOnTimer index t a) := by
  unfold Viewer.actOnTimer
  split
  · split
    · exact h.copy _ ha
    · exact h
  · exact h.tick _
  · exact h.cancel
  · exact h

/-! ## The height of a view -/

theorem height_act_lt {v : Viewer} (h : v.height < 2 ^ 64) {a : Action} (ha : ActionFits a) :
    (v.act a).height < 2 ^ 64 := by
  have hkept : ∀ w : Viewer, w.height = v.height → w.height < 2 ^ 64 := fun w hw => hw ▸ h
  cases a with
  | resize height =>
    show (v.resize height).height < 2 ^ 64
    rw [Viewer.height_resize]
    exact Nat.max_lt.mpr ⟨ha, by decide⟩
  | scrollTo row => exact hkept _ (Viewer.scrolls_scrollTo v row).height
  | scrollBy delta => exact hkept _ (Viewer.scrolls_scrollTo v _).height
  | pageDown => exact hkept _ (Viewer.scrolls_scrollTo v _).height
  | pageUp => exact hkept _ (Viewer.scrolls_scrollTo v _).height
  | jump link => exact hkept _ (Viewer.scrolls_jump v link).height
  | jumpToNav index => exact hkept _ (Viewer.scrolls_jumpToNav v index).height
  | nextNav => exact hkept _ (Viewer.scrolls_jumpToNav v _).height
  | prevNav => exact hkept _ (Viewer.scrolls_prevNav v).height
  | selectNext => exact hkept _ (Viewer.selects_selectNext v).height
  | selectPrevious => exact hkept _ (Viewer.selects_selectPrevious v).height
  | copy clipboard now => exact hkept _ (Viewer.height_copy v clipboard now)
  | flush | toggleNav | tick _ | shutdown => exact h

/-! ## A viewer -/

structure Bounded (source : String) (settings : Settings) (v : Viewer) : Prop
    extends Sound (Page.parse source) settings v where
  page_height : (Page.parse source).height < 2 ^ 63
  section_count : (Page.parse source).sections.length < 2 ^ 64
  height_lt : v.height < 2 ^ 64
  timely : ∀ t ∈ v.timers, Timely t

namespace Bounded

variable {source : String} {settings : Settings} {v : Viewer} (h : Bounded source settings v)
include h

theorem act {a : Action} (ha : ActionFits a) : Bounded source settings (v.act a) := by
  refine ⟨h.toSound.act a, h.page_height, h.section_count, height_act_lt h.height_lt ha, ?_⟩
  intro t ht
  obtain ⟨index, hindex⟩ := List.mem_iff_getElem?.mp ht
  rw [Viewer.timers_act] at hindex
  obtain ⟨before, hbefore, rfl⟩ := Option.map_eq_some_iff.mp hindex
  exact (h.timely before (List.mem_of_getElem? hbefore)).act ha v index

theorem height_page_lt : v.page.height < 2 ^ 63 := by
  rw [h.page]
  exact h.page_height

theorem maxScroll_lt : v.maxScroll < 2 ^ 63 :=
  Nat.lt_of_le_of_lt (Nat.sub_le _ _) h.height_page_lt

theorem scroll_lt : v.scroll < 2 ^ 63 := Nat.lt_of_le_of_lt h.scroll h.maxScroll_lt

/-- The row below the view.  A view that is higher than the page is not scrolled. -/
theorem bottom_lt : v.scroll + v.height < 2 ^ 64 := by
  have hscroll : v.scroll ≤ v.page.height - v.height := h.scroll
  have hpage := h.height_page_lt
  have hheight := h.height_lt
  omega

theorem section_within {s : Section} (hs : s ∈ v.page.sections) :
    s.level ≤ 6 ∧ s.row < 2 ^ 63 := by
  rw [h.page] at hs
  obtain ⟨hlevel, hrow⟩ := Page.level_row_of_mem_sections hs
  exact ⟨hlevel.2, Nat.lt_trans hrow h.page_height⟩

theorem lastRow_lt {s : Snippet} (hs : s ∈ v.page.snippets) : s.lastRow < 2 ^ 63 := by
  rw [h.page] at hs
  exact Nat.lt_trans (Page.lastRow_lt_height hs) h.page_height

theorem mem_sections_of_tracked {s : Section} (hs : s ∈ v.tracker.sections) :
    s ∈ v.page.sections := by
  rw [h.sections] at hs
  rw [h.page]
  exact Page.mem_sections_of_mem_navigation hs

theorem tracked_lt : v.tracker.sections.length < 2 ^ 64 := by
  rw [h.sections]
  exact Nat.lt_of_le_of_lt (List.length_filter_le _ _) h.section_count

/-- Snippets start on rows of their own, so there are no more of them than rows. -/
theorem snippets_lt : v.page.snippets.length < 2 ^ 63 := by
  rw [h.page]
  have hstarts := (Page.inOrder_parse source).starts
  have hwithin : ∀ s ∈ (Page.parse source).snippets, s.firstRow < (Page.parse source).height := by
    intro s hs
    have hrows := (Page.inOrder_parse source).within s hs
    exact Nat.lt_of_le_of_lt hrows (Page.lastRow_lt_height hs)
  refine Nat.lt_of_le_of_lt ?_ h.page_height
  have hnodup : ((Page.parse source).snippets.map (·.firstRow)).Nodup :=
    List.pairwise_map.mpr (hstarts.imp Nat.ne_of_lt)
  have hsubset : (Page.parse source).snippets.map (·.firstRow) ⊆
      List.range (Page.parse source).height := by
    intro row hrow
    obtain ⟨s, hs, rfl⟩ := List.mem_map.mp hrow
    exact List.mem_range.mpr (hwithin s hs)
  have hle := (hnodup.subperm hsubset).length_le
  rwa [List.length_map, List.length_range] at hle

theorem chosen {index : Nat} (hindex : index < v.page.snippets.length) :
    Bounded source settings { v with selected := some index } := by
  refine ⟨⟨⟨h.height, h.scroll, fun i hi => ?_⟩, h.page, h.timers, h.sections, h.current⟩,
    h.page_height, h.section_count, h.height_lt, h.timely⟩
  obtain rfl := Option.some.inj hi
  exact hindex

end Bounded
end DocPager.Machine
