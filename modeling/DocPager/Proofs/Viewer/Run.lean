import DocPager.Proofs.Tracker
import DocPager.Proofs.Viewer.Scroll

/-!
Runs of a viewer: one action after the other, in any order.  Most actions only move the view, and
all that such an action does is told in one relation.  Claims about runs need no more than that and
the few actions that do something else.
-/

namespace DocPager.Viewer

/-- What can be done to a viewer. -/
inductive Action where
  | scrollTo (row : Nat)
  | scrollBy (delta : Int)
  | pageDown
  | pageUp
  | resize (height : Nat)
  | flush
  | jump (link : String)
  | jumpToNav (index : Nat)
  | nextNav
  | prevNav
  | toggleNav
  | selectNext
  | selectPrevious
  | copy (clipboard : Clipboard) (now : Nat)
  | tick (now : Nat)
  | shutdown
  deriving DecidableEq, Repr

/-- The viewer after an action.  A jump that leads nowhere leaves it as it is. -/
def act (v : Viewer) : Action → Viewer
  | .scrollTo row => v.scrollTo row
  | .scrollBy delta => v.scrollBy delta
  | .pageDown => v.pageDown
  | .pageUp => v.pageUp
  | .resize height => v.resize height
  | .flush => v.flush
  | .jump link => (v.jump? link).getD v
  | .jumpToNav index => (v.jumpToNav? index).getD v
  | .nextNav => v.nextNav?.getD v
  | .prevNav => v.prevNav?.getD v
  | .toggleNav => v.toggleNav
  | .selectNext => v.selectNext
  | .selectPrevious => v.selectPrevious
  | .copy clipboard now => v.copy clipboard now
  | .tick now => v.tick now
  | .shutdown => v.shutdown

def run (v : Viewer) (actions : List Action) : Viewer := actions.foldl act v

@[simp] theorem run_nil (v : Viewer) : v.run [] = v := rfl

@[simp] theorem run_cons (v : Viewer) (a : Action) (rest : List Action) :
    v.run (a :: rest) = (v.act a).run rest := rfl

@[simp] theorem run_append (v : Viewer) (a b : List Action) : v.run (a ++ b) = (v.run a).run b :=
  List.foldl_append

@[simp] theorem run_singleton (v : Viewer) (a : Action) : v.run [a] = v.act a := rfl

theorem run_induction {P : Viewer → Prop} (hact : ∀ v a, P v → P (v.act a)) {v : Viewer} (h : P v)
    (actions : List Action) : P (v.run actions) := by
  induction actions generalizing v with
  | nil => exact h
  | cons a rest ih => exact ih (hact v a h)

/-- A viewer starts on the first row of the page, with that scroll evaluated. -/
theorem eq_of_start {p : Page} {settings : Settings} {v : Viewer}
    (h : Viewer.start p settings = .ok v) :
    ∃ t, Tracker.start (p.navigation settings.navDepth) settings.limits = .ok t ∧
      v = Viewer.flush
        { page := p
          tracker := t.noteScroll 0
          timers := p.snippets.map fun s => .dark s.text settings.copiedFor
          scroll := 0
          height := 1
          selected := none
          navOpen := false
          notice := none } := by
  unfold Viewer.start at h
  cases ht : Tracker.start (p.navigation settings.navDepth) settings.limits with
  | error e =>
    rw [ht] at h
    cases h
  | ok t =>
    rw [ht] at h
    cases h
    exact ⟨t, rfl, rfl⟩

/-! ## Moving the view -/

/-- `w` is `v` with the view moved or as it was.  The tracker has noted the scroll if there was
one, and nothing is evaluated. -/
structure Moves (v w : Viewer) : Prop where
  page : w.page = v.page
  timers : w.timers = v.timers
  tracker : w.scroll = v.scroll ∧ w.tracker = v.tracker ∨ w.tracker = v.tracker.noteScroll w.scroll

namespace Moves

theorem refl (v : Viewer) : Moves v v := ⟨rfl, rfl, .inl ⟨rfl, rfl⟩⟩

theorem trans {u v w : Viewer} (huv : Moves u v) (hvw : Moves v w) : Moves u w := by
  refine ⟨hvw.page.trans huv.page, hvw.timers.trans huv.timers, ?_⟩
  rcases hvw.tracker with ⟨hs, ht⟩ | ht
  · rw [hs, ht]
    exact huv.tracker
  · -- Only the last scroll counts.
    rcases huv.tracker with ⟨-, hu⟩ | hu <;> rw [ht, hu] <;> exact .inr rfl

variable {v w : Viewer} (h : Moves v w)
include h

/-- A part of the tracker that a note of the scroll leaves alone. -/
theorem kept {α : Type} (part : Tracker → α)
    (hpart : ∀ t offset, part (t.noteScroll offset) = part t) : part w.tracker = part v.tracker := by
  rcases h.tracker with ⟨-, ht⟩ | ht
  · rw [ht]
  · rw [ht, hpart]

theorem sections : w.tracker.sections = v.tracker.sections := h.kept Tracker.sections fun _ _ => rfl

theorem limits : w.tracker.limits = v.tracker.limits := h.kept Tracker.limits fun _ _ => rfl

theorem current : w.tracker.current = v.tracker.current := h.kept Tracker.current fun _ _ => rfl

theorem currentIndex : w.tracker.currentIndex = v.tracker.currentIndex :=
  h.kept Tracker.currentIndex fun _ _ => rfl

end Moves

theorem moves_scrollTo (v : Viewer) (row : Nat) : Moves v (v.scrollTo row) := by
  simp only [scrollTo]
  split
  · exact .refl v
  · exact ⟨rfl, rfl, .inr rfl⟩

theorem Scrolls.moves {v w : Viewer} (h : Scrolls v w) : Moves v w := by
  rcases h with rfl | ⟨row, rfl⟩
  · exact .refl w
  · exact moves_scrollTo v row

theorem moves_resize (v : Viewer) (height : Nat) : Moves v (v.resize height) := by
  have hfit : Moves v { v with height := max height 1 } := ⟨rfl, rfl, .inl ⟨rfl, rfl⟩⟩
  simp only [resize]
  split
  · exact hfit.trans (moves_scrollTo _ _)
  · exact hfit

theorem moves_select (v : Viewer) (index : Nat) : Moves v (v.select index) := by
  have hchosen : Moves v { v with selected := some index } := ⟨rfl, rfl, .inl ⟨rfl, rfl⟩⟩
  exact hchosen.trans (scrolls_reveal _ index).moves

theorem height_select (v : Viewer) (index : Nat) : (v.select index).height = v.height :=
  (scrolls_reveal _ index).height

theorem selected_select (v : Viewer) (index : Nat) : (v.select index).selected = some index :=
  (scrolls_reveal _ index).selected

/-- `w` is `v` with a snippet chosen and shown, or as it was. -/
def Selects (v w : Viewer) : Prop := w = v ∨ ∃ index, w = v.select index

theorem selects_firstBelowTop (v : Viewer) :
    Selects v ((v.firstBelowTop?.map v.select).getD v) := by
  cases v.firstBelowTop? with
  | none => exact .inl rfl
  | some index => exact .inr ⟨index, rfl⟩

theorem selects_selectNext (v : Viewer) : Selects v v.selectNext := by
  unfold selectNext
  split
  · exact .inr ⟨_, rfl⟩
  · exact selects_firstBelowTop v

theorem selects_selectPrevious (v : Viewer) : Selects v v.selectPrevious := by
  unfold selectPrevious
  split
  · exact .inr ⟨_, rfl⟩
  · exact selects_firstBelowTop v

theorem Selects.moves {v w : Viewer} (h : Selects v w) : Moves v w := by
  rcases h with rfl | ⟨index, rfl⟩
  · exact .refl w
  · exact moves_select v index

theorem Selects.height {v w : Viewer} (h : Selects v w) : w.height = v.height := by
  rcases h with rfl | ⟨index, rfl⟩
  · rfl
  · exact height_select v index

theorem Selects.notice {v w : Viewer} (h : Selects v w) : w.notice = v.notice := by
  rcases h with rfl | ⟨index, rfl⟩
  · rfl
  · exact (scrolls_reveal _ index).notice

namespace Action

/-- Whether an action does no more than move the view.  The others evaluate a scroll or have to do
with the indicators. -/
def isMove : Action → Bool
  | .flush | .copy _ _ | .tick _ | .shutdown => false
  | _ => true

end Action

/-- Each of these actions is a scroll, if it comes to anything. -/
theorem moves_act {a : Action} (h : a.isMove = true) (v : Viewer) : Moves v (v.act a) := by
  cases a with
  | scrollTo row => exact moves_scrollTo v row
  | scrollBy delta => exact moves_scrollTo v _
  | pageDown => exact moves_scrollTo v _
  | pageUp => exact moves_scrollTo v _
  | resize height => exact moves_resize v height
  | jump link => exact (scrolls_jump v link).moves
  | jumpToNav index => exact (scrolls_jumpToNav v index).moves
  | nextNav => exact (scrolls_jumpToNav v _).moves
  | prevNav => exact (scrolls_prevNav v).moves
  | toggleNav => exact ⟨rfl, rfl, .inl ⟨rfl, rfl⟩⟩
  | selectNext => exact (selects_selectNext v).moves
  | selectPrevious => exact (selects_selectPrevious v).moves
  | flush | copy _ _ | tick _ | shutdown => cases h

/-! ## The other actions -/

theorem flush_of_clean {v : Viewer} (h : v.tracker.pending = none) : v.flush = v := by
  rw [flush, Tracker.flush_of_clean h]

theorem page_copy (v : Viewer) (clipboard : Clipboard) (now : Nat) :
    (v.copy clipboard now).page = v.page := by
  unfold copy
  split <;> rfl

theorem tracker_copy (v : Viewer) (clipboard : Clipboard) (now : Nat) :
    (v.copy clipboard now).tracker = v.tracker := by
  unfold copy
  split <;> rfl

theorem scroll_copy (v : Viewer) (clipboard : Clipboard) (now : Nat) :
    (v.copy clipboard now).scroll = v.scroll := by
  unfold copy
  split <;> rfl

theorem height_copy (v : Viewer) (clipboard : Clipboard) (now : Nat) :
    (v.copy clipboard now).height = v.height := by
  unfold copy
  split <;> rfl

theorem page_act (v : Viewer) (a : Action) : (v.act a).page = v.page := by
  by_cases h : a.isMove = true
  · exact (moves_act h v).page
  · cases a with
    | copy clipboard now => exact page_copy v clipboard now
    | flush | tick _ | shutdown => rfl
    | _ => exact absurd rfl h

/-- A flush evaluates the scroll that was noted.  Any other action leaves the tracker as it is or has
it note the scroll. -/
theorem tracker_act (v : Viewer) (a : Action) :
    a = .flush ∧ v.act a = v.flush ∨
      (v.act a).scroll = v.scroll ∧ (v.act a).tracker = v.tracker ∨
      (v.act a).tracker = v.tracker.noteScroll (v.act a).scroll := by
  by_cases h : a.isMove = true
  · exact .inr (moves_act h v).tracker
  · cases a with
    | flush => exact .inl ⟨rfl, rfl⟩
    | copy clipboard now =>
      exact .inr (.inl ⟨scroll_copy v clipboard now, tracker_copy v clipboard now⟩)
    | tick _ | shutdown => exact .inr (.inl ⟨rfl, rfl⟩)
    | _ => exact absurd rfl h

@[simp] theorem page_run (v : Viewer) (actions : List Action) : (v.run actions).page = v.page :=
  run_induction (P := fun w => w.page = v.page) (fun w a h => (page_act w a).trans h) rfl actions

end DocPager.Viewer
