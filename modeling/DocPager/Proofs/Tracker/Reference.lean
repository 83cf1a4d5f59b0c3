import DocPager.Proofs.Tracker
import Mathlib.Data.List.DropRight

/-!
What notes and flushes in any order come to.  The reference looks back over the calls for the offset
that each flush has to evaluate, and evaluates it in one step against all sections; a tracker keeps no
more than the last offset.  `active_callAll` says that a reader cannot tell them apart.
-/

namespace DocPager.Tracker

/-! ## Calls -/

inductive Call where
  | note (offset : Int)
  | flush (anchors : Anchors)

namespace Call

def offset? : Call → Option Int
  | .note offset => some offset
  | .flush _ => none

end Call

def call (t : Tracker) : Call → Tracker
  | .note offset => t.noteScroll offset
  | .flush anchors => t.flush anchors

def callAll (t : Tracker) (calls : List Call) : Tracker := calls.foldl call t

/-- `t` is a tracker of these sections, whatever has been done to it since its start. -/
inductive Made (sections : List Section) (limits : Limits) : Tracker → Prop where
  | start {t : Tracker} : Tracker.start sections limits = .ok t → Made sections limits t
  | withCurrent {t u : Tracker} {id : String} :
    Made sections limits t → t.withCurrent id = .ok u → Made sections limits u
  | call {t : Tracker} (c : Call) : Made sections limits t → Made sections limits (t.call c)
  | evaluate {t : Tracker} (offset : Int) (anchors : Anchors) :
    Made sections limits t → Made sections limits (t.evaluate offset anchors)

@[simp] theorem sections_call (t : Tracker) (c : Call) : (t.call c).sections = t.sections := by
  cases c with
  | note offset => rfl
  | flush anchors => exact t.sections_flush anchors

@[simp] theorem limits_call (t : Tracker) (c : Call) : (t.call c).limits = t.limits := by
  cases c with
  | note offset => rfl
  | flush anchors => exact t.limits_flush anchors

theorem Made.sections_limits {sections : List Section} {limits : Limits} {t : Tracker}
    (h : Made sections limits t) :
    t.sections = (sections.mergeSort fun s t => s.order ≤ t.order) ∧ t.limits = limits := by
  induction h with
  | start h =>
    rw [Tracker.start] at h
    split at h
    · cases h
    · next first rest hsections =>
      cases h
      exact ⟨hsections.symm.trans (inOrder_eq_mergeSort sections), rfl⟩
  | withCurrent _ h ih =>
    rw [Tracker.withCurrent] at h
    split at h
    · cases h
      exact ih
    · cases h
  | call c _ ih =>
    rw [sections_call, limits_call]
    exact ih
  | evaluate offset anchors _ ih => exact ih

/-! ## The reference -/

/-- The offsets noted since the last flush. -/
def openOffsets (calls : List Call) : List Int :=
  (calls.rtakeWhile fun c => c.offset?.isSome).filterMap Call.offset?

structure Evaluation where
  offset : Int
  anchors : Anchors

/-- The evaluations that calls ask for when `before` are the calls before them: at each flush the last
of the offsets that are open, if there is one. -/
def evaluations (before : List Call) : List Call → List Evaluation
  | [] => []
  | .note offset :: rest => evaluations (before ++ [.note offset]) rest
  | .flush anchors :: rest =>
    ((openOffsets before).getLast?.map fun offset => { offset, anchors }).toList ++
      evaluations (before ++ [.flush anchors]) rest

/-- What a reader sees of a tracker. -/
structure Active where
  current : String
  scrolled : Bool
  deriving DecidableEq, Repr

def active (t : Tracker) : Active := { current := t.current, scrolled := t.scrolled }

/-- The last of the sections whose heading can be measured and has arrived becomes the active one. -/
def Active.evaluate (sections : List Section) (limits : Limits) (a : Active) (e : Evaluation) :
    Active where
  current :=
    match (sections.filter fun s => (e.anchors s.id).any (· ≤ limits.threshold)).getLast? with
    | some s => s.id
    | none => a.current
  scrolled := limits.scrolledOffset < e.offset

/-- A scroll that waits to be evaluated, as the call that has noted it. -/
def backlog (t : Tracker) : List Call := t.pending.toList.map .note

/-! ## The two runs -/

theorem openOffsets_note (calls : List Call) (offset : Int) :
    openOffsets (calls ++ [.note offset]) = openOffsets calls ++ [offset] := by
  rw [openOffsets, List.rtakeWhile_concat_pos _ _ _ rfl, List.filterMap_append]
  rfl

theorem openOffsets_flush (calls : List Call) (anchors : Anchors) :
    openOffsets (calls ++ [.flush anchors]) = [] := by
  rw [openOffsets, List.rtakeWhile_concat_neg _ _ _ (by simp [Call.offset?]), List.filterMap_nil]

theorem getLast?_openOffsets_backlog (t : Tracker) :
    (openOffsets t.backlog).getLast? = t.pending := by
  rw [backlog]
  cases t.pending with
  | none => rfl
  | some offset => rfl

theorem active_evaluate (t : Tracker) (e : Evaluation) :
    (t.evaluate e.offset e.anchors).active = t.active.evaluate t.sections t.limits e := by
  rw [Active.evaluate, List.getLast?_filter]
  show Active.mk (((t.arrived? e.anchors).map (·.id)).getD t.current) _ = _
  rw [arrived?]
  cases t.sections.reverse.find? fun s => (e.anchors s.id).any (· ≤ t.limits.threshold) <;> rfl

/-- If the scroll that waits is the last one noted since the last flush, this is so after any further
calls, and what was evaluated is what the reference evaluates. -/
theorem callAll_of_pending {t : Tracker} {before : List Call}
    (h : t.pending = (openOffsets before).getLast?) (calls : List Call) :
    (t.callAll calls).pending = (openOffsets (before ++ calls)).getLast? ∧
      (t.callAll calls).active =
        (evaluations before calls).foldl (Active.evaluate t.sections t.limits) t.active := by
  induction calls generalizing t before with
  | nil =>
    rw [List.append_nil]
    exact ⟨h, rfl⟩
  | cons c rest ih =>
    rw [List.append_cons]
    cases c with
    | note offset =>
      refine ih ?_
      rw [openOffsets_note, List.getLast?_concat]
      rfl
    | flush anchors =>
      have hnone : (t.flush anchors).pending = (openOffsets (before ++ [.flush anchors])).getLast? := by
        rw [pending_flush, openOffsets_flush, List.getLast?_nil]
      obtain ⟨hpending, hactive⟩ := ih hnone
      refine ⟨hpending, ?_⟩
      rw [evaluations, List.foldl_append, ← h]
      show ((t.flush anchors).callAll rest).active = _
      rw [hactive, sections_flush, limits_flush]
      congr 1
      cases hwaiting : t.pending with
      | none =>
        rw [flush_of_clean hwaiting]
        rfl
      | some offset =>
        rw [flush_of_pending hwaiting]
        exact active_evaluate { t with pending := none } ⟨offset, anchors⟩

/-- Notes and flushes in any order leave a tracker with the same active section as the reference, which
evaluates once for each flush with something noted since the one before.  A flush tells whether it
makes another section the active one, and a tracker waits for a flush exactly when something was noted
since the last one. -/
theorem active_callAll {sections : List Section} {limits : Limits} {t : Tracker}
    (h : Made sections limits t) (calls : List Call) :
    (t.callAll calls).active =
        (evaluations t.backlog calls).foldl
          (Active.evaluate (sections.mergeSort fun s t => s.order ≤ t.order) limits) t.active ∧
      ((t.callAll calls).isDirty = true ↔ openOffsets (t.backlog ++ calls) ≠ []) ∧
      ∀ anchors, (t.callAll calls).flushMoves anchors = true ↔
        ((t.callAll calls).flush anchors).current ≠ (t.callAll calls).current := by
  obtain ⟨hsections, hlimits⟩ := h.sections_limits
  obtain ⟨hpending, hactive⟩ :=
    callAll_of_pending (getLast?_openOffsets_backlog t).symm calls
  refine ⟨?_, ?_, flushMoves_iff _⟩
  · rw [← hsections, ← hlimits]
    exact hactive
  · rw [isDirty, hpending, List.getLast?_isSome]

theorem active_callAll_same_ids :
    let sections : List Section := [⟨"b", "B", 1, 1, 9⟩, ⟨"a", "A", 1, 0, 0⟩, ⟨"b", "C", 2, 1, 12⟩]
    let top : Anchors := fun id => if id = "b" then some 3 else none
    ∃ t, start sections .standard = .ok t ∧ t.current = "a" ∧
      (t.callAll [.note 7, .note 30, .flush top, .flush top]).active = ⟨"b", true⟩ ∧
      (t.callAll [.note 7, .note 30, .flush top, .flush top]).active =
        (evaluations t.backlog [.note 7, .note 30, .flush top, .flush top]).foldl
          (Active.evaluate (sections.mergeSort fun s t => s.order ≤ t.order) .standard) t.active := by
  intro sections top
  have hmade : start sections .standard =
      .ok { sections := [⟨"a", "A", 1, 0, 0⟩, ⟨"b", "B", 1, 1, 9⟩, ⟨"b", "C", 2, 1, 12⟩],
            limits := .standard, current := "a", scrolled := false, pending := none } := rfl
  exact ⟨_, hmade, rfl, by decide, (active_callAll (.start hmade) _).1⟩

end DocPager.Tracker
