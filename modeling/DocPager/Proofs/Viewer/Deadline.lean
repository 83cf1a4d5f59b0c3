import DocPager.Viewer.Basic

/-!
When a viewer has to wake up.  Whether an indicator is lit, whether its time is over and when the next
one goes out are three comparisons with the same deadlines; here they come to one, that a time is before
every deadline.  A viewer that has ticked is in that state until its next deadline, and nothing happens
to it before then.
-/

namespace DocPager

namespace CopyTimer

/-- The indicator does not go out up to time `now`: it is dark already, or its time is not over. -/
def Waits (t : CopyTimer) (now : Nat) : Prop := ∀ d, t.deadline? = some d → now < d

variable {t : CopyTimer} {now : Nat}

theorem isExpired_iff : t.isExpired now = true ↔ ∃ d, t.deadline? = some d ∧ d ≤ now := by
  simp [isExpired, Option.any_eq_true]

theorem isExpired_eq_false_iff : t.isExpired now = false ↔ t.Waits now := by
  rw [← Bool.not_eq_true, isExpired_iff]
  simp [Waits]

theorem tick_of_waits (h : t.Waits now) : t.tick now = t := by
  rw [tick, isExpired_eq_false_iff.mpr h]
  rfl

theorem waits_tick (t : CopyTimer) (now : Nat) : (t.tick now).Waits now := by
  by_cases h : t.isExpired now = true
  · rw [tick, if_pos h]
    intro d hd
    cases hd
  · rw [Bool.not_eq_true, isExpired_eq_false_iff] at h
    rw [tick_of_waits h]
    exact h

theorem isLit_of_waits (h : t.Waits now) : t.isLit now = t.armedAt.isSome := by
  rw [isLit]
  cases harmed : t.armedAt with
  | none => simp [deadline?, harmed]
  | some copied =>
    have hdeadline : t.deadline? = some (copied + t.hold) := by
      rw [deadline?, harmed, Option.map_some]
    rw [hdeadline]
    exact decide_eq_true (h _ hdeadline)

end CopyTimer

namespace Viewer

/-- No indicator goes out up to time `now`. -/
def Waits (v : Viewer) (now : Nat) : Prop := ∀ t ∈ v.timers, t.Waits now

variable {v : Viewer} {now : Nat}

theorem expires_iff :
    v.expires now = true ↔ ∃ t ∈ v.timers, ∃ d, t.deadline? = some d ∧ d ≤ now := by
  simp only [expires, List.any_eq_true, CopyTimer.isExpired_iff]

theorem nextDeadline?_eq_some_iff {d : Nat} :
    v.nextDeadline? = some d ↔
      (∃ t ∈ v.timers, t.deadline? = some d) ∧
        ∀ t ∈ v.timers, ∀ e, t.deadline? = some e → d ≤ e := by
  rw [nextDeadline?, List.min?_eq_some_iff, List.mem_filterMap]
  refine and_congr_right fun _ => ⟨fun h t ht e he => ?_, fun h e he => ?_⟩
  · exact h e (List.mem_filterMap.mpr ⟨t, ht, he⟩)
  · obtain ⟨t, ht, he⟩ := List.mem_filterMap.mp he
    exact h t ht e he

theorem nextDeadline?_eq_none_iff :
    v.nextDeadline? = none ↔ ∀ t ∈ v.timers, t.deadline? = none := by
  rw [nextDeadline?, List.min?_eq_none_iff, List.filterMap_eq_nil_iff]

/-- Of all deadlines only the next one counts. -/
theorem waits_iff : v.Waits now ↔ ∀ d, v.nextDeadline? = some d → now < d := by
  constructor
  · intro h d hd
    obtain ⟨⟨t, ht, hd⟩, -⟩ := nextDeadline?_eq_some_iff.mp hd
    exact h t ht d hd
  · intro h t ht d hd
    cases hnext : v.nextDeadline? with
    | none =>
      rw [nextDeadline?_eq_none_iff.mp hnext t ht] at hd
      cases hd
    | some e =>
      have hle := (nextDeadline?_eq_some_iff.mp hnext).2 t ht d hd
      exact Nat.lt_of_lt_of_le (h e hnext) hle

theorem expires_eq_false_iff : v.expires now = false ↔ v.Waits now := by
  rw [expires, List.any_eq_false]
  refine forall₂_congr fun t _ => ?_
  rw [Bool.not_eq_true, CopyTimer.isExpired_eq_false_iff]

theorem tick_of_waits (h : v.Waits now) : v.tick now = v := by
  have htimers : v.timers.map (·.tick now) = v.timers :=
    (List.map_congr_left fun t ht => CopyTimer.tick_of_waits (h t ht)).trans (List.map_id _)
  rw [tick, htimers, expires_eq_false_iff.mpr h]
  rfl

theorem waits_tick (v : Viewer) (now : Nat) : (v.tick now).Waits now := by
  intro t ht
  obtain ⟨s, -, rfl⟩ := List.mem_map.mp ht
  exact s.waits_tick now

/-- Until an indicator goes out, the armed ones are the ones that are lit. -/
theorem isCopied_of_waits (h : v.Waits now) (index : Nat) :
    v.isCopied index now = (v.timers[index]?).any (·.armedAt.isSome) := by
  rw [isCopied]
  cases ht : v.timers[index]? with
  | none => rfl
  | some t => exact CopyTimer.isLit_of_waits (h t (List.mem_of_getElem? ht))

/-- A tick puts out the indicators whose time is over, if there are any.  Then the next deadline is
the first of those that are left and is still to come, nothing happens before it, and a tick at that
time puts out another indicator. -/
theorem next_deadline_suffices (v : Viewer) (now : Nat) :
    (v.expires now = true ↔ ∃ t ∈ v.timers, ∃ d, t.deadline? = some d ∧ d ≤ now) ∧
      ((v.tick now).nextDeadline? = none ↔ ∀ t ∈ (v.tick now).timers, t.deadline? = none) ∧
      (∀ d, (v.tick now).nextDeadline? = some d →
        now < d ∧
        (∃ t ∈ (v.tick now).timers, t.deadline? = some d) ∧
        (∀ t ∈ (v.tick now).timers, ∀ e, t.deadline? = some e → d ≤ e) ∧
        (v.tick now).expires d = true ∧
        ∀ e, ((v.tick now).tick d).nextDeadline? = some e → d < e) ∧
      ∀ later, (∀ d, (v.tick now).nextDeadline? = some d → later < d) →
        (∀ index, (v.tick now).isCopied index later = (v.tick now).isCopied index now) ∧
        (v.tick now).expires later = false ∧
        (v.tick now).tick later = v.tick now := by
  have hwaits := v.waits_tick now
  refine ⟨expires_iff, nextDeadline?_eq_none_iff, fun d hd => ?_, fun later hlater => ?_⟩
  · obtain ⟨⟨t, ht, hdeadline⟩, hleast⟩ := nextDeadline?_eq_some_iff.mp hd
    refine ⟨waits_iff.mp hwaits d hd, ⟨t, ht, hdeadline⟩, hleast, ?_, ?_⟩
    · exact expires_iff.mpr ⟨t, ht, d, hdeadline, Nat.le_refl d⟩
    · exact waits_iff.mp ((v.tick now).waits_tick d)
  · have hstill : (v.tick now).Waits later := waits_iff.mpr hlater
    refine ⟨fun index => ?_, expires_eq_false_iff.mpr hstill, tick_of_waits hstill⟩
    rw [isCopied_of_waits hstill, isCopied_of_waits hwaits]

end Viewer
end DocPager
