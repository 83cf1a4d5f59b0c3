import DocPager.Tracker

/-!
What a tracker makes of its sections and of a scroll.
-/

namespace DocPager.Tracker

/-! ## Order -/

theorem place_of_le {s : Section} {sections : List Section}
    (h : ∀ t ∈ sections, s.order ≤ t.order) : place s sections = s :: sections := by
  cases sections with
  | nil => rfl
  | cons t rest => rw [place, if_pos (h t List.mem_cons_self)]

theorem inOrder_of_pairwise {sections : List Section}
    (h : sections.Pairwise (·.order ≤ ·.order)) : inOrder sections = sections := by
  induction sections with
  | nil => rfl
  | cons s rest ih =>
    rw [List.pairwise_cons] at h
    show place s (inOrder rest) = s :: rest
    rw [ih h.2, place_of_le h.1]

theorem place_append {s : Section} {before after : List Section}
    (hbefore : ∀ t ∈ before, ¬s.order ≤ t.order) (hafter : ∀ t ∈ after, s.order ≤ t.order) :
    place s (before ++ after) = before ++ s :: after := by
  induction before with
  | nil => exact place_of_le hafter
  | cons t rest ih =>
    rw [List.cons_append, place, if_neg (hbefore t List.mem_cons_self),
      ih fun u hu => hbefore u (List.mem_cons_of_mem t hu), List.cons_append]

theorem order_trans (a b c : Section) (hab : decide (a.order ≤ b.order) = true)
    (hbc : decide (b.order ≤ c.order) = true) : decide (a.order ≤ c.order) = true := by
  rw [decide_eq_true_eq] at *
  exact Nat.le_trans hab hbc

theorem order_total (a b : Section) :
    (decide (a.order ≤ b.order) || decide (b.order ≤ a.order)) = true := by
  rw [Bool.or_eq_true, decide_eq_true_eq, decide_eq_true_eq]
  exact Nat.le_total a.order b.order

/-- The order of a tracker is the stable sort by places. -/
theorem inOrder_eq_mergeSort (sections : List Section) :
    inOrder sections = sections.mergeSort fun s t => s.order ≤ t.order := by
  induction sections with
  | nil => rw [List.mergeSort_nil, inOrder, List.foldr_nil]
  | cons s rest ih =>
    -- Sorting with `s` in front puts it between what is smaller and the rest, which is sorted.
    obtain ⟨before, after, hcons, hrest, hbefore⟩ :=
      List.mergeSort_cons order_trans order_total s rest
    have hsorted := List.pairwise_mergeSort order_trans order_total (s :: rest)
    rw [hcons, List.pairwise_append, List.pairwise_cons] at hsorted
    show place s (inOrder rest) = _
    rw [ih, hrest, hcons]
    refine place_append ?_ ?_
    · intro t ht
      simpa using hbefore t ht
    · intro t ht
      simpa using hsorted.2.1.1 t ht

theorem perm_inOrder (sections : List Section) : (inOrder sections).Perm sections := by
  rw [inOrder_eq_mergeSort]
  exact List.mergeSort_perm sections _

theorem pairwise_inOrder (sections : List Section) :
    (inOrder sections).Pairwise (·.order ≤ ·.order) := by
  rw [inOrder_eq_mergeSort]
  exact (List.pairwise_mergeSort order_trans order_total sections).imp of_decide_eq_true

theorem filter_order_place (k : Nat) (s : Section) (sections : List Section) :
    (place s sections).filter (·.order = k) = (s :: sections).filter (·.order = k) := by
  induction sections with
  | nil => rfl
  | cons t rest ih =>
    rw [place]
    split
    · rfl
    · next hlt =>
      rw [List.filter_cons, ih]
      by_cases ht : t.order = k
      · -- What is put behind a section of place `k` is of another place.
        have hs : ¬s.order = k := by omega
        simp [ht, hs]
      · simp [List.filter_cons, ht]

/-- Sections of one place keep their order. -/
theorem filter_order_inOrder (k : Nat) (sections : List Section) :
    (inOrder sections).filter (·.order = k) = sections.filter (·.order = k) := by
  induction sections with
  | nil => rfl
  | cons s rest ih =>
    show (place s (inOrder rest)).filter (·.order = k) = _
    rw [filter_order_place, List.filter_cons, List.filter_cons, ih]

theorem start_of_pairwise {first : Section} {rest : List Section} (limits : Limits)
    (h : (first :: rest).Pairwise (·.order ≤ ·.order)) :
    start (first :: rest) limits =
      .ok { sections := first :: rest, limits, current := first.id, scrolled := false,
            pending := none } := by
  rw [start, inOrder_of_pairwise h]

/-! ## Evaluation -/

/-- The section found is the last one whose heading has arrived, if all of them can be measured. -/
theorem arrived?_eq_getLast? {t : Tracker} {anchors : Anchors} {top : Section → Int}
    (h : ∀ s ∈ t.sections, anchors s.id = some (top s)) :
    t.arrived? anchors =
      (t.sections.filter fun s => decide (top s ≤ t.limits.threshold)).getLast? := by
  rw [arrived?, ← List.getLast?_filter]
  congr 1
  apply List.filter_congr
  intro s hs
  rw [h s hs, Option.any_some]

/-- A flush tells whether it makes another section the active one. -/
theorem flushMoves_iff (t : Tracker) (anchors : Anchors) :
    t.flushMoves anchors = true ↔ (t.flush anchors).current ≠ t.current := by
  cases hpending : t.pending with
  | none => simp [flushMoves, isDirty, flush, hpending]
  | some offset =>
    have harrived : { t with pending := none }.arrived? anchors = t.arrived? anchors := rfl
    cases hfound : t.arrived? anchors <;>
      simp [flushMoves, isDirty, moves, flush, evaluate, hpending, harrived, hfound]

theorem isDirty_eq_false_iff {t : Tracker} : t.isDirty = false ↔ t.pending = none := by
  simp [isDirty]

theorem flush_of_clean {t : Tracker} (h : t.pending = none) (anchors : Anchors) :
    t.flush anchors = t := by
  rw [flush, h]

theorem flush_of_pending {t : Tracker} {offset : Int} (h : t.pending = some offset)
    (anchors : Anchors) :
    t.flush anchors = { t with pending := none }.evaluate offset anchors := by
  rw [flush, h]

@[simp] theorem sections_flush (t : Tracker) (anchors : Anchors) :
    (t.flush anchors).sections = t.sections := by
  unfold flush
  split <;> rfl

@[simp] theorem limits_flush (t : Tracker) (anchors : Anchors) :
    (t.flush anchors).limits = t.limits := by
  unfold flush
  split <;> rfl

@[simp] theorem pending_flush (t : Tracker) (anchors : Anchors) :
    (t.flush anchors).pending = none := by
  unfold flush
  split
  · rfl
  · next h => exact h

/-! ## The active section -/

theorem contains_iff {t : Tracker} {id : String} :
    t.contains id = true ↔ ∃ s ∈ t.sections, s.id = id := by
  simp [contains]

/-- The active section is found where its index says. -/
theorem getElem?_currentIndex {t : Tracker} (h : t.contains t.current = true) :
    ∃ s, t.sections[t.currentIndex]? = some s ∧ s.id = t.current := by
  have hfound : (t.sections.findIdx? (·.id == t.current)).isSome = true := by
    rw [List.findIdx?_isSome]
    exact h
  obtain ⟨k, hk⟩ := Option.isSome_iff_exists.mp hfound
  obtain ⟨hlt, hid, -⟩ := List.findIdx?_eq_some_iff_getElem.mp hk
  rw [currentIndex, hk]
  exact ⟨_, List.getElem?_eq_getElem hlt, eq_of_beq hid⟩

/-- No section before the active one has the same id. -/
theorem id_ne_of_lt_currentIndex {t : Tracker} {k : Nat} {s : Section} (hk : k < t.currentIndex)
    (hs : t.sections[k]? = some s) : s.id ≠ t.current := by
  rw [currentIndex] at hk
  cases hfound : t.sections.findIdx? (·.id == t.current) with
  | none =>
    rw [hfound] at hk
    exact absurd hk (Nat.not_lt_zero k)
  | some index =>
    rw [hfound] at hk
    obtain ⟨hlt, rfl⟩ := List.getElem?_eq_some_iff.mp hs
    obtain ⟨_, -, hbefore⟩ := List.findIdx?_eq_some_iff_getElem.mp hfound
    intro hid
    exact hbefore k hk (by rw [hid]; exact beq_self_eq_true _)

theorem contains_current_start {sections : List Section} {limits : Limits} {t : Tracker}
    (h : start sections limits = .ok t) : t.contains t.current = true := by
  rw [start] at h
  split at h
  · cases h
  · next first rest _ =>
    cases h
    exact contains_iff.mpr ⟨first, List.mem_cons_self, rfl⟩

theorem contains_current_evaluate {t : Tracker} (h : t.contains t.current = true) (offset : Int)
    (anchors : Anchors) :
    (t.evaluate offset anchors).contains (t.evaluate offset anchors).current = true := by
  show t.contains (((t.arrived? anchors).map (·.id)).getD t.current) = true
  cases harrived : t.arrived? anchors with
  | none => exact h
  | some s =>
    have hs : s ∈ t.sections := List.mem_reverse.mp (List.mem_of_find?_eq_some harrived)
    exact contains_iff.mpr ⟨s, hs, rfl⟩

theorem contains_current_flush {t : Tracker} (h : t.contains t.current = true)
    (anchors : Anchors) : (t.flush anchors).contains (t.flush anchors).current = true := by
  unfold flush
  split
  · next offset _ =>
    have hclean : { t with pending := none }.contains t.current = true := h
    exact contains_current_evaluate hclean offset anchors
  · exact h

end DocPager.Tracker
