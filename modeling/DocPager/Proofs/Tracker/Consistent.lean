import DocPager.Proofs.Tracker
import Mathlib.Data.List.Nodup

/-!
What a tracker never loses, whatever is asked of it: its sections in their order, and an active section
that is one of them.  `consistent_serveAll` says so of every run of requests, and that the order in which
the sections were given leaves no trace.
-/

namespace DocPager.Tracker

/-! ## Requests -/

inductive Request where
  | withCurrent (id : String)
  | note (offset : Int)
  | flush (anchors : Anchors)
  | evaluate (offset : Int) (anchors : Anchors)

/-- What a request tells, and the tracker after it.  A flush and an evaluation tell whether they make
another section the active one. -/
def serve (t : Tracker) : Request → Except TrackerError (Option Bool × Tracker)
  | .withCurrent id => (t.withCurrent id).map fun u => (none, u)
  | .note offset => .ok (none, t.noteScroll offset)
  | .flush anchors => .ok (some (t.flushMoves anchors), t.flush anchors)
  | .evaluate offset anchors => .ok (some (t.moves anchors), t.evaluate offset anchors)

/-- All that the requests tell, and the tracker after them.  A request that is refused ends the run. -/
def serveAll (t : Tracker) : List Request → Except TrackerError (List (Option Bool) × Tracker)
  | [] => .ok ([], t)
  | r :: rest => do
    let (told, u) ← t.serve r
    let (later, w) ← u.serveAll rest
    return (told :: later, w)

theorem withCurrent_of_contains {t : Tracker} {id : String} (h : t.contains id = true) :
    t.withCurrent id = .ok { t with current := id } := if_pos h

theorem withCurrent_of_not_contains {t : Tracker} {id : String} (h : t.contains id = false) :
    t.withCurrent id = .error (.unknownSection id) := by
  rw [withCurrent, h]
  rfl

/-- Only a section that is not there is refused. -/
theorem exists_serve_iff {t : Tracker} {r : Request} :
    (∃ p, t.serve r = .ok p) ↔ ∀ id, r = .withCurrent id → t.contains id = true := by
  cases r with
  | withCurrent id =>
    cases hid : t.contains id with
    | true =>
      have hserve : t.serve (.withCurrent id) = .ok (none, { t with current := id }) := by
        rw [serve, withCurrent_of_contains hid]
        rfl
      exact ⟨fun _ _ h => by cases h; exact hid, fun _ => ⟨_, hserve⟩⟩
    | false =>
      have hserve : t.serve (.withCurrent id) = .error (.unknownSection id) := by
        rw [serve, withCurrent_of_not_contains hid]
        rfl
      constructor
      · rintro ⟨p, hp⟩
        rw [hserve] at hp
        cases hp
      · intro h
        rw [h id rfl] at hid
        cases hid
  | note offset | flush anchors | evaluate offset anchors => exact ⟨nofun, fun _ => ⟨_, rfl⟩⟩

/-- A request leaves the sections, and it makes none of another tracker the active one. -/
theorem sections_contains_serve {t u : Tracker} {r : Request} {told : Option Bool}
    (h : t.serve r = .ok (told, u)) :
    u.sections = t.sections ∧
      (t.contains t.current = true → u.contains u.current = true) := by
  cases r with
  | withCurrent id =>
    have hid : t.contains id = true := exists_serve_iff.mp ⟨_, h⟩ id rfl
    rw [serve, withCurrent_of_contains hid] at h
    cases h
    exact ⟨rfl, fun _ => hid⟩
  | note offset =>
    cases h
    exact ⟨rfl, id⟩
  | flush anchors =>
    cases h
    exact ⟨t.sections_flush anchors, fun h => contains_current_flush h anchors⟩
  | evaluate offset anchors =>
    cases h
    exact ⟨rfl, fun h => contains_current_evaluate h offset anchors⟩

/-! ## Runs of requests -/

theorem serveAll_of_serve {t u : Tracker} {r : Request} {told : Option Bool}
    (h : t.serve r = .ok (told, u)) (rest : List Request) :
    t.serveAll (r :: rest) = (u.serveAll rest).map fun p => (told :: p.1, p.2) := by
  rw [serveAll, h]
  show (u.serveAll rest >>= fun p => .ok (told :: p.1, p.2)) = _
  cases u.serveAll rest <;> rfl

theorem serveAll_of_error {t : Tracker} {r : Request} {e : TrackerError}
    (h : t.serve r = .error e) (rest : List Request) : t.serveAll (r :: rest) = .error e := by
  rw [serveAll, h]
  rfl

theorem sections_contains_serveAll {t u : Tracker} {requests : List Request}
    {told : List (Option Bool)} (h : t.serveAll requests = .ok (told, u)) :
    u.sections = t.sections ∧
      (t.contains t.current = true → u.contains u.current = true) := by
  induction requests generalizing t told with
  | nil =>
    cases h
    exact ⟨rfl, id⟩
  | cons r rest ih =>
    cases hserve : t.serve r with
    | error e =>
      rw [serveAll_of_error hserve] at h
      cases h
    | ok p =>
      rw [serveAll_of_serve hserve] at h
      cases hrest : p.2.serveAll rest with
      | error e =>
        rw [hrest] at h
        cases h
      | ok q =>
        rw [hrest] at h
        cases h
        obtain ⟨hsections, hcontains⟩ := sections_contains_serve hserve
        obtain ⟨hsections', hcontains'⟩ := ih hrest
        exact ⟨hsections'.trans hsections, fun ht => hcontains' (hcontains ht)⟩

theorem contains_of_sections {t u : Tracker} (h : u.sections = t.sections) (id : String) :
    u.contains id = t.contains id := by
  rw [contains, contains, h]

theorem exists_serveAll_iff {t : Tracker} {requests : List Request} :
    (∃ p, t.serveAll requests = .ok p) ↔
      ∀ id, .withCurrent id ∈ requests → t.contains id = true := by
  induction requests generalizing t with
  | nil => exact ⟨fun _ _ h => absurd h List.not_mem_nil, fun _ => ⟨_, rfl⟩⟩
  | cons r rest ih =>
    simp only [List.mem_cons, or_imp, forall_and]
    cases hserve : t.serve r with
    | error e =>
      rw [serveAll_of_error hserve]
      constructor
      · rintro ⟨p, hp⟩
        cases hp
      · intro h
        obtain ⟨p, hp⟩ := exists_serve_iff.mpr fun id hid => h.1 id hid.symm
        rw [hserve] at hp
        cases hp
    | ok p =>
      have hfirst : ∀ id, .withCurrent id = r → t.contains id = true :=
        fun id hid => exists_serve_iff.mp ⟨p, hserve⟩ id hid.symm
      have hrest : (∃ q, p.2.serveAll rest = .ok q) ↔
          ∀ id, .withCurrent id ∈ rest → t.contains id = true := by
        rw [ih]
        simp only [contains_of_sections (sections_contains_serve hserve).1]
      rw [serveAll_of_serve hserve]
      constructor
      · rintro ⟨q, hq⟩
        refine ⟨hfirst, hrest.mp ?_⟩
        cases hlater : p.2.serveAll rest with
        | error e =>
          rw [hlater] at hq
          cases hq
        | ok w => exact ⟨w, rfl⟩
      · intro h
        obtain ⟨q, hq⟩ := hrest.mpr h.2
        rw [hq]
        exact ⟨_, rfl⟩

/-! ## The sections and the active one -/

/-- The tracker has the given sections, in the order of their places and those of one place as they were
given.  Its index leads to the active section, and to no other one of the same id before that. -/
structure Consistent (sections : List Section) (t : Tracker) : Prop where
  perm : t.sections.Perm sections
  ordered : t.sections.Pairwise (·.order ≤ ·.order)
  stable : ∀ place, t.sections.filter (·.order = place) = sections.filter (·.order = place)
  contains : t.contains t.current = true
  active : ∃ s, t.sections[t.currentIndex]? = some s ∧ s.id = t.current
  first : ∀ k s, k < t.currentIndex → t.sections[k]? = some s → s.id ≠ t.current

theorem Consistent.of_contains {sections : List Section} {t : Tracker}
    (hsections : t.sections = inOrder sections) (hcontains : t.contains t.current = true) :
    Consistent sections t where
  perm := hsections ▸ perm_inOrder sections
  ordered := hsections ▸ pairwise_inOrder sections
  stable := fun place => hsections ▸ filter_order_inOrder place sections
  contains := hcontains
  active := getElem?_currentIndex hcontains
  first := fun _ _ hk hs => id_ne_of_lt_currentIndex hk hs

theorem exists_start {sections : List Section} (limits : Limits) (h : sections ≠ []) :
    ∃ t, start sections limits = .ok t ∧ t.sections = inOrder sections := by
  obtain ⟨first, rest, hsections⟩ := List.exists_cons_of_ne_nil fun hnil =>
    h (List.perm_nil.mp (hnil ▸ (perm_inOrder sections).symm))
  rw [start, hsections]
  exact ⟨_, rfl, rfl⟩

/-- Where no two sections have the same place, the order they are given in does not count. -/
theorem inOrder_eq_of_perm {sections others : List Section} (hperm : others.Perm sections)
    (hplaces : (sections.map (·.order)).Nodup) : inOrder others = inOrder sections := by
  have hsame : (inOrder others).Perm (inOrder sections) :=
    ((perm_inOrder others).trans hperm).trans (perm_inOrder sections).symm
  refine hsame.eq_of_pairwise ?_ (pairwise_inOrder others) (pairwise_inOrder sections)
  intro s t hs ht hst hts
  have hs' : s ∈ sections := (perm_inOrder sections).mem_iff.mp (hsame.mem_iff.mp hs)
  have ht' : t ∈ sections := (perm_inOrder sections).mem_iff.mp ht
  exact List.inj_on_of_nodup_map hplaces hs' ht' (Nat.le_antisymm hst hts)

/-- Sections can be tracked if there are any.  However the tracker is used after that, it keeps them in
order and its active section is the first one with its id; only the choice of an id that no section has
is refused.  Where no two sections have the same place, giving them in another order makes a tracker
with the same sections that tells the same, and is the same, after any requests. -/
theorem consistent_serveAll {sections : List Section} (limits : Limits) (h : sections ≠ []) :
    ∃ t, start sections limits = .ok t ∧
      (∀ requests told u, t.serveAll requests = .ok (told, u) → Consistent sections u) ∧
      (∀ requests, (∃ p, t.serveAll requests = .ok p) ↔
        ∀ id, .withCurrent id ∈ requests → ∃ s ∈ sections, s.id = id) ∧
      ∀ others : List Section, others.Perm sections → (sections.map (·.order)).Nodup →
        ∃ w, start others limits = .ok w ∧ w.sections = t.sections ∧
          ∀ requests, w.serveAll requests = t.serveAll requests := by
  obtain ⟨t, hstart, hsections⟩ := exists_start limits h
  refine ⟨t, hstart, fun requests told u hrun => ?_, fun requests => ?_, fun others hperm hplaces => ?_⟩
  · obtain ⟨hsame, hcontains⟩ := sections_contains_serveAll hrun
    exact .of_contains (hsame.trans hsections) (hcontains (contains_current_start hstart))
  · rw [exists_serveAll_iff]
    simp only [contains_iff, hsections, (perm_inOrder sections).mem_iff]
  · have hothers : start others limits = .ok t := by
      rw [← hstart, start, start, inOrder_eq_of_perm hperm hplaces]
    exact ⟨t, hothers, rfl, fun _ => rfl⟩

/-- The first of the two sections with the id is the active one, though the evaluation has found the
second. -/
theorem consistent_serveAll_same_id :
    let sections : List Section := [⟨"b", "B", 1, 1, 9⟩, ⟨"a", "A", 1, 0, 0⟩, ⟨"b", "C", 2, 2, 12⟩]
    let requests : List Request :=
      [.withCurrent "b", .evaluate 4 fun id => if id = "a" then some 0 else none,
       .note 30, .flush fun _ => some 3]
    sections ≠ [] ∧ ∃ t u, start sections .standard = .ok t ∧
      t.serveAll requests = .ok ([none, some true, none, some true], u) ∧
      u.currentIndex = 1 ∧ Consistent sections u ∧
      ∃ w, start sections.reverse .standard = .ok w ∧
        w.serveAll requests = .ok ([none, some true, none, some true], u) := by
  intro sections requests
  have hne : sections ≠ [] := List.cons_ne_nil _ _
  obtain ⟨t, hstart, hconsistent, -, hothers⟩ := consistent_serveAll .standard hne
  have hmade : start sections .standard =
      .ok { sections := [⟨"a", "A", 1, 0, 0⟩, ⟨"b", "B", 1, 1, 9⟩, ⟨"b", "C", 2, 2, 12⟩],
            limits := .standard, current := "a", scrolled := false, pending := none } := rfl
  rw [hmade] at hstart
  obtain rfl := Except.ok.inj hstart
  obtain ⟨w, hw, -, hsame⟩ := hothers sections.reverse (List.reverse_perm sections) (by decide)
  exact ⟨hne, _, _, hmade, rfl, by decide, hconsistent requests _ _ rfl, w, hw, hsame requests⟩

end DocPager.Tracker
