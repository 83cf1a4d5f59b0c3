import DocPager.Anchor.Claim

/-!
Why every heading gets an id of its own.  The forms of an id are all different, so among more forms
than there are ids in use one is free, and the search for it comes to an end in time.
-/

namespace DocPager.Anchor.Claims

theorem variant_zero (base : String) : variant base 0 = base := rfl

theorem toList_variant {n : Nat} (h : n ≠ 0) (base : String) :
    (variant base n).toList = base.toList ++ '-' :: Nat.toDigits 10 n := by
  simp [variant, h]

/-- Decimal numbers are written in one way only, and a form with a number is longer than the id. -/
theorem variant_injective {base : String} {m n : Nat} (h : variant base m = variant base n) :
    m = n := by
  have hl : (variant base m).toList = (variant base n).toList := by rw [h]
  by_cases hm : m = 0 <;> by_cases hn : n = 0
  · omega
  · rw [hm, variant_zero, toList_variant hn] at hl
    simp at hl
  · rw [hn, variant_zero, toList_variant hm] at hl
    simp at hl
  · rw [toList_variant hm, toList_variant hn] at hl
    have hd : Nat.toDigits 10 m = Nat.toDigits 10 n := by simpa using hl
    have ho := congrArg (Nat.ofDigitChars 10 · 0) hd
    simpa using ho

/-- What the search finds: the first form that is not taken, unless the tries run out before. -/
theorem free_spec (taken : List String) (base : String) (tries n : Nat) :
    ∃ k, k ≤ tries ∧ free taken base tries n = variant base (n + k) ∧
      (∀ j, j < k → variant base (n + j) ∈ taken) ∧
      (k < tries → variant base (n + k) ∉ taken) := by
  induction tries generalizing n with
  | zero => exact ⟨0, Nat.le_refl 0, rfl, by omega, by omega⟩
  | succ tries ih =>
    by_cases hn : variant base n ∈ taken
    · obtain ⟨k, hk, hfree, htaken, hnew⟩ := ih (n + 1)
      refine ⟨k + 1, by omega, ?_, ?_, ?_⟩
      · rw [free, if_pos (by simpa using hn), hfree, Nat.add_assoc, Nat.add_comm 1 k]
      · intro j hj
        cases j with
        | zero => exact hn
        | succ j =>
          have := htaken j (by omega)
          rwa [Nat.add_assoc, Nat.add_comm 1 j] at this
      · intro hlt
        have := hnew (by omega)
        rwa [Nat.add_assoc, Nat.add_comm 1 k] at this
    · refine ⟨0, Nat.zero_le _, ?_, by omega, fun _ => hn⟩
      rw [free, if_neg (by simpa using hn), Nat.add_zero]

/-- The forms of an id are different ids, so no more of them can be in use than there are ids in use. -/
theorem le_length_of_variant_mem {taken : List String} {base : String} {k : Nat}
    (h : ∀ j < k, variant base j ∈ taken) : k ≤ taken.length := by
  have hnodup : ((List.range k).map (variant base)).Nodup :=
    List.pairwise_map.mpr (List.nodup_range.imp fun hne h => hne (variant_injective h))
  have hsub : (List.range k).map (variant base) ⊆ taken := by
    intro id hid
    obtain ⟨j, hj, rfl⟩ := List.mem_map.mp hid
    exact h j (List.mem_range.mp hj)
  have hle := hnodup.length_le_of_subset hsub
  rwa [List.length_map, List.length_range] at hle

/-- With as many tries as there are ids in use, the form that is found is free. -/
theorem free_not_mem (taken : List String) (base : String) :
    free taken base taken.length 0 ∉ taken := by
  obtain ⟨k, hk, hfree, htaken, hnew⟩ := free_spec taken base taken.length 0
  simp only [Nat.zero_add] at hfree htaken hnew
  rw [hfree]
  intro hmem
  have hall : ∀ j < k + 1, variant base j ∈ taken := by
    intro j hj
    rcases Nat.lt_or_eq_of_le (Nat.lt_succ_iff.mp hj) with hlt | rfl
    · exact htaken j hlt
    · exact hmem
  have hle := le_length_of_variant_mem hall
  exact hnew (by omega) hmem

theorem claim_not_mem (c : Claims) (base : String) : (c.claim base).1 ∉ c.taken :=
  free_not_mem c.taken (orDefault base)

theorem taken_claim (c : Claims) (base : String) :
    (c.claim base).2.taken = (c.claim base).1 :: c.taken := rfl

/-- An id is given in its first form that is not in use. -/
theorem exists_claim_eq_variant (c : Claims) (base : String) :
    ∃ n, (c.claim base).1 = variant (orDefault base) n ∧
      ∀ m < n, variant (orDefault base) m ∈ c.taken := by
  obtain ⟨n, -, hfree, htaken, -⟩ := free_spec c.taken (orDefault base) c.taken.length 0
  rw [Nat.zero_add] at hfree
  refine ⟨n, hfree, fun m hm => ?_⟩
  rw [← Nat.zero_add m]
  exact htaken m hm

/-! ## One id after the other -/

/-- The ids in use after several have been asked for in turn. -/
def after (c : Claims) (bases : List String) : Claims :=
  bases.foldl (fun c base => (c.claim base).2) c

theorem claimAll_cons (c : Claims) (base : String) (rest : List String) :
    c.claimAll (base :: rest) = (c.claim base).1 :: (c.claim base).2.claimAll rest := rfl

theorem after_cons (c : Claims) (base : String) (rest : List String) :
    c.after (base :: rest) = (c.claim base).2.after rest := rfl

theorem length_claimAll (c : Claims) (bases : List String) :
    (c.claimAll bases).length = bases.length := by
  induction bases generalizing c with
  | nil => rfl
  | cons base rest ih => rw [claimAll_cons, List.length_cons, ih, List.length_cons]

theorem taken_after (c : Claims) (bases : List String) :
    (c.after bases).taken = (c.claimAll bases).reverse ++ c.taken := by
  induction bases generalizing c with
  | nil => rfl
  | cons base rest ih =>
    rw [after_cons, ih, taken_claim, claimAll_cons, List.reverse_cons, List.append_assoc,
      List.singleton_append]

theorem take_claimAll (c : Claims) (bases : List String) (k : Nat) :
    (c.claimAll bases).take k = c.claimAll (bases.take k) := by
  induction bases generalizing c k with
  | nil => rw [List.take_nil, claimAll, List.take_nil]
  | cons base rest ih =>
    cases k with
    | zero => rfl
    | succ k => rw [claimAll_cons, List.take_succ_cons, List.take_succ_cons, claimAll_cons, ih]

theorem getElem?_claimAll {c : Claims} {bases : List String} {k : Nat} {base : String}
    (h : bases[k]? = some base) :
    (c.claimAll bases)[k]? = some ((c.after (bases.take k)).claim base).1 := by
  induction bases generalizing c k with
  | nil => cases h
  | cons first rest ih =>
    cases k with
    | zero =>
      obtain rfl := Option.some.inj h
      rfl
    | succ k => exact ih h

/-- An id that is given has been claimed, and no id was given back before that. -/
theorem exists_claim_of_mem_claimAll {c : Claims} {bases : List String} {id : String}
    (h : id ∈ c.claimAll bases) :
    ∃ later : Claims, c.taken ⊆ later.taken ∧ ∃ base ∈ bases, id = (later.claim base).1 := by
  obtain ⟨k, hk⟩ := List.mem_iff_getElem?.mp h
  obtain ⟨hlt, -⟩ := List.getElem?_eq_some_iff.mp hk
  rw [length_claimAll] at hlt
  have hbase := List.getElem?_eq_getElem hlt
  rw [getElem?_claimAll hbase] at hk
  refine ⟨c.after (bases.take k), ?_, bases[k], List.getElem_mem hlt, (Option.some.inj hk).symm⟩
  rw [taken_after]
  exact List.subset_append_right _ _

theorem nodup_claimAll (c : Claims) (bases : List String) : (c.claimAll bases).Nodup := by
  induction bases generalizing c with
  | nil => exact List.nodup_nil
  | cons base rest ih =>
    rw [claimAll_cons, List.nodup_cons]
    refine ⟨fun hmem => ?_, ih _⟩
    obtain ⟨later, htaken, again, -, hid⟩ := exists_claim_of_mem_claimAll hmem
    refine later.claim_not_mem again (htaken ?_)
    rw [← hid, taken_claim]
    exact List.mem_cons_self

/-- Of several ids that are asked for in turn, each is given in its first form that was not in use before
and is not given for an earlier one. -/
theorem exists_claimAll_eq_variant {c : Claims} {bases : List String} {k : Nat} {base : String}
    (h : bases[k]? = some base) :
    ∃ n, (c.claimAll bases)[k]? = some (variant (orDefault base) n) ∧
      ∀ m < n, variant (orDefault base) m ∈ c.taken ∨
        ∃ j < k, (c.claimAll bases)[j]? = some (variant (orDefault base) m) := by
  obtain ⟨n, hclaim, htaken⟩ := (c.after (bases.take k)).exists_claim_eq_variant base
  refine ⟨n, by rw [getElem?_claimAll h, hclaim], fun m hm => ?_⟩
  have hmem := htaken m hm
  rw [taken_after, ← take_claimAll, List.mem_append, List.mem_reverse] at hmem
  rcases hmem with hearlier | hbefore
  · obtain ⟨j, hj, hgiven⟩ := List.mem_take_iff_getElem.mp hearlier
    exact .inr ⟨j, by omega, List.getElem?_eq_some_iff.mpr ⟨by omega, hgiven⟩⟩
  · exact .inl hbefore

end DocPager.Anchor.Claims
