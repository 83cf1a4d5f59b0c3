import DocPager.Proofs.Anchor.Claim
import Mathlib.Algebra.Group.Nat.Defs

/-!
The search for a free id as a loop that only stops at one.  Nothing in the loop itself bounds it, and its
counter is a machine word; both do no harm, because it meets different forms and only so many of them are
in use.  So ids that are asked for in turn are given with the least numbers that keep them apart.
-/

namespace DocPager.Anchor.Claims

/-- The search from the `n`th form of an id on, with `tests` more forms to look up.  It is `none` if
these are all taken or if the number of a form does not fit into a signed word of 32 bits. -/
def search? (taken : List String) (base : String) : (tests n : Nat) → Option String
  | 0, _ => none
  | tests + 1, n =>
    if taken.contains (variant base n) then
      if n + 1 < 2 ^ 31 then search? taken base tests (n + 1) else none
    else some (variant base n)

/-- The search passes over the forms that are taken and stops at the first one that is not. -/
theorem search?_eq_some {taken : List String} {base : String} {tests n k : Nat} (hk : k < tests)
    (hword : n + k < 2 ^ 31) (htaken : ∀ j < k, variant base (n + j) ∈ taken)
    (hfree : variant base (n + k) ∉ taken) :
    search? taken base tests n = some (variant base (n + k)) := by
  induction k generalizing n tests with
  | zero =>
    cases tests with
    | zero => omega
    | succ tests => rw [search?, if_neg (by simpa using hfree), Nat.add_zero]
  | succ k ih =>
    cases tests with
    | zero => omega
    | succ tests =>
      have hfirst : variant base n ∈ taken := htaken 0 (Nat.succ_pos k)
      rw [Nat.add_comm k 1, ← Nat.add_assoc] at hword hfree ⊢
      rw [search?, if_pos (by simpa using hfirst), if_pos (by omega)]
      refine ih (by omega) hword (fun j hj => ?_) hfree
      rw [Nat.add_assoc, Nat.add_comm 1 j]
      exact htaken (j + 1) (by omega)

/-- Looking up one form more than there are ids in use is enough. -/
theorem search?_claim (c : Claims) (base : String) (hword : c.taken.length < 2 ^ 31) :
    search? c.taken (orDefault base) (c.taken.length + 1) 0 = some (c.claim base).1 := by
  obtain ⟨n, hclaim, htaken⟩ := c.exists_claim_eq_variant base
  have hfree := c.claim_not_mem base
  have hle := le_length_of_variant_mem htaken
  rw [hclaim] at hfree ⊢
  rw [← Nat.zero_add n] at hfree ⊢
  refine search?_eq_some (by omega) (by omega) (fun j hj => ?_) hfree
  rw [Nat.zero_add]
  exact htaken j hj

/-! ## The id that is given -/

theorem variant_of_pos {n : Nat} (h : 1 ≤ n) (base : String) :
    variant base n = base ++ "-" ++ toString n := if_neg (by omega)

theorem variant_ne_empty {base : String} (h : base ≠ "") (n : Nat) : variant base n ≠ "" := by
  by_cases hn : n = 0
  · rw [hn, variant_zero]
    exact h
  · rw [variant, if_neg hn]
    simp [h]

theorem orDefault_ne_empty (base : String) : orDefault base ≠ "" := by
  rw [orDefault]
  split
  · decide
  · next hne => simpa using hne

/-- With the `earlier` ids in use, `id` is the first free one for `base`: `base` itself, or `base` with the
least number that makes it free. -/
structure FirstFree (earlier : List String) (base id : String) : Prop where
  plain : base ∉ earlier → id = base
  numbered : base ∈ earlier → ∃ n, 1 ≤ n ∧ id = base ++ "-" ++ toString n ∧ id ∉ earlier ∧
    ∀ m, 1 ≤ m → m < n → base ++ "-" ++ toString m ∈ earlier

theorem firstFree_variant {earlier : List String} {base : String} {n : Nat}
    (htaken : ∀ m < n, variant base m ∈ earlier) (hfree : variant base n ∉ earlier) :
    FirstFree earlier base (variant base n) := by
  constructor
  · intro hbase
    cases n with
    | zero => rfl
    | succ n => exact absurd (htaken 0 (Nat.succ_pos n)) hbase
  · intro hbase
    have hpos : 1 ≤ n := by
      rcases Nat.eq_zero_or_pos n with rfl | hpos
      · exact absurd hbase hfree
      · exact hpos
    refine ⟨n, hpos, variant_of_pos hpos base, hfree, fun m hm hlt => ?_⟩
    rw [← variant_of_pos hm]
    exact htaken m hlt

/-- Of fewer than `2 ^ 31` ids that are asked for in turn all are given, no two the same and none empty.
Each is the first free one for what was asked for, or for `section` if that was empty, and the search for
it looks up no more forms than there were ids given before, and one. -/
theorem claimAll_gives_first_free {bases : List String} (h : bases.length < 2 ^ 31) :
    (Claims.empty.claimAll bases).length = bases.length ∧ (Claims.empty.claimAll bases).Nodup ∧
      "" ∉ Claims.empty.claimAll bases ∧
      ∀ k base, bases[k]? = some base →
        let c := Claims.empty.after (bases.take k)
        let earlier := (Claims.empty.claimAll bases).take k
        let asked := if base = "" then "section" else base
        c.taken = earlier.reverse ∧
          ∃ id, (Claims.empty.claimAll bases)[k]? = some id ∧ (c.claim base).1 = id ∧
            search? c.taken asked (k + 1) 0 = some id ∧ FirstFree earlier asked id := by
  refine ⟨length_claimAll _ _, nodup_claimAll _ _, fun hempty => ?_, fun k base hbase => ?_⟩
  · obtain ⟨c, -, base, -, hid⟩ := exists_claim_of_mem_claimAll hempty
    obtain ⟨n, hclaim, -⟩ := c.exists_claim_eq_variant base
    exact variant_ne_empty (orDefault_ne_empty base) n (hclaim.symm.trans hid.symm)
  · intro c earlier asked
    have hasked : asked = orDefault base := by
      simp only [asked, orDefault, String.isEmpty_iff]
    have htaken : c.taken = earlier.reverse := by
      rw [taken_after, ← take_claimAll]
      exact List.append_nil _
    have hlt : k < bases.length := (List.getElem?_eq_some_iff.mp hbase).1
    have hcount : c.taken.length = k := by
      rw [htaken, List.length_reverse, List.length_take, length_claimAll]
      omega
    have hsearch := c.search?_claim base (by omega)
    rw [hcount, ← hasked] at hsearch
    refine ⟨htaken, _, getElem?_claimAll hbase, rfl, hsearch, ?_⟩
    obtain ⟨n, hclaim, hforms⟩ := c.exists_claim_eq_variant base
    have hfree := c.claim_not_mem base
    rw [hclaim] at hfree ⊢
    simp only [htaken, List.mem_reverse, ← hasked] at hforms hfree ⊢
    exact firstFree_variant hforms hfree

/-- The first form with a number is in use because it was asked for as it is. -/
theorem claimAll_gives_first_free_asked_for :
    let bases := ["faq", "faq-1", "faq", "", "faq"]
    bases.length < 2 ^ 31 ∧
      Claims.empty.claimAll bases = ["faq", "faq-1", "faq-2", "section", "faq-3"] ∧
      search? ["faq-1", "faq"] "faq" 3 0 = some "faq-2" ∧
      FirstFree ["faq", "faq-1"] "faq" "faq-2" := by
  intro bases
  have hlength : bases.length < 2 ^ 31 := by decide
  have hids : Claims.empty.claimAll bases = ["faq", "faq-1", "faq-2", "section", "faq-3"] := by decide
  obtain ⟨-, -, -, hgiven⟩ := claimAll_gives_first_free hlength
  obtain ⟨htaken, id, hid, -, hsearch, hfirst⟩ := hgiven 2 "faq" rfl
  rw [hids] at htaken hid hfirst
  obtain rfl : "faq-2" = id := Option.some.inj hid
  rw [htaken] at hsearch
  exact ⟨hlength, hids, hsearch, hfirst⟩

end DocPager.Anchor.Claims
