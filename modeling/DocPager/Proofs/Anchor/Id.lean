import DocPager.Anchor.Explicit
import DocPager.Anchor.Slug
import DocPager.Proofs.Anchor.Claim
import DocPager.Proofs.Unicode.WhiteSpace

/-!
What the ids of headings look like.  Neither an explicit anchor nor a slug has white space in it, and
the numbered forms of an id add none; so every id that is claimed can stand in a link.
-/

namespace DocPager.Anchor

open Unicode (isAlphanumeric isWhiteSpace isWhiteSpace_of_isAlphanumeric isWhiteSpace_of_mem_lowerCase)

/-- Without white space. -/
def IsSolid (s : List Char) : Prop := ∀ c ∈ s, isWhiteSpace c = false

theorem IsSolid.append {s t : List Char} (hs : IsSolid s) (ht : IsSolid t) : IsSolid (s ++ t) := by
  intro c hc
  rcases List.mem_append.mp hc with hc | hc
  · exact hs c hc
  · exact ht c hc

theorem isId_iff {s : List Char} : isId s = true ↔ s ≠ [] ∧ IsSolid s := by
  simp [isId, IsSolid]

/-! ## What a heading asks for -/

theorem isSolid_slugChar (c : Char) : IsSolid (slugChar c) := by
  intro d hd
  rw [slugChar] at hd
  split at hd
  · next hword =>
    have hc : isWhiteSpace c = false := by
      rcases Bool.or_eq_true_iff.mp hword with hletter | hunderscore
      · exact isWhiteSpace_of_isAlphanumeric hletter
      · obtain rfl : c = '_' := of_decide_eq_true hunderscore
        decide
    exact isWhiteSpace_of_mem_lowerCase hc hd
  · split at hd
    · obtain rfl := List.mem_singleton.mp hd
      decide
    · exact absurd hd List.not_mem_nil

theorem isSolid_slug (title : String) : IsSolid (slug title).toList := by
  intro d hd
  rw [slug, String.toList_ofList] at hd
  obtain ⟨c, -, hd⟩ := List.mem_flatMap.mp hd
  exact isSolid_slugChar c d hd

theorem isId_of_explicit {s before id : List Char} (h : explicit? s = some (before, id)) :
    isId id = true := by
  unfold explicit? at h
  split at h
  · split at h
    · split at h
      · next hid =>
        obtain ⟨-, rfl⟩ := Prod.mk.inj (Option.some.inj h)
        exact hid
      · cases h
    · cases h
  · cases h

theorem isId_of_splitTitle {title id : String} (h : (splitTitle title).2 = some id) :
    isId id.toList = true := by
  rw [splitTitle] at h
  split at h
  · next before anchor hexplicit =>
    obtain rfl := Option.some.inj h
    rw [String.toList_ofList]
    exact isId_of_explicit hexplicit
  · cases h

/-! ## What it gets -/

namespace Claims

theorem isSolid_toDigits (n : Nat) : IsSolid (Nat.toDigits 10 n) := by
  intro c hc
  have hdigit : c.isDigit = true := Nat.isDigit_of_mem_toDigits (by omega) (by omega) hc
  have hbounds : 48 ≤ c.toNat ∧ c.toNat ≤ 57 := Char.isDigit_iff_toNat.mp hdigit
  exact Unicode.CodePoints.covers_eq_false (by decide) hbounds.1 hbounds.2

theorem exists_toList_variant (base : String) (n : Nat) :
    ∃ suffix, (variant base n).toList = base.toList ++ suffix ∧ IsSolid suffix := by
  by_cases hn : n = 0
  · refine ⟨[], ?_, fun c hc => absurd hc List.not_mem_nil⟩
    rw [hn, variant_zero, List.append_nil]
  · refine ⟨'-' :: Nat.toDigits 10 n, toList_variant hn base, ?_⟩
    intro c hc
    rcases List.mem_cons.mp hc with rfl | hc
    · decide
    · exact isSolid_toDigits n c hc

theorem isId_variant {base : String} (h : isId base.toList = true) (n : Nat) :
    isId (variant base n).toList = true := by
  obtain ⟨hne, hsolid⟩ := isId_iff.mp h
  obtain ⟨suffix, hvariant, hsuffix⟩ := exists_toList_variant base n
  rw [hvariant]
  exact isId_iff.mpr ⟨List.append_ne_nil_of_left_ne_nil hne suffix, hsolid.append hsuffix⟩

theorem isId_orDefault {base : String} (h : IsSolid base.toList) :
    isId (orDefault base).toList = true := by
  rw [orDefault]
  split
  · decide
  · next hne =>
    refine isId_iff.mpr ⟨fun hnil => hne ?_, h⟩
    simpa using hnil

theorem isId_claim (c : Claims) {base : String} (h : IsSolid base.toList) :
    isId (c.claim base).1.toList = true := by
  obtain ⟨k, -, hfree, -⟩ := free_spec c.taken (orDefault base) c.taken.length 0
  show isId (free c.taken (orDefault base) c.taken.length 0).toList = true
  rw [hfree]
  exact isId_variant (isId_orDefault h) _

end Claims
end DocPager.Anchor
