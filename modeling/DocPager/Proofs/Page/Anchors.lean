import DocPager.Proofs.Page.Sections

/-!
Explicit anchors.  A heading that carries one asks for it as its id, and a heading without one asks for
its slug; who comes first on the page gets what it asks for.  So an anchor can be lost to an earlier
heading, and where the anchors of a page are all different the first one that is lost is lost to a
heading that carries none.
-/

namespace DocPager.Page

open Anchor (splitTitle)
open Anchor.Claims (variant orDefault)

/-- The explicit anchor of a heading, if it carries one. -/
def headingAnchor? (text : List Char) : Option String :=
  (splitTitle (String.ofList (Text.trim text))).2

/-- The anchors of the headings of a page, `none` for a heading that carries none. -/
def anchors (source : String) : List (Option String) :=
  ((Markdown.blocks source.toList).filterMap heading?).map fun h => headingAnchor? h.2.2

def explicitAnchors (source : String) : List String := (anchors source).filterMap id

/-- Heading `k` of the page opens the section `s`, and `anchor` is the anchor it carries. -/
structure Opens (source : String) (k : Nat) (s : Section) (anchor : Option String) : Prop where
  opened : (parse source).sections[k]? = some s
  carried : (anchors source)[k]? = some anchor

section

variable {source : String} {j k : Nat} {s t : Section} {x : String}

theorem exists_opens (h : (parse source).sections[k]? = some s) :
    ∃ anchor, Opens source k s anchor := by
  have hlength : (parse source).sections.length = (anchors source).length := by
    have hids := congrArg List.length
      (map_heading_sectionsFrom .empty 0 (Markdown.blocks source.toList))
    rw [List.length_map, List.length_map] at hids
    rw [anchors, List.length_map]
    exact hids
  have hk : k < (anchors source).length := hlength ▸ (List.getElem?_eq_some_iff.mp h).1
  exact ⟨_, h, List.getElem?_eq_getElem hk⟩

theorem id_ne_of_lt (hjk : j < k) (ht : (parse source).sections[j]? = some t)
    (hs : (parse source).sections[k]? = some s) : t.id ≠ s.id := by
  obtain ⟨hj, rfl⟩ := List.getElem?_eq_some_iff.mp ht
  obtain ⟨hk, rfl⟩ := List.getElem?_eq_some_iff.mp hs
  have hids := List.pairwise_map.mp (nodup_id_sectionsFrom .empty 0 (Markdown.blocks source.toList))
  exact List.pairwise_iff_getElem.mp hids j k hj hk hjk

/-- An anchor is given in its first form that no earlier section has. -/
theorem Opens.exists_id_eq_variant (h : Opens source k s (some x)) :
    ∃ n, s.id = variant x n ∧
      ∀ m < n, ∃ j t, j < k ∧ (parse source).sections[j]? = some t ∧ t.id = variant x m := by
  have hids := map_id_sectionsFrom .empty 0 (Markdown.blocks source.toList)
  rw [← sections_parse] at hids
  obtain ⟨heading, hheading, hanchor⟩ :
      ∃ g, ((Markdown.blocks source.toList).filterMap heading?)[k]? = some g ∧
        headingAnchor? g.2.2 = some x := by
    have hcarried := h.carried
    rw [anchors, List.getElem?_map] at hcarried
    exact Option.map_eq_some_iff.mp hcarried
  have hbase : headingBase heading.2.2 = x := by
    show (headingAnchor? heading.2.2).getD _ = x
    rw [hanchor, Option.getD_some]
  have hdefault : orDefault x = x := by
    have hne := (Anchor.isId_iff.mp (Anchor.isId_of_splitTitle hanchor)).1
    exact if_neg fun hempty => hne (by rw [String.isEmpty_iff.mp hempty]; rfl)
  have hasked : (((Markdown.blocks source.toList).filterMap heading?).map
      fun g => headingBase g.2.2)[k]? = some x := by
    rw [List.getElem?_map, hheading, Option.map_some, hbase]
  obtain ⟨n, hgiven, hearlier⟩ := Anchor.Claims.exists_claimAll_eq_variant (c := .empty) hasked
  rw [← hids, List.getElem?_map, h.opened, hdefault] at hgiven
  refine ⟨n, Option.some.inj hgiven, fun m hm => ?_⟩
  rcases hearlier m hm with htaken | ⟨j, hj, hsame⟩
  · exact absurd htaken List.not_mem_nil
  · rw [← hids, List.getElem?_map, hdefault] at hsame
    obtain ⟨t, ht, hid⟩ := Option.map_eq_some_iff.mp hsame
    exact ⟨j, t, hj, ht, hid⟩

/-- An anchor is kept exactly if it is free by then. -/
theorem Opens.id_eq_iff (h : Opens source k s (some x)) :
    s.id = x ↔ ∀ j t, j < k → (parse source).sections[j]? = some t → t.id ≠ x := by
  constructor
  · rintro rfl j t hj ht
    exact id_ne_of_lt hj ht h.opened
  · intro hfree
    obtain ⟨n, hid, hearlier⟩ := h.exists_id_eq_variant
    cases n with
    | zero => exact hid
    | succ n =>
      obtain ⟨j, t, hj, ht, hsame⟩ := hearlier 0 (Nat.succ_pos n)
      exact absurd hsame (hfree j t hj ht)

theorem Opens.ne_of_lt (hdistinct : (explicitAnchors source).Nodup) {y : String}
    (hjk : j < k) (ht : Opens source j t (some y)) (hs : Opens source k s (some x)) : y ≠ x := by
  obtain ⟨hj, hy⟩ := List.getElem?_eq_some_iff.mp ht.carried
  obtain ⟨hk, hx⟩ := List.getElem?_eq_some_iff.mp hs.carried
  have hpairs := List.pairwise_filterMap.mp hdistinct
  exact List.pairwise_iff_getElem.mp hpairs j k hj hk hjk y hy x hx

end

/-- Where the anchors of a page are all different, each of them leads to its own heading unless an
earlier heading without an anchor has got it as its id.  In any case the heading gets the first form of
its anchor that no earlier section has, so it gets the anchor itself exactly if no earlier section has
that. -/
theorem anchors_lead_home_iff {source : String} (hdistinct : (explicitAnchors source).Nodup) :
    ((∀ k s x, Opens source k s (some x) → s.id = x ∧ (parse source).section? x = some s) ↔
      ∀ j k t s x, j < k → Opens source j t none → Opens source k s (some x) → t.id ≠ x) ∧
    ∀ k s x, Opens source k s (some x) →
      (s.id = x ↔ ∀ j t, j < k → (parse source).sections[j]? = some t → t.id ≠ x) ∧
      ∃ n, s.id = variant x n ∧
        ∀ m < n, ∃ j t, j < k ∧ (parse source).sections[j]? = some t ∧ t.id = variant x m := by
  refine ⟨⟨fun hkept j k t s x hjk ht hs hid => ?_, fun hplain k s x hs => ?_⟩,
    fun k s x hs => ⟨hs.id_eq_iff, hs.exists_id_eq_variant⟩⟩
  · exact id_ne_of_lt hjk ht.opened hs.opened (hid.trans (hkept k s x hs).1.symm)
  · have hid : s.id = x := by
      induction k using Nat.strongRecOn generalizing s x with
      | ind k ih =>
        refine hs.id_eq_iff.mpr fun j t hjk ht => ?_
        obtain ⟨anchor, hopens⟩ := exists_opens ht
        cases anchor with
        | none => exact hplain j k t s x hjk hopens hs
        | some y =>
          -- An earlier heading with an anchor has got that, and it is another one.
          rw [ih j hjk t y hopens]
          exact hopens.ne_of_lt hdistinct hjk hs
    refine ⟨hid, ?_⟩
    rw [← hid]
    exact section?_of_mem (List.mem_of_getElem? hs.opened)

/-- The slug of the second heading is the anchor of the first one, so it gets a number. -/
theorem anchors_lead_home_iff_later_slug :
    let source := "# Use \x7b#start\x7d\n## Start\n## Other \x7b#start-2\x7d\n"
    (explicitAnchors source).Nodup ∧
      Opens source 1 ⟨"start-1", "Start", 2, 1, 1⟩ none ∧
      ∀ k s x, Opens source k s (some x) → s.id = x ∧ (parse source).section? x = some s := by
  intro source
  have hdistinct : (explicitAnchors source).Nodup := by decide
  have hanchors : anchors source = [some "start", none, some "start-2"] := by decide
  have hsecond : Opens source 1 ⟨"start-1", "Start", 2, 1, 1⟩ none := ⟨by decide, by decide⟩
  refine ⟨hdistinct, hsecond, (anchors_lead_home_iff hdistinct).1.mpr ?_⟩
  intro j k t s x hjk ht hs hid
  have hj : j = 1 := by
    have hnone := ht.carried
    rw [hanchors] at hnone
    match j with
    | 1 => rfl
    | j + 3 => simp at hnone
  have hx : x = "start" ∨ x = "start-2" := by
    have hmem := List.mem_of_getElem? hs.carried
    rw [hanchors] at hmem
    simpa using hmem
  have hsame : t = ⟨"start-1", "Start", 2, 1, 1⟩ :=
    Option.some.inj ((hj ▸ ht.opened).symm.trans hsecond.opened)
  rw [hsame] at hid
  rcases hx with rfl | rfl <;> exact absurd hid (by decide)

/-- The slug of the first heading is the anchor of the second one, which gets a number. -/
theorem not_anchors_lead_home_earlier_slug :
    let source := "# Usage\n## Other \x7b#usage\x7d\n"
    (explicitAnchors source).Nodup ∧
      ¬∀ k s x, Opens source k s (some x) → s.id = x ∧ (parse source).section? x = some s := by
  intro source
  refine ⟨by decide, fun hkept => ?_⟩
  have hsecond : Opens source 1 ⟨"usage-1", "Other", 2, 1, 1⟩ (some "usage") :=
    ⟨by decide, by decide⟩
  exact absurd (hkept 1 _ _ hsecond).1 (by decide)

end DocPager.Page
