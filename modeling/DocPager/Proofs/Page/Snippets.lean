import DocPager.Proofs.Markdown.Spans
import DocPager.Proofs.Page.Sections

/-!
The snippets of a page and the rows that they cover.  A snippet never reaches beyond the row on
which the next one starts, and that row is the only one they may share.
-/

namespace DocPager.Page

open Markdown (Block Reading bodyLines bodyStart HasLoneReturn)

theorem snippets_parse (source : String) :
    (parse source).snippets =
      onePerRow none ((Markdown.blocks source.toList).filterMap snippet?) := rfl

/-! ## One snippet for each row -/

theorem onePerRow_of_pairwise {kept : Option Nat} {snippets : List Snippet}
    (hkept : ∀ row ∈ kept, ∀ s ∈ snippets, row < s.firstRow)
    (h : snippets.Pairwise (·.firstRow < ·.firstRow)) : onePerRow kept snippets = snippets := by
  induction snippets generalizing kept with
  | nil => rfl
  | cons s rest ih =>
    have hne : kept ≠ some s.firstRow := by
      intro heq
      have := hkept s.firstRow heq s List.mem_cons_self
      omega
    rw [List.pairwise_cons] at h
    rw [onePerRow, if_neg hne]
    have hrest : ∀ row ∈ some s.firstRow, ∀ t ∈ rest, row < t.firstRow := by
      intro row hrow
      obtain rfl := Option.some.inj hrow
      exact h.1
    rw [ih hrest h.2]

theorem sublist_onePerRow (kept : Option Nat) (snippets : List Snippet) :
    (onePerRow kept snippets).Sublist snippets := by
  induction snippets generalizing kept with
  | nil => exact List.Sublist.refl []
  | cons s rest ih =>
    rw [onePerRow]
    split
    · exact (ih kept).trans (List.sublist_cons_self s rest)
    · exact (ih (some s.firstRow)).cons_cons s

/-- What is kept starts on rows that count up, and behind the row that was kept before. -/
theorem pairwise_onePerRow {kept : Option Nat} {snippets : List Snippet}
    (hkept : ∀ row ∈ kept, ∀ s ∈ snippets, row ≤ s.firstRow)
    (h : snippets.Pairwise (·.firstRow ≤ ·.firstRow)) :
    (∀ row ∈ kept, ∀ s ∈ onePerRow kept snippets, row < s.firstRow) ∧
      (onePerRow kept snippets).Pairwise (·.firstRow < ·.firstRow) := by
  induction snippets generalizing kept with
  | nil => exact ⟨fun _ _ _ hs => absurd hs List.not_mem_nil, List.Pairwise.nil⟩
  | cons s rest ih =>
    rw [List.pairwise_cons] at h
    rw [onePerRow]
    split
    · exact ih (fun row hrow t ht => hkept row hrow t (List.mem_cons_of_mem s ht)) h.2
    · next hne =>
      have hsome : ∀ row ∈ some s.firstRow, ∀ t ∈ rest, row ≤ t.firstRow := by
        intro row hrow
        obtain rfl := Option.some.inj hrow
        exact h.1
      have hrest := ih hsome h.2
      refine ⟨fun row hrow t ht => ?_, List.pairwise_cons.mpr ⟨hrest.1 _ rfl, hrest.2⟩⟩
      have hle := hkept row hrow s List.mem_cons_self
      have hlt : row < s.firstRow := by
        rcases Nat.lt_or_eq_of_le hle with hlt | rfl
        · exact hlt
        · exact absurd hrow hne
      rcases List.mem_cons.mp ht with rfl | ht
      · exact hlt
      · exact Nat.lt_trans hlt (hrest.1 _ rfl t ht)

/-! ## The rows of the snippets -/

/-- Snippets one after another, each of them starting where the one before it ends or later. -/
structure InOrder (snippets : List Snippet) : Prop where
  within : ∀ s ∈ snippets, s.firstRow ≤ s.lastRow
  starts : snippets.Pairwise (·.firstRow < ·.firstRow)
  ends : snippets.Pairwise (·.lastRow ≤ ·.firstRow)

theorem map_rows_snippets (blocks : List Block) :
    (blocks.filterMap snippet?).map (fun s => (s.firstRow, s.lastRow)) =
      blocks.filterMap Block.span? := by
  rw [List.map_filterMap]
  congr 1
  funext b
  cases b <;> rfl

theorem inOrder_parse (source : String) : InOrder (parse source).snippets := by
  obtain ⟨hwithin, hends⟩ := Markdown.spans_blocks source.toList
  rw [← map_rows_snippets] at hwithin hends
  rw [List.pairwise_map] at hends
  rw [List.forall_mem_map] at hwithin
  have hstarts : ((Markdown.blocks source.toList).filterMap snippet?).Pairwise
      (·.firstRow ≤ ·.firstRow) :=
    hends.imp_of_mem fun hs _ hle => Nat.le_trans (hwithin _ hs) hle
  have hsub := sublist_onePerRow none ((Markdown.blocks source.toList).filterMap snippet?)
  rw [snippets_parse]
  exact ⟨fun s hs => hwithin s (hsub.subset hs),
    (pairwise_onePerRow (fun _ h => absurd h (by simp)) hstarts).2, hends.sublist hsub⟩

theorem lastRow_lt_height {source : String} {s : Snippet} (hs : s ∈ (parse source).snippets) :
    s.lastRow < (parse source).height := by
  have hlast := Markdown.lastRow_lt_of_mem_spans source.toList
  rw [← map_rows_snippets, List.forall_mem_map] at hlast
  rw [height_parse]
  exact hlast s ((sublist_onePerRow none _).subset hs)

/-! ## The snippet of a row -/

/-- Every row of a snippet belongs to it alone, and is found to belong to it. -/
structure SnippetsApart (p : Page) : Prop where
  disjoint : ∀ (i j : Nat) (s t : Snippet) (row : Nat), p.snippets[i]? = some s →
    p.snippets[j]? = some t → s.covers row → t.covers row → i = j
  found : ∀ (i : Nat) (s : Snippet) (row : Nat), p.snippets[i]? = some s → s.covers row →
    p.snippetAt? row = some i

theorem covers_iff {s : Snippet} {row : Nat} : s.covers row ↔ s.firstRow ≤ row ∧ row ≤ s.lastRow := by
  simp [Snippet.covers]

theorem rel_of_pairwise {R : Snippet → Snippet → Prop} {snippets : List Snippet}
    (h : snippets.Pairwise R) {i j : Nat} (hij : i < j) {s t : Snippet}
    (hs : snippets[i]? = some s) (ht : snippets[j]? = some t) : R s t := by
  obtain ⟨hi, rfl⟩ := List.getElem?_eq_some_iff.mp hs
  obtain ⟨hj, rfl⟩ := List.getElem?_eq_some_iff.mp ht
  exact List.pairwise_iff_getElem.mp h i j hi hj hij

section InOrder

variable {p : Page} (h : InOrder p.snippets)
include h

theorem InOrder.covers_firstRow {i : Nat} {s : Snippet} (hs : p.snippets[i]? = some s) :
    s.covers s.firstRow :=
  covers_iff.mpr ⟨Nat.le_refl _, h.within s (List.mem_of_getElem? hs)⟩

theorem InOrder.covers_lastRow {i : Nat} {s : Snippet} (hs : p.snippets[i]? = some s) :
    s.covers s.lastRow :=
  covers_iff.mpr ⟨h.within s (List.mem_of_getElem? hs), Nat.le_refl _⟩

/-- Two snippets that share a row are neighbours, and they share the first row of the later one. -/
theorem InOrder.eq_succ_of_covers {i j : Nat} {s t : Snippet} {row : Nat} (hij : i < j)
    (hs : p.snippets[i]? = some s) (ht : p.snippets[j]? = some t) (hrow : s.covers row)
    (hrow' : t.covers row) : j = i + 1 ∧ row = t.firstRow ∧ s.lastRow = t.firstRow := by
  have hle := rel_of_pairwise h.ends hij hs ht
  rw [covers_iff] at hrow hrow'
  refine ⟨?_, by omega, by omega⟩
  rcases Nat.lt_or_ge (i + 1) j with hlt | hge
  · have hj : j < p.snippets.length := (List.getElem?_eq_some_iff.mp ht).1
    have hnext : p.snippets[i + 1]? = some p.snippets[i + 1] := List.getElem?_eq_getElem (by omega)
    have hafter := rel_of_pairwise h.ends (Nat.lt_succ_self i) hs hnext
    have hbefore := rel_of_pairwise h.starts hlt hnext ht
    omega
  · omega

/-- A row is found to belong to the first of the snippets that cover it. -/
theorem InOrder.snippetAt?_of_covers {i : Nat} {s : Snippet} {row : Nat}
    (hs : p.snippets[i]? = some s) (hrow : s.covers row) :
    p.snippetAt? row = some i ∨
      row = s.firstRow ∧ ∃ j, i = j + 1 ∧ p.snippetAt? row = some j := by
  cases hfound : p.snippetAt? row with
  | none =>
    have hnone := List.findIdx?_eq_none_iff.mp hfound s (List.mem_of_getElem? hs)
    exact absurd hrow (by simp [hnone])
  | some j =>
    obtain ⟨hj, hcovers, hfirst⟩ := List.findIdx?_eq_some_iff_getElem.mp hfound
    rcases Nat.lt_trichotomy i j with hlt | rfl | hlt
    · obtain ⟨hi, rfl⟩ := List.getElem?_eq_some_iff.mp hs
      exact absurd hrow (hfirst i hlt)
    · exact Or.inl rfl
    · have hshared := h.eq_succ_of_covers hlt (List.getElem?_eq_getElem hj) hs hcovers hrow
      exact Or.inr ⟨hshared.2.1, j, hshared.1, rfl⟩

theorem InOrder.snippetsApart_iff :
    p.SnippetsApart ↔ p.snippets.Pairwise (·.lastRow < ·.firstRow) := by
  constructor
  · intro hapart
    refine List.pairwise_iff_getElem.mpr fun i j hi hj hij => ?_
    have hs := List.getElem?_eq_getElem hi
    have ht := List.getElem?_eq_getElem hj
    refine Nat.lt_of_le_of_ne (rel_of_pairwise h.ends hij hs ht) fun heq => ?_
    have hshared := hapart.disjoint i j _ _ _ hs ht (h.covers_lastRow hs)
      (heq ▸ h.covers_firstRow ht)
    omega
  · intro hlt
    have hdisjoint : ∀ (i j : Nat) (s t : Snippet) (row : Nat), p.snippets[i]? = some s →
        p.snippets[j]? = some t → s.covers row → t.covers row → ¬i < j := by
      intro i j s t row hs ht hrow hrow' hij
      have := rel_of_pairwise hlt hij hs ht
      rw [covers_iff] at hrow hrow'
      omega
    refine ⟨fun i j s t row hs ht hrow hrow' => ?_, fun i s row hs hrow => ?_⟩
    · have := hdisjoint i j s t row hs ht hrow hrow'
      have := hdisjoint j i t s row ht hs hrow' hrow
      omega
    · rcases h.snippetAt?_of_covers hs hrow with hfound | ⟨hfirst, j, rfl, hfound⟩
      · exact hfound
      · obtain ⟨hj, hcovers, -⟩ := List.findIdx?_eq_some_iff_getElem.mp hfound
        exact absurd (Nat.lt_succ_self j)
          (hdisjoint j (j + 1) _ s row (List.getElem?_eq_getElem hj) hs hcovers hrow)

theorem InOrder.pairwise_lastRow_iff :
    p.snippets.Pairwise (·.lastRow < ·.firstRow) ↔
      ∀ i s t, p.snippets[i]? = some s → p.snippets[i + 1]? = some t → s.lastRow ≠ t.firstRow := by
  constructor
  · intro hlt i s t hs ht
    exact Nat.ne_of_lt (rel_of_pairwise hlt (Nat.lt_succ_self i) hs ht)
  · intro hne
    refine List.pairwise_iff_getElem.mpr fun i j hi hj hij => ?_
    have hs := List.getElem?_eq_getElem hi
    have ht := List.getElem?_eq_getElem hj
    refine Nat.lt_of_le_of_ne (rel_of_pairwise h.ends hij hs ht) fun heq => ?_
    obtain ⟨rfl, -, -⟩ := h.eq_succ_of_covers hij hs ht (h.covers_lastRow hs)
      (heq ▸ h.covers_firstRow ht)
    exact hne i _ _ hs ht heq

end InOrder

/-- A row of a snippet is found to belong to it, unless it is the first one and the snippet before
ends on it.  Where lines do not share rows that needs a line that goes on with a container of the
snippet before and opens the next one. -/
theorem snippetsApart_iff_abuts (source : String) :
    let p := parse source
    (∀ (i : Nat) (s : Snippet) (row : Nat), p.snippets[i]? = some s → s.covers row →
      p.snippetAt? row = some i ∨ row = s.firstRow ∧ ∃ j, i = j + 1 ∧ p.snippetAt? row = some j) ∧
    (p.SnippetsApart ↔ ∀ (i : Nat) (s t : Snippet), p.snippets[i]? = some s →
      p.snippets[i + 1]? = some t → s.lastRow ≠ t.firstRow) ∧
    (¬HasLoneReturn source.toList →
      (p.SnippetsApart ↔ ∀ before line after, bodyLines source.toList = before ++ line :: after →
        ¬(before.foldl Reading.read (bodyStart source.toList)).Abuts line)) := by
  intro p
  have horder : InOrder p.snippets := inOrder_parse source
  refine ⟨fun i s row => horder.snippetAt?_of_covers, ?_, fun hlone => ?_⟩
  · rw [horder.snippetsApart_iff, horder.pairwise_lastRow_iff]
  · obtain ⟨hstarts, hends⟩ := Markdown.spans_blocks_of_not_hasLoneReturn hlone
    rw [← map_rows_snippets, List.pairwise_map] at hstarts hends
    have hall : p.snippets = (Markdown.blocks source.toList).filterMap snippet? :=
      onePerRow_of_pairwise (fun _ h => absurd h (by simp)) hstarts
    rw [horder.snippetsApart_iff, hall]
    exact hends

/-- The block of a quote ends with the quote, on the row of a blank line, and not on that of the
next block. -/
theorem snippetsApart_iff_abuts_quoted :
    let source := "> \x60\x60\x60\n> x\n\n\x60\x60\x60\n\x60\x60\x60\n"
    ¬HasLoneReturn source.toList ∧ (parse source).SnippetsApart ∧
      ∀ before line after, bodyLines source.toList = before ++ line :: after →
        ¬(before.foldl Reading.read (bodyStart source.toList)).Abuts line := by
  intro source
  have hlone : ¬HasLoneReturn source.toList := by
    intro h
    obtain ⟨before, after, hsplit, -⟩ := h
    have hmem : '\x0d' ∈ source.toList := by
      rw [hsplit]
      simp
    exact absurd hmem (by decide)
  obtain ⟨-, hneighbours, habuts⟩ := snippetsApart_iff_abuts source
  have hsnippets : (parse source).snippets = [⟨none, "x", 0, 1⟩, ⟨none, "", 3, 4⟩] := by decide
  have hapart : (parse source).SnippetsApart := by
    refine hneighbours.mpr fun i s t hs ht => ?_
    rw [hsnippets] at hs ht
    match i with
    | 0 =>
      obtain rfl := Option.some.inj hs
      obtain rfl := Option.some.inj ht
      decide
    | i + 1 => exact absurd ht (by simp)
  exact ⟨hlone, hapart, (habuts hlone).mp hapart⟩

/-- The quote goes on behind the closing fence of its first block, and the row on which it does is
that of the next opening fence. -/
theorem not_snippetsApart_quoted :
    ¬(parse "> \x60\x60\x60\n> x\n> \x60\x60\x60\n> \x60\x60\x60\n> y\n> \x60\x60\x60\n").SnippetsApart := by
  intro h
  have hshared := h.disjoint 0 1 ⟨none, "x\n>", 0, 3⟩ ⟨none, "y\n>", 3, 5⟩ 3 (by decide) (by decide)
    (by decide) (by decide)
  omega

end DocPager.Page
