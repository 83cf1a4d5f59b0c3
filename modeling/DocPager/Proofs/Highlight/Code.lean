import DocPager.Proofs.Highlight.Rows
import DocPager.Proofs.Markdown.Extent

/-!
Which code is coloured.  The rows that are coloured are those between the first and the last row of a
snippet, which is all of its code only if the last row is that of the closing fence.  A block that is not
closed has its last line of code there, and a block in a container that goes on may have the next line.
-/

namespace DocPager

namespace Page

open Markdown (Extent)

/-- The snippets on a page, also those that start on one row, with the extents of their blocks. -/
def extents (source : String) : List (Snippet × Extent) :=
  ((Markdown.blocks source.toList).filterMap snippet?).zip (Markdown.extents source.toList)

theorem map_rows_eq_extents (source : String) :
    ((Markdown.blocks source.toList).filterMap snippet?).map (fun s => (s.firstRow, s.lastRow)) =
      (Markdown.extents source.toList).map fun e => (e.opening, e.lastRow) := by
  rw [map_rows_snippets, Markdown.spans_blocks_eq_extents]

theorem exists_extent {source : String} {s : Snippet} (hs : s ∈ (parse source).snippets) :
    ∃ e, (s, e) ∈ extents source := by
  have hmem := (sublist_onePerRow none _).subset hs
  obtain ⟨k, hk⟩ := List.getElem?_of_mem hmem
  have hlength := congrArg List.length (map_rows_eq_extents source)
  rw [List.length_map, List.length_map] at hlength
  have hlt : k < (Markdown.extents source.toList).length :=
    hlength ▸ (List.getElem?_eq_some_iff.mp hk).1
  refine ⟨(Markdown.extents source.toList)[k], List.mem_of_getElem? (i := k) ?_⟩
  rw [extents, List.getElem?_zip_eq_some]
  exact ⟨hk, List.getElem?_eq_getElem hlt⟩

/-- A snippet has the rows of its block. -/
structure Spans (s : Snippet) (e : Extent) : Prop where
  firstRow : s.firstRow = e.opening
  lastRow : s.lastRow = e.lastRow
  ordered : e.Ordered

theorem spans_of_mem_extents {source : String} {s : Snippet} {e : Extent}
    (h : (s, e) ∈ extents source) : Spans s e := by
  obtain ⟨k, hk⟩ := List.getElem?_of_mem h
  obtain ⟨hs, he⟩ := List.getElem?_zip_eq_some.mp hk
  have hrows := congrArg (·[k]?) (map_rows_eq_extents source)
  simp only [List.getElem?_map, hs, he, Option.map_some, Option.some.injEq, Prod.mk.injEq] at hrows
  exact ⟨hrows.1, hrows.2, Markdown.ordered_of_mem_extents _ e (List.of_mem_zip h).2⟩

end Page

namespace Highlight

open Markdown (EndsBetween Extent)

/-- All code of a block is coloured, and its fences are not. -/
structure ColorsCode (e : Extent) (colored : List CodeRow) : Prop where
  code : ∀ row, e.IsCode row → row ∈ colored.map (·.row)
  opening : e.opening ∉ colored.map (·.row)
  closing : e.closed = true → e.last ∉ colored.map (·.row)

/-- Of the rows of a snippet those between its first and its last one are coloured. -/
theorem ColorsInside.mem_iff {p : Page} {themeName : String} {knows : String → Bool}
    {code : List CodeRow} (h : ColorsInside p themeName knows code) (htheme : theme? themeName ≠ none)
    (horder : Page.InOrder p.snippets) {s : Snippet} (hs : s ∈ p.snippets)
    (hknown : s.language.any knows = true) {row : Nat} (hrow : s.covers row) :
    row ∈ code.map (·.row) ↔ s.firstRow < row ∧ row < s.lastRow := by
  rw [h.rows htheme]
  constructor
  · intro hcolored
    obtain ⟨t, ht, -, hfirst, hlast⟩ := hcolored
    obtain ⟨i, hi⟩ := List.getElem?_of_mem hs
    obtain ⟨j, hj⟩ := List.getElem?_of_mem ht
    rw [Page.covers_iff] at hrow
    -- the snippets before end above the row, and those behind start below it
    rcases Nat.lt_trichotomy i j with hlt | rfl | hlt
    · have := Page.rel_of_pairwise horder.ends hlt hi hj
      omega
    · obtain rfl := Option.some.inj (hi.symm.trans hj)
      omega
    · have := Page.rel_of_pairwise horder.ends hlt hj hi
      omega
  · intro hinner
    exact ⟨s, hs, hknown, by omega, by omega⟩

section Between

variable {e : Extent} (he : e.Ordered) {code : List CodeRow}
  (h : ∀ row, e.opening ≤ row → row ≤ e.lastRow →
    (row ∈ code.map (·.row) ↔ e.opening < row ∧ row < e.lastRow))
include he h

theorem opening_not_colored : e.opening ∉ code.map (·.row) := by
  intro hcolored
  have hopening := (h e.opening (Nat.le_refl _) (Nat.le_trans he.opening he.last)).mp hcolored
  exact Nat.lt_irrefl _ hopening.1

theorem colorsCode_iff_of_closed (hclosed : e.closed = true) :
    ColorsCode e code ↔ e.last ∉ code.map (·.row) := by
  constructor
  · exact fun hcode => hcode.closing hclosed
  · intro hlast
    refine ⟨fun row hrow => ?_, opening_not_colored he h, fun _ => hlast⟩
    rw [Extent.IsCode, if_pos hclosed] at hrow
    have hend := he.last
    exact (h row (by omega) (by omega)).mpr ⟨hrow.1, by omega⟩

theorem colorsCode_iff_of_open (hopen : e.closed = false) :
    ColorsCode e code ↔ (e.opening < e.last → e.last ∈ code.map (·.row)) := by
  have hnot : ¬e.closed = true := ne_true_of_eq_false hopen
  constructor
  · intro hcode hlast
    refine hcode.code e.last ?_
    rw [Extent.IsCode, if_neg hnot]
    exact ⟨hlast, Nat.le_refl _⟩
  · intro hlast
    refine ⟨fun row hrow => ?_, opening_not_colored he h, fun hclosed => absurd hclosed hnot⟩
    rw [Extent.IsCode, if_neg hnot] at hrow
    have hend := (h e.last he.opening he.last).mp (hlast (by omega))
    exact (h row (by omega) (by omega)).mpr ⟨hrow.1, by omega⟩

/-- Where the rows between the first and the last one of a block are coloured, that is all its code if
the row that counts as the last one is that of the closing fence, or is below the block. -/
theorem colorsCode_iff :
    ColorsCode e code ↔ e.last = e.opening ∨ (e.closed = true ↔ e.lastRow = e.last) := by
  have hopening := he.opening
  have hlast := he.last
  have hend := h e.last hopening hlast
  cases hclosed : e.closed with
  | true =>
    rw [colorsCode_iff_of_closed he h hclosed, hend, eq_self_iff_true, true_iff]
    omega
  | false =>
    rw [colorsCode_iff_of_open he h hclosed, hend, Bool.false_eq_true, false_iff]
    omega

end Between

/-- What is coloured of the blocks on a page whose languages are known. -/
structure ColorsBlocks (source : String) (knows : String → Bool) (code : List CodeRow) : Prop where
  rows : ∀ s ∈ (Page.parse source).snippets, ∀ e, (s, e) ∈ Page.extents source →
    s.language.any knows = true → ∀ row, e.opening ≤ row → row ≤ e.lastRow →
      (row ∈ code.map (·.row) ↔ e.opening < row ∧ row < e.lastRow)
  all_iff : ∀ s ∈ (Page.parse source).snippets, ∀ e, (s, e) ∈ Page.extents source →
    s.language.any knows = true →
      (ColorsCode e code ↔ e.last = e.opening ∨ (e.closed = true ↔ e.lastRow = e.last))

theorem ColorsInside.colorsBlocks {source themeName : String} {knows : String → Bool}
    {code : List CodeRow} (h : ColorsInside (Page.parse source) themeName knows code)
    (htheme : theme? themeName ≠ none) : ColorsBlocks source knows code := by
  have hrows : ∀ s ∈ (Page.parse source).snippets, ∀ e, (s, e) ∈ Page.extents source →
      s.language.any knows = true → ∀ row, e.opening ≤ row → row ≤ e.lastRow →
        (row ∈ code.map (·.row) ↔ e.opening < row ∧ row < e.lastRow) := by
    intro s hs e he hknown row hfirst hlast
    have hspans := Page.spans_of_mem_extents he
    rw [← hspans.firstRow] at hfirst ⊢
    rw [← hspans.lastRow] at hlast ⊢
    exact h.mem_iff htheme (Page.inOrder_parse source) hs hknown
      (Page.covers_iff.mpr ⟨hfirst, hlast⟩)
  exact ⟨hrows, fun s hs e he hknown =>
    colorsCode_iff (Page.spans_of_mem_extents he).ordered (hrows s hs e he hknown)⟩

/-- In every theme and whichever faithful highlighter there is, all code of a block in a known language
is coloured, and none of its fences, exactly if the block has one line only or if it ends on its
closing fence, and on a row below it if it has none.  A block is closed if the last line that it takes
closes it. -/
theorem code_is_colored_iff (source themeName : String) (htheme : theme? themeName ≠ none) :
    let p := Page.parse source
    (∀ s ∈ p.snippets, ∃ e, (s, e) ∈ Page.extents source) ∧
      (∀ s e, (s, e) ∈ Page.extents source → ∃ before after,
        EndsBetween source.toList before after e) ∧
      ColorsBlocks source knowsLanguage (codeRows p themeName) ∧
      ∀ {Grammar State : Type} (h : Highlighter Grammar State), h.Faithful →
        ColorsBlocks source h.knows (h.codeRows p themeName) := by
  intro p
  have hinside : ∀ {Grammar State : Type} (h : Highlighter Grammar State), h.Faithful →
      ColorsInside p themeName h.knows (h.codeRows p themeName) := fun h hh =>
    (hh.shows_codeRows source themeName).colorsInside (Page.inOrder_parse source)
  have hplain := hinside _ Highlighter.faithful_plain
  rw [codeRows_plain, Highlighter.knows_plain] at hplain
  exact ⟨fun s hs => Page.exists_extent hs,
    fun s e he => Markdown.exists_endsBetween (List.of_mem_zip he).2,
    hplain.colorsBlocks htheme, fun h hh => (hinside h hh).colorsBlocks htheme⟩

/-- The one line of code between two fences is coloured. -/
theorem code_is_colored_iff_closed :
    let source := "\x60\x60\x60txt\na\n\x60\x60\x60\n"
    theme? "base16-ocean.dark" ≠ none ∧
      ColorsCode ⟨0, 2, true, none⟩ (codeRows (Page.parse source) "base16-ocean.dark") := by
  intro source
  have htheme : theme? "base16-ocean.dark" ≠ none := by decide
  obtain ⟨-, -, hcolors, -⟩ := code_is_colored_iff source "base16-ocean.dark" htheme
  have hiff := hcolors.all_iff ⟨some "txt", "a", 0, 2⟩ (by decide) ⟨0, 2, true, none⟩ (by decide)
    (by decide)
  exact ⟨htheme, hiff.mpr (Or.inr (by decide))⟩

/-- The last line of code of a block that is not closed is not coloured. -/
theorem not_code_is_colored_unclosed :
    let source := "\x60\x60\x60txt\na\n"
    let p := Page.parse source
    ¬∀ s ∈ p.snippets, ∀ e, (s, e) ∈ Page.extents source → s.language.any knowsLanguage = true →
      ColorsCode e (codeRows p "base16-ocean.dark") := by
  intro source p h
  have hcolors := h ⟨some "txt", "a", 0, 1⟩ (by decide) ⟨0, 1, false, none⟩ (by decide) (by decide)
  have hcolored := hcolors.code 1 ⟨by decide, by decide⟩
  exact absurd hcolored (by decide)

end Highlight
end DocPager
