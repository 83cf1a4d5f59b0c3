import DocPager.Proofs.Page.Sections
import DocPager.Proofs.Page.Snippets

/-!
What is found on a page, whatever its source is.  Sections and snippets lie on the rows of the page
and are listed in its order, and a section is known by its id.
-/

namespace DocPager.Page

/-- The sections of a page come down its rows and are told apart by ids that can stand in a link. -/
structure Outlined (p : Page) : Prop where
  ids_nodup : (p.sections.map (·.id)).Nodup
  ids : ∀ s ∈ p.sections, s.id ≠ "" ∧ ∀ c ∈ s.id.toList, Unicode.isWhiteSpace c = false
  order : ∀ (k : Nat) (s : Section), p.sections[k]? = some s → s.order = k
  rows : p.sections.Pairwise (·.row ≤ ·.row)
  row_lt : ∀ s ∈ p.sections, s.row < p.height
  level : ∀ s ∈ p.sections, 1 ≤ s.level ∧ s.level ≤ 6
  found : ∀ s ∈ p.sections, p.section? s.id = some s
  navigation : ∀ depth, (p.navigation depth).Sublist p.sections ∧
    ∀ s, s ∈ p.navigation depth ↔ s ∈ p.sections ∧ s.level ≤ depth

theorem outlined_parse (source : String) : Outlined (parse source) where
  ids_nodup := nodup_id_sectionsFrom _ _ _
  ids := by
    intro s hs
    obtain ⟨hne, hsolid⟩ := Anchor.isId_iff.mp (isId_of_mem_sectionsFrom hs)
    exact ⟨fun hempty => hne (by rw [hempty]; rfl), hsolid⟩
  order := by
    intro k s hs
    rw [order_of_getElem?_sectionsFrom hs, Nat.zero_add]
  rows := pairwise_row_sections source
  row_lt := fun s hs => (level_row_of_mem_sections hs).2
  level := fun s hs => (level_row_of_mem_sections hs).1
  found := fun s hs => section?_of_mem hs
  navigation := fun _ => ⟨List.filter_sublist, fun _ => mem_navigation_iff⟩

/-- Every snippet lies on rows of the page, and the next one starts below its first row and not above
its last one. -/
theorem snippets_within_rows (source : String) :
    let p := parse source
    (∀ s ∈ p.snippets, s.firstRow ≤ s.lastRow ∧ s.lastRow < p.height) ∧
      p.snippets.Pairwise (·.firstRow < ·.firstRow) ∧
      p.snippets.Pairwise (·.lastRow ≤ ·.firstRow) := by
  intro p
  have horder : InOrder p.snippets := inOrder_parse source
  exact ⟨fun s hs => ⟨horder.within s hs, lastRow_lt_height hs⟩, horder.starts, horder.ends⟩

end DocPager.Page
