import DocPager.Page.Basic
import DocPager.Proofs.Anchor.Id
import DocPager.Proofs.Markdown.Headings

/-!
The sections of a page.  Their ids differ and their places count up, so a section is found again by
its id, and leaving some out keeps them in order.  Their rows come down the page with them.
-/

namespace DocPager.Page

open Anchor (Claims slug splitTitle)

def headingTitle (text : List Char) : String := (splitTitle (String.ofList (Text.trim text))).1

/-- The id that a heading asks for: its explicit anchor, or else the slug of its title. -/
def headingBase (text : List Char) : String :=
  (splitTitle (String.ofList (Text.trim text))).2.getD (slug (headingTitle text))

theorem rows_parse (source : String) :
    (parse source).rows = (Text.rows source.toList).map String.ofList := rfl

theorem height_parse (source : String) :
    (parse source).height = (Text.rows source.toList).length := List.length_map _

theorem sections_parse (source : String) :
    (parse source).sections = sectionsFrom .empty 0 (Markdown.blocks source.toList) := rfl

@[simp] theorem sectionsFrom_nil (claims : Claims) (order : Nat) :
    sectionsFrom claims order [] = [] := rfl

theorem sectionsFrom_heading (claims : Claims) (order level row : Nat) (text : List Char)
    (rest : List Markdown.Block) :
    sectionsFrom claims order (.heading level row text :: rest) =
      { id := (claims.claim (headingBase text)).1, title := headingTitle text, level, order, row } ::
        sectionsFrom (claims.claim (headingBase text)).2 (order + 1) rest := rfl

/-! ## What the sections say -/

def heading? : Markdown.Block → Option (Nat × Nat × List Char)
  | .heading level row text => some (level, row, text)
  | .fenced .. => none

theorem map_heading_sectionsFrom (claims : Claims) (order : Nat) (blocks : List Markdown.Block) :
    (sectionsFrom claims order blocks).map (fun s => (s.level, s.row, s.title)) =
      (blocks.filterMap heading?).map fun h => (h.1, h.2.1, headingTitle h.2.2) := by
  induction blocks generalizing claims order with
  | nil => rfl
  | cons b rest ih =>
    cases b with
    | fenced language text first last => exact ih claims order
    | heading level row text =>
      rw [sectionsFrom_heading, List.map_cons, ih]
      rfl

theorem map_order_sectionsFrom (claims : Claims) (order : Nat) (blocks : List Markdown.Block) :
    (sectionsFrom claims order blocks).map (·.order) =
      List.range' order (blocks.filterMap heading?).length := by
  induction blocks generalizing claims order with
  | nil => rfl
  | cons b rest ih =>
    cases b with
    | fenced language text first last => exact ih claims order
    | heading level row text =>
      rw [sectionsFrom_heading, List.map_cons, ih]
      rfl

theorem map_id_sectionsFrom (claims : Claims) (order : Nat) (blocks : List Markdown.Block) :
    (sectionsFrom claims order blocks).map (·.id) =
      claims.claimAll ((blocks.filterMap heading?).map fun h => headingBase h.2.2) := by
  induction blocks generalizing claims order with
  | nil => rfl
  | cons b rest ih =>
    cases b with
    | fenced language text first last => exact ih claims order
    | heading level row text =>
      rw [sectionsFrom_heading, List.map_cons, ih]
      rfl

theorem map_mark_sectionsFrom (claims : Claims) (order : Nat) (blocks : List Markdown.Block) :
    (sectionsFrom claims order blocks).map (fun s => (s.level, s.row)) =
      blocks.filterMap Markdown.Block.mark? := by
  have hmarks : blocks.filterMap Markdown.Block.mark? =
      (blocks.filterMap heading?).map fun h => (h.1, h.2.1) := by
    rw [List.map_filterMap]
    congr 1
    funext b
    cases b <;> rfl
  have hheadings := congrArg (List.map fun h => (h.1, h.2.1))
    (map_heading_sectionsFrom claims order blocks)
  rw [List.map_map, List.map_map] at hheadings
  rw [hmarks]
  exact hheadings

/-! ## Ids -/

theorem nodup_id_sectionsFrom (claims : Claims) (order : Nat) (blocks : List Markdown.Block) :
    ((sectionsFrom claims order blocks).map (·.id)).Nodup := by
  rw [map_id_sectionsFrom]
  exact claims.nodup_claimAll _

theorem isSolid_headingBase (text : List Char) : Anchor.IsSolid (headingBase text).toList := by
  rw [headingBase]
  cases hanchor : (splitTitle (String.ofList (Text.trim text))).2 with
  | none => exact Anchor.isSolid_slug _
  | some id => exact (Anchor.isId_iff.mp (Anchor.isId_of_splitTitle hanchor)).2

theorem isId_of_mem_sectionsFrom {claims : Claims} {order : Nat} {blocks : List Markdown.Block}
    {s : Section} (h : s ∈ sectionsFrom claims order blocks) : Anchor.isId s.id.toList = true := by
  have hmem := List.mem_map_of_mem (f := Section.id) h
  rw [map_id_sectionsFrom] at hmem
  obtain ⟨later, -, base, hbase, hid⟩ := Claims.exists_claim_of_mem_claimAll hmem
  obtain ⟨heading, -, rfl⟩ := List.mem_map.mp hbase
  rw [hid]
  exact later.isId_claim (isSolid_headingBase heading.2.2)

/-! ## Places and rows -/

theorem pairwise_order_sectionsFrom (claims : Claims) (order : Nat) (blocks : List Markdown.Block) :
    (sectionsFrom claims order blocks).Pairwise (·.order < ·.order) := by
  rw [← List.pairwise_map, map_order_sectionsFrom]
  exact List.pairwise_lt_range'

theorem order_of_getElem?_sectionsFrom {claims : Claims} {order : Nat}
    {blocks : List Markdown.Block} {k : Nat} {s : Section}
    (hs : (sectionsFrom claims order blocks)[k]? = some s) : s.order = order + k := by
  have horder := congrArg (·[k]?) (map_order_sectionsFrom claims order blocks)
  simp only [List.getElem?_map, hs, Option.map_some] at horder
  obtain ⟨hk, heq⟩ := List.getElem?_eq_some_iff.mp horder.symm
  rw [List.getElem_range', Nat.one_mul] at heq
  exact heq.symm

theorem level_row_of_mem_sections {source : String} {s : Section}
    (hs : s ∈ (parse source).sections) :
    Markdown.IsLevel s.level ∧ s.row < (parse source).height := by
  obtain ⟨hmarks, -⟩ := Markdown.marks_blocks source.toList
  rw [← map_mark_sectionsFrom .empty 0, ← sections_parse, List.forall_mem_map] at hmarks
  rw [height_parse]
  exact hmarks s hs

theorem pairwise_row_sections (source : String) :
    (parse source).sections.Pairwise (·.row ≤ ·.row) := by
  obtain ⟨-, hrows⟩ := Markdown.marks_blocks source.toList
  rw [← map_mark_sectionsFrom .empty 0, ← sections_parse, List.pairwise_map] at hrows
  exact hrows

/-! ## Finding a section by its id -/

/-- What differs from the rest in some key is found by it. -/
theorem find?_of_nodup_map {α β : Type} [BEq β] [LawfulBEq β] {key : α → β} {items : List α}
    (h : (items.map key).Nodup) {a : α} (ha : a ∈ items) :
    items.find? (key · == key a) = some a := by
  induction items with
  | nil => exact absurd ha List.not_mem_nil
  | cons b rest ih =>
    rw [List.map_cons, List.nodup_cons] at h
    rcases List.mem_cons.mp ha with rfl | ha
    · simp
    · have hne : key b ≠ key a := by
        intro heq
        exact h.1 (heq ▸ List.mem_map_of_mem ha)
      rw [List.find?_cons_of_neg (by simpa using hne)]
      exact ih h.2 ha

theorem findIdx?_id_of_getElem? {sections : List Section} (hid : (sections.map (·.id)).Nodup)
    {k : Nat} {s : Section} (hs : sections[k]? = some s) :
    sections.findIdx? (·.id == s.id) = some k := by
  obtain ⟨hk, rfl⟩ := List.getElem?_eq_some_iff.mp hs
  refine List.findIdx?_eq_some_iff_getElem.mpr ⟨hk, beq_self_eq_true _, fun j hj heq => ?_⟩
  have hne := List.pairwise_iff_getElem.mp (List.pairwise_map.mp hid) j k (by omega) hk hj
  exact hne (eq_of_beq heq)

theorem section?_of_mem {source : String} {s : Section} (hs : s ∈ (parse source).sections) :
    (parse source).section? s.id = some s :=
  find?_of_nodup_map (nodup_id_sectionsFrom _ _ _) hs

theorem mem_navigation_iff {p : Page} {depth : Nat} {s : Section} :
    s ∈ p.navigation depth ↔ s ∈ p.sections ∧ s.level ≤ depth := by
  rw [navigation, List.mem_filter, decide_eq_true_iff]

theorem mem_sections_of_mem_navigation {p : Page} {depth : Nat} {s : Section}
    (hs : s ∈ p.navigation depth) : s ∈ p.sections := (mem_navigation_iff.mp hs).1

theorem nodup_id_navigation (source : String) (depth : Nat) :
    (((parse source).navigation depth).map (·.id)).Nodup :=
  (nodup_id_sectionsFrom _ _ _).sublist (List.filter_sublist.map _)

theorem pairwise_row_navigation (source : String) (depth : Nat) :
    ((parse source).navigation depth).Pairwise (·.row ≤ ·.row) :=
  (pairwise_row_sections source).filter _

theorem pairwise_order_navigation (source : String) (depth : Nat) :
    ((parse source).navigation depth).Pairwise (·.order < ·.order) :=
  (pairwise_order_sectionsFrom _ _ _).filter _

end DocPager.Page
