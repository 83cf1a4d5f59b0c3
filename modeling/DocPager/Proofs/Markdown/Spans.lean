import DocPager.Proofs.Markdown.Read

/-!
The rows of fenced blocks.  A block takes the row of the line that ends it too if that line goes on
with a container of the block, and then the next block may start on the same row.
-/

namespace DocPager.Markdown

/-- The first and the last row of a fenced block. -/
def Block.span? : Block → Option (Nat × Nat)
  | .fenced _ _ first last => some (first, last)
  | .heading .. => none

namespace Reading

/-- The spans of the finished blocks, newest first. -/
def spans (r : Reading) : List (Nat × Nat) := r.blocks.filterMap Block.span?

/-- The spans with that of the block under way, given its last row. -/
def endedSpans (r : Reading) (last : Nat → Nat) : List (Nat × Nat) :=
  match r.leaf.fenceRow? with
  | some row => (row, last row) :: r.spans
  | none => r.spans

theorem forall_mem_endedSpans {r : Reading} {last : Nat → Nat} {P : Nat × Nat → Prop} :
    (∀ s ∈ r.endedSpans last, P s) ↔
      (∀ s ∈ r.spans, P s) ∧ ∀ row, r.leaf.fenceRow? = some row → P (row, last row) := by
  rw [endedSpans]
  cases r.leaf.fenceRow? with
  | none => simp
  | some row => simp [and_comm]

theorem pairwise_endedSpans {r : Reading} {last : Nat → Nat} {R : Nat × Nat → Nat × Nat → Prop} :
    (r.endedSpans last).Pairwise R ↔
      r.spans.Pairwise R ∧
        ∀ row, r.leaf.fenceRow? = some row → ∀ s ∈ r.spans, R (row, last row) s := by
  rw [endedSpans]
  cases r.leaf.fenceRow? with
  | none => simp
  | some row => simp [and_comm]

theorem spans_finish (r : Reading) :
    r.finish.filterMap Block.span? = (r.endedSpans r.previous.getD).reverse := by
  obtain ⟨previous, containers, leaf, blocks⟩ := r
  cases leaf <;> exact List.filterMap_reverse

/-! ## What a line does to the blocks -/

/-- The finished blocks have the given spans, and a block under way was opened on `row`. -/
structure GoesOn (spans : List (Nat × Nat)) (row : Nat) (next : Reading) : Prop where
  spans_eq : next.spans = spans
  fenceRow : next.leaf.fenceRow? = none ∨ next.leaf.fenceRow? = some row

theorem GoesOn.eq_row {spans : List (Nat × Nat)} {row : Nat} {next : Reading}
    (h : GoesOn spans row next) {start : Nat} (hstart : next.leaf.fenceRow? = some start) :
    start = row := by
  rcases h.fenceRow with hrow | hrow
  · rw [hrow] at hstart
    exact absurd hstart (by simp)
  · exact Option.some.inj (hstart.symm.trans hrow)

theorem goesOn_enter (r : Reading) (containers : List Container) (start : Start) (c : Cursor)
    (line : Line) : GoesOn r.spans line.row (r.enter containers start c line) := by
  cases start with
  | blank => exact ⟨rfl, Or.inl rfl⟩
  | text => exact ⟨rfl, Or.inl rfl⟩
  | indented => exact ⟨rfl, Or.inl rfl⟩
  | thematicBreak => exact ⟨rfl, Or.inl rfl⟩
  | html kind => exact ⟨rfl, Or.inl (Leaf.fenceRow?_ite rfl rfl)⟩
  | heading level title =>
    refine ⟨?_, Or.inl rfl⟩
    show List.filterMap Block.span?
      ((if r.headingCounts containers title line then [.heading level line.row title] else []) ++
        r.blocks) = _
    split <;> rfl
  | fence fence info =>
    refine ⟨rfl, ?_⟩
    rw [enter]
    split
    · exact Or.inr rfl
    · exact Or.inl rfl

theorem goesOn_resume {r : Reading} (hleaf : r.leaf.fenceRow? = none) (held : List Container)
    (all : Bool) (c : Cursor) (line : Line) :
    GoesOn r.spans line.row (r.resume held all c line) := by
  rcases resume_cases r held all c line with ⟨containers, leaf, hresume, hkept⟩ |
    ⟨containers, steps, inParagraph, inner, hresume⟩
  · rw [hresume]
    refine ⟨rfl, Or.inl ?_⟩
    rcases hkept with rfl | hnone
    · exact hleaf
    · exact hnone
  · rw [hresume]
    exact goesOn_enter r containers _ inner line

theorem Ends.spans {r : Reading} {line : Line} {blocks : List Block} (h : r.Ends line blocks) :
    blocks.filterMap Block.span? = r.endedSpans (r.lastRow line) := by
  rcases h with ⟨hnone, rfl⟩ | ⟨f, hrow, rfl⟩
  · rw [endedSpans, hnone, Reading.spans]
  · rw [endedSpans, hrow]
    rfl

/-- A line goes on with the fenced block under way or ends it, and only in the second case it may
open another. -/
theorem read_cases (r : Reading) (line : Line) :
    ((r.read line).spans = r.spans ∧ (r.read line).leaf.fenceRow? = r.leaf.fenceRow?) ∨
      GoesOn (r.endedSpans (r.lastRow line)) line.row (r.read line) := by
  rcases read_inversion r line with ⟨containers, leaf, hread, hleaf, -⟩ |
    ⟨q, held, all, c, hread, hnone, hends, -⟩
  · rw [hread]
    exact Or.inl ⟨rfl, hleaf⟩
  · have hnext := goesOn_resume hnone held all c line
    have hspans : q.spans = _ := hends.spans
    rw [hspans] at hnext
    rw [hread]
    exact Or.inr ⟨hnext.spans_eq, hnext.fenceRow⟩

/-! ## The order of the blocks -/

/-- Every block starts where the one before it ends or later, and nothing goes beyond the line read
last. -/
structure Ordered (r : Reading) : Prop where
  within : ∀ s ∈ r.spans, s.1 ≤ s.2
  apart : r.spans.Pairwise fun later earlier => earlier.2 ≤ later.1
  past : ∀ s ∈ r.spans, ∃ p, r.previous = some p ∧ s.2 ≤ p
  current : ∀ row, r.leaf.fenceRow? = some row →
    (∃ p, r.previous = some p ∧ row ≤ p) ∧ ∀ s ∈ r.spans, s.2 ≤ row

namespace Ordered

variable {r : Reading} (h : r.Ordered) {line : Line} (hline : ∀ p ∈ r.previous, p ≤ line.row)
include h hline

/-- The span of a block that ends lies between its opening fence and the line that ends it. -/
theorem lastRow {row : Nat} (hrow : r.leaf.fenceRow? = some row) :
    row ≤ r.lastRow line row ∧ r.lastRow line row ≤ line.row := by
  obtain ⟨⟨p, hp, hle⟩, -⟩ := h.current row hrow
  have hprevious := hline p hp
  rw [Reading.lastRow, hp, Option.getD_some]
  split
  · exact ⟨hle, hprevious⟩
  · exact ⟨Nat.le_trans hle hprevious, Nat.le_refl line.row⟩

theorem past_le {s : Nat × Nat} (hs : s ∈ r.spans) : s.2 ≤ line.row := by
  obtain ⟨p, hp, hle⟩ := h.past s hs
  exact Nat.le_trans hle (hline p hp)

theorem endedSpans_le : ∀ s ∈ r.endedSpans (r.lastRow line), s.1 ≤ s.2 ∧ s.2 ≤ line.row :=
  forall_mem_endedSpans.mpr
    ⟨fun s hs => ⟨h.within s hs, h.past_le hline hs⟩, fun _ hrow => h.lastRow hline hrow⟩

theorem read : (r.read line).Ordered := by
  rcases read_cases r line with ⟨hs, hf⟩ | hnext
  · refine ⟨?_, ?_, ?_, ?_⟩
    · rw [hs]
      exact h.within
    · rw [hs]
      exact h.apart
    · rw [hs]
      exact fun s hmem => ⟨line.row, rfl, h.past_le hline hmem⟩
    · intro row hrow
      rw [hf] at hrow
      obtain ⟨⟨p, hp, hle⟩, hspans⟩ := h.current row hrow
      rw [hs]
      exact ⟨⟨line.row, rfl, Nat.le_trans hle (hline p hp)⟩, hspans⟩
  · have hs := hnext.spans_eq
    have hended := h.endedSpans_le hline
    rw [← hs] at hended
    refine ⟨fun s hmem => (hended s hmem).1, ?_, fun s hmem => ⟨line.row, rfl, (hended s hmem).2⟩, ?_⟩
    · rw [hs, pairwise_endedSpans]
      exact ⟨h.apart, fun row hrow => (h.current row hrow).2⟩
    · intro row hrow
      obtain rfl := hnext.eq_row hrow
      exact ⟨⟨line.row, rfl, Nat.le_refl _⟩, fun s hmem => (hended s hmem).2⟩

end Ordered

/-! ## Lines with rows of their own -/

structure Distinct (r : Reading) : Prop where
  starts : r.spans.Pairwise fun later earlier => earlier.1 < later.1
  past : ∀ s ∈ r.spans, ∃ p, r.previous = some p ∧ s.1 < p
  current : ∀ row, r.leaf.fenceRow? = some row → ∀ s ∈ r.spans, s.1 < row

/-- No block starts on the row on which the one before it ends. -/
structure Apart (r : Reading) : Prop where
  spans : r.spans.Pairwise fun later earlier => earlier.2 < later.1
  current : ∀ row, r.leaf.fenceRow? = some row → ∀ s ∈ r.spans, s.2 < row

theorem apart_iff {r : Reading} :
    r.Apart ↔ r.spans.Pairwise (fun later earlier => earlier.2 < later.1) ∧
      ∀ row, r.leaf.fenceRow? = some row → ∀ s ∈ r.spans, s.2 < row :=
  ⟨fun h => ⟨h.spans, h.current⟩, fun h => ⟨h.1, h.2⟩⟩

/-- A line behind a fenced block that starts with the marker or the indentation of a container of
that block and opens the next block. -/
def Abuts (r : Reading) (line : Line) : Prop :=
  r.leaf.fenceRow? ≠ none ∧ (r.behind line).taken ≠ [] ∧
    (r.read line).leaf.fenceRow? = some line.row

section OwnRow

variable {r : Reading} (hr : r.Ordered) {line : Line} (hline : ∀ p ∈ r.previous, p < line.row)
include hr hline

theorem row_lt_of_fenceRow {row : Nat} (hrow : r.leaf.fenceRow? = some row) : row < line.row := by
  obtain ⟨⟨p, hp, hle⟩, -⟩ := hr.current row hrow
  exact Nat.lt_of_le_of_lt hle (hline p hp)

theorem last_lt_of_mem_spans {s : Nat × Nat} (hs : s ∈ r.spans) : s.2 < line.row := by
  obtain ⟨p, hp, hle⟩ := hr.past s hs
  exact Nat.lt_of_le_of_lt hle (hline p hp)

theorem Distinct.read (h : r.Distinct) : (r.read line).Distinct := by
  have hpast : ∀ s ∈ r.spans, s.1 < line.row := by
    intro s hs
    obtain ⟨p, hp, hlt⟩ := h.past s hs
    exact Nat.lt_trans hlt (hline p hp)
  rcases read_cases r line with ⟨hs, hf⟩ | hnext
  · refine ⟨?_, ?_, ?_⟩
    · rw [hs]
      exact h.starts
    · rw [hs]
      exact fun s hmem => ⟨line.row, rfl, hpast s hmem⟩
    · intro row hrow
      rw [hf] at hrow
      rw [hs]
      exact h.current row hrow
  · have hs := hnext.spans_eq
    have hended : ∀ s ∈ r.endedSpans (r.lastRow line), s.1 < line.row :=
      forall_mem_endedSpans.mpr ⟨hpast, fun _ hrow => row_lt_of_fenceRow hr hline hrow⟩
    rw [← hs] at hended
    refine ⟨?_, fun s hmem => ⟨line.row, rfl, hended s hmem⟩, ?_⟩
    · rw [hs, pairwise_endedSpans]
      exact ⟨h.starts, h.current⟩
    · intro row hrow
      obtain rfl := hnext.eq_row hrow
      exact hended

/-- A block that ends leaves out the row of the line unless the line goes on with a container. -/
theorem endedSpans_lt_iff :
    (∀ s ∈ r.endedSpans (r.lastRow line), s.2 < line.row) ↔
      (r.leaf.fenceRow? ≠ none → (r.behind line).taken = []) := by
  have hlast : ∀ row, r.leaf.fenceRow? = some row →
      (r.lastRow line row < line.row ↔ (r.behind line).taken = []) := by
    intro row hrow
    obtain ⟨⟨p, hp, -⟩, -⟩ := hr.current row hrow
    rw [lastRow, hp, Option.getD_some, ← List.isEmpty_iff]
    split
    · next htaken => exact ⟨fun _ => htaken, fun _ => hline p hp⟩
    · next htaken => exact ⟨fun hlt => absurd hlt (Nat.lt_irrefl line.row), fun h => absurd h htaken⟩
  rw [forall_mem_endedSpans]
  constructor
  · intro hall hne
    obtain ⟨-, hcurrent⟩ := hall
    obtain ⟨row, hrow⟩ := Option.ne_none_iff_exists'.mp hne
    exact (hlast row hrow).mp (hcurrent row hrow)
  · intro htaken
    refine ⟨fun s => last_lt_of_mem_spans hr hline, fun row hrow => ?_⟩
    exact (hlast row hrow).mpr (htaken (by rw [hrow]; simp))

theorem apart_read_iff : (r.read line).Apart ↔ r.Apart ∧ ¬r.Abuts line := by
  rcases read_cases r line with ⟨hs, hf⟩ | hnext
  · -- A block under way was opened on an earlier row, so the line opens none.
    have hnot : ¬r.Abuts line := by
      intro habuts
      obtain ⟨-, -, hopened⟩ := habuts
      rw [hf] at hopened
      exact Nat.lt_irrefl line.row (row_lt_of_fenceRow hr hline hopened)
    have hsame : (r.read line).Apart ↔ r.Apart := by rw [apart_iff, apart_iff, hs, hf]
    rw [hsame]
    exact ⟨fun h => ⟨h, hnot⟩, fun h => h.1⟩
  · have hended := endedSpans_lt_iff hr hline
    have hspans : (r.endedSpans (r.lastRow line)).Pairwise
        (fun later earlier => earlier.2 < later.1) ↔ r.Apart :=
      pairwise_endedSpans.trans apart_iff.symm
    rw [← hnext.spans_eq] at hended hspans
    constructor
    · intro h
      refine ⟨hspans.mp h.spans, fun habuts => ?_⟩
      obtain ⟨hne, htaken, hopened⟩ := habuts
      exact htaken (hended.mp (h.current line.row hopened) hne)
    · intro h
      obtain ⟨hapart, hnot⟩ := h
      refine ⟨hspans.mpr hapart, fun row hrow => ?_⟩
      obtain rfl := hnext.eq_row hrow
      refine hended.mpr fun hne => ?_
      exact Classical.byContradiction fun htaken => hnot ⟨hne, htaken, hrow⟩

end OwnRow

section OwnRows

variable {r : Reading} (hr : r.Ordered) {lines : List Line}
  (hprevious : ∀ p ∈ r.previous, ∀ l ∈ lines, p < l.row) (hlines : lines.Pairwise (·.row < ·.row))
include hr hprevious hlines

theorem Distinct.foldl (h : r.Distinct) : (lines.foldl Reading.read r).Distinct := by
  have hboth := foldl_induction (P := fun q => q.Ordered ∧ q.Distinct) (fun q line hline hq =>
    ⟨hq.1.read fun p hp => Nat.le_of_lt (hline p hp), hq.2.read hq.1 hline⟩) hprevious hlines ⟨hr, h⟩
  exact hboth.2

theorem apart_foldl_iff :
    (lines.foldl Reading.read r).Apart ↔ r.Apart ∧
      ∀ before line after, lines = before ++ line :: after →
        ¬(before.foldl Reading.read r).Abuts line := by
  induction lines generalizing r with
  | nil =>
    refine ⟨fun h => ⟨h, fun before line after hsplit => ?_⟩, fun h => h.1⟩
    exact absurd hsplit (by simp)
  | cons line rest ih =>
    have hline : ∀ p ∈ r.previous, p < line.row := fun p hp => hprevious p hp line List.mem_cons_self
    rw [List.pairwise_cons] at hlines
    have hnext := hr.read fun p hp => Nat.le_of_lt (hline p hp)
    rw [List.foldl_cons, ih hnext (of_mem_previous_read hlines.1) hlines.2, apart_read_iff hr hline]
    constructor
    · intro h
      obtain ⟨⟨hapart, hfirst⟩, hlater⟩ := h
      refine ⟨hapart, fun before l after hsplit => ?_⟩
      cases before with
      | nil =>
        obtain ⟨rfl, -⟩ := List.cons.inj hsplit
        exact hfirst
      | cons b before =>
        obtain ⟨rfl, hafter⟩ := List.cons.inj hsplit
        exact hlater before l after hafter
    · intro h
      obtain ⟨hapart, hall⟩ := h
      refine ⟨⟨hapart, hall [] line rest rfl⟩, fun before l after hsplit => ?_⟩
      exact hall (line :: before) l after (congrArg (line :: ·) hsplit)

end OwnRows

end Reading

/-! ## Pages -/

theorem spans_blocks_eq (source : List Char) :
    (blocks source).filterMap Block.span? =
      ((bodyEnd source).endedSpans (bodyEnd source).previous.getD).reverse := by
  rw [blocks_eq_finish, Reading.spans_finish]

theorem ordered_bodyStart (source : List Char) : (bodyStart source).Ordered :=
  ⟨fun _ h => absurd h List.not_mem_nil, List.Pairwise.nil, fun _ h => absurd h List.not_mem_nil,
    fun _ h => absurd h (by simp [bodyStart, Reading.start, Leaf.fenceRow?])⟩

theorem ordered_bodyEnd (source : List Char) : (bodyEnd source).Ordered :=
  bodyEnd_induction (fun _ _ hline h => h.read hline) (ordered_bodyStart source)

theorem spans_blocks (source : List Char) :
    let spans := (blocks source).filterMap Block.span?
    (∀ s ∈ spans, s.1 ≤ s.2) ∧ spans.Pairwise fun earlier later => earlier.2 ≤ later.1 := by
  intro spans
  have hfinal := ordered_bodyEnd source
  have hspans : spans = _ := spans_blocks_eq source
  have hwithin : ∀ s ∈ (bodyEnd source).endedSpans (bodyEnd source).previous.getD, s.1 ≤ s.2 := by
    refine Reading.forall_mem_endedSpans.mpr ⟨hfinal.within, fun row hrow => ?_⟩
    obtain ⟨⟨p, hp, hle⟩, -⟩ := hfinal.current row hrow
    show row ≤ (bodyEnd source).previous.getD row
    rw [hp]
    exact hle
  rw [hspans, List.pairwise_reverse, Reading.pairwise_endedSpans]
  exact ⟨fun s hs => hwithin s (List.mem_reverse.mp hs), hfinal.apart,
    fun row hrow => (hfinal.current row hrow).2⟩

theorem lastRow_lt_of_mem_spans (source : List Char) :
    ∀ s ∈ (blocks source).filterMap Block.span?, s.2 < (Text.rows source).length := by
  have hfinal := ordered_bodyEnd source
  have hpast := previous_bodyEnd_lt source
  have hended : ∀ s ∈ (bodyEnd source).endedSpans (bodyEnd source).previous.getD,
      s.2 < (Text.rows source).length := by
    refine Reading.forall_mem_endedSpans.mpr ⟨fun s hs => ?_, fun row hrow => ?_⟩
    · obtain ⟨p, hp, hle⟩ := hfinal.past s hs
      exact Nat.lt_of_le_of_lt hle (hpast p hp)
    · obtain ⟨⟨p, hp, -⟩, -⟩ := hfinal.current row hrow
      show (bodyEnd source).previous.getD row < _
      rw [hp]
      exact hpast p hp
  rw [spans_blocks_eq]
  exact fun s hs => hended s (List.mem_reverse.mp hs)

theorem spans_blocks_of_not_hasLoneReturn {source : List Char} (h : ¬HasLoneReturn source) :
    let spans := (blocks source).filterMap Block.span?
    (spans.Pairwise fun earlier later => earlier.1 < later.1) ∧
      ((spans.Pairwise fun earlier later => earlier.2 < later.1) ↔
        ∀ before line after, bodyLines source = before ++ line :: after →
          ¬(before.foldl Reading.read (bodyStart source)).Abuts line) := by
  intro spans
  have hrows : (bodyLines source).Pairwise (·.row < ·.row) :=
    (pairwise_row_linesFrom_of_not_hasLoneReturn (not_hasLoneReturn_withoutMark h) 0 []).sublist
      (sublist_bodyLines source)
  have hprevious := previous_lt_row_of_mem_bodyLines h
  have hstart := ordered_bodyStart source
  have hnone : (bodyStart source).leaf.fenceRow? = none := rfl
  have hdistinct : (bodyEnd source).Distinct := Reading.Distinct.foldl hstart hprevious hrows
    ⟨List.Pairwise.nil, fun _ hs => absurd hs List.not_mem_nil, by rw [hnone]; simp⟩
  have hfirst : (bodyStart source).Apart := ⟨List.Pairwise.nil, by rw [hnone]; simp⟩
  have hapart : (bodyEnd source).Apart ↔ _ := Reading.apart_foldl_iff hstart hprevious hrows
  have hspans : spans = _ := spans_blocks_eq source
  rw [hspans, List.pairwise_reverse, List.pairwise_reverse, Reading.pairwise_endedSpans,
    Reading.pairwise_endedSpans, ← Reading.apart_iff, hapart]
  exact ⟨⟨hdistinct.starts, hdistinct.current⟩, fun hall => hall.2, fun hnot => ⟨hfirst, hnot⟩⟩

end DocPager.Markdown
