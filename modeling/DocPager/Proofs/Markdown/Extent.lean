import DocPager.Proofs.Markdown.Spans

/-!
Where fenced blocks end on a page.  The last line of a block is its closing fence, or the last one that
continues its containers if there is no closing fence.  The row that counts as its last one may be the
next: a line behind the block that still goes on with a container of it takes the block to its own row.
-/

namespace DocPager.Markdown

/-- The rows of a fenced block. -/
structure Extent where
  /-- The row of the opening fence. -/
  opening : Nat
  /-- The row of the last line of the block, the closing fence if it is closed. -/
  last : Nat
  closed : Bool
  /-- The row of the line behind the block, if that line goes on with a container of the block. -/
  carried : Option Nat
  deriving DecidableEq, Repr

namespace Extent

/-- The row that counts as the last one. -/
def lastRow (e : Extent) : Nat := e.carried.getD e.last

/-- Whether a row has code of the block. -/
def IsCode (e : Extent) (row : Nat) : Prop :=
  e.opening < row ∧ if e.closed then row < e.last else row ≤ e.last

/-- The rows of a block follow each other. -/
structure Ordered (e : Extent) : Prop where
  opening : e.opening ≤ e.last
  last : e.last ≤ e.lastRow

end Extent

/-- Whether the last line was a closing fence. -/
def Leaf.isClosed : Leaf → Bool
  | .closedFence _ => true
  | _ => false

namespace Reading

/-- The row of the next line, if that goes on with a container. -/
def carried? (r : Reading) (next : Option Line) : Option Nat :=
  next.bind fun line => if (r.behind line).taken.isEmpty then none else some line.row

/-- The fenced block under way, if the next line does not belong to it. -/
def extent? (r : Reading) (next : Option Line) : Option Extent :=
  r.leaf.fenceRow?.map fun row =>
    { opening := row, last := r.previous.getD row, closed := r.leaf.isClosed, carried := r.carried? next }

/-- The fenced block under way and those that the lines to come open. -/
def extentsFrom (r : Reading) : List Line → List Extent
  | [] => (r.extent? none).toList
  | line :: rest =>
    (if r.staysIn line then [] else (r.extent? (some line)).toList) ++ (r.read line).extentsFrom rest

/-! ## Closing fences -/

theorem isClosed_enter (r : Reading) (containers : List Container) (start : Start) (c : Cursor)
    (line : Line) : (r.enter containers start c line).leaf.isClosed = false := by
  cases start with
  | blank | text | indented | thematicBreak | heading _ _ => rfl
  | html kind =>
    rw [enter]
    cases kind.endsAtOnce c.body <;> rfl
  | fence fence info =>
    rw [enter]
    cases line.isTerminated <;> rfl

theorem isClosed_of_fenceRow {leaf : Leaf} (h : leaf.fenceRow? = none) : leaf.isClosed = false := by
  cases leaf with
  | closedFence f => cases h
  | _ => rfl

theorem isClosed_resume {r : Reading} (hleaf : r.leaf.fenceRow? = none) (held : List Container)
    (all : Bool) (c : Cursor) (line : Line) : (r.resume held all c line).leaf.isClosed = false := by
  rcases resume_cases r held all c line with ⟨containers, leaf, hresume, hkept⟩ |
    ⟨containers, steps, inParagraph, inner, hresume⟩
  · rw [hresume]
    rcases hkept with rfl | hnone
    · exact isClosed_of_fenceRow hleaf
    · exact isClosed_of_fenceRow hnone
  · rw [hresume]
    exact isClosed_enter r containers _ inner line

/-- A line of a fenced block closes it if it is a fence that does and is not indented too far. -/
def Closes (r : Reading) (line : Line) : Prop :=
  r.staysIn line = true ∧ (r.behind line).indent ≤ Container.maxIndent ∧
    ∃ f, r.leaf = .fence f ∧ f.fence.closedBy (r.behind line).body = true

theorem leaf_read_of_staysIn {r : Reading} {f : OpenFence} (hleaf : r.leaf = .fence f) {line : Line}
    (h : r.staysIn line = true) :
    (r.read line).leaf =
      if (r.behind line).indent ≤ Container.maxIndent && f.fence.closedBy (r.behind line).body then
        .closedFence (f.endAt (r.behind line).taken)
      else .fence (f.extend (r.behind line) line) := by
  obtain ⟨previous, containers, leaf, blocks⟩ := r
  obtain rfl : leaf = .fence f := hleaf
  have hall : (Container.continueAll containers (.ofLine line.text)).1.length == containers.length :=
    h
  unfold read
  dsimp only
  rw [if_pos hall]
  rfl

theorem isClosed_read_of_leaves {r : Reading} {line : Line} (h : r.staysIn line = false) :
    (r.read line).leaf.isClosed = false := by
  rcases read_inversion r line with ⟨containers, leaf, hread, hleaf, hnone | hstays⟩ |
    ⟨q, held, all, c, hread, hnone, -, -⟩
  · rw [hread]
    exact isClosed_of_fenceRow (hleaf.trans hnone)
  · rw [h] at hstays
    cases hstays
  · rw [hread]
    exact isClosed_resume hnone held all c line

theorem isClosed_read_iff (r : Reading) (line : Line) :
    (r.read line).leaf.isClosed = true ↔ r.Closes line := by
  cases hstays : r.staysIn line with
  | false => simp [Closes, hstays, isClosed_read_of_leaves hstays]
  | true =>
    obtain ⟨f, hleaf⟩ : ∃ f, r.leaf = .fence f := by
      unfold staysIn at hstays
      split at hstays
      · next f hleaf => exact ⟨f, hleaf⟩
      · cases hstays
    rw [leaf_read_of_staysIn hleaf hstays, Closes, hleaf]
    split
    · next hcloses =>
      rw [Bool.and_eq_true, decide_eq_true_eq] at hcloses
      exact ⟨fun _ => ⟨hstays, hcloses.1, f, rfl, hcloses.2⟩, fun _ => rfl⟩
    · next hopen =>
      rw [Bool.and_eq_true, decide_eq_true_eq] at hopen
      refine ⟨nofun, fun h => ?_⟩
      obtain ⟨-, hindent, g, hg, hmarks⟩ := h
      obtain rfl : f = g := Leaf.fence.inj hg
      exact absurd ⟨hindent, hmarks⟩ hopen

/-! ## The blocks and their rows -/

theorem spans_read (r : Reading) (line : Line) :
    (r.read line).spans = if r.staysIn line then r.spans else r.endedSpans (r.lastRow line) := by
  rcases read_inversion r line with ⟨containers, leaf, hread, -, hnone | hstays⟩ |
    ⟨q, held, all, c, hread, hnone, hends, hleaves⟩
  · rw [hread, endedSpans, hnone]
    exact (ite_self _).symm
  · rw [hread, if_pos hstays]
    rfl
  · have hnext := (goesOn_resume hnone held all c line).spans_eq
    have hspans : q.spans = _ := hends.spans
    rw [hspans] at hnext
    rw [hread, if_neg (ne_true_of_eq_false hleaves)]
    exact hnext

/-- The block under way is the last one to be listed. -/
theorem reverse_endedSpans {r : Reading} {next : Option Line} {last : Nat → Nat}
    (h : ∀ e ∈ r.extent? next, e.lastRow = last e.opening) :
    (r.endedSpans last).reverse =
      r.spans.reverse ++ (r.extent? next).toList.map fun e => (e.opening, e.lastRow) := by
  unfold extent? at h ⊢
  rw [endedSpans]
  cases hrow : r.leaf.fenceRow? with
  | none => exact (List.append_nil _).symm
  | some row =>
    rw [hrow] at h
    rw [Option.map_some, Option.toList_some, List.map_singleton, h _ rfl, List.reverse_cons]

theorem lastRow_of_mem_extent? {r : Reading} {line : Line} :
    ∀ e ∈ r.extent? (some line), e.lastRow = r.lastRow line e.opening := by
  intro e he
  obtain ⟨row, -, rfl⟩ := Option.map_eq_some_iff.mp he
  show ((r.carried? (some line)).getD (r.previous.getD row)) = r.lastRow line row
  rw [carried?, Option.bind_some, Reading.lastRow]
  split <;> rfl

theorem spans_foldl (r : Reading) (lines : List Line) :
    (lines.foldl read r).finish.filterMap Block.span? =
      r.spans.reverse ++ (r.extentsFrom lines).map fun e => (e.opening, e.lastRow) := by
  induction lines generalizing r with
  | nil =>
    have hlast : ∀ e ∈ r.extent? none, e.lastRow = r.previous.getD e.opening := by
      intro e he
      obtain ⟨row, -, rfl⟩ := Option.map_eq_some_iff.mp he
      rfl
    rw [List.foldl_nil, spans_finish, reverse_endedSpans hlast, extentsFrom]
  | cons line rest ih =>
    rw [List.foldl_cons, ih, spans_read, extentsFrom, List.map_append, ← List.append_assoc]
    congr 1
    split
    · rw [List.map_nil, List.append_nil]
    · exact reverse_endedSpans lastRow_of_mem_extent?

/-- The line behind the block under way is not above it. -/
theorem Ordered.extent {r : Reading} (hr : r.Ordered) {next : Option Line}
    (hnext : ∀ p ∈ r.previous, ∀ l ∈ next, p ≤ l.row) : ∀ e ∈ r.extent? next, e.Ordered := by
  intro e he
  obtain ⟨row, hrow, rfl⟩ := Option.map_eq_some_iff.mp he
  obtain ⟨⟨p, hp, hle⟩, -⟩ := hr.current row hrow
  rw [hp]
  refine ⟨hle, ?_⟩
  show p ≤ (r.carried? next).getD p
  cases hcarried : r.carried? next with
  | none => exact Nat.le_refl p
  | some carried =>
    obtain ⟨l, hl, hrow⟩ := Option.bind_eq_some_iff.mp hcarried
    split at hrow
    · cases hrow
    · obtain rfl := Option.some.inj hrow
      exact hnext p hp l hl

theorem ordered_of_mem_extentsFrom {r : Reading} (hr : r.Ordered) {lines : List Line}
    (hprevious : ∀ p ∈ r.previous, ∀ l ∈ lines, p ≤ l.row) (hlines : lines.Pairwise (·.row ≤ ·.row)) :
    ∀ e ∈ r.extentsFrom lines, e.Ordered := by
  induction lines generalizing r with
  | nil =>
    intro e he
    rw [extentsFrom, Option.mem_toList] at he
    exact hr.extent (fun _ _ l (hl : l ∈ none) => nomatch hl) e he
  | cons line rest ih =>
    rw [List.pairwise_cons] at hlines
    have hline : ∀ p ∈ r.previous, p ≤ line.row := fun p hp => hprevious p hp line List.mem_cons_self
    intro e he
    rw [extentsFrom, List.mem_append] at he
    rcases he with he | he
    · split at he
      · cases he
      · rw [Option.mem_toList] at he
        refine hr.extent (fun p hp l (hl : l ∈ some line) => ?_) e he
        obtain rfl := Option.some.inj hl
        exact hline p hp
    · exact ih (hr.read hline) (of_mem_previous_read hlines.1) hlines.2 e he

/-- A block is listed behind the lines that it takes. -/
theorem exists_extent_of_mem_extentsFrom {r : Reading} {lines : List Line} {e : Extent}
    (he : e ∈ r.extentsFrom lines) :
    ∃ before after, lines = before ++ after ∧ (before.foldl read r).extent? after.head? = some e := by
  induction lines generalizing r with
  | nil =>
    rw [extentsFrom, Option.mem_toList] at he
    exact ⟨[], [], rfl, he⟩
  | cons line rest ih =>
    rw [extentsFrom, List.mem_append] at he
    rcases he with he | he
    · split at he
      · cases he
      · rw [Option.mem_toList] at he
        exact ⟨[], line :: rest, rfl, he⟩
    · obtain ⟨before, after, rfl, hextent⟩ := ih he
      exact ⟨line :: before, after, rfl, hextent⟩

theorem closed_of_extent? {r : Reading} {line : Line} {next : Option Line} {e : Extent}
    (h : (r.read line).extent? next = some e) :
    line.row = e.last ∧ (e.closed = true ↔ r.Closes line) := by
  obtain ⟨row, -, rfl⟩ := Option.map_eq_some_iff.mp h
  exact ⟨rfl, isClosed_read_iff r line⟩

end Reading

/-! ## Pages -/

/-- The rows of the fenced blocks of a page, in the order in which they start. -/
def extents (source : List Char) : List Extent := (bodyStart source).extentsFrom (bodyLines source)

theorem spans_blocks_eq_extents (source : List Char) :
    (blocks source).filterMap Block.span? = (extents source).map fun e => (e.opening, e.lastRow) := by
  rw [blocks_eq_finish, bodyEnd, Reading.spans_foldl]
  rfl

theorem ordered_of_mem_extents (source : List Char) : ∀ e ∈ extents source, e.Ordered := by
  refine Reading.ordered_of_mem_extentsFrom (ordered_bodyStart source) (fun p hp l _ => ?_)
    (pairwise_row_bodyLines source)
  rw [previous_bodyStart source p hp]
  exact Nat.zero_le l.row

/-- The lines of a page up to the end of a block and those behind it.  The block is closed if the last of
its lines closes it. -/
structure EndsBetween (source : List Char) (before after : List Line) (e : Extent) : Prop where
  lines : bodyLines source = before ++ after
  extent : (before.foldl Reading.read (bodyStart source)).extent? after.head? = some e
  closed_iff : e.closed = true ↔ ∃ earlier line, before = earlier ++ [line] ∧ line.row = e.last ∧
    (earlier.foldl Reading.read (bodyStart source)).Closes line

theorem exists_endsBetween {source : List Char} {e : Extent} (he : e ∈ extents source) :
    ∃ before after, EndsBetween source before after e := by
  obtain ⟨before, after, hlines, hextent⟩ := Reading.exists_extent_of_mem_extentsFrom he
  refine ⟨before, after, hlines, hextent, ?_⟩
  rcases List.eq_nil_or_concat before with rfl | ⟨earlier, line, hbefore⟩
  · -- before the first line there is no block
    cases hextent
  · rw [List.concat_eq_append] at hbefore
    subst hbefore
    rw [List.foldl_append, List.foldl_cons, List.foldl_nil] at hextent
    obtain ⟨hlast, hclosed⟩ := Reading.closed_of_extent? hextent
    rw [hclosed]
    constructor
    · exact fun hcloses => ⟨earlier, line, rfl, hlast, hcloses⟩
    · rintro ⟨others, other, hsame, -, hcloses⟩
      obtain ⟨rfl, hline⟩ := List.append_inj' hsame rfl
      obtain rfl := List.singleton_inj.mp hline
      exact hcloses

end DocPager.Markdown
