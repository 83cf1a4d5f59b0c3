import DocPager.Markdown.Block
import DocPager.Proofs.Markdown.Lines

/-!
The lines of a page that are read for blocks: those behind the byte order mark and the front matter.
-/

namespace DocPager.Markdown

/-- The source without a byte order mark. -/
def withoutMark (source : List Char) : List Char :=
  if source.head? = some byteOrderMark then source.tail else source

/-- The lines behind the front matter. -/
def bodyLines (source : List Char) : List Line := skipFrontMatter (lines (withoutMark source))

/-- The state before the first of them. -/
def bodyStart (source : List Char) : Reading :=
  { Reading.start with
    previous := if (bodyLines source).length == (lines (withoutMark source)).length then none else some 0 }

/-- The state behind the last of them. -/
def bodyEnd (source : List Char) : Reading :=
  (bodyLines source).foldl Reading.read (bodyStart source)

theorem blocks_eq_finish (source : List Char) : blocks source = (bodyEnd source).finish := rfl

/-! ## The row of the line before -/

namespace Reading

theorem of_mem_previous_read {r : Reading} {line : Line} {P : Nat → Prop} (h : P line.row) :
    ∀ p ∈ (r.read line).previous, P p := by
  intro p hp
  obtain rfl : line.row = p := Option.some.inj hp
  exact h

theorem of_mem_previous_foldl {r : Reading} {lines : List Line} {P : Nat → Prop}
    (h : ∀ p ∈ r.previous, P p) (hlines : ∀ l ∈ lines, P l.row) :
    ∀ p ∈ (lines.foldl Reading.read r).previous, P p := by
  induction lines generalizing r with
  | nil => exact h
  | cons line rest ih =>
    rw [List.forall_mem_cons] at hlines
    exact ih (of_mem_previous_read hlines.1) hlines.2

/-- What every line that comes in its place keeps, all lines in order keep. -/
theorem foldl_induction {P : Reading → Prop} {R : Nat → Nat → Prop}
    (hread : ∀ (r : Reading) (line : Line), (∀ p ∈ r.previous, R p line.row) → P r → P (r.read line))
    {r : Reading} {lines : List Line} (hprevious : ∀ p ∈ r.previous, ∀ l ∈ lines, R p l.row)
    (hlines : lines.Pairwise fun l m => R l.row m.row) (h : P r) : P (lines.foldl read r) := by
  induction lines generalizing r with
  | nil => exact h
  | cons line rest ih =>
    rw [List.pairwise_cons] at hlines
    have hnext := hread r line (fun p hp => hprevious p hp line List.mem_cons_self) h
    exact ih (of_mem_previous_read hlines.1) hlines.2 hnext

end Reading

/-! ## Front matter -/

/-- The lines behind front matter between fences of `mark`. -/
def behind? (mark : Char) (first : Line) (rest : List Line) : Option (List Line) :=
  if isFrontMatterFence mark first then
    match rest.dropWhile fun l => !isFrontMatterFence mark l with
    | _ :: lines => some lines
    | [] => none
  else none

theorem skipFrontMatter_eq (first : Line) (rest : List Line) :
    skipFrontMatter (first :: rest) =
      ((behind? '-' first rest).orElse fun _ => behind? '+' first rest).getD (first :: rest) := rfl

theorem sublist_of_behind {mark : Char} {first : Line} {rest found : List Line}
    (h : behind? mark first rest = some found) : found.Sublist rest := by
  rw [behind?] at h
  split at h
  · split at h
    · next l lines hdrop =>
      obtain rfl := Option.some.inj h
      have hsuffix : (l :: lines).Sublist rest := hdrop ▸ List.dropWhile_sublist _
      exact (List.sublist_cons_self l lines).trans hsuffix
    · exact absurd h (by simp)
  · exact absurd h (by simp)

theorem skipFrontMatter_cases (lines : List Line) :
    skipFrontMatter lines = lines ∨
      ∃ first rest, lines = first :: rest ∧ (skipFrontMatter lines).Sublist rest := by
  cases lines with
  | nil => exact Or.inl rfl
  | cons first rest =>
    rw [skipFrontMatter_eq]
    cases hminus : behind? '-' first rest with
    | some found => exact Or.inr ⟨first, rest, rfl, sublist_of_behind hminus⟩
    | none =>
      cases hplus : behind? '+' first rest with
      | some found => exact Or.inr ⟨first, rest, rfl, sublist_of_behind hplus⟩
      | none => exact Or.inl rfl

theorem isFrontMatterFence_eq_false {mark : Char} {l : Line} (h : mark ∉ l.text.head?) :
    isFrontMatterFence mark l = false := by
  have htake : (l.text.take 3 == [mark, mark, mark]) = false := by
    rw [beq_eq_false_iff_ne]
    intro heq
    cases htext : l.text with
    | nil => simp [htext] at heq
    | cons c rest =>
      rw [htext, List.take_succ_cons] at heq
      rw [htext] at h
      exact h (congrArg some (List.cons.inj heq).1)
  simp [isFrontMatterFence, htake]

theorem skipFrontMatter_cons {first : Line} {rest : List Line}
    (hminus : isFrontMatterFence '-' first = false) (hplus : isFrontMatterFence '+' first = false) :
    skipFrontMatter (first :: rest) = first :: rest := by
  simp [skipFrontMatter, hminus, hplus]

/-- A page is read from its first line on unless that line looks like something else. -/
theorem blocks_ended {first : List Char} {rest : List (List Char)}
    (h : ∀ t ∈ first :: rest, IsUnbroken t)
    (hfirst : ∀ c ∈ first.head?, c ≠ byteOrderMark ∧ c ≠ '-' ∧ c ≠ '+') :
    blocks (ended (first :: rest)) =
      ((linesOf 0 (first :: rest)).foldl Reading.read Reading.start).finish := by
  have hmark : (ended (first :: rest)).head? ≠ some byteOrderMark := by
    rw [ended_cons]
    cases first with
    | nil => exact fun heq => absurd (Option.some.inj heq) (by decide)
    | cons c text => exact fun heq => (hfirst c rfl).1 (Option.some.inj heq)
  have hlines : lines (ended (first :: rest)) = linesOf 0 (first :: rest) := linesFrom_ended h 0
  have hskip : skipFrontMatter (linesOf 0 (first :: rest)) = linesOf 0 (first :: rest) :=
    skipFrontMatter_cons (isFrontMatterFence_eq_false fun hc => (hfirst _ hc).2.1 rfl)
      (isFrontMatterFence_eq_false fun hc => (hfirst _ hc).2.2 rfl)
  simp only [blocks, if_neg hmark, hlines, hskip, beq_self_eq_true, if_true]
  rfl

/-! ## Rows -/

theorem not_hasLoneReturn_withoutMark {source : List Char} (h : ¬HasLoneReturn source) :
    ¬HasLoneReturn (withoutMark source) := by
  rw [withoutMark]
  split
  · cases source with
    | nil => exact h
    | cons c rest => exact fun hrest => h (hrest.cons c)
  · exact h

theorem sublist_bodyLines (source : List Char) :
    (bodyLines source).Sublist (lines (withoutMark source)) := by
  rcases skipFrontMatter_cases (lines (withoutMark source)) with h | ⟨first, rest, hlines, h⟩
  · exact h.symm ▸ List.Sublist.refl (lines (withoutMark source))
  · rw [hlines] at h
    rw [bodyLines, hlines]
    exact h.trans (List.sublist_cons_self first rest)

theorem previous_bodyStart (source : List Char) : ∀ p ∈ (bodyStart source).previous, p = 0 := by
  intro p hp
  simp only [bodyStart] at hp
  split at hp
  · exact absurd hp (by simp)
  · exact (Option.some.inj hp).symm

/-- The row that counts as read before the body is that of the front matter. -/
theorem exists_cons_of_mem_previous_bodyStart {source : List Char} {p : Nat}
    (hp : p ∈ (bodyStart source).previous) :
    ∃ first rest, lines (withoutMark source) = first :: rest ∧ (bodyLines source).Sublist rest := by
  rcases skipFrontMatter_cases (lines (withoutMark source)) with hsame | hfront
  · simp only [bodyStart, bodyLines, hsame, beq_self_eq_true, if_true] at hp
    exact absurd hp (by simp)
  · exact hfront

theorem pairwise_row_bodyLines (source : List Char) :
    (bodyLines source).Pairwise (·.row ≤ ·.row) :=
  (pairwise_row_linesFrom 0 [] _).sublist (sublist_bodyLines source)

theorem bodyEnd_induction {P : Reading → Prop}
    (hread : ∀ (r : Reading) (line : Line), (∀ p ∈ r.previous, p ≤ line.row) → P r → P (r.read line))
    {source : List Char} (h : P (bodyStart source)) : P (bodyEnd source) := by
  refine Reading.foldl_induction hread (fun p hp l _ => ?_) (pairwise_row_bodyLines source) h
  rw [previous_bodyStart source p hp]
  exact Nat.zero_le l.row

theorem row_lt_of_mem_lines {source : List Char} {l : Line} (h : l ∈ lines (withoutMark source)) :
    l.row < (Text.rows source).length := by
  have hlt : ∀ before, l.row < 0 + (Text.rowsFrom before (withoutMark source)).length :=
    fun before => row_lt_of_mem_linesFrom (fun hne => absurd rfl hne) h
  cases source with
  | nil => exact absurd h List.not_mem_nil
  | cons c rest =>
    by_cases hc : c = byteOrderMark
    · -- The mark is a part of the first row, although it is of no line.
      have hmark : withoutMark (c :: rest) = rest := by simp [withoutMark, hc]
      have hrows := hlt [c]
      rw [hmark, Nat.zero_add, ← rowsFrom_cons (by rw [hc]; decide)] at hrows
      exact hrows
    · have hsame : withoutMark (c :: rest) = c :: rest := by simp [withoutMark, hc]
      have hrows := hlt []
      rw [hsame, Nat.zero_add] at hrows
      exact hrows

/-- A page is read to one of its rows, if any of it is read. -/
theorem previous_bodyEnd_lt (source : List Char) :
    ∀ p ∈ (bodyEnd source).previous, p < (Text.rows source).length := by
  refine Reading.of_mem_previous_foldl (fun p hp => ?_) fun l hl => ?_
  · obtain ⟨first, rest, hlines, -⟩ := exists_cons_of_mem_previous_bodyStart hp
    have hfirst : first ∈ lines (withoutMark source) := hlines ▸ List.mem_cons_self
    rw [previous_bodyStart source p hp]
    exact Nat.zero_lt_of_lt (row_lt_of_mem_lines hfirst)
  · exact row_lt_of_mem_lines ((sublist_bodyLines source).subset hl)

theorem previous_lt_row_of_mem_bodyLines {source : List Char} (h : ¬HasLoneReturn source) :
    ∀ p ∈ (bodyStart source).previous, ∀ l ∈ bodyLines source, p < l.row := by
  intro p hp l hl
  obtain ⟨first, rest, hlines, hrest⟩ := exists_cons_of_mem_previous_bodyStart hp
  have hrows := pairwise_row_linesFrom_of_not_hasLoneReturn (not_hasLoneReturn_withoutMark h) 0 []
  rw [show linesFrom 0 [] (withoutMark source) = first :: rest from hlines, List.pairwise_cons] at hrows
  have := hrows.1 l (hrest.subset hl)
  rw [previous_bodyStart source p hp]
  omega

end DocPager.Markdown
