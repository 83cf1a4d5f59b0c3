import DocPager.Proofs.Markdown.Read

/-!
The headings of a page.  A line adds one of them at most, on its own row and with the level that its
number signs give; so their rows never go back.
-/

namespace DocPager.Markdown

/-- The level and the row of a heading. -/
def Block.mark? : Block → Option (Nat × Nat)
  | .heading level row _ => some (level, row)
  | .fenced .. => none

def IsLevel (n : Nat) : Prop := 1 ≤ n ∧ n ≤ 6

/-! ## Levels -/

theorem isLevel_of_heading {body title : List Char} {level : Nat}
    (h : heading? body = some (level, title)) : IsLevel level := by
  unfold heading? at h
  extract_lets n rest at h
  split at h
  · next hcond =>
    obtain ⟨rfl, -⟩ := Prod.mk.inj (Option.some.inj h)
    simp only [Bool.and_eq_true, decide_eq_true_eq] at hcond
    exact hcond.1
  · cases h

theorem isLevel_of_leafStart {inParagraph : Bool} {body title : List Char} {level : Nat}
    (h : leafStart? inParagraph body = some (.heading level title)) : IsLevel level := by
  unfold leafStart? at h
  split at h
  · next hheading =>
    cases h
    exact isLevel_of_heading hheading
  · split at h
    · cases h
    · split at h
      · cases h
      · split at h <;> cases h

theorem isLevel_of_openAll {steps : Nat} {inParagraph near : Bool} {c : Cursor} {level : Nat}
    {title : List Char} (h : (openAll steps inParagraph near c).2.1 = .heading level title) :
    IsLevel level := by
  induction steps generalizing inParagraph near c with
  | zero => cases h
  | succ steps ih =>
    rw [openAll] at h
    split at h
    · cases h
    split at h
    · cases inParagraph <;> cases h
    split at h
    · exact ih h
    split at h
    · next hleaf =>
      obtain rfl : _ = Start.heading level title := h
      exact isLevel_of_leafStart hleaf
    split at h
    · exact ih h
    · cases h

/-! ## What a line adds -/

namespace Reading

/-- The levels and the rows of the headings found, newest first. -/
def marks (r : Reading) : List (Nat × Nat) := r.blocks.filterMap Block.mark?

/-- The headings are the given ones, with at most one more before them, on `row`. -/
def MarksOn (marks : List (Nat × Nat)) (row : Nat) (next : Reading) : Prop :=
  next.marks = marks ∨ ∃ level, IsLevel level ∧ next.marks = (level, row) :: marks

theorem marksOn_enter (r : Reading) (containers : List Container) {start : Start} (c : Cursor)
    (line : Line) (hstart : ∀ level title, start = .heading level title → IsLevel level) :
    MarksOn r.marks line.row (r.enter containers start c line) := by
  cases start with
  | heading level title =>
    have hmarks : (r.enter containers (.heading level title) c line).marks =
        List.filterMap Block.mark?
          ((if r.headingCounts containers title line then [.heading level line.row title] else []) ++
            r.blocks) := rfl
    rw [MarksOn, hmarks]
    split
    · exact .inr ⟨level, hstart level title rfl, rfl⟩
    · exact .inl rfl
  | _ => exact .inl rfl

theorem marksOn_resume (r : Reading) (held : List Container) (all : Bool) (c : Cursor)
    (line : Line) : MarksOn r.marks line.row (r.resume held all c line) := by
  rcases resume_cases r held all c line with ⟨containers, leaf, hresume, -⟩ |
    ⟨containers, steps, inParagraph, inner, hresume⟩
  · rw [hresume]
    exact .inl rfl
  · rw [hresume]
    exact marksOn_enter r containers inner line fun level title hstart => isLevel_of_openAll hstart

theorem Ends.marks {r : Reading} {line : Line} {blocks : List Block} (h : r.Ends line blocks) :
    blocks.filterMap Block.mark? = r.marks := by
  rcases h with ⟨-, rfl⟩ | ⟨f, -, rfl⟩
  · rfl
  · rfl

theorem marksOn_read (r : Reading) (line : Line) : MarksOn r.marks line.row (r.read line) := by
  rcases read_inversion r line with ⟨containers, leaf, hread, -⟩ | ⟨q, held, all, c, hread, -, hends, -⟩
  · rw [hread]
    exact .inl rfl
  · have hnext := marksOn_resume q held all c line
    have hmarks : q.marks = _ := hends.marks
    rw [hmarks] at hnext
    rw [hread]
    exact hnext

theorem marks_finish (r : Reading) : r.finish.filterMap Block.mark? = r.marks.reverse := by
  obtain ⟨previous, containers, leaf, blocks⟩ := r
  cases leaf <;> exact List.filterMap_reverse

/-! ## The order of the headings -/

/-- The headings found come down the page, no further than the line read last. -/
structure Descends (r : Reading) : Prop where
  levels : ∀ m ∈ r.marks, IsLevel m.1
  rows : r.marks.Pairwise fun later earlier => earlier.2 ≤ later.2
  past : ∀ m ∈ r.marks, ∃ p, r.previous = some p ∧ m.2 ≤ p

theorem Descends.read {r : Reading} (h : r.Descends) {line : Line}
    (hline : ∀ p ∈ r.previous, p ≤ line.row) : (r.read line).Descends := by
  have hpast : ∀ m ∈ r.marks, m.2 ≤ line.row := by
    intro m hm
    obtain ⟨p, hp, hle⟩ := h.past m hm
    exact Nat.le_trans hle (hline p hp)
  rcases marksOn_read r line with hsame | ⟨level, hlevel, hmore⟩
  · refine ⟨?_, ?_, ?_⟩ <;> rw [hsame]
    · exact h.levels
    · exact h.rows
    · exact fun m hm => ⟨line.row, rfl, hpast m hm⟩
  · refine ⟨?_, ?_, ?_⟩ <;> rw [hmore]
    · exact List.forall_mem_cons.mpr ⟨hlevel, h.levels⟩
    · exact List.pairwise_cons.mpr ⟨hpast, h.rows⟩
    · exact List.forall_mem_cons.mpr
        ⟨⟨line.row, rfl, Nat.le_refl _⟩, fun m hm => ⟨line.row, rfl, hpast m hm⟩⟩

end Reading

/-! ## Pages -/

theorem marks_blocks_eq (source : List Char) :
    (blocks source).filterMap Block.mark? = (bodyEnd source).marks.reverse := by
  rw [blocks_eq_finish, Reading.marks_finish]

theorem descends_bodyEnd (source : List Char) : (bodyEnd source).Descends :=
  bodyEnd_induction (fun _ _ hline h => h.read hline)
    ⟨fun _ h => absurd h List.not_mem_nil, List.Pairwise.nil, fun _ h => absurd h List.not_mem_nil⟩

theorem marks_blocks (source : List Char) :
    let marks := (blocks source).filterMap Block.mark?
    (∀ m ∈ marks, IsLevel m.1 ∧ m.2 < (Text.rows source).length) ∧
      marks.Pairwise fun earlier later => earlier.2 ≤ later.2 := by
  intro marks
  have hend := descends_bodyEnd source
  have hmarks : marks = _ := marks_blocks_eq source
  rw [hmarks, List.pairwise_reverse]
  refine ⟨fun m hm => ?_, hend.rows⟩
  rw [List.mem_reverse] at hm
  obtain ⟨p, hp, hle⟩ := hend.past m hm
  exact ⟨hend.levels m hm, Nat.lt_of_le_of_lt hle (previous_bodyEnd_lt source p hp)⟩

end DocPager.Markdown
