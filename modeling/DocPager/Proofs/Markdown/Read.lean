import DocPager.Proofs.Markdown.Body

/-!
What one line does to the state of reading.  It goes on with the fenced, indented or HTML block under
way, or else that block ends and the line is read on as one that belongs to none.
-/

namespace DocPager.Markdown

/-- The row of the opening fence of a block under way. -/
def Leaf.fenceRow? : Leaf → Option Nat
  | .fence f | .closedFence f => some f.row
  | _ => .none

theorem Leaf.fenceRow?_ite {p : Prop} [Decidable p] {a b : Leaf} {row : Option Nat}
    (ha : a.fenceRow? = row) (hb : b.fenceRow? = row) : (if p then a else b).fenceRow? = row := by
  split
  · exact ha
  · exact hb

theorem OpenFence.row_endAt (f : OpenFence) (carried : List Char) : (f.endAt carried).row = f.row := by
  rw [OpenFence.endAt]
  split <;> rfl

namespace Reading

/-- The cursor of a line behind the containers that it continues. -/
def behind (r : Reading) (line : Line) : Cursor :=
  (Container.continueAll r.containers (.ofLine line.text)).2

/-- Whether a line belongs to the fenced block under way: it continues the containers around that. -/
def staysIn (r : Reading) (line : Line) : Bool :=
  match r.leaf with
  | .fence _ =>
    (Container.continueAll r.containers (.ofLine line.text)).1.length == r.containers.length
  | _ => false

/-- The last row of the block under way, which starts on `row`, if `line` ends it. -/
def lastRow (r : Reading) (line : Line) (row : Nat) : Nat :=
  if (r.behind line).taken.isEmpty then r.previous.getD row else line.row

/-- The blocks are those of `r`, with the fenced block under way if `line` ends one. -/
def Ends (r : Reading) (line : Line) (blocks : List Block) : Prop :=
  r.leaf.fenceRow? = none ∧ blocks = r.blocks ∨
    ∃ f : OpenFence, r.leaf.fenceRow? = some f.row ∧
      blocks = f.block (r.lastRow line f.row) :: r.blocks

theorem resume_cases (r : Reading) (held : List Container) (all : Bool) (c : Cursor) (line : Line) :
    (∃ containers leaf, r.resume held all c line = { r with containers, leaf } ∧
      (leaf = r.leaf ∨ leaf.fenceRow? = none)) ∨
      ∃ containers steps inParagraph inner,
        r.resume held all c line =
          r.enter containers (openAll steps inParagraph all c).2.1 inner line := by
  unfold resume
  extract_lets inParagraph
  split
  · exact .inl ⟨held, .none, rfl, .inr rfl⟩
  split
  next opened start inner hopen =>
  have hentered : ∀ containers, ∃ containers' steps inParagraph' inner',
      r.enter containers start inner line =
        r.enter containers' (openAll steps inParagraph' all c).2.1 inner' line :=
    fun containers => ⟨containers, c.rest.length + 1, inParagraph, inner, by rw [hopen]⟩
  split
  · split
    · exact .inl ⟨r.containers, r.leaf, rfl, .inl rfl⟩
    · exact .inl ⟨held, _, rfl, .inr (Leaf.fenceRow?_ite rfl rfl)⟩
    · exact .inl ⟨held, r.leaf, rfl, .inl rfl⟩
    · exact .inr (hentered held)
  · exact .inr (hentered _)

theorem read_inversion (r : Reading) (line : Line) :
    (∃ containers leaf,
      r.read line = { previous := some line.row, containers, leaf, blocks := r.blocks } ∧
        leaf.fenceRow? = r.leaf.fenceRow? ∧ (r.leaf.fenceRow? = none ∨ r.staysIn line = true)) ∨
      ∃ (q : Reading) (held : List Container) (all : Bool) (c : Cursor),
        r.read line = { q.resume held all c line with previous := some line.row } ∧
          q.leaf.fenceRow? = none ∧ r.Ends line q.blocks ∧ r.staysIn line = false := by
  obtain ⟨previous, containers, leaf, blocks⟩ := r
  cases leaf with
  | none | paragraph text | table => exact .inr ⟨_, _, _, _, rfl, rfl, .inl ⟨rfl, rfl⟩, rfl⟩
  | indented =>
    unfold read
    dsimp only
    split
    · exact .inl ⟨_, _, rfl, rfl, .inl rfl⟩
    · exact .inr ⟨_, _, _, _, rfl, rfl, .inl ⟨rfl, rfl⟩, rfl⟩
  | html kind =>
    unfold read
    dsimp only
    split
    · exact .inl ⟨_, _, rfl, Leaf.fenceRow?_ite rfl rfl, .inl rfl⟩
    · exact .inr ⟨_, _, _, _, rfl, rfl, .inl ⟨rfl, rfl⟩, rfl⟩
  | fence f =>
    unfold read
    dsimp only
    split
    · next hall =>
      exact .inl ⟨_, _, rfl, Leaf.fenceRow?_ite (congrArg some (f.row_endAt _)) rfl, .inr hall⟩
    · next hall =>
      have hrow := f.row_endAt (Container.continueAll containers (.ofLine line.text)).2.taken
      refine .inr ⟨_, _, _, _, rfl, rfl, .inr ⟨f.endAt _, congrArg some hrow.symm, ?_⟩,
        eq_false_of_ne_true hall⟩
      rw [hrow]
      rfl
  | closedFence f => exact .inr ⟨_, _, _, _, rfl, rfl, .inr ⟨f, rfl, rfl⟩, rfl⟩

end Reading

end DocPager.Markdown
