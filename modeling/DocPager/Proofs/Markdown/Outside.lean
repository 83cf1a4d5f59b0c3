import DocPager.Markdown.Block

/-!
What single lines do outside of all containers.  Between two blocks of a page it does not matter
what was read last: a heading, a text that starts with a letter, an empty line and an opening fence
all end the block before them.
-/

namespace DocPager.Markdown

theorem ne_of_isAlphanum {c d : Char} (hc : c.isAlphanum) (hd : d.isAlphanum = false) : c ≠ d := by
  intro heq
  rw [heq, hd] at hc
  exact absurd hc (by decide)

theorem ne_of_isAlpha {c d : Char} (hc : c.isAlpha) (hd : d.isAlphanum = false) : c ≠ d :=
  ne_of_isAlphanum (by rw [Char.isAlphanum, hc, Bool.true_or]) hd

theorem isDigit_of_isAlpha {c : Char} (hc : c.isAlpha) : c.isDigit = false := by
  rw [Bool.eq_false_iff]
  intro hd
  have hdigit : 48 ≤ c.toNat ∧ c.toNat ≤ 57 := Char.isDigit_iff_toNat.mp hd
  have hletter : (decide (65 ≤ c.val ∧ c.val ≤ 90) || (97 ≤ c.val && c.val ≤ 122)) = true := hc
  simp only [Bool.or_eq_true, Bool.and_eq_true, decide_eq_true_eq, UInt32.le_iff_toNat_le] at hletter
  change ((65 ≤ c.toNat ∧ c.toNat ≤ 90) ∨ (97 ≤ c.toNat ∧ c.toNat ≤ 122)) at hletter
  omega

theorem isBlank_eq_false {c : Char} (hs : c ≠ ' ') (ht : c ≠ '\t') : isBlank c = false := by
  simp [isBlank, hs, ht]

theorem isBlank_of_isAlpha {c : Char} (hc : c.isAlpha) : isBlank c = false :=
  isBlank_eq_false (ne_of_isAlpha hc rfl) (ne_of_isAlpha hc rfl)

/-! ## A text that starts with a visible character -/

section Visible

variable {c : Char} (hc : isBlank c = false) (rest : List Char)
include hc

theorem indent_ofLine : (Cursor.ofLine (c :: rest)).indent = 0 := by
  simp only [isBlank, Bool.or_eq_false_iff, decide_eq_false_iff_not] at hc
  show 0 + blankColumns 0 (c :: rest) = 0
  rw [blankColumns, if_neg hc.1, if_neg hc.2]

theorem body_ofLine : (Cursor.ofLine (c :: rest)).body = c :: rest :=
  List.dropWhile_cons_of_neg (by rw [hc]; exact Bool.false_ne_true)

theorem isBlankLine_ofLine : (Cursor.ofLine (c :: rest)).isBlankLine = false := by
  rw [Cursor.isBlankLine, body_ofLine hc rest]
  rfl

theorem readQuote?_ofLine (hquote : c ≠ '>') :
    Container.readQuote? (.ofLine (c :: rest)) = none := by
  simp [Container.readQuote?, body_ofLine hc rest, hquote]

/-- Only the marker of a quote is looked for before the start of a block. -/
theorem openAll_of_leafStart (hquote : c ≠ '>') {inParagraph : Bool} {start : Start}
    (h : leafStart? inParagraph (c :: rest) = some start) (near : Bool) (steps : Nat) :
    openAll (steps + 1) inParagraph near (.ofLine (c :: rest)) =
      ([], start, .ofLine (c :: rest)) := by
  have hindent := indent_ofLine hc rest
  rw [openAll, isBlankLine_ofLine hc rest, if_neg Bool.false_ne_true, if_neg (by omega),
    readQuote?_ofLine hc rest hquote]
  simp only [body_ofLine hc rest, h]

theorem openAll_text (hquote : c ≠ '>') {inParagraph near : Bool}
    (hleaf : leafStart? inParagraph (c :: rest) = none)
    (hmarker : Container.markerWidth? (inParagraph && near) (c :: rest) = none) (steps : Nat) :
    openAll (steps + 1) inParagraph near (.ofLine (c :: rest)) =
      ([], .text, .ofLine (c :: rest)) := by
  have hindent := indent_ofLine hc rest
  rw [openAll, isBlankLine_ofLine hc rest, if_neg Bool.false_ne_true, if_neg (by omega),
    readQuote?_ofLine hc rest hquote]
  simp only [body_ofLine hc rest, hleaf, hmarker]

end Visible

/-! ## A text that starts with a letter -/

/-- The first cell of a row starts with what is read of it. -/
theorem between_eq_cons (cell rest : List Char) :
    ∃ tail more, Table.between cell rest = (cell.reverse ++ tail) :: more := by
  induction rest generalizing cell with
  | nil => exact ⟨[], [], by rw [Table.between, List.append_nil]⟩
  | cons d rest ih =>
    rw [Table.between]
    split
    · exact ⟨[], Table.between [] rest, by rw [List.append_nil]⟩
    · obtain ⟨tail, more, h⟩ := ih (d :: cell)
      exact ⟨d :: tail, more, by rw [h, List.reverse_cons, List.append_assoc]; rfl⟩

section Letter

variable {c : Char} (hc : c.isAlpha) (rest : List Char)
include hc

theorem heading?_of_isAlpha : heading? (c :: rest) = none := by
  have hmark : (c == '#') = false := beq_eq_false_iff_ne.mpr (ne_of_isAlpha hc rfl)
  simp [heading?, hmark]

theorem open?_of_isAlpha : Fence.open? (c :: rest) = none := by
  have hmark : ¬(c = '\x60' ∨ c = '~') := by
    intro h
    rcases h with h | h
    · exact ne_of_isAlpha hc rfl h
    · exact ne_of_isAlpha hc rfl h
  rw [Fence.open?, if_neg (by simpa using hmark)]

theorem start?_of_isAlpha (b : Bool) : Html.start? b (c :: rest) = none := by
  have hmark : c ≠ '<' := ne_of_isAlpha hc rfl
  unfold Html.start?
  split <;> simp_all

theorem isThematicBreak_of_isAlpha : isThematicBreak (c :: rest) = false := by
  have h₁ : c ≠ '*' := ne_of_isAlpha hc rfl
  have h₂ : c ≠ '-' := ne_of_isAlpha hc rfl
  have h₃ : c ≠ '_' := ne_of_isAlpha hc rfl
  simp [isThematicBreak, h₁, h₂, h₃]

theorem isUnderline_of_isAlpha : isUnderline (c :: rest) = false := by
  have h₁ : c ≠ '=' := ne_of_isAlpha hc rfl
  have h₂ : c ≠ '-' := ne_of_isAlpha hc rfl
  simp [isUnderline, h₁, h₂]

theorem leafStart?_of_isAlpha (b : Bool) : leafStart? b (c :: rest) = none := by
  rw [leafStart?, heading?_of_isAlpha hc]
  simp only [open?_of_isAlpha hc, start?_of_isAlpha hc, isThematicBreak_of_isAlpha hc]
  rfl

/-- Without digits, hyphens, stars and plus signs at its start a text has no list marker. -/
theorem markerWidth?_of_isAlpha (b : Bool) : Container.markerWidth? b (c :: rest) = none := by
  have h₁ : c ≠ '-' := ne_of_isAlpha hc rfl
  have h₂ : c ≠ '*' := ne_of_isAlpha hc rfl
  have h₃ : c ≠ '+' := ne_of_isAlpha hc rfl
  simp [Container.markerWidth?, isDigit_of_isAlpha hc, h₁, h₂, h₃]

theorem isDelimiter_of_isAlpha : Table.isDelimiter (c :: rest) = false := by
  have hblank : (c :: rest).dropWhile isBlank = c :: rest :=
    List.dropWhile_cons_of_neg (by rw [isBlank_of_isAlpha hc]; exact Bool.false_ne_true)
  have hcolon : c ≠ ':' := ne_of_isAlpha hc rfl
  have hdash : (c == '-') = false := beq_eq_false_iff_ne.mpr (ne_of_isAlpha hc rfl)
  simp [Table.isDelimiter, hblank, hcolon, hdash]

/-- The first cell of the row starts with the letter, so it is not the delimiter of a column. -/
theorem isDelimiterRow_of_isAlpha (header : List Char) :
    Table.isDelimiterRow header (c :: rest) = false := by
  have hbar : c ≠ '|' := ne_of_isAlpha hc rfl
  obtain ⟨tail, more, hcells⟩ := between_eq_cons [c] rest
  have hfirst : Table.between [] (c :: rest) = (c :: tail) :: more := by
    rw [Table.between, if_neg hbar, hcells]
    rfl
  have hnot : Table.isDelimiter (c :: tail) = false := isDelimiter_of_isAlpha hc tail
  cases more with
  | nil => simp only [Table.isDelimiterRow, hfirst]; split <;> split <;> simp_all
  | cons _ _ => simp only [Table.isDelimiterRow, hfirst]; split <;> split <;> simp_all

end Letter

/-! ## Lines -/

namespace Reading

/-- Reading stands outside of containers and behind a block that any line may end. -/
structure IsOutside (r : Reading) : Prop where
  containers : r.containers = []
  leaf : r.leaf = .none ∨ (∃ text, r.leaf = .paragraph text) ∨ ∃ f, r.leaf = .closedFence f

theorem isOutside_start : start.IsOutside := ⟨rfl, Or.inl rfl⟩

/-- A block that was closed counts before the line is looked at, so what the line does depends on
the blocks there would be if it were the end of the page. -/
theorem read_of_resume {r : Reading} (hr : r.IsOutside) {line : Line} (next : List Block → Reading)
    (h : ∀ q : Reading, (q.leaf = .none ∨ ∃ text, q.leaf = .paragraph text) →
      { q.resume [] true (.ofLine line.text) line with previous := some line.row } = next q.blocks) :
    r.read line = next r.finish.reverse := by
  obtain ⟨previous, containers, leaf, blocks⟩ := r
  obtain rfl : containers = [] := hr.containers
  rcases hr.leaf with hleaf | ⟨text, hleaf⟩ | ⟨f, hleaf⟩
  · obtain rfl : leaf = .none := hleaf
    show _ = next blocks.reverse.reverse
    rw [List.reverse_reverse]
    exact h ⟨previous, [], .none, blocks⟩ (Or.inl rfl)
  · obtain rfl : leaf = .paragraph text := hleaf
    show _ = next blocks.reverse.reverse
    rw [List.reverse_reverse]
    exact h ⟨previous, [], .paragraph text, blocks⟩ (Or.inr ⟨text, rfl⟩)
  · obtain rfl : leaf = .closedFence f := hleaf
    show _ = next (f.block (previous.getD f.row) :: blocks).reverse.reverse
    rw [List.reverse_reverse]
    exact h ⟨previous, [], .none, f.block (previous.getD f.row) :: blocks⟩ (Or.inl rfl)

theorem resume_of_start {r : Reading} (hleaf : r.leaf = .none ∨ ∃ text, r.leaf = .paragraph text)
    {c : Cursor} {start : Start} (hunderline : isUnderline c.body = false)
    (hopen : ∀ b, openAll (c.rest.length + 1) b true c = ([], start, c)) (hstart : start ≠ .text)
    (line : Line) : r.resume [] true c line = r.enter [] start c line := by
  have htext : (start == Start.text) = false := beq_eq_false_iff_ne.mpr hstart
  rcases hleaf with h | ⟨text, h⟩
  · simp [resume, h, hopen, htext]
  · simp [resume, h, hopen, htext, hunderline]

theorem read_text {r : Reading} (hr : r.IsOutside) {c : Char} (hc : c.isAlpha) (rest : List Char)
    (row : Nat) (ending : List Char) :
    r.read ⟨row, c :: rest, ending⟩ = ⟨some row, [], .paragraph (c :: rest), r.finish.reverse⟩ := by
  have hblank := isBlank_of_isAlpha hc
  have hbody := body_ofLine hblank rest
  have hopen : ∀ b, openAll ((Cursor.ofLine (c :: rest)).rest.length + 1) b true (.ofLine (c :: rest)) =
      ([], .text, .ofLine (c :: rest)) :=
    fun b => openAll_text hblank rest (ne_of_isAlpha hc rfl) (leafStart?_of_isAlpha hc rest b)
      (markerWidth?_of_isAlpha hc rest _) _
  refine read_of_resume hr (fun blocks => ⟨some row, [], .paragraph (c :: rest), blocks⟩) ?_
  intro q hleaf
  rcases hleaf with hq | ⟨text, hq⟩
  · simp [resume, hq, hopen, enter, hbody]
  · simp [resume, hq, hopen, hbody, isUnderline_of_isAlpha hc, isDelimiterRow_of_isAlpha hc]

theorem read_empty {r : Reading} (hr : r.IsOutside) (row : Nat) (ending : List Char) :
    r.read ⟨row, [], ending⟩ = ⟨some row, [], .none, r.finish.reverse⟩ := by
  refine read_of_resume hr (fun blocks => ⟨some row, [], .none, blocks⟩) ?_
  intro q hq
  rw [resume_of_start hq rfl (fun b => rfl) (by decide)]
  rfl

/-- A line that starts a block ends the block before it, whatever that was. -/
theorem read_of_leafStart {r : Reading} (hr : r.IsOutside) {c : Char} {rest : List Char}
    (start : Start) (next : List Block → Reading) (hc : isBlank c = false) (hquote : c ≠ '>')
    (hunderline : isUnderline (c :: rest) = false) (hstart : start ≠ .text)
    (h : ∀ b, leafStart? b (c :: rest) = some start) {row : Nat} {ending : List Char}
    (henter : ∀ q : Reading,
      { q.enter [] start (.ofLine (c :: rest)) ⟨row, c :: rest, ending⟩ with previous := some row } =
        next q.blocks) :
    r.read ⟨row, c :: rest, ending⟩ = next r.finish.reverse := by
  refine read_of_resume hr next fun q hq => ?_
  rw [resume_of_start hq (by rw [body_ofLine hc rest]; exact hunderline)
    (fun b => openAll_of_leafStart hc rest hquote (h b) true _) hstart]
  exact henter q

theorem heading?_replicate {level : Nat} (hpos : 1 ≤ level) (hle : level ≤ 6) (title : List Char) :
    heading? (List.replicate level '#' ++ ' ' :: title) = some (level, ' ' :: title) := by
  have hmarks : (List.replicate level '#' ++ ' ' :: title).takeWhile (· == '#') =
      List.replicate level '#' := by
    rw [List.takeWhile_append_of_pos (by simp), List.takeWhile_cons_of_neg (by decide),
      List.append_nil]
  have htitle : (List.replicate level '#' ++ ' ' :: title).drop level = ' ' :: title :=
    List.drop_left' (List.length_replicate ..)
  simp only [heading?, hmarks, List.length_replicate, htitle]
  simp [hpos, hle, isBlank]

theorem read_heading {r : Reading} (hr : r.IsOutside) {level : Nat} (hpos : 1 ≤ level)
    (hle : level ≤ 6) (title : List Char) (row : Nat) :
    r.read ⟨row, List.replicate level '#' ++ ' ' :: title, ['\n']⟩ =
      ⟨some row, [], .none, .heading level row (' ' :: title) :: r.finish.reverse⟩ := by
  have hheading := heading?_replicate hpos hle title
  obtain ⟨n, rfl⟩ : ∃ n, level = n + 1 := ⟨level - 1, by omega⟩
  rw [List.replicate_succ, List.cons_append] at hheading ⊢
  refine read_of_leafStart hr (.heading (n + 1) (' ' :: title))
    (fun blocks => ⟨some row, [], .none, .heading (n + 1) row (' ' :: title) :: blocks⟩)
    rfl (by decide) (by simp [isUnderline]) (by simp) (fun b => ?_) (fun q => ?_)
  · rw [leafStart?, hheading]
  · simp [enter, headingCounts, Line.isTerminated]

theorem open?_backticks {info : List Char} (h : ∀ c ∈ info, c ≠ '\x60' ∧ isBlank c = false) :
    Fence.open? ('\x60' :: '\x60' :: '\x60' :: info) = some (⟨'\x60', 3⟩, info) := by
  cases info with
  | nil => rfl
  | cons c rest =>
    have hc := h c List.mem_cons_self
    have hmarks : ('\x60' :: '\x60' :: c :: rest).takeWhile (· == '\x60') = ['\x60', '\x60'] := by
      simp [hc.1]
    have hinfo : ('\x60' :: '\x60' :: c :: rest).dropWhile (· == '\x60') = c :: rest := by
      simp [hc.1]
    have hblank : (c :: rest).dropWhile isBlank = c :: rest := by simp [hc.2]
    have htick : (c :: rest).contains '\x60' = false := by
      rw [List.contains_eq_mem, decide_eq_false_iff_not]
      exact fun hmem => (h _ hmem).1 rfl
    simp only [Fence.open?, hmarks, hinfo, hblank, htick]
    rfl

theorem read_fence {r : Reading} (hr : r.IsOutside) {info : List Char}
    (h : ∀ c ∈ info, c ≠ '\x60' ∧ isBlank c = false) (row : Nat) :
    r.read ⟨row, '\x60' :: '\x60' :: '\x60' :: info, ['\n']⟩ =
      ⟨some row, [], .fence ⟨⟨'\x60', 3⟩, Fence.language? info, row, []⟩, r.finish.reverse⟩ := by
  refine read_of_leafStart hr (.fence ⟨'\x60', 3⟩ info)
    (fun blocks => ⟨some row, [], .fence ⟨⟨'\x60', 3⟩, Fence.language? info, row, []⟩, blocks⟩)
    rfl (by decide) (by simp [isUnderline]) (by simp) (fun b => ?_) (fun q => rfl)
  rw [leafStart?, open?_backticks h]
  rfl

/-! ## Lines of code -/

theorem closedBy_of_not_mem {f : Fence} (hlength : 1 ≤ f.length) {body : List Char}
    (h : f.mark ∉ body) : f.closedBy body = false := by
  have hmarks : body.takeWhile (· == f.mark) = [] := by
    cases body with
    | nil => rfl
    | cons c rest =>
      have hc : c ≠ f.mark := fun heq => h (heq ▸ List.mem_cons_self)
      exact List.takeWhile_cons_of_neg (by simpa using hc)
  have hlong : ¬f.length ≤ 0 := by omega
  simp [Fence.closedBy, hmarks, hlong]

/-- Outside of containers every line of code is taken whole, the first one too. -/
theorem extend_ofLine (f : OpenFence) (row : Nat) (text ending : List Char) :
    f.extend (.ofLine text) ⟨row, text, ending⟩ =
      { f with content := ending.reverse ++ text.reverse ++ f.content } := by
  have hcode : (if f.content.isEmpty then (Cursor.ofLine text).rest else text) = text := ite_self _
  simp only [OpenFence.extend, hcode]

/-- A line without the mark of a fence does not end its block. -/
theorem read_code {f : OpenFence} (hlength : 1 ≤ f.fence.length) {text : List Char}
    (htext : f.fence.mark ∉ text) (previous : Option Nat) (blocks : List Block) (row : Nat) :
    (⟨previous, [], .fence f, blocks⟩ : Reading).read ⟨row, text, ['\n']⟩ =
      ⟨some row, [], .fence { f with content := '\n' :: text.reverse ++ f.content }, blocks⟩ := by
  have hbody : f.fence.mark ∉ (Cursor.ofLine text).body :=
    fun hmem => htext ((List.dropWhile_suffix isBlank).subset hmem)
  have hopen := closedBy_of_not_mem hlength hbody
  simp [read, Container.continueAll, hopen, extend_ofLine]

theorem read_closing {f : OpenFence} (hfence : f.fence = ⟨'\x60', 3⟩) (previous : Option Nat)
    (blocks : List Block) (row : Nat) (ending : List Char) :
    (⟨previous, [], .fence f, blocks⟩ : Reading).read ⟨row, ['\x60', '\x60', '\x60'], ending⟩ =
      ⟨some row, [], .closedFence f, blocks⟩ := by
  have hclosed : f.fence.closedBy (Cursor.ofLine ['\x60', '\x60', '\x60']).body := by
    rw [hfence]
    rfl
  have hsame : f.endAt [] = f := ite_self f
  have hindent : (Cursor.ofLine ['\x60', '\x60', '\x60']).indent ≤ Container.maxIndent := by decide
  simp only [read, Container.continueAll, hclosed, hindent]
  show (⟨some row, [], .closedFence (f.endAt []), blocks⟩ : Reading) = _
  rw [hsame]

end Reading
end DocPager.Markdown
