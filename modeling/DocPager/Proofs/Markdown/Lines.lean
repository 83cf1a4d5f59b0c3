import DocPager.Markdown.Line
import DocPager.Text.Rows

/-!
The lines and the rows of a text.  Every line is on one of the rows.  Where the text is put together
from lines, each of them ended by a newline, both are the lines it was made of.
-/

namespace DocPager.Markdown

def IsUnbroken (text : List Char) : Prop := ∀ c ∈ text, c ≠ '\n' ∧ c ≠ '\r'

theorem IsUnbroken.of_cons {c : Char} {text : List Char} (h : IsUnbroken (c :: text)) :
    IsUnbroken text := fun d hd => h d (List.mem_cons_of_mem c hd)

theorem isUnbroken_append {s t : List Char} (hs : IsUnbroken s) (ht : IsUnbroken t) :
    IsUnbroken (s ++ t) := by
  intro c hc
  rcases List.mem_append.mp hc with hc | hc
  · exact hs c hc
  · exact ht c hc

def ended (texts : List (List Char)) : List Char := texts.flatMap (· ++ ['\n'])

@[simp] theorem ended_nil : ended [] = [] := rfl

@[simp] theorem ended_cons (text : List Char) (rest : List (List Char)) :
    ended (text :: rest) = text ++ '\n' :: ended rest := by
  simp [ended]

/-- The lines of a source made of some lines, the first of them on `row`. -/
def linesOf (row : Nat) : List (List Char) → List Line
  | [] => []
  | text :: rest => ⟨row, text, ['\n']⟩ :: linesOf (row + 1) rest

theorem linesOf_append (row : Nat) (s t : List (List Char)) :
    linesOf row (s ++ t) = linesOf row s ++ linesOf (row + s.length) t := by
  induction s generalizing row with
  | nil => rfl
  | cons text rest ih =>
    have hrow : row + (rest.length + 1) = row + 1 + rest.length := by omega
    rw [List.cons_append, linesOf, linesOf, ih, List.length_cons, hrow, List.cons_append]

/-! ## Lines -/

theorem linesFrom_newline (row : Nat) (text rest : List Char) :
    linesFrom row text ('\n' :: rest) = ⟨row, text.reverse, ['\n']⟩ :: linesFrom (row + 1) [] rest := by
  rw [linesFrom]
  · exact if_pos rfl
  · intro _ h
    exact absurd h (by decide)

theorem linesFrom_cons {c : Char} (hn : c ≠ '\n') (hr : c ≠ '\r') (row : Nat)
    (text rest : List Char) : linesFrom row text (c :: rest) = linesFrom row (c :: text) rest := by
  rw [linesFrom]
  · rw [if_neg hn, if_neg hr]
  · intro _ h
    exact absurd h hr

/-- A stretch without an end of line is a part of one line. -/
theorem linesFrom_append {text : List Char} (h : IsUnbroken text) (row : Nat) (before rest : List Char) :
    linesFrom row before (text ++ rest) = linesFrom row (text.reverse ++ before) rest := by
  induction text generalizing before with
  | nil => rfl
  | cons c text ih =>
    have hc := h c List.mem_cons_self
    rw [List.cons_append, linesFrom_cons hc.1 hc.2, ih h.of_cons, List.reverse_cons,
      List.append_assoc, List.singleton_append]

theorem linesFrom_ended {texts : List (List Char)} (h : ∀ t ∈ texts, IsUnbroken t) (row : Nat) :
    linesFrom row [] (ended texts) = linesOf row texts := by
  induction texts generalizing row with
  | nil => rfl
  | cons text rest ih =>
    have htext := h text List.mem_cons_self
    have hrest := ih (fun t ht => h t (List.mem_cons_of_mem text ht)) (row + 1)
    rw [ended_cons, linesFrom_append htext, linesFrom_newline, hrest, linesOf, List.append_nil,
      List.reverse_reverse]

/-! ## The rows that lines are on -/

theorem le_row_of_mem_linesFrom {row : Nat} {text source : List Char} {l : Line}
    (h : l ∈ linesFrom row text source) : row ≤ l.row := by
  fun_induction linesFrom row text source with
  | case1 row text htext => exact absurd h List.not_mem_nil
  | case2 row text htext =>
    obtain rfl := List.mem_singleton.mp h
    exact Nat.le_refl row
  | case3 row text rest ih =>
    rcases List.mem_cons.mp h with rfl | h
    · exact Nat.le_refl row
    · exact Nat.le_of_succ_le (ih h)
  | case4 row text rest _ ih =>
    rcases List.mem_cons.mp h with rfl | h
    · exact Nat.le_refl row
    · exact Nat.le_of_succ_le (ih h)
  | case5 row text rest hlone hn ih =>
    rcases List.mem_cons.mp h with rfl | h
    · exact Nat.le_refl row
    · exact ih h
  | case6 row text c rest hcrlf hn hr ih => exact ih h

theorem pairwise_row_linesFrom (row : Nat) (text source : List Char) :
    (linesFrom row text source).Pairwise (·.row ≤ ·.row) := by
  fun_induction linesFrom row text source with
  | case1 row text htext => exact List.Pairwise.nil
  | case2 row text htext => exact List.pairwise_singleton _ _
  | case3 row text rest ih =>
    exact List.pairwise_cons.mpr ⟨fun l hl => Nat.le_of_succ_le (le_row_of_mem_linesFrom hl), ih⟩
  | case4 row text rest _ ih =>
    exact List.pairwise_cons.mpr ⟨fun l hl => Nat.le_of_succ_le (le_row_of_mem_linesFrom hl), ih⟩
  | case5 row text rest hlone hn ih =>
    exact List.pairwise_cons.mpr ⟨fun l hl => le_row_of_mem_linesFrom hl, ih⟩
  | case6 row text c rest hcrlf hn hr ih => exact ih

/-- Whether a carriage return ends a line on its own. -/
def HasLoneReturn (source : List Char) : Prop :=
  ∃ before after, source = before ++ '\r' :: after ∧ after.head? ≠ some '\n'

theorem HasLoneReturn.cons {source : List Char} (h : HasLoneReturn source) (c : Char) :
    HasLoneReturn (c :: source) := by
  obtain ⟨before, after, rfl, hafter⟩ := h
  exact ⟨c :: before, after, rfl, hafter⟩

/-- Without lone carriage returns every line has a row of its own. -/
theorem pairwise_row_linesFrom_of_not_hasLoneReturn {source : List Char}
    (h : ¬HasLoneReturn source) (row : Nat) (text : List Char) :
    (linesFrom row text source).Pairwise (·.row < ·.row) := by
  fun_induction linesFrom row text source with
  | case1 row text htext => exact List.Pairwise.nil
  | case2 row text htext => exact List.pairwise_singleton _ _
  | case3 row text rest ih =>
    have hrest := ih fun hr => h ((hr.cons '\n').cons '\r')
    exact List.pairwise_cons.mpr ⟨fun l hl => le_row_of_mem_linesFrom hl, hrest⟩
  | case4 row text rest _ ih =>
    have hrest := ih fun hr => h (hr.cons '\n')
    exact List.pairwise_cons.mpr ⟨fun l hl => le_row_of_mem_linesFrom hl, hrest⟩
  | case5 row text rest hlone hn ih =>
    refine absurd ⟨[], rest, rfl, ?_⟩ h
    intro hhead
    cases rest with
    | nil => exact absurd hhead (by simp)
    | cons d rest =>
      obtain rfl : d = '\n' := Option.some.inj hhead
      exact hlone rest rfl rfl
  | case6 row text c rest hcrlf hn hr ih => exact ih fun hr => h (hr.cons c)

/-! ## Rows -/

theorem rowsFrom_newline (before rest : List Char) :
    Text.rowsFrom before ('\n' :: rest) =
      (Text.dropReturn before).reverse :: Text.rowsFrom [] rest := by
  rw [Text.rowsFrom, if_pos rfl]

theorem rowsFrom_cons {c : Char} (hc : c ≠ '\n') (before rest : List Char) :
    Text.rowsFrom before (c :: rest) = Text.rowsFrom (c :: before) rest := by
  rw [Text.rowsFrom, if_neg hc]

theorem rowsFrom_append {text : List Char} (h : IsUnbroken text) (before rest : List Char) :
    Text.rowsFrom before (text ++ rest) = Text.rowsFrom (text.reverse ++ before) rest := by
  induction text generalizing before with
  | nil => rfl
  | cons c text ih =>
    have hc := h c List.mem_cons_self
    rw [List.cons_append, rowsFrom_cons hc.1, ih h.of_cons, List.reverse_cons, List.append_assoc,
      List.singleton_append]

/-- There is no carriage return to take off a row that has none. -/
theorem dropReturn_reverse {text : List Char} (h : IsUnbroken text) :
    Text.dropReturn text.reverse = text.reverse := by
  unfold Text.dropReturn
  split
  · next row hrow =>
    have hmem : '\r' ∈ text := by
      rw [← List.mem_reverse, hrow]
      exact List.mem_cons_self
    exact absurd rfl (h _ hmem).2
  · rfl

theorem rows_ended {texts : List (List Char)} (h : ∀ t ∈ texts, IsUnbroken t) :
    Text.rows (ended texts) = texts := by
  induction texts with
  | nil => rfl
  | cons text rest ih =>
    have htext := h text List.mem_cons_self
    have hrest := ih fun t ht => h t (List.mem_cons_of_mem text ht)
    show Text.rowsFrom [] (ended (text :: rest)) = _
    rw [ended_cons, rowsFrom_append htext, rowsFrom_newline, List.append_nil,
      dropReturn_reverse htext, List.reverse_reverse]
    exact congrArg (text :: ·) hrest

theorem dropReturn_subset (row : List Char) : Text.dropReturn row ⊆ row := by
  unfold Text.dropReturn
  split
  · exact List.subset_cons_self _ _
  · exact List.Subset.refl row

/-- A newline ends a row and is on none. -/
theorem newline_not_mem_rowsFrom {before : List Char} (h : '\n' ∉ before) (source : List Char) :
    ∀ row ∈ Text.rowsFrom before source, '\n' ∉ row := by
  induction source generalizing before with
  | nil =>
    intro row hrow
    rw [Text.rowsFrom] at hrow
    split at hrow
    · exact absurd hrow List.not_mem_nil
    · obtain rfl := List.mem_singleton.mp hrow
      exact fun hmem => h (List.mem_reverse.mp hmem)
  | cons c rest ih =>
    by_cases hc : c = '\n'
    · rw [hc, rowsFrom_newline, List.forall_mem_cons]
      exact ⟨fun hmem => h (dropReturn_subset before (List.mem_reverse.mp hmem)),
        ih List.not_mem_nil⟩
    · rw [rowsFrom_cons hc]
      exact ih fun hmem => (List.mem_cons.mp hmem).elim (fun heq => hc heq.symm) h

theorem length_rowsFrom_pos {before : List Char} (h : before ≠ []) (source : List Char) :
    0 < (Text.rowsFrom before source).length := by
  induction source generalizing before with
  | nil => simp [Text.rowsFrom, h]
  | cons c rest ih =>
    by_cases hc : c = '\n'
    · rw [hc, rowsFrom_newline, List.length_cons]
      omega
    · rw [rowsFrom_cons hc]
      exact ih (List.cons_ne_nil c before)

/-- Every line is on a row.  What is read of the line is read of its row too, which may have more. -/
theorem row_lt_of_mem_linesFrom {row : Nat} {text before source : List Char} {l : Line}
    (hbefore : text ≠ [] → before ≠ []) (h : l ∈ linesFrom row text source) :
    l.row < row + (Text.rowsFrom before source).length := by
  fun_induction linesFrom row text source generalizing before with
  | case1 row text htext => exact absurd h List.not_mem_nil
  | case2 row text htext =>
    obtain rfl := List.mem_singleton.mp h
    have hpos := length_rowsFrom_pos (hbefore (by simpa using htext)) []
    show row < _
    omega
  | case3 row text rest ih =>
    rw [rowsFrom_cons (by decide), rowsFrom_newline, List.length_cons]
    rcases List.mem_cons.mp h with rfl | h
    · show row < _
      omega
    · have hrest : l.row < row + 1 + (Text.rowsFrom [] rest).length :=
        ih (fun hne => absurd rfl hne) h
      omega
  | case4 row text rest _ ih =>
    rw [rowsFrom_newline, List.length_cons]
    rcases List.mem_cons.mp h with rfl | h
    · show row < _
      omega
    · have hrest : l.row < row + 1 + (Text.rowsFrom [] rest).length :=
        ih (fun hne => absurd rfl hne) h
      omega
  | case5 row text rest hlone hn ih =>
    rw [rowsFrom_cons hn]
    rcases List.mem_cons.mp h with rfl | h
    · have hpos := length_rowsFrom_pos (List.cons_ne_nil '\r' before) rest
      show row < _
      omega
    · exact ih (fun _ => List.cons_ne_nil '\r' before) h
  | case6 row text c rest hcrlf hn hr ih =>
    rw [rowsFrom_cons hn]
    exact ih (fun _ => List.cons_ne_nil c before) h

end DocPager.Markdown
