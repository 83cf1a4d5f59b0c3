import DocPager.Proofs.Markdown.Body
import DocPager.Proofs.Markdown.Outside
import DocPager.Proofs.Page.Sections
import DocPager.Proofs.Page.Snippets
import DocPager.Proofs.Text.Trim

/-!
Pages put together from headings, lines of text, empty lines and blocks of code.  Reading such a
page gives back what it was made of.
-/

namespace DocPager.Page

open Anchor (Claims)
open Text (trim_cons trimEnd_append)
open Markdown (Block IsUnbroken Line OpenFence Reading ended linesOf ne_of_isAlpha ne_of_isAlphanum)

/-- A text on one line that starts with a letter. -/
structure Words where
  first : Char
  rest : List Char
  isAlpha_first : first.isAlpha
  isUnbroken_rest : IsUnbroken rest

namespace Words

def text (w : Words) : List Char := w.first :: w.rest

theorem isUnbroken_text (w : Words) : IsUnbroken w.text := by
  intro c hc
  rcases List.mem_cons.mp hc with rfl | hc
  · exact ⟨ne_of_isAlpha w.isAlpha_first rfl, ne_of_isAlpha w.isAlpha_first rfl⟩
  · exact w.isUnbroken_rest c hc

end Words

/-- The name of a language: letters and digits. -/
structure LanguageWord where
  text : List Char
  ne_nil : text ≠ []
  isAlphanum_text : ∀ c ∈ text, c.isAlphanum

/-- A line of code without backticks. -/
structure CodeLine where
  text : List Char
  isUnbroken_text : IsUnbroken text
  no_backtick : '\x60' ∉ text

/-- What a page is put together from.  A heading of depth `0` has one number sign. -/
inductive Item where
  | heading (depth : Fin 6) (title : Words)
  | text (words : Words)
  | blank
  | code (language : Option LanguageWord) (content : List CodeLine)

def backticks : List Char := ['\x60', '\x60', '\x60']

namespace Item

def info (language : Option LanguageWord) : List Char := (language.map (·.text)).getD []

def lines : Item → List (List Char)
  | .heading depth title => [List.replicate (depth + 1) '#' ++ ' ' :: title.text]
  | .text words => [words.text]
  | .blank => [[]]
  | .code language content => (backticks ++ info language) :: (content.map (·.text) ++ [backticks])

end Item

/-- The source of a page made of items. -/
def render (items : List Item) : String := String.ofList (ended (items.flatMap Item.lines))

/-- The items, each with the row that it starts on. -/
def placed (row : Nat) : List Item → List (Nat × Item)
  | [] => []
  | item :: rest => (row, item) :: placed (row + item.lines.length) rest

/-- The level, the row and the title of a heading. -/
def headingAt? : Nat × Item → Option (Nat × Nat × List Char)
  | (row, .heading depth title) => some (depth + 1, row, title.text)
  | _ => none

/-- The snippet of a block of code.  Its last row is that of the closing fence. -/
def codeAt? : Nat × Item → Option Snippet
  | (row, .code language content) => some {
      language := language.map fun l => String.ofList l.text
      text := String.ofList (Text.trimEnd (['\n'].intercalate (content.map (·.text))))
      firstRow := row
      lastRow := row + content.length + 1 }
  | _ => none

/-! ## Lines -/

theorem isUnbroken_replicate (n : Nat) {c : Char} (hn : c ≠ '\n') (hr : c ≠ '\r') :
    IsUnbroken (List.replicate n c) := by
  intro d hd
  obtain rfl : d = c := List.eq_of_mem_replicate hd
  exact ⟨hn, hr⟩

theorem isUnbroken_of_isAlphanum {text : List Char} (h : ∀ c ∈ text, c.isAlphanum) :
    IsUnbroken text := fun c hc => ⟨ne_of_isAlphanum (h c hc) rfl, ne_of_isAlphanum (h c hc) rfl⟩

namespace Item

theorem isAlphanum_of_mem_info {language : Option LanguageWord} {c : Char} (hc : c ∈ info language) :
    c.isAlphanum := by
  cases language with
  | none => exact absurd hc List.not_mem_nil
  | some l => exact l.isAlphanum_text c hc

theorem isUnbroken_info (language : Option LanguageWord) : IsUnbroken (info language) :=
  isUnbroken_of_isAlphanum fun _ => isAlphanum_of_mem_info

theorem isUnbroken_backticks : IsUnbroken backticks := isUnbroken_replicate 3 (by decide) (by decide)

theorem isUnbroken_of_mem_lines {item : Item} {text : List Char} (h : text ∈ item.lines) :
    IsUnbroken text := by
  cases item with
  | heading depth title =>
    obtain rfl := List.mem_singleton.mp h
    have hspace : IsUnbroken [' '] := isUnbroken_replicate 1 (by decide) (by decide)
    have htitle := Markdown.isUnbroken_append hspace title.isUnbroken_text
    exact Markdown.isUnbroken_append (isUnbroken_replicate _ (by decide) (by decide)) htitle
  | text words =>
    obtain rfl := List.mem_singleton.mp h
    exact words.isUnbroken_text
  | blank =>
    obtain rfl := List.mem_singleton.mp h
    exact fun c hc => absurd hc List.not_mem_nil
  | code language content =>
    rcases List.mem_cons.mp h with rfl | h
    · exact Markdown.isUnbroken_append isUnbroken_backticks (isUnbroken_info language)
    rcases List.mem_append.mp h with h | h
    · obtain ⟨line, -, rfl⟩ := List.mem_map.mp h
      exact line.isUnbroken_text
    · obtain rfl := List.mem_singleton.mp h
      exact isUnbroken_backticks

theorem isUnbroken_of_mem_flatMap {items : List Item} {text : List Char}
    (h : text ∈ items.flatMap lines) : IsUnbroken text := by
  obtain ⟨item, -, htext⟩ := List.mem_flatMap.mp h
  exact isUnbroken_of_mem_lines htext

/-- The first line of an item looks neither like front matter nor like a byte order mark. -/
theorem exists_lines_eq_cons (item : Item) :
    ∃ first rest, item.lines = first :: rest ∧
      ∀ c ∈ first.head?, c ≠ Markdown.byteOrderMark ∧ c ≠ '-' ∧ c ≠ '+' := by
  cases item with
  | heading depth title =>
    refine ⟨_, [], rfl, fun c hc => ?_⟩
    obtain rfl : '#' = c := Option.some.inj hc
    decide
  | text words =>
    refine ⟨words.text, [], rfl, fun c hc => ?_⟩
    obtain rfl : words.first = c := Option.some.inj hc
    have hfirst := words.isAlpha_first
    exact ⟨ne_of_isAlpha hfirst rfl, ne_of_isAlpha hfirst rfl, ne_of_isAlpha hfirst rfl⟩
  | blank => exact ⟨[], [], rfl, fun c hc => absurd hc (by simp)⟩
  | code language content =>
    refine ⟨_, _, rfl, fun c hc => ?_⟩
    obtain rfl : '\x60' = c := Option.some.inj hc
    decide

end Item

/-! ## Blocks -/

/-- The block that an item makes. -/
def blockAt? : Nat × Item → Option Block
  | (row, .heading depth title) => some (.heading (depth + 1) row (' ' :: title.text))
  | (row, .code language content) => some (.fenced (language.map (·.text))
      (Text.trimEnd (ended (content.map (·.text)))) row (row + content.length + 1))
  | (_, .text _) | (_, .blank) => none

/-- Letters and digits are no blanks, braces, commas, brackets or backslashes. -/
theorem word_of_isAlphanum {text : List Char} (h : ∀ c ∈ text, c.isAlphanum) :
    Markdown.Fence.word text = text := by
  induction text with
  | nil => rfl
  | cons c rest ih =>
    have hc : ∀ d, d.isAlphanum = false → c ≠ d := fun d => ne_of_isAlphanum (h c List.mem_cons_self)
    have hrest := ih fun d hd => h d (List.mem_cons_of_mem c hd)
    rw [Markdown.Fence.word]
    · simp [Markdown.isBlank, hc ' ' rfl, hc '\t' rfl, hc '\x7b' rfl, hc '\x7d' rfl, hc ',' rfl, hrest]
    · intro _ _ heq
      exact absurd heq (hc '\\' rfl)
    · intro _ _ heq
      exact absurd heq (hc '[' rfl)

theorem language?_info (language : Option LanguageWord) :
    Markdown.Fence.language? (Item.info language) = language.map (·.text) := by
  cases language with
  | none => rfl
  | some l =>
    obtain ⟨text, hne, halpha⟩ := l
    have hword := word_of_isAlphanum halpha
    cases text with
    | nil => exact absurd rfl hne
    | cons c rest =>
      have hc : ∀ d, d.isAlphanum = false → c ≠ d :=
        fun d => ne_of_isAlphanum (halpha c List.mem_cons_self)
      have hnamed : (c :: rest).dropWhile (fun c => c = '\x7b' || c = '\x7d') = c :: rest :=
        List.dropWhile_cons_of_neg (by simp [hc '\x7b' rfl, hc '\x7d' rfl])
      have hblank : Markdown.isBlank c = false := Markdown.isBlank_eq_false (hc ' ' rfl) (hc '\t' rfl)
      show Markdown.Fence.language? (c :: rest) = some (c :: rest)
      simp [Markdown.Fence.language?, hnamed, hblank, hword]

theorem foldl_read_code {f : OpenFence} (hfence : f.fence = ⟨'\x60', 3⟩) (content : List CodeLine)
    (row : Nat) (blocks : List Block) :
    (linesOf (row + 1) (content.map (·.text))).foldl Reading.read ⟨some row, [], .fence f, blocks⟩ =
      ⟨some (row + content.length), [],
        .fence { f with content := (ended (content.map (·.text))).reverse ++ f.content }, blocks⟩ := by
  induction content generalizing row f with
  | nil => rfl
  | cons line rest ih =>
    have hmark : f.fence.mark ∉ line.text := by
      rw [hfence]
      exact line.no_backtick
    have hlength : 1 ≤ f.fence.length := by
      rw [hfence]
      exact Nat.le_add_left 1 2
    have hrow : row + 1 + rest.length = row + (rest.length + 1) := by omega
    rw [List.map_cons, linesOf, List.foldl_cons, Reading.read_code hlength hmark,
      ih (f := { f with content := '\n' :: line.text.reverse ++ f.content }) hfence, hrow,
      List.length_cons, Markdown.ended_cons]
    simp [List.append_assoc]

/-- A block of code is still open to its container after the closing fence, so it is not among the
finished blocks yet. -/
theorem foldl_read_fenced {r : Reading} (hr : r.IsOutside) (row : Nat)
    (language : Option LanguageWord) (content : List CodeLine) :
    (linesOf row (Item.code language content).lines).foldl Reading.read r =
      ⟨some (row + content.length + 1), [],
        .closedFence ⟨⟨'\x60', 3⟩, language.map (·.text), row,
          (ended (content.map (·.text))).reverse⟩, r.finish.reverse⟩ := by
  have hinfo : ∀ c ∈ Item.info language, c ≠ '\x60' ∧ Markdown.isBlank c = false := by
    intro c hc
    have halpha := Item.isAlphanum_of_mem_info hc
    exact ⟨ne_of_isAlphanum halpha rfl,
      Markdown.isBlank_eq_false (ne_of_isAlphanum halpha rfl) (ne_of_isAlphanum halpha rfl)⟩
  have hopen := Reading.read_fence hr hinfo row
  have hclosing := Reading.read_closing (f := ⟨⟨'\x60', 3⟩, language.map (·.text), row,
    (ended (content.map (·.text))).reverse⟩) rfl (some (row + content.length)) r.finish.reverse
    (row + content.length + 1) ['\n']
  have hrow : row + 1 + content.length = row + content.length + 1 := by omega
  have hfirst : backticks ++ Item.info language =
      '\x60' :: '\x60' :: '\x60' :: Item.info language := rfl
  rw [language?_info] at hopen
  rw [Item.lines, linesOf, List.foldl_cons, hfirst, hopen, Markdown.linesOf_append,
    List.foldl_append, foldl_read_code rfl, List.length_map, hrow, List.append_nil, linesOf, linesOf,
    List.foldl_cons, List.foldl_nil, backticks, hclosing]

/-- Reading an item behind other items adds its block. -/
theorem foldl_read_item {r : Reading} (hr : r.IsOutside) (row : Nat) (item : Item) :
    let next := (linesOf row item.lines).foldl Reading.read r
    next.IsOutside ∧ next.finish = r.finish ++ (blockAt? (row, item)).toList := by
  cases item with
  | heading depth title =>
    have hread := Reading.read_heading hr (Nat.le_add_left 1 depth) depth.isLt title.text row
    show (r.read _).IsOutside ∧ (r.read _).finish = _
    rw [hread]
    exact ⟨⟨rfl, Or.inl rfl⟩, by simp [Reading.finish, blockAt?]⟩
  | text words =>
    have hread := Reading.read_text hr words.isAlpha_first words.rest row ['\n']
    show (r.read ⟨row, words.first :: words.rest, ['\n']⟩).IsOutside ∧
      (r.read ⟨row, words.first :: words.rest, ['\n']⟩).finish = _
    rw [hread]
    exact ⟨⟨rfl, Or.inr (Or.inl ⟨_, rfl⟩)⟩, by simp [Reading.finish, blockAt?]⟩
  | blank =>
    have hread := Reading.read_empty hr row ['\n']
    show (r.read ⟨row, [], ['\n']⟩).IsOutside ∧ (r.read ⟨row, [], ['\n']⟩).finish = _
    rw [hread]
    exact ⟨⟨rfl, Or.inl rfl⟩, by simp [Reading.finish, blockAt?]⟩
  | code language content =>
    have hread := foldl_read_fenced hr row language content
    show ((linesOf row (Item.code language content).lines).foldl Reading.read r).IsOutside ∧ _
    rw [hread]
    exact ⟨⟨rfl, Or.inr (Or.inr ⟨_, rfl⟩)⟩, by simp [Reading.finish, blockAt?, OpenFence.block]⟩

theorem foldl_read_items {r : Reading} (hr : r.IsOutside) (row : Nat) (items : List Item) :
    ((linesOf row (items.flatMap Item.lines)).foldl Reading.read r).finish =
      r.finish ++ (placed row items).filterMap blockAt? := by
  induction items generalizing r row with
  | nil => exact (List.append_nil _).symm
  | cons item rest ih =>
    obtain ⟨hnext, hfinish⟩ := foldl_read_item hr row item
    rw [List.flatMap_cons, Markdown.linesOf_append, List.foldl_append, ih hnext, hfinish, placed,
      List.append_assoc]
    cases hblock : blockAt? (row, item) with
    | none => rw [List.filterMap_cons_none hblock]; rfl
    | some b => rw [List.filterMap_cons_some hblock]; rfl

theorem blocks_render (items : List Item) :
    Markdown.blocks (render items).toList = (placed 0 items).filterMap blockAt? := by
  rw [render, String.toList_ofList]
  cases items with
  | nil => rfl
  | cons item rest =>
    obtain ⟨first, more, hlines, hfirst⟩ := item.exists_lines_eq_cons
    have hflat : (item :: rest).flatMap Item.lines = first :: (more ++ rest.flatMap Item.lines) := by
      rw [List.flatMap_cons, hlines, List.cons_append]
    have hunbroken : ∀ t ∈ first :: (more ++ rest.flatMap Item.lines), IsUnbroken t := by
      intro t ht
      rw [← hflat] at ht
      exact Item.isUnbroken_of_mem_flatMap ht
    have hread := foldl_read_items Reading.isOutside_start 0 (item :: rest)
    rw [hflat] at hread ⊢
    rw [Markdown.blocks_ended hunbroken hfirst, hread]
    rfl

/-! ## Sections and snippets -/

theorem headingTitle_cons {c : Char} (hc : Unicode.isWhiteSpace c) (text : List Char) :
    headingTitle (c :: text) = headingTitle text := by
  rw [headingTitle, trim_cons hc, headingTitle]

theorem headingBase_cons {c : Char} (hc : Unicode.isWhiteSpace c) (text : List Char) :
    headingBase (c :: text) = headingBase text := by
  rw [headingBase, trim_cons hc, headingTitle_cons hc, headingBase]

theorem ended_eq_intercalate {texts : List (List Char)} (h : texts ≠ []) :
    ended texts = ['\n'].intercalate texts ++ ['\n'] := by
  induction texts with
  | nil => exact absurd rfl h
  | cons text rest ih =>
    cases rest with
    | nil => simp
    | cons next rest =>
      rw [Markdown.ended_cons, ih (List.cons_ne_nil next rest), List.intercalate_cons_cons]
      simp

/-- The end of the last line is white space, so it makes no difference to the text of a snippet. -/
theorem trimEnd_ended (texts : List (List Char)) :
    Text.trimEnd (ended texts) = Text.trimEnd (['\n'].intercalate texts) := by
  by_cases h : texts = []
  · subst h
    rfl
  · rw [ended_eq_intercalate h, trimEnd_append (by decide)]

theorem filterMap_heading_blockAt (placed : List (Nat × Item)) :
    (placed.filterMap blockAt?).filterMap heading? =
      (placed.filterMap headingAt?).map fun h => (h.1, h.2.1, ' ' :: h.2.2) := by
  rw [List.filterMap_filterMap, List.map_filterMap]
  congr 1
  funext ⟨row, item⟩
  cases item <;> rfl

theorem filterMap_snippet_blockAt (placed : List (Nat × Item)) :
    (placed.filterMap blockAt?).filterMap snippet? = placed.filterMap codeAt? := by
  rw [List.filterMap_filterMap]
  congr 1
  funext ⟨row, item⟩
  cases item with
  | code language content =>
    show snippet? (.fenced (language.map (·.text)) (Text.trimEnd (ended (content.map (·.text)))) row
      (row + content.length + 1)) = _
    rw [trimEnd_ended, snippet?, Option.map_map]
    rfl
  | _ => rfl

theorem one_le_length_lines (item : Item) : 1 ≤ item.lines.length := by
  obtain ⟨first, rest, h, -⟩ := item.exists_lines_eq_cons
  rw [h, List.length_cons]
  omega

theorem le_row_of_mem_placed {row : Nat} {items : List Item} {p : Nat × Item}
    (h : p ∈ placed row items) : row ≤ p.1 := by
  induction items generalizing row with
  | nil => exact absurd h List.not_mem_nil
  | cons item rest ih =>
    rcases List.mem_cons.mp h with rfl | h
    · exact Nat.le_refl row
    · have := ih h
      omega

theorem pairwise_row_placed (row : Nat) (items : List Item) :
    (placed row items).Pairwise (·.1 < ·.1) := by
  induction items generalizing row with
  | nil => exact List.Pairwise.nil
  | cons item rest ih =>
    refine List.pairwise_cons.mpr ⟨?_, ih _⟩
    intro p hp
    have hrow := le_row_of_mem_placed hp
    have hlines := one_le_length_lines item
    show row < p.1
    omega

theorem row_of_codeAt {p : Nat × Item} {s : Snippet} (h : s ∈ codeAt? p) : s.firstRow = p.1 := by
  obtain ⟨row, item⟩ := p
  cases item with
  | code language content =>
    obtain rfl := Option.some.inj h
    rfl
  | _ => exact absurd h (by simp [codeAt?])

theorem pairwise_firstRow_codeAt (row : Nat) (items : List Item) :
    ((placed row items).filterMap codeAt?).Pairwise (·.firstRow < ·.firstRow) := by
  refine List.Pairwise.filterMap codeAt? ?_ (pairwise_row_placed row items)
  intro p q hrow s hs t ht
  rw [row_of_codeAt hs, row_of_codeAt ht]
  exact hrow

/-- Reading a page that was put together from items gives one section for each heading and one
snippet for each block of code, and nothing else. -/
theorem parse_render (items : List Item) :
    let page := parse (render items)
    let headings := (placed 0 items).filterMap headingAt?
    page.rows = (items.flatMap Item.lines).map String.ofList ∧
      page.sections.map (fun s => (s.level, s.row, s.title)) =
        headings.map (fun h => (h.1, h.2.1, headingTitle h.2.2)) ∧
      page.sections.map (·.order) = List.range headings.length ∧
      page.sections.map (·.id) = Claims.empty.claimAll (headings.map fun h => headingBase h.2.2) ∧
      page.snippets = (placed 0 items).filterMap codeAt? := by
  intro page headings
  have hheadings := filterMap_heading_blockAt (placed 0 items)
  have hspace : Unicode.isWhiteSpace ' ' := by decide
  have hsections := sections_parse (render items)
  have hsnippets := snippets_parse (render items)
  rw [blocks_render] at hsections hsnippets
  refine ⟨?_, ?_, ?_, ?_, ?_⟩
  · rw [rows_parse, render, String.toList_ofList,
      Markdown.rows_ended fun _ => Item.isUnbroken_of_mem_flatMap]
  · rw [hsections, map_heading_sectionsFrom, hheadings, List.map_map]
    exact List.map_congr_left fun h _ => by simp [headingTitle_cons hspace]
  · rw [hsections, map_order_sectionsFrom, hheadings, List.length_map, List.range_eq_range']
  · rw [hsections, map_id_sectionsFrom, hheadings, List.map_map]
    exact congrArg _ (List.map_congr_left fun h _ => by simp [headingBase_cons hspace])
  · rw [hsnippets, filterMap_snippet_blockAt]
    exact onePerRow_of_pairwise (fun row h => absurd h (by simp)) (pairwise_firstRow_codeAt 0 items)

end DocPager.Page
