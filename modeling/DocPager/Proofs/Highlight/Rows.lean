import DocPager.Highlight.Rows
import DocPager.Proofs.Markdown.Lines
import DocPager.Proofs.Page.Snippets
import Mathlib.Data.List.DropRight

/-!
The coloured rows of a page.  A highlighter is given the code of a snippet line by line and cuts each
line into pieces that are coloured apart.  Whichever it is, as long as it gives every line back, the
rows inside the snippets of the languages that it knows are coloured, once each, and they read as
they do on the page.
-/

namespace DocPager.Highlight

open Screen (Color Span Style)

/-! ## Highlighters -/

/-- A part of a line that is shown in one style. -/
structure Piece where
  text : String
  color : Color
  bold : Bool
  italic : Bool
  deriving DecidableEq, Repr

namespace Piece

/-- What is shown of a piece.  The newline that ends the line is not. -/
def span (p : Piece) : Span where
  text := String.ofList (p.text.toList.rdropWhile (· == '\n'))
  style := { Style.colored p.color with bold := p.bold, italic := p.italic }

end Piece

/-- A highlighter knows languages by their grammars.  It starts anew with each snippet, and what it
makes of a line may depend on the lines before. -/
structure Highlighter (Grammar State : Type) where
  grammar? : String → Option Grammar
  start : Grammar → Theme → State
  line : State → String → Except String (List Piece × State)

namespace Highlighter

variable {Grammar State : Type} (h : Highlighter Grammar State)

def knows (word : String) : Bool := (h.grammar? word).isSome

/-- The coloured ones of some rows of a page.  A row that is not on the page ends them, and so does
one that the highlighter fails on. -/
def rowsFrom (p : Page) (state : State) : List Nat → List CodeRow
  | [] => []
  | row :: rest =>
    match p.rows[row]? with
    | none => []
    | some text =>
      match h.line state (text ++ "\n") with
      | .error _ => []
      | .ok (pieces, next) => { row, spans := pieces.map Piece.span } :: rowsFrom p next rest

def snippetRows (p : Page) (theme : Theme) (s : Snippet) : List CodeRow :=
  match s.language.bind h.grammar? with
  | some grammar => h.rowsFrom p (h.start grammar theme) (innerRows s)
  | none => []

def codeRows (p : Page) (themeName : String) : List CodeRow :=
  match theme? themeName with
  | some theme => p.snippets.flatMap (h.snippetRows p theme)
  | none => []

/-- Every line is given back, in pieces that make it up. -/
def Faithful : Prop :=
  ∀ (state : State) (text : String), '\n' ∉ text.toList → ∃ pieces next,
    h.line state (text ++ "\n") = .ok (pieces, next) ∧
      String.join (pieces.map (·.text)) = text ++ "\n"

/-- The highlighter that leaves every line in one piece, in the foreground colour of the theme. -/
def plain : Highlighter Unit Theme where
  grammar? word := if knowsLanguage word then some () else none
  start _ theme := theme
  line theme text := .ok ([{ text, color := theme.foreground, bold := false, italic := false }], theme)

theorem knows_plain : plain.knows = knowsLanguage := by
  funext word
  show (if knowsLanguage word then some () else none).isSome = knowsLanguage word
  cases knowsLanguage word <;> rfl

theorem faithful_plain : plain.Faithful := by
  intro theme text _
  refine ⟨_, theme, rfl, ?_⟩
  simp [String.join_cons]

end Highlighter

/-! ## The text of a line in pieces -/

theorem rdropWhile_newline {text : List Char} (h : '\n' ∉ text) :
    text.rdropWhile (· == '\n') = text := by
  refine List.rdropWhile_eq_self_iff.mpr fun hne hlast => h ?_
  have hmem := List.getLast_mem hne
  rwa [eq_of_beq hlast] at hmem

theorem rdropWhile_line {text : List Char} (h : '\n' ∉ text) :
    (text ++ ['\n']).rdropWhile (· == '\n') = text := by
  rw [List.rdropWhile_concat_pos _ _ _ (by rfl), rdropWhile_newline h]

/-- The newline is at the end of the line only, and so it is all that the pieces lose. -/
theorem flatten_map_rdropWhile {pieces : List (List Char)} {text : List Char}
    (hjoin : pieces.flatten = text ++ ['\n']) (htext : '\n' ∉ text) :
    (pieces.map (·.rdropWhile (· == '\n'))).flatten = text := by
  induction pieces generalizing text with
  | nil => exact absurd hjoin (by simp)
  | cons piece rest ih =>
    rw [List.flatten_cons] at hjoin
    rw [List.map_cons, List.flatten_cons]
    -- the piece ends inside the text, right behind it, or with the newline
    rcases List.append_eq_append_iff.mp hjoin with ⟨tail, rfl, hrest⟩ | ⟨tail, rfl, hrest⟩
    · rw [List.mem_append, not_or] at htext
      rw [rdropWhile_newline htext.1, ih hrest htext.2]
    · rcases List.singleton_eq_append_iff.mp hrest with ⟨rfl, hlast⟩ | ⟨rfl, hlast⟩
      · rw [List.append_nil, rdropWhile_newline htext, ih hlast List.not_mem_nil, List.append_nil]
      · have hempty : (rest.map (·.rdropWhile (· == '\n'))).flatten = [] := by
          rw [List.flatten_eq_nil_iff] at hlast ⊢
          intro shown hshown
          obtain ⟨piece, hpiece, rfl⟩ := List.mem_map.mp hshown
          rw [hlast piece hpiece, List.rdropWhile_nil]
        rw [rdropWhile_line htext, hempty, List.append_nil]

theorem join_text_span {pieces : List Piece} {text : String}
    (hjoin : String.join (pieces.map (·.text)) = text ++ "\n") (htext : '\n' ∉ text.toList) :
    String.join ((pieces.map Piece.span).map (·.text)) = text := by
  have hpieces : (pieces.map (·.text.toList)).flatten = text.toList ++ ['\n'] := by
    have hlist := congrArg String.toList hjoin
    rwa [String.toList_join, String.toList_append, List.flatMap_map, List.flatMap_def] at hlist
  have hspans := flatten_map_rdropWhile hpieces htext
  rw [← String.toList_inj, String.toList_join, ← hspans]
  simp [Piece.span, List.flatMap_def, Function.comp_def]

/-- A line in one piece is shown without its newline. -/
theorem span_line {text : String} (h : '\n' ∉ text.toList) (color : Color) :
    Piece.span { text := text ++ "\n", color, bold := false, italic := false } =
      { text, style := .colored color } := by
  have hshown : (text ++ "\n").toList.rdropWhile (· == '\n') = text.toList := by
    rw [String.toList_append]
    exact rdropWhile_line h
  rw [Piece.span, hshown, String.ofList_toList]
  rfl

/-! ## The rows that are coloured -/

/-- The rows that the coloured ones are for, and their texts. -/
structure Shows (p : Page) (rows : List Nat) (code : List CodeRow) : Prop where
  rows : code.map (·.row) = rows
  text : ∀ r ∈ code, p.rows[r.row]? = some r.text

namespace Shows

variable {p : Page}

theorem nil : Shows p [] [] := ⟨rfl, fun _ hr => absurd hr List.not_mem_nil⟩

theorem cons {r : CodeRow} {rows : List Nat} {code : List CodeRow}
    (hr : p.rows[r.row]? = some r.text) (h : Shows p rows code) :
    Shows p (r.row :: rows) (r :: code) := by
  refine ⟨by rw [List.map_cons, h.rows], fun t ht => ?_⟩
  rcases List.mem_cons.mp ht with rfl | ht
  · exact hr
  · exact h.text t ht

theorem flatMap {snippets : List Snippet} {rows : Snippet → List Nat}
    {code : Snippet → List CodeRow} (h : ∀ s ∈ snippets, Shows p (rows s) (code s)) :
    Shows p (snippets.flatMap rows) (snippets.flatMap code) := by
  constructor
  · rw [List.map_flatMap]
    exact List.flatMap_congr fun s hs => (h s hs).rows
  · intro r hr
    obtain ⟨s, hs, hr⟩ := List.mem_flatMap.mp hr
    exact (h s hs).text r hr

end Shows

theorem mem_innerRows {s : Snippet} {row : Nat} :
    row ∈ innerRows s ↔ s.firstRow + 1 ≤ row ∧ row ≤ s.lastRow - 1 := by
  rw [innerRows, List.mem_range'_1]
  omega

/-- The rows of a snippet that are coloured if some languages are known. -/
def knownRows (knows : String → Bool) (s : Snippet) : List Nat :=
  if s.language.any knows then innerRows s else []

theorem mem_knownRows {knows : String → Bool} {s : Snippet} {row : Nat} :
    row ∈ knownRows knows s ↔
      s.language.any knows = true ∧ s.firstRow + 1 ≤ row ∧ row ≤ s.lastRow - 1 := by
  unfold knownRows
  split
  · next hknown => rw [mem_innerRows, and_iff_right hknown]
  · next hknown => simp [hknown]

/-- The rows of a page that are coloured in a theme, none if there is no such theme. -/
def coloredRows (p : Page) (themeName : String) (knows : String → Bool) : List Nat :=
  match theme? themeName with
  | some _ => p.snippets.flatMap (knownRows knows)
  | none => []

section

variable {p : Page} (hp : ∀ text ∈ p.rows, '\n' ∉ text.toList) {rows : List Nat}
  (hrows : ∀ row ∈ rows, row < p.height)
include hp hrows

theorem Highlighter.Faithful.shows_rowsFrom {Grammar State : Type}
    {h : Highlighter Grammar State} (hh : h.Faithful) (state : State) :
    Shows p rows (h.rowsFrom p state rows) := by
  induction rows generalizing state with
  | nil => exact Shows.nil
  | cons row rest ih =>
    rw [List.forall_mem_cons] at hrows
    obtain ⟨text, hrow⟩ : ∃ text, p.rows[row]? = some text := ⟨_, List.getElem?_eq_getElem hrows.1⟩
    have htext := hp text (List.mem_of_getElem? hrow)
    obtain ⟨pieces, next, hline, hjoin⟩ := hh state text htext
    have hshown : p.rows[row]? = some (CodeRow.mk row (pieces.map Piece.span)).text := by
      rw [hrow, CodeRow.text, join_text_span hjoin htext]
    simp only [Highlighter.rowsFrom, hrow, hline]
    exact Shows.cons (r := ⟨row, pieces.map Piece.span⟩) hshown (ih hrows.2 next)

theorem rowsFrom_plain (theme : Theme) :
    Highlighter.plain.rowsFrom p theme rows = rows.filterMap fun row =>
      (p.rows[row]?).map fun text => { row, spans := [{ text, style := .colored theme.foreground }] } := by
  induction rows with
  | nil => rfl
  | cons row rest ih =>
    rw [List.forall_mem_cons] at hrows
    obtain ⟨text, hrow⟩ : ∃ text, p.rows[row]? = some text := ⟨_, List.getElem?_eq_getElem hrows.1⟩
    have hspan := span_line (hp text (List.mem_of_getElem? hrow)) theme.foreground
    rw [List.filterMap_cons, hrow, ← ih hrows.2]
    simp only [Highlighter.rowsFrom, hrow]
    show CodeRow.mk row [_] :: _ = _
    rw [hspan]
    rfl

end

/-! ## The rows inside the snippets -/

/-- The coloured rows of a page, for the languages that are known and in a theme that may be unknown.
They are those inside the snippets of the known languages, and no two snippets share one. -/
structure ColorsInside (p : Page) (themeName : String) (knows : String → Bool)
    (code : List CodeRow) : Prop where
  unknown : theme? themeName = none → code = []
  rows : theme? themeName ≠ none → ∀ row, row ∈ code.map (·.row) ↔
    ∃ s ∈ p.snippets, s.language.any knows = true ∧ s.firstRow + 1 ≤ row ∧ row ≤ s.lastRow - 1
  apart : ∀ (i j : Nat) (s t : Snippet) (row : Nat), p.snippets[i]? = some s →
    p.snippets[j]? = some t → row ∈ innerRows s → row ∈ innerRows t → i = j
  ascending : (code.map (·.row)).Pairwise (· < ·)
  within : ∀ r ∈ code, r.row < p.height
  text : ∀ r ∈ code, p.rows[r.row]? = some r.text
  found : ∀ r ∈ code, code.find? (·.row == r.row) = some r

theorem newline_not_mem_rows (source : String) :
    ∀ text ∈ (Page.parse source).rows, '\n' ∉ text.toList := by
  rw [Page.rows_parse, List.forall_mem_map]
  intro text htext
  rw [String.toList_ofList]
  exact Markdown.newline_not_mem_rowsFrom List.not_mem_nil _ text htext

theorem row_lt_height_of_mem_innerRows {source : String} {s : Snippet}
    (hs : s ∈ (Page.parse source).snippets) :
    ∀ row ∈ innerRows s, row < (Page.parse source).height := by
  intro row hrow
  have hlast := Page.lastRow_lt_height hs
  rw [mem_innerRows] at hrow
  omega

theorem Highlighter.Faithful.shows_codeRows {Grammar State : Type} {h : Highlighter Grammar State}
    (hh : h.Faithful) (source themeName : String) :
    Shows (Page.parse source) (coloredRows (Page.parse source) themeName h.knows)
      (h.codeRows (Page.parse source) themeName) := by
  unfold coloredRows Highlighter.codeRows
  cases theme? themeName with
  | none => exact Shows.nil
  | some theme =>
    refine Shows.flatMap fun s hs => ?_
    have hshows := hh.shows_rowsFrom (newline_not_mem_rows source)
      (row_lt_height_of_mem_innerRows hs)
    unfold knownRows Highlighter.snippetRows Highlighter.knows
    cases s.language with
    | none => exact Shows.nil
    | some word =>
      cases hgrammar : h.grammar? word with
      | none => simpa [hgrammar] using Shows.nil
      | some grammar => simpa [hgrammar] using hshows (h.start grammar theme)

/-- Code is shown as the plain highlighter has it. -/
theorem codeRows_plain (source themeName : String) :
    Highlighter.plain.codeRows (Page.parse source) themeName =
      codeRows (Page.parse source) themeName := by
  unfold codeRows Highlighter.codeRows
  cases theme? themeName with
  | none => rfl
  | some theme =>
    refine List.flatMap_congr fun s hs => ?_
    have hrows := rowsFrom_plain (newline_not_mem_rows source)
      (row_lt_height_of_mem_innerRows hs) theme
    unfold snippetRows Highlighter.snippetRows
    cases s.language with
    | none => rfl
    | some word =>
      cases hknown : knowsLanguage word with
      | false => simp [Highlighter.plain, hknown]
      | true => simpa [Highlighter.plain, hknown] using hrows

theorem pairwise_coloredRows {p : Page} (h : Page.InOrder p.snippets) (themeName : String)
    (knows : String → Bool) : (coloredRows p themeName knows).Pairwise (· < ·) := by
  unfold coloredRows
  split
  · refine List.pairwise_flatMap.mpr ⟨fun s _ => ?_, h.ends.imp fun hle row hrow next hnext => ?_⟩
    · unfold knownRows
      split
      · exact List.pairwise_lt_range' 1
      · exact List.Pairwise.nil
    · rw [mem_knownRows] at hrow hnext
      omega
  · exact List.Pairwise.nil

theorem Shows.colorsInside {p : Page} (horder : Page.InOrder p.snippets) {themeName : String}
    {knows : String → Bool} {code : List CodeRow}
    (h : Shows p (coloredRows p themeName knows) code) : ColorsInside p themeName knows code := by
  have hascending : (code.map (·.row)).Pairwise (· < ·) := by
    rw [h.rows]
    exact pairwise_coloredRows horder themeName knows
  constructor
  case unknown =>
    intro hnone
    have hrows := h.rows
    rw [coloredRows, hnone] at hrows
    exact List.map_eq_nil_iff.mp hrows
  case rows =>
    intro hsome row
    obtain ⟨theme, htheme⟩ := Option.ne_none_iff_exists'.mp hsome
    rw [h.rows, coloredRows, htheme, List.mem_flatMap]
    simp only [mem_knownRows]
  case apart =>
    intro i j s t row hs ht hrow hrow'
    rw [mem_innerRows] at hrow hrow'
    rcases Nat.lt_trichotomy i j with hlt | rfl | hlt
    · have := Page.rel_of_pairwise horder.ends hlt hs ht
      omega
    · rfl
    · have := Page.rel_of_pairwise horder.ends hlt ht hs
      omega
  case ascending => exact hascending
  case within => exact fun r hr => (List.getElem?_eq_some_iff.mp (h.text r hr)).1
  case text => exact h.text
  case found =>
    exact fun r hr => Page.find?_of_nodup_map (hascending.imp Nat.ne_of_lt) hr

/-- Whatever theme is asked for and whichever faithful highlighter there is, the rows inside the
snippets of the known languages are coloured, and no other row of the page is. -/
theorem colored_rows_are_inside (source themeName : String) :
    let p := Page.parse source
    ColorsInside p themeName knowsLanguage (codeRows p themeName) ∧
      ∀ {Grammar State : Type} (h : Highlighter Grammar State), h.Faithful →
        ColorsInside p themeName h.knows (h.codeRows p themeName) := by
  intro p
  have horder : Page.InOrder p.snippets := Page.inOrder_parse source
  refine ⟨?_, fun h hh => (hh.shows_codeRows source themeName).colorsInside horder⟩
  have hplain := Highlighter.faithful_plain.shows_codeRows source themeName
  rw [codeRows_plain, Highlighter.knows_plain] at hplain
  exact hplain.colorsInside horder

/-- Plain text is given back line by line, in one piece. -/
theorem colored_rows_are_inside_text :
    let source := "\x60\x60\x60txt\na\n\nb\n\x60\x60\x60\n\x60\x60\x60zig\nc\n\x60\x60\x60\n"
    let code := Highlighter.plain.codeRows (Page.parse source) "base16-ocean.dark"
    Highlighter.plain.Faithful ∧
      ColorsInside (Page.parse source) "base16-ocean.dark" Highlighter.plain.knows code ∧
      code.map (fun r => (r.row, r.text)) = [(1, "a"), (2, ""), (3, "b")] := by
  intro source code
  obtain ⟨-, hfaithful⟩ := colored_rows_are_inside source "base16-ocean.dark"
  exact ⟨Highlighter.faithful_plain, hfaithful _ Highlighter.faithful_plain, by decide⟩

end DocPager.Highlight
