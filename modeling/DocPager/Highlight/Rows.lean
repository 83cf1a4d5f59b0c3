import DocPager.Highlight.Language
import DocPager.Highlight.Theme
import DocPager.Page.Basic
import DocPager.Screen.Line

/-!
The coloured rows of code on a page.  Only snippets in a known language have some, and their fences
are left as they are.
-/

namespace DocPager.Highlight

open Screen (Span Style)

/-- A row of a page as it is shown in a snippet. -/
structure CodeRow where
  row : Nat
  spans : List Span
  deriving DecidableEq, Repr

namespace CodeRow

def text (r : CodeRow) : String := String.join (r.spans.map (·.text))

end CodeRow

/-- The rows between the first and the last row of a snippet. -/
def innerRows (s : Snippet) : List Nat := List.range' (s.firstRow + 1) (s.lastRow - 1 - s.firstRow)

def snippetRows (page : Page) (theme : Theme) (s : Snippet) : List CodeRow :=
  if s.language.any knowsLanguage then
    (innerRows s).filterMap fun row =>
      (page.rows[row]?).map fun text =>
        { row, spans := [{ text, style := .colored theme.foreground }] }
  else []

/-- The coloured rows of a page, none if there is no such theme. -/
def codeRows (page : Page) (themeName : String) : List CodeRow :=
  match theme? themeName with
  | some theme => page.snippets.flatMap (snippetRows page theme)
  | none => []

end DocPager.Highlight
