import DocPager.Outline.Json
import DocPager.Page.Basic

/-!
The outline of a page: the file it was read from, its sections and its snippets, but not its rows.
-/

namespace DocPager.Outline

def ofText? (s : Option String) : Json := (s.map Json.text).getD .null

def ofSection (s : Section) : Json :=
  .record
    [("id", .text s.id), ("title", .text s.title), ("level", .number s.level),
     ("order_index", .number s.order), ("row", .number s.row)]

def ofSnippet (s : Snippet) : Json :=
  .record
    [("language", ofText? s.language), ("text", .text s.text), ("row_start", .number s.firstRow),
     ("row_end", .number s.lastRow)]

def ofPage (p : Page) : Json :=
  .record
    [("path", ofText? p.path), ("sections", .list (p.sections.map ofSection)),
     ("snippets", .list (p.snippets.map ofSnippet))]

def write (p : Page) : String := (ofPage p).write 0

end DocPager.Outline
