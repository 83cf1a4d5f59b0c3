import DocPager.Anchor.Claim
import DocPager.Anchor.Explicit
import DocPager.Anchor.Slug
import DocPager.Markdown.Block
import DocPager.Text.Rows

/-!
A page of documentation: its rows as they are shown, the sections that its headings open and the
snippets of code that can be copied from it.
-/

namespace DocPager

/-- The part of a page under one heading.  It is found by its id, and its row is the place to
scroll to. -/
structure Section where
  id : String
  /-- The text of the heading without its explicit anchor. -/
  title : String
  /-- The depth of the heading, 1 for the outermost one. -/
  level : Nat
  /-- The place among the sections of the page, from 0 on. -/
  order : Nat
  row : Nat
  deriving DecidableEq, Repr

structure Snippet where
  language : Option String
  /-- The code without white space at its end. -/
  text : String
  /-- The row of the opening fence. -/
  firstRow : Nat
  /-- The last row of the block: the closing fence, as a rule. -/
  lastRow : Nat
  deriving DecidableEq, Repr

namespace Snippet

def covers (s : Snippet) (row : Nat) : Bool := s.firstRow ≤ row && row ≤ s.lastRow

end Snippet

structure Page where
  /-- The name of the file that the page was read from, if there is one. -/
  path : Option String
  rows : List String
  sections : List Section
  snippets : List Snippet
  deriving DecidableEq, Repr

namespace Page

open Anchor (Claims slug splitTitle)

/-- The sections that headings open, given the ids in use and the number of sections before. -/
def sectionsFrom (claims : Claims) (order : Nat) : List Markdown.Block → List Section
  | [] => []
  | .heading level row text :: rest =>
    let (title, anchor) := splitTitle (String.ofList (Text.trim text))
    let (id, claims) := claims.claim (anchor.getD (slug title))
    { id, title, level, order, row } :: sectionsFrom claims (order + 1) rest
  | .fenced .. :: rest => sectionsFrom claims order rest

def snippet? : Markdown.Block → Option Snippet
  | .fenced language text firstRow lastRow =>
    some { language := language.map String.ofList, text := String.ofList text, firstRow, lastRow }
  | .heading .. => none

/-- Leaves out each snippet that starts on the same row as the one kept before it. -/
def onePerRow (kept : Option Nat) : List Snippet → List Snippet
  | [] => []
  | s :: rest =>
    if kept = some s.firstRow then onePerRow kept rest else s :: onePerRow (some s.firstRow) rest

def parse (source : String) : Page :=
  let blocks := Markdown.blocks source.toList
  { path := none
    rows := (Text.rows source.toList).map String.ofList
    sections := sectionsFrom .empty 0 blocks
    snippets := onePerRow none (blocks.filterMap snippet?) }

def height (p : Page) : Nat := p.rows.length

def section? (p : Page) (id : String) : Option Section := p.sections.find? (·.id == id)

/-- The sections at most `depth` deep, which the navigation lists. -/
def navigation (p : Page) (depth : Nat) : List Section := p.sections.filter (·.level ≤ depth)

/-- The first snippet that covers a row. -/
def snippetAt? (p : Page) (row : Nat) : Option Nat := p.snippets.findIdx? (·.covers row)

end Page
end DocPager
