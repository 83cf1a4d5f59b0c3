import DocPager.Markdown.Line
import DocPager.Markdown.Start
import DocPager.Markdown.Table
import DocPager.Text.Trim

/-!
The headings and the fenced blocks of a page, found by reading it line by line.  What is open after
a line, the containers and the block inside them, is all that the next line depends on.
-/

namespace DocPager.Markdown

inductive Block where
  | heading (level row : Nat) (title : List Char)
  | fenced (language : Option (List Char)) (text : List Char) (firstRow lastRow : Nat)
  deriving DecidableEq, Repr

/-- A fenced block under way. -/
structure OpenFence where
  fence : Fence
  language : Option (List Char)
  row : Nat
  /-- The source from the first line of code on, newest character first. -/
  content : List Char
  deriving DecidableEq, Repr

/-- The block that the next line may go on with. -/
inductive Leaf where
  | none
  /-- A paragraph and its last line. -/
  | paragraph (line : List Char)
  | table
  | indented
  | html (kind : Html)
  | fence (f : OpenFence)
  /-- A fenced block whose closing fence was the last line.  It still takes what continues its
  containers on the next line. -/
  | closedFence (f : OpenFence)
  deriving DecidableEq, Repr

namespace OpenFence

/-- The fence with a line of code more.  The first line starts behind its containers, later lines
are taken whole. -/
def extend (f : OpenFence) (c : Cursor) (line : Line) : OpenFence :=
  let code := if f.content.isEmpty then c.rest else line.text
  { f with content := line.ending.reverse ++ code.reverse ++ f.content }

/-- The fence with what continues its containers on the line that ends it, newest character first.
It is a part of the code if there is a line of code before it. -/
def endAt (f : OpenFence) (carried : List Char) : OpenFence :=
  if f.content.isEmpty then f else { f with content := carried ++ f.content }

def block (f : OpenFence) (lastRow : Nat) : Block :=
  .fenced f.language (Text.trimEnd f.content.reverse) f.row lastRow

end OpenFence

/-- The state of reading between two lines. -/
structure Reading where
  /-- The row of the line before, if there is one. -/
  previous : Option Nat
  containers : List Container
  leaf : Leaf
  /-- The finished blocks, newest first. -/
  blocks : List Block
  deriving DecidableEq, Repr

namespace Reading

def start : Reading := { previous := none, containers := [], leaf := .none, blocks := [] }

/-- Whether a heading counts on a line without end.  There it needs a text, and if it is all of the
page a text of more than one word. -/
def headingCounts (r : Reading) (containers : List Container) (title : List Char) (line : Line) :
    Bool :=
  let words := (title.dropWhile isBlank).reverse.dropWhile isBlank
  line.isTerminated ||
    (!words.isEmpty && (r.previous.isSome || !containers.isEmpty || words.any isBlank))

/-- Opens the block that starts on a line, inside the given containers. -/
def enter (r : Reading) (containers : List Container) (start : Start) (c : Cursor) (line : Line) :
    Reading :=
  match start with
  | .blank | .thematicBreak => { r with containers, leaf := .none }
  | .text => { r with containers, leaf := .paragraph c.body }
  | .indented => { r with containers, leaf := .indented }
  | .html kind =>
    { r with containers, leaf := if kind.endsAtOnce c.body then .none else .html kind }
  | .heading level title =>
    let found := if r.headingCounts containers title line then [.heading level line.row title] else []
    { r with containers, leaf := .none, blocks := found ++ r.blocks }
  | .fence fence info =>
    let opened := { fence, language := Fence.language? info, row := line.row, content := [] }
    { r with containers, leaf := if line.isTerminated then .fence opened else .none }

/-- Reads a line that does not belong to a fenced, indented or HTML block: it starts a new block or
goes on with a paragraph or a table.  The line continues the containers `held`, which are all that
are open if `all` is true.  A paragraph also goes on where the line misses some containers. -/
def resume (r : Reading) (held : List Container) (all : Bool) (c : Cursor) (line : Line) :
    Reading :=
  let inParagraph := match r.leaf with
    | .paragraph _ => true
    | _ => false
  if all && inParagraph && c.indent ≤ Container.maxIndent && isUnderline c.body then
    { r with containers := held, leaf := .none }
  else
    let (opened, start, inner) := openAll (c.rest.length + 1) inParagraph all c
    if opened.isEmpty && start == .text then
      match r.leaf, all with
      | .paragraph _, false => r
      | .paragraph header, true =>
        let leaf := if Table.isDelimiterRow header c.body then .table else .paragraph c.body
        { r with containers := held, leaf }
      | .table, true => { r with containers := held }
      | _, _ => r.enter held start inner line
    else r.enter (held ++ opened) start inner line

def read (r : Reading) (line : Line) : Reading :=
  let (held, c) := Container.continueAll r.containers (.ofLine line.text)
  let all := held.length == r.containers.length
  let closed := { r with leaf := .none }
  let next :=
    match r.leaf with
    | .none | .paragraph _ | .table => r.resume held all c line
    | .indented =>
      if all && (c.isBlankLine || Container.maxIndent < c.indent) then { r with containers := held }
      else closed.resume held all c line
    | .html kind =>
      if all then
        let ends := if c.isBlankLine then kind.endsBlank else kind.endsWith c.rest
        { r with containers := held, leaf := if ends then .none else .html kind }
      else closed.resume held all c line
    | .fence f =>
      if all then
        let leaf : Leaf :=
          if c.indent ≤ Container.maxIndent && f.fence.closedBy c.body then
            .closedFence (f.endAt c.taken)
          else .fence (f.extend c line)
        { r with containers := held, leaf }
      else
        let last := if c.taken.isEmpty then r.previous.getD f.row else line.row
        { closed with blocks := (f.endAt c.taken).block last :: r.blocks }.resume held all c line
    | .closedFence f =>
      let last := if c.taken.isEmpty then r.previous.getD f.row else line.row
      { closed with blocks := f.block last :: r.blocks }.resume held all c line
  { next with previous := some line.row }

/-- The blocks of the page when there are no more lines, in the order in which they start. -/
def finish (r : Reading) : List Block :=
  let blocks :=
    match r.leaf with
    | .fence f | .closedFence f => f.block (r.previous.getD f.row) :: r.blocks
    | _ => r.blocks
  blocks.reverse

end Reading

/-- The byte order mark that may stand before the first line. -/
def byteOrderMark : Char := '\ufeff'

/-- Whether a line opens or closes front matter: three of a mark and blanks behind them. -/
def isFrontMatterFence (mark : Char) (l : Line) : Bool :=
  l.isTerminated && (l.text.take 3 == [mark, mark, mark]) && (l.text.drop 3).all isBlank

/-- The lines behind the front matter, if the first line opens some and a later one closes it. -/
def skipFrontMatter : List Line → List Line
  | [] => []
  | first :: rest =>
    let behind := fun mark =>
      if isFrontMatterFence mark first then
        match rest.dropWhile fun l => !isFrontMatterFence mark l with
        | _ :: lines => some lines
        | [] => none
      else none
    ((behind '-').orElse fun _ => behind '+').getD (first :: rest)

/-- The headings and fenced blocks of a page, in the order of the page. -/
def blocks (source : List Char) : List Block :=
  let source := if source.head? = some byteOrderMark then source.tail else source
  let all := lines source
  let body := skipFrontMatter all
  let start : Reading := { Reading.start with previous := if body.length == all.length then none else some 0 }
  (body.foldl Reading.read start).finish

end DocPager.Markdown
