import DocPager.Markdown.Cursor

/-!
Block quotes and list items, the blocks that hold other blocks.  Each line of the page continues
some of the open containers, from the outermost one inwards, and may open new ones.
-/

namespace DocPager.Markdown

inductive Container where
  | quote
  /-- A list item whose lines are indented by `indent` columns.  It is `hollow` while its first
  line, a bare list marker, is all there is of it. -/
  | item (indent : Nat) (hollow : Bool)
  deriving DecidableEq, Repr

namespace Container

/-- The largest indentation at which a block may start. -/
def maxIndent : Nat := 3

/-- The cursor behind a quote marker and the blank that may follow it. -/
def readQuote? (c : Cursor) : Option Cursor :=
  if c.indent ≤ maxIndent && c.body.head? = some '>' then some ((c.skipBlanks.read 1).skip 1)
  else none

/-- The cursor behind what continues a container on the next line, `none` if the line does not
continue it.  A blank line belongs to a list item, but not as the second line of a hollow one. -/
def continue? (k : Container) (c : Cursor) : Option Cursor :=
  match k with
  | .quote => readQuote? c
  | .item indent hollow =>
    if c.isBlankLine then if hollow then none else some (c.skip indent)
    else if indent ≤ c.indent then some (c.skip indent)
    else none

def continued : Container → Container
  | .quote => .quote
  | .item indent _ => .item indent false

/-- The containers that a line continues, and the cursor behind them. -/
def continueAll : List Container → Cursor → List Container × Cursor
  | [], c => ([], c)
  | k :: rest, c =>
    match k.continue? c with
    | none => ([], c)
    | some c =>
      let (held, c) := continueAll rest c
      (k.continued :: held, c)

/-- The width of the list marker at the start of a text, if there is one.  A blank or the end of
the line follows it.  In the middle of a paragraph only an item with text starts a list, and an
ordered one only with a number of one digit. -/
def markerWidth? (inParagraph : Bool) (body : List Char) : Option Nat :=
  let digits := body.takeWhile Char.isDigit
  let width :=
    if digits.isEmpty then
      match body with
      | c :: _ => if c = '-' || c = '*' || c = '+' then some 1 else none
      | [] => none
    else if digits.length ≤ (if inParagraph then 1 else 9) then
      match body.drop digits.length with
      | c :: _ => if c = '.' || c = ')' then some (digits.length + 1) else none
      | [] => none
    else none
  width.filter fun w =>
    match body.drop w with
    | [] => !inParagraph
    | c :: rest => isBlank c && !(inParagraph && rest.all isBlank)

/-- The list item whose marker of the given width is next, and the cursor behind the marker.  Four
columns of blanks after the marker count as its own, more belong to an indented block. -/
def openItem (c : Cursor) (width : Nat) : Container × Cursor :=
  let behind := c.skipBlanks.read width
  if behind.isBlankLine then (.item (c.indent + width + 1) true, behind)
  else
    let gap := if behind.indent ≤ 4 then behind.indent else 1
    (.item (c.indent + width + gap) false, behind.skip gap)

end Container
end DocPager.Markdown
