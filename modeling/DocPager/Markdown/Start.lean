import DocPager.Markdown.Container
import DocPager.Markdown.Fence
import DocPager.Markdown.Html

/-!
What a line starts, behind the containers that it continues: some new containers, and in the
innermost of them the first line of a block.
-/

namespace DocPager.Markdown

inductive Start where
  | blank
  /-- A line of text, which may also go on with a block that is open. -/
  | text
  | heading (level : Nat) (title : List Char)
  | fence (fence : Fence) (info : List Char)
  | html (kind : Html)
  | thematicBreak
  | indented
  deriving DecidableEq, Repr

/-- The level and the text of a heading: up to six number signs, and a blank or the end of the
line behind them. -/
def heading? (body : List Char) : Option (Nat × List Char) :=
  let level := (body.takeWhile (· == '#')).length
  let title := body.drop level
  if 1 ≤ level && level ≤ 6 && (title.isEmpty || title.head?.any isBlank) then some (level, title)
  else none

/-- Whether a text consists of at least three of one of the marks `*`, `-` and `_`, and blanks. -/
def isThematicBreak (body : List Char) : Bool :=
  match body with
  | c :: _ =>
    (c = '*' || c = '-' || c = '_') && body.all (fun d => d == c || isBlank d) && 3 ≤ body.count c
  | [] => false

/-- Whether a text under a paragraph makes a heading of it. -/
def isUnderline (body : List Char) : Bool :=
  match body with
  | c :: _ => (c = '=' || c = '-') && (body.dropWhile (· == c)).all isBlank
  | [] => false

/-- The block that is not a container and starts with a text, `none` for plain text. -/
def leafStart? (inParagraph : Bool) (body : List Char) : Option Start :=
  match heading? body with
  | some (level, title) => some (.heading level title)
  | none =>
    match Fence.open? body with
    | some (fence, info) => some (.fence fence info)
    | none =>
      match Html.start? inParagraph body with
      | some kind => some (.html kind)
      | none => if isThematicBreak body then some .thematicBreak else none

/-- The containers that open from a cursor on, and what starts in the innermost of them.  Each
container takes at least one character of the line, so as many steps as there are characters are
enough.  A paragraph that is open may go on, unless a new container opens first.  It is `near` if
the line continues all containers around it. -/
def openAll (steps : Nat) (inParagraph near : Bool) (c : Cursor) :
    List Container × Start × Cursor :=
  match steps with
  | 0 => ([], .blank, c)
  | steps + 1 =>
    if c.isBlankLine then ([], .blank, c)
    else if Container.maxIndent < c.indent then
      ([], if inParagraph then .text else .indented, c)
    else
      match Container.readQuote? c with
      | some c =>
        let (inner, start, c) := openAll steps false false c
        (.quote :: inner, start, c)
      | none =>
        match leafStart? inParagraph c.body with
        | some start => ([], start, c)
        | none =>
          match Container.markerWidth? (inParagraph && near) c.body with
          | some width =>
            let (item, c) := Container.openItem c width
            let (inner, start, c) := openAll steps false false c
            (item :: inner, start, c)
          | none => ([], .text, c)

end DocPager.Markdown
