import DocPager.Markdown.Cursor

/-!
Tables with pipes between their cells.  A table is a line of headers with a delimiter row of as many
cells under it.
-/

namespace DocPager.Markdown.Table

def pipes : List Char → Nat
  | [] => 0
  | '\\' :: _ :: rest => pipes rest
  | c :: rest => (if c = '|' then 1 else 0) + pipes rest

def endsInPipe (s : List Char) : Bool :=
  match (s.reverse.dropWhile isBlank) with
  | '|' :: '\\' :: _ => false
  | '|' :: _ => true
  | _ => false

/-- The number of cells in a row, given from its first visible character on. -/
def cells (s : List Char) : Nat :=
  pipes s + 1 - (if s.head? = some '|' then 1 else 0) - (if endsInPipe s then 1 else 0)

/-- Whether a text is the delimiter of one cell: hyphens, with a colon on either side or not. -/
def isDelimiter (s : List Char) : Bool :=
  let s := (s.dropWhile isBlank)
  let s := if s.head? = some ':' then s.tail else s
  let dashes := s.takeWhile (· == '-')
  let s := s.drop dashes.length
  let s := if s.head? = some ':' then s.tail else s
  !dashes.isEmpty && s.all isBlank

/-- The texts between the pipes of a row. -/
def between (cell : List Char) : List Char → List (List Char)
  | [] => [cell.reverse]
  | c :: rest => if c = '|' then cell.reverse :: between [] rest else between (c :: cell) rest

/-- Whether `row` can stand under `header` to make a table. -/
def isDelimiterRow (header row : List Char) : Bool :=
  let inner := between [] row
  let inner := if row.head? = some '|' then inner.tail else inner
  let inner := if endsInPipe row then inner.dropLast else inner
  row.contains '|' && !inner.isEmpty && inner.all isDelimiter && inner.length == cells header

end DocPager.Markdown.Table
