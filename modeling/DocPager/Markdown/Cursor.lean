/-!
A place in a line.  Block structure counts columns, and a tab reaches to the next multiple of four,
so a container may use up only a part of a tab.
-/

namespace DocPager.Markdown

def isBlank (c : Char) : Bool := c = ' ' || c = '\t'

/-- The columns that a tab takes when it stands at `column`. -/
def tabWidth (column : Nat) : Nat := 4 - column % 4

/-- The columns taken by the blanks at the start of a text that stands at `column`. -/
def blankColumns (column : Nat) : List Char → Nat
  | [] => 0
  | c :: rest =>
    if c = ' ' then 1 + blankColumns (column + 1) rest
    else if c = '\t' then tabWidth column + blankColumns (column + tabWidth column) rest
    else 0

structure Cursor where
  /-- The columns before `rest`. -/
  column : Nat
  /-- Columns of the last tab read that nothing has used up. -/
  owed : Nat
  /-- The characters read, newest first. -/
  taken : List Char
  rest : List Char

namespace Cursor

def ofLine (text : List Char) : Cursor := { column := 0, owed := 0, taken := [], rest := text }

/-- The columns of blanks before the next visible character. -/
def indent (c : Cursor) : Nat := c.owed + blankColumns c.column c.rest

/-- The text from the next visible character on. -/
def body (c : Cursor) : List Char := c.rest.dropWhile isBlank

def isBlankLine (c : Cursor) : Bool := c.body.isEmpty

/-- Uses up `n` columns of the blanks in `rest`, as far as there are any. -/
def skipFrom (column : Nat) (taken : List Char) (n : Nat) : List Char → Cursor
  | [] => { column, owed := 0, taken, rest := [] }
  | c :: rest =>
    if n = 0 then { column, owed := 0, taken, rest := c :: rest }
    else if c = ' ' then skipFrom (column + 1) (c :: taken) (n - 1) rest
    else if c = '\t' then
      if tabWidth column ≤ n then
        skipFrom (column + tabWidth column) (c :: taken) (n - tabWidth column) rest
      else { column := column + tabWidth column, owed := tabWidth column - n, taken := c :: taken, rest }
    else { column, owed := 0, taken, rest := c :: rest }

def skip (c : Cursor) (n : Nat) : Cursor :=
  if n ≤ c.owed then { c with owed := c.owed - n }
  else skipFrom c.column c.taken (n - c.owed) c.rest

def skipBlanks (c : Cursor) : Cursor := c.skip c.indent

/-- Reads `n` characters, none of them a blank. -/
def read (c : Cursor) (n : Nat) : Cursor where
  column := c.column + n
  owed := 0
  taken := (c.rest.take n).reverse ++ c.taken
  rest := c.rest.drop n

end Cursor
end DocPager.Markdown
