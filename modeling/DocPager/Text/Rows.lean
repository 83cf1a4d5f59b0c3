/-!
The rows of a page.  A row ends at a newline, with a carriage return before it if there is one; a
lone carriage return is an ordinary character.
-/

namespace DocPager.Text

/-- Takes off the carriage return that belongs to a newline.  The row is given newest character
first. -/
def dropReturn : List Char → List Char
  | '\r' :: row => row
  | row => row

/-- The rows of a text whose first row has `row` read already, newest character first.  Text after
the last newline is a row of its own if there is any. -/
def rowsFrom (row : List Char) : List Char → List (List Char)
  | [] => if row.isEmpty then [] else [row.reverse]
  | c :: rest =>
    if c = '\n' then (dropReturn row).reverse :: rowsFrom [] rest else rowsFrom (c :: row) rest

def rows (text : List Char) : List (List Char) := rowsFrom [] text

end DocPager.Text
