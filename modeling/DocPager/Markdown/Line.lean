/-!
The lines of a page as the block grammar sees them.  A line ends at a newline, at a carriage return
or at both together, while only a newline ends a row of the page; so lines may share a row.
-/

namespace DocPager.Markdown

structure Line where
  /-- The number of newlines before the line. -/
  row : Nat
  text : List Char
  /-- The characters that end the line.  Only the last line may have none. -/
  ending : List Char
  deriving DecidableEq, Repr

namespace Line

def isTerminated (l : Line) : Bool := !l.ending.isEmpty

def source (l : Line) : List Char := l.text ++ l.ending

end Line

/-- The lines of a text whose first line is on `row` and has `text` read already, newest character
first. -/
def linesFrom (row : Nat) (text : List Char) : List Char → List Line
  | [] => if text.isEmpty then [] else [⟨row, text.reverse, []⟩]
  | '\r' :: '\n' :: rest => ⟨row, text.reverse, ['\r', '\n']⟩ :: linesFrom (row + 1) [] rest
  | c :: rest =>
    if c = '\n' then ⟨row, text.reverse, ['\n']⟩ :: linesFrom (row + 1) [] rest
    else if c = '\r' then ⟨row, text.reverse, ['\r']⟩ :: linesFrom row [] rest
    else linesFrom row (c :: text) rest

def lines (source : List Char) : List Line := linesFrom 0 [] source

end DocPager.Markdown
