import DocPager.Markdown.Cursor

/-!
The fences around code: rows of at least three backticks or tildes.  An opening fence may carry an
info string, whose first word names the language.
-/

namespace DocPager.Markdown

structure Fence where
  mark : Char
  length : Nat
  deriving DecidableEq, Repr

namespace Fence

/-- The fence at the start of a text, and its info string.  There is no backtick in the info string
of a fence of backticks. -/
def open? : List Char → Option (Fence × List Char)
  | [] => none
  | c :: rest =>
    if c = '\x60' || c = '~' then
      let length := 1 + (rest.takeWhile (· == c)).length
      let info := (rest.dropWhile (· == c)).dropWhile isBlank
      if length < 3 || (c = '\x60' && info.contains c) then none else some (⟨c, length⟩, info)
    else none

/-- Whether a text is a fence that closes `f`: at least as long, with only blanks behind it. -/
def closedBy (f : Fence) (body : List Char) : Bool :=
  let run := body.takeWhile (· == f.mark)
  f.length ≤ run.length && (body.drop run.length).all isBlank

def isPunctuation (c : Char) : Bool :=
  ('!' ≤ c && c ≤ '/') || (':' ≤ c && c ≤ '@') || ('[' ≤ c && c ≤ '\x60') ||
    ('\x7b' ≤ c && c ≤ '~')

/-- The word at the start of an info string.  Blanks, braces and commas end it, but not behind a
backslash, and an empty task box is a part of it. -/
def word : List Char → List Char
  | [] => []
  | '\\' :: c :: rest =>
    if isPunctuation c then '\\' :: c :: word rest
    else '\\' :: word (c :: rest)
  | '[' :: c :: ']' :: rest =>
    if isBlank c then '[' :: c :: ']' :: word rest
    else '[' :: word (c :: ']' :: rest)
  | c :: rest =>
    if isBlank c || c = '\x7b' || c = '\x7d' || c = ',' then [] else c :: word rest

/-- The language that an info string names, `none` if there is nothing, or a blank, behind the braces
that it starts with.  A comma in that place makes the language an empty word. -/
def language? (info : List Char) : Option (List Char) :=
  let named := info.dropWhile fun c => c = '\x7b' || c = '\x7d'
  if named.isEmpty || named.head?.any isBlank then none else some (word named)

end Fence
end DocPager.Markdown
