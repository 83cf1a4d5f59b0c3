import DocPager.Text.Trim
import DocPager.Unicode.Alphanumeric
import DocPager.Unicode.LowerCase

/-!
Anchor ids made from heading titles.  Letters and numbers are kept in lower case, spaces and
hyphens become hyphens, and everything else is left out.
-/

namespace DocPager.Anchor

open Unicode (isAlphanumeric lowerCase)

/-- What one character of a title contributes to its slug. -/
def slugChar (c : Char) : List Char :=
  if isAlphanumeric c || c = '_' then lowerCase c
  else if c = ' ' || c = '-' then ['-']
  else []

def slug (title : String) : String :=
  String.ofList ((Text.trim title.toList).flatMap slugChar)

end DocPager.Anchor
