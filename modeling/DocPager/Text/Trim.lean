import DocPager.Unicode.WhiteSpace

/-!
Taking white space off the ends of a text.
-/

namespace DocPager.Text

open Unicode (isWhiteSpace)

def trimStart (s : List Char) : List Char := s.dropWhile isWhiteSpace

def trimEnd (s : List Char) : List Char := (s.reverse.dropWhile isWhiteSpace).reverse

def trim (s : List Char) : List Char := trimStart (trimEnd s)

end DocPager.Text
