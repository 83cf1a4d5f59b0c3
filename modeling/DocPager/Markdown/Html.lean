import DocPager.Markdown.Cursor

/-!
Blocks of HTML, in which no markdown is read.  There are seven kinds, told apart by how they start,
and each has its own way to end.
-/

namespace DocPager.Markdown

inductive Html where
  /-- An element whose content is not markup: `pre`, `script` or `style`. -/
  | verbatim
  | comment
  | instruction
  | declaration
  | characterData
  /-- An element that makes a block of its own, up to a blank line. -/
  | block
  /-- Any other tag that fills a line, up to a blank line. -/
  | other
  deriving DecidableEq, Repr

namespace Html

def verbatimNames : List String := ["pre", "script", "style"]

def blockNames : List String :=
  ["address", "article", "aside", "base", "basefont", "blockquote", "body", "caption", "center",
   "col", "colgroup", "dd", "details", "dialog", "dir", "div", "dl", "dt", "fieldset", "figcaption",
   "figure", "footer", "form", "frame", "frameset", "h1", "h2", "h3", "h4", "h5", "h6", "head",
   "header", "hr", "html", "iframe", "legend", "li", "link", "main", "menu", "menuitem", "nav",
   "noframes", "ol", "optgroup", "option", "p", "param", "section", "source", "summary", "table",
   "tbody", "td", "tfoot", "th", "thead", "title", "tr", "track", "ul"]

def isNameChar (c : Char) : Bool := c.isAlphanum || c = '-'

/-- The tag name at the start of a text, in lower case, and the text behind it. -/
def tagName (s : List Char) : String × List Char :=
  (String.ofList ((s.takeWhile isNameChar).map Char.toLower), s.dropWhile isNameChar)

/-- Whether `word` occurs in a text, upper and lower case being the same. -/
def occurs (word : List Char) : List Char → Bool
  | [] => word.isEmpty
  | c :: rest => word.isPrefixOf ((c :: rest).map Char.toLower) || occurs word rest

/-- The text behind the value of an attribute: quoted, or a run of characters that need no
quotes. -/
def attributeValue? : List Char → Option (List Char)
  | [] => none
  | q :: rest =>
    if q = '"' || q = '\'' then
      match rest.dropWhile (· != q) with
      | _ :: rest => some rest
      | [] => none
    else
      let bare := fun c => !(isBlank c || "\"'=<>\x60".contains c)
      if bare q then some (rest.dropWhile bare) else none

/-- The text behind an attribute, from its name on. -/
def attribute? (s : List Char) : Option (List Char) :=
  match s with
  | c :: rest =>
    if c.isAlpha || c = '_' || c = ':' then
      let rest := rest.dropWhile fun c => c.isAlphanum || "_.:-".contains c
      match rest.dropWhile isBlank with
      | '=' :: value => attributeValue? (value.dropWhile isBlank)
      | _ => some rest
    else none
  | [] => none

/-- The text behind the attributes and the end of an opening tag.  Each attribute stands behind a
blank.  The count bounds the attributes. -/
def tagEnd? : Nat → List Char → Option (List Char)
  | 0, _ => none
  | n + 1, s =>
    let rest := s.dropWhile isBlank
    match rest with
    | '>' :: rest => some rest
    | '/' :: '>' :: rest => some rest
    | _ => if s.head?.any isBlank then (attribute? rest).bind (tagEnd? n) else none

/-- The text behind a complete opening or closing tag at the start of a text. -/
def tag? (s : List Char) : Option (List Char) :=
  match s with
  | '<' :: '/' :: rest =>
    if rest.head?.any Char.isAlpha then
      match (tagName rest).2.dropWhile isBlank with
      | '>' :: rest => some rest
      | _ => none
    else none
  | '<' :: rest =>
    if rest.head?.any Char.isAlpha then tagEnd? (rest.length + 1) (tagName rest).2 else none
  | _ => none

/-- Whether a text starts with an opening or closing tag of an element that makes a block. -/
def startsBlock (s : List Char) : Bool :=
  let (name, rest) := tagName s
  blockNames.contains name &&
    (match rest with
      | [] => true
      | '/' :: '>' :: _ => true
      | c :: _ => isBlank c || c = '>')

def startsVerbatim (s : List Char) : Bool :=
  let (name, rest) := tagName s
  verbatimNames.contains name && (rest.isEmpty || rest.head?.any fun c => isBlank c || c = '>')

/-- The kind of HTML block that starts with a text.  The last kind does not interrupt a
paragraph. -/
def start? (inParagraph : Bool) (body : List Char) : Option Html :=
  match body with
  | '<' :: '!' :: '-' :: '-' :: _ => some .comment
  | '<' :: '?' :: _ => some .instruction
  | '<' :: '!' :: '[' :: 'C' :: 'D' :: 'A' :: 'T' :: 'A' :: '[' :: _ => some .characterData
  | '<' :: '!' :: c :: _ => if c.isUpper then some .declaration else none
  | '<' :: rest =>
    if startsVerbatim rest then some .verbatim
    else if startsBlock rest || (rest.head? = some '/' && startsBlock rest.tail) then some .block
    else if !inParagraph && (tag? body).any (·.all isBlank) then some .other
    else none
  | _ => none

def endsAtOnce (kind : Html) (body : List Char) : Bool :=
  match kind with
  | .verbatim =>
    verbatimNames.any fun name => occurs ("</" ++ name ++ ">").toList body
  | .comment => occurs "-->".toList body
  | .instruction => occurs "?>".toList body
  | .declaration => (body.drop 3).head? = some '>'
  | .characterData => occurs "]]>".toList body
  | .block | .other => false

/-- Whether a later line, given behind its containers, is the last one of a block. -/
def endsWith (kind : Html) (text : List Char) : Bool :=
  match kind with
  | .declaration => text.head? = some '>'
  | _ => kind.endsAtOnce text

def endsBlank : Html → Bool
  | .block | .other => true
  | _ => false

end Html
end DocPager.Markdown
