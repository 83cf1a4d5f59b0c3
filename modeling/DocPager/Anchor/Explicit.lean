import DocPager.Text.Trim

/-!
Anchors written out at the end of a heading title, as in `Usage {#use}`.
-/

namespace DocPager.Anchor

open Unicode (isWhiteSpace)

/-- Splits a text at its last `{#`, which is left out. -/
def splitAtLastOpening : List Char → Option (List Char × List Char)
  | [] => none
  | c :: rest =>
    match splitAtLastOpening rest with
    | some (before, after) => some (c :: before, after)
    | none => if c = '\x7b' && rest.head? = some '#' then some ([], rest.tail) else none

/-- Whether a text can be an anchor id: it is not empty and has no white space. -/
def isId (s : List Char) : Bool := !s.isEmpty && !s.any isWhiteSpace

/-- The bare title and the id of a text that ends in an explicit anchor, `none` for any other text.
The text has no white space at its end. -/
def explicit? (s : List Char) : Option (List Char × List Char) :=
  if s.getLast? = some '\x7d' then
    match splitAtLastOpening s.dropLast with
    | some (before, after) =>
      if isId (Text.trim after) then some (Text.trimEnd before, Text.trim after) else none
    | none => none
  else none

/-- The title without white space at its end and without an explicit anchor, and the id that the
anchor gives. -/
def splitTitle (title : String) : String × Option String :=
  let s := Text.trimEnd title.toList
  match explicit? s with
  | some (before, id) => (String.ofList before, some (String.ofList id))
  | none => (String.ofList s, none)

end DocPager.Anchor
