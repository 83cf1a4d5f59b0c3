import DocPager.Toml.Scalar

/-!
Texts in quotes.  Double quotes allow escapes and single quotes do not; three quotes enclose a text
of several lines.
-/

namespace DocPager.Toml.Quoted

/-- Whether a character may not stand in a quoted text or in a comment.  A tab may. -/
def isControl (c : Char) : Bool := (c < ' ' && c != '\t') || c = '\x7f'

def isBlank (c : Char) : Bool := c = ' ' || c = '\t'

inductive Mode where
  | plain
  | escape
  /-- In the digits of an escape for a code point, with the number of digits that are missing and
  the value of those read. -/
  | code (missing value : Nat)
  /-- Behind a backslash that stands at the end of a line, before the end of that line. -/
  | fold
  /-- In the white space at the start of a line that goes on with the one before. -/
  | skip
  deriving DecidableEq, Repr

def escaped? (c : Char) : Option Char :=
  match c with
  | 'b' => some '\x08'
  | 't' => some '\t'
  | 'n' => some '\n'
  | 'f' => some '\x0c'
  | 'r' => some '\x0d'
  | '"' => some '"'
  | '\\' => some '\\'
  | _ => none

/-- The mode and the text, newest character first, after one more character of an escape. -/
def escape? (mode : Mode) (text : List Char) (c : Char) : Option (Mode × List Char) :=
  match mode with
  | .code missing value =>
    if Scalar.isDigitOf 16 c then
      let value := 16 * value + Scalar.digitValue c
      if 1 < missing then some (.code (missing - 1) value, text)
      else if value.isValidChar then some (.plain, Char.ofNat value :: text)
      else none
    else none
  | _ =>
    if c = 'u' then some (.code 4 0, text)
    else if c = 'U' then some (.code 8 0, text)
    else (escaped? c).map fun e => (.plain, e :: text)

/-- Reads a text in double quotes, from behind the opening quote. -/
def basic? (mode : Mode) (text : List Char) : List Char → Option (List Char × List Char)
  | [] => none
  | c :: rest =>
    if mode = .plain then
      if c = '"' then some (text.reverse, rest)
      else if c = '\\' then basic? .escape text rest
      else if isControl c then none
      else basic? .plain (c :: text) rest
    else (escape? mode text c).bind fun (mode, text) => basic? mode text rest

/-- Reads a text in single quotes, from behind the opening quote. -/
def literal? (text : List Char) : List Char → Option (List Char × List Char)
  | [] => none
  | c :: rest =>
    if c = '\'' then some (text.reverse, rest)
    else if isControl c then none
    else literal? (c :: text) rest

/-- Reads a text in three quotes each side, from behind the opening ones.  Five quotes in a row are
two of the text and the closing ones; `quotes` counts those just read. -/
def long? (quote : Char) (mode : Mode) (quotes : Nat) (text : List Char) :
    List Char → Option (List Char × List Char)
  | [] => if 3 ≤ quotes then some ((List.replicate (quotes - 3) quote ++ text).reverse, []) else none
  | c :: rest =>
    match mode with
    | .plain =>
      if c = quote then
        if quotes = 4 then some ((quote :: quote :: text).reverse, rest)
        else long? quote .plain (quotes + 1) text rest
      else if 3 ≤ quotes then
        some ((List.replicate (quotes - 3) quote ++ text).reverse, c :: rest)
      else
        let text := List.replicate quotes quote ++ text
        if c = '\\' && quote = '"' then long? quote .escape 0 text rest
        else if c = '\n' then long? quote .plain 0 (c :: text) rest
        else if c = '\r' then
          if rest.head? = some '\n' then long? quote .plain 0 text rest else none
        else if isControl c then none
        else long? quote .plain 0 (c :: text) rest
    | .escape | .code .. =>
      if mode = .escape && (isBlank c || c = '\n' || c = '\r') then
        if c = '\n' then long? quote .skip 0 text rest
        else if c = '\r' && rest.head? != some '\n' then none
        else long? quote .fold 0 text rest
      else
        match escape? mode text c with
        | some (mode, text) => long? quote mode 0 text rest
        | none => none
    | .fold =>
      if isBlank c then long? quote .fold 0 text rest
      else if c = '\n' then long? quote .skip 0 text rest
      else if c = '\r' && rest.head? = some '\n' then long? quote .fold 0 text rest
      else none
    | .skip =>
      if isBlank c || c = '\n' || (c = '\r' && rest.head? = some '\n') then
        long? quote .skip 0 text rest
      else if c = quote then long? quote .plain 1 text rest
      else if c = '\\' && quote = '"' then long? quote .escape 0 text rest
      else if isControl c then none
      else long? quote .plain 0 (c :: text) rest

/-- Leaves out the line end right behind the opening quotes. -/
def dropLineEnd : List Char → List Char
  | '\n' :: rest => rest
  | '\r' :: '\n' :: rest => rest
  | s => s

/-- Reads a text in quotes of any kind, `none` if there is none. -/
def read? : List Char → Option (List Char × List Char)
  | '"' :: '"' :: '"' :: rest => long? '"' .plain 0 [] (dropLineEnd rest)
  | '\'' :: '\'' :: '\'' :: rest => long? '\'' .plain 0 [] (dropLineEnd rest)
  | '"' :: rest => basic? .plain [] rest
  | '\'' :: rest => literal? [] rest
  | _ => none

end DocPager.Toml.Quoted
