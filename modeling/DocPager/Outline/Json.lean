/-!
Values of JSON and their text.  Each item of a list and each field of a record has a line of its
own, two blanks further in than the line that opens the list or record.
-/

namespace DocPager.Outline

inductive Json where
  | null
  | number (n : Nat)
  | text (s : String)
  | list (items : List Json)
  | record (fields : List (String × Json))

namespace Json

def hexDigit (n : Nat) : Char := ("0123456789abcdef".toList[n]?).getD '0'

/-- A character as it is written between quotes.  Quotes, backslashes and control characters below
the blank are escaped. -/
def escape (c : Char) : List Char :=
  match c with
  | '"' => ['\\', '"']
  | '\\' => ['\\', '\\']
  | '\x08' => ['\\', 'b']
  | '\x0c' => ['\\', 'f']
  | '\n' => ['\\', 'n']
  | '\x0d' => ['\\', 'r']
  | '\t' => ['\\', 't']
  | c =>
    if c < ' ' then ['\\', 'u', '0', '0', hexDigit (c.toNat / 16), hexDigit (c.toNat % 16)] else [c]

def quoted (s : String) : String := "\"" ++ String.ofList (s.toList.flatMap escape) ++ "\""

def newLine (depth : Nat) : String := "\n" ++ String.ofList (List.replicate (2 * depth) ' ')

/-- Brackets around items, which stand one step further in. -/
def bracketed (left right : String) (depth : Nat) (items : List String) : String :=
  if items.isEmpty then left ++ right
  else
    left ++ String.intercalate "," (items.map fun i => newLine (depth + 1) ++ i) ++ newLine depth ++
      right

mutual

/-- The text of a value that stands in `depth` lists and records. -/
def write (depth : Nat) : Json → String
  | .null => "null"
  | .number n => toString n
  | .text s => quoted s
  | .list items => bracketed "[" "]" depth (writeItems (depth + 1) items)
  | .record fields => bracketed "\x7b" "\x7d" depth (writeFields (depth + 1) fields)

def writeItems (depth : Nat) : List Json → List String
  | [] => []
  | item :: rest => write depth item :: writeItems depth rest

def writeFields (depth : Nat) : List (String × Json) → List String
  | [] => []
  | (name, value) :: rest => (quoted name ++ ": " ++ write depth value) :: writeFields depth rest

end

end Json
end DocPager.Outline
