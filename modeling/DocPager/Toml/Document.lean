import DocPager.Toml.Quoted
import DocPager.Toml.Table

/-!
Reading a document of TOML 1.0.  A reader takes a value off the start of a text and gives what is
left of the text, or fails.
-/

namespace DocPager.Toml

open Quoted (isBlank isControl)

def skipBlanks (s : List Char) : List Char := s.dropWhile isBlank

/-- Skips white space, line ends and comments. -/
def skipLines? (inComment : Bool) : List Char → Option (List Char)
  | [] => some []
  | c :: rest =>
    if c = '\n' then skipLines? false rest
    else if c = '\r' && rest.head? = some '\n' then skipLines? false rest
    else if inComment then if isControl c then none else skipLines? true rest
    else if isBlank c then skipLines? false rest
    else if c = '#' then skipLines? true rest
    else some (c :: rest)

/-- Reads the rest of a line, on which only a comment may still stand. -/
def endLine? (inComment : Bool) : List Char → Option (List Char)
  | [] => some []
  | c :: rest =>
    if c = '\n' then some rest
    else if c = '\r' && rest.head? = some '\n' then some rest.tail
    else if inComment then if isControl c then none else endLine? true rest
    else if isBlank c then endLine? false rest
    else if c = '#' then endLine? true rest
    else none

def isKeyChar (c : Char) : Bool := c.isAlphanum || c = '_' || c = '-'

/-- Reads one part of a key: a bare word, or a text in quotes on one line. -/
def keyPart? (s : List Char) : Option (String × List Char) :=
  match s with
  | '"' :: rest => (Quoted.basic? .plain [] rest).map fun (k, rest) => (String.ofList k, rest)
  | '\'' :: rest => (Quoted.literal? [] rest).map fun (k, rest) => (String.ofList k, rest)
  | _ =>
    let word := s.takeWhile isKeyChar
    if word.isEmpty then none else some (String.ofList word, s.dropWhile isKeyChar)

/-- Reads a key with dots between its parts, of which there are at most `steps`, and the blanks
behind it. -/
def key? (steps : Nat) (s : List Char) : Option (List String × List Char) :=
  match steps with
  | 0 => none
  | steps + 1 => do
    let (part, rest) ← keyPart? (skipBlanks s)
    match skipBlanks rest with
    | '.' :: rest =>
      let (parts, rest) ← key? steps rest
      return (part :: parts, rest)
    | rest => return ([part], rest)

mutual

/-- Reads a value.  Each step takes at least one character, so as many steps as there are
characters are enough. -/
def value? (steps : Nat) (s : List Char) : Option (Value × List Char) :=
  match steps with
  | 0 => none
  | steps + 1 =>
    match s with
    | '[' :: rest => (items? steps rest).map fun (l, rest) => (.array l, rest)
    | '\x7b' :: rest => do
      let (pairs, rest) ←
        match skipBlanks rest with
        | '\x7d' :: rest => some ([], rest)
        | rest => pairs? steps rest
      let _ ← Entries.ofPairs? pairs
      return (.record pairs, rest)
    | c :: _ =>
      if c = '"' || c = '\'' then
        (Quoted.read? s).map fun (t, rest) => (.text (String.ofList t), rest)
      else (Scalar.read? s).map fun (v, rest) => (.scalar v, rest)
    | [] => none

/-- Reads the items of an array and its closing bracket. -/
def items? (steps : Nat) (s : List Char) : Option (List Value × List Char) :=
  match steps with
  | 0 => none
  | steps + 1 => do
    match ← skipLines? false s with
    | ']' :: rest => return ([], rest)
    | s =>
      let (v, rest) ← value? steps s
      match ← skipLines? false rest with
      | ',' :: rest =>
        let (l, rest) ← items? steps rest
        return (v :: l, rest)
      | ']' :: rest => return ([v], rest)
      | _ => none

/-- Reads the entries of a table in braces, of which there is at least one, and its closing
brace. -/
def pairs? (steps : Nat) (s : List Char) : Option (List (List String × Value) × List Char) :=
  match steps with
  | 0 => none
  | steps + 1 => do
    let (key, rest) ← key? (s.length + 1) s
    match rest with
    | '=' :: rest =>
      let (v, rest) ← value? steps (skipBlanks rest)
      match skipBlanks rest with
      | ',' :: rest =>
        let (l, rest) ← pairs? steps rest
        return ((key, v) :: l, rest)
      | '\x7d' :: rest => return ([(key, v)], rest)
      | _ => none
    | _ => none

end

structure Document where
  entries : Entries
  /-- The table that the last header opened. -/
  header : List String

namespace Document

def empty : Document := { entries := [], header := [] }

/-- Reads a header from behind its opening brackets, of which there are two if `many` is true. -/
def header? (d : Document) (many : Bool) (s : List Char) : Option (Document × List Char) := do
  let (path, rest) ← key? (s.length + 1) s
  let rest ←
    match many, rest with
    | true, ']' :: ']' :: rest => some rest
    | false, ']' :: rest => some rest
    | _, _ => none
  let entries ← d.entries.open? many path
  return ({ entries, header := path }, ← endLine? false rest)

def pair? (d : Document) (s : List Char) : Option (Document × List Char) := do
  let (path, rest) ← key? (s.length + 1) s
  match rest with
  | '=' :: rest =>
    let (v, rest) ← value? (rest.length + 1) (skipBlanks rest)
    let entries ← d.entries.within? d.header (Entries.insert? true path v)
    return ({ d with entries }, ← endLine? false rest)
  | _ => none

/-- Reads what stands on one line: a header, a pair of key and value, or nothing. -/
def line? (d : Document) (s : List Char) : Option (Document × List Char) :=
  match skipBlanks s with
  | '[' :: '[' :: rest => d.header? true rest
  | '[' :: rest => d.header? false rest
  | [] => some (d, [])
  | c :: rest =>
    if c = '#' || c = '\n' || c = '\r' then (endLine? false (c :: rest)).map fun rest => (d, rest)
    else d.pair? (c :: rest)

/-- Reads line after line.  Each takes at least one character of the text. -/
def lines? (steps : Nat) (d : Document) (s : List Char) : Option Document :=
  if s.isEmpty then some d
  else
    match steps with
    | 0 => none
    | steps + 1 => (d.line? s).bind fun (d, rest) => d.lines? steps rest

end Document

/-- The entries of a document, `none` if it is not valid TOML.  A byte order mark before it is
skipped. -/
def parse? (source : String) : Option Entries :=
  let s := match source.toList with
    | '\ufeff' :: rest => rest
    | s => s
  (Document.empty.lines? s.length s).map (·.entries)

end DocPager.Toml
