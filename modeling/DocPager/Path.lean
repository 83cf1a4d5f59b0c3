/-!
Paths of files, with slashes between their parts.
-/

namespace DocPager

/-- The names that a path goes through, from the root or from the current folder.  A part for the
same folder is left out. -/
structure Path where
  fromRoot : Bool
  names : List String
  /-- Whether the path ends with a slash. -/
  endsInSlash : Bool
  /-- Whether the path ends with a slash or with a part for the same folder, so that it cannot lead
  to a file. -/
  asksFolder : Bool
  deriving DecidableEq, Repr

namespace Path

/-- The parts of a text between its slashes, given the part under way, newest character first. -/
def split (part : List Char) : List Char → List (List Char)
  | [] => [part.reverse]
  | c :: rest => if c = '/' then part.reverse :: split [] rest else split (c :: part) rest

def isHere (part : List Char) : Bool := part = [] || part = ['.']

def ofString (path : String) : Path :=
  let parts := split [] path.toList
  { fromRoot := path.toList.head? = some '/'
    names := (parts.filter fun p => !isHere p).map String.ofList
    endsInSlash := parts.getLast? = some []
    asksFolder := parts.getLast?.any isHere }

/-- The name of the file that a path leads to.  There is none for the folder above. -/
def fileName? (p : Path) : Option String := p.names.getLast?.filter (· != "..")

end Path
end DocPager
