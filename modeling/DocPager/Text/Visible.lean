/-!
What of a text may be repeated in a message.  Control characters are left out unless they are white
space, and so are the sequences that a terminal would take for commands.
-/

namespace DocPager.Text

inductive CommandState where
  | outside
  | begun
  /-- Behind the bracket that announces parameters. -/
  | inParameters
  deriving DecidableEq, Repr

def isVisible (c : Char) : Bool :=
  (' ' ≤ c && c != '\x7f') || c = '\t' || c = '\n' || c = '\x0c' || c = '\x0d'

/-- Leaves out what is not visible from a text that starts in `state`. -/
def visibleFrom (state : CommandState) : List Char → List Char
  | [] => []
  | c :: rest =>
    if c = '\x1b' then visibleFrom .begun rest
    else
      match state with
      | .outside => if isVisible c then c :: visibleFrom .outside rest else visibleFrom .outside rest
      | .begun => visibleFrom (if c = '[' then .inParameters else .outside) rest
      | .inParameters => visibleFrom (if '@' ≤ c then .outside else .inParameters) rest

def visible (s : List Char) : List Char := visibleFrom .outside s

end DocPager.Text
