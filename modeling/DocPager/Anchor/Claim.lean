/-!
Giving every heading of a page an id of its own.  The first heading with some id gets the id
itself, the next ones get it with a number after it.
-/

namespace DocPager.Anchor

/-- The ids that are in use already, newest first. -/
structure Claims where
  taken : List String

namespace Claims

def empty : Claims := { taken := [] }

/-- The `n`th form of an id: itself at first, then with a number after a hyphen. -/
def variant (base : String) (n : Nat) : String :=
  if n = 0 then base else base ++ "-" ++ toString n

/-- The first form of `base`, from the `n`th on, that is not taken.  At most `tries` forms are
found taken before it. -/
def free (taken : List String) (base : String) (tries n : Nat) : String :=
  match tries with
  | 0 => variant base n
  | tries + 1 =>
    if taken.contains (variant base n) then free taken base tries (n + 1) else variant base n

/-- The id that a heading without one asks for. -/
def orDefault (base : String) : String := if base.isEmpty then "section" else base

/-- The id given for `base`, and the ids in use after that.  As many forms as there are ids in use
can be taken, so the search never needs more tries. -/
def claim (c : Claims) (base : String) : String × Claims :=
  let id := free c.taken (orDefault base) c.taken.length 0
  (id, { taken := id :: c.taken })

def claimAll (c : Claims) : List String → List String
  | [] => []
  | base :: rest =>
    let (id, c) := c.claim base
    id :: c.claimAll rest

end Claims
end DocPager.Anchor
