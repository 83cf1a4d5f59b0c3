import DocPager.Page.Basic

/-!
Which section of a page the reader is in.  It is the last one whose heading has come to within a
threshold of the top of the view; while no heading has, it stays what it was.  A scroll is noted at
once and evaluated later, so that many scrolls between two frames need one evaluation.
-/

namespace DocPager

/-- The distances, in rows, that a tracker goes by. -/
structure Limits where
  /-- A heading at most this far below the top has arrived. -/
  threshold : Int
  /-- The page counts as scrolled when it is scrolled further than this. -/
  scrolledOffset : Int
  deriving DecidableEq, Repr

namespace Limits

def standard : Limits := { threshold := 100, scrolledOffset := 20 }

end Limits

/-- Tells how far below the top of the view the heading of a section is, given the id of the
section, and `none` if it cannot be measured. -/
abbrev Anchors := String → Option Int

inductive TrackerError where
  | noSections
  | unknownSection (id : String)
  deriving DecidableEq, Repr

namespace TrackerError

def message : TrackerError → String
  | .noSections => "no sections to track"
  | .unknownSection id => "unknown section id: " ++ id

end TrackerError

structure Tracker where
  /-- The sections in their order on the page. -/
  sections : List Section
  limits : Limits
  /-- The id of the active section. -/
  current : String
  scrolled : Bool
  /-- The last scroll offset that is not evaluated yet. -/
  pending : Option Int
  deriving DecidableEq, Repr

namespace Tracker

/-- Puts a section in front of the first one that does not come before it. -/
def place (s : Section) : List Section → List Section
  | [] => [s]
  | t :: rest => if s.order ≤ t.order then s :: t :: rest else t :: place s rest

/-- The sections in the order of their places.  Sections of one place keep their order. -/
def inOrder (sections : List Section) : List Section := sections.foldr place []

def start (sections : List Section) (limits : Limits) : Except TrackerError Tracker :=
  match inOrder sections with
  | [] => .error .noSections
  | first :: rest =>
    .ok { sections := first :: rest, limits, current := first.id, scrolled := false, pending := none }

def contains (t : Tracker) (id : String) : Bool := t.sections.any (·.id == id)

def withCurrent (t : Tracker) (id : String) : Except TrackerError Tracker :=
  if t.contains id then .ok { t with current := id } else .error (.unknownSection id)

/-- The place of the active section in the list. -/
def currentIndex (t : Tracker) : Nat := (t.sections.findIdx? (·.id == t.current)).getD 0

def noteScroll (t : Tracker) (offset : Int) : Tracker := { t with pending := some offset }

def isDirty (t : Tracker) : Bool := t.pending.isSome

/-- The last section whose heading has arrived. -/
def arrived? (t : Tracker) (anchors : Anchors) : Option Section :=
  t.sections.reverse.find? fun s => (anchors s.id).any fun top => top ≤ t.limits.threshold

/-- Whether evaluating makes another section the active one. -/
def moves (t : Tracker) (anchors : Anchors) : Bool :=
  (t.arrived? anchors).any (·.id != t.current)

/-- Finds the active section anew for a page scrolled to `offset`. -/
def evaluate (t : Tracker) (offset : Int) (anchors : Anchors) : Tracker :=
  { t with
    scrolled := t.limits.scrolledOffset < offset
    current := ((t.arrived? anchors).map (·.id)).getD t.current }

/-- Evaluates the last scroll noted, if there is one. -/
def flush (t : Tracker) (anchors : Anchors) : Tracker :=
  match t.pending with
  | some offset => { t with pending := none }.evaluate offset anchors
  | none => t

@[simp] theorem isDirty_evaluate (t : Tracker) (offset : Int) (anchors : Anchors) :
    (t.evaluate offset anchors).isDirty = t.isDirty := rfl

@[simp] theorem isDirty_flush (t : Tracker) (anchors : Anchors) :
    (t.flush anchors).isDirty = false := by
  unfold flush
  split
  · rfl
  · next h => simp [isDirty, h]

def flushMoves (t : Tracker) (anchors : Anchors) : Bool := t.isDirty && t.moves anchors

end Tracker
end DocPager
