/-!
Copying a text and showing for a while that it was copied.  A copy that succeeds lights an
indicator for a fixed time; copying again starts the time anew, and a copy that fails changes
nothing.  Times are milliseconds from some start that all of them share.
-/

namespace DocPager

inductive Clipboard where
  | accepts
  | refuses (reason : String)
  deriving DecidableEq, Repr

inductive CopyError where
  | unavailable (reason : String)
  | emptyText
  deriving DecidableEq, Repr

namespace CopyError

def message : CopyError → String
  | .unavailable reason => "clipboard unavailable: " ++ reason
  | .emptyText => "nothing to copy"

end CopyError

/-- A text and the indicator of its last copy. -/
structure CopyTimer where
  text : String
  /-- How long the indicator is lit after a copy. -/
  hold : Nat
  /-- The time of the copy that lit the indicator. -/
  armedAt : Option Nat
  deriving DecidableEq, Repr

namespace CopyTimer

/-- How long the indicator is lit where nothing else is asked for. -/
def defaultHold : Nat := 2000

def dark (text : String) (hold : Nat) : CopyTimer := { text, hold, armedAt := none }

/-- What comes of copying: the text that the clipboard was given, if it was given any, and the
error if there was one. -/
structure Outcome where
  offered : Option String
  error : Option CopyError
  deriving DecidableEq, Repr

namespace Outcome

/-- The text that is in the clipboard since then. -/
def written (o : Outcome) : Option String := if o.error.isNone then o.offered else none

end Outcome

/-- What copying comes to with a clipboard. -/
def outcome (t : CopyTimer) (clipboard : Clipboard) : Outcome :=
  if t.text.isEmpty then { offered := none, error := some .emptyText }
  else
    match clipboard with
    | .accepts => { offered := some t.text, error := none }
    | .refuses reason => { offered := some t.text, error := some (.unavailable reason) }

def copy (t : CopyTimer) (clipboard : Clipboard) (now : Nat) : CopyTimer :=
  if (t.outcome clipboard).error.isNone then { t with armedAt := some now } else t

def deadline? (t : CopyTimer) : Option Nat := t.armedAt.map (· + t.hold)

def isLit (t : CopyTimer) (now : Nat) : Bool := t.deadline?.any (now < ·)

/-- Whether the indicator is still armed although its time is over. -/
def isExpired (t : CopyTimer) (now : Nat) : Bool := t.deadline?.any (· ≤ now)

def cancel (t : CopyTimer) : CopyTimer := { t with armedAt := none }

/-- Puts the indicator out when its time is over. -/
def tick (t : CopyTimer) (now : Nat) : CopyTimer := if t.isExpired now then t.cancel else t

end CopyTimer
end DocPager
