import DocPager.Screen.Draw
import DocPager.Viewer.Event

/-!
The viewer between two events.  In each round the indicators whose time is over go out, the last
scroll is evaluated, and a frame is drawn if there is something new to show.  Drawing may fit the
viewer to a smaller rest of the page and so scroll it; then another round follows before the next
event.
-/

namespace DocPager.Session

open Highlight (CodeRow)
open Screen (CellRow)

/-- A screen and the coloured code to show on it. -/
structure Surface where
  width : Nat
  height : Nat
  code : List CodeRow
  deriving DecidableEq, Repr

/-- A viewer and the last frame that was drawn of it. -/
structure Display where
  viewer : Viewer
  screen : List CellRow
  /-- Whether a frame is due. -/
  stale : Bool
  deriving DecidableEq, Repr

namespace Display

def ofViewer (v : Viewer) : Display := { viewer := v, screen := [], stale := true }

def draws (d : Display) (now : Nat) : Bool :=
  d.stale || d.viewer.expires now || (d.viewer.tick now).tracker.isDirty

/-- A round that looks at the indicators at time `now`.  A frame that is due is drawn at time
`drawn`. -/
def round (d : Display) (s : Surface) (now drawn : Nat) : Display :=
  let v := (d.viewer.tick now).flush
  if d.draws now then
    { viewer := v.fit s.height, screen := v.draw s.code s.width s.height drawn, stale := false }
  else { d with viewer := v }

/-- Only a round that scrolls up leaves a scroll to evaluate. -/
theorem scroll_lt_of_isDirty_round {d : Display} {s : Surface} {now drawn : Nat}
    (h : (d.round s now drawn).viewer.tracker.isDirty = true) :
    (d.round s now drawn).viewer.scroll < d.viewer.scroll := by
  have clean : ((d.viewer.tick now).flush).tracker.isDirty = false := Tracker.isDirty_flush _ _
  unfold round at h ⊢
  simp only at h ⊢
  split at h
  · next hd =>
    rw [if_pos hd]
    rcases Viewer.isDirty_resize h with hv | hv
    · rw [clean] at hv
      cases hv
    · exact hv
  · rw [clean] at h
    cases h

/-- Rounds follow until no scroll is left to evaluate, all of them at one time. -/
def settle (d : Display) (s : Surface) (now : Nat) : Display :=
  let next := d.round s now now
  if _h : next.viewer.tracker.isDirty = true then next.settle s now else next
termination_by d.viewer.scroll
decreasing_by exact scroll_lt_of_isDirty_round _h

/-- Takes in events, after which a frame is due. -/
def receive (d : Display) (arrivals : List Arrival) : Option Display :=
  (d.viewer.handleAll arrivals).map fun v => { d with viewer := v, stale := true }

end Display
end DocPager.Session
