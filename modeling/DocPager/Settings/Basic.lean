import DocPager.Tracker

/-!
What a reader can set, in the file of settings or on the command line.
-/

namespace DocPager

structure Settings where
  threshold : Int
  scrolledOffset : Int
  /-- How long a snippet is shown as copied, in milliseconds. -/
  copiedFor : Nat
  /-- The deepest level of heading that the navigation lists. -/
  navDepth : Nat
  /-- The shortest time between two frames, in milliseconds. -/
  frameTime : Nat
  theme : String
  deriving DecidableEq, Repr

namespace Settings

def standard : Settings where
  threshold := 3
  scrolledOffset := 1
  copiedFor := 2000
  navDepth := 2
  frameTime := 16
  theme := "base16-ocean.dark"

def limits (s : Settings) : Limits :=
  { threshold := s.threshold, scrolledOffset := s.scrolledOffset }

/-- The time between frames is never zero. -/
def frameInterval (s : Settings) : Nat := max s.frameTime 1

end Settings
end DocPager
