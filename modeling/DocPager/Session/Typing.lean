import DocPager.Session.Display
import DocPager.Terminal.Input

/-!
A session at the terminal: a first frame, and another one after each portion of input, until a key
closes the viewer.
-/

namespace DocPager.Session

/-- A terminal has no clipboard to copy to. -/
def noClipboard : Clipboard := .refuses "no clipboard"

structure Typing where
  display : Display
  pending : Terminal.Pending
  deriving DecidableEq, Repr

namespace Typing

def start (v : Viewer) (s : Surface) (now : Nat) : Typing :=
  { display := (Display.ofViewer v).settle s now, pending := .nothing }

/-- Takes in characters that have come in together, `none` if they close the viewer. -/
def type (t : Typing) (s : Surface) (input : String) (now : Nat) : Option Typing :=
  let (pending, events) := Terminal.events t.pending input.toList
  let arrivals := events.map fun e => { event := e, clipboard := noClipboard, now }
  (t.display.receive arrivals).map fun d => { display := d.settle s now, pending }

/-- Takes in portions of input until one closes the viewer. -/
def typeAll (t : Typing) (s : Surface) (now : Nat) : List String → Typing
  | [] => t
  | input :: rest =>
    match t.type s input now with
    | some t => t.typeAll s now rest
    | none => t

end Typing
end DocPager.Session
