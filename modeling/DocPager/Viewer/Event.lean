import DocPager.Viewer.Basic

/-!
What the terminal reports, and what the viewer does about it.
-/

namespace DocPager

inductive Key where
  | char (c : Char)
  | escape
  | up
  | down
  | left
  | right
  | pageUp
  | pageDown
  | home
  | endOfPage
  | tab
  | backTab
  | enter
  | function (n : Nat)
  deriving DecidableEq, Repr

inductive KeyPhase where
  | press
  | hold
  | release
  deriving DecidableEq, Repr

structure KeyStroke where
  key : Key
  phase : KeyPhase
  control : Bool
  shift : Bool
  alt : Bool
  deriving DecidableEq, Repr

namespace KeyStroke

/-- A key pressed alone. -/
def plain (key : Key) : KeyStroke :=
  { key, phase := .press, control := false, shift := false, alt := false }

end KeyStroke

inductive MouseAction where
  | wheelDown
  | wheelUp
  | wheelLeft
  | button
  | move
  deriving DecidableEq, Repr

inductive Event where
  | key (stroke : KeyStroke)
  | mouse (action : MouseAction)
  | focus
  | resize
  | paste
  deriving DecidableEq, Repr

/-- An event as it comes in, with its time and with what the clipboard says if the event is a copy. -/
structure Arrival where
  event : Event
  clipboard : Clipboard
  now : Nat
  deriving DecidableEq, Repr

namespace Viewer

def wheelStep : Nat := 3

/-- The place in the navigation that a digit key stands for. -/
def digitIndex? (c : Char) : Option Nat :=
  if '1' ≤ c && c ≤ '9' then some (c.toNat - '1'.toNat) else none

/-- The viewer after a key, `none` if the key closes it.  An escape closes the navigation first if
that is open. -/
def press (v : Viewer) (stroke : KeyStroke) (clipboard : Clipboard) (now : Nat) : Option Viewer :=
  if stroke.control && stroke.key = .char 'c' then none
  else
    match stroke.key with
    | .escape => if v.navOpen then some v.toggleNav else none
    | .char 'q' => none
    | .down | .char 'j' => some (v.scrollBy 1)
    | .up | .char 'k' => some (v.scrollBy (-1))
    | .pageDown | .char ' ' => some v.pageDown
    | .pageUp => some v.pageUp
    | .home | .char 'g' => some (v.scrollTo 0)
    | .endOfPage | .char 'G' => some (v.scrollTo v.maxScroll)
    | .tab => some (v.nextNav?.getD v)
    | .backTab => some (v.prevNav?.getD v)
    | .char ']' => some v.selectNext
    | .char '[' => some v.selectPrevious
    | .char 'c' | .char 'y' => some (v.copy clipboard now)
    | .char 'm' => some v.toggleNav
    | .char c => some (((digitIndex? c).bind v.jumpToNav?).getD v)
    | _ => some v

/-- The viewer after an event, `none` if the event closes it. -/
def handle (v : Viewer) (event : Event) (clipboard : Clipboard) (now : Nat) : Option Viewer :=
  match event with
  | .key stroke => if stroke.phase = .press then v.press stroke clipboard now else some v
  | .mouse .wheelDown => some (v.scrollBy wheelStep)
  | .mouse .wheelUp => some (v.scrollBy (-wheelStep))
  | _ => some v

/-- The viewer after the events that have come in, `none` if one of them closes it. -/
def handleAll (v : Viewer) : List Arrival → Option Viewer
  | [] => some v
  | a :: rest => (v.handle a.event a.clipboard a.now).bind fun w => w.handleAll rest

end Viewer
end DocPager
