import DocPager.CopyTimer
import DocPager.Settings.Basic

/-!
The state of a page on screen: how far it is scrolled, which section is active, which snippet is
chosen and which indicators are lit.  Every operation keeps the scroll within the page.
-/

namespace DocPager

/-- What the help bar says instead of the help. -/
inductive Notice where
  | noSnippet
  | copied
  | copyFailed
  | unknownSection (id : String)
  deriving DecidableEq, Repr

namespace Notice

def text : Notice → String
  | .noSnippet => "No snippet on screen"
  | .copied => "Copied to clipboard"
  | .copyFailed => "Copy failed"
  | .unknownSection id => "Unknown section: " ++ id

end Notice

structure Viewer where
  page : Page
  tracker : Tracker
  /-- One timer for each snippet of the page, in the same order. -/
  timers : List CopyTimer
  /-- The first row on screen. -/
  scroll : Nat
  /-- The number of rows that fit on screen. -/
  height : Nat
  /-- The snippet that the copy key goes to. -/
  selected : Option Nat
  navOpen : Bool
  notice : Option Notice
  deriving DecidableEq, Repr

namespace Viewer

/-- How far the heading of a section is below the top of a view of `page` scrolled to `scroll`. -/
def anchorTop (page : Page) (scroll : Nat) : Anchors :=
  fun id => (page.section? id).map fun s => (s.row : Int) - scroll

def anchors (v : Viewer) : Anchors := anchorTop v.page v.scroll

/-- The largest scroll, at which the last row of the page is at the bottom. -/
def maxScroll (v : Viewer) : Nat := v.page.height - v.height

def flush (v : Viewer) : Viewer := { v with tracker := v.tracker.flush v.anchors }

/-- A view of the top of a page.  It fails for a page without a heading for the navigation. -/
def start (page : Page) (settings : Settings) : Except TrackerError Viewer := do
  let tracker ← Tracker.start (page.navigation settings.navDepth) settings.limits
  let v : Viewer :=
    { page
      tracker := tracker.noteScroll 0
      timers := page.snippets.map fun s => .dark s.text settings.copiedFor
      scroll := 0
      height := 1
      selected := none
      navOpen := false
      notice := none }
  return v.flush

/-! ## Scrolling -/

/-- Scrolls so that `row` is on top, or to the end of the page if it is too far down for that. -/
def scrollTo (v : Viewer) (row : Nat) : Viewer :=
  let row := min row v.maxScroll
  if row = v.scroll then v else { v with scroll := row, tracker := v.tracker.noteScroll row }

def scrollBy (v : Viewer) (delta : Int) : Viewer := v.scrollTo ((v.scroll : Int) + delta).toNat

def pageDown (v : Viewer) : Viewer := v.scrollTo (v.scroll + v.height)

def pageUp (v : Viewer) : Viewer := v.scrollTo (v.scroll - v.height)

/-- Fits the view to `height` rows of screen.  One row at least is taken to be on screen. -/
def resize (v : Viewer) (height : Nat) : Viewer :=
  let v := { v with height := max height 1 }
  if v.maxScroll < v.scroll then v.scrollTo v.maxScroll else v

/-- Fitting the view notes a scroll only where it scrolls up. -/
theorem isDirty_resize {v : Viewer} {height : Nat}
    (h : (v.resize height).tracker.isDirty = true) :
    v.tracker.isDirty = true ∨ (v.resize height).scroll < v.scroll := by
  unfold resize at h ⊢
  simp only at h ⊢
  split at h
  · next hlt =>
    refine .inr ?_
    rw [if_pos hlt]
    simp only [scrollTo, Nat.min_self, if_neg (Nat.ne_of_lt hlt)]
    exact hlt
  · exact .inl h

/-! ## Navigation -/

/-- An id as a link gives it, with or without a number sign before it. -/
def linkTarget (link : String) : String :=
  match link.toList with
  | '#' :: id => String.ofList id
  | _ => link

/-- Scrolls to the section that a link leads to, `none` if there is no such section. -/
def jump? (v : Viewer) (link : String) : Option Viewer :=
  (v.page.section? (linkTarget link)).map fun s => v.scrollTo s.row

/-- Scrolls to a section of the navigation, given its place there. -/
def jumpToNav? (v : Viewer) (index : Nat) : Option Viewer :=
  v.tracker.sections[index]?.bind fun s => v.jump? s.id

def nextNav? (v : Viewer) : Option Viewer := v.jumpToNav? (v.tracker.currentIndex + 1)

/-- Scrolls to the top of the active section, or to the section before it if the view is not below
that already. -/
def prevNav? (v : Viewer) : Option Viewer :=
  let index := v.tracker.currentIndex
  if (v.tracker.sections[index]?).any fun s => s.row < v.scroll then v.jumpToNav? index
  else if index = 0 then none
  else v.jumpToNav? (index - 1)

def toggleNav (v : Viewer) : Viewer := { v with navOpen := !v.navOpen }

/-! ## Snippets -/

def shows (v : Viewer) (s : Snippet) : Bool :=
  v.scroll ≤ s.lastRow && s.firstRow < v.scroll + v.height

def visibleSnippets (v : Viewer) : List Nat :=
  (List.range v.page.snippets.length).filter fun i => (v.page.snippets[i]?).any v.shows

/-- Scrolls a snippet into view, with its first row in preference to its last one. -/
def reveal (v : Viewer) (index : Nat) : Viewer :=
  match v.page.snippets[index]? with
  | none => v
  | some s =>
    if s.firstRow < v.scroll then v.scrollTo s.firstRow
    else if v.scroll + v.height ≤ s.lastRow then
      v.scrollTo (min (s.lastRow + 1 - v.height) s.firstRow)
    else v

def select (v : Viewer) (index : Nat) : Viewer := { v with selected := some index }.reveal index

/-- The first snippet that is not above the screen, or else the last one of the page. -/
def firstBelowTop? (v : Viewer) : Option Nat :=
  (v.page.snippets.findIdx? fun s => v.scroll ≤ s.lastRow).or
    (if v.page.snippets.isEmpty then none else some (v.page.snippets.length - 1))

def selectNext (v : Viewer) : Viewer :=
  match v.selected with
  | some i => v.select (if i + 1 < v.page.snippets.length then i + 1 else i)
  | none => (v.firstBelowTop?.map v.select).getD v

def selectPrevious (v : Viewer) : Viewer :=
  match v.selected with
  | some i => v.select (i - 1)
  | none => (v.firstBelowTop?.map v.select).getD v

/-! ## Copying -/

/-- The snippet that a copy goes to: the chosen one if it is on screen, or else the first one
there. -/
def copyTarget? (v : Viewer) : Option Nat :=
  (v.selected.filter v.visibleSnippets.contains).or v.visibleSnippets.head?

/-- What copying comes to with a clipboard.  Without a snippet on screen the clipboard is left
alone. -/
def copyOutcome (v : Viewer) (clipboard : Clipboard) : CopyTimer.Outcome :=
  match v.copyTarget?.bind (v.timers[·]?) with
  | some timer => timer.outcome clipboard
  | none => { offered := none, error := none }

def copy (v : Viewer) (clipboard : Clipboard) (now : Nat) : Viewer :=
  match v.copyTarget? with
  | none => { v with notice := some .noSnippet }
  | some index =>
    let notice := if (v.copyOutcome clipboard).error.isNone then Notice.copied else .copyFailed
    { v with
      selected := some index
      timers := v.timers.modify index (·.copy clipboard now)
      notice := some notice }

def isCopied (v : Viewer) (index now : Nat) : Bool := (v.timers[index]?).any (·.isLit now)

def expires (v : Viewer) (now : Nat) : Bool := v.timers.any (·.isExpired now)

/-- Puts out the indicators whose time is over.  The notice goes with the last of them. -/
def tick (v : Viewer) (now : Nat) : Viewer :=
  let timers := v.timers.map (·.tick now)
  let allDark := timers.all (·.armedAt.isNone)
  { v with timers, notice := if v.expires now && allDark then none else v.notice }

def nextDeadline? (v : Viewer) : Option Nat := (v.timers.filterMap (·.deadline?)).min?

def shutdown (v : Viewer) : Viewer := { v with timers := v.timers.map (·.cancel) }

end Viewer
end DocPager
