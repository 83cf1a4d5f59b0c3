import DocPager.Screen.Block
import DocPager.Screen.Frame

/-!
Laying a frame out on a screen.  The help bar has three rows at the bottom, the header three at the
top, and the page what remains; a small screen is short of the page first and of the header next.
The navigation panel stands left of the page.
-/

namespace DocPager.Screen

structure Layout where
  header : Nat
  page : Nat
  help : Nat
  deriving DecidableEq, Repr

namespace Layout

def ofHeight (height : Nat) : Layout :=
  let help := min 3 height
  let header := min 3 (height - help)
  { header, page := height - help - header, help }

end Layout

def panelWidth : Nat := 28

/-- The header: the links with bars between them.  Once the page is scrolled it has a frame. -/
def headerSpans : List Link → List Span
  | [] => []
  | [l] => [linkSpan l]
  | l :: rest => linkSpan l :: { text := " │ ", style := .colored .darkGray } :: headerSpans rest
where
  linkSpan (l : Link) : Span :=
    let style :=
      if l.active then { Style.colored .green with bold := true, reversed := true }
      else .colored .gray
    { text := " " ++ l.target.title ++ " ", style }

def headerBlock (f : Frame) : Block :=
  if f.scrolled then
    let title : Span := { text := f.title, style := { Style.plain with bold := true } }
    { Block.framed (some title) with borderStyle := .colored .green }
  else
    { left := false, right := false, top := false, bottom := true, borderStyle := .plain,
      title := some (.plain f.title) }

def headerRows (f : Frame) (width height : Nat) : List CellRow :=
  let b := headerBlock f
  b.rows width height [textRow (b.innerWidth width) (headerSpans f.links)]

/-- The line of the panel for a link, with its digit key if it has one. -/
def panelLabel (index : Nat) (s : Section) : String :=
  let key := if index < 9 then toString (index + 1) ++ " " else "  "
  key ++ String.ofList (List.replicate (2 * (s.level - 1)) ' ') ++ s.title

def panelRow (width index : Nat) (l : Link) : CellRow :=
  let style := if l.active then { Style.colored .green with bold := true } else .plain
  overwrite (List.replicate width { Cell.blank with style }) (.plain (panelLabel index l.target))

def panelRows (f : Frame) (width height : Nat) : List CellRow :=
  let b := Block.framed (some (.plain "Sections"))
  b.rows width height ((f.links.take (b.innerHeight height)).mapIdx (panelRow (b.innerWidth width)))

def pageBlock : Block :=
  { left := true, right := true, top := false, bottom := false, borderStyle := .plain, title := none }

def pageAreaRows (f : Frame) (width height : Nat) : List CellRow :=
  pageBlock.rows width height (f.pageRows.map fun r => textRow (pageBlock.innerWidth width) r.spans)

def helpRows (f : Frame) (width height : Nat) : List CellRow :=
  let b := Block.framed (some (.plain f.position))
  let line := String.ofList ((Text.rows f.help.toList).headD [])
  b.rows width height [textRow (b.innerWidth width) [.plain line]]

def paint (f : Frame) (width height : Nat) : List CellRow :=
  let l := Layout.ofHeight height
  let panel := if f.panelOpen then min panelWidth width else 0
  let page := pageAreaRows f (width - panel) l.page
  let middle := if f.panelOpen then (panelRows f panel l.page).zipWith (· ++ ·) page else page
  headerRows f width l.header ++ middle ++ helpRows f width l.help

end DocPager.Screen

namespace DocPager.Viewer

open Highlight (CodeRow)

/-- The viewer fitted to a screen, which is what drawing leaves of it. -/
def fit (v : Viewer) (screenHeight : Nat) : Viewer :=
  v.resize (Screen.Layout.ofHeight screenHeight).page

/-- The frame that is drawn of a viewer.  The header and the panel are painted before the viewer is
fitted to the screen, the page and the help bar after that. -/
def frame (v : Viewer) (code : List CodeRow) (screenHeight now : Nat) : Screen.Frame :=
  let fitted :=
    Screen.Frame.ofViewer (v.fit screenHeight) code (Screen.Layout.ofHeight screenHeight).page now
  { fitted with
    scrolled := v.tracker.scrolled
    links := Screen.Frame.linksOf v.tracker
    panelOpen := v.navOpen }

def draw (v : Viewer) (code : List CodeRow) (width height now : Nat) : List Screen.CellRow :=
  Screen.paint (v.frame code height now) width height

end DocPager.Viewer
