import DocPager.Highlight.Rows
import DocPager.Path
import DocPager.Viewer.Basic

/-!
What one frame of the viewer shows, before it is laid out on a screen: the header with a link for
each section, the navigation panel if it is open, the rows of the page and the help bar.
-/

namespace DocPager.Screen

open Highlight (CodeRow)

structure Link where
  target : Section
  active : Bool
  deriving DecidableEq, Repr

/-- A row of the page with what is shown in its place. -/
structure PageRow where
  row : Nat
  spans : List Span
  deriving DecidableEq, Repr

structure Frame where
  title : String
  scrolled : Bool
  /-- The links of the header, which are those of the panel as well. -/
  links : List Link
  panelOpen : Bool
  pageRows : List PageRow
  help : String
  position : String
  deriving DecidableEq, Repr

def helpText : String :=
  "↑/↓ PgUp/PgDn: Scroll | Tab/S-Tab: Next/Prev section | 1-9: Jump | [/]: Snippet | c: Copy | " ++
    "m: Menu | q: Quit"

namespace Frame

def linksOf (t : Tracker) : List Link :=
  t.sections.map fun s => { target := s, active := s.id == t.current }

/-- A heading: the number signs of its level and its title. -/
def headingSpans (s : Section) (active : Bool) : List Span :=
  let style := { Style.colored (if active then .green else .cyan) with bold := true }
  [{ text := String.ofList (List.replicate s.level '#'), style := { style with dim := true } },
   .plain " ", { text := s.title, style }]

/-- The mark behind an opening fence. -/
def copyMark (copied selected : Bool) : Span :=
  if copied then
    { text := " ✓ copied ", style := { Style.colored .black with bg := some .green, bold := true } }
  else if selected then { text := " [c] copy ", style := { Style.plain with reversed := true } }
  else { text := " [c] copy ", style := .colored .darkGray }

/-- A row of snippet `index`.  The opening fence has the copy mark behind it and the other rows have
a bar before them. -/
def snippetSpans (v : Viewer) (code : List CodeRow) (index : Nat) (s : Snippet) (row : Nat)
    (text : String) (now : Nat) : List Span :=
  let selected := v.selected = some index
  if row = s.firstRow then
    [{ text, style := .colored .darkGray }, .plain " ", copyMark (v.isCopied index now) selected]
  else
    let bar : Span :=
      if selected then { text := "▌", style := .colored .green }
      else { text := "│", style := .colored .darkGray }
    match code.find? (·.row == row) with
    | some r => bar :: r.spans
    | none => [bar, { text, style := .colored .yellow }]

def rowSpans (v : Viewer) (code : List CodeRow) (row : Nat) (text : String) (now : Nat) :
    List Span :=
  match v.page.sections.find? (·.row == row) with
  | some s =>
    let activeRow := (v.page.section? v.tracker.current).map (·.row)
    headingSpans s (activeRow = some row)
  | none =>
    match v.page.snippetAt? row with
    | some index =>
      match v.page.snippets[index]? with
      | some s => snippetSpans v code index s row text now
      | none => [.plain text]
    | none => [.plain text]

/-- The rows of the page on screen, from the scroll on, at most `height` of them. -/
def pageRowsOf (v : Viewer) (code : List CodeRow) (height now : Nat) : List PageRow :=
  ((v.page.rows.drop v.scroll).take height).zipIdx v.scroll |>.map fun (text, row) =>
    { row, spans := rowSpans v code row text now }

/-- The frame of a viewer whose page has `height` rows on screen, at time `now`. -/
def ofViewer (v : Viewer) (code : List CodeRow) (height now : Nat) : Frame where
  title := (v.page.path.bind fun p => (Path.ofString p).fileName?).getD "docscroll"
  scrolled := v.tracker.scrolled
  links := linksOf v.tracker
  panelOpen := v.navOpen
  pageRows := pageRowsOf v code height now
  help := (v.notice.map (·.text)).getD helpText
  position := " " ++ toString (v.scroll + 1) ++ "/" ++ toString (v.maxScroll + 1) ++ " "

end Frame
end DocPager.Screen
