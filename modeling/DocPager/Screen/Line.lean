import DocPager.Screen.Style
import DocPager.Unicode.Grapheme
import DocPager.Unicode.Width

/-!
Lines of text on the screen.  A line is written cluster by cluster from the left, and ends at the
first cluster for which there is no room.
-/

namespace DocPager.Screen

open Unicode (graphemes textWidth)

structure Span where
  text : String
  style : Style
  deriving DecidableEq, Repr

namespace Span

def plain (text : String) : Span := { text, style := .plain }

def clusters (s : Span) : List (List Char × Style) :=
  (graphemes s.text.toList).map fun g => (g, s.style)

end Span

/-- Fills `room` cells with clusters.  A cluster without a width is left out, and so is one that is
wider than a whole line.  The cells behind the first one of a wide cluster stay blank. -/
def fillRow (width room : Nat) : List (List Char × Style) → CellRow
  | [] => blankRow room
  | (symbol, style) :: rest =>
    let w := textWidth symbol
    if w = 0 || width < w then fillRow width room rest
    else if room < w then blankRow room
    else Cell.blank.write symbol style :: (blankRow (w - 1) ++ fillRow width (room - w) rest)

/-- A line of spans, cut to `width` cells or filled up with blanks. -/
def textRow (width : Nat) (spans : List Span) : CellRow :=
  fillRow width width (spans.flatMap Span.clusters)

/-- Writes clusters in one style over a row of cells.  The row comes in two parts, the cells before
the next cluster, last one first, and the cells from there on.  A cluster without a width adds to
the cell before it; at the start of the row it takes the first cell, and what comes next adds to
it.  A wide cluster clears the cells behind its first one. -/
def overwriteFrom (style : Style) (first : Bool) (before after : CellRow) :
    List (List Char) → CellRow
  | [] => before.reverse ++ after
  | symbol :: rest =>
    let w := textWidth symbol
    if after.length < w then before.reverse ++ after
    else if w = 0 then
      match before, after with
      | cell :: before, _ => overwriteFrom style false (cell.append symbol style :: before) after rest
      | [], cell :: after =>
        let cell := if first then cell.write symbol style else cell.append symbol style
        overwriteFrom style false [] (cell :: after) rest
      | [], [] => []
    else
      match after with
      | cell :: after =>
        let cell :=
          if before.isEmpty && !first then cell.append symbol style else cell.write symbol style
        overwriteFrom style false (blankRow (w - 1) ++ cell :: before) (after.drop (w - 1)) rest
      | [] => before.reverse

/-- Writes a span over the start of a row of cells, as far as there is room. -/
def overwrite (row : CellRow) (s : Span) : CellRow :=
  overwriteFrom s.style true [] row (graphemes s.text.toList)

end DocPager.Screen
