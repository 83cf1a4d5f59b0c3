/-!
How a cell of the screen looks.
-/

namespace DocPager.Screen

inductive Color where
  | black
  | green
  | yellow
  | cyan
  | gray
  | darkGray
  | rgb (red green blue : Nat)
  deriving DecidableEq, Repr

/-- Colours and modifiers of a text.  A colour that is not given is that of the terminal. -/
structure Style where
  fg : Option Color
  bg : Option Color
  bold : Bool
  dim : Bool
  italic : Bool
  reversed : Bool
  deriving DecidableEq, Repr

namespace Style

def plain : Style :=
  { fg := none, bg := none, bold := false, dim := false, italic := false, reversed := false }

def colored (c : Color) : Style := { plain with fg := some c }

/-- The style that comes of giving a text `t` where it has `s`. -/
def patch (s t : Style) : Style where
  fg := t.fg.or s.fg
  bg := t.bg.or s.bg
  bold := s.bold || t.bold
  dim := s.dim || t.dim
  italic := s.italic || t.italic
  reversed := s.reversed || t.reversed

end Style

structure Cell where
  /-- One grapheme cluster, as a rule.  Clusters without a width add to the cell before them. -/
  symbol : List Char
  style : Style
  deriving DecidableEq, Repr

namespace Cell

def blank : Cell := { symbol := [' '], style := .plain }

def write (c : Cell) (symbol : List Char) (style : Style) : Cell :=
  { symbol, style := c.style.patch style }

def append (c : Cell) (symbol : List Char) (style : Style) : Cell :=
  { symbol := c.symbol ++ symbol, style := c.style.patch style }

end Cell

abbrev CellRow := List Cell

def blankRow (width : Nat) : CellRow := List.replicate width .blank

end DocPager.Screen
