import DocPager.Screen.Line

/-!
Blocks: parts of the screen with borders, a title and room inside.  The room is what the borders
leave, and a title takes the top row even where there is no border.
-/

namespace DocPager.Screen

structure Block where
  left : Bool
  right : Bool
  top : Bool
  bottom : Bool
  borderStyle : Style
  title : Option Span
  deriving DecidableEq, Repr

namespace Block

def framed (title : Option Span) : Block :=
  { left := true, right := true, top := true, bottom := true, borderStyle := .plain, title }

def above (b : Block) : Nat := if b.top || b.title.isSome then 1 else 0

def innerWidth (b : Block) (width : Nat) : Nat := width - b.left.toNat - b.right.toNat

def innerHeight (b : Block) (height : Nat) : Nat := height - b.above - b.bottom.toNat

/-- The border at a place in a block of the given size.  Where borders meet there is a corner, and
in a block too small for all of them the top and left corners come last. -/
def border? (b : Block) (width height x y : Nat) : Option Char :=
  let atLeft := b.left && x = 0
  let atRight := b.right && x + 1 = width
  let atTop := b.top && y = 0
  let atBottom := b.bottom && y + 1 = height
  if atLeft && atTop then some '┌'
  else if atLeft && atBottom then some '└'
  else if atRight && atTop then some '┐'
  else if atRight && atBottom then some '┘'
  else if atBottom then some '─'
  else if atRight then some '│'
  else if atTop then some '─'
  else if atLeft then some '│'
  else none

/-- Row `y` of a block with what is inside. -/
def row (b : Block) (width height : Nat) (inside : List CellRow) (y : Nat) : CellRow :=
  let content := if y < b.above then [] else (inside[y - b.above]?).getD []
  let content := (content ++ blankRow width).take (b.innerWidth width)
  let body := blankRow b.left.toNat ++ content ++ blankRow b.right.toNat
  let bordered := (List.range width).zip body |>.map fun (x, cell) =>
    match b.border? width height x y with
    | some c => Cell.blank.write [c] b.borderStyle
    | none => cell
  match b.title with
  | some title =>
    if y = 0 then
      let room := (bordered.drop b.left.toNat).take (b.innerWidth width)
      bordered.take b.left.toNat ++ overwrite room title ++
        bordered.drop (b.left.toNat + b.innerWidth width)
    else bordered
  | none => bordered

/-- The rows of a block of the given size with what is inside. -/
def rows (b : Block) (width height : Nat) (inside : List CellRow) : List CellRow :=
  (List.range height).map (b.row width height inside)

end Block
end DocPager.Screen
