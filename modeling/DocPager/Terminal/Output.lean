import DocPager.Screen.Style

/-!
The characters that make a terminal show a screen.
-/

namespace DocPager.Terminal

open Screen (Cell CellRow Color Style)

/-- The parameters that choose a colour.  Those of a background are ten larger. -/
def colorCode (c : Color) (offset : Nat) : String :=
  let plain := fun (n : Nat) => toString (n + offset)
  match c with
  | .black => plain 30
  | .green => plain 32
  | .yellow => plain 33
  | .cyan => plain 36
  | .gray => plain 37
  | .darkGray => plain 90
  | .rgb r g b =>
    plain 38 ++ ";2;" ++ toString r ++ ";" ++ toString g ++ ";" ++ toString b

/-- The sequence that switches to a style from any other. -/
def styleSequence (s : Style) : String :=
  let parts :=
    ["0"] ++ (if s.bold then ["1"] else []) ++ (if s.dim then ["2"] else []) ++
      (if s.italic then ["3"] else []) ++ (if s.reversed then ["7"] else []) ++
      (s.fg.map (colorCode · 0)).toList ++ (s.bg.map (colorCode · 10)).toList
  "\x1b[" ++ String.intercalate ";" parts ++ "m"

/-- The cells of a row from left to right, given the style that is switched to. -/
def rowFrom (current : Style) : CellRow → String
  | [] => ""
  | c :: rest =>
    let text := String.ofList c.symbol
    if c.style = current then text ++ rowFrom current rest
    else styleSequence c.style ++ text ++ rowFrom c.style rest

def rowText (row : CellRow) : String := styleSequence .plain ++ rowFrom .plain row

/-- Shows the rows from the top of the screen on. -/
def screenText (rows : List CellRow) : String :=
  "\x1b[H" ++ String.intercalate "\x0d\n" (rows.map rowText) ++ styleSequence .plain

/-- Switches to a screen of its own for the viewer, and back. -/
def enter : String := "\x1b[?1049h\x1b[2J"

def leave : String := "\x1b[?1049l"

end DocPager.Terminal
