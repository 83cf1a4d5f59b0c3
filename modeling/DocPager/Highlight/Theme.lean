import DocPager.Screen.Style

/-!
The themes for code.  Plain text is written in the foreground colour of the theme.
-/

namespace DocPager.Highlight

open Screen (Color)

structure Theme where
  name : String
  foreground : Color
  deriving DecidableEq, Repr

def themes : List Theme :=
  [{ name := "InspiredGitHub", foreground := .rgb 0x32 0x32 0x32 },
   { name := "Solarized (dark)", foreground := .rgb 0x83 0x94 0x96 },
   { name := "Solarized (light)", foreground := .rgb 0x65 0x7B 0x83 },
   { name := "base16-eighties.dark", foreground := .rgb 0xD3 0xD0 0xC8 },
   { name := "base16-mocha.dark", foreground := .rgb 0xD0 0xC8 0xC6 },
   { name := "base16-ocean.dark", foreground := .rgb 0xC0 0xC5 0xCE },
   { name := "base16-ocean.light", foreground := .rgb 0x4F 0x5B 0x66 }]

def theme? (name : String) : Option Theme := themes.find? (·.name == name)

end DocPager.Highlight
