import DocPager.CommandLine.Number
import DocPager.Text.Visible

/-!
What the program can be asked for on its command line, and what can be wrong there.
-/

namespace DocPager.CommandLine

inductive Parameter where
  | file
  | anchor
  | outline
  | threshold
  | logFile
  | help
  | version
  deriving DecidableEq, Repr

namespace Parameter

def label : Parameter → String
  | .file => "<FILE>"
  | .anchor => "--section <ID>"
  | .outline => "--outline"
  | .threshold => "--threshold <ROWS>"
  | .logFile => "--log-file <PATH>"
  | .help => "--help"
  | .version => "--version"

def takesValue : Parameter → Bool
  | .file | .anchor | .threshold | .logFile => true
  | .outline | .help | .version => false

def named? (name : String) : Option Parameter :=
  match name with
  | "section" => some .anchor
  | "outline" => some .outline
  | "threshold" => some .threshold
  | "log-file" => some .logFile
  | "help" => some .help
  | "version" => some .version
  | _ => none

def lettered? (letter : Char) : Option Parameter :=
  match letter with
  | 's' => some .anchor
  | 'h' => some .help
  | 'V' => some .version
  | _ => none

end Parameter

structure Options where
  file : String
  /-- The section to scroll to at the start. -/
  anchor : Option String
  /-- Whether an outline of the page is printed in place of viewing it. -/
  outline : Bool
  threshold : Option Int
  logFile : Option String
  deriving DecidableEq, Repr

inductive UsageError where
  | unexpected (argument : String)
  | missingFile
  | missingValue (parameter : Parameter)
  | invalidNumber (parameter : Parameter) (value : String) (cause : NumberError)
  | repeated (parameter : Parameter)
  | unneededValue (parameter : Parameter) (value : String)
  deriving DecidableEq, Repr

namespace UsageError

def quoted (s : String) : String := "'" ++ String.ofList (Text.visible s.toList) ++ "'"

def message : UsageError → String
  | .unexpected argument => "unexpected argument " ++ quoted argument ++ " found"
  | .missingFile =>
    "the following required arguments were not provided:\n  " ++ Parameter.file.label
  | .missingValue p => "a value is required for " ++ quoted p.label ++ " but none was supplied"
  | .invalidNumber p value cause =>
    "invalid value " ++ quoted value ++ " for " ++ quoted p.label ++ ": " ++ cause.message
  | .repeated p => "the argument " ++ quoted p.label ++ " cannot be used multiple times"
  | .unneededValue p value =>
    "unexpected value " ++ quoted value ++ " for " ++ quoted p.label ++
      " found; no more were expected"

def report (e : UsageError) : String :=
  "error: " ++ e.message ++ "\n\nFor more information, try '--help'.\n"

end UsageError

/-- What the program does in place of opening a page. -/
inductive Halt where
  | help
  | version
  | misuse (cause : UsageError)
  deriving DecidableEq, Repr

def version : String := "docscroll 0.1.0"

def about : String := "Scroll-synchronised terminal pager for single-page markdown docs"

def help : String :=
  about ++ "\n\nUsage: docscroll [OPTIONS] <FILE>\n\n" ++
    "Arguments:\n" ++
    "  <FILE>  Markdown page to open\n\n" ++
    "Options:\n" ++
    "  -s, --section <ID>      Open scrolled to this anchor (with or without the leading '#')\n" ++
    "      --outline           Print the parsed sections and snippets as JSON and exit\n" ++
    "      --threshold <ROWS>  Rows below the top at which a heading becomes the active section\n" ++
    "      --log-file <PATH>   Write logs here instead of the default file in the temp directory\n" ++
    "  -h, --help              Print help\n" ++
    "  -V, --version           Print version\n"

end DocPager.CommandLine
