import DocPager.Folder
import DocPager.Settings.Basic
import DocPager.Toml.Document

/-!
Settings from a file.  The file is a document of TOML in which each setting has a key of its own,
outside of any table.  What has no key keeps its standard value, and keys that name no setting are
ignored.
-/

namespace DocPager.Settings

open Toml (Entries Item Value Scalar)

inductive ReadError where
  | unreadable (cause : FileError)
  | malformed
  deriving DecidableEq, Repr

namespace ReadError

def message : ReadError → String
  | .unreadable cause => "failed to read config: " ++ cause.message
  | .malformed => "failed to parse config"

end ReadError

/-- The number that an item stands for, rounded toward zero, if it is from `low` to `high`. -/
def number? (low high : Int) (item : Item) : Option Int :=
  let n := match item with
    | .value (.scalar (.integer n)) => some n
    | .value (.scalar (.decimal b)) => some b.truncate
    | _ => none
  n.filter fun n => low ≤ n && n ≤ high

def text? : Item → Option String
  | .value (.text s) => some s
  | _ => none

/-- What an entry sets, `none` if it cannot be read as that.  Without an entry there is the value that
the key has by default. -/
def entry? (entries : Entries) (key : String) (read : Item → Option α) (default : α) : Option α :=
  match entries.lookup key with
  | some item => read item
  | none => some default

/-- The range of a number with a sign, and of one without. -/
def signed? : Item → Option Int := number? Int64.minValue.toInt Int64.maxValue.toInt

def unsigned? (item : Item) : Option Nat := (number? 0 (UInt64.size - 1) item).map Int.toNat

/-- Each key has a value of its own that it stands for when it is left out. -/
def ofEntries? (entries : Entries) : Option Settings := do
  return {
    threshold := ← entry? entries "threshold" signed? 3
    scrolledOffset := ← entry? entries "scrolled_offset" signed? 1
    copiedFor := ← entry? entries "copied_ms" unsigned? 2000
    navDepth := ← entry? entries "nav_depth" unsigned? 2
    frameTime := ← entry? entries "frame_ms" unsigned? 16
    theme := ← entry? entries "theme" text? "base16-ocean.dark" }

def ofToml (source : String) : Except ReadError Settings :=
  match (Toml.parse? source).bind ofEntries? with
  | some s => .ok s
  | none => .error .malformed

/-- The settings that a file holds, given what reading the file has come to. -/
def ofFile (content : Except FileError String) : Except ReadError Settings :=
  match content with
  | .ok source => ofToml source
  | .error cause => .error (.unreadable cause)

def load (folder : Folder) (path : String) : Except ReadError Settings :=
  ofFile (folder.readText path)

def fileName : String := "docscroll.toml"

/-- What was read, or else the standard settings.  A file that is missing or cannot be used is no
reason not to open a page. -/
def orStandard (settings : Except ReadError Settings) : Settings :=
  settings.toOption.getD standard

def ofFolder (folder : Folder) : Settings := orStandard (load folder fileName)

end DocPager.Settings
