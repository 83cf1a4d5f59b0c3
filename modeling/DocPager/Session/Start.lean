import DocPager.CommandLine.Read
import DocPager.Highlight.Rows
import DocPager.Outline.Page
import DocPager.Page.Load
import DocPager.Settings.Read
import DocPager.Viewer.Basic

/-!
How the program starts: from its command line and its files to an open viewer, or to what it writes
in place of opening one.
-/

namespace DocPager.Session

open CommandLine (Halt Options)
open Highlight (CodeRow)

/-- What the program has written when it ends, and the code it ends with. -/
structure Outcome where
  code : Nat
  stdout : String
  stderr : String
  deriving DecidableEq, Repr

namespace Outcome

def printed (text : String) : Outcome := { code := 0, stdout := text, stderr := "" }

/-- The report on something that failed, and on why it failed. -/
def failed (what why : String) : Outcome :=
  { code := 1, stdout := "", stderr := "Error: " ++ what ++ "\n\nCaused by:\n    " ++ why ++ "\n" }

def ofHalt : Halt → Outcome
  | .help => printed CommandLine.help
  | .version => printed (CommandLine.version ++ "\n")
  | .misuse cause => { code := 2, stdout := "", stderr := cause.report }

end Outcome

inductive Start where
  | ended (outcome : Outcome)
  | opened (viewer : Viewer) (code : List CodeRow)
  deriving DecidableEq, Repr

/-- A viewer scrolled to the section that was asked for. -/
def atAnchor (v : Viewer) (anchor : Option String) : Viewer :=
  match anchor with
  | none => v
  | some id => (v.jump? id).getD { v with notice := some (.unknownSection id) }

def openPage (options : Options) (settings : Settings) (page : Page) : Start :=
  if options.outline then .ended (.printed (Outline.write page ++ "\n"))
  else if page.sections.isEmpty then
    .ended { code := 0, stdout := "", stderr := "No sections found in " ++ options.file ++ "\n" }
  else
    match Viewer.start page settings with
    | .error e =>
      .ended (.failed ("no headings at nav depth " ++ toString settings.navDepth ++
        " or shallower in " ++ options.file) e.message)
    | .ok v => .opened (atAnchor v options.anchor) (Highlight.codeRows page settings.theme)

/-- The settings of a run: the command line counts more than the file. -/
def settingsFor (options : Options) (settings : Settings) : Settings :=
  { settings with threshold := options.threshold.getD settings.threshold }

/-- Starts with what reading the two files has come to. -/
def startWith (options : Options) (settings : Except Settings.ReadError Settings)
    (page : Except Page.LoadError Page) : Start :=
  match page with
  | .error e => .ended (.failed e.message e.cause.message)
  | .ok page => openPage options (settingsFor options (Settings.orStandard settings)) page

def logFailure (path : String) (cause : FileError) : Outcome :=
  .failed ("failed to create log file " ++ path) cause.message

/-- Starts in a folder with the arguments of the command line.  The log is begun before anything is
read, so it may be in place of a file that is read. -/
def start (arguments : List String) (defaultLog : String) (folder : Folder) : Start × Folder :=
  match CommandLine.read arguments with
  | .error halt => (.ended (.ofHalt halt), folder)
  | .ok options =>
    let log := options.logFile.getD defaultLog
    match folder.create log with
    | .error cause => (.ended (logFailure log cause), folder)
    | .ok folder =>
      (startWith options (Settings.load folder Settings.fileName) (Page.load folder options.file),
        folder)

end DocPager.Session
