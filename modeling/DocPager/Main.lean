import DocPager.Session.Start
import DocPager.Session.Typing
import DocPager.Terminal.Output

/-!
The program on real files and a real terminal.  Input is taken a line at a time; the end of the line
is no key.
-/

namespace DocPager.Main

open CommandLine (Options)
open Session (Outcome Start Surface Typing)

/-- The cause of a failure.  Codes of the system may come with either sign. -/
def causeOf : IO.Error → FileError
  | .noFileOrDirectory .. => .notFound
  | .inappropriateType _ code details =>
    if code = 20 || code + 20 = 0 then .notFolder
    else if code = 21 || code + 21 = 0 then .isFolder
    else .system details
  | e => .system (toString e)

def readText (path : String) : IO (Except FileError String) := do
  match ← (IO.FS.readBinFile path).toBaseIO with
  | .ok bytes => return decodeText bytes
  | .error e => return .error (causeOf e)

def beginLog (path : String) : IO (Option FileError) := do
  match ← (IO.FS.Handle.mk path .write).toBaseIO with
  | .ok _ => return none
  | .error e => return some (causeOf e)

def defaultLog : IO String := do
  return ((← IO.getEnv "TMPDIR").getD "/tmp") ++ "/docscroll.log"

def start (options : Options) : IO Start := do
  let log ← match options.logFile with
    | some path => pure path
    | none => defaultLog
  match ← beginLog log with
  | some cause => return .ended (Session.logFailure log cause)
  | none =>
    let settings := Settings.ofFile (← readText Settings.fileName)
    return Session.startWith options settings (Page.ofFile options.file (← readText options.file))

def finish (o : Outcome) : IO UInt32 := do
  (← IO.getStdout).putStr o.stdout
  (← IO.getStderr).putStr o.stderr
  return UInt32.ofNat o.code

def sizeFrom (name : String) (standard : Nat) : IO Nat := do
  return ((← IO.getEnv name).bind (·.toNat?)).getD standard

def withoutLineEnd (line : String) : String := String.ofList (line.toList.filter (· != '\n'))

partial def view (t : Typing) (s : Surface) : IO Unit := do
  let stdout ← IO.getStdout
  stdout.putStr (Terminal.screenText t.display.screen)
  stdout.flush
  let line ← (← IO.getStdin).getLine
  if line.isEmpty then return
  match t.type s (withoutLineEnd line) (← IO.monoMsNow) with
  | some t => view t s
  | none => return

def run (v : Viewer) (code : List Highlight.CodeRow) : IO UInt32 := do
  let s : Surface :=
    { width := ← sizeFrom "COLUMNS" 80, height := ← sizeFrom "LINES" 24, code }
  IO.print Terminal.enter
  view (Typing.start v s (← IO.monoMsNow)) s
  IO.print Terminal.leave
  return 0

end DocPager.Main

open DocPager in
def main (arguments : List String) : IO UInt32 := do
  match CommandLine.read arguments with
  | .error halt => Main.finish (.ofHalt halt)
  | .ok options =>
    match ← Main.start options with
    | .ended outcome => Main.finish outcome
    | .opened v code => Main.run v code
