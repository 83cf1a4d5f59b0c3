import DocPager.CommandLine.Basic

/-!
Reading a command line argument by argument.  A parameter and its value are entered together, once
it is clear that the value is complete: when another parameter follows, or at the end.  The first
fault from the left is reported, but an argument that fits nowhere comes before a fault that is
still to be found in a parameter on hold.
-/

namespace DocPager.CommandLine

structure Reading where
  file : Option String
  anchor : Option String
  outline : Bool
  threshold : Option Int
  logFile : Option String
  /-- The parameter on hold with its value, which may be still to come. -/
  held : Option (Parameter × Option String)
  /-- Whether a pair of dashes has ended the options. -/
  onlyFiles : Bool
  deriving DecidableEq, Repr

namespace Reading

def start : Reading :=
  { file := none, anchor := none, outline := false, threshold := none, logFile := none,
    held := none, onlyFiles := false }

/-- Enters a value in a place that is still empty. -/
def fill (p : Parameter) (place : Option α) (value : α) : Except Halt (Option α) :=
  if place.isSome then .error (.misuse (.repeated p)) else .ok (some value)

/-- Enters a path, which may not be empty. -/
def fillPath (p : Parameter) (place : Option String) (value : String) :
    Except Halt (Option String) :=
  (fill p place value).bind fun place =>
    if value.isEmpty then .error (.misuse (.missingValue p)) else .ok place

def enter (r : Reading) (p : Parameter) (value : String) : Except Halt Reading :=
  match p with
  | .file => (fillPath p r.file value).map fun file => { r with file }
  | .anchor => (fill p r.anchor value).map fun anchor => { r with anchor }
  | .logFile => (fillPath p r.logFile value).map fun logFile => { r with logFile }
  | .threshold =>
    if r.threshold.isSome then .error (.misuse (.repeated p))
    else
      match number value.toList with
      | .ok n => .ok { r with threshold := some n }
      | .error cause => .error (.misuse (.invalidNumber p value cause))
  | .outline | .help | .version => .error (.misuse (.unneededValue p value))

def switch (r : Reading) (p : Parameter) : Except Halt Reading :=
  match p with
  | .outline =>
    if r.outline then .error (.misuse (.repeated p)) else .ok { r with outline := true }
  | .help => .error .help
  | .version => .error .version
  | .file | .anchor | .threshold | .logFile => .error (.misuse (.missingValue p))

def settle (r : Reading) : Except Halt Reading :=
  match r.held with
  | none => .ok r
  | some (p, none) => .error (.misuse (.missingValue p))
  | some (p, some value) => { r with held := none }.enter p value

/-- Takes a parameter by its name, with a value if one is attached. -/
def take (r : Reading) (p : Parameter) (value : Option String) : Except Halt Reading :=
  match p.takesValue, value with
  | true, some value => r.settle.bind fun r => r.enter p value
  | true, none => r.settle.map fun r => { r with held := some (p, none) }
  | false, some value => .error (.misuse (.unneededValue p value))
  | false, none => r.settle.bind fun r => r.switch p

/-- Takes an argument behind two dashes. -/
def takeLong (r : Reading) (s : List Char) : Except Halt Reading :=
  let name := String.ofList (s.takeWhile (· != '='))
  let value := match s.dropWhile (· != '=') with
    | _ :: value => some (String.ofList value)
    | [] => none
  match Parameter.named? name with
  | some p => r.take p value
  | none => .error (.misuse (.unexpected ("--" ++ name)))

/-- The value that stands right behind a letter, with or without an equals sign. -/
def attached? : List Char → Option String
  | [] => none
  | '=' :: value => some (String.ofList value)
  | value => some (String.ofList value)

/-- Takes letters behind one dash.  A letter with a value takes what is left. -/
def takeLetters (r : Reading) : List Char → Except Halt Reading
  | [] => .ok r
  | c :: rest =>
    match Parameter.lettered? c with
    | none => .error (.misuse (.unexpected (String.ofList ['-', c])))
    | some p =>
      if p.takesValue then r.take p (attached? rest)
      else (r.take p none).bind fun r => r.takeLetters rest

/-- Takes an argument for the file, of which there is one. -/
def takeFile (r : Reading) (argument : String) : Except Halt Reading :=
  if r.file.isSome || r.held.any (·.1 == .file) then .error (.misuse (.unexpected argument))
  else r.settle.map fun r => { r with held := some (.file, some argument) }

def takeArgument (r : Reading) (argument : String) : Except Halt Reading :=
  if r.onlyFiles then r.takeFile argument
  else
    match argument.toList with
    | ['-', '-'] => .ok { r with onlyFiles := true }
    | '-' :: '-' :: rest => r.takeLong rest
    | '-' :: c :: rest => r.takeLetters (c :: rest)
    | _ =>
      match r.held with
      | some (p, none) => .ok { r with held := some (p, some argument) }
      | _ => r.takeFile argument

def options (r : Reading) : Except Halt Options :=
  r.settle.bind fun r =>
    match r.file with
    | some file =>
      .ok { file, anchor := r.anchor, outline := r.outline, threshold := r.threshold,
            logFile := r.logFile }
    | none => .error (.misuse .missingFile)

end Reading

/-- Reads the arguments that stand behind the name of the program. -/
def read (arguments : List String) : Except Halt Options :=
  (arguments.foldlM Reading.takeArgument .start).bind Reading.options

end DocPager.CommandLine
