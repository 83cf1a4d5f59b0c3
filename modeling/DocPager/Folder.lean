import DocPager.Path

/-!
Files as the program meets them: in one folder, each with a name and its bytes.  Nothing is known of
the world around the folder but that there are folders above it and a null device, which is empty
and stays so.
-/

namespace DocPager

inductive Entry where
  | folder
  | file (bytes : ByteArray)

inductive FileError where
  | notFound
  | isFolder
  | notFolder
  /-- The bytes of the file are not a text in UTF-8. -/
  | notText
  /-- Anything else, in the words of the system. -/
  | system (reason : String)
  deriving DecidableEq, Repr

namespace FileError

def message : FileError → String
  | .notFound => "No such file or directory (os error 2)"
  | .isFolder => "Is a directory (os error 21)"
  | .notFolder => "Not a directory (os error 20)"
  | .notText => "stream did not contain valid UTF-8"
  | .system reason => reason

end FileError

/-- The text that the bytes of a file stand for. -/
def decodeText (bytes : ByteArray) : Except FileError String :=
  match String.fromUTF8? bytes with
  | some text => .ok text
  | none => .error .notText

structure Folder where
  entries : List (String × Entry)

namespace Folder

/-- What a path from the root leads to. -/
def findFromRoot (names : List String) : Except FileError Entry :=
  match names with
  | [] | ["dev"] => .ok .folder
  | ["dev", "null"] => .ok (.file .empty)
  | "dev" :: "null" :: _ => .error .notFolder
  | _ => .error .notFound

def find (f : Folder) (path : String) : Except FileError Entry :=
  let p := Path.ofString path
  let place :=
    if path.isEmpty then .error .notFound
    else if p.fromRoot then findFromRoot p.names
    else
      match p.names with
      | [] => .ok .folder
      | name :: below =>
        match f.entries.lookup name with
        | some (.file bytes) => if below.isEmpty then .ok (.file bytes) else .error .notFolder
        | some .folder => if below.isEmpty then .ok .folder else .error .notFound
        | none => if p.names.all (· == "..") then .ok .folder else .error .notFound
  match place with
  | .ok (.file bytes) => if p.asksFolder then .error .notFolder else .ok (.file bytes)
  | place => place

def readText (f : Folder) (path : String) : Except FileError String :=
  match f.find path with
  | .error e => .error e
  | .ok .folder => .error .isFolder
  | .ok (.file bytes) => decodeText bytes

/-- Puts an empty file under a name, in place of the one that has it. -/
def clear (f : Folder) (name : String) : Folder :=
  if (f.entries.lookup name).isSome then
    { entries := f.entries.map fun e => if e.1 = name then (name, .file .empty) else e }
  else { entries := f.entries ++ [(name, .file .empty)] }

/-- Makes an empty file where a path leads to, in place of one that is there. -/
def create (f : Folder) (path : String) : Except FileError Folder :=
  let p := Path.ofString path
  match p.fromRoot, p.names, f.find path with
  | _, _, .ok .folder => .error .isFolder
  | true, _, .ok (.file _) => .ok f
  | false, [name], result =>
    if p.endsInSlash then .error .isFolder
    else
      match result with
      | .ok _ => .ok (f.clear name)
      | .error e => if p.asksFolder then .error e else .ok (f.clear name)
  | _, _, .ok (.file _) => .error .notFound
  | _, _, .error e => .error e

end Folder
end DocPager
