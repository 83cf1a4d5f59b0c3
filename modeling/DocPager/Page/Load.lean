import DocPager.Folder
import DocPager.Page.Basic

/-!
Reading a page from a file.
-/

namespace DocPager.Page

structure LoadError where
  path : String
  cause : FileError
  deriving DecidableEq, Repr

namespace LoadError

def message (e : LoadError) : String := "failed to read " ++ e.path ++ ": " ++ e.cause.message

end LoadError

/-- The page that a file holds, given what reading the file has come to. -/
def ofFile (path : String) (content : Except FileError String) : Except LoadError Page :=
  match content with
  | .ok source => .ok { parse source with path := some path }
  | .error cause => .error { path, cause }

def load (folder : Folder) (path : String) : Except LoadError Page :=
  ofFile path (folder.readText path)

end DocPager.Page
