import RowScan.Violation

/-!
Paths as text: the names between slashes, and the directory a path lies in.
-/

namespace RowScan.Path

/-- The pieces of a path between its slashes; an absolute path starts with an empty one. -/
def pieces (path : String) : List String := path.splitOn "/"

def isAbsolute (path : String) : Bool := path.startsWith "/"

def pathLimit : Nat := 4096

def nameLimit : Nat := 255

/-- Refuses a path that no file can have; `nul` is what is said of a null character. -/
def check (nul : IoFault) (path : String) : Except IoFault Unit :=
  if path.contains '\x00' then .error nul
  else if path = "" then .error (.system .notFound)
  else if pathLimit ≤ path.utf8ByteSize then .error (.system .nameTooLong)
  else .ok ()

/-- Drops pieces at the end that name nothing, but never the first piece. -/
def dropEmptyEnd : List String → List String
  | [] => []
  | first :: rest => first :: (rest.reverse.dropWhile fun piece => piece = "" ∨ piece = ".").reverse

def parent (path : String) : String :=
  match dropEmptyEnd (pieces path) with
  | [] | [_] => "."
  | kept =>
    match dropEmptyEnd kept.dropLast with
    | [""] => "/"
    | names => "/".intercalate names

def join (directory name : String) : String :=
  if directory.endsWith "/" then directory ++ name else directory ++ "/" ++ name

structure Split where
  parents : List String
  last : String
  trailingSlash : Bool
  deriving Repr, DecidableEq

def splitLast (path : String) : Split :=
  let reversed := (pieces path).reverse
  match reversed.dropWhile (· = "") with
  | [] => ⟨[], "", true⟩
  | last :: parents => ⟨parents.reverse, last, reversed.head? = some ""⟩

def isSpecial (name : String) : Bool := name = "" ∨ name = "." ∨ name = ".."

end RowScan.Path
