import RowScan.Files.Path

/-!
A file system as a value: directories and files with their bytes, a working directory, and the bytes
that fit into all files together. `FileTree.replace` writes a temporary file beside its destination
and moves it there once it is complete. What it relies on is that the name of a temporary file is
new, that a move is one step, and that the file is removed when it cannot be filled or moved. The
fault of a move that is refused holds the file until it is dropped itself, and the tree behind such
a fault is the one after that.
-/

namespace RowScan

inductive FileNode where
  | directory
  | file (content : ByteArray)

def FileNode.decEq : (left right : FileNode) → Decidable (left = right)
  | .directory, .directory => isTrue rfl
  | .file left, .file right =>
    match ByteArray.decEq left right with
    | isTrue same => isTrue (congrArg FileNode.file same)
    | isFalse different => isFalse fun same => different (FileNode.file.inj same)
  | .directory, .file _ => isFalse nofun
  | .file _, .directory => isFalse nofun

instance : DecidableEq FileNode := FileNode.decEq

/-- Where a directory or a file is: the names on the way from the root. -/
abbrev Location := List String

structure FileTree where
  nodes : List (Location × FileNode)
  home : Location
  /-- How many bytes all files together may hold, if there is a limit. -/
  capacity : Option Nat
  deriving DecidableEq

namespace FileTree

def atHome (home : Location) : FileTree := ⟨[(home, .directory)], home, none⟩

def node? (tree : FileTree) (location : Location) : Option FileNode :=
  if location = [] then some .directory else tree.nodes.lookup location

def erase (tree : FileTree) (location : Location) : FileTree :=
  { tree with nodes := tree.nodes.filter fun entry => entry.1 ≠ location }

def put (tree : FileTree) (location : Location) (node : FileNode) : FileTree :=
  { tree with nodes := (location, node) :: (tree.erase location).nodes }

def enter (tree : FileTree) (location : Location) (name : String) :
    Except SystemFault Location :=
  match tree.node? location with
  | some .directory =>
    if name = "" ∨ name = "." then .ok location
    else if name = ".." then .ok location.dropLast
    else if Path.nameLimit < name.utf8ByteSize then .error .nameTooLong
    else if (tree.node? (location ++ [name])).isSome then .ok (location ++ [name])
    else .error .notFound
  | some (.file _) => .error .notDirectory
  | none => .error .notFound

def start (tree : FileTree) (path : String) : Location :=
  if Path.isAbsolute path then [] else tree.home

def walk (tree : FileTree) (path : String) (names : List String) : Except IoFault Location :=
  (names.foldlM tree.enter (tree.start path)).mapError .system

def find (tree : FileTree) (path : String) : Except IoFault Location := do
  Path.check .nulInName path
  tree.walk path (Path.pieces path)

def read (tree : FileTree) (path : String) : Except IoFault ByteArray := do
  let location ← tree.find path
  match tree.node? location with
  | some (.file content) => return content
  | some .directory => throw (.system .isDirectory)
  | none => throw (.system .notFound)

def directory (tree : FileTree) (path : String) : Except IoFault Location := do
  let location ← tree.find path
  if tree.node? location = some .directory then return location
  else throw (.system .notDirectory)

def approach (tree : FileTree) (path : String) : Except IoFault Location := do
  let parent ← tree.walk path (Path.splitLast path).parents
  if tree.node? parent = some .directory then return parent
  else throw (.system .notDirectory)

def fileAt (tree : FileTree) (parent : Location) (name : String) : Except IoFault Location :=
  let location := parent ++ [name]
  if tree.node? location = some .directory then .error (.system .isDirectory) else .ok location

def creation (tree : FileTree) (path : String) : Except IoFault Location := do
  Path.check .nulInName path
  let parent ← tree.approach path
  let split := Path.splitLast path
  if Path.isSpecial split.last ∨ split.trailingSlash then throw (.system .isDirectory)
  if Path.nameLimit < split.last.utf8ByteSize then throw (.system .nameTooLong)
  tree.fileAt parent split.last

def moveTarget (tree : FileTree) (path : String) : Except IoFault Location := do
  Path.check (.system .invalidArgument) path
  let parent ← tree.approach path
  let split := Path.splitLast path
  if Path.isSpecial split.last then throw (.system .busy)
  if Path.nameLimit < split.last.utf8ByteSize then throw (.system .nameTooLong)
  if split.trailingSlash then throw (.system .notDirectory)
  tree.fileAt parent split.last

def FileNode.size : FileNode → Nat
  | .directory => 0
  | .file content => content.size

def used (tree : FileTree) : Nat :=
  tree.nodes.foldr (fun entry total => FileNode.size entry.2 + total) 0

def fill (tree : FileTree) (location : Location) (content : ByteArray) :
    Except IoFault Unit × FileTree :=
  match tree.capacity with
  | none => (.ok (), tree.put location (.file content))
  | some capacity =>
    let room := capacity - (tree.erase location).used
    let filled := tree.put location (.file (content.extract 0 room))
    (if content.size ≤ room then .ok () else .error (.system .noSpace), filled)

def write (tree : FileTree) (path : String) (content : ByteArray) :
    Except IoFault Unit × FileTree :=
  match tree.creation path with
  | .error fault => (.error fault, tree)
  | .ok location => tree.fill location content

def temporaryStart : String := ".tmp"

def temporaryLetters : Nat := 6

def temporaryShown : String := temporaryStart ++ "*"

/-- Where the temporary file for a path is created: the directory of the path, which has to leave
room for the name of the file. -/
def temporaryPlace (tree : FileTree) (path : String) : Except IoFault Location := do
  let letters := String.ofList (List.replicate temporaryLetters '0')
  Path.check .nulInName (Path.join (Path.parent path) (temporaryStart ++ letters))
  tree.directory (Path.parent path)

/-- A name for a temporary file that no location of the tree ends with. -/
def temporaryName (tree : FileTree) : String :=
  let longest := (tree.nodes.map fun entry => (entry.1.getLastD "").length).foldl max 0
  temporaryStart ++ String.ofList (List.replicate longest '0')

end FileTree

/-- Why a file was not replaced: the temporary file for it was not created, not written in full or
not moved to its place. -/
inductive ReplaceFault where
  | create (temporary : String) (fault : IoFault)
  | fill (violation : Violation)
  | move (fault : IoFault)
  deriving Repr

namespace FileTree

def replace (tree : FileTree) (path : String) (content : ByteArray) :
    Except ReplaceFault Unit × FileTree :=
  match tree.temporaryPlace path with
  | .error fault => (.error (.create (Path.join (Path.parent path) temporaryShown) fault), tree)
  | .ok directory =>
    let temporary := directory ++ [tree.temporaryName]
    match (tree.put temporary (.file .empty)).fill temporary content with
    | (.error fault, filled) => (.error (.fill (.io fault)), filled.erase temporary)
    | (.ok (), filled) =>
      match filled.moveTarget path with
      -- The temporary file goes with the fault, not before it.
      | .error fault => (.error (.move fault), filled.erase temporary)
      | .ok target => (.ok (), (filled.erase temporary).put target (.file content))

end FileTree

end RowScan
