import SqlDesk.Bytes

/-! A tree of directories and files as far as the program touches one. Paths are resolved step by
step from the root or from the working directory; every step but the last has to be a directory. -/

set_option autoImplicit false

namespace SqlDesk

inductive FileError where
  | notFound
  | notDirectory
  | isDirectory
  | nameTooLong
  | nulInName
  | medium (text : String)
  deriving DecidableEq, Repr

def FileError.message : FileError → String
  | notFound => "No such file or directory (os error 2)"
  | notDirectory => "Not a directory (os error 20)"
  | isDirectory => "Is a directory (os error 21)"
  | nameTooLong => "File name too long (os error 36)"
  | nulInName => "file name contained an unexpected NUL byte"
  | medium text => text

abbrev Location := List String

structure FileTree where
  workingDirectory : Location
  directories : List Location
  files : List (Location × Bytes)

namespace FileTree

def pieces (path : String) : List String := (path.splitOn "/").filter (!·.isEmpty)

def isAbsolute (path : String) : Bool := path.toList.head? = some '/'

/-- The names by which two paths are told apart: a point counts only in front, and a slash at the
end does not count. -/
def components (path : String) : List String :=
  let named := (pieces path).zipIdx.filterMap fun (piece, index) =>
    if piece = "." ∧ (index ≠ 0 ∨ isAbsolute path) then none else some piece
  if isAbsolute path then "/" :: named else named

def isDirectoryAt (tree : FileTree) (location : Location) : Bool :=
  location.isEmpty || tree.directories.contains location

def contentAt? (tree : FileTree) (location : Location) : Option Bytes := tree.files.lookup location

def nameLimit : Nat := 255
def pathLimit : Nat := 4096

def step (tree : FileTree) (here : Location) (name : String) : Except FileError Location :=
  if !tree.isDirectoryAt here then
    .error (if (tree.contentAt? here).isSome then .notDirectory else .notFound)
  else if nameLimit < name.utf8ByteSize then .error .nameTooLong
  else if name = "." then .ok here
  else if name = ".." then .ok here.dropLast
  else .ok (here ++ [name])

def resolve (tree : FileTree) (path : String) : Except FileError Location :=
  if path.toList.contains '\x00' then .error .nulInName
  else if path.isEmpty then .error .notFound
  else if pathLimit ≤ path.utf8ByteSize then .error .nameTooLong
  else
    (pieces path).foldlM tree.step (if isAbsolute path then [] else tree.workingDirectory)

def isDirectory (tree : FileTree) (path : String) : Bool :=
  match tree.resolve path with
  | .ok location => tree.isDirectoryAt location
  | .error _ => false

def endsWithSlash (path : String) : Bool := path.toList.getLast? = some '/'

def read (tree : FileTree) (path : String) : Except FileError Bytes := do
  let location ← tree.resolve path
  match tree.contentAt? location with
  | some content => if endsWithSlash path then .error .notDirectory else .ok content
  | none => .error (if tree.isDirectoryAt location then .isDirectory else .notFound)

def isThere (tree : FileTree) (path : String) : Bool :=
  tree.isDirectory path || (tree.read path).isOk

def writable (tree : FileTree) (path : String) : Except FileError Location := do
  let location ← tree.resolve path
  if tree.isDirectoryAt location || endsWithSlash path then .error .isDirectory else .ok location

def setFile (tree : FileTree) (location : Location) (content : Bytes) : FileTree :=
  { tree with files := tree.files.filter (·.1 ≠ location) ++ [(location, content)] }

def removeFile (tree : FileTree) (location : Location) : FileTree :=
  { tree with files := tree.files.filter (·.1 ≠ location) }

end FileTree

end SqlDesk
