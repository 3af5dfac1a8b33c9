import SqlDesk.Files
import SqlDesk.Sql.Error

/-! Addresses of databases. An address is a path, or a resource name with options behind it; a few of
them stand for a database in memory. Paths are shortened by their letters before anything is looked
up, so that a directory left again need not be there. -/

set_option autoImplicit false

namespace SqlDesk.Sql

inductive AccessMode where
  | readOnly
  | readWrite
  | create
  | memory
  deriving DecidableEq, Repr

namespace AccessMode

def rank : AccessMode → Nat
  | memory => 0
  | readOnly => 1
  | readWrite => 2
  | create => 3

/-- Whether a mode may be told after another one: it allows no more, unless there was no file. -/
def canFollow (mode earlier : AccessMode) : Bool := earlier = memory || mode.rank ≤ earlier.rank

end AccessMode

inductive FileSystem where
  | disk
  /-- On a disk, where a lock is a directory beside the file. -/
  | lockedByDirectory
  | memory
  deriving DecidableEq, Repr

structure Address where
  path : Bytes
  mode : AccessMode
  isShared : Bool
  fileSystem : FileSystem
  /-- Whether the file is taken for one that nobody changes. -/
  isFixed : Bool
  model : Option Bytes
  deriving DecidableEq, Repr

inductive AddressError where
  | authority (name : String)
  | accessMode (name : String)
  /-- A mode that allows more than one before it. -/
  | excessMode (name : String)
  | cacheMode (name : String)
  | fileSystem (name : String)
  | nul (place : Nat)
  | unopened (text : String)
  | medium
  deriving DecidableEq, Repr

namespace AddressError

def message : AddressError → String
  | authority name => s!"invalid uri authority: {name}"
  | accessMode name => s!"no such access mode: {name}"
  | excessMode name => s!"access mode not allowed: {name}"
  | cacheMode name => s!"no such cache mode: {name}"
  | fileSystem name => s!"no such vfs: {name}"
  | nul place => s!"nul byte found in provided data at position: {place}"
  | unopened text => s!"unable to open database file: {text}"
  | medium => "disk I/O error"

def code : AddressError → Int
  | excessMode _ => 3
  | medium => 10
  | unopened _ => 14
  | authority _ | accessMode _ | cacheMode _ | fileSystem _ | nul _ => 1

def failure (error : AddressError) : SourceError := failureOn 0 error.code error.message

end AddressError

namespace Address

def ofPath (path : Bytes) : Address := ⟨path, .create, false, .disk, false, none⟩

def memoryPath : Bytes := Bytes.ofString ":memory:"

/-- Bytes with those put in that stand behind a percent sign; a zero ends them. -/
def decode : List Char → Bytes
  | '%' :: high :: low :: rest =>
    match Text.hexValue? high, Text.hexValue? low with
    | some h, some l => if h = 0 ∧ l = 0 then [] else UInt8.ofNat (h * 16 + l) :: decode rest
    | _, _ => Bytes.ofString "%" ++ decode (high :: low :: rest)
  | c :: rest => Bytes.ofString (String.singleton c) ++ decode rest
  | [] => []

def splitAt (mark : Char) (chars : List Char) : List Char × List Char :=
  let front := chars.takeWhile (· ≠ mark)
  (front, chars.drop (front.length + 1))

/-- The options behind a path; those without a name do not count. -/
def optionsOf (chars : List Char) : List (String × Bytes) :=
  (((String.ofList chars).splitOn "&").map fun option =>
    let (name, value) := splitAt '=' option.toList
    ((decode name).text, decode value)).filter (!·.1.isEmpty)

def accessModes : List (String × AccessMode) :=
  [("ro", .readOnly), ("rw", .readWrite), ("rwc", .create), ("memory", .memory)]

def cacheModes : List (String × Bool) := [("shared", true), ("private", false)]

def fileSystems : List (String × FileSystem) :=
  [("unix", .disk), ("unix-dotfile", .lockedByDirectory), ("unix-excl", .disk), ("unix-none", .disk),
    ("memdb", .memory)]

/-- A number in front of other letters; zero if it is no positive one of 32 bits with a sign. -/
def leadingNumber (chars : List Char) : Nat :=
  let (base, digits) : Nat × List Nat := match chars with
    | '0' :: x :: rest =>
      if (x = 'x' || x = 'X') && (rest.head?.bind Text.hexValue?).isSome then
        (16, (rest.map Text.hexValue?).takeWhile Option.isSome |>.filterMap id)
      else (10, ((x :: rest).map Text.digitValue?).takeWhile Option.isSome |>.filterMap id)
    | _ => (10, (chars.map Text.digitValue?).takeWhile Option.isSome |>.filterMap id)
  let value := digits.foldl (fun value digit => value * base + digit) 0
  if value < Text.wordBound 31 then value else 0

/-- Whether an option is switched on. Of a number the lowest byte counts. -/
def isOn (value : List Char) : Bool :=
  if (value.head?.bind Text.digitValue?).isSome then leadingNumber value % 256 ≠ 0
  else ["on", "yes", "true"].any fun word => Text.sameIgnoringCase word.toList value

def withOption (address : Address) (name : String) (value : Bytes) : Except AddressError Address :=
  if name = "cache" then
    match cacheModes.lookup value.text with
    | some isShared => .ok { address with isShared }
    | none => .error (.cacheMode value.text)
  else if name = "mode" then
    match accessModes.lookup value.text with
    | some mode =>
      if mode.canFollow address.mode then .ok { address with mode } else .error (.excessMode value.text)
    | none => .error (.accessMode value.text)
  else .ok address

/-- The address that a resource name is, after its scheme. An authority may be left out, and the only
one there is is this machine. -/
def ofResource (chars : List Char) : Except AddressError Address := do
  let afterAuthority ← match chars with
    | '/' :: '/' :: rest =>
      let authority := String.ofList (rest.takeWhile (· ≠ '/'))
      if authority.isEmpty ∨ authority = "localhost" then
        pure (rest.drop authority.length)
      else throw (.authority authority)
    | _ => pure chars
  let (path, options) := splitAt '?' (splitAt '#' afterAuthority).1
  let options := optionsOf options
  let address ← options.foldlM (fun address option => withOption address option.1 option.2)
    (ofPath (decode path))
  -- Where an option is repeated, the last file system counts, but the first of the others.
  let fileSystem ← match options.reverse.lookup "vfs" with
    | some name => match fileSystems.lookup name.text with
      | some fileSystem => pure fileSystem
      | none => throw (.fileSystem name.text)
    | none => pure .disk
  return { address with
    fileSystem
    isFixed := (options.lookup "immutable").any fun value => isOn value.text.toList
    model := options.lookup "modeof" }

def ofText (text : String) : Except AddressError Address :=
  match "file:".toList.isPrefixOf? text.toList with
  | some rest => ofResource rest
  | none => .ok (ofPath (Bytes.ofString text))

def isInMemory (address : Address) : Bool :=
  address.mode = .memory || address.path = memoryPath || address.path.isEmpty

def isReadOnly (address : Address) : Bool :=
  address.mode = .readOnly || (address.isFixed && !address.isInMemory)

/-- Whether a path in a file system in memory stands for one file, whoever uses it. -/
def isRooted (path : Bytes) : Bool :=
  path.length ≠ 1 && (path.head? = some 0x2F || path.head? = some 0x5C)

def sharedName? (address : Address) : Option String :=
  let isKept := !address.isInMemory && isRooted address.path
  if (address.isShared && !address.path.isEmpty) || isKept then some address.path.text else none

/-- Longest path on a disk and in memory, with a journal's name at its end. -/
def diskPathLimit : Nat := 512
def memoryPathLimit : Nat := 1024

def journalEnding : Bytes := Bytes.ofString "-journal"

def lockEnding : Bytes := Bytes.ofString ".lock"

def sizeOf (pieces : List Bytes) : Nat := pieces.foldl (fun size piece => size + piece.length + 1) 0

def locationOf (pieces : List Bytes) : Location := pieces.map Bytes.text

def piecesOf (path : Bytes) : List Bytes :=
  (path.foldr addTo []).filter (!·.isEmpty)
where
  addTo (byte : UInt8) (pieces : List Bytes) : List Bytes :=
    if byte = 0x2F then [] :: pieces
    else match pieces with
      | [] => [[byte]]
      | piece :: others => (byte :: piece) :: others

/-- One step of a path. What is there already has to allow it; what is not there does. -/
def step (tree : FileTree) (here : List Bytes) (piece : Bytes) : Option (List Bytes) :=
  if piece = Bytes.ofString "." then some here
  else if piece = Bytes.ofString ".." then some here.dropLast
  else if diskPathLimit < sizeOf here + piece.length + 2 then none
  else if (tree.contentAt? (locationOf here)).isSome then none
  else if tree.isDirectoryAt (locationOf here) ∧ FileTree.nameLimit < piece.length then none
  else some (here ++ [piece])

def pieces? (tree : FileTree) (address : Address) : Option (List Bytes) := do
  let start := if address.path.head? = some 0x2F then [] else tree.workingDirectory.map Bytes.ofString
  let pieces ← (piecesOf address.path).foldlM (step tree) start
  if pieces.isEmpty || diskPathLimit < sizeOf pieces + journalEnding.length then none else some pieces

def location (tree : FileTree) (text : String) (address : Address) (pieces : List Bytes) :
    Except AddressError Location := do
  let location := locationOf pieces
  if address.model.any fun model => !tree.isThere model.text then throw .medium
  if tree.isDirectoryAt location then
    throw (if address.mode = .readOnly then .medium else .unopened text)
  if !tree.isDirectoryAt location.dropLast then throw (.unopened text)
  if (tree.contentAt? location).isNone && address.mode ≠ .create then throw (.unopened text)
  return location

def isTooLong (pieces : List Bytes) (ending : Bytes) : Bool :=
  FileTree.nameLimit < ((pieces.getLast?.getD []) ++ ending).length

/-- What stands in the way of using a database that is no file. -/
def hindrance (address : Address) : Hindrance := if address.isReadOnly then .readOnly else .none

/-- What stands in the way of using the file that a path leads to. -/
def hindranceAt (address : Address) (pieces : List Bytes) : Hindrance :=
  if address.fileSystem = .lockedByDirectory && isTooLong pieces lockEnding then .unlockable
  else if address.isReadOnly then .readOnly
  else if isTooLong pieces journalEnding then .unrecorded
  else .none

end Address

end SqlDesk.Sql
