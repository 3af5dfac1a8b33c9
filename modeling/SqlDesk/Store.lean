import SqlDesk.Row.Codec

/-! Stores of rows: rows are only ever added, are read by window, and keep their number. A store
keeps the encoded rows in memory, or back to back in a file together with the extent of each. A
closed store serves nothing but its count. -/

set_option autoImplicit false

namespace SqlDesk

inductive StorageError where
  | closed
  | io (text : String)
  | corrupted (row : Nat) (error : CodecError)
  deriving DecidableEq, Repr

def StorageError.message : StorageError → String
  | closed => "row store is closed"
  | io text => s!"I/O error: {text}"
  | corrupted row error => s!"data corruption at row {row}: {error.message}"

structure StoreKey where
  owner : String
  batchId : Nat
  resultId : Nat
  deriving DecidableEq, Repr

def StoreKey.text (key : StoreKey) : String := s!"{key.owner}#{key.batchId}.{key.resultId}"

/-- Where an encoded row stands in a file. -/
structure Extent where
  offset : Nat
  length : Nat
  deriving DecidableEq, Repr

inductive Medium where
  | memory (rows : Array Bytes)
  /-- The writer keeps the end of the file in a number of its own. -/
  | file (content : Array UInt8) (extents : Array Extent) (fileEnd : Nat)
  deriving DecidableEq

namespace Medium

def append (medium : Medium) (encoded : Bytes) : Medium :=
  match medium with
  | .memory rows => .memory (rows.push encoded)
  | .file content extents fileEnd =>
    .file (content ++ encoded) (extents.push ⟨fileEnd, encoded.length⟩) (fileEnd + encoded.length)

def count : Medium → Nat
  | .memory rows => rows.size
  | .file _ extents _ => extents.size

end Medium

structure RowStore where
  key : StoreKey
  medium : Medium
  /-- Number of rows that readers can see. -/
  published : Nat
  isOpen : Bool
  /-- Number of rows at which the medium is full, where it has an end. -/
  room : Option Nat
  deriving DecidableEq

namespace RowStore

def isFull (store : RowStore) : Bool := store.room.any (· ≤ store.published)

def diskFull : StorageError := .io "disk full"

def append (store : RowStore) (row : Row) : Except StorageError RowStore :=
  if store.isFull then .error diskFull
  else if !store.isOpen then .error .closed
  else .ok { store with
    medium := store.medium.append (Row.encode row)
    published := store.published + 1 }

def appendRow (store : RowStore) (row : Row) : Except StorageError (Nat × RowStore) :=
  (store.append row).map fun next => (next.medium.count - 1, next)

def decodeRows (number : Nat) : List Bytes → Except StorageError (List Row)
  | [] => .ok []
  | bytes :: rest =>
    match Row.decode bytes with
    | .error error => .error (.corrupted number error)
    | .ok (row, _) => (decodeRows (number + 1) rest).map (row :: ·)

def cut : List Nat → Bytes → List Bytes
  | [], _ => []
  | length :: rest, block => block.take length :: cut rest (block.drop length)

def readExtents (content : Array UInt8) (start : Nat) (window : List Extent) :
    Except StorageError (List Row) :=
  match window with
  | [] => .ok []
  | first :: _ =>
    let lengths := window.map Extent.length
    let size := lengths.foldr (· + ·) 0
    let block := content.extract first.offset (first.offset + size)
    if block.size < size then .error (.io "early eof")
    else decodeRows start (cut lengths block.toList)

def read (store : RowStore) (start count : Nat) : Except StorageError (List Row) :=
  if !store.isOpen then .error .closed
  else
    let stop := min (start + count) store.published
    if stop ≤ start then .ok []
    -- Closing gives the rows up, so a window that is not there any more means closed.
    else if store.medium.count < stop then .error .closed
    else match store.medium with
      | .memory rows => decodeRows start (rows.extract start stop).toList
      | .file content extents _ => readExtents content start (extents.extract start stop).toList

/-- Lets go of the medium; closing again changes nothing. -/
def close (store : RowStore) : RowStore :=
  { store with
    medium := match store.medium with
      | .memory _ => .memory #[]
      | .file _ _ _ => .file #[] #[] 0
    isOpen := false }

/-- The name of the file of an open store, in front of and behind what makes it unique. -/
def fileName? (store : RowStore) : Option (String × String) :=
  match store.medium with
  | .file _ _ _ =>
    if store.isOpen then
      some (s!"querydeck-{store.key.batchId}-{store.key.resultId}-", ".rows")
    else none
  | .memory _ => none

def fileContent? (store : RowStore) : Option Bytes :=
  match store.medium with
  | .file content _ _ => if store.isOpen then some content.toList else none
  | .memory _ => none

def withFileContent (store : RowStore) (content : Bytes) : RowStore :=
  match store.medium with
  | .file _ extents fileEnd => { store with medium := .file content.toArray extents fileEnd }
  | .memory _ => store

end RowStore

/-- Number of rows that a store takes, where there is a limit, by the attempt that made it. -/
structure Rooms where
  ofAttempt : Nat → Option Nat

instance : Coe (Option Nat) Rooms := ⟨fun room => ⟨fun _ => room⟩⟩

/-- Which attempts to make a store fail. -/
structure Failures where
  ofAttempt : Nat → Bool

instance : Coe (Option Nat) Failures := ⟨fun failing => ⟨fun attempt => failing = some attempt⟩⟩

structure StoreMaker where
  inFile : Bool
  failures : Failures
  rooms : Rooms
  attempts : Nat

namespace StoreMaker

def unlimited : Rooms := ⟨fun _ => none⟩

def flawless : Failures := ⟨fun _ => false⟩

def memory : StoreMaker := ⟨false, flawless, unlimited, 0⟩
def file : StoreMaker := ⟨true, flawless, unlimited, 0⟩

def create (maker : StoreMaker) (key : StoreKey) : Except StorageError RowStore × StoreMaker :=
  let next := { maker with attempts := maker.attempts + 1 }
  if maker.failures.ofAttempt maker.attempts then (.error RowStore.diskFull, next)
  else
    let medium := if maker.inFile then .file #[] #[] 0 else .memory #[]
    (.ok ⟨key, medium, 0, true, maker.rooms.ofAttempt maker.attempts⟩, next)

end StoreMaker

end SqlDesk
