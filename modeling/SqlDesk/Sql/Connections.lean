import SqlDesk.Sql.Address
import SqlDesk.Sql.Submission

/-! Databases with their connections. A database with a file is shared by all connections to that
file and outlives them, and one in memory may be shared by name; every other one is private to its
connection. -/

set_option autoImplicit false

namespace SqlDesk.Sql

inductive Place where
  | file (location : Location)
  | memory (name : String)
  | volume (name : String)
  deriving DecidableEq, Repr

structure Stored where
  place : Option Place
  database : Database
  /-- Whether the file was something else when it was opened. -/
  isForeign : Bool

structure Link where
  database : Nat
  hindrance : Hindrance
  changes : Nat
  saved : Option Database

structure Databases where
  stored : Array Stored
  links : Array Link

namespace Databases

def none : Databases := ⟨#[], #[]⟩

def connect (databases : Databases) (number : Nat) (hindrance : Hindrance) :
    Connection × Databases :=
  (databases.links.size,
    { databases with links := databases.links.push ⟨number, hindrance, 0, Option.none⟩ })

/-- Connects to the database at a place, which is empty if nothing is known of it. -/
def connectAt (databases : Databases) (place : Option Place) (isForeign : Bool)
    (hindrance : Hindrance) : Connection × Databases :=
  match databases.stored.findIdx? fun stored => place.isSome && stored.place = place with
  | some number =>
    { databases with
      stored := databases.stored.modify number fun stored =>
        { stored with isForeign := stored.isForeign || isForeign } }.connect number hindrance
  | Option.none =>
    { databases with
      stored := databases.stored.push ⟨place, .empty, isForeign⟩ }.connect
        databases.stored.size hindrance

def openAddress (databases : Databases) (tree : FileTree) (text : String) (address : Address) :
    Except AddressError (Connection × Databases × FileTree) :=
  if address.isInMemory || address.fileSystem = .memory then
    if !address.isInMemory
        && Address.memoryPathLimit < address.path.length + Address.journalEnding.length then
      .error (.unopened text)
    else
      let kept := if address.isInMemory then Place.memory else Place.volume
      let (connection, databases) :=
        databases.connectAt (address.sharedName?.map kept) false address.hindrance
      .ok (connection, databases, tree)
  else match address.pieces? tree with
    | Option.none => .error (.unopened text)
    | some pieces => do
      let location ← address.location tree text pieces
      let content := tree.contentAt? location
      let tree := if content.isSome then tree else tree.setFile location []
      let (connection, databases) := databases.connectAt (some (.file location))
        (content.any (!·.isEmpty)) (address.hindranceAt pieces)
      return (connection, databases, tree)

def openPath (databases : Databases) (tree : FileTree) (text : String) :
    Except SourceError (Connection × Databases × FileTree) :=
  let opened :=
    if text.toList.contains '\x00' then
      .error (.nul (Text.byteSize (text.toList.takeWhile (· ≠ '\x00'))))
    else Address.ofText text >>= databases.openAddress tree text
  opened.mapError AddressError.failure

def session? (databases : Databases) (connection : Connection) : Option (Link × Session) := do
  let link ← databases.links[connection]?
  let stored ← databases.stored[link.database]?
  let hindrance := if stored.isForeign then .foreign else link.hindrance
  return (link, ⟨stored.database, hindrance, link.changes, link.saved⟩)

def submit (cancelled : Bool) (databases : Databases) (connection : Connection)
    (execution : Execution) : Script × Databases :=
  match databases.session? connection with
  | Option.none => ([.stop (.fails .disconnected)], databases)
  | some (link, session) =>
    let (script, session) := session.submit cancelled execution
    (script, ⟨databases.stored.modify link.database fun stored =>
        { stored with database := session.database },
      databases.links.setIfInBounds connection { link with changes := session.changes, saved := session.saved }⟩)

end Databases

instance : Host Databases where
  execute := Databases.submit false

instance : Opener Databases where
  openPath := Databases.openPath

end SqlDesk.Sql
