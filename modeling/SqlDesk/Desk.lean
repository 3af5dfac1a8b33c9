import SqlDesk.Query.Execution
import SqlDesk.ResultSet.Export

/-! The desk: which owner has which connection and settings, and which query. Every query ever made
keeps its number, whether or not it is still registered for its owner; an owner has at most one
registered query, and gets the next only when that one has ended. -/

set_option autoImplicit false

namespace SqlDesk

inductive DeskError where
  | notConnected (owner : String)
  | inProgress (owner : String)
  | noQuery (owner : String)
  | query (error : QueryError)
  | resultSet (error : ResultSetError)
  deriving DecidableEq

def DeskError.message : DeskError → String
  | notConnected owner => s!"no connection is open for {owner}"
  | inProgress owner => s!"a query is already in progress for {owner}"
  | noQuery owner => s!"no query exists for {owner}"
  | query error => error.message
  | resultSet error => error.message

structure QueryRequest where
  owner : String
  text : String
  actualPlan : Bool
  estimatedPlan : Bool
  deriving DecidableEq, Repr

inductive CancelOutcome where
  | cancelled
  | noQuery
  | alreadyCompleted
  deriving DecidableEq, Repr

def CancelOutcome.name : CancelOutcome → String
  | cancelled => "cancelled"
  | noQuery => "noSuchQuery"
  | alreadyCompleted => "alreadyCompleted"

/-- Queries are numbered in the order in which they are made. -/
abbrev QueryId := Nat

structure Desk (η : Type) where
  world : World η
  connections : List (String × Connection)
  defaults : Settings
  overrides : List (String × Settings)
  queries : Array Query
  registered : List (String × QueryId)
  accepted : List QueryId

namespace Desk

variable {η : Type}

def empty (world : World η) (defaults : Settings) : Desk η :=
  ⟨world, [], defaults, [], #[], [], []⟩

def bind {α : Type} (table : List (String × α)) (owner : String) (value : α) : List (String × α) :=
  (owner, value) :: table.filter (·.1 ≠ owner)

def unbind {α : Type} (table : List (String × α)) (owner : String) : List (String × α) :=
  table.filter (·.1 ≠ owner)

/-! Connections and settings. -/

def connection? (desk : Desk η) (owner : String) : Option Connection :=
  desk.connections.lookup owner

def connect (desk : Desk η) (owner : String) (connection : Connection) : Desk η :=
  { desk with connections := bind desk.connections owner connection }

def disconnect (desk : Desk η) (owner : String) : Desk η :=
  { desk with connections := unbind desk.connections owner }

def setDefaults (desk : Desk η) (settings : Settings) : Desk η := { desk with defaults := settings }

def setOverride (desk : Desk η) (owner : String) (settings : Option Settings) : Desk η :=
  { desk with
    overrides := match settings with
      | some settings => bind desk.overrides owner settings
      | none => unbind desk.overrides owner }

/-- The settings of a new query: defaults, the layer of its owner, the plans of the request. -/
def settingsFor (desk : Desk η) (owner : String) (actual estimated : Bool) : Settings :=
  let base := match desk.overrides.lookup owner with
    | some layer => desk.defaults.mergedWith layer
    | none => desk.defaults
  base.withPlans actual estimated

/-! Queries. -/

def queryId? (desk : Desk η) (owner : String) : Option QueryId := desk.registered.lookup owner

def query? (desk : Desk η) (owner : String) : Option (QueryId × Query) := do
  let id ← desk.queryId? owner
  return (id, ← desk.queries[id]?)

def require (desk : Desk η) (owner : String) : Except DeskError (QueryId × Query) :=
  match desk.query? owner with
  | some found => .ok found
  | none => .error (.noQuery owner)

def setQuery (desk : Desk η) (id : QueryId) (query : Query) : Desk η :=
  { desk with queries := desk.queries.setIfInBounds id query }

def disposeQuery (desk : Desk η) (id : QueryId) : Desk η :=
  { desk with queries := desk.queries.modify id Query.dispose }

def unregister (desk : Desk η) (owner : String) : Desk η :=
  { desk with registered := unbind desk.registered owner }

def unregisterQuery (desk : Desk η) (owner : String) (id : QueryId) : Desk η :=
  if desk.queryId? owner = some id then desk.unregister owner else desk

/-- Makes room for the next query of an owner: one that has ended is let go. -/
def release (desk : Desk η) (owner : String) : Except DeskError (Desk η) :=
  match desk.query? owner with
  | none => .ok desk
  | some (id, query) =>
    if query.isTerminal then .ok ((desk.unregister owner).disposeQuery id)
    else .error (.inProgress owner)

/-- Makes a query and registers it; it does not run yet. -/
def create (desk : Desk η) (request : QueryRequest) : Except DeskError (QueryId × Desk η) := do
  match desk.connection? request.owner with
  | none => .error (.notConnected request.owner)
  | some connection =>
    let desk ← desk.release request.owner
    let settings := desk.settingsFor request.owner request.actualPlan request.estimatedPlan
    let id := desk.queries.size
    return (id, { desk with
      queries := desk.queries.push (.create request.owner request.text connection settings)
      registered := bind desk.registered request.owner id })

def accept (desk : Desk η) (id : QueryId) : Desk η := { desk with accepted := desk.accepted ++ [id] }

def abandon (desk : Desk η) (owner : String) (id : QueryId) : Desk η := desk.unregisterQuery owner id

def decline (desk : Desk η) (owner : String) (id : QueryId) : Desk η :=
  (desk.abandon owner id).disposeQuery id

def window (desk : Desk η) (owner : String) (batchId resultId : Nat) (start count : Int) :
    Except DeskError Window := do
  match (← desk.require owner).2.window batchId resultId start count with
  | .ok window => .ok window
  | .error error => .error (.query error)

def cancel (desk : Desk η) (owner : String) : CancelOutcome × Desk η :=
  match desk.query? owner with
  | none => (.noQuery, desk)
  | some (id, query) => match query.cancel with
    | .ok query => (.cancelled, desk.setQuery id query)
    | .error _ => (.alreadyCompleted, desk)

def dispose (desk : Desk η) (owner : String) : Except DeskError (Desk η) := do
  let (id, _) ← desk.require owner
  return (desk.unregister owner).disposeQuery id

/-! Shutting down: everything is cancelled, runs end, and all queries are let go. -/

def cancelAll (desk : Desk η) : Desk η :=
  desk.registered.foldl (fun desk (owner, _) => (desk.cancel owner).2) desk

def releaseAll (desk : Desk η) : Desk η :=
  { desk.registered.foldl (fun desk (_, id) => desk.disposeQuery id) desk with registered := [] }

def fileCount (desk : Desk η) : Nat :=
  (desk.queries.toList.flatMap Query.results).countP fun result => result.store.fileName?.isSome

end Desk

end SqlDesk
