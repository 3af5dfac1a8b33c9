import SqlDesk.Desk
import SqlDesk.Query.Run

/-! What a desk does besides its registrations: saving results of registered queries, and letting
the accepted queries run. A save is accepted or refused at once and written later; its result is found
by the number of its query, whoever is registered by then. -/

set_option autoImplicit false

namespace SqlDesk

structure SaveTask where
  queryId : QueryId
  batchId : Nat
  resultId : Nat
  request : SaveRequest
  deriving DecidableEq

namespace Query

def beginSave (query : Query) (batchId resultId : Nat) (path : String) : Except DeskError Query :=
  match query.result batchId resultId with
  | .error error => .error (.query error)
  | .ok result => match result.beginSave path with
    | .error error => .error (.resultSet error)
    | .ok result => .ok (query.setResult result)

/-- Writes an accepted save, whose destination is free again afterwards. -/
def runSave (tree : FileTree) (query : Query) (batchId resultId : Nat) (request : SaveRequest) :
    FileTree × Query × Except ResultSetError Unit :=
  match query.result batchId resultId with
  | .error _ => (tree, query, .error .notComplete)
  | .ok result =>
    let (tree, outcome) := Export.write tree result request
    (tree, query.setResult (result.endSave request.path), outcome)

end Query

namespace Desk

variable {η : Type}

def beginSave (desk : Desk η) (owner : String) (batchId resultId : Nat) (request : SaveRequest) :
    Except DeskError (SaveTask × Desk η) := do
  let (id, query) ← desk.require owner
  let query ← query.beginSave batchId resultId request.path
  return (⟨id, batchId, resultId, request⟩, desk.setQuery id query)

def runSave (tree : FileTree) (desk : Desk η) (task : SaveTask) :
    FileTree × Desk η × Except ResultSetError Unit :=
  match desk.queries[task.queryId]? with
  | none => (tree, desk, .error .notComplete)
  | some query =>
    let (tree, query, outcome) := query.runSave tree task.batchId task.resultId task.request
    (tree, desk.setQuery task.queryId query, outcome)

/-! Letting the accepted queries of a desk run, in the order in which they were accepted, each until
it has ended or waits. -/

variable [Host η]

def runQuery (now : Instant) (desk : Desk η) (id : QueryId) : Desk η × List Event :=
  match desk.queries[id]? with
  | none => (desk, [])
  | some query =>
    let begun := match query.begin now with
      | .ok begun => begun
      | .error _ => query
    let (world, query, happenings) := begun.run now desk.world
    ({ desk with world }.setQuery id query, happenings.map (Event.mk query.owner))

/-- Runs every accepted query as far as it gets. -/
def settle (now : Instant) (desk : Desk η) : Desk η × List Event :=
  desk.accepted.foldl (fun (desk, told) id =>
    let (desk, events) := desk.runQuery now id
    (desk, told ++ events)) (desk, [])

/-- Cancels everything, lets the runs end, and lets all queries go. -/
def shutdown (now : Instant) (desk : Desk η) : Desk η × List Event :=
  let (desk, events) := desk.cancelAll.settle now
  (desk.releaseAll, events)

end Desk

end SqlDesk
