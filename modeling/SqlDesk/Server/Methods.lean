import SqlDesk.Desk.Service
import SqlDesk.Rpc.Message
import SqlDesk.Rpc.Params

/-! The methods of the service: what each does to the desk and what it answers. A query that has been
accepted runs later, and so is a save written later; both are answered at once. -/

set_option autoImplicit false

namespace SqlDesk.Server

/-- The desk with the files around it, and the saves that are still to be written. -/
structure State (η : Type) where
  desk : Desk η
  tree : FileTree
  saves : List (String × SaveTask)

inductive MethodError where
  | invalidParams
  | unknownMethod (name : String)
  | connection (error : SourceError)
  | desk (error : DeskError)
  deriving DecidableEq

namespace MethodError

def code : MethodError → Int64
  | invalidParams => -32602
  | unknownMethod _ => -32601
  | connection _ | desk _ => -32000

def message : MethodError → String
  | invalidParams => "invalid params"
  | unknownMethod name => s!"unknown method {name}"
  | connection error => s!"connection failed: {error.message}"
  | desk error => error.message

end MethodError

/-- What a method comes to: what is told before the answer, and the answer. -/
structure Reply (η : Type) where
  told : List Event
  result : Json
  state : State η

variable {η : Type}

namespace State

def withDesk (state : State η) (desk : Desk η) : State η := { state with desk }

def reply (state : State η) (result : Json) : Reply η := ⟨[], result, state⟩

def connect [Opener η] (state : State η) (params : Rpc.ConnectParams) :
    Except MethodError (Reply η) :=
  match Opener.openPath state.desk.world.host state.tree params.database with
  | .error error => .error (.connection error)
  | .ok (connection, host, tree) =>
    let desk := { state.desk with world := { state.desk.world with host } }
    .ok ({ state with desk := desk.connect params.owner connection, tree }.reply (.bool true))

def disconnect (state : State η) (owner : String) : Reply η :=
  let desk := match state.desk.dispose owner with
    | .ok desk => desk
    | .error _ => state.desk
  (state.withDesk (desk.disconnect owner)).reply (.bool (desk.connection? owner).isSome)

def execute (state : State η) (request : QueryRequest) : Except MethodError (Reply η) :=
  match state.desk.create request with
  | .error error => .error (.desk error)
  | .ok (id, desk) => .ok ((state.withDesk (desk.accept id)).reply (.object []))

def subset (state : State η) (params : Rpc.SubsetParams) : Except MethodError (Reply η) :=
  match state.desk.window params.owner params.batchId params.resultId params.start params.count with
  | .error error => .error (.desk error)
  | .ok window => .ok (state.reply (.object [("resultSubset", window.toJson)]))

def cancelReason? : CancelOutcome → Option String
  | .cancelled => none
  | .noQuery => some "No query exists for this owner"
  | .alreadyCompleted => some "The query has already completed and cannot be canceled"

def cancel (state : State η) (owner : String) : Reply η :=
  let (outcome, desk) := state.desk.cancel owner
  (state.withDesk desk).reply
    (.ofPresent [("outcome", some (.string outcome.name)),
      ("messages", (cancelReason? outcome).map Json.string)])

def dispose (state : State η) (owner : String) : Except MethodError (Reply η) :=
  match state.desk.dispose owner with
  | .error error => .error (.desk error)
  | .ok desk => .ok ((state.withDesk desk).reply (.object []))

def save (state : State η) (params : Rpc.SaveParams) : Except MethodError (Reply η) :=
  match state.desk.beginSave params.owner params.batchId params.resultId params.request with
  | .error error => .error (.desk error)
  | .ok (task, desk) =>
    .ok ({ state with desk, saves := state.saves ++ [(params.owner, task)] }.reply (.object []))

def settings (state : State η) (params : Rpc.SettingsParams) : Reply η :=
  let desk := match params.owner with
    | some owner => state.desk.setOverride owner params.settings
    | none => state.desk.setDefaults (params.settings.getD .standard)
  (state.withDesk desk).reply (.object [])

def shutdown [Host η] (now : Instant) (state : State η) : Reply η :=
  let (desk, events) := state.desk.shutdown now
  ⟨events, .null, state.withDesk desk⟩

def withParams {α : Type} (params : Option α) (use : α → Except MethodError (Reply η)) :
    Except MethodError (Reply η) :=
  match params with
  | some params => use params
  | none => .error .invalidParams

def dispatch [Host η] [Opener η] (now : Instant) (state : State η) (method : String)
    (params : Json) : Except MethodError (Reply η) :=
  let owned (use : String → Except MethodError (Reply η)) : Except MethodError (Reply η) :=
    withParams (Rpc.OwnerParams.ofJson? params) fun params => use params.owner
  match method with
  | "connection/connect" => withParams (Rpc.ConnectParams.ofJson? params) state.connect
  | "connection/disconnect" => owned fun owner => .ok (state.disconnect owner)
  | "query/executeString" => withParams (Rpc.queryRequest? params) state.execute
  | "query/subset" => withParams (Rpc.SubsetParams.ofJson? params) state.subset
  | "query/cancel" => owned fun owner => .ok (state.cancel owner)
  | "query/dispose" => owned state.dispose
  | "query/saveCsv" => withParams (Rpc.SaveParams.ofJson? .csv params) state.save
  | "query/saveJson" => withParams (Rpc.SaveParams.ofJson? .json params) state.save
  | "query/settings" =>
    withParams (Rpc.SettingsParams.ofJson? params) fun params => .ok (state.settings params)
  | "shutdown" => .ok (state.shutdown now)
  | name => .error (.unknownMethod name)

end State

end SqlDesk.Server
