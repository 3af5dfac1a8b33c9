import SqlDesk.Batch

/-! What happens while a query runs, told to its subscribers in the order in which they
subscribed. -/

set_option autoImplicit false

namespace SqlDesk

inductive Happening where
  | batchStarted (batch : BatchSummary)
  | batchCompleted (batch : BatchSummary)
  | resultAvailable (result : ResultSummary)
  | resultUpdated (result : ResultSummary)
  | resultCompleted (result : ResultSummary)
  | message (message : BatchMessage)
  | queryCompleted (batches : List BatchSummary)
  deriving DecidableEq, Repr

namespace Happening

def kind : Happening → String
  | batchStarted _ => "batchStarted"
  | batchCompleted _ => "batchCompleted"
  | resultAvailable _ => "resultSetAvailable"
  | resultUpdated _ => "resultSetUpdated"
  | resultCompleted _ => "resultSetCompleted"
  | message _ => "message"
  | queryCompleted _ => "queryCompleted"

def payload : Happening → Json
  | batchStarted batch | batchCompleted batch => batch.toJson
  | resultAvailable result | resultUpdated result | resultCompleted result => result.toJson
  | message said => said.toJson
  | queryCompleted batches => .array (batches.map BatchSummary.toJson)

end Happening

structure Event where
  owner : String
  happening : Happening
  deriving DecidableEq, Repr

def Event.toJson (event : Event) : Json :=
  .object [("ownerUri", .string event.owner),
    ("body", .object [("kind", .string event.happening.kind),
      ("payload", event.happening.payload)])]

/-- Those who are told about the query of an owner. -/
structure Subscribers (α : Type) where
  owner : String
  members : List α

namespace Subscribers

variable {α : Type}

def none (owner : String) : Subscribers α := ⟨owner, []⟩

def subscribe (subscribers : Subscribers α) (member : α) : Subscribers α :=
  { subscribers with members := subscribers.members ++ [member] }

def deliveries (subscribers : Subscribers α) (happening : Happening) : List (α × Event) :=
  subscribers.members.map fun member => (member, ⟨subscribers.owner, happening⟩)

end Subscribers

end SqlDesk
