import SqlDesk.Sql.Error

/-! Rows that come one after another. A failure ends them; what has come before it has come. -/

set_option autoImplicit false

namespace SqlDesk.Sql

structure Flow (α : Type) where
  items : List α
  failure : Option ExecutionError

namespace Flow

variable {α β : Type}

def ofList (items : List α) : Flow α := ⟨items, none⟩

def ofFailure (failure : ExecutionError) : Flow α := ⟨[], some failure⟩

def after (first : Except ExecutionError β) (rest : β → Flow α) : Flow α :=
  match first with
  | .ok value => rest value
  | .error failure => ofFailure failure

def append (first rest : Flow α) : Flow α :=
  if first.failure.isSome then first else ⟨first.items ++ rest.items, rest.failure⟩

/-- What is made of one item after another, up to the first failure. -/
def ofItems (make : α → Except ExecutionError (Option β)) : List α → Flow β
  | [] => ⟨[], none⟩
  | first :: rest =>
    match make first with
    | .error failure => ofFailure failure
    | .ok none => ofItems make rest
    | .ok (some made) => (ofList [made]).append (ofItems make rest)

/-- What is made of one item after another, and then the failure of the flow itself. -/
def bind (flow : Flow α) (make : α → Except ExecutionError (Option β)) : Flow β :=
  (ofItems make flow.items).append ⟨[], flow.failure⟩

def map (flow : Flow α) (make : α → Except ExecutionError β) : Flow β :=
  flow.bind fun item => do return some (← make item)

def filter (flow : Flow α) (test : α → Except ExecutionError Bool) : Flow α :=
  flow.bind fun item => do return if ← test item then some item else none

def all (flow : Flow α) : Except ExecutionError (List α) :=
  match flow.failure with
  | none => .ok flow.items
  | some failure => .error failure

def whole (flow : Flow α) (make : List α → Flow β) : Flow β := after flow.all make

def drop (count : Nat) (flow : Flow α) : Flow α := ⟨flow.items.drop count, flow.failure⟩

/-- The first items; what would come behind them is not looked at. -/
def take (count : Nat) (flow : Flow α) : Flow α :=
  if count ≤ flow.items.length then ofList (flow.items.take count) else flow

end Flow

end SqlDesk.Sql
