import SqlDesk.Json.Record

/-! Settings of an execution: how often each batch runs, which plans are wanted, how many rows are
stored and how often readers hear of new rows. Settings come in layers; counts and limits of the
more specific layer win, while a plan wanted by any layer is taken. -/

set_option autoImplicit false

namespace SqlDesk

structure Settings where
  /-- Runs of each batch; anything below one means one. -/
  batchRuns : Int
  actualPlan : Bool
  estimatedPlan : Bool
  /-- Most rows stored for a result; zero means no limit. -/
  storedRows : Nat
  /-- Rows between two updates; zero means one. -/
  updateRows : Nat
  deriving DecidableEq, Repr

namespace Settings

def standard : Settings := ⟨1, false, false, 0, 1000⟩

def runs (settings : Settings) : Nat := max 1 settings.batchRuns.toNat

def rowLimit (settings : Settings) : Option Nat :=
  if settings.storedRows = 0 then none else some settings.storedRows

def updateInterval (settings : Settings) : Nat := max 1 settings.updateRows

def mergedWith (settings layer : Settings) : Settings where
  batchRuns := layer.batchRuns
  actualPlan := settings.actualPlan || layer.actualPlan
  estimatedPlan := settings.estimatedPlan || layer.estimatedPlan
  storedRows := layer.storedRows
  updateRows := layer.updateRows

def withPlans (settings : Settings) (actual estimated : Bool) : Settings :=
  { settings with
    actualPlan := settings.actualPlan || actual
    estimatedPlan := settings.estimatedPlan || estimated }

theorem updateInterval_pos (settings : Settings) : 0 < settings.updateInterval :=
  Nat.le_max_left ..

def fieldNames : List String :=
  ["batch_execution_count", "include_actual_plan", "include_estimated_plan", "row_count_limit",
    "update_interval_rows"]

/-- Reads the fields in the order of `fieldNames`; missing ones are standard. -/
def ofFields? : List (Option Json) → Option Settings
  | [runs, actual, estimated, rows, interval] => do
    return {
      batchRuns := ← Json.defaulted? standard.batchRuns (Json.asSigned? 32) runs
      actualPlan := ← Json.defaulted? standard.actualPlan Json.asBool? actual
      estimatedPlan := ← Json.defaulted? standard.estimatedPlan Json.asBool? estimated
      storedRows := ← Json.defaulted? standard.storedRows (Json.asUnsigned? 64) rows
      updateRows := ← Json.defaulted? standard.updateRows (Json.asUnsigned? 64) interval }
  | _ => none

def ofJson? (json : Json) : Option Settings := do
  ofFields? (← json.fields? fieldNames)

end Settings

end SqlDesk
