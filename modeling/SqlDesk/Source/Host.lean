import SqlDesk.Files
import SqlDesk.Source.Script

/-! The databases behind connections, as far as an execution can tell: running a text on one of them
changes it and yields a script. Replaying answers every execution from a list made beforehand. -/

set_option autoImplicit false

namespace SqlDesk

structure Execution where
  sql : String
  actualPlan : Bool
  estimatedPlan : Bool
  deriving DecidableEq, Repr

abbrev Connection := Nat

class Host (η : Type) where
  execute : η → Connection → Execution → Script × η

/-- A host that opens databases by path; it may make a file. -/
class Opener (η : Type) where
  openPath : η → FileTree → String → Except SourceError (Connection × η × FileTree)

/-- A source that answers its first executions from a list; the last answer repeats. -/
structure Replay where
  scripts : List Script
  executions : List Execution

namespace Replay

def scriptAt (scripts : List Script) (number : Nat) : Script :=
  (scripts[number]?).getD (scripts.getLastD [])

def execute (replay : Replay) (execution : Execution) : Script × Replay :=
  (scriptAt replay.scripts replay.executions.length,
    { replay with executions := replay.executions ++ [execution] })

end Replay

/-- A host of replays, the n-th for connection n. -/
instance : Host (Array Replay) where
  execute replays connection execution :=
    match replays[connection]? with
    | none => ([.stop (.fails .disconnected)], replays)
    | some replay =>
      let (script, replay) := replay.execute execution
      (script, replays.setIfInBounds connection replay)

end SqlDesk
