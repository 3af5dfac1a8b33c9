import SqlDesk.Cell
import SqlDesk.Column
import SqlDesk.Source.Message

/-! What an execution yields, and reading it. A script lists notices, results and the ending of an
execution; a cursor goes through it once. An ending that hangs waits until the execution is
cancelled. -/

set_option autoImplicit false

namespace SqlDesk

inductive Stop where
  | fails (error : SourceError)
  | hangs
  deriving DecidableEq

/-- What reading comes across inside a result. -/
inductive Item where
  | row (row : Row)
  | notice (notice : Notice)
  deriving DecidableEq

structure ScriptedResult where
  header : Header
  items : List Item
  /-- Raised once where the rows would end. -/
  stop : Option Stop
  deriving DecidableEq

inductive ScriptStep where
  | notice (notice : Notice)
  | result (result : ScriptedResult)
  | stop (stop : Stop)
  deriving DecidableEq

abbrev Script := List ScriptStep

structure Cursor where
  items : List Item
  stop : Option Stop
  script : Script
  notices : List Notice
  deriving DecidableEq

/-- What asking a source for its next thing comes to. -/
inductive Fetched (α : Type) where
  | value (value : α)
  | ended
  | failed (error : SourceError)
  /-- Nothing will come before cancellation. -/
  | waits
  deriving DecidableEq

namespace Stop

/-- An ending that hangs fails once cancellation has been signalled. -/
def fetched {α : Type} (cancelled : Bool) : Stop → Fetched α
  | fails error => .failed error
  | hangs => if cancelled then .failed .cancelled else .waits

end Stop

namespace Cursor

def ofScript (script : Script) : Cursor := ⟨[], none, script, []⟩

def nextRow (cancelled : Bool) (cursor : Cursor) : Fetched Row × Cursor :=
  go cursor.items cursor.notices
where
  go : List Item → List Notice → Fetched Row × Cursor
    | .row row :: items, notices => (.value row, { cursor with items, notices })
    | .notice notice :: items, notices => go items (notices ++ [notice])
    | [], notices =>
      match cursor.stop with
      | none => (.ended, { cursor with items := [], notices })
      | some stop =>
        match stop.fetched cancelled with
        | .waits => (.waits, { cursor with items := [], notices })
        | fetched => (fetched, { cursor with items := [], stop := none, notices })

/-- Drops what is left of the current result and goes to the next one. -/
def nextResult (cancelled : Bool) (cursor : Cursor) : Fetched Header × Cursor :=
  go cursor.script cursor.notices
where
  go : Script → List Notice → Fetched Header × Cursor
    | [], notices => (.ended, ⟨[], none, [], notices⟩)
    | .notice notice :: script, notices => go script (notices ++ [notice])
    | .result result :: script, notices =>
      (.value result.header, ⟨result.items, result.stop, script, notices⟩)
    | .stop stop :: script, notices =>
      match stop.fetched cancelled with
      | .waits => (.waits, ⟨[], none, .stop stop :: script, notices⟩)
      | fetched => (fetched, ⟨[], none, [], notices⟩)

def takeNotices (cursor : Cursor) : List Notice × Cursor :=
  (cursor.notices, { cursor with notices := [] })

end Cursor

/-- Begins to read a script. One that begins with its ending yields no cursor. -/
def Script.open (cancelled : Bool) (script : Script) : Fetched Cursor :=
  match script with
  | .stop stop :: _ => stop.fetched cancelled
  | script => .value (Cursor.ofScript script)

end SqlDesk
