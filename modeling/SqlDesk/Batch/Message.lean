import SqlDesk.Instant
import SqlDesk.Source.Message
import SqlDesk.Splitting

/-! What a batch tells its reader besides rows. Messages of a database above a severity are errors
and are written with their number, level, state and line; the line counts within the query text. -/

set_option autoImplicit false

namespace SqlDesk

structure BatchMessage where
  batchId : Nat
  isError : Bool
  time : Instant
  text : String
  deriving DecidableEq, Repr

namespace BatchMessage

def toJson (message : BatchMessage) : Json :=
  .object [("batchId", .ofNat message.batchId), ("isError", .bool message.isError),
    ("time", .string message.time.text), ("message", .string message.text)]

def successText : String := "Commands completed successfully."
def cancelledText : String := "Query was canceled by user"

end BatchMessage

/-- How an error that ends an execution is told. -/
inductive Tone where
  | error
  | informational
  | suppressed
  deriving DecidableEq, Repr

def Tone.name : Tone → String
  | error => "error"
  | informational => "informational"
  | suppressed => "suppressed"

namespace DriverMessage

def errorThreshold : Nat := 10

def isSevere (message : DriverMessage) : Bool := errorThreshold < message.severity

def tone (message : DriverMessage) : Tone :=
  if message.isSevere then .error
  else if 0 < message.severity ∧ message.code ≠ 0 then .informational
  else .suppressed

/-- The line of a message in the query text, whose batch begins at `startLine`, counted from zero.
A message without line belongs to the first one. Lines are words of 32 bits. -/
def lineFrom (message : DriverMessage) (startLine : Nat) : Nat :=
  (startLine + max message.line 1) % Text.wordBound 32

def errorText (message : DriverMessage) (startLine : Nat) : String :=
  let line := message.lineFrom startLine
  let procedure := match message.procedure with
    | none | some "" => ""
    | some name => s!"Procedure {name}, "
  s!"Msg {message.code}, Level {message.severity}, State {message.state}, {procedure}Line {line}\n"
    ++ message.message

end DriverMessage

namespace Notice

def rowsText (count : Nat) : String :=
  if count = 1 then "(1 row affected)" else s!"({count} rows affected)"

def isError : Notice → Bool
  | rowsAffected _ => false
  | message said => said.isSevere

def text (startLine : Nat) : Notice → String
  | rowsAffected count => rowsText count
  | message said => if said.isSevere then said.errorText startLine else said.message

end Notice

end SqlDesk
