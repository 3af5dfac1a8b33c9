import SqlDesk.Json.Basic
import SqlDesk.Text.Ascii
import SqlDesk.Text.Layout

/-! Cutting a query text into batches. A separator is a line that holds the word GO, in any case,
and at most a positive count after it; it counts only outside block comments, which are tracked
line by line. Stretches of blank lines make no batch. -/

set_option autoImplicit false

namespace SqlDesk

/-- Where a batch stands in the query text, counted from zero. -/
structure Selection where
  startLine : Nat
  startColumn : Nat
  endLine : Nat
  endColumn : Nat
  deriving DecidableEq, Repr

namespace Selection

def start : Selection := ⟨0, 0, 0, 0⟩

/-- Lines and columns are words of 32 bits, and a place beyond them wraps. -/
def placed (place : Nat) : Nat := place % Text.wordBound 32

def toJson (selection : Selection) : Json :=
  .object [("startLine", .ofNat selection.startLine), ("startColumn", .ofNat selection.startColumn),
    ("endLine", .ofNat selection.endLine), ("endColumn", .ofNat selection.endColumn)]

end Selection

structure BatchText where
  sql : String
  selection : Selection
  /-- How often the batch runs, where its separator says so. -/
  runs : Option Nat
  deriving DecidableEq, Repr

namespace Splitting

def readCount? (word : List Char) : Option Nat :=
  (Text.readNatural? (Text.wordBound 32) word).filter (0 < ·)

/-- The count of a separator line; no value for any other line. -/
def separator? (line : List Char) : Option (Option Nat) :=
  match Text.words line with
  | [word] => if Text.sameIgnoringCase word ['g', 'o'] then some none else none
  | [word, count] =>
    if Text.sameIgnoringCase word ['g', 'o'] then (readCount? count).map some else none
  | _ => none

inductive ScanState where
  | code
  | quoted
  | comment
  deriving DecidableEq, Repr

/-- The state after the rest of a line; a line comment hides what follows it. -/
def scan : ScanState → List Char → ScanState
  | state, [] => state
  | .comment, '*' :: '/' :: rest => scan .code rest
  | .comment, _ :: rest => scan .comment rest
  | .quoted, c :: rest => scan (if c = '\'' then .code else .quoted) rest
  | .code, '-' :: '-' :: _ => .code
  | .code, '/' :: '*' :: rest => scan .comment rest
  | .code, c :: rest => scan (if c = '\'' then .quoted else .code) rest

/-- Whether a block comment is open after a line. Quotes end with their line. -/
def commentAfter (line : List Char) (inComment : Bool) : Bool :=
  scan (if inComment then .comment else .code) line = .comment

/-- Lines of a text one behind the other, from the line `start` on, and the count that goes with
them. -/
structure Stretch where
  start : Nat
  lines : List (List Char)
  runs : Option Nat
  deriving DecidableEq, Repr

namespace Stretch

/-- The stretch as a batch, from the beginning of its first line to the end of its last one. -/
def batch (stretch : Stretch) : BatchText where
  sql := String.ofList (Text.joinLines stretch.lines)
  selection := ⟨Selection.placed stretch.start, 0,
    Selection.placed (stretch.start + (stretch.lines.length - 1)),
    Selection.placed (stretch.lines.getLastD []).length⟩
  runs := stretch.runs

def batches (stretch : Stretch) : List BatchText :=
  if stretch.lines.all Text.isAllBlank then [] else [stretch.batch]

end Stretch

/-- Goes through the lines that are left. `pending` holds the lines since the last separator in
reverse, the first of them at `start`. -/
def cutLines (pending : List (List Char)) (start : Nat) (inComment : Bool) :
    List (List Char) → List Stretch
  | [] => [⟨start, pending.reverse, none⟩]
  | line :: rest =>
    match if inComment then none else separator? line with
    | some runs =>
      ⟨start, pending.reverse, runs⟩ :: cutLines [] (start + pending.length + 1) false rest
    | none => cutLines (line :: pending) start (commentAfter line inComment) rest

def stretches (text : String) : List Stretch := cutLines [] 0 false (Text.lines text.toList)

end Splitting

def splitBatches (text : String) : List BatchText :=
  (Splitting.stretches text).flatMap Splitting.Stretch.batches

end SqlDesk
