import SqlDesk.Source.Message
import SqlDesk.Sql.Word

/-! Why a statement cannot be prepared or executed. An error of preparation may know where it is;
then it is told together with the whole text that was left to be prepared. -/

set_option autoImplicit false

namespace SqlDesk.Sql

inductive Joint where
  | unionAll
  | union
  | except
  | intersect
  deriving DecidableEq, Repr

def Joint.text : Joint → String
  | unionAll => "UNION ALL"
  | union => "UNION"
  | except => "EXCEPT"
  | intersect => "INTERSECT"

def depthLimit : Nat := 1000

inductive PrepareError where
  | unexpected (token : Token)
  | unrecognized (token : Token)
  /-- A number whose separators do not stand between digits. -/
  | misplacedSeparator (token : Token)
  | incomplete
  | parameterNumber (token : Token)
  | oversizedNumber (negative : Bool) (token : Token)
  /-- Such a number in what a column is given by itself. -/
  | oversizedDefault (negative : Bool) (token : Token)
  | tableExists (name : Token)
  | reservedName (name : String)
  | noDatabase (name : Token)
  | noTable (name : String)
  /-- Something other than a table that is to be dropped or used, by its kind. -/
  | noObject (kind name : String)
  | notReindexed
  | noView (table : String)
  | noJoin (clause : String)
  | noColumn (name : String) (offset : Option Nat)
  | noFunction (name : Token)
  | argumentCount (name : Token)
  | noCollation (name : String)
  /-- A collation that is not known where a constant has been put aside. -/
  | noConstantCollation (name : String)
  | tupleMisused (offset : Option Nat)
  /-- A row in a list of rows that is not as wide as what is looked for. -/
  | tupleWidth (width expected : Nat)
  | prohibited (what place : String) (offset : Nat)
  | deepExpression
  | excess (what : String)
  | excessOfParameters (token : Token)
  | noSource
  | unequalRows
  | unequalParts (joint : Joint)
  | wrongWidth (table : String) (columns values : Nat)
  | wrongCount (columns values : Nat)
  | unknownColumn (table column : String)
  | repeatedColumn (name : String)
  | severalKeys (table : String)
  | countedKey
  | misplacedClause (clause : String) (joint : Joint)
  | nullsPlaced (first : Bool)
  | keyExpression
  | orderRange (term columns : Nat) (offset : Option Nat)
  | orderMismatch (term : Nat)
  | defaultNotConstant (column : String)
  | unknownFunction (name : Token)
  | unknownOption (name : String)
  | notDatabase
  | notLocked
  deriving DecidableEq

namespace PrepareError

def ordinal (number : Nat) : String :=
  let isTeen := number % 100 / 10 = 1
  let ending := if isTeen then "th" else match number % 10 with
    | 1 => "st"
    | 2 => "nd"
    | 3 => "rd"
    | _ => "th"
  toString number ++ ending

def text : PrepareError → String
  | unexpected token => s!"near \"{token.text}\": syntax error"
  | unrecognized token | misplacedSeparator token => s!"unrecognized token: \"{token.text}\""
  | incomplete => "incomplete input"
  | parameterNumber _ => "variable number must be between ?1 and ?32766"
  | oversizedNumber negative token | oversizedDefault negative token =>
    "hex literal too big: " ++ (if negative then "-" else "") ++ token.text
  | tableExists name => s!"table {name.text} already exists"
  | reservedName name => s!"object name reserved for internal use: {name}"
  | noDatabase name => s!"unknown database {name.text}"
  | noTable name => s!"no such table: {name}"
  | noObject kind name => s!"no such {kind}: {name}"
  | notReindexed => "unable to identify the object to be reindexed"
  | noView table => s!"use DROP TABLE to delete table {table}"
  | noJoin clause => s!"a JOIN clause is required before {clause}"
  | noColumn name _ => s!"no such column: {name}"
  | noFunction name => s!"no such function: {name.text}"
  | argumentCount name => s!"wrong number of arguments to function {name.text}()"
  | noCollation name | noConstantCollation name => s!"no such collation sequence: {name}"
  | tupleMisused _ => "row value misused"
  | tupleWidth width expected =>
    let ending := if width = 1 then "" else "s"
    s!"IN(...) element has {width} term{ending} - expected {expected}"
  | prohibited what place _ => s!"{what} prohibited in {place}"
  | deepExpression => s!"Expression tree is too large (maximum depth {depthLimit})"
  | excess what => s!"too many {what}"
  | excessOfParameters _ => "too many SQL variables"
  | noSource => "no tables specified"
  | unequalRows => "all VALUES must have the same number of terms"
  | unequalParts joint =>
    s!"SELECTs to the left and right of {joint.text} do not have the same number of result columns"
  | wrongWidth table columns values =>
    s!"table {table} has {columns} columns but {values} values were supplied"
  | wrongCount columns values => s!"{values} values for {columns} columns"
  | unknownColumn table column => s!"table {table} has no column named {column}"
  | repeatedColumn name => s!"duplicate column name: {name}"
  | severalKeys table => s!"table \"{table}\" has more than one primary key"
  | countedKey => "AUTOINCREMENT is only allowed on an INTEGER PRIMARY KEY"
  | misplacedClause clause joint => s!"{clause} clause should come after {joint.text} not before"
  | nullsPlaced first => "unsupported use of NULLS " ++ if first then "FIRST" else "LAST"
  | keyExpression => "expressions prohibited in PRIMARY KEY and UNIQUE constraints"
  | orderRange term columns _ =>
    s!"{ordinal term} ORDER BY term out of range - should be between 1 and {columns}"
  | orderMismatch term =>
    s!"{ordinal term} ORDER BY term does not match any column in the result set"
  | defaultNotConstant column => s!"default value of column [{column}] is not constant"
  | unknownFunction name => s!"unknown function: {name.text}()"
  | unknownOption name => s!"unknown table option: {name}"
  | notDatabase => "file is not a database"
  | notLocked => "disk I/O error"

def offset? : PrepareError → Option Nat
  | unexpected token | unrecognized token | parameterNumber token | oversizedNumber _ token
  | excessOfParameters token | tableExists token | noDatabase token | noFunction token
  | argumentCount token =>
    some token.offset
  | noColumn _ offset | orderRange _ _ offset | tupleMisused offset => offset
  | prohibited _ _ offset => some offset
  | _ => none

def code : PrepareError → Int
  | noCollation _ => 257
  | notDatabase => 26
  | notLocked => 3850
  | _ => 1

def message (error : PrepareError) (remaining : String) : String :=
  match error.offset? with
  | some offset => s!"{error.text} in {remaining} at offset {offset}"
  | none => error.text

end PrepareError

inductive ExecutionError where
  | repeatedValue (columns : List String)
  | repeatedKey (columns : List String)
  | repeatedNumber (table : String)
  | missingValue (column : String)
  | failedCheck (name : String)
  | mismatch
  | readOnly
  | integerOverflow
  | escapeLength
  | complexPattern
  /-- No number is left for a row. -/
  | full
  | cannotOpen
  | nestedTransaction
  | enclosedVacuum
  | copyName
  | noTransaction (verb : String)
  deriving DecidableEq, Repr

namespace ExecutionError

def isConstraint : ExecutionError → Bool
  | repeatedValue _ | repeatedKey _ | repeatedNumber _ | missingValue _ | failedCheck _ => true
  | _ => false

def code : ExecutionError → Int
  | repeatedValue _ => 2067
  | repeatedKey _ => 1555
  | repeatedNumber _ => 2579
  | missingValue _ => 1299
  | failedCheck _ => 275
  | mismatch => 20
  | readOnly => 8
  | full => 13
  | cannotOpen => 14
  | integerOverflow | escapeLength | complexPattern | nestedTransaction | enclosedVacuum
  | copyName | noTransaction _ => 1

def message : ExecutionError → String
  | repeatedValue columns | repeatedKey columns =>
    "UNIQUE constraint failed: " ++ String.intercalate ", " columns
  | repeatedNumber table => s!"UNIQUE constraint failed: {table}.rowid"
  | missingValue column => s!"NOT NULL constraint failed: {column}"
  | failedCheck name => s!"CHECK constraint failed: {name}"
  | mismatch => "datatype mismatch"
  | readOnly => "attempt to write a readonly database"
  | integerOverflow => "integer overflow"
  | escapeLength => "ESCAPE expression must be a single character"
  | complexPattern => "LIKE or GLOB pattern too complex"
  | full => "database or disk is full"
  | cannotOpen => "unable to open database file"
  | enclosedVacuum => "cannot VACUUM from within a transaction"
  | copyName => "non-text filename"
  | nestedTransaction => "cannot start a transaction within a transaction"
  | noTransaction verb => s!"cannot {verb} - no transaction is active"

end ExecutionError

def failureOn (line : Nat) (code : Int) (message : String) : SourceError :=
  .driver ⟨code, 16, 1, line, none, message⟩

def PrepareError.failure (error : PrepareError) (remaining : String) (line : Nat) : SourceError :=
  failureOn line error.code (error.message remaining)

def ExecutionError.failure (error : ExecutionError) (line : Nat) : SourceError :=
  failureOn line error.code error.message

/-! What keeps a database from being used though it has been opened. -/

inductive Hindrance where
  | none
  | foreign
  | unlockable
  | readOnly
  | unrecorded
  deriving DecidableEq, Repr

namespace Hindrance

def unreadable? : Hindrance → Option PrepareError
  | foreign => some .notDatabase
  | unlockable => some .notLocked
  | none | readOnly | unrecorded => Option.none

def unwritable? : Hindrance → Option ExecutionError
  | readOnly => some .readOnly
  | unrecorded => some .cannotOpen
  | none | foreign | unlockable => Option.none

/-- Why no transaction that writes can be started; one that cannot is started for reading. -/
def unstartable (hindrance : Hindrance) (line : Nat) : Option SourceError :=
  match hindrance with
  | readOnly => Option.none
  | _ => (hindrance.unreadable?.map fun error => error.failure "" line).orElse fun _ =>
    hindrance.unwritable?.map fun error => error.failure line

end Hindrance

end SqlDesk.Sql
