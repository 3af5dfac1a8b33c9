import SqlDesk.Source.Host
import SqlDesk.Sql.Error
import SqlDesk.Sql.Plan
import SqlDesk.Sql.Statement.Reader
import SqlDesk.Text.Layout

/-! Submitted texts. The statements of a text are prepared and carried out one after another, up to
the first failure; what has been done stays done. A failure is told with a line of the text: that of
the statement's own text where it can be found again, and otherwise that of what comes next. -/

set_option autoImplicit false

namespace SqlDesk.Sql

structure Session where
  database : Database
  hindrance : Hindrance
  changes : Nat
  saved : Option Database

/-- The first word of a text, comments not excepted. -/
def firstWord (text : List Char) : List Char :=
  (text.dropWhile (!Text.isAsciiLetter ·)).takeWhile Text.isAsciiLetter

def tellsChanges (text : List Char) : Bool :=
  ["INSERT", "UPDATE", "DELETE", "REPLACE"].any fun keyword =>
    Text.sameIgnoringCase (firstWord text) keyword.toList

def expand (source : List Char) (start stop : Nat) : List Token → List Char
  | [] => Text.slice start stop source
  | token :: rest =>
    if token.kind = .parameter then
      Text.slice start token.offset source ++ "NULL".toList ++ expand source token.endOffset stop rest
    else expand source start stop rest

/-- The text before and after the first occurrence of another; `passed` holds characters already
passed in reverse. -/
def find? (text passed : List Char) (chars : List Char) : Option (List Char × List Char) :=
  match text.isPrefixOf? chars with
  | some rest => some (passed.reverse, rest)
  | none => match chars with
    | [] => none
    | c :: rest => find? text (c :: passed) rest

def lineFeeds (chars : List Char) : Nat := chars.count '\n'

/-- Where the texts of statements are looked for, and the line on which that begins. -/
structure Search where
  chars : List Char
  line : Nat
  deriving DecidableEq, Repr

namespace Search

/-- The line of a statement, if its text is found; the search goes on behind it. -/
def locate (search : Search) (text : List Char) : Nat × Search :=
  if text.isEmpty then (0, search)
  else match find? text [] search.chars with
    | none => (0, search)
    | some (before, after) =>
      let line := search.line + lineFeeds before
      (line, ⟨after, line + lineFeeds text⟩)

def nextLine (search : Search) : Nat :=
  search.line + lineFeeds (search.chars.takeWhile fun c => Text.isBlank c || c = ';')

end Search

def planRequest (text : List Char) : List Char := "EXPLAIN QUERY PLAN ".toList ++ text

def planColumns : List Column :=
  numberColumns (Column.planNames.map fun name => plainColumn name "")

def planResult (rows : List PlanRow) (isPlan : Bool) : ScriptStep :=
  .result ⟨⟨planColumns, isPlan⟩, rows.map fun row => Item.row (row.values.map Value.cell), none⟩

/-- A statement is prepared from its tokens alone; `source` is the text they stand in. -/
def Session.prepareTokens (session : Session) (source : List Char) (tokens : List Token) :
    Except PrepareError Prepared := do
  let isThere (name : String) := (session.database.table? name).isSome
  let statement ← Statement.ofTokens source isThere tokens
  if !(statement matches .transaction _) then session.hindrance.unreadable?.forM throw
  session.database.prepare statement

/-- The part of a text that is read; a NUL ends it. -/
def readable (text : List Char) : List Char := text.takeWhile (· ≠ '\x00')

/-- The plan of a statement as a result. The statement is read once more, behind the request. -/
def Session.planStep (session : Session) (text : List Char) (line : Nat) : Except SourceError ScriptStep :=
  let request := planRequest text
  let read := readable request
  match session.prepareTokens read ((cut 0 false read).1.dropWhile Token.isSeparator) with
  | .ok (.plan prepared) => .ok (planResult prepared.planRows true)
  | .ok _ => .ok (planResult [] true)
  | .error error => .error (error.failure (String.ofList request) line)

/-- A result, and the plan of how it has come about if that is wanted. -/
def Session.present (session : Session) (execution : Execution) (text : List Char) (line : Nat)
    (result : ScriptStep) : Script × Session × Option SourceError :=
  if execution.actualPlan then
    match session.planStep text line with
    | .error error => ([result], session, some error)
    | .ok step => ([result, step], session, none)
  else ([result], session, none)

def Session.transact (session : Session) : TransactionStep → Except ExecutionError Session
  | .start _ =>
    if session.saved.isSome then .error .nestedTransaction
    else .ok { session with saved := some session.database }
  | .commit =>
    if session.saved.isSome then .ok { session with saved := none }
    else .error (.noTransaction "commit")
  | .rollback => match session.saved with
    | some database => .ok { session with database, saved := none }
    | none => .error (.noTransaction "rollback")

/-- The session after an effect. A transaction that is ended takes all with it that has been done in it. -/
def Session.after (session : Session) (effect : Effect) : Session :=
  let database := if effect.isEnding then session.saved.getD effect.database else effect.database
  { session with
    database, changes := effect.count.getD session.changes,
    saved := if effect.isEnding then none else session.saved }

def Session.told (session : Session) (text : List Char) : Script :=
  if tellsChanges text then [.notice (.rowsAffected session.changes)] else []

def Session.unstartable (session : Session) (step : TransactionStep) (line : Nat) : Option SourceError :=
  if step matches .start true then session.hindrance.unstartable line else none

def Session.unwritable (session : Session) (action : Prepared) : Option ExecutionError :=
  match action with
  | .vacuum none => if session.saved.isSome then none else session.hindrance.unwritable?
  | _ => if action.isWriting then session.hindrance.unwritable? else none

/-- Carries out a prepared statement whose text stands on a line. -/
def Session.perform (session : Session) (execution : Execution) (text : List Char) (line : Nat)
    (prepared : Prepared) : Script × Session × Option SourceError :=
  if execution.estimatedPlan then
    match session.planStep text line with
    | .error error => ([], session, some error)
    | .ok step => ([step], session, none)
  else match prepared with
    | .query resolved =>
      let header : Header := ⟨resolved.columns, false⟩
      let rows := resolved.rows
      let items := rows.items.map fun row => Item.row (row.map Value.cell)
      match rows.failure with
      | none => session.present execution text line (.result ⟨header, items, none⟩)
      | some error =>
        let failure := error.failure line
        ([.result ⟨header, items, some (.fails failure)⟩], session, some failure)
    | .plan prepared => session.present execution text line (planResult prepared.planRows false)
    | .transaction step => match session.unstartable step line, session.transact step with
      | some failure, _ => ([], session, some failure)
      | none, .ok session => (session.told text, session, none)
      | none, .error error => ([], session, some (error.failure line))
    | action =>
      match session.unwritable action with
      | some error => ([], session, some (error.failure line))
      | none =>
        let effect := session.database.execute session.saved.isSome action
        let session := session.after effect
        match effect.error with
        | some error => ([], session, some (error.failure line))
        | none => (session.told text, session, none)

theorem length_of_cut (offset : Nat) (begun : Bool) (chars : List Char) :
    (cut offset begun chars).2.length < chars.length ∨ cut offset begun chars = ([], []) := by
  fun_induction cut offset begun chars with
  | case1 => simp
  | case2 offset begun chars token rest found => exact .inl (length_of_nextToken? found)
  | case3 offset begun chars token rest found _ tokens left same ih =>
    have shorter := length_of_nextToken? found
    have bounded : left.length ≤ rest.length := by
      simp only [same] at ih
      rcases ih with ih | ih
      · exact Nat.le_of_lt ih
      · simp_all
    exact .inl (Nat.lt_of_le_of_lt bounded shorter)

def leftOver (text rest : List Char) : List Char :=
  text.drop ((readable text).length - rest.length)

def Session.submitFrom (execution : Execution) (search : Search) (session : Session)
    (remaining : List Char) : Script × Session :=
  match _same : cut 0 false (readable remaining) with
  | (tokens, rest) =>
    let body := tokens.dropWhile Token.isSeparator
    if _nothing : body.isEmpty then ([], session)
    else match session.prepareTokens (readable remaining) body with
      | .error error =>
        let failure := error.failure (String.ofList remaining) search.nextLine
        ([.stop (.fails failure)], session)
      | .ok prepared =>
        let consumed := (readable remaining).take ((readable remaining).length - rest.length)
        let text := Text.trim (expand remaining 0 (Text.byteSize consumed) tokens)
        let (line, search) := search.locate text
        match session.perform execution text line prepared with
        | (steps, session, some error) => (steps ++ [.stop (.fails error)], session)
        | (steps, session, none) =>
          let (more, session) := submitFrom execution search session (leftOver remaining rest)
          (steps ++ more, session)
termination_by remaining.length
decreasing_by
  have read : (readable remaining).length ≤ remaining.length :=
    (List.takeWhile_sublist _).length_le
  rcases length_of_cut 0 false (readable remaining) with shorter | none
  · simp only [_same] at shorter
    simp only [leftOver, List.length_drop]
    omega
  · rw [_same] at none
    have bare : tokens = [] := (Prod.mk.inj none).1
    simp [body, bare] at _nothing

def Session.submit (cancelled : Bool) (session : Session) (execution : Execution) :
    Script × Session :=
  if cancelled then ([.stop (.fails .cancelled)], session)
  else
    let chars := execution.sql.toList
    session.submitFrom execution ⟨chars, 1⟩ chars

end SqlDesk.Sql
