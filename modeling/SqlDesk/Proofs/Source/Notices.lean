import SqlDesk.Source.Script

/-! The notices of a script, and where a cursor stands among them. Notices that have come in and those
still ahead always make up what has not been taken yet, in the order of the script, as long as a
result is read to its end before the next one is asked for. -/

set_option autoImplicit false

namespace SqlDesk

namespace Item

def notice? : Item → Option Notice
  | .row _ => none
  | .notice given => some given

def notices (items : List Item) : List Notice := items.filterMap notice?

@[simp] theorem notices_nil : notices [] = [] := rfl

@[simp] theorem notices_row (row : Row) (items : List Item) :
    notices (.row row :: items) = notices items := rfl

@[simp] theorem notices_notice (given : Notice) (items : List Item) :
    notices (.notice given :: items) = given :: notices items := rfl

end Item

@[simp] theorem Item.notices_skipped (skipped : List Notice) (items : List Item) :
    notices (skipped.map .notice ++ items) = skipped ++ notices items := by
  induction skipped with
  | nil => rfl
  | cons given skipped ih => simp [ih]

@[simp] theorem Item.notices_map (skipped : List Notice) :
    notices (skipped.map .notice) = skipped := by
  simpa using notices_skipped skipped []

def Script.notices : Script → List Notice
  | [] => []
  | .notice notice :: script => notice :: notices script
  | .result result :: script => Item.notices result.items ++ notices script
  | .stop _ :: _ => []

@[simp] theorem Script.notices_skipped (skipped : List Notice) (script : Script) :
    Script.notices (skipped.map .notice ++ script) = skipped ++ Script.notices script := by
  induction skipped with
  | nil => rfl
  | cons given skipped ih => simp [Script.notices, ih]

@[simp] theorem Script.notices_map (skipped : List Notice) :
    Script.notices (skipped.map .notice) = skipped := by
  simpa [Script.notices] using notices_skipped skipped []

namespace Cursor

/-- The notices that a cursor has not come to yet. -/
def ahead (cursor : Cursor) : List Notice := Item.notices cursor.items ++ Script.notices cursor.script

def untaken (cursor : Cursor) : List Notice := cursor.notices ++ cursor.ahead

/-- What asking for a row comes to. The notices in front of the next row, or of the end of the result,
come in on the way. -/
inductive RowTaken (cancelled : Bool) (cursor : Cursor) : Fetched Row × Cursor → Prop where
  | value {skipped : List Notice} {row : Row} {items : List Item}
      (found : cursor.items = skipped.map .notice ++ .row row :: items) :
      RowTaken cancelled cursor
        (.value row, { cursor with items, notices := cursor.notices ++ skipped })
  | ended {skipped : List Notice} (found : cursor.items = skipped.map .notice)
      (stop : cursor.stop = none) :
      RowTaken cancelled cursor
        (.ended, { cursor with items := [], notices := cursor.notices ++ skipped })
  | failed {skipped : List Notice} {stop : Stop} {error : SourceError}
      (found : cursor.items = skipped.map .notice) (stopped : cursor.stop = some stop)
      (fails : stop.fetched cancelled = (.failed error : Fetched Row)) :
      RowTaken cancelled cursor
        (.failed error, { cursor with items := [], stop := none, notices := cursor.notices ++ skipped })
  | waits {skipped : List Notice} (found : cursor.items = skipped.map .notice)
      (stopped : cursor.stop = some .hangs) (live : cancelled = false) :
      RowTaken cancelled cursor
        (.waits, { cursor with items := [], notices := cursor.notices ++ skipped })

theorem rowTaken_nextRow (cancelled : Bool) (cursor : Cursor) :
    RowTaken cancelled cursor (cursor.nextRow cancelled) := by
  -- Notices in front of the next row are taken in one by one, hence the induction on the items.
  have general (items : List Item) (skipped : List Notice)
      (found : cursor.items = skipped.map .notice ++ items) :
      RowTaken cancelled cursor (nextRow.go cancelled cursor items (cursor.notices ++ skipped)) := by
    induction items generalizing skipped with
    | nil =>
      rw [List.append_nil] at found
      unfold nextRow.go
      cases stopped : cursor.stop with
      | none =>
        have ends : RowTaken cancelled cursor _ := .ended found stopped
        simpa [stopped] using ends
      | some stop =>
        cases stop with
        | fails error => exact .failed found stopped rfl
        | hangs =>
          cases cancelled with
          | true => exact .failed found stopped rfl
          | false => simpa [stopped, Stop.fetched] using RowTaken.waits found stopped rfl
    | cons item items ih =>
      cases item with
      | row row => exact .value found
      | notice given =>
        have further := ih (skipped ++ [given]) (by simp [found])
        rw [← List.append_assoc] at further
        exact further
  have whole := general cursor.items [] rfl
  rw [List.append_nil] at whole
  exact whole

inductive ResultTaken (cancelled : Bool) (cursor : Cursor) : Fetched Header × Cursor → Prop where
  | value {skipped : List Notice} {result : ScriptedResult} {script : Script}
      (found : cursor.script = skipped.map .notice ++ .result result :: script) :
      ResultTaken cancelled cursor
        (.value result.header, ⟨result.items, result.stop, script, cursor.notices ++ skipped⟩)
  | ended {skipped : List Notice} (found : cursor.script = skipped.map .notice) :
      ResultTaken cancelled cursor (.ended, ⟨[], none, [], cursor.notices ++ skipped⟩)
  | failed {skipped : List Notice} {stop : Stop} {script : Script} {error : SourceError}
      (found : cursor.script = skipped.map .notice ++ .stop stop :: script)
      (fails : stop.fetched cancelled = (.failed error : Fetched Header)) :
      ResultTaken cancelled cursor (.failed error, ⟨[], none, [], cursor.notices ++ skipped⟩)
  | waits {skipped : List Notice} {script : Script}
      (found : cursor.script = skipped.map .notice ++ .stop .hangs :: script)
      (live : cancelled = false) :
      ResultTaken cancelled cursor
        (.waits, ⟨[], none, .stop .hangs :: script, cursor.notices ++ skipped⟩)

theorem resultTaken_nextResult (cancelled : Bool) (cursor : Cursor) :
    ResultTaken cancelled cursor (cursor.nextResult cancelled) := by
  -- What is skipped joins the notices that have come in, so it is generalized.
  have general (script : Script) (skipped : List Notice)
      (found : cursor.script = skipped.map .notice ++ script) :
      ResultTaken cancelled cursor
        (nextResult.go cancelled script (cursor.notices ++ skipped)) := by
    induction script generalizing skipped with
    | nil => exact .ended (by simpa using found)
    | cons step script ih =>
      cases step with
      | result result => exact .value found
      | stop stop =>
        cases stop with
        | fails error => exact .failed found rfl
        | hangs =>
          cases cancelled with
          | true => exact .failed found rfl
          | false => exact .waits found rfl
      | notice given =>
        have further := ih (skipped ++ [given]) (by simp [found])
        rw [← List.append_assoc] at further
        exact further
  have whole := general cursor.script [] rfl
  rw [List.append_nil] at whole
  exact whole

theorem untaken_of_taken {cursor : Cursor} (taken : cursor.notices = []) :
    cursor.untaken = cursor.ahead := by
  rw [untaken, taken, List.nil_append]

theorem untaken_nextRow (cancelled : Bool) (cursor : Cursor) :
    (cursor.nextRow cancelled).2.untaken = cursor.untaken := by
  have taken := cursor.rowTaken_nextRow cancelled
  generalize cursor.nextRow cancelled = answer at taken
  cases taken with
  | value found | ended found | failed found | waits found => simp [untaken, ahead, found]

theorem items_of_nextRow_ended {cancelled : Bool} {cursor next : Cursor}
    (fetched : cursor.nextRow cancelled = (.ended, next)) : next.items = [] := by
  have taken := cursor.rowTaken_nextRow cancelled
  rw [fetched] at taken
  cases taken
  rfl

/-- Asking for the next result drops the items of the current one, so there should be none left. -/
theorem untaken_nextResult (cancelled : Bool) {cursor : Cursor} (spent : cursor.items = []) :
    (cursor.nextResult cancelled).2.untaken = cursor.untaken := by
  have taken := cursor.resultTaken_nextResult cancelled
  generalize cursor.nextResult cancelled = answer at taken
  cases taken with
  | value found | ended found | failed found | waits found =>
    simp [untaken, ahead, found, spent, Script.notices]

theorem items_of_nextResult_waits {cancelled : Bool} {cursor next : Cursor}
    (fetched : cursor.nextResult cancelled = (.waits, next)) : next.items = [] := by
  have taken := cursor.resultTaken_nextResult cancelled
  rw [fetched] at taken
  cases taken
  rfl

end Cursor

inductive Script.Opened (cancelled : Bool) (script : Script) : Fetched Cursor → Prop where
  | value : Opened cancelled script (.value (.ofScript script))
  | failed {stop : Stop} {rest : Script} {error : SourceError} (begins : script = .stop stop :: rest)
      (fails : stop.fetched cancelled = (.failed error : Fetched Cursor)) :
      Opened cancelled script (.failed error)
  | waits {rest : Script} (begins : script = .stop .hangs :: rest) (live : cancelled = false) :
      Opened cancelled script .waits

theorem Script.opened_open (cancelled : Bool) (script : Script) :
    Opened cancelled script (script.open cancelled) := by
  unfold Script.open
  split
  · rename_i stop rest
    cases stop with
    | fails error => exact .failed rfl rfl
    | hangs =>
      cases cancelled with
      | true => exact .failed rfl rfl
      | false => exact .waits rfl rfl
  · exact .value

end SqlDesk
