import SqlDesk.ResultSet.Reading

/-! Everything that one step of a reading can come to, with what has to hold for it. Later proofs
take the cases from here instead of opening the step. -/

set_option autoImplicit false

namespace SqlDesk.Reading

/-- The outcomes of a step, by the phase of the reading and what the cursor and the store say. -/
inductive Turn (options : ReadOptions) (cancelled : Bool) (reading : Reading) :
    Progress Reading ReadEnd ResultEvent → Prop where
  | cancelled {announced : Bool} (phase : reading.phase = .fetching announced)
      (signalled : cancelled = true) :
      Turn options cancelled reading (.moves (reading.finish announced (.error .cancelled)) none)
  | waits {announced : Bool} {cursor : Cursor} (phase : reading.phase = .fetching announced)
      (live : cancelled = false) (fetched : reading.cursor.nextRow cancelled = (.waits, cursor)) :
      Turn options cancelled reading (.waits { reading with cursor })
  | exhausted {announced : Bool} {cursor : Cursor} (phase : reading.phase = .fetching announced)
      (live : cancelled = false) (fetched : reading.cursor.nextRow cancelled = (.ended, cursor)) :
      Turn options cancelled reading
        (.moves (({ reading with cursor } : Reading).finish announced (.ok ())) none)
  | failed {announced : Bool} {cursor : Cursor} {error : SourceError}
      (phase : reading.phase = .fetching announced) (live : cancelled = false)
      (fetched : reading.cursor.nextRow cancelled = (.failed error, cursor)) :
      Turn options cancelled reading
        (.moves (({ reading with cursor } : Reading).finish announced
          (.error (readFailure error))) none)
  | dropped {announced : Bool} {cursor : Cursor} {row : Row}
      (phase : reading.phase = .fetching announced) (live : cancelled = false)
      (fetched : reading.cursor.nextRow cancelled = (.value row, cursor))
      (atLimit : isAtLimit options reading.result = true) :
      Turn options cancelled reading (.moves { reading with cursor } none)
  | refused {announced : Bool} {cursor : Cursor} {row : Row} {error : StorageError}
      (phase : reading.phase = .fetching announced) (live : cancelled = false)
      (fetched : reading.cursor.nextRow cancelled = (.value row, cursor))
      (below : isAtLimit options reading.result = false)
      (refusal : reading.result.store.append row = .error error) :
      Turn options cancelled reading
        (.moves (({ reading with cursor } : Reading).finish announced
          (.error (.storage error))) none)
  | stored {announced : Bool} {cursor : Cursor} {row : Row} {store : RowStore}
      (phase : reading.phase = .fetching announced) (live : cancelled = false)
      (fetched : reading.cursor.nextRow cancelled = (.value row, cursor))
      (below : isAtLimit options reading.result = false)
      (appended : reading.result.store.append row = .ok store) :
      Turn options cancelled reading
        (.moves ⟨{ reading.result with store }, cursor, .fetching true⟩
          (eventFor options announced { reading.result with store }))
  | announced {outcome : ReadOutcome} (phase : reading.phase = .announcing outcome) :
      Turn options cancelled reading
        (.moves { reading with phase := .completing outcome }
          (some (.available reading.result.summary)))
  | completed {outcome : ReadOutcome} (phase : reading.phase = .completing outcome) :
      Turn options cancelled reading
        (.ends ⟨reading.result, reading.cursor, outcome⟩
          (some (.completed reading.result.summary)))

theorem turn (options : ReadOptions) (cancelled : Bool) (reading : Reading) :
    Turn options cancelled reading (reading.step options cancelled) := by
  obtain ⟨result, cursor, phase⟩ := reading
  cases phase with
  | announcing outcome => exact .announced rfl
  | completing outcome => exact .completed rfl
  | fetching announced =>
    cases cancelled with
    | true => exact .cancelled rfl rfl
    | false =>
      simp only [step, Bool.false_eq_true, if_false]
      rcases fetched : cursor.nextRow false with ⟨found, next⟩
      cases found with
      | waits => exact .waits rfl rfl fetched
      | ended => exact .exhausted rfl rfl fetched
      | failed error => exact .failed rfl rfl fetched
      | value row =>
        simp only [takeRow]
        cases limit : isAtLimit options result with
        | true => exact .dropped rfl rfl fetched limit
        | false =>
          simp only [Bool.false_eq_true, if_false]
          cases appended : result.store.append row with
          | error error => exact .refused rfl rfl fetched limit appended
          | ok store => exact .stored rfl rfl fetched limit appended

end SqlDesk.Reading
