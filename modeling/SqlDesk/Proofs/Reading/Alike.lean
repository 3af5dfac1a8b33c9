import SqlDesk.Batch.Execution
import SqlDesk.Proofs.Source.Yield
import SqlDesk.Proofs.Store.Window

/-! Readings of one result under two settings that differ in the limit and in the interval of updates.
They take the same steps on the same cursor. What is stored on either side are the first of the same
rows, and what is told is the same but for updates and counts of rows. -/

set_option autoImplicit false

namespace SqlDesk

/-! Steps side by side. -/

namespace Progress

variable {σ τ ρ κ ε φ ψ : Type} {kept : σ → σ → Prop} {finished : ρ → ρ → Prop}

/-- Two steps that do the same kind of thing and tell the same, as far as it counts. -/
def Paired (kept : σ → σ → Prop) (finished : ρ → ρ → Prop) (plain : ε → Option φ) :
    Progress σ ρ ε → Progress σ ρ ε → Prop
  | waits left, waits right => kept left right
  | moves left event, moves right other => kept left right ∧ event.bind plain = other.bind plain
  | ends left event, ends right other => finished left right ∧ event.bind plain = other.bind plain
  | _, _ => False

theorem Paired.withLeft {plain : ε → Option φ} {left right : Progress σ ρ ε} {known : σ → Prop}
    {settled : ρ → Prop} (paired : Paired kept finished plain left right)
    (ensured : left.Ensures (fun state _ => known state) fun result _ => settled result) :
    Paired (fun state other => kept state other ∧ known state)
      (fun result other => finished result other ∧ settled result) plain left right := by
  cases left <;> cases right <;> try exact paired.elim
  · exact ⟨paired, ensured⟩
  · exact ⟨⟨paired.1, ensured⟩, paired.2⟩
  · exact ⟨⟨paired.1, ensured⟩, paired.2⟩

theorem Paired.waits {plain : ε → Option φ} {left right : Progress σ ρ ε} {state : σ}
    (paired : Paired kept finished plain left right) (waits : left = .waits state) :
    ∃ other, right = .waits other := by
  subst waits
  cases right <;> first | exact ⟨_, rfl⟩ | exact paired.elim

theorem Paired.waited {plain : ε → Option φ} {left right : Progress σ ρ ε} {state : σ}
    (paired : Paired kept finished plain left right) (waits : right = .waits state) :
    ∃ other, left = .waits other := by
  subst waits
  cases left <;> first | exact ⟨_, rfl⟩ | exact paired.elim

theorem Paired.outcome {plain : ε → Option φ} {left right : Progress σ σ ε}
    (paired : Paired kept kept plain left right) :
    kept left.outcome.1 right.outcome.1 ∧
      left.outcome.2.filterMap plain = right.outcome.2.filterMap plain := by
  have told (event : Option ε) : event.toList.filterMap plain = (event.bind plain).toList := by
    cases event with
    | none => rfl
    | some event => cases shown : plain event <;> simp [shown]
  cases left <;> cases right <;> try exact paired.elim
  · exact ⟨paired, rfl⟩
  · exact ⟨paired.1, by rw [Progress.outcome, Progress.outcome, told, told, paired.2]⟩
  · exact ⟨paired.1, by rw [Progress.outcome, Progress.outcome, told, told, paired.2]⟩

theorem paired_within {plain : ε → Option φ} {left right : Progress σ ρ ε}
    {put put' : σ → τ} {resume resume' : ρ → τ} {kept' : τ → τ → Prop} {finished' : κ → κ → Prop}
    (paired : Paired kept finished plain left right)
    (puts : ∀ left right, kept left right → kept' (put left) (put' right))
    (resumes : ∀ left right, finished left right → kept' (resume left) (resume' right)) :
    Paired kept' finished' plain (left.within put resume) (right.within put' resume') := by
  cases left <;> cases right <;> try exact paired.elim
  · exact puts _ _ paired
  · exact ⟨puts _ _ paired.1, paired.2⟩
  · exact ⟨resumes _ _ paired.1, paired.2⟩

theorem paired_mapEvent {f : ε → ψ} {plain : ψ → Option φ} {left right : Progress σ ρ ε}
    (paired : Paired kept finished (fun event => plain (f event)) left right) :
    Paired kept finished plain (left.mapEvent f) (right.mapEvent f) := by
  have same {event other : Option ε}
      (events : (event.bind fun event => plain (f event)) = other.bind fun event => plain (f event)) :
      (event.map f).bind plain = (other.map f).bind plain := by
    rw [Option.bind_map, Option.bind_map]
    exact events
  cases left <;> cases right <;> try exact paired.elim
  · exact paired
  · exact ⟨paired.1, same paired.2⟩
  · exact ⟨paired.1, same paired.2⟩

end Progress

/-! What counts of an event. -/

def ResultSummary.plain (summary : ResultSummary) : ResultSummary := { summary with rowCount := 0 }

def BatchSummary.plain (summary : BatchSummary) : BatchSummary :=
  { summary with
    started := summary.started.map fun _ => ⟨0, 0⟩
    ended := summary.ended.map fun _ => ⟨0, 0⟩
    results := summary.results.map fun results => results.map ResultSummary.plain }

def BatchMessage.plain (message : BatchMessage) : BatchMessage := { message with time := ⟨0, 0⟩ }

/-- A happening without times and counts of rows; an update does not count. -/
def Happening.plain : Happening → Option Happening
  | batchStarted batch => some (batchStarted batch.plain)
  | batchCompleted batch => some (batchCompleted batch.plain)
  | resultAvailable result => some (resultAvailable result.plain)
  | resultUpdated _ => none
  | resultCompleted result => some (resultCompleted result.plain)
  | message said => some (message said.plain)
  | queryCompleted batches => some (queryCompleted (batches.map BatchSummary.plain))

def plainly (told : List Happening) : List Happening := told.filterMap Happening.plain

def ResultEvent.plain (event : ResultEvent) : Option Happening := event.happening.plain

/-! What is stored. -/

/-- The rows that have come for a result, of which the store has the first ones. -/
structure ResultSet.Stores (settings : Settings) (rows : List Row) (result : ResultSet) : Prop where
  endless : result.store.room = none
  holds : result.store.Holds (upTo settings.rowLimit rows)

structure ResultSet.Alike (one other : Settings) (left right : ResultSet) : Prop where
  key : left.store.key = right.store.key
  columns : left.columns = right.columns
  action : left.action = right.action
  complete : left.complete = right.complete
  rows : ∃ rows, left.Stores one rows ∧ right.Stores other rows

theorem Settings.rowLimit_pos {settings : Settings} {limit : Nat}
    (limited : settings.rowLimit = some limit) : 0 < limit := by
  unfold rowLimit at limited
  split at limited
  · cases limited
  · cases limited
    omega

namespace ResultSet

variable {settings one other : Settings} {result left right : ResultSet} {rows : List Row}

theorem Stores.count (stores : result.Stores settings rows) :
    result.rowCount = atMost settings.rowLimit rows.length := by
  rw [← length_upTo]
  exact stores.holds.published

theorem Stores.eq_nil_iff (stores : result.Stores settings rows) :
    result.rowCount = 0 ↔ rows = [] := by
  rw [stores.count, ← List.length_eq_zero_iff]
  cases limited : settings.rowLimit with
  | none => rfl
  | some limit =>
    have positive := Settings.rowLimit_pos limited
    change min limit rows.length = 0 ↔ _
    omega

theorem Stores.atLimit (stores : result.Stores settings rows) :
    Reading.isAtLimit (.ofSettings settings) result =
      settings.rowLimit.any (· ≤ (upTo settings.rowLimit rows).length) := by
  rw [Reading.isAtLimit, rowCount, stores.holds.published]
  rfl

theorem Alike.plain (alike : left.Alike one other right) : left.summary.plain = right.summary.plain := by
  simp only [ResultSummary.plain, summary, id, batchId, alike.key, alike.columns, alike.action,
    alike.complete]

end ResultSet

namespace Reading

variable {settings : Settings}

/-- A row that comes is stored or dropped. The reading is announced in any case, and the first row is
the one that announces it. -/
theorem takeRow_stores {reading : Reading} {announced : Bool} {rows : List Row}
    (stores : reading.result.Stores settings rows) (phase : reading.phase = .fetching announced)
    (fresh : announced = false → rows = []) (row : Row) :
    ∃ store event, takeRow (.ofSettings settings) reading announced row =
        .moves ⟨{ reading.result with store }, reading.cursor, .fetching true⟩ event ∧
      store.key = reading.result.store.key ∧
      ResultSet.Stores settings (rows ++ [row]) { reading.result with store } ∧
      event.bind ResultEvent.plain = if announced then none
        else some (.resultAvailable (ResultSet.summary { reading.result with store }).plain) := by
  unfold takeRow
  cases full : isAtLimit (.ofSettings settings) reading.result with
  | true =>
    have limited := stores.atLimit ▸ full
    -- Before the first row there is room, so the result has been announced.
    have shown : announced = true := by
      by_contra unannounced
      have none := stores.eq_nil_iff.mpr (fresh (by simpa using unannounced))
      simp only [isAtLimit, ReadOptions.ofSettings, none, Option.any_eq_true,
        decide_eq_true_eq] at full
      obtain ⟨limit, some, zero⟩ := full
      have := Settings.rowLimit_pos some
      omega
    subst shown
    refine ⟨reading.result.store, none, ?_, rfl, ⟨stores.endless, ?_⟩, rfl⟩
    · rw [if_pos rfl, ← phase]
    · rw [upTo_append_of_full limited]
      exact stores.holds
  | false =>
    have below := stores.atLimit ▸ full
    have append : reading.result.store.append row = .ok { reading.result.store with
        medium := reading.result.store.medium.append (Row.encode row)
        published := reading.result.store.published + 1 } := by
      simp [RowStore.append, RowStore.isFull, stores.endless, stores.holds.isOpen]
    rw [if_neg (by simp), append]
    refine ⟨_, _, rfl, rfl, ⟨stores.endless, ?_⟩, ?_⟩
    · rw [upTo_append_of_room below]
      exact stores.holds.append row
    · unfold eventFor
      cases announced with
      | false => rfl
      | true =>
        simp only [Bool.not_true, Bool.false_eq_true, if_false, if_true]
        split <;> rfl

end Reading

/-! Steps of the two readings. -/

variable {one other : Settings}

structure Reading.Alike (one other : Settings) (left right : Reading) : Prop where
  result : left.result.Alike one other right.result
  cursor : left.cursor = right.cursor
  phase : left.phase = right.phase
  fresh : left.phase = .fetching false → left.result.rowCount = 0

structure ReadEnd.Alike (one other : Settings) (left right : ReadEnd) : Prop where
  result : left.result.Alike one other right.result
  cursor : left.cursor = right.cursor
  outcome : left.outcome = right.outcome

namespace Reading

theorem Alike.finish {left right : Reading} (alike : left.Alike one other right) (cursor : Cursor)
    (announced : Bool) (outcome : ReadOutcome) :
    Alike one other (finish { left with cursor } announced outcome)
      (finish { right with cursor } announced outcome) where
  result := ⟨alike.result.key, alike.result.columns, alike.result.action, rfl, alike.result.rows.imp
    fun _ stores => ⟨⟨stores.1.endless, stores.1.holds⟩, ⟨stores.2.endless, stores.2.holds⟩⟩⟩
  cursor := rfl
  phase := rfl
  fresh := by cases announced <;> nofun

theorem alike_step {left right : Reading} (alike : left.Alike one other right) :
    Progress.Paired (Alike one other) (ReadEnd.Alike one other) ResultEvent.plain
      (left.step (.ofSettings one) false) (right.step (.ofSettings other) false) := by
  obtain ⟨resultL, cursor, phase⟩ := left
  obtain ⟨resultR, _, _⟩ := right
  obtain ⟨results, rfl, rfl, fresh⟩ := id alike
  cases phase with
  | announcing outcome =>
    refine ⟨⟨results, rfl, rfl, nofun⟩, ?_⟩
    exact congrArg (fun summary => some (Happening.resultAvailable summary)) results.plain
  | completing outcome =>
    refine ⟨⟨results, rfl, rfl⟩, ?_⟩
    exact congrArg (fun summary => some (Happening.resultCompleted summary)) results.plain
  | fetching announced =>
    simp only [step, Bool.false_eq_true, if_false]
    rcases cursor.nextRow false with ⟨fetched, next⟩
    cases fetched with
    | waits => exact ⟨results, rfl, rfl, fresh⟩
    | ended => exact ⟨alike.finish next announced (.ok ()), rfl⟩
    | failed error => exact ⟨alike.finish next announced (.error (readFailure error)), rfl⟩
    | value row =>
      -- The row is taken on both sides, though a limit may keep it out of either store.
      obtain ⟨rows, storesL, storesR⟩ := results.rows
      have first : announced = false → rows = [] := by
        rintro rfl
        exact storesL.eq_nil_iff.mp (fresh rfl)
      obtain ⟨storeL, eventL, takenL, keyL, afterL, toldL⟩ :=
        @takeRow_stores one ⟨resultL, next, .fetching announced⟩ announced rows storesL rfl first row
      obtain ⟨storeR, eventR, takenR, keyR, afterR, toldR⟩ :=
        @takeRow_stores other ⟨resultR, next, .fetching announced⟩ announced rows storesR rfl first
          row
      simp only [takenL, takenR]
      have grown : ResultSet.Alike one other { resultL with store := storeL }
          { resultR with store := storeR } :=
        ⟨keyL.trans (results.key.trans keyR.symm), results.columns, results.action,
          results.complete, rows ++ [row], afterL, afterR⟩
      refine ⟨⟨grown, rfl, rfl, nofun⟩, ?_⟩
      rw [toldL, toldR, grown.plain]

end Reading

end SqlDesk
