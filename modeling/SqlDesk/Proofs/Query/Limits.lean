import SqlDesk.Proofs.Query.Results
import SqlDesk.Proofs.Reading.Trace

/-! What limit and interval of the settings make of the results of a query. A result never has more
rows than the limit lets it have. Its first row makes it available; of the later ones it tells
whenever their number is a multiple of the interval, and never else. -/

set_option autoImplicit false

namespace SqlDesk

def updatesAt (batchId resultId : Nat) (told : List Happening) : List Nat :=
  told.filterMap fun
    | .resultUpdated summary =>
      if batchId = summary.batchId ∧ resultId = summary.id then some summary.rowCount else none
    | _ => none

theorem updatesAt_append (batchId resultId : Nat) (told later : List Happening) :
    updatesAt batchId resultId (told ++ later) =
      updatesAt batchId resultId told ++ updatesAt batchId resultId later := List.filterMap_append

theorem updatesAt_of_quiet {told : List Happening} (quiet : ∀ happening ∈ told, happening.isUpdate = false)
    (batchId resultId : Nat) : updatesAt batchId resultId told = [] := by
  apply List.filterMap_eq_nil_iff.mpr
  intro happening member
  cases happening with
  | resultUpdated summary => cases quiet _ member
  | _ => rfl

theorem updatesAt_updated (batchId resultId : Nat) (summary : ResultSummary) :
    updatesAt batchId resultId [.resultUpdated summary] =
      if batchId = summary.batchId ∧ resultId = summary.id then [summary.rowCount] else [] := by
  unfold updatesAt
  by_cases here : batchId = summary.batchId ∧ resultId = summary.id <;> simp [here]

theorem ResultEvent.isUpdate_happening (event : ResultEvent) :
    event.happening.isUpdate = event.isUpdate := by
  cases event <;> rfl

namespace ResultSet

theorem updatesAt_eventFor (settings : Settings) (announced : Bool) (result : ResultSet)
    (batchId resultId : Nat) :
    updatesAt batchId resultId
        ((Reading.eventFor (.ofSettings settings) announced result).toList.map ResultEvent.happening) =
      if batchId = result.batchId ∧ resultId = result.id then
        if announced = true ∧ result.rowCount % settings.updateInterval = 0 then [result.rowCount] else []
      else [] := by
  have interval : max settings.updateInterval 1 = settings.updateInterval :=
    Nat.max_eq_left settings.updateInterval_pos
  unfold Reading.eventFor ReadOptions.ofSettings
  rw [interval]
  cases announced with
  | false => simp [updatesAt, ResultEvent.happening]
  | true =>
    by_cases due : result.rowCount % settings.updateInterval = 0
    · simp only [due, and_self, Bool.not_true, Bool.false_eq_true, if_false, if_true]
      exact updatesAt_updated batchId resultId result.summary
    · simp [due, updatesAt]

/-- A step of a reading tells of a new row when a milestone is reached. -/
theorem Develops.updatesAt {settings : Settings} {result next : ResultSet} {told : List ResultEvent}
    (develops : result.Develops (.ofSettings settings) next told) (batchId resultId : Nat) :
    milestones settings.updateInterval result.rowCount ++
        updatesAt batchId resultId (told.map ResultEvent.happening) =
      if batchId = result.batchId ∧ resultId = result.id then
        milestones settings.updateInterval next.rowCount
      else milestones settings.updateInterval result.rowCount := by
  cases develops with
  | rests quiet =>
    have silent : SqlDesk.updatesAt batchId resultId (told.map ResultEvent.happening) = [] := by
      apply updatesAt_of_quiet
      intro happening member
      obtain ⟨event, inside, rfl⟩ := List.mem_map.mp member
      exact (event.isUpdate_happening).trans (quiet event inside)
    rw [silent, List.append_nil, ite_self]
  | ends => exact (List.append_nil _).trans (ite_self _).symm
  | @grows row store _ below appended =>
    let grown : ResultSet := { result with store }
    have more : grown.rowCount = result.rowCount + 1 := RowStore.published_of_append appended
    have key : grown.store.key = result.store.key := RowStore.key_of_append appended
    rw [updatesAt_eventFor settings _ grown, more, milestones_succ, ResultSet.batchId, ResultSet.id, key]
    -- The event is about this result, and no other one has grown.
    by_cases here : batchId = result.store.key.batchId ∧ resultId = result.store.key.resultId
    · simp [here, ResultSet.batchId, ResultSet.id]
    · rw [if_neg here, List.append_nil]
      exact (if_neg here).symm

theorem Develops.rowCount_le {settings : Settings} {result next : ResultSet} {told : List ResultEvent}
    {limit : Nat} (develops : result.Develops (.ofSettings settings) next told)
    (limited : settings.rowLimit = some limit) (most : result.rowCount ≤ limit) :
    next.rowCount ≤ limit := by
  cases develops with
  | rests | ends => exact most
  | @grows row store _ below appended =>
    have more : ResultSet.rowCount { result with store } = result.rowCount + 1 :=
      RowStore.published_of_append appended
    simp only [Reading.isAtLimit, ReadOptions.ofSettings, limited, Option.any_some,
      decide_eq_false_iff_not] at below
    omega

end ResultSet

namespace Query

def rowsAt (query : Query) (batchId resultId : Nat) : Nat :=
  (query.resultAt batchId resultId).elim 0 ResultSet.rowCount

theorem rowsAt_of_resultAt {query : Query} {batchId resultId : Nat} {result : ResultSet}
    (found : query.resultAt batchId resultId = some result) :
    query.rowsAt batchId resultId = result.rowCount := by
  rw [rowsAt, found]
  rfl

theorem rowsAt_of_bare {query next : Query} (same : next.bare = query.bare) (batchId resultId : Nat) :
    next.rowsAt batchId resultId = query.rowsAt batchId resultId := by
  have rows (query : Query) : query.bare.rowsAt batchId resultId = query.rowsAt batchId resultId := by
    have batches : query.bare.batches = (query.mapResults ResultSet.bare).batches := rfl
    rw [rowsAt, rowsAt, resultAt_of_batches batches, resultAt_mapResults]
    cases query.resultAt batchId resultId <;> rfl
  rw [← rows next, same, rows]

/-- The results keep to the limit, and have told of exactly the milestones that they have come to. -/
structure Metered (query : Query) (settings : Settings) (told : List Happening) : Prop where
  limit : ∀ batchId resultId limit, settings.rowLimit = some limit →
    query.rowsAt batchId resultId ≤ limit
  updates : ∀ batchId resultId,
    updatesAt batchId resultId told = milestones settings.updateInterval (query.rowsAt batchId resultId)

namespace Metered

variable {query next : Query} {settings : Settings} {told new : List Happening}

theorem of_rowsAt (metered : query.Metered settings told)
    (same : ∀ batchId resultId, next.rowsAt batchId resultId = query.rowsAt batchId resultId) :
    next.Metered settings told where
  limit batchId resultId limit limited := by
    rw [same]
    exact metered.limit batchId resultId limit limited
  updates batchId resultId := by
    rw [same]
    exact metered.updates batchId resultId

theorem of_develops (metered : query.Metered settings told) (numbered : query.Numbered)
    (own : query.settings = settings) (develops : query.Develops next new) :
    next.Metered settings (told ++ new) := by
  subst own
  cases develops with
  | rests same quiet =>
    have rows (batchId resultId : Nat) : next.rowsAt batchId resultId = query.rowsAt batchId resultId := by
      rw [rowsAt, rowsAt, same]
    have still := metered.of_rowsAt rows
    refine ⟨still.limit, fun batchId resultId => ?_⟩
    rw [updatesAt_append, updatesAt_of_quiet quiet, List.append_nil]
    exact still.updates batchId resultId
  | begins index number header vacant empty after =>
    have rows (batchId resultId : Nat) : next.rowsAt batchId resultId = query.rowsAt batchId resultId := by
      rw [rowsAt, rowsAt, after]
      split
      · rename_i here
        rw [here.1, here.2, vacant]
        exact empty
      · rfl
    rw [List.append_nil]
    exact metered.of_rowsAt rows
  | @reads result later heard index number found develops after =>
    obtain ⟨batchIs, resultIs⟩ := numbered.resultAt found
    have rows (batchId resultId : Nat) : next.rowsAt batchId resultId =
        if batchId = index ∧ resultId = number then later.rowCount
        else query.rowsAt batchId resultId := by
      rw [rowsAt, after]
      split <;> rfl
    have before := rowsAt_of_resultAt found
    -- Rows and updates of one result grow together; those of the others stay.
    constructor
    · intro batchId resultId limit limited
      rw [rows]
      split
      · exact develops.rowCount_le limited (before ▸ metered.limit index number limit limited)
      · exact metered.limit batchId resultId limit limited
    · intro batchId resultId
      have grown := develops.updatesAt batchId resultId
      rw [updatesAt_append, metered.updates, rows]
      rw [batchIs, resultIs] at grown
      by_cases here : batchId = index ∧ resultId = number
      · rw [if_pos here] at grown ⊢
        rw [here.1, here.2, before]
        rw [here.1, here.2] at grown
        exact grown
      · rw [if_neg here, List.append_right_eq_self] at grown
        rw [if_neg here, grown, List.append_nil]

end Metered

theorem metered_create (owner text : String) (connection : Connection) (settings : Settings) :
    (create owner text connection settings).Metered settings [] := by
  have rows (batchId resultId : Nat) :
      (create owner text connection settings).rowsAt batchId resultId = 0 := by
    rw [rowsAt, resultAt_create]
    rfl
  constructor
  · intro batchId resultId limit _
    rw [rows]
    exact Nat.zero_le limit
  · intro batchId resultId
    rw [rows]
    rfl

end Query

end SqlDesk
