import SqlDesk.Proofs.Batch.Numbering
import SqlDesk.Query.Execution

/-! Everything that one step of a query can come to, and what a step keeps of the numbers of its
batches. A batch under way is always there, so the case of a lost one is met by none of the runs. -/

set_option autoImplicit false

namespace SqlDesk.Query

def runOf (query : Query) (batch : Batch) (phase : BatchPhase) : BatchRun :=
  ⟨batch, query.settings, query.connection, phase⟩

/-- The outcomes of a step, by what the query is about to do. -/
inductive Turn {η : Type} [Host η] (now : Instant) (world : World η) (query : Query) :
    World η → Progress Query Query Happening → Prop where
  | rested (rests : query.activity = .resting) : Turn now world query world (.waits query)
  | exhausted {index : Nat} (chooses : query.activity = .choosing index)
      (missing : query.batches[index]? = none) :
      Turn now world query world (.moves (query.finish now .completed) none)
  | halted {index : Nat} {batch : Batch} (chooses : query.activity = .choosing index)
      (found : query.batches[index]? = some batch) (signalled : query.cancelRequested = true) :
      Turn now world query world (.moves (query.finish now .cancelled) none)
  | refused {index : Nat} {batch : Batch} (chooses : query.activity = .choosing index)
      (found : query.batches[index]? = some batch) (live : query.cancelRequested = false)
      (used : batch.started.isSome = true) :
      Turn now world query world (.moves (query.finish now .failed) none)
  | begun {index : Nat} {batch : Batch} (chooses : query.activity = .choosing index)
      (found : query.batches[index]? = some batch) (live : query.cancelRequested = false)
      (fresh : batch.started.isSome = false) :
      Turn now world query world (.moves (query.withRun index
        (query.runOf { batch with started := some now }
          (.starting (BatchRun.runsOf batch query.settings)))) none)
  | lost {index : Nat} {phase : BatchPhase} (executes : query.activity = .executing index phase)
      (missing : query.batches[index]? = none) :
      Turn now world query world (.moves (query.finish now .failed) none)
  | executed {index : Nat} {phase : BatchPhase} {batch : Batch}
      (executes : query.activity = .executing index phase)
      (found : query.batches[index]? = some batch) :
      Turn now world query
        ((query.runOf batch phase).step now query.cancelRequested world).1
        (((query.runOf batch phase).step now query.cancelRequested world).2.within
          (query.withRun index) (query.afterBatch index))
  | closed {state : QueryState} (closes : query.activity = .closing state) :
      Turn now world query world (.moves (query.finish now state) none)
  | announced (announces : query.activity = .announcing) :
      Turn now world query world
        (.ends { query with activity := .resting } (some (.queryCompleted query.summaries)))

theorem turn {η : Type} [Host η] (now : Instant) (world : World η) (query : Query) :
    Turn now world query (query.step now world).1 (query.step now world).2 := by
  unfold step
  cases activity : query.activity with
  | resting => exact .rested activity
  | closing state => exact .closed activity
  | announcing => exact .announced activity
  | executing index phase =>
    simp only
    cases found : query.batches[index]? with
    | none => exact .lost activity found
    | some batch => exact .executed activity found
  | choosing index =>
    simp only [choose]
    cases found : query.batches[index]? with
    | none => exact .exhausted activity found
    | some batch =>
      cases signalled : query.cancelRequested with
      | true => exact .halted activity found signalled
      | false =>
        cases used : batch.started.isSome with
        | true =>
          simp only [BatchRun.start, used, Bool.false_eq_true, if_false, if_true]
          exact .refused activity found signalled used
        | false =>
          simp only [BatchRun.start, used, Bool.false_eq_true, if_false]
          exact .begun activity found signalled used

def Numbered (query : Query) : Prop :=
  ∀ (place : Nat) (batch : Batch), query.batches[place]? = some batch →
    batch.id = place ∧ batch.owner = query.owner ∧ batch.Numbered

theorem batchesOf_getElem? (owner text : String) {place : Nat} {batch : Batch}
    (found : (batchesOf owner text)[place]? = some batch) :
    ∃ part, (splitBatches text)[place]? = some part ∧ batch = Batch.ofText place owner part := by
  simp only [batchesOf, List.getElem?_map, List.getElem?_zipIdx, Option.map_map,
    Option.map_eq_some_iff, Function.comp_apply] at found
  obtain ⟨part, there, same⟩ := found
  exact ⟨part, there, by simpa using same.symm⟩

theorem numbered_of_create (owner text : String) (connection : Connection) (settings : Settings) :
    (create owner text connection settings).Numbered := by
  intro place batch found
  obtain ⟨part, -, rfl⟩ := batchesOf_getElem? owner text found
  refine ⟨rfl, rfl, ?_⟩
  intro number result nothing
  simp [Batch.ofText] at nothing

theorem batches_setBatch {query : Query} (numbered : query.Numbered) {place : Nat}
    {batch next : Batch} (found : query.batches[place]? = some batch) (id : next.id = batch.id) :
    (query.setBatch next).batches = query.batches.set place next := by
  simp only [setBatch]
  rw [id, (numbered place batch found).1]

theorem numbered_setBatch {query : Query} (numbered : query.Numbered) {place : Nat}
    {batch next : Batch} (found : query.batches[place]? = some batch) (id : next.id = batch.id)
    (owner : next.owner = batch.owner) (inner : next.Numbered) :
    (query.setBatch next).Numbered := by
  obtain ⟨ownId, ownOwner, -⟩ := numbered place batch found
  intro other there same
  rw [batches_setBatch numbered found id] at same
  by_cases here : place = other
  · subst here
    rw [List.getElem?_set_self (List.getElem?_eq_some_iff.mp found).1] at same
    cases same
    exact ⟨id.trans ownId, owner.trans ownOwner, inner⟩
  · rw [List.getElem?_set_ne here] at same
    exact numbered other there same

theorem ensures_numbered {η : Type} [Host η] (now : Instant) (world : World η) {query : Query}
    (numbered : query.Numbered) :
    (query.step now world).2.Ensures (fun next _ => next.Numbered ∧ next.owner = query.owner)
      (fun next _ => next.Numbered ∧ next.owner = query.owner) := by
  have turn := query.turn now world
  revert turn
  rcases query.step now world with ⟨later, progress⟩
  intro turn
  cases turn with
  | begun _ found =>
    exact ⟨numbered_setBatch numbered found rfl rfl (numbered _ _ found).2.2, rfl⟩
  | executed _ found =>
    refine Progress.ensures_within ?_
    refine (BatchRun.ensures_numbered now query.cancelRequested world
      (numbered _ _ found).2.2).imp ?_ ?_
    · rintro next _ ⟨id, owner, inner⟩
      exact ⟨numbered_setBatch numbered found id owner inner, rfl⟩
    · rintro done _ ⟨id, owner, inner⟩
      exact ⟨numbered_setBatch numbered found id owner inner, rfl⟩
  | _ => exact ⟨numbered, rfl⟩

end SqlDesk.Query
