import SqlDesk.Proofs.Query.Finality
import SqlDesk.Proofs.Query.Results
import SqlDesk.Proofs.ResultSet.Growth

/-! What the stores of a query have gathered of the rows that its cursors have yielded. The next step
takes a row from a cursor or it does not, and the row is for the result that is being read. As long as
its store is open, a result holds the rows yielded for it from the first on: all of them while it is
being fetched below its limit, and afterwards those up to the limit or to the row that was refused.
Whatever is told of a result in a step shows it as the step leaves it. -/

set_option autoImplicit false

namespace SqlDesk

/-- A row that a cursor has yielded, and the place of the result that it is for. -/
structure Yielded where
  batchId : Nat
  resultId : Nat
  row : Row
  deriving DecidableEq

def yieldedAt (batchId resultId : Nat) (yielded : List Yielded) : List Row :=
  (yielded.filter fun one => one.batchId = batchId ∧ one.resultId = resultId).map Yielded.row

theorem yieldedAt_append (batchId resultId : Nat) (yielded more : List Yielded) :
    yieldedAt batchId resultId (yielded ++ more) =
      yieldedAt batchId resultId yielded ++ yieldedAt batchId resultId more := by
  simp [yieldedAt]

theorem yieldedAt_self (batchId resultId : Nat) (row : Option Row) :
    yieldedAt batchId resultId (row.map (Yielded.mk batchId resultId)).toList = row.toList := by
  cases row <;> simp [yieldedAt]

theorem yieldedAt_apart {batchId resultId : Nat} {one : Option Yielded}
    (apart : ∀ taken ∈ one, ¬(taken.batchId = batchId ∧ taken.resultId = resultId)) :
    yieldedAt batchId resultId one.toList = [] := by
  cases one with
  | none => rfl
  | some taken => simp [yieldedAt, apart taken rfl]

/-! The row that the next step takes from a cursor. -/

def Reading.yields (cancelled : Bool) (reading : Reading) : Option Row :=
  match reading.phase with
  | .announcing _ | .completing _ => none
  | .fetching _ =>
    if cancelled then none
    else match (reading.cursor.nextRow cancelled).1 with
      | .value row => some row
      | .ended | .failed _ | .waits => none

def BatchRun.yields (cancelled : Bool) (run : BatchRun) : Option Yielded :=
  match run.phase, run.batch.results.getLast? with
  | .reading _ cursor phase, some result =>
    (Reading.yields cancelled ⟨result, cursor, phase⟩).map (Yielded.mk result.batchId result.id)
  | _, _ => none

def Query.yields (query : Query) : Option Yielded :=
  match query.activity with
  | .executing index phase => query.batches[index]?.bind fun batch =>
      (query.runOf batch phase).yields query.cancelRequested
  | _ => none

def ReadPhase.isFetching : ReadPhase → Bool
  | fetching _ => true
  | announcing _ | completing _ => false

def BatchPhase.isFetching : BatchPhase → Bool
  | reading _ _ phase => phase.isFetching
  | _ => false

def ResultEvent.summary : ResultEvent → ResultSummary
  | available summary | updated summary | completed summary => summary

def Happening.result? : Happening → Option ResultSummary
  | resultAvailable summary | resultUpdated summary | resultCompleted summary => some summary
  | batchStarted _ | batchCompleted _ | message _ | queryCompleted _ => none

theorem ResultEvent.result?_happening (event : ResultEvent) :
    event.happening.result? = some event.summary := by
  cases event <;> rfl

/-! One result. -/

def ResultSet.Gathers (options : ReadOptions) (fetching : Prop) (rows : List Row)
    (result : ResultSet) : Prop :=
  result.store.isOpen = true → ∃ stored, result.store.Holds stored ∧ stored <+: rows ∧
    (fetching → stored = rows ∨ Reading.isAtLimit options result = true)

namespace ResultSet.Gathers

variable {options : ReadOptions} {fetching goesOn : Prop} {rows : List Row}
  {result next : ResultSet}

theorem settle (gathers : result.Gathers options fetching rows) (same : next.store = result.store)
    (fetched : ¬goesOn) (more : List Row) : next.Gathers options goesOn (rows ++ more) := by
  intro opened
  rw [same] at opened
  obtain ⟨stored, holds, front, -⟩ := gathers opened
  exact ⟨stored, same ▸ holds, front.trans (List.prefix_append _ _), fun goes => absurd goes fetched⟩

theorem imp (gathers : result.Gathers options fetching rows) (weaker : goesOn → fetching) :
    result.Gathers options goesOn rows := by
  intro opened
  obtain ⟨stored, holds, front, all⟩ := gathers opened
  exact ⟨stored, holds, front, all ∘ weaker⟩

theorem rests (gathers : result.Gathers options fetching rows) (rested : result.Rests True next) :
    next.Gathers options fetching rows := by
  intro opened
  have counted := rested.rowCount
  rcases rested with same | ⟨-, closed⟩
  · rw [same] at opened
    obtain ⟨stored, holds, front, all⟩ := gathers opened
    refine ⟨stored, same ▸ holds, front, fun goes => (all goes).imp_right ?_⟩
    rw [Reading.isAtLimit, Reading.isAtLimit, counted]
    exact fun limited => limited
  · rw [closed] at opened
    cases opened

end ResultSet.Gathers

theorem Reading.summary_of_eventFor {options : ReadOptions} {announced : Bool} {result : ResultSet} :
    ∀ event ∈ (eventFor options announced result).toList, event.summary = result.summary := by
  unfold eventFor
  split
  · exact List.forall_mem_singleton.mpr rfl
  · split
    · exact List.forall_mem_singleton.mpr rfl
    · nofun

theorem Reading.ensures_gathers (options : ReadOptions) (cancelled : Bool) {reading : Reading}
    {rows : List Row}
    (gathers : reading.result.Gathers options (reading.phase.isFetching = true) rows) :
    (reading.step options cancelled).Ensures
      (fun next told => next.result.Gathers options (next.phase.isFetching = true)
          (rows ++ (reading.yields cancelled).toList) ∧
        ∀ event ∈ told, event.summary = next.result.summary)
      (fun done told => done.result.Gathers options False
          (rows ++ (reading.yields cancelled).toList) ∧
        ∀ event ∈ told, event.summary = done.result.summary) := by
  have turn := reading.turn options cancelled
  generalize reading.step options cancelled = progress at turn
  have finished (reading : Reading) (announced : Bool) (outcome : ReadOutcome) :
      ¬(reading.finish announced outcome).phase.isFetching = true := by
    cases announced <;> exact Bool.false_ne_true
  cases turn with
  | cancelled | exhausted | failed | refused =>
    exact ⟨gathers.settle rfl (finished _ _ _) _, nofun⟩
  | waits phase live fetched =>
    have nothing : reading.yields cancelled = none := by simp [yields, phase, fetched]
    rw [nothing, Option.toList_none, List.append_nil]
    exact ⟨gathers, nofun⟩
  | @dropped announced cursor row phase live fetched atLimit =>
    -- The row is yielded all the same; from here on the store falls behind.
    refine ⟨fun opened => ?_, nofun⟩
    obtain ⟨stored, holds, front, -⟩ := gathers opened
    exact ⟨stored, holds, front.trans (List.prefix_append _ _), fun _ => .inr atLimit⟩
  | @stored announced cursor row store phase live fetched below appended =>
    subst live
    have taken : reading.yields false = some row := by simp [yields, phase, fetched]
    obtain ⟨-, rfl⟩ := RowStore.eq_of_append appended
    refine ⟨fun opened => ?_, ?_⟩
    · -- Below the limit no row has been left out, so this one comes right behind those yielded before.
      obtain ⟨stored, holds, -, all⟩ := gathers opened
      have whole : stored = rows := by
        rcases all (by rw [phase]; rfl) with same | atLimit
        · exact same
        · rw [below] at atLimit
          cases atLimit
      rw [taken, Option.toList_some, ← whole]
      exact ⟨stored ++ [row], holds.append row, List.prefix_rfl, fun _ => .inl rfl⟩
    · exact summary_of_eventFor
  | announced => exact ⟨gathers.settle rfl Bool.false_ne_true _, List.forall_mem_singleton.mpr rfl⟩
  | completed => exact ⟨gathers.settle rfl id _, List.forall_mem_singleton.mpr rfl⟩

/-! The results of a batch. -/

namespace Batch

/-- Each result of a batch gathers what has been yielded for it; `fetching` is about the last one. -/
structure Gathers (options : ReadOptions) (fetching : Prop) (yielded : List Yielded)
    (batch : Batch) : Prop where
  vacant : ∀ place, batch.results[place]? = none → yieldedAt batch.id place yielded = []
  results : ∀ (place : Nat) (result : ResultSet), batch.results[place]? = some result →
    result.Gathers options (fetching ∧ place + 1 = batch.results.length)
      (yieldedAt batch.id place yielded)

def Tells (batch : Batch) (told : List Happening) : Prop :=
  ∀ happening ∈ told, ∀ summary, happening.result? = some summary →
    ∃ result ∈ batch.results, result.summary = summary

variable {options : ReadOptions} {fetching goesOn : Prop} {yielded : List Yielded}
  {batch next : Batch}

theorem tells_nil (batch : Batch) : batch.Tells [] := by
  intro happening member
  cases member

theorem tells_of_read {earlier : List ResultSet} {later : ResultSet} {told : List ResultEvent}
    (after : batch.results = earlier ++ [later])
    (shown : ∀ event ∈ told, event.summary = later.summary) :
    batch.Tells (told.map ResultEvent.happening) := by
  intro happening member summary isTold
  obtain ⟨event, among, rfl⟩ := List.mem_map.mp member
  rw [event.result?_happening] at isTold
  cases isTold
  refine ⟨later, ?_, (shown event among).symm⟩
  rw [after]
  exact List.mem_append_right _ List.mem_cons_self

theorem Gathers.of_same (gathers : batch.Gathers options fetching yielded) (id : next.id = batch.id)
    (results : next.results = batch.results) (weaker : goesOn → fetching) :
    next.Gathers options goesOn yielded where
  vacant place := by
    rw [id, results]
    exact gathers.vacant place
  results place result found := by
    rw [results] at found
    rw [id, results]
    exact (gathers.results place result found).imp (And.imp_left weaker)

theorem Gathers.pass (gathers : batch.Gathers options fetching yielded) (weaker : goesOn → fetching)
    {one : Option Yielded} (elsewhere : ∀ taken ∈ one, taken.batchId ≠ batch.id) :
    batch.Gathers options goesOn (yielded ++ one.toList) := by
  have nothing (place : Nat) : yieldedAt batch.id place one.toList = [] :=
    yieldedAt_apart fun taken member both => elsewhere taken member both.1
  constructor
  · intro place missing
    rw [yieldedAt_append, nothing, List.append_nil]
    exact gathers.vacant place missing
  · intro place result found
    rw [yieldedAt_append, nothing, List.append_nil]
    exact (gathers.results place result found).imp (And.imp_left weaker)

theorem Gathers.create (gathers : batch.Gathers options False yielded) {store : RowStore}
    (holds : store.Holds []) (header : Header) :
    Gathers options True yielded
      { batch with results := batch.results ++ [ResultSet.ofHeader store header] } where
  vacant place missing := by
    rw [List.getElem?_eq_none_iff, List.length_append] at missing
    exact gathers.vacant place (List.getElem?_eq_none_iff.mpr (by omega))
  results place result found := by
    change (batch.results ++ [_])[place]? = some result at found
    rw [Query.getElem?_concat_eq] at found
    split at found
    · rename_i here
      cases found
      intro _
      -- Where nothing was, nothing can have been yielded.
      have nothing : yieldedAt batch.id place yielded = [] :=
        gathers.vacant place (List.getElem?_eq_none_iff.mpr (Nat.le_of_eq here.symm))
      exact ⟨[], holds, List.nil_prefix, fun _ => .inl nothing.symm⟩
    · rename_i apart
      refine (gathers.results place result found).imp ?_
      rintro ⟨-, last⟩
      -- The last result alone is being read, which is the new one now.
      simp only [List.length_append, List.length_singleton] at last
      exact absurd (Nat.succ.inj last) apart

theorem Gathers.read (gathers : batch.Gathers options fetching yielded)
    {earlier : List ResultSet} {result later : ResultSet} (row : Option Row)
    (results : batch.results = earlier ++ [result]) (id : next.id = batch.id)
    (after : next.results = earlier ++ [later])
    (last : later.Gathers options goesOn (yieldedAt batch.id earlier.length yielded ++ row.toList)) :
    next.Gathers options goesOn
      (yielded ++ (row.map (Yielded.mk batch.id earlier.length)).toList) where
  vacant place missing := by
    rw [after, List.getElem?_eq_none_iff, List.length_append, List.length_singleton] at missing
    have vacant := gathers.vacant place (by
      rw [results, List.getElem?_eq_none_iff, List.length_append, List.length_singleton]
      exact missing)
    have other : earlier.length ≠ place := by omega
    rw [id, yieldedAt_append, vacant, yieldedAt_apart (by simp [other]), List.append_nil]
  results place found there := by
    rw [after, Query.getElem?_concat_eq] at there
    rw [id, after, yieldedAt_append]
    -- The result that is read is the last one, and the row belongs to no other.
    split at there
    · rename_i here
      cases there
      rw [here, yieldedAt_self]
      exact last.imp And.left
    · rename_i apart
      have before : batch.results[place]? = some found := by
        rw [results, Query.getElem?_concat_eq, if_neg apart, there]
      rw [yieldedAt_apart (by simp [Ne.symm apart]), List.append_nil]
      refine (gathers.results place found before).imp ?_
      rintro ⟨-, isLast⟩
      simp only [List.length_append, List.length_singleton] at isLast
      exact absurd (Nat.succ.inj isLast) apart

end Batch

theorem BatchRun.ensures_gathers {η : Type} [Host η] (now : Instant) (cancelled : Bool)
    (world : World η) {run : BatchRun} (numbered : run.batch.Numbered) {yielded : List Yielded}
    (gathers : run.batch.Gathers (.ofSettings run.settings) (run.phase.isFetching = true) yielded) :
    (run.step now cancelled world).2.Ensures
      (fun next told => next.batch.Gathers (.ofSettings run.settings)
          (next.phase.isFetching = true) (yielded ++ (run.yields cancelled).toList) ∧
        next.batch.Tells told)
      (fun done told => done.batch.Gathers (.ofSettings run.settings) False
          (yielded ++ (run.yields cancelled).toList) ∧ done.batch.Tells told) := by
  have turn := run.turn now cancelled world
  revert turn
  rcases run.step now cancelled world with ⟨later, progress⟩
  intro turn
  have unfetched {fetching : Prop} : false = true → fetching :=
    fun fetches => absurd fetches Bool.false_ne_true
  cases turn with
  | @read left cursor readPhase result phase last =>
    obtain ⟨earlier, results⟩ := List.getLast?_eq_some_iff.mp last
    have place := numbered.last results
    have taken : run.yields cancelled = (Reading.yields cancelled ⟨result, cursor, readPhase⟩).map
        (Yielded.mk run.batch.id earlier.length) := by
      rw [yields, phase, last]
      simp only [ResultSet.batchId, ResultSet.id, place]
    rw [phase] at gathers
    have own := gathers.results earlier.length result (by rw [results]; simp)
    have reading : (Reading.mk result cursor readPhase).result.Gathers (.ofSettings run.settings)
        ((Reading.mk result cursor readPhase).phase.isFetching = true)
        (yieldedAt run.batch.id earlier.length yielded) :=
      own.imp fun fetches => ⟨fetches, by rw [results]; simp⟩
    rw [taken]
    refine Progress.ensures_mapEvent (Progress.ensures_within ?_)
    refine ((Reading.ensures_gathers (.ofSettings run.settings) cancelled reading).and
      (Reading.ensures_key (.ofSettings run.settings) cancelled _)).imp ?_ ?_
    · rintro next told ⟨⟨gathered, shown⟩, key⟩
      have after := Batch.results_setResult numbered results key
      exact ⟨gathers.read _ results rfl after gathered, Batch.tells_of_read after shown⟩
    · rintro done told ⟨⟨gathered, shown⟩, key⟩
      have after := Batch.results_setResult numbered results key
      exact ⟨gathers.read _ results rfl after (gathered.imp unfetched),
        Batch.tells_of_read after shown⟩
  | @created left cursor header store phase made =>
    -- The result that was last so far is no longer fetched, and none of the rows is for the new one.
    have nothing : run.yields cancelled = none := by simp [yields, phase]
    rw [nothing, Option.toList_none, List.append_nil]
    rw [phase] at gathers
    have before : run.batch.Gathers (.ofSettings run.settings) False yielded :=
      gathers.of_same rfl rfl False.elim
    exact ⟨(before.create (StoreMaker.create_holds made) header).of_same rfl rfl fun _ => trivial,
      Batch.tells_nil _⟩
  | unread phase missing =>
    have nothing : run.yields cancelled = none := by simp [yields, phase, missing]
    rw [nothing, Option.toList_none, List.append_nil]
    exact ⟨gathers.of_same rfl rfl unfetched, Batch.tells_nil _⟩
  | unopened phase =>
    have nothing : run.yields cancelled = none := by simp [yields, phase]
    rw [nothing, Option.toList_none, List.append_nil]
    exact ⟨gathers, Batch.tells_nil _⟩
  | started phase | repeated phase | halted phase | submitted phase | opened phase | rejected phase
  | unadvanced phase | advanced phase | told phase | uncreated phase | resumed phase
  | exhausted phase | broken phase | erred phase | remarked phase | suppressed phase
  | cancelled phase | failed phase | succeeded phase | concluded phase | completed phase =>
    have nothing : run.yields cancelled = none := by simp [yields, phase]
    rw [nothing, Option.toList_none, List.append_nil]
    refine ⟨gathers.of_same rfl rfl ?_, by simp [Batch.Tells, Happening.result?]⟩
    intro fetches
    cases fetches

theorem BatchRun.batchId_of_yields {run : BatchRun} (numbered : run.batch.Numbered)
    {cancelled : Bool} {one : Yielded} (taken : one ∈ run.yields cancelled) :
    one.batchId = run.batch.id := by
  unfold yields at taken
  split at taken
  · rename_i result _ last
    obtain ⟨earlier, results⟩ := List.getLast?_eq_some_iff.mp last
    obtain ⟨row, -, rfl⟩ := Option.map_eq_some_iff.mp taken
    exact congrArg StoreKey.batchId (numbered.last results)
  · cases taken

/-! The results of a query. -/

namespace Query

def Fetches (query : Query) (index : Nat) : Prop :=
  (query.phaseAt index).any BatchPhase.isFetching = true

def Gathers (query : Query) (yielded : List Yielded) : Prop :=
  ∀ (index : Nat) (batch : Batch), query.batches[index]? = some batch →
    batch.Gathers (.ofSettings query.settings) (query.Fetches index) yielded

def Tells (query : Query) (told : List Happening) : Prop :=
  ∀ happening ∈ told, ∀ summary, happening.result? = some summary →
    ∃ result, query.resultAt summary.batchId summary.id = some result ∧ result.summary = summary

variable {query next : Query} {yielded : List Yielded}

theorem gathers_create (owner text : String) (connection : Connection) (settings : Settings) :
    (create owner text connection settings).Gathers [] := by
  intro index batch found
  obtain ⟨part, -, rfl⟩ := batchesOf_getElem? owner text found
  exact ⟨fun _ _ => rfl, nofun⟩

theorem not_fetches_of_idle {index : Nat} (idle : query.phaseAt index = none) :
    ¬query.Fetches index := by
  rw [Fetches, idle]
  exact Bool.false_ne_true

theorem fetches_executing {index : Nat} {phase : BatchPhase}
    (executes : query.activity = .executing index phase) :
    query.Fetches index ↔ phase.isFetching = true := by
  rw [Fetches, phaseAt_executing executes]
  rfl

theorem Gathers.of_idle (gathers : query.Gathers yielded) (settings : next.settings = query.settings)
    (batches : next.batches = query.batches)
    (idle : ∀ index phase, next.activity ≠ .executing index phase) : next.Gathers yielded := by
  intro index batch found
  rw [batches] at found
  rw [settings]
  refine (gathers index batch found).of_same rfl rfl fun fetches => ?_
  refine absurd fetches (not_fetches_of_idle ?_)
  unfold phaseAt
  split
  · exact absurd ‹_› (idle _ _)
  · rfl

theorem Gathers.set (gathers : query.Gathers yielded) (numbered : query.Numbered) {index : Nat}
    {later : Batch} {one : Option Yielded} (settings : next.settings = query.settings)
    (batches : next.batches = query.batches.set index later)
    (placed : ∀ taken ∈ one, taken.batchId = index)
    (own : later.Gathers (.ofSettings query.settings) (next.Fetches index) (yielded ++ one.toList))
    (others : ∀ other, other ≠ index → next.phaseAt other = none) :
    next.Gathers (yielded ++ one.toList) := by
  intro place batch found
  rw [settings]
  rw [batches] at found
  -- The row belongs to the batch at this place, and nothing is read at another.
  by_cases here : index = place
  · subst here
    rw [List.getElem?_set, if_pos rfl] at found
    split at found <;> cases found
    exact own
  · rw [List.getElem?_set_ne here] at found
    refine (gathers place batch found).pass
      (fun fetches => absurd fetches (not_fetches_of_idle (others place (Ne.symm here)))) ?_
    intro taken member
    rw [placed taken member, (numbered place batch found).1]
    exact here

variable {η : Type} [Host η]

theorem tells_set {told : List Happening} {index : Nat} {batch later : Batch}
    (found : query.batches[index]? = some batch)
    (batches : next.batches = query.batches.set index later) (numbered : next.Numbered)
    (tells : later.Tells told) : next.Tells told := by
  intro happening member summary isTold
  obtain ⟨result, among, shown⟩ := tells happening member summary isTold
  obtain ⟨place, there⟩ := List.mem_iff_getElem?.mp among
  have stands : next.resultAt index place = some result := by
    rw [resultAt_set found batches, if_pos rfl, there]
  obtain ⟨batchIs, resultIs⟩ := numbered.resultAt stands
  refine ⟨result, ?_, shown⟩
  rw [← shown]
  change next.resultAt result.batchId result.id = some result
  rw [batchIs, resultIs, stands]

theorem ensures_gathers (now : Instant) (world : World η) (numbered : query.Numbered)
    (gathers : query.Gathers yielded) :
    (query.step now world).2.Ensures
      (fun next told => next.Gathers (yielded ++ query.yields.toList) ∧ next.Tells told)
      (fun next told => next.Gathers (yielded ++ query.yields.toList) ∧ next.Tells told) := by
  have turn := query.turn now world
  revert turn
  rcases query.step now world with ⟨later, progress⟩
  intro turn
  cases turn with
  | rested activity =>
    have nothing : query.yields = none := by rw [yields, activity]
    rw [nothing, Option.toList_none, List.append_nil]
    exact ⟨gathers, nofun⟩
  | exhausted activity | halted activity | refused activity | closed activity =>
    have nothing : query.yields = none := by rw [yields, activity]
    rw [nothing, Option.toList_none, List.append_nil]
    exact ⟨gathers.of_idle rfl rfl fun _ _ => nofun, nofun⟩
  | lost activity missing =>
    have nothing : query.yields = none := by simp [yields, activity, missing]
    rw [nothing, Option.toList_none, List.append_nil]
    exact ⟨gathers.of_idle rfl rfl fun _ _ => nofun, nofun⟩
  | announced activity =>
    have nothing : query.yields = none := by rw [yields, activity]
    rw [nothing, Option.toList_none, List.append_nil]
    exact ⟨gathers.of_idle rfl rfl fun _ _ => nofun, by simp [Tells, Happening.result?]⟩
  | @begun index batch chooses found live fresh =>
    have nothing : query.yields = none := by rw [yields, chooses]
    have batches : (query.setBatch { batch with started := some now }).batches =
        query.batches.set index { batch with started := some now } :=
      batches_setBatch numbered found rfl
    refine ⟨.set gathers numbered rfl batches (by simp [nothing]) ?_ ?_, nofun⟩
    · rw [nothing, Option.toList_none, List.append_nil]
      refine (gathers index batch found).of_same rfl rfl fun fetches => ?_
      rw [fetches_executing rfl] at fetches
      cases fetches
    · exact fun other apart => phaseAt_other rfl apart
  | @executed index phase batch executes found =>
    obtain ⟨id, owner, inner⟩ := numbered index batch found
    have own := gathers index batch found
    have taken : query.yields = (query.runOf batch phase).yields query.cancelRequested := by
      simp only [yields, executes, found, Option.bind_some]
    -- What is yielded is for this batch, which leaves the others as they were.
    have placed : ∀ one ∈ query.yields, one.batchId = index := by
      rw [taken]
      exact fun one member => (BatchRun.batchId_of_yields inner member).trans id
    rw [fetches_executing executes] at own
    refine Progress.ensures_within ?_
    refine ((BatchRun.ensures_numbered now query.cancelRequested world inner).and
      (BatchRun.ensures_gathers now query.cancelRequested world inner own)).imp ?_ ?_
    · rintro next told ⟨⟨sameId, sameOwner, numbers⟩, gathered, tells⟩
      have batches := batches_setBatch numbered found sameId
      refine ⟨.set gathers numbered rfl batches placed ?_ fun other apart => phaseAt_other rfl apart,
        tells_set found batches (numbered_setBatch numbered found sameId sameOwner numbers) tells⟩
      rw [taken]
      exact gathered.of_same rfl rfl (fetches_executing rfl).mp
    · rintro done told ⟨⟨sameId, sameOwner, numbers⟩, gathered, tells⟩
      have batches := batches_setBatch numbered found sameId
      have idle (other : Nat) : (query.afterBatch index done).phaseAt other = none := by
        unfold phaseAt afterBatch
        cases done.outcome <;> rfl
      refine ⟨.set gathers numbered rfl batches placed ?_ fun other _ => idle other,
        tells_set found batches (numbered_setBatch numbered found sameId sameOwner numbers) tells⟩
      rw [taken]
      exact gathered.of_same rfl rfl fun fetches => absurd fetches (not_fetches_of_idle (idle index))

end Query

end SqlDesk
