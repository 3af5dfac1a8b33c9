import SqlDesk.Query.Run
import SqlDesk.Proofs.Batch.Yield
import SqlDesk.Proofs.Query.Course

/-! What a query yields, batch by batch, and the invariant of a query that is not cancelled: what its
batches hold, and what is still to come, make up the same deposits after every step. -/

set_option autoImplicit false

namespace SqlDesk

def RunPlan.ofBatch (settings : Settings) (connection : Connection) (batch : Batch) : RunPlan :=
  ⟨settings.rowLimit, connection, ⟨batch.text.sql, settings.actualPlan, settings.estimatedPlan⟩⟩

/-- What batches leave that run one after the other, until one of them does not complete. -/
def batchesYield {η : Type} [Host η] (settings : Settings) (connection : Connection) :
    List Batch → World η → List (List Deposit)
  | [], _ => []
  | batch :: rest, world =>
    let done := (RunPlan.ofBatch settings connection batch).yield
      (BatchRun.runsOf batch settings) world
    done.deposits ::
      if done.outcome = some .completed then batchesYield settings connection rest done.world
      else rest.map fun _ => []

def BatchYield.followed {η : Type} [Host η] (settings : Settings) (connection : Connection)
    (rest : List Batch) (done : BatchYield η) : List (List Deposit) :=
  done.deposits ::
    if done.outcome = some .completed then batchesYield settings connection rest done.world
    else rest.map fun _ => []

namespace Query

variable {η : Type} [Host η]

def yield (query : Query) (world : World η) : List (List Deposit) :=
  batchesYield query.settings query.connection query.batches world

abbrev Held (query : Query) (batches : List Batch) (deposits : List (List Deposit)) : Prop :=
  List.Forall₂ (fun batch : Batch => List.Forall₂ (ResultSet.Holds query.settings.rowLimit)
    batch.results) batches deposits

def isOver (query : Query) : Bool :=
  match query.activity with
  | .choosing _ | .executing _ _ => false
  | .resting | .closing _ | .announcing => true

/-- The batches that have run, the one that runs, and what is to come make up a yield. -/
inductive Yields (world : World η) (query : Query) : List (List Deposit) → Prop where
  | choosing {before rest : List Batch} {done : List (List Deposit)}
      (chooses : query.activity = .choosing before.length)
      (batches : query.batches = before ++ rest) (held : query.Held before done)
      (fresh : ∀ batch ∈ rest, batch.results = [] ∧ batch.started = none) :
      Yields world query (done ++ batchesYield query.settings query.connection rest world)
  | executing {phase : BatchPhase} {before rest : List Batch} {batch : Batch}
      {done : List (List Deposit)} {coming : BatchYield η}
      (executes : query.activity = .executing before.length phase)
      (batches : query.batches = before ++ batch :: rest) (held : query.Held before done)
      (fresh : ∀ batch ∈ rest, batch.results = [] ∧ batch.started = none)
      (runs : (query.runOf batch phase).Yields world coming) :
      Yields world query (done ++ coming.followed query.settings query.connection rest)
  | ended {deposits : List (List Deposit)} (isOver : query.isOver = true)
      (held : query.Held query.batches deposits) : Yields world query deposits

theorem Yields.of_choosing {world : World η} {query : Query} {whole : List (List Deposit)}
    {index : Nat} (yields : query.Yields world whole) (chooses : query.activity = .choosing index) :
    ∃ before rest done, before.length = index ∧ query.batches = before ++ rest ∧
      query.Held before done ∧ (∀ batch ∈ rest, batch.results = [] ∧ batch.started = none) ∧
      whole = done ++ batchesYield query.settings query.connection rest world := by
  cases yields with
  | choosing same batches held fresh =>
    rw [chooses] at same
    cases same
    exact ⟨_, _, _, rfl, batches, held, fresh, rfl⟩
  | executing executes =>
    rw [chooses] at executes
    cases executes
  | ended rests => simp [isOver, chooses] at rests

theorem Yields.of_executing {world : World η} {query : Query} {whole : List (List Deposit)}
    {index : Nat} {phase : BatchPhase} (yields : query.Yields world whole)
    (executes : query.activity = .executing index phase) :
    ∃ before batch rest done, ∃ coming : BatchYield η,
      before.length = index ∧ query.batches = before ++ batch :: rest ∧ query.Held before done ∧
      (∀ batch ∈ rest, batch.results = [] ∧ batch.started = none) ∧
      (query.runOf batch phase).Yields world coming ∧
      whole = done ++ coming.followed query.settings query.connection rest := by
  cases yields with
  | choosing chooses =>
    rw [executes] at chooses
    cases chooses
  | executing same batches held fresh runs =>
    rw [executes] at same
    cases same
    exact ⟨_, _, _, _, _, rfl, batches, held, fresh, runs, rfl⟩
  | ended rests => simp [isOver, executes] at rests

theorem Yields.of_over {world : World η} {query : Query} {whole : List (List Deposit)}
    (yields : query.Yields world whole) (ended : query.isOver = true) :
    query.Held query.batches whole := by
  cases yields with
  | choosing chooses => simp [isOver, chooses] at ended
  | executing executes => simp [isOver, executes] at ended
  | ended _ held => exact held

theorem held_fresh (query : Query) {rest : List Batch}
    (fresh : ∀ batch ∈ rest, batch.results = [] ∧ batch.started = none) :
    query.Held rest (rest.map fun _ => []) := by
  induction rest with
  | nil => exact .nil
  | cons batch rest ih =>
    have none := (fresh batch List.mem_cons_self).1
    exact .cons (by rw [none]; exact .nil) (ih fun other member =>
      fresh other (List.mem_cons_of_mem batch member))

theorem batches_setBatch_there {query : Query} (numbered : query.Numbered) {before rest : List Batch}
    {batch next : Batch} (batches : query.batches = before ++ batch :: rest)
    (id : next.id = batch.id) : (query.setBatch next).batches = before ++ next :: rest := by
  have found : query.batches[before.length]? = some batch := by simp [batches]
  rw [batches_setBatch numbered found id, batches]
  simp

/-- A batch that begins has no results yet, so all that it yields is still to come. -/
theorem yields_begun {world : World η} {query : Query} {whole : List (List Deposit)} {index : Nat}
    {batch : Batch} (now : Instant) (numbered : query.Numbered) (before : query.Yields world whole)
    (chooses : query.activity = .choosing index) (found : query.batches[index]? = some batch) :
    (query.withRun index (query.runOf { batch with started := some now }
      (.starting (BatchRun.runsOf batch query.settings)))).Yields world whole := by
  obtain ⟨earlier, rest, done, rfl, batches, held, fresh, rfl⟩ := before.of_choosing chooses
  rw [batches, List.getElem?_append_right (Nat.le_refl _), Nat.sub_self] at found
  cases rest with
  | nil => cases found
  | cons first rest =>
    cases found
    -- Nothing has been stored yet, so the yield of the batch stands behind no deposits.
    let begun := { batch with started := some now }
    let run := query.runOf begun (.starting (BatchRun.runsOf batch query.settings))
    let coming := (RunPlan.ofBatch query.settings query.connection batch).yield
      (BatchRun.runsOf batch query.settings) world
    have unread : batch.results = [] := (fresh batch List.mem_cons_self).1
    have nothing : run.Held run.batch.results [] := by
      change run.Held batch.results []
      rw [unread]
      exact .nil
    have yields : run.Yields world (coming.behind []) := .between nothing rfl
    have stands : (query.withRun earlier.length run).batches = earlier ++ begun :: rest :=
      batches_setBatch_there numbered batches rfl
    change Query.Yields world _ (done ++ coming.followed query.settings query.connection rest)
    exact .executing rfl stands held
      (fun other member => fresh other (List.mem_cons_of_mem batch member)) yields

/-- Once a batch has ended, the next one is taken up where it has completed, and no other. -/
theorem yields_afterBatch {world : World η} {query : Query} {before rest : List Batch}
    {done : List (List Deposit)} {coming : BatchYield η} {ended : BatchEnd}
    (stands : (query.afterBatch before.length ended).batches = before ++ ended.batch :: rest)
    (held : query.Held before done)
    (fresh : ∀ batch ∈ rest, batch.results = [] ∧ batch.started = none)
    (holds : List.Forall₂ (ResultSet.Holds query.settings.rowLimit) ended.batch.results
      coming.deposits)
    (outcome : coming.outcome = some ended.outcome) (same : coming.world = world) :
    (query.afterBatch before.length ended).Yields world
      (done ++ coming.followed query.settings query.connection rest) := by
  rw [BatchYield.followed, outcome, same]
  by_cases completed : ended.outcome = .completed
  · rw [completed, if_pos rfl, List.append_cons]
    refine .choosing ?_ ?_ (List.rel_append held (.cons holds .nil)) fresh
    · simp [afterBatch, completed]
    · rw [stands, List.append_cons]
  · rw [if_neg (by simpa using completed)]
    refine .ended ?_ ?_
    · unfold isOver afterBatch
      cases outcome : ended.outcome with
      | completed => exact absurd outcome completed
      | cancelled | failed => rfl
    · rw [stands]
      exact List.rel_append held (.cons holds (query.held_fresh fresh))

theorem ensures_yields_run (now : Instant) {world : World η} {query : Query}
    {whole : List (List Deposit)} {index : Nat} {phase : BatchPhase} {batch : Batch}
    (numbered : query.Numbered)
    (fit : ∀ deposits ∈ whole, ∀ deposit ∈ deposits,
      ∀ row ∈ deposit.kept query.settings.rowLimit, row.Fits)
    (before : query.Yields world whole) (executes : query.activity = .executing index phase)
    (found : query.batches[index]? = some batch) :
    ((query.runOf batch phase).step now false world).2.Ensures
      (fun next _ => (query.withRun index next).Yields
        ((query.runOf batch phase).step now false world).1 whole)
      (fun done _ => (query.afterBatch index done).Yields
        ((query.runOf batch phase).step now false world).1 whole) := by
  obtain ⟨earlier, current, rest, done, coming, rfl, batches, held, fresh, runs, rfl⟩ :=
    before.of_executing executes
  obtain ⟨-, -, inner⟩ := numbered _ _ found
  rw [batches, List.getElem?_append_right (Nat.le_refl _), Nat.sub_self] at found
  cases found
  have small : ∀ deposit ∈ coming.deposits,
      ∀ row ∈ deposit.kept query.settings.rowLimit, row.Fits := by
    refine fit coming.deposits ?_
    exact List.mem_append_right done List.mem_cons_self
  refine ((BatchRun.ensures_numbered now false world inner).and
    (BatchRun.ensures_yields now inner small runs)).imp ?_ ?_
  · rintro next _ ⟨⟨id, -, -⟩, ⟨settings, connection⟩, yields⟩
    have stands : (query.withRun earlier.length next).batches = earlier ++ next.batch :: rest :=
      batches_setBatch_there numbered batches id
    -- The run is put together again from its batch and phase with what the query knows.
    have same : query.runOf next.batch next.phase = next := by
      unfold runOf
      rw [← show next.settings = query.settings from settings,
        ← show next.connection = query.connection from connection]
    refine .executing rfl stands held fresh ?_
    change (query.runOf next.batch next.phase).Yields _ coming
    rw [same]
    exact yields
  · rintro ended _ ⟨⟨id, -, -⟩, holds, outcome, world⟩
    exact yields_afterBatch (batches_setBatch_there numbered batches id) held fresh holds outcome
      world

theorem ensures_yields (now : Instant) {world : World η} {query : Query}
    {whole : List (List Deposit)} (live : query.cancelRequested = false)
    (numbered : query.Numbered)
    (fit : ∀ deposits ∈ whole, ∀ deposit ∈ deposits,
      ∀ row ∈ deposit.kept query.settings.rowLimit, row.Fits)
    (before : query.Yields world whole) :
    (query.step now world).2.Ensures
      (fun next _ => next.cancelRequested = false ∧ next.settings = query.settings ∧
        next.Yields (query.step now world).1 whole)
      (fun next _ => next.cancelRequested = false ∧ next.settings = query.settings ∧
        next.Yields (query.step now world).1 whole) := by
  have turn := query.turn now world
  revert turn
  rcases query.step now world with ⟨later, progress⟩
  intro turn
  -- A turn may move something from what is to come to what is held, and the whole stays.
  cases turn with
  | rested => exact ⟨live, rfl, before⟩
  | closed closes | announced closes =>
    have held := before.of_over (by rw [isOver, closes])
    exact ⟨live, rfl, .ended rfl held⟩
  | halted _ _ signalled => simp [live] at signalled
  | exhausted chooses missing =>
    obtain ⟨earlier, rest, done, rfl, batches, held, fresh, rfl⟩ := before.of_choosing chooses
    have none : rest = [] := by
      rw [batches, List.getElem?_eq_none_iff, List.length_append] at missing
      exact List.eq_nil_of_length_eq_zero (by omega)
    refine ⟨live, rfl, .ended rfl ?_⟩
    rw [none, batchesYield, List.append_nil]
    rw [none, List.append_nil] at batches
    change query.Held query.batches done
    rw [batches]
    exact held
  | refused chooses found _ used =>
    obtain ⟨earlier, rest, done, rfl, batches, held, fresh, rfl⟩ := before.of_choosing chooses
    rw [batches, List.getElem?_append_right (Nat.le_refl _), Nat.sub_self] at found
    have unused := (fresh _ (List.mem_of_getElem? found)).2
    simp [unused] at used
  | begun chooses found =>
    exact ⟨live, rfl, yields_begun now numbered before chooses found⟩
  | lost executes missing =>
    obtain ⟨earlier, batch, rest, done, coming, rfl, batches, -⟩ := before.of_executing executes
    simp [batches] at missing
  | executed executes found =>
    rw [live]
    refine Progress.ensures_within ?_
    refine (ensures_yields_run now numbered fit before executes found).imp ?_ ?_
    · intro next _ yields
      exact ⟨live, rfl, yields⟩
    · intro ended _ yields
      exact ⟨live, rfl, yields⟩

theorem Yields.of_waits {now : Instant} {world : World η} {query final : Query}
    {whole : List (List Deposit)} (live : query.cancelRequested = false)
    (numbered : query.Numbered) (yields : query.Yields world whole)
    (waited : (query.step now world).2 = .waits final) : query.Held final.batches whole := by
  have turn := query.turn now world
  revert turn waited
  rcases query.step now world with ⟨later, progress⟩
  intro waited turn
  cases turn with
  | rested rests =>
    cases waited
    exact yields.of_over (by rw [isOver, rests])
  | @executed index phase current executes found =>
    obtain ⟨earlier, batch, rest, done, coming, rfl, batches, held, fresh, runs, rfl⟩ :=
      yields.of_executing executes
    obtain ⟨-, -, inner⟩ := numbered _ _ found
    rw [batches, List.getElem?_append_right (Nat.le_refl _), Nat.sub_self] at found
    cases found
    rw [live] at waited
    obtain ⟨run, waits, rfl⟩ := Progress.waits_of_within waited
    have named : Progress.Ensures _ _ ((query.runOf current phase).step now false world).2 :=
      BatchRun.ensures_numbered now false world inner
    rw [waits] at named
    obtain ⟨holds, hangs⟩ := BatchRun.yields_waits inner runs waits
    have stands : (query.withRun earlier.length run).batches = earlier ++ run.batch :: rest :=
      batches_setBatch_there numbered batches named.1
    -- Behind a batch that hangs no other one is taken up.
    rw [stands, BatchYield.followed, hangs, if_neg (by simp)]
    exact List.rel_append held (.cons holds (query.held_fresh fresh))
  | _ => cases waited

end Query

end SqlDesk
