import SqlDesk.Proofs.Query.Yield

/-! Runs of a query that nobody cancels or disposes of, with saves between the steps. Once such a run
has settled, every result reads back as what its script gave. The host may be anything that answers
executions, so whatever others do to the databases meanwhile is a part of how it answers. -/

set_option autoImplicit false

namespace SqlDesk

/-! Saves change nothing of what is held or yielded. -/

theorem forall₂_of_same {α β γ : Type} {holds : α → γ → Prop} {f : α → β}
    (keeps : ∀ left right held, f left = f right → holds left held → holds right held)
    {left right : List α} {all : List γ} (same : left.map f = right.map f)
    (held : List.Forall₂ holds left all) : List.Forall₂ holds right all := by
  induction held generalizing right with
  | nil =>
    rw [List.map_nil, eq_comm, List.map_eq_nil_iff] at same
    rw [same]
    exact .nil
  | cons first _ ih =>
    obtain ⟨item, rest, rfl, alike, others⟩ := List.map_eq_cons_iff.mp same.symm
    exact .cons (keeps _ _ _ alike.symm first) (ih others.symm)

theorem ResultSet.Holds.of_unsaved {limit : Option Nat} {left right : ResultSet} {deposit : Deposit}
    (same : left.unsaved = right.unsaved) (holds : left.Holds limit deposit) :
    right.Holds limit deposit := by
  obtain ⟨_, _, _, _, _⟩ := left
  obtain ⟨_, _, _, _, _⟩ := right
  cases same
  exact ⟨holds.keeps, holds.opened, holds.room, holds.columns, holds.action⟩

theorem ResultSet.held_of_unsaved {limit : Option Nat} {left right : List ResultSet}
    {deposits : List Deposit}
    (same : left.map ResultSet.unsaved = right.map ResultSet.unsaved)
    (held : List.Forall₂ (ResultSet.Holds limit) left deposits) :
    List.Forall₂ (ResultSet.Holds limit) right deposits := by
  refine forall₂_of_same ?_ same held
  intro before after deposit alike holds
  exact holds.of_unsaved alike

theorem Reading.Yields.of_unsaved {limit : Option Nat} {maker : StoreMaker} {left right : ResultSet}
    {cursor : Cursor} {phase : ReadPhase} {whole : ScriptYield}
    (same : left.unsaved = right.unsaved)
    (yields : Reading.Yields limit maker ⟨left, cursor, phase⟩ whole) :
    Reading.Yields limit maker ⟨right, cursor, phase⟩ whole := by
  cases phase with
  | fetching =>
    obtain ⟨header, taken, room, fits, holds, whole⟩ := yields
    exact ⟨header, taken, room, fits, holds.of_unsaved same, whole⟩
  | announcing | completing =>
    obtain ⟨deposit, holds, whole⟩ := yields
    exact ⟨deposit, holds.of_unsaved same, whole⟩

theorem BatchRun.Yields.of_unsaved {η : Type} [Host η] {world : World η} {run : BatchRun}
    {batch : Batch} {whole : BatchYield η}
    (same : run.batch.mapResults ResultSet.unsaved = batch.mapResults ResultSet.unsaved)
    (yields : run.Yields world whole) : Yields world { run with batch } whole := by
  obtain ⟨⟨id, owner, text, stored, messages, started, ended, hasError, cancelled⟩, settings,
    connection, phase⟩ := run
  obtain ⟨_, _, _, others, _, _, _, _, _⟩ := batch
  -- All fields but the results are equal, and these differ in their saves alone.
  simp only [Batch.mapResults, Batch.mk.injEq] at same
  obtain ⟨rfl, rfl, rfl, results, rfl, rfl, rfl, rfl, rfl⟩ := same
  cases yields with
  | between held ahead => exact .between (ResultSet.held_of_unsaved results held) ahead
  | @reading left cursor readPhase earlierResults result earlier script phase split held reads =>
    change stored = earlierResults ++ [result] at split
    rw [split, List.map_append, List.map_singleton] at results
    obtain ⟨before, last, parts, sameBefore, sameLast⟩ := List.map_eq_append_iff.mp results.symm
    obtain ⟨current, rfl, alike⟩ := List.map_eq_singleton_iff.mp sameLast
    exact .reading phase parts (ResultSet.held_of_unsaved sameBefore.symm held)
      (reads.of_unsaved alike.symm)

section

variable {η : Type} [Host η]

theorem batchesYield_mapResults (f : ResultSet → ResultSet) (settings : Settings)
    (connection : Connection) (batches : List Batch) (world : World η) :
    batchesYield settings connection (batches.map (Batch.mapResults f)) world =
      batchesYield settings connection batches world := by
  induction batches generalizing world with
  | nil => rfl
  | cons batch rest ih =>
    rw [List.map_cons, batchesYield, batchesYield]
    simp only [ih, List.map_map, Function.comp_def]
    rfl

theorem followed_mapResults (f : ResultSet → ResultSet) (settings : Settings)
    (connection : Connection) (rest : List Batch) (done : BatchYield η) :
    done.followed settings connection (rest.map (Batch.mapResults f)) =
      done.followed settings connection rest := by
  simp only [BatchYield.followed, batchesYield_mapResults, List.map_map, Function.comp_def]

end

namespace Query

variable {η : Type} [Host η]

theorem held_of_unsaved {query : Query} {left right : List Batch} {deposits : List (List Deposit)}
    (same : left.map (Batch.mapResults ResultSet.unsaved) =
      right.map (Batch.mapResults ResultSet.unsaved))
    (held : query.Held left deposits) : query.Held right deposits := by
  refine forall₂_of_same ?_ same held
  intro before after deposits alike holds
  have results : before.results.map ResultSet.unsaved = after.results.map ResultSet.unsaved :=
    congrArg Batch.results alike
  exact ResultSet.held_of_unsaved results holds

theorem fresh_of_unsaved {left right : List Batch}
    (same : left.map (Batch.mapResults ResultSet.unsaved) =
      right.map (Batch.mapResults ResultSet.unsaved))
    (fresh : ∀ batch ∈ left, batch.results = [] ∧ batch.started = none) :
    ∀ batch ∈ right, batch.results = [] ∧ batch.started = none := by
  intro batch member
  have mapped := List.mem_map_of_mem (f := Batch.mapResults ResultSet.unsaved) member
  rw [← same] at mapped
  obtain ⟨before, inside, alike⟩ := List.mem_map.mp mapped
  obtain ⟨unread, unbegun⟩ := fresh before inside
  have started : (before.mapResults ResultSet.unsaved).started =
      (batch.mapResults ResultSet.unsaved).started := by rw [alike]
  refine ⟨List.eq_nil_of_length_eq_zero ?_, started.symm.trans unbegun⟩
  rw [← Batch.length_of_same alike, unread]
  rfl

theorem Yields.of_unsaved {world : World η} {left right : Query} {whole : List (List Deposit)}
    (same : left.mapResults ResultSet.unsaved = right.mapResults ResultSet.unsaved)
    (yields : left.Yields world whole) : right.Yields world whole := by
  obtain ⟨owner, text, batches, connection, settings, cancelled, state, started, ended, activity⟩ :=
    left
  obtain ⟨_, _, others, _, _, _, _, _, _, _⟩ := right
  -- All fields but the batches are equal, and these differ in saves of their results alone.
  simp only [mapResults, Query.mk.injEq] at same
  obtain ⟨rfl, rfl, mapped, rfl, rfl, rfl, rfl, rfl, rfl, rfl⟩ := same
  cases yields with
  | @choosing before rest done chooses split held fresh =>
    change batches = before ++ rest at split
    rw [split, List.map_append] at mapped
    obtain ⟨run, unrun, parts, sameRun, sameRest⟩ := List.map_eq_append_iff.mp mapped.symm
    have length : before.length = run.length := by simpa using (congrArg List.length sameRun).symm
    rw [← batchesYield_mapResults ResultSet.unsaved, ← sameRest, batchesYield_mapResults]
    rw [length] at chooses
    exact .choosing chooses parts (held_of_unsaved sameRun.symm held)
      (fresh_of_unsaved sameRest.symm fresh)
  | @executing phase before rest batch done coming executes split held fresh runs =>
    change batches = before ++ batch :: rest at split
    rw [split, List.map_append, List.map_cons] at mapped
    obtain ⟨run, going, parts, sameRun, sameGoing⟩ := List.map_eq_append_iff.mp mapped.symm
    obtain ⟨current, unrun, rfl, sameCurrent, sameRest⟩ := List.map_eq_cons_iff.mp sameGoing
    have length : before.length = run.length := by simpa using (congrArg List.length sameRun).symm
    rw [← followed_mapResults ResultSet.unsaved, ← sameRest, followed_mapResults]
    rw [length] at executes
    exact .executing executes parts (held_of_unsaved sameRun.symm held)
      (fresh_of_unsaved sameRest.symm fresh) (BatchRun.Yields.of_unsaved sameCurrent.symm runs)
  | ended isOver held => exact .ended isOver (held_of_unsaved mapped held)

/-! Runs. -/

/-- What happens next where nobody cancels or disposes: a step, at some time, or something about a
save. -/
inductive Proceeds (η : Type) [Host η] : World η × Query → World η × Query → Prop where
  | steps (now : Instant) (world : World η) (query : Query) :
      Proceeds η (world, query) ((query.step now world).1, (query.step now world).2.outcome.1)
  | saves {world : World η} {query next : Query} {batchId resultId : Nat} {path : String}
      (accepted : query.beginSave batchId resultId path = .ok next) :
      Proceeds η (world, query) (world, next)
  | saved (tree : FileTree) (world : World η) (query : Query) (batchId resultId : Nat)
      (request : SaveRequest) :
      Proceeds η (world, query) (world, (query.runSave tree batchId resultId request).2.1)

/-- Any number of steps and saves, in any order. -/
def Undisturbed (η : Type) [Host η] : World η × Query → World η × Query → Prop :=
  Relation.ReflTransGen (Proceeds η)

structure Ongoing (settings : Settings) (whole : List (List Deposit)) (world : World η)
    (query : Query) : Prop where
  live : query.cancelRequested = false
  numbered : query.Numbered
  settings : query.settings = settings
  yields : query.Yields world whole

theorem Ongoing.proceeds {settings : Settings} {whole : List (List Deposit)}
    {before after : World η × Query}
    (fit : ∀ deposits ∈ whole, ∀ deposit ∈ deposits,
      ∀ row ∈ deposit.kept settings.rowLimit, row.Fits)
    (ongoing : before.2.Ongoing settings whole before.1) (proceeds : Proceeds η before after) :
    after.2.Ongoing settings whole after.1 := by
  have saving {world : World η} {query next : Query} (ongoing : query.Ongoing settings whole world)
      (same : next.mapResults ResultSet.unsaved = query.mapResults ResultSet.unsaved) :
      next.Ongoing settings whole world := by
    have live : (next.mapResults ResultSet.unsaved).cancelRequested =
        (query.mapResults ResultSet.unsaved).cancelRequested := by rw [same]
    have sameSettings : (next.mapResults ResultSet.unsaved).settings =
        (query.mapResults ResultSet.unsaved).settings := by rw [same]
    exact ⟨live.trans ongoing.live, numbered_of_bare (bare_of_unsaved same.symm) ongoing.numbered,
      sameSettings.trans ongoing.settings, ongoing.yields.of_unsaved same.symm⟩
  cases proceeds with
  -- The yield is that of the world in which the query began, and stays so in every later one.
  | saves accepted => exact saving ongoing (unsaved_beginSave ongoing.numbered accepted)
  | saved tree world query batchId resultId request =>
    exact saving ongoing (unsaved_runSave tree ongoing.numbered batchId resultId request)
  | steps now world query =>
    obtain ⟨live, numbered, rfl, yields⟩ := ongoing
    have numbers := (ensures_numbered now world numbered).outcome
    obtain ⟨alive, settings, after⟩ :=
      (ensures_yields now live numbered fit yields).outcome
    exact ⟨alive, numbers.1, settings, after⟩

theorem Ongoing.undisturbed {settings : Settings} {whole : List (List Deposit)}
    {before after : World η × Query}
    (fit : ∀ deposits ∈ whole, ∀ deposit ∈ deposits,
      ∀ row ∈ deposit.kept settings.rowLimit, row.Fits)
    (ongoing : before.2.Ongoing settings whole before.1) (course : Undisturbed η before after) :
    after.2.Ongoing settings whole after.1 := by
  induction course with
  | refl => exact ongoing
  | tail _ proceeds ih => exact ih.proceeds fit proceeds

theorem world_of_waits {now : Instant} {world : World η} {query next : Query}
    (waited : (query.step now world).2 = .waits next) : (query.step now world).1 = world := by
  have turn := query.turn now world
  revert turn waited
  rcases query.step now world with ⟨later, progress⟩
  intro waited turn
  -- A turn that waits has asked neither the host nor the maker for anything.
  cases turn with
  | rested => rfl
  | @executed index phase batch executes found =>
    obtain ⟨run, waits, -⟩ := Progress.waits_of_within waited
    have inner := (query.runOf batch phase).turn now query.cancelRequested world
    revert inner waits
    rcases (query.runOf batch phase).step now query.cancelRequested world with ⟨after, progress⟩
    intro waits inner
    cases inner with
    | unopened | unadvanced | read => rfl
    | _ => cases waits
  | _ => cases waited

theorem rests_of_ends {now : Instant} {world : World η} {query next : Query}
    {event : Option Happening} (ended : (query.step now world).2 = .ends next event) :
    next.activity = .resting := by
  have turn := query.turn now world
  revert turn ended
  rcases query.step now world with ⟨later, progress⟩
  intro ended turn
  cases turn with
  | announced =>
    cases ended
    rfl
  | executed =>
    change Progress.within _ _ _ = _ at ended
    unfold Progress.within at ended
    split at ended <;> cases ended
  | _ => cases ended

/-- Running a query until it rests or waits is undisturbed, and nothing more happens then. -/
theorem run_undisturbed (now : Instant) (world : World η) (query : Query) :
    ∃ before, Undisturbed η (world, query) ((query.run now world).1, before) ∧
      (before.step now (query.run now world).1).2 = .waits (query.run now world).2.1 := by
  -- The run goes on from the state before the step that waits, which changes no world.
  fun_induction run now world query with
  | case1 world query later next stepped =>
    have same := world_of_waits (congrArg Prod.snd stepped)
    rw [stepped] at same
    cases same
    exact ⟨query, .refl, congrArg Prod.snd stepped⟩
  | case2 world query later next event stepped =>
    have step := Proceeds.steps now world query
    rw [stepped] at step
    refine ⟨next, .single step, ?_⟩
    unfold Query.step
    rw [rests_of_ends (congrArg Prod.snd stepped)]
  | case3 world query later next event stepped final ended told ran ih =>
    obtain ⟨before, course, waits⟩ := ih
    have step := Proceeds.steps now world query
    rw [stepped] at step
    rw [ran] at course waits
    exact ⟨before, .head step course, waits⟩

end Query

/-! Reading back. -/

theorem forall₂_getElem? {α β : Type} {holds : α → β → Prop} {left : List α} {right : List β}
    (held : List.Forall₂ holds left right) {place : Nat} {item : α} {other : β}
    (inLeft : left[place]? = some item) (inRight : right[place]? = some other) :
    holds item other := by
  obtain ⟨insideLeft, rfl⟩ := List.getElem?_eq_some_iff.mp inLeft
  obtain ⟨insideRight, rfl⟩ := List.getElem?_eq_some_iff.mp inRight
  exact held.get insideLeft insideRight

/-- A result that stands in its place and reads back as what is kept of a deposit. -/
structure ResultSet.ReadsBack (limit : Option Nat) (batchId place : Nat) (result : ResultSet)
    (deposit : Deposit) : Prop where
  id : result.id = place
  batchId : result.batchId = batchId
  columns : result.columns = deposit.header.columns
  action : result.action = .ofHeader deposit.header
  rowCount : result.rowCount = (deposit.kept limit).length
  windows : ∀ start count, result.store.read start count =
    .ok ((deposit.kept limit).extract start (min (start + count) (deposit.kept limit).length))
  whole : result.store.read 0 result.rowCount = .ok (deposit.kept limit)

theorem ResultSet.Holds.readsBack {limit : Option Nat} {result : ResultSet} {deposit : Deposit}
    (holds : result.Holds limit deposit) {owner : String} {batchId place : Nat}
    (key : result.store.key = ⟨owner, batchId, place⟩) :
    result.ReadsBack limit batchId place deposit where
  id := congrArg StoreKey.resultId key
  batchId := congrArg StoreKey.batchId key
  columns := holds.columns
  action := holds.action
  rowCount := holds.rowCount
  windows := holds.keeps.read holds.opened
  whole := by
    rw [holds.keeps.read holds.opened, holds.rowCount]
    simp

/-- However a query runs, in whatever world and with whatever saves, if nobody cancels it or disposes
of it and nothing more happens of itself, then its batches have just the results that their scripts
give up to the first failure, in order, and every result reads back as the rows returned for it, up
to the limit and to the first append that fails. -/
theorem results_read_back {η : Type} [Host η] (owner text : String) (connection : Connection)
    (settings : Settings) {world later : World η} {begun query final : Query} {start now : Instant}
    (begins : (Query.create owner text connection settings).begin start = .ok begun)
    (fit : ∀ deposits ∈ (Query.create owner text connection settings).yield world,
      ∀ deposit ∈ deposits, ∀ row ∈ deposit.kept settings.rowLimit, row.Fits)
    (course : Query.Undisturbed η (world, begun) (later, query))
    (waits : (query.step now later).2 = .waits final) :
    final.batches.length =
        ((Query.create owner text connection settings).yield world).length ∧
      ∀ (batchId : Nat) (batch : Batch) (deposits : List Deposit),
        final.batches[batchId]? = some batch →
        ((Query.create owner text connection settings).yield world)[batchId]? = some deposits →
        batch.results.length = deposits.length ∧
          ∀ (place : Nat) (result : ResultSet) (deposit : Deposit),
            batch.results[place]? = some result → deposits[place]? = some deposit →
            result.ReadsBack settings.rowLimit batchId place deposit := by
  have numbered := Query.numbered_of_create owner text connection settings
  unfold Query.begin at begins
  split at begins
  · cases begins
    have fresh : ∀ batch ∈ Query.batchesOf owner text, batch.results = [] ∧ batch.started = none := by
      intro batch member
      obtain ⟨place, there⟩ := List.mem_iff_getElem?.mp member
      obtain ⟨part, -, rfl⟩ := Query.batchesOf_getElem? owner text there
      exact ⟨rfl, rfl⟩
    have ongoing : Query.Ongoing settings
        ((Query.create owner text connection settings).yield world) world
        { Query.create owner text connection settings with
          state := .running, started := some start, activity := .choosing 0 } :=
      ⟨rfl, numbered, rfl, .choosing rfl (List.nil_append _).symm .nil fresh⟩
    obtain ⟨live, numbers, sameSettings, yields⟩ := Query.Ongoing.undisturbed fit ongoing course
    have held := yields.of_waits live numbers waits
    have named := Query.ensures_numbered now later numbers
    rw [waits] at named
    refine ⟨held.length_eq, ?_⟩
    intro batchId batch deposits inFinal inYield
    have holds := forall₂_getElem? held inFinal inYield
    refine ⟨holds.length_eq, ?_⟩
    intro place result deposit inBatch inDeposits
    obtain ⟨id, -, inner⟩ := named.1 batchId batch inFinal
    have key := inner place result inBatch
    rw [id] at key
    rw [← sameSettings]
    exact (forall₂_getElem? holds inBatch inDeposits).readsBack key
  · cases begins

/-- The first execution yields three rows, of which two are kept, and then fails within its second
result; the next one yields a result without rows, and the last one hangs. -/
def faultyWorld : World (Array Replay) where
  host := #[⟨[[.result ⟨⟨[], true⟩, [.row [.int64 1], .row [.float64 0x7ff8000000000001], .row []],
      none⟩, .result ⟨⟨[], false⟩, [.row [.text "b"]],
        some (.fails (.driver ⟨208, 16, 1, 1, none, "no"⟩))⟩, .result ⟨⟨[], false⟩, [], none⟩],
    [.result ⟨⟨[], false⟩, [], none⟩],
    [.result ⟨⟨[], false⟩, [.row [.null]], some .hangs⟩]], []⟩]
  maker := .file

def limitedQuery : Query :=
  .create "o" "select 1\ngo 2\nselect 2" 0 { Settings.standard with storedRows := 2 }

theorem results_read_back_faulty :
    (limitedQuery.yield faultyWorld).map (·.map (·.kept (some 2))) =
        [[[[.int64 1], [.float64 0x7ff8000000000001]], [[.text "b"]], []], [[[.null]]]] ∧
      ∃ begun final, limitedQuery.begin ⟨0, 0⟩ = .ok begun ∧
        final = (begun.run ⟨0, 0⟩ faultyWorld).2.1 ∧
        ∀ (batchId : Nat) (batch : Batch) (deposits : List Deposit),
          final.batches[batchId]? = some batch →
          (limitedQuery.yield faultyWorld)[batchId]? = some deposits →
          batch.results.length = deposits.length ∧
            ∀ (place : Nat) (result : ResultSet) (deposit : Deposit),
              batch.results[place]? = some result → deposits[place]? = some deposit →
              result.ReadsBack (some 2) batchId place deposit := by
  have fit : ∀ deposits ∈ limitedQuery.yield faultyWorld, ∀ deposit ∈ deposits,
      ∀ row ∈ deposit.kept (some 2), row.Fits := by decide +kernel
  let begun : Query := { limitedQuery with
    state := .running, started := some ⟨0, 0⟩, activity := .choosing 0 }
  have begins : limitedQuery.begin ⟨0, 0⟩ = .ok begun := if_pos rfl
  obtain ⟨before, course, waits⟩ := Query.run_undisturbed ⟨0, 0⟩ faultyWorld begun
  refine ⟨by decide +kernel, begun, _, begins, rfl, ?_⟩
  exact (results_read_back "o" _ 0 _ begins fit course waits).2

end SqlDesk
