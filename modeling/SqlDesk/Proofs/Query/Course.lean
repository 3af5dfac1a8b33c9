import Mathlib.Logic.Relation
import SqlDesk.Desk.Service
import SqlDesk.Proofs.Query.Turn

/-! The course of a query: its own steps, each in whatever world it then finds, and between any two of
them requests to cancel it, to dispose of it, to save a result, or to listen to it. A request made
from inside the delivery of an event comes between the step that told the event and the next one. -/

set_option autoImplicit false

namespace SqlDesk

/-! What requests leave as it is. -/

def ResultSet.unsaved (result : ResultSet) : ResultSet := { result with saves := [] }

/-- A result without its saves and without the medium of its store. -/
def ResultSet.bare (result : ResultSet) : ResultSet :=
  { result with
    store := { result.store with medium := .memory #[], isOpen := false }
    saves := [] }

def Batch.mapResults (f : ResultSet → ResultSet) (batch : Batch) : Batch :=
  { batch with results := batch.results.map f }

def Query.mapResults (f : ResultSet → ResultSet) (query : Query) : Query :=
  { query with batches := query.batches.map (Batch.mapResults f) }

abbrev Batch.bare : Batch → Batch := Batch.mapResults ResultSet.bare

def Query.bare (query : Query) : Query :=
  { query.mapResults ResultSet.bare with cancelRequested := false }

def KeepsKey (f : ResultSet → ResultSet) : Prop := ∀ result, (f result).store.key = result.store.key

theorem KeepsKey.of_same {f : ResultSet → ResultSet} (keepsKey : KeepsKey f)
    {left right : ResultSet} (same : f left = f right) : left.store.key = right.store.key := by
  rw [← keepsKey left, same, keepsKey right]

theorem keepsKey_unsaved : KeepsKey ResultSet.unsaved := fun _ => rfl

theorem keepsKey_bare : KeepsKey ResultSet.bare := fun _ => rfl

theorem map_set_of_same {α β : Type} (f : α → β) {items : List α} {place : Nat} {item next : α}
    (found : items[place]? = some item) (same : f next = f item) :
    (items.set place next).map f = items.map f := by
  obtain ⟨inside, there⟩ := List.getElem?_eq_some_iff.mp found
  rw [List.map_set, same, ← there, ← List.getElem_map f (h := by simpa using inside),
    List.set_getElem_self]

namespace Batch

theorem length_of_same {f : ResultSet → ResultSet} {left right : Batch}
    (same : left.mapResults f = right.mapResults f) : left.results.length = right.results.length := by
  have results : left.results.map f = right.results.map f := congrArg Batch.results same
  simpa only [List.length_map] using congrArg List.length results

theorem bare_close (batch : Batch) : batch.close.bare = batch.bare := by
  simp [bare, mapResults, close, ResultSet.bare, ResultSet.close, RowStore.close]

theorem mapResults_setResult {f : ResultSet → ResultSet} (keepsKey : KeepsKey f) {batch : Batch}
    (numbered : batch.Numbered) {place : Nat} {result next : ResultSet}
    (found : batch.results[place]? = some result) (same : f next = f result) :
    (batch.setResult next).mapResults f = batch.mapResults f := by
  have id : next.id = place := by
    rw [ResultSet.id, keepsKey.of_same same, numbered place result found]
  simp only [mapResults, setResult, id]
  rw [map_set_of_same f found same]

theorem numbered_of_bare {left right : Batch} (same : left.bare = right.bare)
    (numbered : left.Numbered) : right.Numbered := by
  intro place result there
  have results : left.results.map ResultSet.bare = right.results.map ResultSet.bare :=
    congrArg Batch.results same
  have found := congrArg (·[place]?) results
  simp only [List.getElem?_map, there, Option.map_some, Option.map_eq_some_iff] at found
  obtain ⟨before, isThere, alike⟩ := found
  have sameId : left.bare.id = right.bare.id := by rw [same]
  have sameOwner : left.bare.owner = right.bare.owner := by rw [same]
  change left.id = right.id at sameId
  change left.owner = right.owner at sameOwner
  rw [← keepsKey_bare.of_same alike, numbered place before isThere, sameId, sameOwner]

end Batch

namespace Query

theorem batch_of_bare {left right : Query} (same : left.bare = right.bare) {place : Nat}
    {batch : Batch} (there : right.batches[place]? = some batch) :
    ∃ before, left.batches[place]? = some before ∧ before.bare = batch.bare := by
  have batches : left.batches.map Batch.bare = right.batches.map Batch.bare :=
    congrArg Query.batches same
  have found := congrArg (·[place]?) batches
  simpa only [List.getElem?_map, there, Option.map_some, Option.map_eq_some_iff] using found

theorem numbered_of_bare {left right : Query} (same : left.bare = right.bare)
    (numbered : left.Numbered) : right.Numbered := by
  intro place batch there
  obtain ⟨before, found, alike⟩ := batch_of_bare same there
  obtain ⟨id, owner, inner⟩ := numbered place before found
  have sameId : before.bare.id = batch.bare.id := by rw [alike]
  have sameOwner : before.bare.owner = batch.bare.owner := by rw [alike]
  have ofQuery : left.bare.owner = right.bare.owner := by rw [same]
  change before.id = batch.id at sameId
  change before.owner = batch.owner at sameOwner
  change left.owner = right.owner at ofQuery
  exact ⟨sameId ▸ id, sameOwner ▸ owner.trans ofQuery, Batch.numbered_of_bare alike inner⟩

theorem bare_cancel {query next : Query} (accepted : query.cancel = .ok next) :
    next.bare = query.bare := by
  unfold cancel at accepted
  split at accepted <;> cases accepted
  rfl

theorem bare_dispose (query : Query) : query.dispose.bare = query.bare := by
  simp [bare, mapResults, dispose, Batch.bare_close]

theorem mapResults_setResult {f : ResultSet → ResultSet} (keepsKey : KeepsKey f) {query : Query}
    (numbered : query.Numbered) {batchId resultId : Nat} {result next : ResultSet}
    (found : query.result batchId resultId = .ok result) (same : f next = f result) :
    (query.setResult next).mapResults f = query.mapResults f := by
  unfold Query.result Query.batch at found
  -- The key of the result leads back to where it was found, first the batch and then the result.
  cases there : query.batches[batchId]? with
  | none => simp [there, bind, Except.bind] at found
  | some batch =>
    obtain ⟨id, -, inner⟩ := numbered batchId batch there
    cases place : batch.results[resultId]? with
    | none => simp [there, bind, Except.bind, Batch.result, place] at found
    | some stored =>
      simp only [there, bind, Except.bind, Batch.result, place, Except.ok.injEq] at found
      subst found
      have batchIs : next.batchId = batchId := by
        rw [ResultSet.batchId, keepsKey.of_same same, inner resultId stored place, id]
      have unchanged := Batch.mapResults_setResult keepsKey inner place same
      simp only [setResult, batchIs, there, setBatch, mapResults]
      rw [show (batch.setResult next).id = batchId from id,
        map_set_of_same (Batch.mapResults f) there unchanged]

theorem unsaved_beginSave {query next : Query} (numbered : query.Numbered)
    {batchId resultId : Nat} {path : String}
    (accepted : query.beginSave batchId resultId path = .ok next) :
    next.mapResults ResultSet.unsaved = query.mapResults ResultSet.unsaved := by
  unfold Query.beginSave at accepted
  split at accepted
  · cases accepted
  · rename_i result found
    split at accepted
    · cases accepted
    · rename_i begun beginning
      cases accepted
      refine mapResults_setResult keepsKey_unsaved numbered found ?_
      unfold ResultSet.beginSave at beginning
      split at beginning
      · cases beginning
      · split at beginning <;> cases beginning
        rfl

theorem unsaved_runSave (tree : FileTree) {query : Query} (numbered : query.Numbered)
    (batchId resultId : Nat) (request : SaveRequest) :
    (query.runSave tree batchId resultId request).2.1.mapResults ResultSet.unsaved =
      query.mapResults ResultSet.unsaved := by
  unfold Query.runSave
  split
  · rfl
  · rename_i result found
    exact mapResults_setResult keepsKey_unsaved numbered found rfl

theorem bare_of_unsaved {left right : Query}
    (same : left.mapResults ResultSet.unsaved = right.mapResults ResultSet.unsaved) :
    left.bare = right.bare := by
  have again (query : Query) : (query.mapResults ResultSet.unsaved).bare = query.bare := by
    simp [bare, mapResults, Batch.mapResults, ResultSet.bare, ResultSet.unsaved]
  rw [← again left, ← again right, same]

end Query

/-! Courses. -/

/-- A query, those who listen to it, and what has been delivered, event by event. -/
structure Scene (α : Type) where
  query : Query
  subscribers : Subscribers α
  rounds : List (List (α × Event))

namespace Scene

variable {α : Type}

def ofQuery (query : Query) : Scene α := ⟨query, .none query.owner, []⟩

/-- Events go to those who are subscribed when they happen. -/
def tell (scene : Scene α) (happenings : List Happening) : Scene α :=
  { scene with rounds := scene.rounds ++ happenings.map scene.subscribers.deliveries }

def heard (scene : Scene α) (place : Nat) : List Event :=
  scene.rounds.filterMap fun round => (round[place]?).map Prod.snd

/-- What happens next: a step of the query in some world, or a request. -/
inductive Next (η : Type) [Host η] (scene : Scene α) : Scene α → Prop where
  | steps (now : Instant) (world : World η) :
      Next η scene ({ scene with query := (scene.query.step now world).2.outcome.1 }.tell
        (scene.query.step now world).2.outcome.2)
  | cancels {query : Query} (accepted : scene.query.cancel = .ok query) :
      Next η scene { scene with query }
  | disposes : Next η scene { scene with query := scene.query.dispose }
  | saves {batchId resultId : Nat} {path : String} {query : Query}
      (accepted : scene.query.beginSave batchId resultId path = .ok query) :
      Next η scene { scene with query }
  | saved (tree : FileTree) (batchId resultId : Nat) (request : SaveRequest) :
      Next η scene
        { scene with query := (scene.query.runSave tree batchId resultId request).2.1 }
  | subscribes (member : α) :
      Next η scene { scene with subscribers := scene.subscribers.subscribe member }

def Course (η : Type) [Host η] : Scene α → Scene α → Prop := Relation.ReflTransGen (Next η)

/-- A number of steps at one time, each in the world that the one before has left. -/
def advance {η : Type} [Host η] (now : Instant) : Nat → World η × Scene α → World η × Scene α
  | 0, reached => reached
  | count + 1, (world, scene) =>
    advance now count ((scene.query.step now world).1,
      { scene with query := (scene.query.step now world).2.outcome.1 }.tell
        (scene.query.step now world).2.outcome.2)

/-- What one happening does: a step, or something that leaves the query as it is but for saves,
media and the wish to cancel. -/
theorem Next.cases {η : Type} [Host η] {scene next : Scene α} (numbered : scene.query.Numbered)
    (happened : Next η scene next) :
    (∃ (now : Instant) (world : World η),
      next = { scene with query := (scene.query.step now world).2.outcome.1 }.tell
        (scene.query.step now world).2.outcome.2) ∨
      next.query.bare = scene.query.bare ∧ next.rounds = scene.rounds ∧
        next.subscribers.owner = scene.subscribers.owner ∧
        ∃ more, next.subscribers.members = scene.subscribers.members ++ more := by
  have same {query : Query} (bare : query.bare = scene.query.bare) :
      query.bare = scene.query.bare ∧ scene.rounds = scene.rounds ∧
        scene.subscribers.owner = scene.subscribers.owner ∧
        ∃ more, scene.subscribers.members = scene.subscribers.members ++ more :=
    ⟨bare, rfl, rfl, [], (List.append_nil _).symm⟩
  cases happened with
  | steps now world => exact .inl ⟨now, world, rfl⟩
  | cancels accepted => exact .inr (same (Query.bare_cancel accepted))
  | disposes => exact .inr (same scene.query.bare_dispose)
  | saves accepted =>
    exact .inr (same (Query.bare_of_unsaved (Query.unsaved_beginSave numbered accepted)))
  | saved tree batchId resultId request =>
    have unchanged := Query.unsaved_runSave tree numbered batchId resultId request
    exact .inr (same (Query.bare_of_unsaved unchanged))
  | subscribes member => exact .inr ⟨rfl, rfl, rfl, [member], rfl⟩

end Scene

end SqlDesk
