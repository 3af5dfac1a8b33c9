import SqlDesk.Proofs.Desk.Terms

/-! What one owner has at an office. Its queries go by their places, so that nothing at the counter of
an owner names a number which depends on what others have done. -/

set_option autoImplicit false

namespace SqlDesk

open Bureau (Request Decision Wish Answer Deed)

def SaveTask.inPlace (task : SaveTask) (place : Nat) : SaveTask := { task with queryId := place }

/-- What one owner has at an office. -/
@[ext]
structure Counter where
  connection : Option Connection
  layer : Option Settings
  queries : List Query
  registered : Option Nat
  /-- Whether the query of a place waits to be accepted. -/
  offered : Nat → Bool
  accepted : Nat → Bool
  /-- Saves that are to be written; they name their queries by place. -/
  saving : List SaveTask

structure Commons (η : Type) where
  world : World (Recorded η)
  defaults : Settings
  tree : FileTree

namespace Counter

def query? (counter : Counter) : Option (Nat × Query) := do
  let place ← counter.registered
  return (place, ← counter.queries[place]?)

def setQuery (counter : Counter) (place : Nat) (query : Query) : Counter :=
  { counter with queries := counter.queries.set place query }

def unregister (counter : Counter) (place : Nat) : Counter :=
  if counter.registered = some place then { counter with registered := none } else counter

/-- Makes room for the next query: one that has ended is let go. -/
def release (counter : Counter) (owner : String) : Except DeskError Counter :=
  match counter.query? with
  | none => .ok counter
  | some (place, query) =>
    if query.isTerminal then .ok ((counter.unregister place).setQuery place query.dispose)
    else .error (.inProgress owner)

def enrol (counter : Counter) (query : Query) : Counter :=
  { counter with
    queries := counter.queries ++ [query]
    registered := some counter.queries.length
    offered := Function.update counter.offered counter.queries.length true }

def beginSave (counter : Counter) (place : Nat) (query : Query) (batchId resultId : Nat)
    (request : SaveRequest) : Answer × Counter :=
  match query.beginSave batchId resultId request.path with
  | .error error => (.refused error, counter)
  | .ok next =>
    (.done, { counter.setQuery place next with
      saving := counter.saving ++ [⟨place, batchId, resultId, request⟩] })

def ask (counter : Counter) (owner : String) (defaults : Settings) : Request → Answer × Counter
  | .connect connection =>
    (.found counter.connection.isSome, { counter with connection := some connection })
  | .disconnect => (.found counter.connection.isSome, { counter with connection := none })
  | .override settings => (.done, { counter with layer := settings })
  | .execute text actual estimated =>
    match counter.connection with
    | none => (.refused (.notConnected owner), counter)
    | some connection =>
      let settings := Settings.layered defaults counter.layer actual estimated
      match counter.release owner with
      | .error error => (.refused error, counter)
      | .ok released => (.done, released.enrol (.create owner text connection settings))
  | .window batchId resultId start count =>
    match counter.query? with
    | none => (.refused (.noQuery owner), counter)
    | some (_, query) => match query.window batchId resultId start count with
      | .error error => (.refused (.query error), counter)
      | .ok window => (.shown window, counter)
  | .cancel =>
    match counter.query? with
    | none => (.cancelled .noQuery, counter)
    | some (place, query) => match query.cancel with
      | .error _ => (.cancelled .alreadyCompleted, counter)
      | .ok next => (.cancelled .cancelled, counter.setQuery place next)
  | .dispose =>
    match counter.query? with
    | none => (.refused (.noQuery owner), counter)
    | some (place, query) => (.done, (counter.unregister place).setQuery place query.dispose)
  | .save batchId resultId request =>
    match counter.query? with
    | none => (.refused (.noQuery owner), counter)
    | some (place, query) => counter.beginSave place query batchId resultId request

def decide (counter : Counter) (place : Nat) (query : Query) (decision : Decision) : Counter :=
  let counter := { counter with offered := Function.update counter.offered place false }
  match decision with
  | .accept => { counter with accepted := Function.update counter.accepted place true }
  | .decline => (counter.unregister place).setQuery place query.dispose
  | .abandon => counter.unregister place

def wish (counter : Counter) (place : Nat) (query : Query) : Wish → Answer × Counter
  | .cancel =>
    match query.cancel with
    | .error _ => (.cancelled .alreadyCompleted, counter)
    | .ok next => (.cancelled .cancelled, counter.setQuery place next)
  | .dispose => (.done, counter.setQuery place query.dispose)
  | .save batchId resultId request => counter.beginSave place query batchId resultId request

def write (counter : Counter) (tree : FileTree) (task : SaveTask) : Answer × Counter × FileTree :=
  let rest := { counter with saving := counter.saving.erase task }
  match counter.queries[task.queryId]? with
  | none => (.written (.error .notComplete), rest, tree)
  | some query =>
    let (tree, next, outcome) := query.runSave tree task.batchId task.resultId task.request
    (.written outcome, rest.setQuery task.queryId next, tree)

variable {η : Type} [Host η]

/-- What a deed of the owner comes to. Deeds that are not for one owner are done elsewhere. -/
def perform (counter : Counter) (owner : String) (commons : Commons η) :
    Deed η → Answer × Counter × Commons η
  | .asks _ request =>
    let (answer, next) := counter.ask owner commons.defaults request
    (answer, next, commons)
  | .decides _ place decision =>
    match counter.queries[place]? with
    | none => (.nothing, counter, commons)
    | some query =>
      if counter.offered place then (.done, counter.decide place query decision, commons)
      else (.nothing, counter, commons)
  | .runs _ place now =>
    match counter.queries[place]? with
    | none => (.nothing, counter, commons)
    | some query =>
      if counter.accepted place then
        let (world, next, happenings) := query.advance now commons.world
        (.ran (happenings.map (Event.mk query.owner))
            (world.host.submissions.drop commons.world.host.submissions.length),
          counter.setQuery place next, { commons with world })
      else (.nothing, counter, commons)
  | .wishes _ place wish =>
    match counter.queries[place]? with
    | none => (.nothing, counter, commons)
    | some query =>
      let (answer, next) := counter.wish place query wish
      (answer, next, commons)
  | .writes _ place =>
    match counter.saving[place]? with
    | none => (.nothing, counter, commons)
    | some task =>
      let (answer, next, tree) := counter.write commons.tree task
      (answer, next, { commons with tree })
  | .defaults _ | .elsewhere _ _ _ | .cancelsAll | .releasesAll => (.nothing, counter, commons)

end Counter

namespace Bureau

variable {η : Type}

def placeOf (bureau : Bureau η) (owner : String) (id : QueryId) : Nat :=
  (bureau.idsOf owner).idxOf id

def counter (bureau : Bureau η) (owner : String) : Counter where
  connection := bureau.desk.connection? owner
  layer := bureau.desk.overrides.lookup owner
  queries := (bureau.idsOf owner).filterMap (bureau.desk.queries[·]?)
  registered := (bureau.desk.queryId? owner).map (bureau.placeOf owner)
  offered place := ((bureau.idsOf owner)[place]?).any fun id =>
    bureau.office.offered.contains (owner, id)
  accepted place := ((bureau.idsOf owner)[place]?).any (· ∈ bureau.desk.accepted)
  saving := (bureau.savingOf owner).map fun task => task.inPlace (bureau.placeOf owner task.queryId)

def commons (bureau : Bureau η) : Commons η := ⟨bureau.desk.world, bureau.desk.defaults, bureau.tree⟩

/-! Reading a counter. -/

theorem getElem?_filterMap_of_isSome {α β : Type} {f : α → Option β} {items : List α}
    (found : ∀ item ∈ items, (f item).isSome = true) (place : Nat) :
    (items.filterMap f)[place]? = (items[place]?).bind f := by
  induction items generalizing place with
  | nil => rfl
  | cons item rest ih =>
    obtain ⟨value, there⟩ := Option.isSome_iff_exists.mp (found item List.mem_cons_self)
    have others := ih fun other member => found other (List.mem_cons_of_mem _ member)
    rw [List.filterMap_cons_some there]
    cases place with
    | zero => exact there.symm
    | succ place => exact others place

theorem getElem?_queries (bureau : Bureau η) (owner : String) (place : Nat) :
    (bureau.counter owner).queries[place]? =
      ((bureau.idsOf owner)[place]?).bind (bureau.desk.queries[·]?) := by
  refine getElem?_filterMap_of_isSome (fun id member => ?_) place
  obtain ⟨query, found, -⟩ := mem_idsOf.mp member
  rw [found]
  rfl

theorem nth?_eq_none {bureau : Bureau η} {owner : String} {place : Nat} :
    bureau.nth? owner place = none ↔ (bureau.counter owner).queries[place]? = none := by
  rw [getElem?_queries]
  unfold nth?
  cases number : (bureau.idsOf owner)[place]? with
  | none => exact iff_of_true rfl rfl
  | some id => cases found : bureau.desk.queries[id]? <;> simp [found]

section

variable {bureau : Bureau η} {owner : String} {place : Nat} {id : QueryId} {query : Query}

theorem getElem?_queries_of_nth? (found : bureau.nth? owner place = some (id, query)) :
    (bureau.counter owner).queries[place]? = some query := by
  obtain ⟨number, stands⟩ := nth?_eq_some.mp found
  rw [getElem?_queries, number]
  exact stands

theorem placeOf_of_nth? (found : bureau.nth? owner place = some (id, query)) :
    bureau.placeOf owner id = place := by
  obtain ⟨inside, here⟩ := List.getElem?_eq_some_iff.mp (nth?_eq_some.mp found).1
  rw [placeOf, ← here]
  exact (bureau.nodup_idsOf owner).idxOf_getElem place inside

theorem nth?_placeOf (found : bureau.desk.queries[id]? = some query) (owned : query.owner = owner) :
    bureau.nth? owner (bureau.placeOf owner id) = some (id, query) := by
  have member : id ∈ bureau.idsOf owner := mem_idsOf.mpr ⟨query, found, owned⟩
  exact nth?_eq_some.mpr ⟨List.getElem?_idxOf member, found⟩

theorem offered_of_nth? (found : bureau.nth? owner place = some (id, query)) :
    (bureau.counter owner).offered place = decide ((owner, id) ∈ bureau.office.offered) := by
  simp [counter, (nth?_eq_some.mp found).1]

theorem accepted_of_nth? (found : bureau.nth? owner place = some (id, query)) :
    (bureau.counter owner).accepted place = decide (id ∈ bureau.desk.accepted) := by
  simp [counter, (nth?_eq_some.mp found).1]

theorem nth?_of_registered (sound : bureau.office.Sound)
    (registered : bureau.desk.query? owner = some (id, query)) :
    bureau.nth? owner (bureau.placeOf owner id) = some (id, query) := by
  obtain ⟨number, found⟩ := Desk.query?_eq_some.mp registered
  have member : (owner, id) ∈ bureau.desk.registered := (Desk.lookup_eq_some_iff sound.keys).mp number
  obtain ⟨other, there, owned⟩ := sound.registered owner id member
  cases found.symm.trans there
  exact nth?_placeOf found owned

theorem query?_of_registered (sound : bureau.office.Sound)
    (registered : bureau.desk.query? owner = some (id, query)) :
    (bureau.counter owner).query? = some (bureau.placeOf owner id, query) := by
  have number : (bureau.counter owner).registered = some (bureau.placeOf owner id) :=
    congrArg (Option.map _) (Desk.query?_eq_some.mp registered).1
  have stands := getElem?_queries_of_nth? (nth?_of_registered sound registered)
  simp [Counter.query?, number, stands]

theorem query?_of_unregistered (sound : bureau.office.Sound)
    (nothing : bureau.desk.query? owner = none) : (bureau.counter owner).query? = none := by
  have number : bureau.desk.queryId? owner = none := by
    cases number : bureau.desk.queryId? owner with
    | none => rfl
    | some id =>
      have member : (owner, id) ∈ bureau.desk.registered :=
        (Desk.lookup_eq_some_iff sound.keys).mp number
      obtain ⟨query, found, -⟩ := sound.registered owner id member
      rw [Desk.query?_eq_some.mpr ⟨number, found⟩] at nothing
      cases nothing
  simp [Counter.query?, counter, number]

end

theorem placeOf_of_ids {before after : Bureau η} {owner : String}
    (ids : after.idsOf owner = before.idsOf owner) :
    after.placeOf owner = before.placeOf owner := by
  funext id
  rw [placeOf, placeOf, ids]

section

variable {bureau : Bureau η} {id : QueryId} {query next : Query}

theorem idsOf_setQuery (found : bureau.desk.queries[id]? = some query)
    (owned : next.owner = query.owner) (owner : String) :
    (bureau.withDesk (bureau.desk.setQuery id next)).idsOf owner = bureau.idsOf owner := by
  have stands := Desk.getElem?_setQuery_of_found found next
  have stays : bureau.Stays (bureau.withDesk (bureau.desk.setQuery id next)) := by
    intro other before there
    by_cases here : id = other
    · subst here
      cases found.symm.trans there
      exact ⟨next, (stands id).trans (if_pos rfl), owned⟩
    · exact ⟨before, (stands other).trans ((if_neg here).trans there), rfl⟩
  exact stays.idsOf_of_size (Array.size_setIfInBounds ..) owner

theorem idsOf_of_kept {desk : Desk (Recorded η)} (kept : bureau.desk.Kept desk) (owner : String) :
    (bureau.withDesk desk).idsOf owner = bureau.idsOf owner := by
  have stays : bureau.Stays (bureau.withDesk desk) := by
    intro id query found
    obtain ⟨next, there, asked⟩ := kept.queries id query found
    exact ⟨next, there, (Query.keeps_of_asked asked).owner⟩
  exact stays.idsOf_of_size kept.size owner

theorem stays_enrol (bureau : Bureau η) (query : Query) (offered : List (String × QueryId)) :
    bureau.Stays { bureau with
      office := { bureau.office with desk := bureau.desk.enrol query, offered } } := by
  intro id before found
  refine ⟨before, ?_, rfl⟩
  have inside := (Array.getElem?_eq_some_iff.mp found).1
  exact (Array.getElem?_push_lt inside).trans (Array.getElem?_eq_getElem inside ▸ found)

theorem idsOf_enrol (bureau : Bureau η) (query : Query) (offered : List (String × QueryId))
    (owner : String) :
    idsOf { bureau with office := { bureau.office with desk := bureau.desk.enrol query, offered } }
        owner =
      bureau.idsOf owner ++ if query.owner = owner then [bureau.desk.queries.size] else [] :=
  (bureau.stays_enrol query offered).idsOf_of_new (Array.size_push _) Array.getElem?_push_size owner

end

end Bureau

end SqlDesk
