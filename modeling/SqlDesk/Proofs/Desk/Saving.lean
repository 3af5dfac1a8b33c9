import SqlDesk.Proofs.Desk.Bureau
import SqlDesk.Proofs.Query.Saves

/-! Saves that have been accepted and are not written yet. The results and the list of such saves agree
at all times: a result is busy with a path exactly while a save of this result to that path waits to be
written. So one result never has two unfinished saves to one destination, and however a save ends, its
destination is free again for this result. Results know nothing of each other: two of them can be
saved to one path at once. -/

set_option autoImplicit false

namespace SqlDesk

/-- The result that is saved, by the numbers of its query, its batch and itself. -/
def SaveTask.place (task : SaveTask) : QueryId × Nat × Nat := (task.queryId, task.batchId, task.resultId)

def SaveTask.destination (task : SaveTask) : (QueryId × Nat × Nat) × List String :=
  (task.place, FileTree.components task.request.path)

theorem Query.savesAt_create (owner text : String) (connection : Connection) (settings : Settings)
    (batchId resultId : Nat) :
    (create owner text connection settings).savesAt batchId resultId = [] := by
  rw [savesAt, resultAt_create]
  rfl

namespace Desk

variable {η : Type}

def savesAt (desk : Desk η) (place : QueryId × Nat × Nat) : List (List String) :=
  (desk.queries[place.1]?).elim [] (·.savesAt place.2.1 place.2.2)

def completeAt (desk : Desk η) (place : QueryId × Nat × Nat) : Bool :=
  (desk.queries[place.1]?).any (·.completeAt place.2.1 place.2.2)

theorem completeAt_eq_true {desk : Desk η} {place : QueryId × Nat × Nat} :
    desk.completeAt place = true ↔ ∃ query, desk.queries[place.1]? = some query ∧
      query.completeAt place.2.1 place.2.2 = true := by
  simp only [completeAt, Option.any_eq_true]

theorem savesAt_setQuery {desk : Desk η} {id : QueryId} {query next : Query} {batchId resultId : Nat}
    (change : List (List String) → List (List String)) (found : desk.queries[id]? = some query)
    (changed : ∀ otherBatch otherResult, next.savesAt otherBatch otherResult =
      if otherBatch = batchId ∧ otherResult = resultId then
        change (query.savesAt otherBatch otherResult)
      else query.savesAt otherBatch otherResult) (place : QueryId × Nat × Nat) :
    (desk.setQuery id next).savesAt place =
      if place = (id, batchId, resultId) then change (desk.savesAt place)
      else desk.savesAt place := by
  obtain ⟨other, otherBatch, otherResult⟩ := place
  unfold savesAt
  rw [getElem?_setQuery_of_found found]
  by_cases here : id = other
  · subst here
    rw [if_pos rfl, found]
    simp only [Option.elim_some, changed, Prod.mk.injEq, true_and]
  · rw [if_neg here, if_neg fun same => here (congrArg Prod.fst same).symm]

theorem completeAt_setQuery {desk : Desk η} {id : QueryId} {query next : Query}
    (found : desk.queries[id]? = some query)
    (kept : ∀ {batchId resultId}, query.completeAt batchId resultId = true →
      next.completeAt batchId resultId = true)
    {place : QueryId × Nat × Nat} (complete : desk.completeAt place = true) :
    (desk.setQuery id next).completeAt place = true := by
  unfold completeAt at complete ⊢
  rw [getElem?_setQuery_of_found found]
  split
  · rename_i here
    rw [← here, found] at complete
    exact kept complete
  · exact complete

theorem runSave_of_found {desk : Desk η} {task : SaveTask} {query : Query} (tree : FileTree)
    (found : desk.queries[task.queryId]? = some query) :
    (desk.runSave tree task).2.1 = desk.setQuery task.queryId
      (query.runSave tree task.batchId task.resultId task.request).2.1 := by
  unfold runSave
  rw [found]

/-- No save is accepted and none ends, and what is complete stays so. -/
structure Spares (before after : Desk η) : Prop where
  saves : ∀ place, after.savesAt place = before.savesAt place
  complete : ∀ place, before.completeAt place = true → after.completeAt place = true

namespace Spares

variable {first second third : Desk η}

theorem of_queries (same : second.queries = first.queries) : first.Spares second where
  saves place := by rw [savesAt, savesAt, same]
  complete place complete := by rwa [completeAt, same]

theorem trans (left : first.Spares second) (right : second.Spares third) : first.Spares third where
  saves place := (right.saves place).trans (left.saves place)
  complete place complete := right.complete place (left.complete place complete)

theorem of_query {id : QueryId} {query next : Query} (found : first.queries[id]? = some query)
    (stands : ∀ other, second.queries[other]? =
      if id = other then some next else first.queries[other]?) (spares : query.Spares next) :
    first.Spares second := by
  constructor
  · rintro ⟨other, batchId, resultId⟩
    unfold savesAt
    rw [stands]
    split
    · rename_i here
      obtain rfl : id = other := here
      rw [found]
      exact spares.saves batchId resultId
    · rfl
  · rintro ⟨other, batchId, resultId⟩
    unfold completeAt
    rw [stands]
    split
    · rename_i here
      obtain rfl : id = other := here
      rw [found]
      exact spares.complete batchId resultId
    · exact fun complete => complete

theorem setQuery {desk : Desk η} {id : QueryId} {query next : Query}
    (found : desk.queries[id]? = some query) (spares : query.Spares next) :
    desk.Spares (desk.setQuery id next) :=
  of_query found (getElem?_setQuery_of_found found next) spares

theorem disposeQuery (desk : Desk η) (id : QueryId) : desk.Spares (desk.disposeQuery id) := by
  cases found : desk.queries[id]? with
  | none =>
    rw [disposeQuery_of_missing found]
    exact of_queries rfl
  | some query =>
    rw [disposeQuery_of_found found]
    exact setQuery found (.dispose query)

theorem cancel (desk : Desk η) (owner : String) : desk.Spares (desk.cancel owner).2 := by
  unfold Desk.cancel
  split
  · exact of_queries rfl
  · rename_i found
    split
    · rename_i accepted
      exact setQuery (query?_eq_some.mp found).2 (.cancel accepted)
    · exact of_queries rfl

theorem cancels (desk : Desk η) (entries : List (String × QueryId)) :
    desk.Spares (entries.foldl (fun desk (owner, _) => (desk.cancel owner).2) desk) := by
  induction entries generalizing desk with
  | nil => exact of_queries rfl
  | cons entry rest ih => exact (cancel desk entry.1).trans (ih _)

theorem disposes (desk : Desk η) (entries : List (String × QueryId)) :
    desk.Spares (entries.foldl (fun desk (_, id) => desk.disposeQuery id) desk) := by
  induction entries generalizing desk with
  | nil => exact of_queries rfl
  | cons entry rest ih => exact (disposeQuery desk entry.2).trans (ih _)

theorem letGo (desk : Desk η) (owner : String) (id : QueryId) :
    desk.Spares ((desk.unregister owner).disposeQuery id) := by
  have leaves : desk.Spares (desk.unregister owner) := of_queries rfl
  exact leaves.trans (disposeQuery _ id)

theorem enrol {desk : Desk η} (query : Query) (unsaved : ∀ batchId resultId,
    query.savesAt batchId resultId = []) : desk.Spares (desk.enrol query) := by
  have stands (id : QueryId) : (desk.enrol query).queries[id]? =
      if id = desk.queries.size then some query else desk.queries[id]? := Array.getElem?_push
  have missing : desk.queries[desk.queries.size]? = none := Array.getElem?_size
  constructor
  · rintro ⟨id, batchId, resultId⟩
    unfold savesAt
    rw [stands]
    split
    · rename_i new
      obtain rfl : id = desk.queries.size := new
      rw [missing]
      exact unsaved batchId resultId
    · rfl
  · rintro ⟨id, batchId, resultId⟩ complete
    unfold completeAt at complete ⊢
    rw [stands]
    split
    · rename_i new
      obtain rfl : id = desk.queries.size := new
      rw [missing] at complete
      cases complete
    · exact complete

theorem create {desk next : Desk η} {request : QueryRequest} {id : QueryId}
    (made : desk.create request = .ok (id, next)) : desk.Spares next := by
  obtain ⟨connection, released, -, freed, -, rfl⟩ := create_eq_ok made
  have spares : desk.Spares released := by
    rcases release_eq_ok freed with ⟨-, rfl⟩ | ⟨previous, _, -, -, rfl⟩
    · exact of_queries rfl
    · exact letGo desk request.owner previous
  exact spares.trans (enrol _ (Query.savesAt_create _ _ _ _))

theorem dispose {desk next : Desk η} {owner : String} (disposed : desk.dispose owner = .ok next) :
    desk.Spares next := by
  unfold Desk.dispose require at disposed
  split at disposed
  · cases disposed
    exact letGo desk owner _
  · cases disposed

end Spares

end Desk

namespace Bureau

variable {η : Type}

def destinations (bureau : Bureau η) : List ((QueryId × Nat × Nat) × List String) :=
  bureau.saving.map (·.2.destination)

/-- The results know exactly of the saves that are not written yet. -/
structure Tidy (bureau : Bureau η) : Prop where
  known : ∀ place target, (bureau.desk.savesAt place).count target =
    bureau.destinations.count (place, target)
  once : bureau.destinations.Nodup
  complete : ∀ entry ∈ bureau.saving, bureau.desk.completeAt entry.2.place = true

namespace Tidy

variable {bureau : Bureau η}

theorem of_spares {next : Bureau η} (tidy : bureau.Tidy) (spares : bureau.desk.Spares next.desk)
    (saving : next.saving = bureau.saving) : next.Tidy where
  known place target := by rw [spares.saves, tidy.known, destinations, destinations, saving]
  once := by rw [destinations, saving]; exact tidy.once
  complete entry member := spares.complete _ (tidy.complete entry (saving ▸ member))

theorem mem_savesAt_iff (tidy : bureau.Tidy) {place : QueryId × Nat × Nat} {target : List String} :
    target ∈ bureau.desk.savesAt place ↔ (place, target) ∈ bureau.destinations := by
  rw [← List.count_pos_iff, tidy.known, List.count_pos_iff]

theorem accepts {owner : String} {id : QueryId} {query next : Query} {batchId resultId : Nat}
    {request : SaveRequest} (tidy : bureau.Tidy) (numbered : query.Numbered)
    (found : bureau.desk.queries[id]? = some query)
    (accepted : query.beginSave batchId resultId request.path = .ok next) :
    Tidy { bureau.withDesk (bureau.desk.setQuery id next) with
      saving := bureau.saving ++ [(owner, ⟨id, batchId, resultId, request⟩)] } := by
  let task : SaveTask := ⟨id, batchId, resultId, request⟩
  obtain ⟨result, there, complete, free, -⟩ := Query.beginSave_eq_ok accepted
  have saves : bureau.desk.savesAt task.place = query.savesAt batchId resultId := by
    simp [Desk.savesAt, SaveTask.place, task, found]
  have stands (place : QueryId × Nat × Nat) : (bureau.desk.setQuery id next).savesAt place =
      if place = task.place then task.destination.2 :: bureau.desk.savesAt place
      else bureau.desk.savesAt place :=
    Desk.savesAt_setQuery (task.destination.2 :: ·) found
      (Query.savesAt_beginSave numbered accepted) place
  have completes {place : QueryId × Nat × Nat} (before : bureau.desk.completeAt place = true) :=
    Desk.completeAt_setQuery found (Query.completeAt_beginSave numbered accepted) before
  -- The result knows of no save to this file, and it knows of all that are waiting.
  have new : task.destination ∉ bureau.destinations := by
    rw [← Query.savesAt_of_resultAt there, ← saves, tidy.mem_savesAt_iff] at free
    exact free
  constructor
  · intro place target
    have known := tidy.known place target
    change ((bureau.desk.setQuery id next).savesAt place).count target =
      ((bureau.saving ++ [(owner, task)]).map (·.2.destination)).count (place, target)
    rw [stands, List.map_append, List.count_append, List.map_singleton, List.count_singleton]
    change _ = bureau.destinations.count (place, target) + _
    rw [← known]
    by_cases here : place = task.place
    · rw [if_pos here, here, List.count_cons]
      simp [SaveTask.destination]
    · have apart : task.destination ≠ (place, target) :=
        fun same => here (congrArg Prod.fst same).symm
      rw [if_neg here, if_neg (by simpa using apart), Nat.add_zero]
  · change ((bureau.saving ++ [(owner, task)]).map (·.2.destination)).Nodup
    rw [List.map_append, List.map_singleton, List.nodup_append]
    refine ⟨tidy.once, by simp, ?_⟩
    intro destination before last member same
    rw [List.mem_singleton.mp member] at same
    exact new (same ▸ before)
  · intro entry member
    rcases List.mem_append.mp member with before | last
    · exact completes (tidy.complete entry before)
    · cases List.mem_singleton.mp last
      have isComplete := Query.completeAt_eq_true.mpr ⟨result, there, complete⟩
      exact completes (Desk.completeAt_eq_true.mpr ⟨query, found, isComplete⟩)

/-- Once a save has been written, well or not, its result knows nothing of it any more. -/
theorem writes {owner : String} {place : Nat} {task : SaveTask} (tidy : bureau.Tidy)
    (numbered : ∀ query, bureau.desk.queries[task.queryId]? = some query → query.Numbered)
    (accepted : (bureau.savingOf owner)[place]? = some task) :
    (bureau.write owner task).2.Tidy ∧
      (bureau.write owner task).2.desk.completeAt task.place = true ∧
      bureau.destinations.Perm (task.destination :: (bureau.write owner task).2.destinations) := by
  have member : (owner, task) ∈ bureau.saving := by
    obtain ⟨⟨asker, found⟩, entry, same⟩ := List.mem_map.mp (List.mem_of_getElem? accepted)
    obtain ⟨inside, named⟩ := List.mem_filter.mp entry
    obtain rfl : asker = owner := of_decide_eq_true named
    obtain rfl : found = task := same
    exact inside
  -- One entry goes, so just the count of its own destination is less by one.
  have left : (bureau.saving.map (·.2.destination)).Perm
      (((owner, task) :: bureau.saving.erase (owner, task)).map (·.2.destination)) :=
    (List.perm_cons_erase member).map _
  obtain ⟨query, found, -⟩ := Desk.completeAt_eq_true.mp (tidy.complete _ member)
  change bureau.desk.queries[task.queryId]? = some query at found
  have desk : (bureau.write owner task).2.desk = bureau.desk.setQuery task.queryId
      (query.runSave bureau.tree task.batchId task.resultId task.request).2.1 :=
    Desk.runSave_of_found bureau.tree found
  have completes {place : QueryId × Nat × Nat} (before : bureau.desk.completeAt place = true) :
      (bureau.write owner task).2.desk.completeAt place = true := by
    rw [desk]
    exact Desk.completeAt_setQuery found
      (Query.completeAt_runSave bureau.tree (numbered query found) _ _ _) before
  refine ⟨⟨?_, (left.nodup_iff.mp tidy.once).of_cons, ?_⟩, completes (tidy.complete _ member), left⟩
  · intro place target
    have known : _ = (bureau.saving.map (·.2.destination)).count (place, target) :=
      tidy.known place target
    have one := left.count_eq (place, target)
    rw [List.map_cons, List.count_cons] at one
    change ((bureau.write owner task).2.desk.savesAt place).count target =
      ((bureau.saving.erase (owner, task)).map (·.2.destination)).count (place, target)
    have stands : (bureau.write owner task).2.desk.savesAt place =
        if place = task.place then (bureau.desk.savesAt place).erase task.destination.2
        else bureau.desk.savesAt place := by
      rw [desk]
      exact Desk.savesAt_setQuery (·.erase task.destination.2) found
        (Query.savesAt_runSave bureau.tree (numbered query found) task.batchId task.resultId
          task.request) place
    rw [stands]
    by_cases here : place = task.place
    · rw [if_pos here, List.count_erase, known, one, here]
      simp [SaveTask.destination]
    · have apart : task.destination ≠ (place, target) :=
        fun same => here (congrArg Prod.fst same).symm
      rw [if_neg here, known, one, if_neg (by simpa using apart), Nat.add_zero]
  · intro entry inside
    exact completes (tidy.complete entry (List.mem_of_mem_erase inside))

end Tidy

theorem tidy_opened (host : η) (maker : StoreMaker) (defaults : Settings) (tree : FileTree) :
    (opened host maker defaults tree).Tidy where
  known place target := by simp [opened, Office.opened, Desk.empty, Desk.savesAt, destinations]
  once := List.nodup_nil
  complete entry member := by cases member

variable [Host η]

theorem Tidy.perform {bureau : Bureau η} (regular : bureau.Regular) (tidy : bureau.Tidy)
    (deed : Deed η) : (bureau.perform deed).2.Tidy := by
  have numbered {id : QueryId} {query : Query} (found : bureau.desk.queries[id]? = some query) :
      query.Numbered := (regular.sound.queries id query found).numbered
  have turn := bureau.turn deed
  revert turn
  generalize (bureau.perform deed).2 = next
  intro turn
  -- Saves come where they are asked for and go where they are written; all else spares them.
  cases turn with
  | idle => exact tidy
  | connects | disconnects | overrides | defaults | elsewhere =>
    exact tidy.of_spares (.of_queries rfl) rfl
  | offers made => exact tidy.of_spares (.create made) rfl
  | cancels owner => exact tidy.of_spares (.cancel _ owner) rfl
  | disposes disposed => exact tidy.of_spares (.dispose disposed) rfl
  | saves registered accepted =>
    have found := (Desk.query?_eq_some.mp registered).2
    exact tidy.accepts (numbered found) found accepted
  | @decides owner place id decision offered =>
    have same := (bureau.desk.queries_abandon owner id).1
    cases decision with
    | accept => exact tidy.of_spares (.of_queries rfl) rfl
    | abandon => exact tidy.of_spares (.of_queries same) rfl
    | decline => exact tidy.of_spares (.trans (.of_queries same) (.disposeQuery _ id)) rfl
  | runs now found accepted =>
    have there := (nth?_eq_some.mp found).2
    refine tidy.of_spares ?_ rfl
    exact .of_query there (Office.getElem?_advance now there)
      (Query.develops_advance now _ (numbered there) (regular.attends _ _ there)).1.spares
  | wishes found asked =>
    have there := (nth?_eq_some.mp found).2
    rcases asked with accepted | rfl
    · exact tidy.of_spares (.setQuery there (.cancel accepted)) rfl
    · exact tidy.of_spares (.setQuery there (.dispose _)) rfl
  | wishesSave found accepted =>
    have there := (nth?_eq_some.mp found).2
    exact tidy.accepts (numbered there) there accepted
  | writes accepted => exact (tidy.writes (fun _ found => numbered found) accepted).1
  | cancelsAll => exact tidy.of_spares (.cancels _ _) rfl
  | releasesAll =>
    exact tidy.of_spares (.trans (.disposes _ bureau.desk.registered) (.of_queries rfl)) rfl

theorem tidy_play (host : η) (maker : StoreMaker) (defaults : Settings) (tree : FileTree)
    (deeds : List (Deed η)) : (play deeds (opened host maker defaults tree)).2.Tidy := by
  have kept : (play deeds (opened host maker defaults tree)).2.Regular ∧
      (play deeds (opened host maker defaults tree)).2.Tidy := by
    apply play_preserves fun bureau => bureau.Regular ∧ bureau.Tidy
    case held => exact ⟨regular_opened host maker defaults tree, tidy_opened host maker defaults tree⟩
    rintro bureau deed ⟨regular, tidy⟩
    exact ⟨regular.perform deed, tidy.perform regular deed⟩
  exact kept.2

/-- A deed that asks to save a result, of the registered query of an owner or of one that somebody
holds. -/
inductive AsksSave (bureau : Bureau η) : Deed η → SaveTask → Prop where
  | registered {owner : String} {id : QueryId} {query : Query} {batchId resultId : Nat}
      {request : SaveRequest} (found : bureau.desk.query? owner = some (id, query)) :
      AsksSave bureau (.asks owner (.save batchId resultId request)) ⟨id, batchId, resultId, request⟩
  | held {owner : String} {place : Nat} {id : QueryId} {query : Query} {batchId resultId : Nat}
      {request : SaveRequest} (found : bureau.nth? owner place = some (id, query)) :
      AsksSave bureau (.wishes owner place (.save batchId resultId request))
        ⟨id, batchId, resultId, request⟩

theorem AsksSave.perform {bureau : Bureau η} {deed : Deed η} {task : SaveTask}
    (asks : bureau.AsksSave deed task) :
    ∃ owner query, bureau.desk.queries[task.queryId]? = some query ∧ bureau.perform deed =
      match query.beginSave task.batchId task.resultId task.request.path with
      | .error error => (.refused error, bureau)
      | .ok next =>
        (.done, { bureau.withDesk (bureau.desk.setQuery task.queryId next) with
          saving := bureau.saving ++ [(owner, task)] }) := by
  cases asks with
  | @held owner place id query batchId resultId request found =>
    refine ⟨owner, query, (nth?_eq_some.mp found).2, ?_⟩
    cases begun : query.beginSave batchId resultId request.path <;>
      simp [Bureau.perform, found, wish, begun]
  | @registered owner id query batchId resultId request found =>
    refine ⟨owner, query, (Desk.query?_eq_some.mp found).2, ?_⟩
    cases begun : query.beginSave batchId resultId request.path <;>
      simp [Bureau.perform, ask, Desk.beginSave, Desk.require, found, begun, Bind.bind, Except.bind,
        Pure.pure, Except.pure]

/-- A save of a complete result is refused while its destination is among those of the unwritten saves,
and only then. -/
theorem Tidy.answers {bureau : Bureau η} (tidy : bureau.Tidy) {deed : Deed η} {task : SaveTask}
    (asks : bureau.AsksSave deed task) (complete : bureau.desk.completeAt task.place = true) :
    (task.destination ∈ bureau.destinations ∧
      bureau.perform deed = (.refused (.resultSet (.saveInProgress task.request.path)), bureau)) ∨
    (task.destination ∉ bureau.destinations ∧ (bureau.perform deed).1 = .done ∧
      (bureau.perform deed).2.destinations = bureau.destinations ++ [task.destination]) := by
  obtain ⟨owner, query, found, performed⟩ := asks.perform
  have isComplete : query.completeAt task.batchId task.resultId = true := by
    obtain ⟨other, there, isComplete⟩ := Desk.completeAt_eq_true.mp complete
    cases found.symm.trans there
    exact isComplete
  have saves : bureau.desk.savesAt task.place = query.savesAt task.batchId task.resultId := by
    simp [Desk.savesAt, SaveTask.place, found]
  -- What the result knows of its saves is what is waiting for it.
  have busy_iff : FileTree.components task.request.path ∈ query.savesAt task.batchId task.resultId ↔
      task.destination ∈ bureau.destinations := by
    rw [← saves, tidy.mem_savesAt_iff]
    rfl
  rw [performed]
  rcases Query.beginSave_of_complete isComplete task.request.path with
    ⟨busy, refused⟩ | ⟨free, next, accepted⟩
  · rw [refused]
    exact .inl ⟨busy_iff.mp busy, rfl⟩
  · rw [accepted]
    refine .inr ⟨fun pending => free (busy_iff.mpr pending), rfl, ?_⟩
    simp [destinations]

/-- Whatever happens at a desk, one result never has two unwritten saves to one destination: a save is
refused, and nothing changes, while there is one, and accepted when there is none. Once a save has been
written, well or not, its destination is given free, and the next save to it is accepted. -/
theorem saves_of_a_result_are_apart (host : η) (maker : StoreMaker) (defaults : Settings)
    (tree : FileTree) (deeds : List (Deed η)) :
    let bureau := (play deeds (opened host maker defaults tree)).2
    bureau.destinations.Nodup ∧
      (∀ deed task, bureau.AsksSave deed task → bureau.desk.completeAt task.place = true →
        (task.destination ∈ bureau.destinations ∧ bureau.perform deed =
          (.refused (.resultSet (.saveInProgress task.request.path)), bureau)) ∨
        (task.destination ∉ bureau.destinations ∧ (bureau.perform deed).1 = .done ∧
          (bureau.perform deed).2.destinations = bureau.destinations ++ [task.destination])) ∧
      ∀ owner place task, (bureau.savingOf owner)[place]? = some task →
        ∃ outcome next, bureau.perform (.writes owner place) = (.written outcome, next) ∧
          bureau.destinations.Perm (task.destination :: next.destinations) ∧
          ∀ deed again, next.AsksSave deed again → again.destination = task.destination →
            (next.perform deed).1 = .done := by
  intro bureau
  have regular : bureau.Regular := regular_play host maker defaults tree deeds
  have tidy : bureau.Tidy := tidy_play host maker defaults tree deeds
  refine ⟨tidy.once, fun deed task asks complete => tidy.answers asks complete, ?_⟩
  intro owner place task accepted
  have numbered (query : Query) (found : bureau.desk.queries[task.queryId]? = some query) :=
    (regular.sound.queries task.queryId query found).numbered
  obtain ⟨later, complete, left⟩ := tidy.writes numbered accepted
  have performed : bureau.perform (.writes owner place) = bureau.write owner task := by
    simp only [perform, accepted]
  refine ⟨_, (bureau.write owner task).2, performed, left, ?_⟩
  intro deed again asks same
  have free : task.destination ∉ (bureau.write owner task).2.destinations :=
    (List.nodup_cons.mp (left.nodup_iff.mp tidy.once)).1
  have itsPlace : again.place = task.place := congrArg Prod.fst same
  rcases later.answers asks (itsPlace ▸ complete) with ⟨busy, -⟩ | ⟨-, done, -⟩
  · exact absurd (same ▸ busy) free
  · exact done

def twinSource : Array Replay :=
  #[⟨[[.result ⟨⟨[], false⟩, [.row [.int64 1]], none⟩,
    .result ⟨⟨[], false⟩, [.row [.int64 2]], none⟩]], []⟩]

def twinOpened : Bureau (Array Replay) := opened twinSource .memory .standard ⟨[], [], []⟩

def twinsRead : List (Deed (Array Replay)) :=
  [.asks "o" (.connect 0), .asks "o" (.execute "a" false false), .decides "o" 0 .accept] ++
    List.replicate 24 (.runs "o" 0 ⟨0, 0⟩)

def csvTo (path : String) : SaveRequest := ⟨path, .csv, none, none, none, none, true⟩

def savesTwin (resultId : Nat) : Deed (Array Replay) := .asks "o" (.save 0 resultId (csvTo "o.csv"))

/-- A save of the first result waits to be written. -/
def twinSaved : Bureau (Array Replay) := (play (twinsRead ++ [savesTwin 0]) twinOpened).2

theorem saves_of_a_result_are_apart_twin :
    (twinSaved.perform (savesTwin 0)).1 = .refused (.resultSet (.saveInProgress "o.csv")) := by
  obtain ⟨-, answers, -⟩ := saves_of_a_result_are_apart twinSource .memory .standard ⟨[], [], []⟩
    (twinsRead ++ [savesTwin 0])
  have registered : (twinSaved.desk.query? "o").map (·.1) = some 0 := by decide +kernel
  have complete : twinSaved.desk.completeAt (0, 0, 0) = true := by decide +kernel
  have saving : twinSaved.saving.map (·.2) = [⟨0, 0, 0, csvTo "o.csv"⟩] := by decide +kernel
  have pending : SaveTask.destination ⟨0, 0, 0, csvTo "o.csv"⟩ ∈ twinSaved.destinations := by
    have destinations : twinSaved.destinations =
        (twinSaved.saving.map (·.2)).map SaveTask.destination := by simp [Bureau.destinations]
    rw [destinations, saving]
    exact List.mem_cons_self
  obtain ⟨⟨id, query⟩, found, same⟩ := Option.map_eq_some_iff.mp registered
  cases same
  rcases answers (savesTwin 0) ⟨0, 0, 0, csvTo "o.csv"⟩ (.registered found) complete with
    ⟨-, refused⟩ | ⟨free, -⟩
  · exact congrArg Prod.fst refused
  · exact absurd pending free

/-- Two results are saved to one path at once. -/
theorem two_saves_to_one_path :
    ¬ ∀ deeds : List (Deed (Array Replay)), ((play deeds twinOpened).2.saving.map
      fun entry => FileTree.components entry.2.request.path).Nodup := by
  intro apart
  have once := apart (twinsRead ++ [savesTwin 0, savesTwin 1])
  have paths : (play (twinsRead ++ [savesTwin 0, savesTwin 1]) twinOpened).2.saving.map
      (·.2.request.path) = ["o.csv", "o.csv"] := by decide +kernel
  generalize (play (twinsRead ++ [savesTwin 0, savesTwin 1]) twinOpened).2.saving = saving
    at once paths
  have names : saving.map (fun entry => FileTree.components entry.2.request.path) =
      (saving.map (·.2.request.path)).map FileTree.components := by simp
  rw [names, paths] at once
  exact (List.nodup_cons.mp once).1 List.mem_cons_self

end Bureau

end SqlDesk
