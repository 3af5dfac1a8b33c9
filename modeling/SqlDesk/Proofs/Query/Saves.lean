import SqlDesk.Desk.Service
import SqlDesk.Proofs.Query.Results

/-! Which saves the results of a query know of. A result keeps the destinations of the saves that it
has accepted and that have not been written. Only accepting and writing a save change them, and a
result that is complete stays so. -/

set_option autoImplicit false

namespace SqlDesk

theorem ResultSet.Develops.spares {options : ReadOptions} {result next : ResultSet}
    {told : List ResultEvent} (develops : result.Develops options next told) :
    next.saves = result.saves ∧ (result.complete = true → next.complete = true) := by
  cases develops with
  | rests => exact ⟨rfl, fun complete => complete⟩
  | ends => exact ⟨rfl, fun _ => rfl⟩
  | grows => exact ⟨rfl, fun complete => complete⟩

namespace Query

/-- Destinations of the saves under way of a result, by the numbers of its batch and of itself; a
result that is not there has none. -/
def savesAt (query : Query) (batchId resultId : Nat) : List (List String) :=
  (query.resultAt batchId resultId).elim [] ResultSet.saves

def completeAt (query : Query) (batchId resultId : Nat) : Bool :=
  (query.resultAt batchId resultId).any ResultSet.complete

theorem savesAt_of_resultAt {query : Query} {batchId resultId : Nat} {result : ResultSet}
    (found : query.resultAt batchId resultId = some result) :
    query.savesAt batchId resultId = result.saves := by
  rw [savesAt, found]
  rfl

theorem completeAt_eq_true {query : Query} {batchId resultId : Nat} :
    query.completeAt batchId resultId = true ↔
      ∃ result, query.resultAt batchId resultId = some result ∧ result.complete = true := by
  simp only [completeAt, Option.any_eq_true]

structure Spares (before after : Query) : Prop where
  saves : ∀ batchId resultId, after.savesAt batchId resultId = before.savesAt batchId resultId
  complete : ∀ batchId resultId, before.completeAt batchId resultId = true →
    after.completeAt batchId resultId = true

theorem Spares.of_resultAt {before after : Query}
    (same : ∀ batchId resultId, after.resultAt batchId resultId = before.resultAt batchId resultId) :
    before.Spares after where
  saves batchId resultId := by rw [savesAt, savesAt, same]
  complete batchId resultId complete := by rwa [completeAt, same]

theorem Spares.of_change {before after : Query} {index number : Nat} {later : ResultSet}
    (stands : ∀ batchId resultId, after.resultAt batchId resultId =
      if batchId = index ∧ resultId = number then some later
      else before.resultAt batchId resultId)
    (saves : later.saves = before.savesAt index number)
    (complete : before.completeAt index number = true → later.complete = true) :
    before.Spares after := by
  constructor
  · intro batchId resultId
    rw [savesAt, stands]
    split
    · rename_i here
      rw [here.1, here.2]
      exact saves
    · rfl
  · intro batchId resultId
    rw [completeAt, completeAt, stands]
    split
    · rename_i here
      rw [here.1, here.2]
      exact complete
    · exact id

theorem Develops.spares {query next : Query} {told : List Happening}
    (develops : query.Develops next told) : query.Spares next := by
  cases develops with
  | rests same => exact .of_resultAt same
  | begins index number header vacant empty after =>
    refine .of_change after ?_ ?_
    · rw [savesAt, vacant]
      rfl
    · rw [completeAt, vacant]
      nofun
  | reads index number found develops after =>
    obtain ⟨saves, complete⟩ := develops.spares
    refine .of_change after ?_ ?_
    · rw [savesAt_of_resultAt found, saves]
    · rw [completeAt, found]
      exact complete

theorem resultAt_dispose (query : Query) (batchId resultId : Nat) :
    query.dispose.resultAt batchId resultId =
      (query.resultAt batchId resultId).map ResultSet.close := by
  have batches : query.dispose.batches = (query.mapResults ResultSet.close).batches := rfl
  rw [resultAt_of_batches batches, resultAt_mapResults]

theorem Spares.dispose (query : Query) : query.Spares query.dispose := by
  constructor
  · intro batchId resultId
    rw [savesAt, savesAt, resultAt_dispose]
    cases query.resultAt batchId resultId <;> rfl
  · intro batchId resultId
    rw [completeAt, completeAt, resultAt_dispose]
    cases query.resultAt batchId resultId <;> exact id

theorem Spares.cancel {query next : Query} (accepted : query.cancel = .ok next) :
    query.Spares next := by
  unfold Query.cancel at accepted
  split at accepted <;> cases accepted
  exact .of_resultAt fun _ _ => rfl

/-! Saves of one result. -/

theorem resultAt_setResult {query : Query} (numbered : query.Numbered) {batchId resultId : Nat}
    {result : ResultSet} (next : ResultSet) (found : query.resultAt batchId resultId = some result)
    (key : next.store.key = result.store.key) (otherBatch otherResult : Nat) :
    (query.setResult next).resultAt otherBatch otherResult =
      if otherBatch = batchId ∧ otherResult = resultId then some next
      else query.resultAt otherBatch otherResult := by
  -- The result is put where its key says, and that is the place at which it was found.
  obtain ⟨batchIs, resultIs⟩ := numbered.resultAt found
  rw [ResultSet.batchId, ← key] at batchIs
  rw [ResultSet.id, ← key] at resultIs
  obtain ⟨batch, there, inner⟩ := Option.bind_eq_some_iff.mp found
  have batches : (query.setResult next).batches =
      query.batches.set batchId { batch with results := batch.results.set resultId next } := by
    unfold setResult
    rw [ResultSet.batchId, batchIs, there]
    simp only [setBatch, Batch.setResult, ResultSet.id, resultIs, (numbered batchId batch there).1]
  rw [resultAt_set there batches]
  by_cases sameBatch : otherBatch = batchId
  · subst sameBatch
    rw [if_pos rfl, resultAt, there]
    by_cases sameResult : otherResult = resultId
    · subst sameResult
      rw [if_pos ⟨rfl, rfl⟩]
      exact List.getElem?_set_self (List.getElem?_eq_some_iff.mp inner).1
    · rw [if_neg fun both => sameResult both.2]
      exact List.getElem?_set_ne (Ne.symm sameResult)
  · rw [if_neg sameBatch, if_neg fun both => sameBatch both.1]

theorem savesAt_setResult {query : Query} (numbered : query.Numbered) {batchId resultId : Nat}
    {result : ResultSet} (next : ResultSet) (found : query.resultAt batchId resultId = some result)
    (key : next.store.key = result.store.key) (otherBatch otherResult : Nat) :
    (query.setResult next).savesAt otherBatch otherResult =
      if otherBatch = batchId ∧ otherResult = resultId then next.saves
      else query.savesAt otherBatch otherResult := by
  rw [savesAt, resultAt_setResult numbered next found key]
  split <;> rfl

theorem completeAt_setResult {query : Query} (numbered : query.Numbered) {batchId resultId : Nat}
    {result : ResultSet} (next : ResultSet) (found : query.resultAt batchId resultId = some result)
    (key : next.store.key = result.store.key) (complete : next.complete = result.complete)
    {otherBatch otherResult : Nat} (before : query.completeAt otherBatch otherResult = true) :
    (query.setResult next).completeAt otherBatch otherResult = true := by
  rw [completeAt, resultAt_setResult numbered next found key]
  split
  · rename_i here
    rw [here.1, here.2, completeAt, found] at before
    exact complete.trans before
  · exact before

theorem beginSave_eq_ok {query next : Query} {batchId resultId : Nat} {path : String}
    (accepted : query.beginSave batchId resultId path = .ok next) :
    ∃ result, query.resultAt batchId resultId = some result ∧ result.complete = true ∧
      FileTree.components path ∉ result.saves ∧
      next = query.setResult { result with saves := FileTree.components path :: result.saves } := by
  unfold Query.beginSave at accepted
  split at accepted
  · cases accepted
  · rename_i result found
    split at accepted
    · cases accepted
    · rename_i begun beginning
      cases accepted
      unfold ResultSet.beginSave at beginning
      split at beginning
      · cases beginning
      · rename_i complete
        split at beginning
        · cases beginning
        · rename_i free
          cases beginning
          exact ⟨result, resultAt_eq_some.mpr found, by simpa using complete,
            by simpa [ResultSet.isSavingTo] using free, rfl⟩

/-- What a complete result answers to a save depends only on the saves that are under way. -/
theorem beginSave_of_complete {query : Query} {batchId resultId : Nat}
    (complete : query.completeAt batchId resultId = true) (path : String) :
    (FileTree.components path ∈ query.savesAt batchId resultId ∧
      query.beginSave batchId resultId path = .error (.resultSet (.saveInProgress path))) ∨
    (FileTree.components path ∉ query.savesAt batchId resultId ∧
      ∃ next, query.beginSave batchId resultId path = .ok next) := by
  obtain ⟨result, there, complete⟩ := completeAt_eq_true.mp complete
  have found := resultAt_eq_some.mp there
  rw [savesAt_of_resultAt there]
  unfold Query.beginSave ResultSet.beginSave ResultSet.isSavingTo
  by_cases busy : FileTree.components path ∈ result.saves
  · exact .inl ⟨busy, by simp [found, complete, busy]⟩
  · exact .inr ⟨busy, by simp [found, complete, busy]⟩

theorem savesAt_beginSave {query next : Query} (numbered : query.Numbered) {batchId resultId : Nat}
    {path : String} (accepted : query.beginSave batchId resultId path = .ok next)
    (otherBatch otherResult : Nat) :
    next.savesAt otherBatch otherResult =
      if otherBatch = batchId ∧ otherResult = resultId then
        FileTree.components path :: query.savesAt otherBatch otherResult
      else query.savesAt otherBatch otherResult := by
  obtain ⟨result, found, -, -, rfl⟩ := beginSave_eq_ok accepted
  let begun : ResultSet := { result with saves := FileTree.components path :: result.saves }
  refine (savesAt_setResult numbered begun found rfl otherBatch otherResult).trans ?_
  split
  · rename_i here
    rw [here.1, here.2, savesAt_of_resultAt found]
  · rfl

theorem completeAt_beginSave {query next : Query} (numbered : query.Numbered)
    {batchId resultId : Nat} {path : String}
    (accepted : query.beginSave batchId resultId path = .ok next) {otherBatch otherResult : Nat}
    (complete : query.completeAt otherBatch otherResult = true) :
    next.completeAt otherBatch otherResult = true := by
  obtain ⟨result, found, -, -, rfl⟩ := beginSave_eq_ok accepted
  let begun : ResultSet := { result with saves := FileTree.components path :: result.saves }
  exact completeAt_setResult numbered begun found rfl rfl complete

theorem runSave_of_resultAt (tree : FileTree) {query : Query} {batchId resultId : Nat}
    {result : ResultSet} (found : query.resultAt batchId resultId = some result)
    (request : SaveRequest) :
    query.runSave tree batchId resultId request =
      ((Export.write tree result request).1, query.setResult (result.endSave request.path),
        (Export.write tree result request).2) := by
  rw [runSave, resultAt_eq_some.mp found]

theorem runSave_of_missing (tree : FileTree) {query : Query} {batchId resultId : Nat}
    (missing : query.resultAt batchId resultId = none) (request : SaveRequest) :
    query.runSave tree batchId resultId request = (tree, query, .error .notComplete) := by
  unfold runSave
  split
  · rfl
  · rename_i found
    rw [resultAt_eq_some.mpr found] at missing
    cases missing

theorem savesAt_runSave (tree : FileTree) {query : Query} (numbered : query.Numbered)
    (batchId resultId : Nat) (request : SaveRequest) (otherBatch otherResult : Nat) :
    (query.runSave tree batchId resultId request).2.1.savesAt otherBatch otherResult =
      if otherBatch = batchId ∧ otherResult = resultId then
        (query.savesAt otherBatch otherResult).erase (FileTree.components request.path)
      else query.savesAt otherBatch otherResult := by
  cases there : query.resultAt batchId resultId with
  | none =>
    rw [runSave_of_missing tree there]
    split
    · rename_i here
      rw [here.1, here.2, savesAt, there]
      rfl
    · rfl
  | some result =>
    let ended := result.endSave request.path
    rw [runSave_of_resultAt tree there]
    refine (savesAt_setResult numbered ended there rfl otherBatch otherResult).trans ?_
    split
    · rename_i here
      rw [here.1, here.2, savesAt_of_resultAt there]
      rfl
    · rfl

theorem completeAt_runSave (tree : FileTree) {query : Query} (numbered : query.Numbered)
    (batchId resultId : Nat) (request : SaveRequest) {otherBatch otherResult : Nat}
    (complete : query.completeAt otherBatch otherResult = true) :
    (query.runSave tree batchId resultId request).2.1.completeAt otherBatch otherResult = true := by
  cases there : query.resultAt batchId resultId with
  | none =>
    rw [runSave_of_missing tree there]
    exact complete
  | some result =>
    rw [runSave_of_resultAt tree there]
    exact completeAt_setResult numbered (result.endSave request.path) there rfl rfl complete

end Query

end SqlDesk
