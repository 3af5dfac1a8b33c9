import SqlDesk.Proofs.Batch.Turn
import SqlDesk.Proofs.Reading.Turn
import SqlDesk.Proofs.Store.Contents

/-! A result carries its place: the store of the result at a place of a batch has the key of that
place. Steps of a reading keep the key, so the batch finds the result again that it is reading, and
a new result gets the key of the place where it is put. -/

set_option autoImplicit false

namespace SqlDesk

theorem RowStore.key_of_append {store next : RowStore} {row : Row}
    (appended : store.append row = .ok next) : next.key = store.key := by
  unfold append at appended
  split at appended
  · cases appended
  · split at appended <;> cases appended
    rfl

theorem RowStore.published_of_append {store next : RowStore} {row : Row}
    (appended : store.append row = .ok next) : next.published = store.published + 1 := by
  unfold append at appended
  split at appended
  · cases appended
  · split at appended <;> cases appended
    rfl

theorem Reading.ensures_key (options : ReadOptions) (cancelled : Bool) (reading : Reading) :
    (reading.step options cancelled).Ensures
      (fun next _ => next.result.store.key = reading.result.store.key)
      (fun done _ => done.result.store.key = reading.result.store.key) := by
  have turn := reading.turn options cancelled
  generalize reading.step options cancelled = progress at turn
  cases turn with
  | stored _ _ _ _ appended => exact RowStore.key_of_append appended
  | _ => rfl

namespace Batch

def Numbered (batch : Batch) : Prop :=
  ∀ (place : Nat) (result : ResultSet), batch.results[place]? = some result →
    result.store.key = ⟨batch.owner, batch.id, place⟩

theorem Numbered.last {batch : Batch} (numbered : batch.Numbered) {earlier : List ResultSet}
    {result : ResultSet} (results : batch.results = earlier ++ [result]) :
    result.store.key = ⟨batch.owner, batch.id, earlier.length⟩ :=
  numbered earlier.length result (by simp [results])

theorem results_setResult {batch : Batch} (numbered : batch.Numbered) {earlier : List ResultSet}
    {result next : ResultSet} (results : batch.results = earlier ++ [result])
    (sameKey : next.store.key = result.store.key) :
    (batch.setResult next).results = earlier ++ [next] := by
  have place : next.id = earlier.length := by
    rw [ResultSet.id, sameKey, numbered.last results]
  simp [setResult, results, place]

theorem numbered_append {batch : Batch} {earlier : List ResultSet} {result next : ResultSet}
    (numbered : batch.Numbered) (results : batch.results = earlier ++ [result])
    (sameKey : next.store.key = result.store.key) :
    Numbered { batch with results := earlier ++ [next] } := by
  intro place found there
  -- In front of the last place the results are those from before.
  by_cases inside : place < earlier.length
  · have before : batch.results[place]? = some found := by
      rw [results, List.getElem?_append_left inside]
      rwa [List.getElem?_append_left inside] at there
    exact numbered place found before
  · rw [List.getElem?_append_right (Nat.le_of_not_lt inside), List.getElem?_singleton] at there
    split at there
    · rename_i final
      cases there
      have last : place = earlier.length := by omega
      rw [last, sameKey]
      exact numbered.last results
    · cases there

theorem numbered_setResult {batch : Batch} (numbered : batch.Numbered) {result next : ResultSet}
    (last : batch.results.getLast? = some result)
    (sameKey : next.store.key = result.store.key) : (batch.setResult next).Numbered := by
  obtain ⟨earlier, results⟩ := List.getLast?_eq_some_iff.mp last
  have same : batch.setResult next = { batch with results := earlier ++ [next] } := by
    rw [← results_setResult numbered results sameKey]
    rfl
  rw [same]
  exact numbered_append numbered results sameKey

theorem numbered_create {batch : Batch} (numbered : batch.Numbered) {maker : StoreMaker}
    {store : RowStore} (made : (maker.create batch.nextKey).1 = .ok store) (header : Header) :
    Numbered { batch with results := batch.results ++ [ResultSet.ofHeader store header] } := by
  intro place found there
  by_cases inside : place < batch.results.length
  · rw [List.getElem?_append_left inside] at there
    exact numbered place found there
  · rw [List.getElem?_append_right (Nat.le_of_not_lt inside), List.getElem?_singleton] at there
    split at there
    · rename_i final
      cases there
      have last : place = batch.results.length := by omega
      rw [last]
      exact (StoreMaker.create_keeps made).2.2.1
    · cases there

end Batch

theorem BatchRun.ensures_numbered {η : Type} [Host η] (now : Instant) (cancelled : Bool)
    (world : World η) {run : BatchRun} (numbered : run.batch.Numbered) :
    (run.step now cancelled world).2.Ensures
      (fun next _ => next.batch.id = run.batch.id ∧ next.batch.owner = run.batch.owner ∧
        next.batch.Numbered)
      (fun done _ => done.batch.id = run.batch.id ∧ done.batch.owner = run.batch.owner ∧
        done.batch.Numbered) := by
  -- Only making a result and reading one touch the results; all other steps keep the batch.
  have turn := run.turn now cancelled world
  revert turn
  rcases run.step now cancelled world with ⟨later, progress⟩
  intro turn
  cases turn with
  | created _ made => exact ⟨rfl, rfl, Batch.numbered_create numbered made _⟩
  | read _ last =>
    refine Progress.ensures_mapEvent (Progress.ensures_within ?_)
    refine (Reading.ensures_key _ _ _).imp ?_ ?_
    · intro next _ sameKey
      exact ⟨rfl, rfl, Batch.numbered_setResult numbered last sameKey⟩
    · intro done _ sameKey
      exact ⟨rfl, rfl, Batch.numbered_setResult numbered last sameKey⟩
  | _ => exact ⟨rfl, rfl, numbered⟩

end SqlDesk
