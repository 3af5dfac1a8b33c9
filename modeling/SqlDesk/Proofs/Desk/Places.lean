import SqlDesk.Proofs.Desk.Bureau

/-! Queries are found again. A query keeps its place among the queries of its owner, whatever is done,
and the next query of the owner comes behind it. A deed takes a step of a query, or leaves it but for
what it is asked. -/

set_option autoImplicit false

namespace SqlDesk

namespace Bureau

variable {η : Type}

theorem nodup_idsOf (bureau : Bureau η) (owner : String) : (bureau.idsOf owner).Nodup :=
  List.nodup_range.filter _

theorem place_unique {bureau : Bureau η} {owner other : String} {place number : Nat} {id : QueryId}
    {query before : Query} (found : bureau.nth? owner place = some (id, query))
    (again : bureau.nth? other number = some (id, before)) : other = owner ∧ number = place := by
  obtain ⟨here, stands⟩ := nth?_eq_some.mp found
  obtain ⟨there, same⟩ := nth?_eq_some.mp again
  obtain rfl : query = before := Option.some.inj (stands.symm.trans same)
  obtain rfl : other = owner := (owner_of_nth? again).symm.trans (owner_of_nth? found)
  have inside := (List.getElem?_eq_some_iff.mp there).1
  exact ⟨rfl, (List.getElem?_inj inside (nodup_idsOf bureau other)).mp (there.trans here.symm)⟩

/-- Every query is still there, with its owner. -/
def Stays (before after : Bureau η) : Prop :=
  ∀ (id : QueryId) (query : Query), before.desk.queries[id]? = some query →
    ∃ next, after.desk.queries[id]? = some next ∧ next.owner = query.owner

namespace Stays

variable {before after : Bureau η}

theorem size_le (stays : before.Stays after) : before.desk.queries.size ≤ after.desk.queries.size := by
  by_contra more
  have inside : after.desk.queries.size < before.desk.queries.size := Nat.lt_of_not_le more
  obtain ⟨next, found, -⟩ := stays _ _ (Array.getElem?_eq_getElem inside)
  rw [Array.getElem?_size] at found
  cases found

theorem idsOf (stays : before.Stays after) (owner : String) :
    after.idsOf owner = before.idsOf owner ++
      (List.range' before.desk.queries.size
        (after.desk.queries.size - before.desk.queries.size)).filter fun id =>
          (after.desk.queries[id]?).any (·.owner = owner) := by
  -- The numbers now are those from before, and behind them the new ones.
  have numbers : List.range after.desk.queries.size = List.range before.desk.queries.size ++
      List.range' before.desk.queries.size (after.desk.queries.size - before.desk.queries.size) := by
    have split := @List.range'_append_1 0 before.desk.queries.size
      (after.desk.queries.size - before.desk.queries.size)
    rw [Nat.zero_add, Nat.add_sub_cancel' stays.size_le] at split
    rw [List.range_eq_range', List.range_eq_range', split]
  unfold Bureau.idsOf
  rw [numbers, List.filter_append]
  congr 1
  apply List.filter_congr
  intro id member
  have inside := List.mem_range.mp member
  obtain ⟨next, found, owned⟩ := stays id _ (Array.getElem?_eq_getElem inside)
  rw [found, Array.getElem?_eq_getElem inside]
  simp [owned]

theorem idsOf_of_size (stays : before.Stays after)
    (size : after.desk.queries.size = before.desk.queries.size) (owner : String) :
    after.idsOf owner = before.idsOf owner := by
  rw [stays.idsOf owner, size, Nat.sub_self]
  exact List.append_nil _

theorem idsOf_of_new (stays : before.Stays after)
    (size : after.desk.queries.size = before.desk.queries.size + 1) {query : Query}
    (new : after.desk.queries[before.desk.queries.size]? = some query) (owner : String) :
    after.idsOf owner =
      before.idsOf owner ++ if query.owner = owner then [before.desk.queries.size] else [] := by
  rw [stays.idsOf owner, size, Nat.add_sub_cancel_left, List.range'_one]
  congr 1
  by_cases owned : query.owner = owner <;> simp [new, owned]

theorem nth? (stays : before.Stays after) {owner : String} {place : Nat} {id : QueryId}
    {query : Query} (found : before.nth? owner place = some (id, query)) :
    ∃ next, after.nth? owner place = some (id, next) := by
  obtain ⟨number, stands⟩ := nth?_eq_some.mp found
  obtain ⟨next, there, -⟩ := stays id query stands
  refine ⟨next, nth?_eq_some.mpr ⟨?_, there⟩⟩
  rw [stays.idsOf owner]
  exact List.getElem?_append_left (List.getElem?_eq_some_iff.mp number).1 ▸ number

end Stays

variable [Host η]

theorem stays_perform (bureau : Bureau η) (sound : bureau.office.Sound) (deed : Deed η) :
    bureau.Stays (bureau.perform deed).2 := by
  intro id query found
  obtain ⟨next, there, keeps, -⟩ := (bureau.course_perform deed).stays sound found
  exact ⟨next, there, keeps.owner⟩

theorem perform_execute {bureau : Bureau η} {owner text : String} {actual estimated : Bool}
    (done : (bureau.perform (.asks owner (.execute text actual estimated))).1 = .done) :
    ∃ id desk, bureau.desk.create ⟨owner, text, actual, estimated⟩ = .ok (id, desk) ∧
      (bureau.perform (.asks owner (.execute text actual estimated))).2 = { bureau with
        office := { bureau.office with desk, offered := bureau.office.offered ++ [(owner, id)] } } := by
  simp only [perform, ask] at done ⊢
  cases made : bureau.desk.create ⟨owner, text, actual, estimated⟩ with
  | error error =>
    rw [made] at done
    cases done
  | ok offer => exact ⟨offer.1, offer.2, rfl, rfl⟩

theorem nth?_execute {bureau : Bureau η} (sound : bureau.office.Sound) {owner text : String}
    {actual estimated : Bool}
    (done : (bureau.perform (.asks owner (.execute text actual estimated))).1 = .done) :
    ∃ connection id, bureau.desk.connection? owner = some connection ∧
      (bureau.perform (.asks owner (.execute text actual estimated))).2.nth? owner
        (bureau.idsOf owner).length = some (id, .create owner text connection
          (bureau.desk.settingsFor owner actual estimated)) := by
  have stays := bureau.stays_perform sound (.asks owner (.execute text actual estimated))
  obtain ⟨id, desk, made, next⟩ := perform_execute done
  obtain ⟨connection, released, connected, freed, rfl, rfl⟩ := Desk.create_eq_ok made
  rw [next] at stays ⊢
  let query := Query.create owner text connection (bureau.desk.settingsFor owner actual estimated)
  -- Making room removes no number, so the new query gets the next one.
  have size : released.queries.size = bureau.desk.queries.size :=
    (Desk.kept_release sound.keys freed).size
  have enrolled : (released.queries.push query).size = bureau.desk.queries.size + 1 := by
    rw [Array.size_push, size]
  have new : (released.queries.push query)[bureau.desk.queries.size]? = some query := by
    rw [← size]
    exact Array.getElem?_push_size
  refine ⟨connection, bureau.desk.queries.size, connected, nth?_eq_some.mpr ⟨?_, new⟩⟩
  have owned : query.owner = owner := rfl
  rw [stays.idsOf_of_new enrolled new owner, if_pos owned]
  exact List.getElem?_concat_length

/-! Steps of one query. -/

theorem perform_of_accepted {bureau : Bureau η} {owner : String} {place : Nat} {id : QueryId}
    {query : Query} (found : bureau.nth? owner place = some (id, query))
    (accepted : id ∈ bureau.desk.accepted) (now : Instant) :
    bureau.perform (.runs owner place now) = bureau.run now id query := by
  simp only [perform, found, if_pos accepted]

theorem nth?_run {bureau : Bureau η} {owner : String} {place : Nat} {id : QueryId} {query : Query}
    (found : bureau.nth? owner place = some (id, query)) (sound : bureau.office.Sound)
    (accepted : id ∈ bureau.desk.accepted) (now : Instant) :
    (bureau.run now id query).2.nth? owner place =
      some (id, (query.advance now bureau.desk.world).2.1) := by
  have stays := bureau.stays_perform sound (.runs owner place now)
  rw [perform_of_accepted found accepted] at stays
  obtain ⟨next, there⟩ := stays.nth? found
  have stands := Office.getElem?_advance now (nth?_eq_some.mp found).2 id
  rw [if_pos rfl] at stands
  have same : (bureau.run now id query).2.desk.queries[id]? = some next := (nth?_eq_some.mp there).2
  rw [there, Option.some.inj (same.symm.trans stands)]

theorem run_answer (bureau : Bureau η) (now : Instant) (id : QueryId) (query : Query)
    {new : List Submission} (submitted :
      (query.advance now bureau.desk.world).1.host.submissions = bureau.submissions ++ new) :
    (bureau.run now id query).1 =
      .ran ((query.advance now bureau.desk.world).2.2.map (Event.mk query.owner)) new := by
  change Answer.ran _ ((query.advance now bureau.desk.world).1.host.submissions.drop _) = _
  rw [submitted, List.drop_left]
  simp only [Office.told_advance, List.drop_left, List.map_map]
  rfl

def Deed.isRunOf (owner : String) (place : Nat) : Deed η → Bool
  | runs asker number _ => asker = owner ∧ number = place
  | _ => false

/-- What a deed makes of a query: it takes a step of it, or leaves it but for what it is asked. -/
theorem fares {bureau : Bureau η} (sound : bureau.office.Sound) (deed : Deed η) {owner : String}
    {place : Nat} {id : QueryId} {query : Query}
    (found : bureau.nth? owner place = some (id, query)) :
    (∃ now, deed = .runs owner place now ∧ id ∈ bureau.desk.accepted) ∨
      (deed.isRunOf owner place = true → (bureau.perform deed).1 = .nothing) ∧
      ∃ next, (bureau.perform deed).2.nth? owner place = some (id, next) ∧
        Relation.ReflTransGen Query.Asked query next := by
  -- Whatever is no step of this query leaves it, or asks it something.
  by_cases steps : ∃ now, deed = .runs owner place now ∧ id ∈ bureau.desk.accepted
  · exact .inl steps
  · refine .inr ⟨fun isRun => ?_, ?_⟩
    · cases deed with
      | runs asker number now =>
        obtain ⟨rfl, rfl⟩ : asker = owner ∧ number = place := of_decide_eq_true isRun
        have unaccepted : id ∉ bureau.desk.accepted := fun accepted => steps ⟨now, rfl, accepted⟩
        simp only [perform, found, if_neg unaccepted]
      | _ => cases isRun
    · obtain ⟨next, there⟩ := (bureau.stays_perform sound deed).nth? found
      have stands := (nth?_eq_some.mp found).2
      refine ⟨next, there, ?_⟩
      cases bureau.becomes sound deed (nth?_eq_some.mp there).2 with
      | asked before asked =>
        cases stands.symm.trans before
        exact asked
      | @advanced asker number now _ runs before accepted =>
        obtain ⟨rfl, rfl⟩ := place_unique found before
        exact absurd ⟨now, runs, accepted⟩ steps
      | made _ _ new =>
        rw [new, Array.getElem?_size] at stands
        cases stands

end Bureau

end SqlDesk
