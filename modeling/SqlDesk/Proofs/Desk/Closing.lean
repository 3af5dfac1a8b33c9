import SqlDesk.Proofs.Desk.Succession
import SqlDesk.Proofs.Desk.Turns

/-!
Shutting down. Registered queries are cancelled one after the other, then all that run are waited for,
and then those still registered are disposed of one after the other. All the while queries run, saves
are written, and others use the databases.

The three passes look at different queries: one that was disposed of is registered no more and may
still run, and one that was never accepted is registered and does not run. Every query that runs has
been stopped when the waiting begins, for it is registered or was stopped before; and every query that
was registered is closed when it is let go, and stays so, because nothing that is over goes on.
-/

set_option autoImplicit false

namespace SqlDesk

namespace Query

def Closed (query : Query) : Prop := ∀ result ∈ query.results, result.store.isOpen = false

theorem closed_dispose (query : Query) : query.dispose.Closed := by
  intro result member
  obtain ⟨closed, inside, within⟩ := List.mem_flatMap.mp member
  obtain ⟨batch, -, rfl⟩ := List.mem_map.mp inside
  obtain ⟨before, -, rfl⟩ := List.mem_map.mp within
  rfl

theorem Closed.runSave {query : Query} (closed : query.Closed) (numbered : query.Numbered)
    (tree : FileTree) (batchId resultId : Nat) (request : SaveRequest) :
    (query.runSave tree batchId resultId request).2.1.Closed := by
  -- A save changes the list of saves of a result, and no store.
  have stores (query : Query) :
      (query.mapResults ResultSet.unsaved).results.map ResultSet.store =
        query.results.map ResultSet.store := by
    have alike : ResultSet.store ∘ ResultSet.unsaved = ResultSet.store := rfl
    simp [results, mapResults, Batch.mapResults, List.flatMap_map, List.map_flatMap, alike]
  have same := congrArg (fun query : Query => query.results.map ResultSet.store)
    (unsaved_runSave tree numbered batchId resultId request)
  simp only [stores] at same
  intro result member
  have stored := List.mem_map_of_mem member (f := ResultSet.store)
  rw [same] at stored
  obtain ⟨before, inside, equal⟩ := List.mem_map.mp stored
  exact equal ▸ closed before inside

theorem Sound.told_once {query : Query} {told : List Happening} (sound : query.Sound told)
    (atEnd : query.Over) : told.countP Happening.isEnd = 1 := by
  obtain ⟨stories, summaries, rfl, -⟩ := sound.told_of_over atEnd
  have before : (stories.flatMap BatchStory.happenings).countP Happening.isEnd = 0 := by
    rw [List.countP_eq_zero]
    intro happening member
    simp [endless_stories stories happening member]
  rw [List.countP_append, before]
  rfl

end Query

namespace Desk

variable {η : Type}

def letGo (desk : Desk η) (owner : String) : Desk η :=
  match desk.dispose owner with
  | .ok next => next
  | .error _ => desk

theorem letGo_of_registered {desk : Desk η} {owner : String} {id : QueryId} {query : Query}
    (registered : desk.queryId? owner = some id) (found : desk.queries[id]? = some query) :
    desk.letGo owner = (desk.unregister owner).disposeQuery id := by
  have there := query?_eq_some.mpr ⟨registered, found⟩
  simp only [letGo, dispose, require, there]
  rfl

theorem letGo_of_vacant {desk : Desk η} {owner : String} (nothing : desk.queryId? owner = none) :
    desk.letGo owner = desk := by
  have vacant : desk.query? owner = none := by simp [query?, nothing]
  simp only [letGo, dispose, require, vacant]
  rfl

theorem accepted_letGo (desk : Desk η) (owner : String) :
    (desk.letGo owner).accepted = desk.accepted := by
  unfold letGo dispose require
  cases desk.query? owner <;> rfl

theorem found_disposeQuery {desk : Desk η} {number : QueryId} (id : QueryId)
    (found : ∃ query, desk.queries[number]? = some query) :
    ∃ query, (desk.disposeQuery id).queries[number]? = some query := by
  obtain ⟨query, there⟩ := found
  obtain ⟨after, stands, -⟩ := (desk.kept_disposeQuery id).stays there
  exact ⟨after, stands⟩

theorem disposes_unregistered (entries : List (String × QueryId)) (desk : Desk η)
    (registered : List (String × QueryId)) :
    entries.foldl (fun desk (_, id) => desk.disposeQuery id) { desk with registered } =
      { entries.foldl (fun desk (_, id) => desk.disposeQuery id) desk with registered } := by
  induction entries generalizing desk with
  | nil => rfl
  | cons entry rest ih => exact ih (desk.disposeQuery entry.2)

/-- Letting the queries of all owners go one after the other is letting all of them go. -/
theorem letGo_all {desk : Desk η} (keys : (desk.registered.map Prod.fst).Nodup)
    (found : ∀ entry ∈ desk.registered, ∃ query, desk.queries[entry.2]? = some query) :
    (desk.registered.map Prod.fst).foldl letGo desk = desk.releaseAll := by
  -- Each owner is at the head of the register when its turn comes, so one entry is left out a step.
  have go (entries : List (String × QueryId)) (desk : Desk η) (same : desk.registered = entries)
      (keys : (entries.map Prod.fst).Nodup)
      (found : ∀ entry ∈ entries, ∃ query, desk.queries[entry.2]? = some query) :
      (entries.map Prod.fst).foldl letGo desk =
        { entries.foldl (fun desk (_, id) => desk.disposeQuery id) desk with registered := [] } := by
    induction entries generalizing desk with
    | nil =>
      cases desk
      cases same
      rfl
    | cons entry rest ih =>
      obtain ⟨owner, id⟩ := entry
      obtain ⟨query, there⟩ := found (owner, id) List.mem_cons_self
      obtain ⟨fresh, others⟩ := List.nodup_cons.mp keys
      have registered : desk.queryId? owner = some id := by simp [queryId?, same]
      have left : unbind desk.registered owner = rest := by
        rw [same, unbind, List.filter_cons_of_neg (by simp), List.filter_eq_self]
        intro other member
        have apart : other.1 ≠ owner := fun equal =>
          fresh (List.mem_map.mpr ⟨other, member, equal⟩)
        simpa using apart
      have first : desk.letGo owner = { desk.disposeQuery id with registered := rest } := by
        rw [letGo_of_registered registered there, unregister, left]
        rfl
      have stay := ih { desk.disposeQuery id with registered := rest } rfl others fun other member =>
        found_disposeQuery id (found other (List.mem_cons_of_mem _ member))
      rw [disposes_unregistered] at stay
      rw [List.map_cons, List.foldl_cons, first, stay]
      rfl
  exact go desk.registered desk rfl keys found

end Desk

namespace Office

variable {η : Type}

inductive Pass where
  | cancelling (owners : List String)
  | joining
  /-- The queries of these owners are still to be let go. -/
  | releasing (owners : List String)
  | done

def Has (office : Office η) (id : QueryId) (property : Query → Prop) : Prop :=
  ∃ query, office.desk.queries[id]? = some query ∧ property query

variable [Host η]

inductive Shuts : Office η × Pass → Office η × Pass → Prop where
  | beside {office next : Office η} (pass : Pass) (beside : office.Beside next) :
      Shuts (office, pass) (next, pass)
  | cancels (office : Office η) (owner : String) (left : List String) :
      Shuts (office, .cancelling (owner :: left))
        ({ office with desk := (office.desk.cancel owner).2 }, .cancelling left)
  | cancelled (office : Office η) : Shuts (office, .cancelling []) (office, .joining)
  | joined {office : Office η} (ended : ∀ id ∈ office.desk.accepted, office.Has id Query.Over) :
      Shuts (office, .joining) (office, .releasing (office.desk.registered.map Prod.fst))
  | releases (office : Office η) (owner : String) (left : List String) :
      Shuts (office, .releasing (owner :: left))
        ({ office with desk := office.desk.letGo owner }, .releasing left)
  | released (office : Office η) : Shuts (office, .releasing []) (office, .done)

def Shutting : Office η × Pass → Office η × Pass → Prop := Relation.ReflTransGen Shuts

def closing (office : Office η) : Office η × Pass :=
  (office, .cancelling (office.desk.registered.map Prod.fst))

/-! ## What each step keeps -/

variable {start office next : Office η}

theorem Has.stopped_of_course {id : QueryId} (has : office.Has id Query.Stopped)
    (sound : office.Sound) (course : office.Course next) : next.Has id Query.Stopped := by
  obtain ⟨query, found, stopped⟩ := has
  obtain ⟨after, there, keeps, -⟩ := course.stays sound found
  exact ⟨after, there, keeps.stopped stopped⟩

theorem Has.over_of_course {id : QueryId} (has : office.Has id Query.Over) (sound : office.Sound)
    (course : office.Course next) : next.Has id Query.Over := by
  obtain ⟨query, found, atEnd⟩ := has
  obtain ⟨after, there, -, still⟩ := course.stays sound found
  exact ⟨after, there, still atEnd⟩

theorem course_letGo (office : Office η) (owner : String) :
    office.Course { office with desk := office.desk.letGo owner } := by
  unfold Desk.letGo
  cases disposed : office.desk.dispose owner with
  | ok next => exact .single (.handles (.disposes disposed))
  | error _ => exact .refl

theorem Shuts.course {before after : Office η × Pass} (shuts : Shuts before after) :
    before.1.Course after.1 ∧ after.1.desk.accepted = before.1.desk.accepted := by
  cases shuts with
  | beside pass beside => exact ⟨.single beside.next, beside.same.2⟩
  | cancels office owner =>
    exact ⟨.single (.handles (.cancels owner)), (office.desk.kept_cancel owner).accepted⟩
  | releases office owner => exact ⟨office.course_letGo owner, office.desk.accepted_letGo owner⟩
  | cancelled | joined | released => exact ⟨.refl, rfl⟩

/-- Every query that was registered is still to be cancelled or has been stopped. -/
structure Cancelling (start office : Office η) (left : List String) : Prop where
  registered : office.desk.registered = start.desk.registered
  stopped : ∀ owner id, (owner, id) ∈ start.desk.registered →
    owner ∈ left ∨ office.Has id Query.Stopped

/-- All that could run is over; every query that was registered is still to be let go or is closed. -/
structure Releasing (start office : Office η) (left : List String) : Prop where
  ended : ∀ id ∈ office.desk.accepted, office.Has id Query.Over
  listed : ∀ owner id, (owner, id) ∈ office.desk.registered → owner ∈ left
  closed : ∀ owner id, (owner, id) ∈ start.desk.registered →
    (owner, id) ∈ office.desk.registered ∨ office.Has id Query.Closed

theorem Cancelling.beside {left : List String} (cancelling : start.Cancelling office left)
    (sound : office.Sound) (beside : office.Beside next) : start.Cancelling next left where
  registered := beside.same.1.trans cancelling.registered
  stopped owner id member := (cancelling.stopped owner id member).imp_right fun has =>
    has.stopped_of_course sound (.single beside.next)

theorem Cancelling.cancels {owner : String} {left : List String}
    (cancelling : start.Cancelling office (owner :: left)) (sound : office.Sound) :
    start.Cancelling { office with desk := (office.desk.cancel owner).2 } left where
  registered := (office.desk.registered_cancel owner).trans cancelling.registered
  stopped other id member := by
    have course : office.Course { office with desk := (office.desk.cancel owner).2 } :=
      .single (.handles (.cancels owner))
    rcases cancelling.stopped other id member with listed | has
    · rcases List.mem_cons.mp listed with rfl | later
      · -- Its own query, which stands at its place before and after.
        have here : (other, id) ∈ office.desk.registered := cancelling.registered ▸ member
        obtain ⟨query, found, -⟩ := sound.registered other id here
        obtain ⟨after, there, -⟩ := course.stays sound found
        exact .inr ⟨after, there,
          Desk.stopped_cancel ((Desk.lookup_eq_some_iff sound.keys).mpr here) there⟩
      · exact .inl later
    · exact .inr (has.stopped_of_course sound course)

/-- Beside a shutdown that waits no more, no query goes on, and what is closed stays closed. -/
theorem Has.closed_beside {id : QueryId} (has : office.Has id Query.Closed) (sound : office.Sound)
    (ended : ∀ id ∈ office.desk.accepted, office.Has id Query.Over) (beside : office.Beside next) :
    next.Has id Query.Closed := by
  obtain ⟨query, found, closed⟩ := has
  cases beside with
  | elsewhere => exact ⟨query, found, closed⟩
  | @runs now other running accepted there =>
    -- Whatever may run is over, so its turn leaves it as it is.
    obtain ⟨same, stands, atEnd⟩ := ended other accepted
    cases there.symm.trans stands
    have stands := getElem?_advance now there id
    rw [atEnd.advance now office.desk.world] at stands
    by_cases here : other = id
    · subst here
      cases there.symm.trans found
      exact ⟨_, stands.trans (if_pos rfl), closed⟩
    · exact ⟨query, (stands.trans (if_neg here)).trans found, closed⟩
  | saved tree task =>
    unfold Has Desk.runSave
    cases there : office.desk.queries[task.queryId]? with
    | none => exact ⟨query, found, closed⟩
    | some saving =>
      simp only [Desk.getElem?_setQuery]
      by_cases here : task.queryId = id
      · rw [← here, there] at found
        cases found
        have inside := (Array.getElem?_eq_some_iff.mp there).1
        rw [if_pos ⟨here, inside⟩]
        exact ⟨_, rfl, closed.runSave (sound.queries _ _ there).numbered tree task.batchId
          task.resultId task.request⟩
      · rw [if_neg fun both => here both.1]
        exact ⟨query, found, closed⟩

theorem Releasing.beside {left : List String} (releasing : start.Releasing office left)
    (sound : office.Sound) (beside : office.Beside next) : start.Releasing next left where
  ended id accepted := (releasing.ended id (beside.same.2 ▸ accepted)).over_of_course sound
    (.single beside.next)
  listed owner id member := releasing.listed owner id (beside.same.1 ▸ member)
  closed owner id member := by
    rw [beside.same.1]
    exact (releasing.closed owner id member).imp_right fun has =>
      has.closed_beside sound releasing.ended beside

omit [Host η] in
theorem Releasing.passes {owner : String} {left : List String}
    (releasing : start.Releasing office (owner :: left)) (sound : office.Sound)
    (vacant : office.desk.queryId? owner = none) : start.Releasing office left where
  ended := releasing.ended
  listed other id member := by
    refine (List.mem_cons.mp (releasing.listed other id member)).resolve_left ?_
    rintro rfl
    have found := (Desk.lookup_eq_some_iff sound.keys).mpr member
    rw [← Desk.queryId?, vacant] at found
    cases found
  closed := releasing.closed

theorem Releasing.lets_go {owner : String} {left : List String}
    (releasing : start.Releasing office (owner :: left)) (sound : office.Sound) {number : QueryId}
    {query : Query} (registered : office.desk.queryId? owner = some number)
    (found : office.desk.queries[number]? = some query) :
    start.Releasing { office with desk := office.desk.letGo owner } left where
  ended id member := by
    rw [office.desk.accepted_letGo owner] at member
    exact (releasing.ended id member).over_of_course sound (office.course_letGo owner)
  listed other id member := by
    rw [Desk.letGo_of_registered registered found] at member
    obtain ⟨before, apart⟩ := Desk.mem_unbind.mp member
    exact (List.mem_cons.mp (releasing.listed other id before)).resolve_left apart
  closed other id member := by
    rw [Desk.letGo_of_registered registered found]
    -- One query is closed, and the entries left in the register are those of the other owners.
    have stands (id : QueryId) : ((office.desk.unregister owner).disposeQuery number).queries[id]? =
        if number = id then (office.desk.queries[id]?).map Query.dispose
        else office.desk.queries[id]? := Array.getElem?_modify
    rcases releasing.closed other id member with before | ⟨closed, there, isClosed⟩
    · by_cases own : other = owner
      · subst own
        have same := (Desk.lookup_eq_some_iff sound.keys).mpr before
        rw [← Desk.queryId?, registered] at same
        cases same
        refine .inr ⟨query.dispose, ?_, query.closed_dispose⟩
        exact (stands number).trans (by rw [if_pos rfl, found]; rfl)
      · exact .inl (Desk.mem_unbind.mpr ⟨before, own⟩)
    · by_cases here : number = id
      · subst here
        refine .inr ⟨closed.dispose, ?_, closed.closed_dispose⟩
        exact (stands number).trans (by rw [if_pos rfl, there]; rfl)
      · exact .inr ⟨closed, ((stands id).trans (if_neg here)).trans there, isClosed⟩

theorem Releasing.releases {owner : String} {left : List String}
    (releasing : start.Releasing office (owner :: left)) (sound : office.Sound) :
    start.Releasing { office with desk := office.desk.letGo owner } left := by
  cases registered : office.desk.queryId? owner with
  | none =>
    rw [Desk.letGo_of_vacant registered]
    exact releasing.passes sound registered
  | some number =>
    obtain ⟨query, found, -⟩ := sound.registered owner number
      ((Desk.lookup_eq_some_iff sound.keys).mp registered)
    exact releasing.lets_go sound registered found

def Nearing (start office : Office η) : Pass → Prop
  | .cancelling left => start.Cancelling office left
  | .joining => start.Cancelling office []
  | .releasing left => start.Releasing office left
  | .done => start.Releasing office []

theorem Shuts.nearing {before after : Office η × Pass} (shuts : Shuts before after)
    (sound : before.1.Sound) (nearing : start.Nearing before.1 before.2) :
    start.Nearing after.1 after.2 := by
  cases shuts with
  | beside pass beside =>
    cases pass with
    | cancelling | joining => exact Cancelling.beside nearing sound beside
    | releasing | done => exact Releasing.beside nearing sound beside
  | cancels office owner left => exact Cancelling.cancels nearing sound
  | cancelled | released => exact nearing
  | @joined office ended =>
    have cancelling : start.Cancelling office [] := nearing
    refine ⟨ended, fun owner id member => List.mem_map_of_mem member, fun owner id member => ?_⟩
    exact .inl (cancelling.registered ▸ member)
  | releases office owner left => exact Releasing.releases nearing sound

theorem Shutting.nearing {after : Office η × Pass} (sound : office.Sound)
    (shutting : Shutting office.closing after) :
    office.Course after.1 ∧ after.1.Sound ∧ after.1.desk.accepted = office.desk.accepted ∧
      office.Nearing after.1 after.2 := by
  induction shutting with
  | refl =>
    refine ⟨.refl, sound, rfl, rfl, fun owner id member => .inl (List.mem_map_of_mem member)⟩
  | tail _ shuts ih =>
    obtain ⟨course, sounds, accepted, nearing⟩ := ih
    obtain ⟨step, same⟩ := shuts.course
    exact ⟨course.trans step, step.sound sounds, same.trans accepted, shuts.nearing sounds nearing⟩

/-! ## Every shutdown can be brought to its end -/

omit [Host η] in
theorem Cancelling.all_stopped (cancelling : start.Cancelling office []) (sound : office.Sound) :
    ∀ id ∈ office.desk.accepted, office.Has id Query.Stopped := by
  intro id accepted
  obtain ⟨query, found⟩ := sound.accepted id accepted
  rcases sound.live id query found (.inl accepted) with registered | stopped
  · rw [cancelling.registered] at registered
    exact (cancelling.stopped query.owner id registered).resolve_left List.not_mem_nil
  · exact ⟨query, found, stopped⟩

theorem shutting_cancelling (office : Office η) (left : List String) :
    Shutting (office, .cancelling left)
      ({ office with desk := left.foldl (fun desk owner => (desk.cancel owner).2) office.desk },
        .joining) := by
  induction left generalizing office with
  | nil => exact .single (.cancelled office)
  | cons owner rest ih => exact .head (.cancels office owner rest) (ih _)

theorem shutting_releasing (office : Office η) (left : List String) :
    Shutting (office, .releasing left)
      ({ office with desk := left.foldl Desk.letGo office.desk }, .done) := by
  induction left generalizing office with
  | nil => exact .single (.released office)
  | cons owner rest ih => exact .head (.releases office owner rest) (ih _)

theorem shutting_joining (now : Instant) (sound : office.Sound)
    (stopped : ∀ id ∈ office.desk.accepted, office.Has id Query.Stopped) :
    Shutting (office, .joining) (office.settled now office.desk.accepted,
      .releasing (office.desk.registered.map Prod.fst)) := by
  have beside := beside_settled now sound fun id member => member
  obtain ⟨-, registered, accepted⟩ := same_of_beside beside
  have turns : Shutting (office, .joining) (office.settled now office.desk.accepted, .joining) :=
    beside.lift (·, Pass.joining) fun _ _ beside => .beside .joining beside
  have ended : ∀ id ∈ (office.settled now office.desk.accepted).desk.accepted,
      (office.settled now office.desk.accepted).Has id Query.Over := by
    rw [accepted]
    exact over_settled now sound office.desk.accepted fun id member => ⟨member, stopped id member⟩
  rw [← registered]
  exact turns.tail (.joined ended)

theorem Shutting.finishes {after : Office η × Pass} (sound : office.Sound)
    (shutting : Shutting office.closing after) : ∃ final, Shutting after (final, .done) := by
  obtain ⟨-, sounds, -, nearing⟩ := shutting.nearing sound
  obtain ⟨middle, pass⟩ := after
  have joins (office start : Office η) (sound : office.Sound)
      (cancelling : start.Cancelling office []) : ∃ final, Shutting (office, .joining) (final, .done) :=
    ⟨_, (shutting_joining ⟨0, 0⟩ sound (cancelling.all_stopped sound)).trans (shutting_releasing _ _)⟩
  -- Whichever pass it is in, the passes that remain can be gone through.
  cases pass with
  | done => exact ⟨middle, .refl⟩
  | releasing left => exact ⟨_, shutting_releasing middle left⟩
  | joining => exact joins middle office sounds nearing
  | cancelling left =>
    have cancels := shutting_cancelling middle left
    obtain ⟨-, stopped, -, cancelled⟩ := Shutting.nearing sound (shutting.trans cancels)
    obtain ⟨final, rest⟩ := joins _ office stopped cancelled
    exact ⟨final, cancels.trans rest⟩

theorem shutting_shutdown (now : Instant) (sound : office.Sound) :
    ∃ final, Shutting office.closing (final, .done) ∧ final.desk = (office.desk.shutdown now).1 ∧
      final.told.map Prod.snd = office.told.map Prod.snd ++ (office.desk.shutdown now).2 := by
  -- The three passes, each from the office that the one before it leaves.
  let stopped : Office η := { office with desk := office.desk.cancelAll }
  have cancels : Shutting office.closing (stopped, .joining) := by
    have each := shutting_cancelling office (office.desk.registered.map Prod.fst)
    rw [List.foldl_map] at each
    exact each
  obtain ⟨-, sounds, -, cancelled⟩ := cancels.nearing sound
  have joins : Shutting office.closing (stopped.settled now stopped.desk.accepted,
      .releasing (stopped.desk.registered.map Prod.fst)) :=
    cancels.trans (shutting_joining now sounds (Cancelling.all_stopped cancelled sounds))
  obtain ⟨-, settled, -, -⟩ := joins.nearing sound
  have releases := shutting_releasing (stopped.settled now stopped.desk.accepted)
    (stopped.desk.registered.map Prod.fst)
  obtain ⟨-, registered, -⟩ := same_of_beside
    (beside_settled now sounds fun id member => member)
  have letGo := Desk.letGo_all settled.keys fun entry member => by
    obtain ⟨query, found, -⟩ := settled.registered entry.1 entry.2 member
    exact ⟨query, found⟩
  rw [registered] at letGo
  obtain ⟨desk, events, all, heard⟩ := settled_eq now stopped stopped.desk.accepted []
  refine ⟨_, joins.trans releases, ?_, ?_⟩
  · exact letGo.trans (congrArg Desk.releaseAll desk)
  · rw [List.nil_append] at all
    exact heard.trans (congrArg _ all.symm)

/-- Whatever has been going on at a desk, a shutdown can be brought to its end at any point of it, and
the desk has a way to do so. However it goes, and whatever runs in between, nothing is registered at
the end, every query that has been accepted has ended and has told its completion once, and every
query that was registered at the beginning has no row store open. -/
theorem shutdown_leaves_nothing {world : World η} {defaults : Settings} {office : Office η}
    (reached : Course (opened world defaults) office) :
    (∀ now, ∃ final, Shutting office.closing (final, .done) ∧
      final.desk = (office.desk.shutdown now).1 ∧
      final.told.map Prod.snd = office.told.map Prod.snd ++ (office.desk.shutdown now).2) ∧
    (∀ state, Shutting office.closing state → ∃ final, Shutting state (final, .done)) ∧
    ∀ final, Shutting office.closing (final, .done) → final.desk.registered = [] ∧
      (∀ id ∈ office.desk.accepted, final.Has id (·.isTerminal = true) ∧
        (final.toldBy id).countP Happening.isEnd = 1) ∧
      ∀ owner id, (owner, id) ∈ office.desk.registered →
        final.Has id fun query => ∀ result ∈ query.results, result.store.isOpen = false := by
  have sound := reached.sound (sound_opened world defaults)
  refine ⟨fun now => shutting_shutdown now sound, fun state shutting => shutting.finishes sound,
    fun final shutting => ?_⟩
  obtain ⟨-, sounds, accepted, released⟩ := shutting.nearing sound
  have releasing : office.Releasing final [] := released
  have nothing : final.desk.registered = [] :=
    List.eq_nil_iff_forall_not_mem.mpr fun (owner, id) member =>
      List.not_mem_nil (releasing.listed owner id member)
  refine ⟨nothing, fun id member => ?_, fun owner id member => ?_⟩
  · obtain ⟨query, found, atEnd⟩ := releasing.ended id (accepted.symm ▸ member)
    exact ⟨⟨query, found, atEnd.1⟩, (sounds.queries id query found).told_once atEnd⟩
  · refine (releasing.closed owner id member).resolve_left ?_
    rw [nothing]
    exact List.not_mem_nil

def followerBegun : Office (Array Replay) := (proceed ⟨0, 0⟩ 1)^[4] (followerOffered.accept 1)

def mixedConnected : Office (Array Replay) :=
  { followerBegun with desk := followerBegun.desk.connect "p" 0 }

/-- One query was disposed of while it waited for its source, one runs, and one was made for another
owner and has not been accepted. -/
def mixedOffice : Office (Array Replay) :=
  { mixedConnected with
    desk := mixedConnected.desk.enrol
      (.create "p" "a" 0 (mixedConnected.desk.settingsFor "p" false false))
    offered := mixedConnected.offered ++ [("p", 2)] }

theorem mixedOffice_reached : Course (opened ⟨stuckSource, .file⟩ .standard) mixedOffice := by
  have accepts : Course followerOffered (followerOffered.accept 1) :=
    .single (.accepts List.mem_cons_self)
  have runs : Course (followerOffered.accept 1) followerBegun :=
    course_proceed _ (List.mem_append_right _ List.mem_cons_self) 4
  have connects : Course followerBegun mixedConnected := .single (.handles (.connects "p" 0))
  have made : mixedConnected.desk.create ⟨"p", "a", false, false⟩ = .ok (2, mixedOffice.desk) := by
    have connection : mixedConnected.desk.connection? (QueryRequest.mk "p" "a" false false).owner =
        some 0 := by decide +kernel
    have nothing : (mixedConnected.desk.query? "p").isNone = true := by decide +kernel
    have freed : mixedConnected.desk.release (QueryRequest.mk "p" "a" false false).owner =
        .ok mixedConnected.desk := by
      rw [Desk.release, Option.isNone_iff_eq_none.mp nothing]
    have size : mixedConnected.desk.queries.size = 2 := by decide +kernel
    have made := Desk.create_of_release connection freed
    rw [size] at made
    exact made
  have offers := Next.offers made
  exact (followerOffered_reached.trans accepts).trans ((runs.trans connects).tail offers)

theorem shutdown_leaves_nothing_mixed :
    Course (opened ⟨stuckSource, .file⟩ .standard) mixedOffice ∧
      mixedOffice.desk.accepted = [0, 1] ∧ mixedOffice.desk.registered = [("p", 2), ("o", 1)] ∧
      ∃ final, Shutting mixedOffice.closing (final, .done) ∧
        final.desk = (mixedOffice.desk.shutdown ⟨0, 0⟩).1 ∧ final.desk.registered = [] ∧
        (∀ id ∈ [0, 1], final.Has id (·.isTerminal = true) ∧
          (final.toldBy id).countP Happening.isEnd = 1) ∧
        ∀ id ∈ [1, 2], final.Has id fun query =>
          ∀ result ∈ query.results, result.store.isOpen = false := by
  have accepted : mixedOffice.desk.accepted = [0, 1] := by decide +kernel
  have registered : mixedOffice.desk.registered = [("p", 2), ("o", 1)] := by decide +kernel
  obtain ⟨shuts, -, leaves⟩ := shutdown_leaves_nothing mixedOffice_reached
  obtain ⟨final, shutting, desk, -⟩ := shuts ⟨0, 0⟩
  obtain ⟨nothing, ended, closed⟩ := leaves final shutting
  refine ⟨mixedOffice_reached, accepted, registered, final, shutting, desk, nothing,
    fun id member => ended id (accepted.symm ▸ member), fun id member => ?_⟩
  have owners : id = 1 ∨ id = 2 := by simpa using member
  rcases owners with rfl | rfl
  · exact closed "o" 1 (by simp [registered])
  · exact closed "p" 2 (by simp [registered])

end Office

end SqlDesk
