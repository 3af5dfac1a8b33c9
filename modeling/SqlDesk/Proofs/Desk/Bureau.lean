import SqlDesk.Proofs.Query.Results

/-!
An office whose every move is written down. A deed is what one party does next: an owner asks
something, a query goes on by a step, a save that was accepted is written. Deeds name queries by their
owner and their place among the queries of that owner, so that a list of deeds can be carried out
whatever else has been going on, and with other deeds left out.

`perform` carries out one deed and says what is answered; `play` carries out a list of them. Everything
that deeds do is a course of the office (`course_play`).
-/

set_option autoImplicit false

namespace SqlDesk

structure Bureau (η : Type) where
  office : Office (Recorded η)
  tree : FileTree
  /-- Saves that have been accepted and are still to be written, each with its owner, oldest first. -/
  saving : List (String × SaveTask)

namespace Bureau

variable {η : Type}

inductive Request where
  | connect (connection : Connection)
  | disconnect
  | override (settings : Option Settings)
  | execute (text : String) (actualPlan estimatedPlan : Bool)
  | window (batchId resultId : Nat) (start count : Int)
  | cancel
  | dispose
  | save (batchId resultId : Nat) (request : SaveRequest)

inductive Decision where
  | accept
  | decline
  | abandon

/-- What somebody who holds a query asks of it, whether or not it is registered. -/
inductive Wish where
  | cancel
  | dispose
  | save (batchId resultId : Nat) (request : SaveRequest)

inductive Deed (η : Type) where
  | asks (owner : String) (request : Request)
  | decides (owner : String) (place : Nat) (decision : Decision)
  /-- A query that has been accepted is begun or goes on by one step. -/
  | runs (owner : String) (place : Nat) (now : Instant)
  | wishes (owner : String) (place : Nat) (wish : Wish)
  | writes (owner : String) (place : Nat)
  | defaults (settings : Settings)
  /-- Others use the databases, make stores and change files. -/
  | elsewhere (host : η) (maker : StoreMaker) (tree : FileTree)
  | cancelsAll
  | releasesAll

def Deed.owner? : Deed η → Option String
  | asks owner _ | decides owner _ _ | runs owner _ _ | wishes owner _ _ | writes owner _ => some owner
  | defaults _ | elsewhere _ _ _ | cancelsAll | releasesAll => none

inductive Answer where
  | done
  | nothing
  | refused (error : DeskError)
  | found (there : Bool)
  | shown (window : Window)
  | cancelled (outcome : CancelOutcome)
  | ran (told : List Event) (submitted : List Submission)
  | written (outcome : Except ResultSetError Unit)

abbrev desk (bureau : Bureau η) : Desk (Recorded η) := bureau.office.desk

def opened (host : η) (maker : StoreMaker) (defaults : Settings) (tree : FileTree) : Bureau η :=
  ⟨.opened ⟨⟨host, []⟩, maker⟩ defaults, tree, []⟩

def withDesk (bureau : Bureau η) (desk : Desk (Recorded η)) : Bureau η :=
  { bureau with office := { bureau.office with desk } }

def submissions (bureau : Bureau η) : List Submission := bureau.desk.world.host.submissions

def idsOf (bureau : Bureau η) (owner : String) : List QueryId :=
  (List.range bureau.desk.queries.size).filter fun id =>
    (bureau.desk.queries[id]?).any (·.owner = owner)

def nth? (bureau : Bureau η) (owner : String) (place : Nat) : Option (QueryId × Query) := do
  let id ← (bureau.idsOf owner)[place]?
  return (id, ← bureau.desk.queries[id]?)

theorem nth?_eq_some {bureau : Bureau η} {owner : String} {place : Nat} {id : QueryId}
    {query : Query} :
    bureau.nth? owner place = some (id, query) ↔
      (bureau.idsOf owner)[place]? = some id ∧ bureau.desk.queries[id]? = some query := by
  unfold nth?
  cases number : (bureau.idsOf owner)[place]? with
  | none => simp
  | some known =>
    simp only [Option.bind_eq_bind, Option.bind_some, Option.bind_eq_some_iff, Option.pure_def,
      Option.some.injEq, Prod.mk.injEq]
    constructor
    · rintro ⟨there, stands, rfl, rfl⟩
      exact ⟨rfl, stands⟩
    · rintro ⟨rfl, stands⟩
      exact ⟨query, stands, rfl, rfl⟩

theorem mem_idsOf {bureau : Bureau η} {owner : String} {id : QueryId} :
    id ∈ bureau.idsOf owner ↔ ∃ query, bureau.desk.queries[id]? = some query ∧ query.owner = owner := by
  simp only [idsOf, List.mem_filter, List.mem_range, Option.any_eq_true_iff_get, decide_eq_true_eq]
  constructor
  · rintro ⟨inside, stands, owned⟩
    exact ⟨_, Option.eq_some_of_isSome stands, owned⟩
  · rintro ⟨query, found, owned⟩
    exact ⟨(Array.getElem?_eq_some_iff.mp found).1, by simp [found], by simpa [found] using owned⟩

theorem owner_of_nth? {bureau : Bureau η} {owner : String} {place : Nat} {id : QueryId}
    {query : Query} (found : bureau.nth? owner place = some (id, query)) : query.owner = owner := by
  obtain ⟨number, stands⟩ := nth?_eq_some.mp found
  obtain ⟨other, there, owned⟩ := mem_idsOf.mp (List.mem_of_getElem? number)
  rw [stands] at there
  cases there
  exact owned

def savingOf (bureau : Bureau η) (owner : String) : List SaveTask :=
  (bureau.saving.filter (·.1 = owner)).map Prod.snd

def ask (bureau : Bureau η) (owner : String) : Request → Answer × Bureau η
  | .connect connection =>
    (.found (bureau.desk.connection? owner).isSome,
      bureau.withDesk (bureau.desk.connect owner connection))
  | .disconnect =>
    (.found (bureau.desk.connection? owner).isSome, bureau.withDesk (bureau.desk.disconnect owner))
  | .override settings => (.done, bureau.withDesk (bureau.desk.setOverride owner settings))
  | .execute text actualPlan estimatedPlan =>
    match bureau.desk.create ⟨owner, text, actualPlan, estimatedPlan⟩ with
    | .error error => (.refused error, bureau)
    | .ok (id, desk) =>
      (.done, { bureau with
        office := { bureau.office with desk, offered := bureau.office.offered ++ [(owner, id)] } })
  | .window batchId resultId start count =>
    match bureau.desk.window owner batchId resultId start count with
    | .error error => (.refused error, bureau)
    | .ok window => (.shown window, bureau)
  | .cancel =>
    (.cancelled (bureau.desk.cancel owner).1, bureau.withDesk (bureau.desk.cancel owner).2)
  | .dispose =>
    match bureau.desk.dispose owner with
    | .error error => (.refused error, bureau)
    | .ok desk => (.done, bureau.withDesk desk)
  | .save batchId resultId request =>
    match bureau.desk.beginSave owner batchId resultId request with
    | .error error => (.refused error, bureau)
    | .ok (task, desk) =>
      (.done, { bureau.withDesk desk with saving := bureau.saving ++ [(owner, task)] })

def decideOn (bureau : Bureau η) (owner : String) (id : QueryId) (decision : Decision) : Bureau η :=
  { bureau with
    office := match decision with
      | .accept => bureau.office.accept id
      | .decline => bureau.office.decided id (bureau.desk.decline owner id)
      | .abandon => bureau.office.decided id (bureau.desk.abandon owner id) }

def wish (bureau : Bureau η) (owner : String) (id : QueryId) (query : Query) :
    Wish → Answer × Bureau η
  | .cancel =>
    match query.cancel with
    | .error _ => (.cancelled .alreadyCompleted, bureau)
    | .ok next => (.cancelled .cancelled, bureau.withDesk (bureau.desk.setQuery id next))
  | .dispose => (.done, bureau.withDesk (bureau.desk.setQuery id query.dispose))
  | .save batchId resultId request =>
    match query.beginSave batchId resultId request.path with
    | .error error => (.refused error, bureau)
    | .ok next =>
      (.done, { bureau.withDesk (bureau.desk.setQuery id next) with
        saving := bureau.saving ++ [(owner, ⟨id, batchId, resultId, request⟩)] })

def write (bureau : Bureau η) (owner : String) (task : SaveTask) : Answer × Bureau η :=
  let (tree, desk, outcome) := bureau.desk.runSave bureau.tree task
  (.written outcome,
    { bureau.withDesk desk with tree, saving := bureau.saving.erase (owner, task) })

/-- What holds of every bureau that deeds have led to. -/
structure Regular (bureau : Bureau η) : Prop where
  sound : bureau.office.Sound
  attends : ∀ (id : QueryId) (query : Query), bureau.desk.queries[id]? = some query → query.Attends

theorem regular_opened (host : η) (maker : StoreMaker) (defaults : Settings) (tree : FileTree) :
    (opened host maker defaults tree).Regular where
  sound := Office.sound_opened _ _
  attends id query found := by simp [opened, Office.opened, Desk.empty] at found

variable [Host η]

def run (bureau : Bureau η) (now : Instant) (id : QueryId) (query : Query) : Answer × Bureau η :=
  let office := bureau.office.advance now id query
  (.ran ((office.told.drop bureau.office.told.length).map Prod.snd)
    (office.desk.world.host.submissions.drop bureau.submissions.length), { bureau with office })

def perform (bureau : Bureau η) : Deed η → Answer × Bureau η
  | .asks owner request => bureau.ask owner request
  | .decides owner place decision =>
    match (bureau.idsOf owner)[place]? with
    | none => (.nothing, bureau)
    | some id =>
      if (owner, id) ∈ bureau.office.offered then (.done, bureau.decideOn owner id decision)
      else (.nothing, bureau)
  | .runs owner place now =>
    match bureau.nth? owner place with
    | none => (.nothing, bureau)
    | some (id, query) =>
      if id ∈ bureau.desk.accepted then bureau.run now id query else (.nothing, bureau)
  | .wishes owner place wish =>
    match bureau.nth? owner place with
    | none => (.nothing, bureau)
    | some (id, query) => bureau.wish owner id query wish
  | .writes owner place =>
    match (bureau.savingOf owner)[place]? with
    | none => (.nothing, bureau)
    | some task => bureau.write owner task
  | .defaults settings => (.done, bureau.withDesk (bureau.desk.setDefaults settings))
  | .elsewhere host maker tree =>
    (.done, { bureau.withDesk { bureau.desk with world := ⟨⟨host, bureau.submissions⟩, maker⟩ } with
      tree })
  | .cancelsAll => (.done, bureau.withDesk bureau.desk.cancelAll)
  | .releasesAll => (.done, bureau.withDesk bureau.desk.releaseAll)

def play : List (Deed η) → Bureau η → List (Deed η × Answer) × Bureau η
  | [], bureau => ([], bureau)
  | deed :: rest, bureau =>
    let (answer, next) := bureau.perform deed
    let (answers, last) := play rest next
    ((deed, answer) :: answers, last)

theorem play_cons (deed : Deed η) (rest : List (Deed η)) (bureau : Bureau η) :
    play (deed :: rest) bureau =
      ((deed, (bureau.perform deed).1) :: (play rest (bureau.perform deed).2).1,
        (play rest (bureau.perform deed).2).2) := rfl

theorem play_append (front back : List (Deed η)) (bureau : Bureau η) :
    play (front ++ back) bureau = ((play front bureau).1 ++ (play back (play front bureau).2).1,
      (play back (play front bureau).2).2) := by
  induction front generalizing bureau with
  | nil => rfl
  | cons deed rest ih => rw [List.cons_append, play_cons, ih, play_cons, List.cons_append]

theorem play_preserves (kept : Bureau η → Prop)
    (preserved : ∀ {bureau : Bureau η} (deed : Deed η), kept bureau → kept (bureau.perform deed).2)
    (deeds : List (Deed η)) {bureau : Bureau η} (held : kept bureau) :
    kept (play deeds bureau).2 := by
  induction deeds generalizing bureau with
  | nil => exact held
  | cons deed rest ih => exact ih (preserved deed held)

/-! What deeds come to. -/

/-- Everything that a deed can come to. Whatever is refused, or names nothing, leaves the bureau as it
is. -/
inductive Turn (bureau : Bureau η) : Deed η → Bureau η → Prop where
  | idle (deed : Deed η) : Turn bureau deed bureau
  | connects (owner : String) (connection : Connection) :
      Turn bureau (.asks owner (.connect connection))
        (bureau.withDesk (bureau.desk.connect owner connection))
  | disconnects (owner : String) :
      Turn bureau (.asks owner .disconnect) (bureau.withDesk (bureau.desk.disconnect owner))
  | overrides (owner : String) (settings : Option Settings) :
      Turn bureau (.asks owner (.override settings))
        (bureau.withDesk (bureau.desk.setOverride owner settings))
  | offers {owner text : String} {actual estimated : Bool} {id : QueryId} {desk : Desk (Recorded η)}
      (made : bureau.desk.create ⟨owner, text, actual, estimated⟩ = .ok (id, desk)) :
      Turn bureau (.asks owner (.execute text actual estimated))
        { bureau with
          office := { bureau.office with desk, offered := bureau.office.offered ++ [(owner, id)] } }
  | cancels (owner : String) :
      Turn bureau (.asks owner .cancel) (bureau.withDesk (bureau.desk.cancel owner).2)
  | disposes {owner : String} {desk : Desk (Recorded η)}
      (disposed : bureau.desk.dispose owner = .ok desk) :
      Turn bureau (.asks owner .dispose) (bureau.withDesk desk)
  | saves {owner : String} {batchId resultId : Nat} {request : SaveRequest} {id : QueryId}
      {query next : Query} (registered : bureau.desk.query? owner = some (id, query))
      (accepted : query.beginSave batchId resultId request.path = .ok next) :
      Turn bureau (.asks owner (.save batchId resultId request))
        { bureau.withDesk (bureau.desk.setQuery id next) with
          saving := bureau.saving ++ [(owner, ⟨id, batchId, resultId, request⟩)] }
  | decides {owner : String} {place : Nat} {id : QueryId} (decision : Decision)
      (offered : (owner, id) ∈ bureau.office.offered) :
      Turn bureau (.decides owner place decision) (bureau.decideOn owner id decision)
  | runs {owner : String} {place : Nat} {id : QueryId} {query : Query} (now : Instant)
      (found : bureau.nth? owner place = some (id, query)) (accepted : id ∈ bureau.desk.accepted) :
      Turn bureau (.runs owner place now) (bureau.run now id query).2
  | wishes {owner : String} {place : Nat} {id : QueryId} {query next : Query} {wish : Wish}
      (found : bureau.nth? owner place = some (id, query))
      (asked : query.cancel = .ok next ∨ next = query.dispose) :
      Turn bureau (.wishes owner place wish) (bureau.withDesk (bureau.desk.setQuery id next))
  | wishesSave {owner : String} {place batchId resultId : Nat} {request : SaveRequest} {id : QueryId}
      {query next : Query} (found : bureau.nth? owner place = some (id, query))
      (accepted : query.beginSave batchId resultId request.path = .ok next) :
      Turn bureau (.wishes owner place (.save batchId resultId request))
        { bureau.withDesk (bureau.desk.setQuery id next) with
          saving := bureau.saving ++ [(owner, ⟨id, batchId, resultId, request⟩)] }
  | writes {owner : String} {place : Nat} {task : SaveTask}
      (accepted : (bureau.savingOf owner)[place]? = some task) :
      Turn bureau (.writes owner place) (bureau.write owner task).2
  | defaults (settings : Settings) :
      Turn bureau (.defaults settings) (bureau.withDesk (bureau.desk.setDefaults settings))
  | elsewhere (host : η) (maker : StoreMaker) (tree : FileTree) :
      Turn bureau (.elsewhere host maker tree)
        { bureau.withDesk { bureau.desk with world := ⟨⟨host, bureau.submissions⟩, maker⟩ } with tree }
  | cancelsAll : Turn bureau .cancelsAll (bureau.withDesk bureau.desk.cancelAll)
  | releasesAll : Turn bureau .releasesAll (bureau.withDesk bureau.desk.releaseAll)

theorem turn (bureau : Bureau η) (deed : Deed η) : bureau.Turn deed (bureau.perform deed).2 := by
  -- A deed is taken apart along its own branches; where it is refused nothing has happened.
  cases deed with
  | asks owner request =>
    cases request with
    | connect connection => exact .connects owner connection
    | disconnect => exact .disconnects owner
    | override settings => exact .overrides owner settings
    | cancel => exact .cancels owner
    | execute text actual estimated =>
      simp only [perform, ask]
      split
      · exact .idle _
      · rename_i made
        exact .offers made
    | window batchId resultId start count =>
      simp only [perform, ask]
      split <;> exact .idle _
    | dispose =>
      simp only [perform, ask]
      split
      · exact .idle _
      · rename_i disposed
        exact .disposes disposed
    | save batchId resultId request =>
      simp only [perform, ask]
      split
      · exact .idle _
      · rename_i accepted
        obtain ⟨id, query, next, registered, begun, rfl, rfl⟩ := Desk.beginSave_eq_ok accepted
        exact .saves registered begun
  | decides owner place decision =>
    simp only [perform]
    split
    · exact .idle _
    · split
      · rename_i offered
        exact .decides decision offered
      · exact .idle _
  | runs owner place now =>
    simp only [perform]
    split
    · exact .idle _
    · rename_i found
      split
      · rename_i accepted
        exact .runs now found accepted
      · exact .idle _
  | wishes owner place wish =>
    simp only [perform]
    split
    · exact .idle _
    · rename_i found
      cases wish with
      | dispose => exact .wishes found (.inr rfl)
      | cancel =>
        simp only [Bureau.wish]
        split
        · exact .idle _
        · rename_i accepted
          exact .wishes found (.inl accepted)
      | save batchId resultId request =>
        simp only [Bureau.wish]
        split
        · exact .idle _
        · rename_i accepted
          exact .wishesSave found accepted
  | writes owner place =>
    simp only [perform]
    split
    · exact .idle _
    · rename_i accepted
      exact .writes accepted
  | defaults settings => exact .defaults settings
  | elsewhere host maker tree => exact .elsewhere host maker tree
  | cancelsAll => exact .cancelsAll
  | releasesAll => exact .releasesAll

theorem course_perform (bureau : Bureau η) (deed : Deed η) :
    bureau.office.Course (bureau.perform deed).2.office := by
  have turn := bureau.turn deed
  revert turn
  generalize (bureau.perform deed).2 = next
  intro turn
  cases turn with
  | idle => exact .refl
  | connects owner connection => exact .single (.handles (.connects owner connection))
  | disconnects owner => exact .single (.handles (.disconnects owner))
  | overrides owner settings => exact .single (.handles (.overrides owner settings))
  | offers made => exact .single (.offers made)
  | cancels owner => exact .single (.handles (.cancels owner))
  | disposes disposed => exact .single (.handles (.disposes disposed))
  | saves registered accepted =>
    exact .single (.handles (.asks (Desk.query?_eq_some.mp registered).2 (.saves accepted)))
  | decides decision offered =>
    cases decision with
    | accept => exact .single (.accepts offered)
    | decline => exact .single (.declines offered)
    | abandon => exact .single (.abandons offered)
  | runs now found accepted => exact .single (.runs now accepted (nth?_eq_some.mp found).2)
  | wishes found asked =>
    rcases asked with accepted | rfl
    · exact .single (.handles (.asks (nth?_eq_some.mp found).2 (.cancels accepted)))
    · exact .single (.handles (.asks (nth?_eq_some.mp found).2 .disposes))
  | wishesSave found accepted =>
    exact .single (.handles (.asks (nth?_eq_some.mp found).2 (.saves accepted)))
  | writes => exact .single (.handles (.saved bureau.tree _))
  | defaults settings => exact .single (.handles (.defaults settings))
  | elsewhere host maker tree => exact .single (.handles (.elsewhere _))
  | cancelsAll => exact .single (.handles .cancelsAll)
  | releasesAll => exact .single (.handles .releases)

theorem course_play (deeds : List (Deed η)) (bureau : Bureau η) :
    bureau.office.Course (play deeds bureau).2.office := by
  induction deeds generalizing bureau with
  | nil => exact .refl
  | cons deed rest ih => exact (bureau.course_perform deed).trans (ih _)

/-- Where a query comes from that stands at a number after a deed: it has been asked something at most,
it has gone on by a step, or it is new. -/
inductive Becomes (bureau : Bureau η) (deed : Deed η) (id : QueryId) (next : Query) : Prop where
  | asked {query : Query} (found : bureau.desk.queries[id]? = some query)
      (asked : Relation.ReflTransGen Query.Asked query next)
  | advanced {owner : String} {place : Nat} {now : Instant} {query : Query}
      (runs : deed = .runs owner place now) (found : bureau.nth? owner place = some (id, query))
      (accepted : id ∈ bureau.desk.accepted) (next : next = (query.advance now bureau.desk.world).2.1)
  | made {owner text : String} {actual estimated : Bool} {connection : Connection}
      (executes : deed = .asks owner (.execute text actual estimated))
      (connected : bureau.desk.connection? owner = some connection)
      (new : id = bureau.desk.queries.size)
      (next : next =
        .create owner text connection (bureau.desk.settingsFor owner actual estimated))

theorem becomes (bureau : Bureau η) (sound : bureau.office.Sound) (deed : Deed η) {id : QueryId}
    {next : Query} (found : (bureau.perform deed).2.desk.queries[id]? = some next) :
    bureau.Becomes deed id next := by
  have turn := bureau.turn deed
  revert turn found
  generalize (bureau.perform deed).2 = after
  intro found turn
  have keys := sound.keys
  have of_kept {desk : Desk (Recorded η)} (kept : bureau.desk.Kept desk)
      (there : desk.queries[id]? = some next) : bureau.Becomes deed id next := by
    obtain ⟨query, before, asked⟩ := kept.query_of_after there
    exact .asked before asked
  have same (there : bureau.desk.queries[id]? = some next) : bureau.Becomes deed id next :=
    .asked there .refl
  -- Only a step and an offer do more to a query than ask it something.
  cases turn with
  | idle | connects | disconnects | overrides | defaults | elsewhere => exact same found
  | cancels owner => exact of_kept (bureau.desk.kept_cancel owner) found
  | disposes disposed =>
    exact of_kept ((Desk.Handles.disposes disposed).kept keys) found
  | saves registered accepted =>
    exact of_kept (Desk.kept_setQuery (Desk.query?_eq_some.mp registered).2 (.saves accepted)) found
  | wishesSave there accepted =>
    exact of_kept (Desk.kept_setQuery (nth?_eq_some.mp there).2 (.saves accepted)) found
  | wishes there asked =>
    have stands := (nth?_eq_some.mp there).2
    rcases asked with accepted | rfl
    · exact of_kept (Desk.kept_setQuery stands (.cancels accepted)) found
    · exact of_kept (Desk.kept_setQuery stands .disposes) found
  | writes => exact of_kept (bureau.desk.kept_runSave bureau.tree _) found
  | cancelsAll => exact of_kept (bureau.desk.kept_cancels _).1 found
  | releasesAll => exact of_kept bureau.desk.kept_releaseAll found
  | @decides owner place number decision offered =>
    have abandoned := (bureau.desk.queries_abandon owner number).1
    cases decision with
    | accept => exact same found
    | abandon => exact same (abandoned ▸ found)
    | decline =>
      obtain ⟨query, before, asked⟩ :=
        ((bureau.desk.abandon owner number).kept_disposeQuery number).query_of_after found
      exact .asked (abandoned ▸ before) asked
  | @runs owner place number query now there accepted =>
    have stands := (nth?_eq_some.mp there).2
    change (bureau.office.advance now number query).desk.queries[id]? = some next at found
    rw [Office.getElem?_advance now stands] at found
    split at found
    · rename_i here
      subst here
      exact .advanced rfl there accepted (Option.some.inj found).symm
    · exact same found
  | @offers owner text actual estimated number desk made =>
    obtain ⟨connection, released, connected, freed, rfl, rfl⟩ := Desk.create_eq_ok made
    have kept := Desk.kept_release keys freed
    change (released.queries.push _)[id]? = some next at found
    rw [Array.getElem?_push] at found
    split at found
    · rename_i new
      exact .made rfl connected (new.trans kept.size) (Option.some.inj found).symm
    · exact of_kept kept found

theorem Regular.perform {bureau : Bureau η} (regular : bureau.Regular) (deed : Deed η) :
    (bureau.perform deed).2.Regular where
  sound := (bureau.course_perform deed).sound regular.sound
  attends id next found := by
    cases bureau.becomes regular.sound deed found with
    | @asked query there asked =>
      have numbered := (regular.sound.queries id query there).numbered
      obtain ⟨bare, activity⟩ := Query.bare_of_asked numbered asked
      exact (regular.attends id query there).of_bare activity bare
    | @advanced owner place now query _ there _ same =>
      have stands := (nth?_eq_some.mp there).2
      have numbered := (regular.sound.queries id query stands).numbered
      exact same ▸ (Query.develops_advance now _ numbered (regular.attends id query stands)).2
    | made _ _ _ same => exact same ▸ Query.attends_of_idle fun _ _ => nofun

theorem regular_play (host : η) (maker : StoreMaker) (defaults : Settings) (tree : FileTree)
    (deeds : List (Deed η)) : (play deeds (opened host maker defaults tree)).2.Regular :=
  play_preserves Regular (fun deed regular => regular.perform deed) deeds
    (regular_opened host maker defaults tree)

end Bureau

end SqlDesk
