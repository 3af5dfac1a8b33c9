import SqlDesk.Proofs.Desk.Places
import SqlDesk.Proofs.Query.Calls
import SqlDesk.Proofs.Query.Limits

/-! Queries run on what they were made with. Connections, defaults and layers of settings are replaced
at any time; a query has taken them when it was made, and nothing that is set later counts for it. -/

set_option autoImplicit false

namespace SqlDesk

/-- The settings of a query by layers: counts and limits are those of the layer of its owner where
there is one, and every plan is taken that the defaults, the layer or the request want. -/
def Settings.layered (defaults : Settings) (layer : Option Settings) (actual estimated : Bool) :
    Settings where
  batchRuns := (layer.getD defaults).batchRuns
  actualPlan := defaults.actualPlan || layer.any (·.actualPlan) || actual
  estimatedPlan := defaults.estimatedPlan || layer.any (·.estimatedPlan) || estimated
  storedRows := (layer.getD defaults).storedRows
  updateRows := (layer.getD defaults).updateRows

namespace Desk

variable {η : Type}

theorem settingsFor_eq_layered (desk : Desk η) (owner : String) (actual estimated : Bool) :
    desk.settingsFor owner actual estimated =
      .layered desk.defaults (desk.overrides.lookup owner) actual estimated := by
  unfold settingsFor
  cases desk.overrides.lookup owner <;>
    simp [Settings.layered, Settings.withPlans, Settings.mergedWith]

structure Unset (before after : Desk η) : Prop where
  connections : after.connections = before.connections
  defaults : after.defaults = before.defaults
  overrides : after.overrides = before.overrides

namespace Unset

variable {first second third : Desk η}

theorem trans (left : first.Unset second) (right : second.Unset third) : first.Unset third where
  connections := right.connections.trans left.connections
  defaults := right.defaults.trans left.defaults
  overrides := right.overrides.trans left.overrides

theorem abandon (desk : Desk η) (owner : String) (id : QueryId) : desk.Unset (desk.abandon owner id) := by
  unfold Desk.abandon unregisterQuery
  split <;> exact ⟨rfl, rfl, rfl⟩

theorem cancel (desk : Desk η) (owner : String) : desk.Unset (desk.cancel owner).2 := by
  unfold Desk.cancel
  split
  · exact ⟨rfl, rfl, rfl⟩
  · split <;> exact ⟨rfl, rfl, rfl⟩

theorem dispose {desk next : Desk η} {owner : String} (disposed : desk.dispose owner = .ok next) :
    desk.Unset next := by
  unfold Desk.dispose require at disposed
  split at disposed <;> cases disposed
  exact ⟨rfl, rfl, rfl⟩

theorem create {desk next : Desk η} {request : QueryRequest} {id : QueryId}
    (made : desk.create request = .ok (id, next)) : desk.Unset next := by
  obtain ⟨connection, released, -, freed, -, rfl⟩ := create_eq_ok made
  rcases release_eq_ok freed with ⟨-, rfl⟩ | ⟨_, _, -, -, rfl⟩ <;> exact ⟨rfl, rfl, rfl⟩

theorem runSave (desk : Desk η) (tree : FileTree) (task : SaveTask) :
    desk.Unset (desk.runSave tree task).2.1 := by
  unfold Desk.runSave
  split <;> exact ⟨rfl, rfl, rfl⟩

theorem fold {α : Type} {act : Desk η → α → Desk η}
    (acts : ∀ (desk : Desk η) (item : α), desk.Unset (act desk item)) (items : List α) (desk : Desk η) : desk.Unset (items.foldl act desk) := by
  induction items generalizing desk with
  | nil => exact ⟨rfl, rfl, rfl⟩
  | cons item rest ih => exact (acts desk item).trans (ih _)

end Unset

end Desk

namespace Bureau

variable {η : Type}

/-! What deeds have set. -/

/-- The connection that a deed gives to an owner, or that it takes none away from. -/
def Deed.setsConnection (owner : String) : Deed η → Option (Option Connection)
  | asks asker (.connect connection) => if asker = owner then some (some connection) else none
  | asks asker .disconnect => if asker = owner then some none else none
  | _ => none

def Deed.setsLayer (owner : String) : Deed η → Option (Option Settings)
  | asks asker (.override settings) => if asker = owner then some settings else none
  | _ => none

def Deed.setsDefaults : Deed η → Option Settings
  | defaults settings => some settings
  | _ => none

def Deed.sets : Deed η → Bool
  | asks _ (.connect _) | asks _ .disconnect | asks _ (.override _) | defaults _ => true
  | _ => false

/-- What stands after deeds: what has been set last, or what was there first. -/
def latest {α : Type} (sets : Deed η → Option α) (first : α) (deeds : List (Deed η)) : α :=
  deeds.foldl (fun held deed => (sets deed).getD held) first

variable [Host η]

theorem latest_play {α : Type} (sets : Deed η → Option α) (read : Bureau η → α)
    (reads : ∀ bureau deed, read (bureau.perform deed).2 = (sets deed).getD (read bureau))
    (deeds : List (Deed η)) (bureau : Bureau η) :
    read (play deeds bureau).2 = latest sets (read bureau) deeds := by
  induction deeds generalizing bureau with
  | nil => rfl
  | cons deed rest ih => exact (ih _).trans (congrArg (latest sets · rest) (reads bureau deed))

theorem unset_perform (bureau : Bureau η) {deed : Deed η} (quiet : deed.sets = false) :
    bureau.desk.Unset (bureau.perform deed).2.desk := by
  have turn := bureau.turn deed
  revert turn
  generalize (bureau.perform deed).2 = next
  intro turn
  cases turn with
  -- These are the deeds that set something.
  | connects | disconnects | overrides | defaults => cases quiet
  | idle | saves | wishesSave | runs | elsewhere | wishes => exact ⟨rfl, rfl, rfl⟩
  | offers made => exact .create made
  | cancels owner => exact .cancel _ owner
  | disposes disposed => exact .dispose disposed
  | @decides owner place id decision =>
    have abandoned := Desk.Unset.abandon bureau.desk owner id
    cases decision with
    | accept => exact ⟨rfl, rfl, rfl⟩
    | abandon => exact abandoned
    | decline => exact abandoned.trans ⟨rfl, rfl, rfl⟩
  | writes => exact .runSave _ _ _
  | cancelsAll =>
    exact .fold (fun desk (entry : String × QueryId) => .cancel desk entry.1) _ _
  | releasesAll =>
    have disposed := Desk.Unset.fold (fun (desk : Desk (Recorded η)) (entry : String × QueryId) =>
      (⟨rfl, rfl, rfl⟩ : desk.Unset (desk.disposeQuery entry.2))) bureau.desk.registered bureau.desk
    exact disposed.trans ⟨rfl, rfl, rfl⟩

theorem connection?_perform (owner : String) (bureau : Bureau η) (deed : Deed η) :
    (bureau.perform deed).2.desk.connection? owner =
      (deed.setsConnection owner).getD (bureau.desk.connection? owner) := by
  have kept (quiet : deed.sets = false) :
      (bureau.perform deed).2.desk.connection? owner = bureau.desk.connection? owner :=
    congrArg (·.lookup owner) (bureau.unset_perform quiet).connections
  cases deed with
  | asks asker request =>
    cases request with
    | connect connection =>
      refine (Desk.lookup_bind_eq bureau.desk.connections asker owner connection).trans ?_
      simp only [Deed.setsConnection]
      split <;> rfl
    | disconnect =>
      refine (Desk.lookup_unbind_eq bureau.desk.connections asker owner).trans ?_
      simp only [Deed.setsConnection]
      split <;> rfl
    | override => rfl
    | _ => exact kept rfl
  | defaults => rfl
  | _ => exact kept rfl

theorem layer_perform (owner : String) (bureau : Bureau η) (deed : Deed η) :
    (bureau.perform deed).2.desk.overrides.lookup owner =
      (deed.setsLayer owner).getD (bureau.desk.overrides.lookup owner) := by
  have kept (quiet : deed.sets = false) :
      (bureau.perform deed).2.desk.overrides.lookup owner = bureau.desk.overrides.lookup owner :=
    congrArg (·.lookup owner) (bureau.unset_perform quiet).overrides
  cases deed with
  | asks asker request =>
    cases request with
    | override settings =>
      have stands : (bureau.desk.setOverride asker settings).overrides.lookup owner =
          if asker = owner then settings else bureau.desk.overrides.lookup owner := by
        cases settings with
        | some settings => exact Desk.lookup_bind_eq _ _ _ _
        | none => exact Desk.lookup_unbind_eq _ _ _
      refine stands.trans ?_
      simp only [Deed.setsLayer]
      split <;> rfl
    | connect | disconnect => rfl
    | _ => exact kept rfl
  | defaults => rfl
  | _ => exact kept rfl

theorem defaults_perform (bureau : Bureau η) (deed : Deed η) :
    (bureau.perform deed).2.desk.defaults = deed.setsDefaults.getD bureau.desk.defaults := by
  have kept (quiet : deed.sets = false) :
      (bureau.perform deed).2.desk.defaults = bureau.desk.defaults :=
    (bureau.unset_perform quiet).defaults
  cases deed with
  | asks asker request =>
    cases request with
    | connect | disconnect | override => rfl
    | _ => exact kept rfl
  | defaults => rfl
  | _ => exact kept rfl

/-! What a query does. -/

end Bureau

/-- A query has been made with terms, and what it has told and submitted accords with them. -/
structure Query.Abides (query : Query) (terms : Terms) (told : List Happening) (calls : List Call) :
    Prop where
  made : query.MadeWith terms
  called : query.Called terms calls
  metered : query.Metered terms.settings told

namespace Query.Abides

variable {query next : Query} {terms : Terms} {told : List Happening} {calls : List Call}

theorem create (owner : String) (terms : Terms) :
    (Query.create owner terms.text terms.connection terms.settings).Abides terms [] [] where
  made := madeWith_create owner _ _ _
  called := called_create owner _ _ _
  metered := metered_create owner _ _ _

theorem of_asked (abides : query.Abides terms told calls) (numbered : query.Numbered)
    (asked : Relation.ReflTransGen Asked query next) : next.Abides terms told calls := by
  obtain ⟨bare, activity⟩ := bare_of_asked numbered asked
  exact ⟨abides.made.of_bare bare, abides.called.of_same (state_of_asked asked).1 activity,
    abides.metered.of_rowsAt (rowsAt_of_bare bare)⟩

theorem advance {η : Type} [Host η] (now : Instant) (world : World (Recorded η))
    {before : List Happening} (abides : query.Abides terms told calls) (sound : query.Sound before)
    (attends : query.Attends) :
    ∃ new : List Submission,
      (query.advance now world).1.host.submissions = world.host.submissions ++ new ∧
      (query.advance now world).2.1.Abides terms (told ++ (query.advance now world).2.2)
        (calls ++ new.map Submission.call) := by
  obtain ⟨new, submitted, made, called⟩ :=
    called_advance now world sound.numbered sound.rests abides.made abides.called
  have develops := (develops_advance now world sound.numbered attends).1
  have metered := abides.metered.of_develops sound.numbered abides.made.settings develops
  exact ⟨new, submitted, made, called, metered⟩

end Query.Abides

namespace Bureau

variable {η : Type}

namespace Answer

def told : Answer → List Event
  | ran told _ => told
  | _ => []

def submitted : Answer → List Submission
  | ran _ submitted => submitted
  | _ => []

end Answer

def toldBy (owner : String) (place : Nat) (answers : List (Deed η × Answer)) : List Happening :=
  answers.flatMap fun (deed, answer) =>
    if deed.isRunOf owner place then answer.told.map Event.happening else []

theorem toldBy_cons (owner : String) (place : Nat) (answer : Deed η × Answer)
    (answers : List (Deed η × Answer)) : toldBy owner place (answer :: answers) =
      toldBy owner place [answer] ++ toldBy owner place answers := by
  simp [toldBy]

def submittedBy (owner : String) (place : Nat) (answers : List (Deed η × Answer)) : List Submission :=
  answers.flatMap fun (deed, answer) =>
    if deed.isRunOf owner place then answer.submitted else []

theorem submittedBy_cons (owner : String) (place : Nat) (answer : Deed η × Answer)
    (answers : List (Deed η × Answer)) : submittedBy owner place (answer :: answers) =
      submittedBy owner place [answer] ++ submittedBy owner place answers := by
  simp [submittedBy]

variable [Host η]

theorem abides_perform {bureau : Bureau η} (regular : bureau.Regular) (deed : Deed η)
    {owner : String} {place : Nat} {id : QueryId} {query : Query} {terms : Terms}
    {told : List Happening} {calls : List Call}
    (found : bureau.nth? owner place = some (id, query)) (abides : query.Abides terms told calls) :
    ∃ next, (bureau.perform deed).2.nth? owner place = some (id, next) ∧
      next.Abides terms (told ++ toldBy owner place [(deed, (bureau.perform deed).1)])
        (calls ++ (submittedBy owner place [(deed, (bureau.perform deed).1)]).map Submission.call) := by
  have stands := (nth?_eq_some.mp found).2
  have sound := regular.sound.queries id query stands
  have tells (answer : Answer) : toldBy owner place [(deed, answer)] =
      if deed.isRunOf owner place then answer.told.map Event.happening else [] :=
    List.append_nil _
  have submits (answer : Answer) : submittedBy owner place [(deed, answer)] =
      if deed.isRunOf owner place then answer.submitted else [] := List.append_nil _
  rw [tells, submits]
  -- A step of the query adds what it tells and submits; any other deed adds nothing to either.
  rcases fares regular.sound deed found with ⟨now, rfl, accepted⟩ | ⟨quiet, next, there, asked⟩
  · obtain ⟨new, submitted, goes⟩ :=
      abides.advance now bureau.desk.world sound (regular.attends id query stands)
    have isRun : (Deed.runs owner place now : Deed η).isRunOf owner place = true := by
      simp [Deed.isRunOf]
    have here := nth?_run found regular.sound accepted now
    rw [perform_of_accepted found accepted, bureau.run_answer now id query submitted, if_pos isRun,
      if_pos isRun]
    refine ⟨_, here, ?_⟩
    simpa [Answer.told, Answer.submitted, Function.comp_def] using goes
  · refine ⟨next, there, ?_⟩
    have still := abides.of_asked sound.numbered asked
    by_cases isRun : deed.isRunOf owner place = true
    · rw [if_pos isRun, if_pos isRun, quiet isRun]
      simpa [Answer.told, Answer.submitted] using still
    · rw [if_neg isRun, if_neg isRun]
      simpa using still

theorem abides_play (deeds : List (Deed η)) {bureau : Bureau η} (regular : bureau.Regular)
    {owner : String} {place : Nat} {id : QueryId} {query : Query} {terms : Terms}
    {told : List Happening} {calls : List Call}
    (found : bureau.nth? owner place = some (id, query)) (abides : query.Abides terms told calls) :
    ∃ next, (play deeds bureau).2.nth? owner place = some (id, next) ∧
      next.Abides terms (told ++ toldBy owner place (play deeds bureau).1)
        (calls ++ (submittedBy owner place (play deeds bureau).1).map Submission.call) := by
  induction deeds generalizing bureau query told calls with
  | nil => exact ⟨query, found, by simpa [toldBy, submittedBy, play] using abides⟩
  | cons deed rest ih =>
    obtain ⟨next, there, goes⟩ := abides_perform regular deed found abides
    obtain ⟨last, final, ends⟩ := ih (regular.perform deed) there goes
    refine ⟨last, final, ?_⟩
    rw [play_cons, toldBy_cons, submittedBy_cons, List.map_append, ← List.append_assoc,
      ← List.append_assoc]
    exact ends

/-- Whatever is set and asked, before a query is made and while it runs, the query has the connection
that its owner had when it was made, and the settings that came of the defaults and of the layer of its
owner at that time and of the request. What it submits is the beginning of the list of calls that these
give, up to the end once it is completed; its results have no more rows than the limit, and have been
updated at each multiple of the interval, and at no other row. -/
theorem queries_run_on_their_terms (host : η) (maker : StoreMaker) (defaults : Settings)
    (tree : FileTree) (front back : List (Deed η)) (owner text : String) (actual estimated : Bool)
    (made : ((play front (opened host maker defaults tree)).2.perform
      (.asks owner (.execute text actual estimated))).1 = .done) :
    let before := (play front (opened host maker defaults tree)).2
    let place := (before.idsOf owner).length
    let run := play back (before.perform (.asks owner (.execute text actual estimated))).2
    let settings := Settings.layered (latest Deed.setsDefaults defaults front)
      (latest (Deed.setsLayer owner) none front) actual estimated
    ∃ connection id query, latest (Deed.setsConnection owner) none front = some connection ∧
      run.2.nth? owner place = some (id, query) ∧
      query.text = text ∧ query.connection = connection ∧ query.settings = settings ∧
      (let terms : Terms := ⟨text, connection, settings⟩
        let parts := splitBatches text
        let calls := (submittedBy owner place run.1).map Submission.call
        calls <+: terms.calls parts ∧
        (∀ index, query.activity = .choosing index → calls = terms.calls (parts.take index)) ∧
        (query.state = .completed → calls = terms.calls parts)) ∧
      ∀ batchId resultId,
        (∀ limit, settings.rowLimit = some limit → query.rowsAt batchId resultId ≤ limit) ∧
        updatesAt batchId resultId (toldBy owner place run.1) =
          milestones settings.updateInterval (query.rowsAt batchId resultId) := by
  intro before place run settings
  have regular : before.Regular := regular_play host maker defaults tree front
  obtain ⟨connection, id, connected, found⟩ := nth?_execute regular.sound made
  -- What the desk has set is what was set last.
  have opened : before.desk.connection? owner = latest (Deed.setsConnection owner) none front :=
    latest_play _ (·.desk.connection? owner) (connection?_perform owner) front _
  have layer : before.desk.overrides.lookup owner = latest (Deed.setsLayer owner) none front :=
    latest_play _ (·.desk.overrides.lookup owner) (layer_perform owner) front _
  have base : before.desk.defaults = latest Deed.setsDefaults defaults front :=
    latest_play _ (·.desk.defaults) defaults_perform front _
  have own : before.desk.settingsFor owner actual estimated = settings := by
    rw [Desk.settingsFor_eq_layered, layer, base]
  rw [own] at found
  let terms : Terms := ⟨text, connection, settings⟩
  obtain ⟨query, there, abides⟩ := abides_play back (regular.perform _) found (.create owner terms)
  rw [List.nil_append] at abides
  obtain ⟨made, called, metered⟩ := abides
  have regularly : run.2.Regular := play_preserves Regular (fun deed regular => regular.perform deed)
    back (regular.perform _)
  have sound := regularly.sound.queries id query (nth?_eq_some.mp there).2
  refine ⟨connection, id, query, opened.symm.trans connected, there, made.text, made.connection,
    made.settings, ⟨called.isPrefix, ?_, ?_⟩, ?_⟩
  · intro index chooses
    unfold Query.Called at called
    rw [chooses] at called
    exact called
  · intro completed
    have terminal : query.isTerminal = true := by rw [Query.isTerminal, completed]; rfl
    unfold Query.Called at called
    rcases sound.idle_of_terminal terminal with rests | announces
    · rw [rests] at called
      exact called.2.1 completed
    · rw [announces] at called
      exact called.2.1 completed
  · intro batchId resultId
    exact ⟨metered.limit batchId resultId, metered.updates batchId resultId⟩

def rowsSources : Array Replay :=
  let rows : Script :=
    [.result ⟨⟨[], false⟩, [.row [.int64 1], .row [.int64 2], .row [.int64 3]], none⟩]
  #[⟨[rows], []⟩, ⟨[rows], []⟩]

def termsSet : List (Deed (Array Replay)) :=
  [.asks "o" (.connect 0), .defaults ⟨5, false, true, 0, 1000⟩,
    .asks "o" (.override (some ⟨2, true, false, 2, 1⟩))]

def termsReplaced : List (Deed (Array Replay)) :=
  [.asks "o" (.connect 1), .defaults .standard, .asks "o" (.override none),
    .decides "o" 0 .accept] ++ List.replicate 40 (.runs "o" 0 ⟨0, 0⟩)

def termsRun : List (Deed (Array Replay) × Answer) × Bureau (Array Replay) :=
  play termsReplaced ((play termsSet (opened rowsSources .memory .standard ⟨[], [], []⟩)).2.perform
    (.asks "o" (.execute "a" false false))).2

theorem queries_run_on_their_terms_replaced :
    (submittedBy "o" 0 termsRun.1).map Submission.call =
        [(0, ⟨"a", true, true⟩), (0, ⟨"a", true, true⟩)] ∧
      updatesAt 0 0 (toldBy "o" 0 termsRun.1) = [2] := by
  have made : ((play termsSet (opened rowsSources .memory .standard ⟨[], [], []⟩)).2.perform
      (.asks "o" (.execute "a" false false))).1 = .done := by rfl
  obtain ⟨connection, id, query, connected, found, -, -, -, ⟨-, -, whole⟩, results⟩ :=
    queries_run_on_their_terms rowsSources .memory .standard ⟨[], [], []⟩ termsSet termsReplaced "o"
      "a" false false made
  have first : ((play termsSet (opened rowsSources .memory .standard ⟨[], [], []⟩)).2.idsOf "o").length = 0 := by
    decide +kernel
  have ended : (termsRun.2.nth? "o" 0).map (fun entry => (entry.2.state, entry.2.rowsAt 0 0)) =
      some (.completed, 2) := by decide +kernel
  rw [first] at found whole results
  change termsRun.2.nth? "o" 0 = some (id, query) at found
  rw [found] at ended
  obtain ⟨completed, rows⟩ := Prod.mk.inj (Option.some.inj ended)
  obtain rfl : connection = 0 := (Option.some.inj connected).symm
  refine ⟨(whole completed).trans ?_, (results 0 0).2.trans ?_⟩
  · decide +kernel
  · rw [rows]
    decide +kernel

end Bureau

end SqlDesk
