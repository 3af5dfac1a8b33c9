import SqlDesk.Proofs.Query.Gathering
import SqlDesk.Proofs.Query.Saves

/-! Rows that have been announced can be read, and stay as they are. A transcript is the course of a
query together with the rows that its cursors have yielded. Requests change nothing that is stored and
steps only put rows behind others, so whoever reads again what has been read finds it unchanged for as
long as the store is open, even while a row is on its way into it. -/

set_option autoImplicit false

namespace SqlDesk

theorem ResultSet.Develops.store_grows {options : ReadOptions} {result later : ResultSet}
    {told : List ResultEvent} (develops : result.Develops options later told) :
    result.store.Grows later.store := by
  cases develops with
  | rests | ends => exact .refl _
  | grows _ _ appended => exact .of_append appended

namespace Query

variable {query next seen : Query} {yielded : List Yielded} {batchId resultId : Nat}

theorem Gathers.asked (gathers : query.Gathers yielded) (bare : next.bare = query.bare)
    (unfed : query.Unfed True next) : next.Gathers yielded := by
  intro index later found
  obtain ⟨batch, there, alike⟩ := batch_of_bare bare.symm found
  obtain ⟨kept, stands, rested⟩ := unfed.batches index batch there
  rw [found] at stands
  cases stands
  obtain ⟨vacant, results⟩ := gathers index batch there
  -- Nothing that the invariant looks at has changed but the stores, which may have been closed.
  have count := Batch.length_of_same alike
  have id : later.id = batch.id := (congrArg Batch.id alike).symm
  have settings : next.bare.settings = query.bare.settings := by rw [bare]
  have activity : next.bare.activity = query.bare.activity := by rw [bare]
  change next.settings = query.settings at settings
  change next.activity = query.activity at activity
  have fetches : next.Fetches index = query.Fetches index := by
    rw [Fetches, Fetches, phaseAt, phaseAt, activity]
  rw [settings, fetches]
  constructor
  · intro place missing
    rw [id]
    apply vacant
    rw [List.getElem?_eq_none_iff] at missing ⊢
    rwa [count]
  · intro place result inside
    have before := List.getElem?_eq_getElem (count ▸ (List.getElem?_eq_some_iff.mp inside).1)
    obtain ⟨stored, same, rests⟩ := rested.kept place _ before
    rw [inside] at same
    cases same
    rw [id, ← count]
    exact (results place _ before).rests rests

theorem Gathers.at (gathers : query.Gathers yielded) (numbered : query.Numbered)
    {result : ResultSet} (found : query.resultAt batchId resultId = some result)
    (opened : result.store.isOpen = true) :
    ∃ stored, result.store.Holds stored ∧ stored <+: yieldedAt batchId resultId yielded := by
  obtain ⟨batch, there, inside⟩ := Option.bind_eq_some_iff.mp found
  obtain ⟨stored, holds, front, -⟩ := (gathers batchId batch there).results resultId result inside opened
  rw [(numbered batchId batch there).1] at front
  exact ⟨stored, holds, front⟩

/-! Stores that grow. -/

/-- No result is lost, and their stores have only grown or been closed. -/
def Grows (before after : Query) : Prop :=
  ∀ batchId resultId result, before.resultAt batchId resultId = some result →
    ∃ later, after.resultAt batchId resultId = some later ∧ result.store.Grows later.store

theorem Grows.of_same (same : ∀ batchId resultId,
    next.resultAt batchId resultId = query.resultAt batchId resultId) : query.Grows next :=
  fun _ _ result found => ⟨result, (same _ _).trans found, .refl _⟩

theorem Grows.trans {first second third : Query} (left : first.Grows second)
    (right : second.Grows third) : first.Grows third := by
  intro batchId resultId result found
  obtain ⟨between, there, grown⟩ := left batchId resultId result found
  obtain ⟨later, stands, more⟩ := right batchId resultId between there
  exact ⟨later, stands, grown.trans more⟩

theorem Unfed.resultAt {closing : Prop} {result : ResultSet} (unfed : query.Unfed closing next)
    (found : query.resultAt batchId resultId = some result) :
    ∃ kept, next.resultAt batchId resultId = some kept ∧ result.Rests closing kept := by
  obtain ⟨batch, there, inside⟩ := Option.bind_eq_some_iff.mp found
  obtain ⟨later, stands, batchRests⟩ := unfed.batches batchId batch there
  obtain ⟨kept, same, rests⟩ := batchRests.kept resultId result inside
  exact ⟨kept, by rw [Query.resultAt, stands, Option.bind_some, same], rests⟩

theorem Grows.of_unfed (unfed : query.Unfed True next) : query.Grows next := by
  intro batchId resultId result found
  obtain ⟨kept, there, rests⟩ := unfed.resultAt found
  refine ⟨kept, there, ?_⟩
  rcases rests with still | ⟨-, closed⟩
  · exact still ▸ .refl _
  · exact closed ▸ .close _

theorem Develops.grows {told : List Happening} (develops : query.Develops next told) :
    query.Grows next := by
  cases develops with
  | rests same => exact .of_same same
  | begins index number header vacant empty after =>
    intro batchId resultId result found
    refine ⟨result, ?_, .refl _⟩
    -- A result that has been there is not at the place of the new one.
    rw [after, if_neg, found]
    rintro ⟨rfl, rfl⟩
    rw [vacant] at found
    cases found
  | @reads result later told index number found develops after =>
    intro batchId resultId before there
    by_cases here : batchId = index ∧ resultId = number
    · obtain ⟨rfl, rfl⟩ := here
      rw [found] at there
      cases there
      exact ⟨later, by rw [after, if_pos ⟨rfl, rfl⟩], develops.store_grows⟩
    · exact ⟨before, by rw [after, if_neg here, there], .refl _⟩

/-! Windows. -/

theorem window_of_resultAt {result : ResultSet}
    (found : query.resultAt batchId resultId = some result) (start count : Int) :
    query.window batchId resultId start count =
      (result.window start count).mapError fun error => .batch (.resultSet error) := by
  obtain ⟨batch, there, inside⟩ := Option.bind_eq_some_iff.mp found
  simp only [window, Query.batch, there, bind, Except.bind, Batch.window, Batch.result, inside]
  cases result.window start count <;> rfl

theorem window_eq_ok_iff {start count : Int} {window : Window} :
    query.window batchId resultId start count = .ok window ↔
      ∃ result, query.resultAt batchId resultId = some result ∧
        result.window start count = .ok window := by
  cases found : query.resultAt batchId resultId with
  | some result =>
    rw [window_of_resultAt found]
    cases answered : result.window start count <;> simp [Except.mapError, answered]
  | none =>
    -- Either the batch is missing or its result is.
    simp only [reduceCtorEq, false_and, exists_false, iff_false]
    intro answered
    unfold Query.window Query.batch at answered
    cases there : query.batches[batchId]? with
    | none => simp [there, bind, Except.bind] at answered
    | some batch =>
      have missing : batch.results[resultId]? = none := by simpa [resultAt, there] using found
      simp [there, bind, Except.bind, Batch.window, Batch.result, missing] at answered

/-- What readers may find of a query: all of it between two steps, and while a row is added to one of
its results, that result as far as the row has come. -/
inductive Sighted (query : Query) : Query → Prop where
  | still : Sighted query query
  | adding {batchId resultId : Nat} {result : ResultSet} {store : RowStore}
      (found : query.resultAt batchId resultId = some result)
      (sighted : result.store.Sighted store) :
      Sighted query (query.setResult { result with store })

/-- What has been served of results whose stores are open afterwards is served again: the same rows
with the same numbers, also where more rows were asked for than there were. -/
def ServesAgain (before after : Query) : Prop :=
  ∀ batchId resultId later, after.resultAt batchId resultId = some later →
    later.store.isOpen = true →
    ∀ seen again, before.Sighted seen → after.Sighted again →
    ∀ start count window, seen.window batchId resultId start count = .ok window →
      again.window batchId resultId start window.rowCount = .ok window ∧
        ∀ other, again.window batchId resultId start count = .ok other → window.rows <+: other.rows

theorem Gathers.window_of_sighted (gathers : query.Gathers yielded) (numbered : query.Numbered)
    (sighted : query.Sighted seen) (batchId resultId : Nat) (start count : Int) (window : Window) :
    seen.window batchId resultId start count = .ok window ↔
      query.window batchId resultId start count = .ok window := by
  cases sighted with
  | still => rfl
  | @adding otherBatch otherResult result store found sighted =>
    rw [window_eq_ok_iff, window_eq_ok_iff]
    have stands := resultAt_setResult numbered { result with store } found sighted.key batchId resultId
    have same := ResultSet.window_of_sighted
      (fun opened => (gathers.at numbered found opened).imp fun _ => And.left) sighted start count
    rw [stands]
    split
    · rename_i here
      obtain ⟨rfl, rfl⟩ := here
      simp [found, same]
    · rfl

end Query

namespace Stage

variable {η α : Type} [Host η]

/-- Whatever is not a step stores nothing: a request leaves all but saves and media as it is. -/
theorem Does.unstepped {act : Act} {stage next : Stage η α} (does : Does act stage next)
    (numbered : stage.query.Numbered) (other : act ≠ .steps) :
    stage.query.Unfed True next.query ∧
      ((∃ now, stage.query.begin now = .ok next.query) ∨ next.query.bare = stage.query.bare) := by
  cases does with
  | steps => exact absurd rfl other
  | begins now accepted =>
    refine ⟨?_, .inl ⟨now, accepted⟩⟩
    obtain ⟨-, rfl⟩ := begin_eq_ok accepted
    exact .of_batches rfl
  | cancels accepted =>
    refine ⟨.of_batches ?_, .inr (Query.bare_cancel accepted)⟩
    unfold Query.cancel at accepted
    split at accepted <;> cases accepted
    rfl
  | disposes => exact ⟨.dispose stage.query, .inr stage.query.bare_dispose⟩
  | saves accepted =>
    have unsaved := Query.unsaved_beginSave numbered accepted
    exact ⟨.of_unsaved unsaved, .inr (Query.bare_of_unsaved unsaved)⟩
  | saved tree batchId resultId request =>
    have unsaved := Query.unsaved_runSave tree numbered batchId resultId request
    exact ⟨.of_unsaved unsaved, .inr (Query.bare_of_unsaved unsaved)⟩
  | subscribes | elsewhere => exact ⟨.of_batches rfl, .inr rfl⟩

end Stage

/-- A stage, and the rows that cursors have yielded on the way to it, oldest first. -/
structure Transcript (η α : Type) where
  stage : Stage η α
  yielded : List Yielded

namespace Transcript

variable {η α : Type}

abbrev query (transcript : Transcript η α) : Query := transcript.stage.query

abbrev rows (transcript : Transcript η α) (batchId resultId : Nat) : List Row :=
  yieldedAt batchId resultId transcript.yielded

structure Sound (transcript : Transcript η α) : Prop where
  numbered : transcript.query.Numbered
  attends : transcript.query.Attends
  gathers : transcript.query.Gathers transcript.yielded

/-- A query that has just been made, with those who listen to it. -/
def attended (host : η) (maker : StoreMaker) (query : Query) (members : List α) : Transcript η α :=
  ⟨.attended host maker query members, []⟩

theorem sound_attended (owner text : String) (connection : Connection) (settings : Settings)
    (host : η) (maker : StoreMaker) (members : List α) :
    (attended host maker (.create owner text connection settings) members).Sound :=
  ⟨Query.numbered_of_create owner text connection settings,
    Query.attends_of_idle fun _ _ => nofun, Query.gathers_create owner text connection settings⟩

def announced (transcript : Transcript η α) (told : ResultSummary) : List Row :=
  (transcript.rows told.batchId told.id).take told.rowCount

/-- What somebody who is told of a result finds there while its store is open. Where no row has been
announced there is no window to ask for. -/
structure Shows (transcript : Transcript η α) (told : ResultSummary) : Prop where
  counted : (transcript.announced told).length = told.rowCount
  shown : 0 < told.rowCount → (∀ row ∈ transcript.announced told, row.Fits) →
    transcript.query.window told.batchId told.id 0 told.rowCount =
      .ok (.ofRows 0 (transcript.announced told))
  nothing : told.rowCount = 0 → transcript.query.window told.batchId told.id 0 told.rowCount =
    .error (.batch (.resultSet (.outOfRange 0 0 0)))

/-- A result that stands as it has been told, while its store is open. -/
theorem Sound.shows {transcript : Transcript η α} (sound : transcript.Sound)
    {told : ResultSummary} {result : ResultSet}
    (found : transcript.query.resultAt told.batchId told.id = some result)
    (same : result.rowCount = told.rowCount) (opened : result.store.isOpen = true) :
    transcript.Shows told := by
  -- The store holds the first rows that have been yielded, as many as have been announced.
  obtain ⟨stored, holds, front⟩ := sound.gathers.at sound.numbered found opened
  have count : stored.length = told.rowCount := holds.published.symm.trans same
  have all : transcript.announced told = stored := by
    rw [announced, ← count]
    exact (List.prefix_iff_eq_take.mp front).symm
  constructor
  · rw [all, count]
  · intro some fit
    rw [all] at fit
    have filled : stored ≠ [] := List.ne_nil_of_length_pos (by omega)
    rw [all, Query.window_of_resultAt found, ← count,
      ResultSet.window_of_fits holds filled fit]
    rfl
  · intro none
    rw [none, Query.window_of_resultAt found]
    change Except.mapError _ (result.window 0 0) = _
    rw [result.window_of_none, same, none]
    rfl

variable [Host η]

def step (now : Instant) (transcript : Transcript η α) : Transcript η α where
  stage := transcript.stage.step now
  yielded := transcript.yielded ++ transcript.query.yields.toList

def tells (now : Instant) (transcript : Transcript η α) : List Happening :=
  (transcript.query.step now transcript.stage.world).2.outcome.2

inductive Does : Act → Transcript η α → Transcript η α → Prop where
  | steps {transcript : Transcript η α} (now : Instant) :
      Does .steps transcript (transcript.step now)
  | asks {act : Act} {transcript : Transcript η α} {stage : Stage η α} (other : act ≠ .steps)
      (does : Stage.Does act transcript.stage stage) :
      Does act transcript { transcript with stage }

def Course (allowed : Act → Prop) : Transcript η α → Transcript η α → Prop := Along Does allowed

variable {transcript next later : Transcript η α} {act : Act} {allowed : Act → Prop}

theorem Sound.step (sound : transcript.Sound) (now : Instant) :
    (transcript.step now).Sound ∧ transcript.query.Grows (transcript.step now).query ∧
      (transcript.step now).query.Tells (transcript.tells now) := by
  obtain ⟨numbered, attends, gathers⟩ := sound
  have numbers := (Query.ensures_numbered now transcript.stage.world numbered).outcome.1
  obtain ⟨develops, attended⟩ :=
    (Query.ensures_develops now transcript.stage.world numbered attends).outcome
  obtain ⟨gathered, tells⟩ :=
    (Query.ensures_gathers now transcript.stage.world numbered gathers).outcome
  exact ⟨⟨numbers, attended, gathered⟩, develops.grows, tells⟩

theorem Sound.asked {stage : Stage η α} (sound : transcript.Sound)
    (does : Stage.Does act transcript.stage stage) (other : act ≠ .steps) :
    Sound { transcript with stage } := by
  obtain ⟨numbered, attends, gathers⟩ := sound
  obtain ⟨unfed, ⟨now, begins⟩ | bare⟩ := does.unstepped numbered other
  -- Only to begin is more than bookkeeping, and then no batch is being executed yet.
  · obtain ⟨-, begun⟩ := Stage.begin_eq_ok begins
    have idle : ∀ index phase, stage.query.activity ≠ .executing index phase := by
      rw [begun]
      exact fun _ _ => nofun
    have settings : stage.query.settings = transcript.query.settings := by rw [begun]
    have batches : stage.query.batches = transcript.query.batches := by rw [begun]
    exact ⟨does.numbered numbered, Query.attends_of_idle idle, gathers.of_idle settings batches idle⟩
  · have activity : stage.query.bare.activity = transcript.query.bare.activity := by rw [bare]
    exact ⟨does.numbered numbered, attends.of_bare activity bare, gathers.asked bare unfed⟩

theorem Does.sound (does : Does act transcript next) (sound : transcript.Sound) :
    next.Sound ∧ transcript.query.Grows next.query := by
  cases does with
  | steps now => exact ⟨(sound.step now).1, (sound.step now).2.1⟩
  | asks other does =>
    exact ⟨sound.asked does other, .of_unfed (does.unstepped sound.numbered other).1⟩

theorem Course.sound (course : Course allowed transcript later) (sound : transcript.Sound) :
    later.Sound ∧ transcript.query.Grows later.query := by
  refine course.preserves (fun later => later.Sound ∧ transcript.query.Grows later.query) ?_
    ⟨sound, .of_same fun _ _ => rfl⟩
  rintro act first second - does ⟨held, grown⟩
  obtain ⟨still, more⟩ := does.sound held
  exact ⟨still, grown.trans more⟩

theorem Course.unstepped (course : Course (· ≠ .steps) transcript later) (sound : transcript.Sound) :
    later.yielded = transcript.yielded ∧ transcript.query.Unfed True later.query := by
  have kept : later.Sound ∧ later.yielded = transcript.yielded ∧
      transcript.query.Unfed True later.query := by
    refine course.preserves (fun later => later.Sound ∧ later.yielded = transcript.yielded ∧
      transcript.query.Unfed True later.query) ?_ ⟨sound, rfl, .of_batches rfl⟩
    rintro act first second permitted does ⟨held, same, unfed⟩
    cases does with
    | steps => exact absurd rfl permitted
    | asks other does =>
      exact ⟨held.asked does other, same,
        unfed.trans (does.unstepped held.numbered other).1⟩
  exact kept.2

theorem Sound.servesAgain (sound : transcript.Sound) (course : Course allowed transcript later) :
    transcript.query.ServesAgain later.query := by
  intro batchId resultId last found opened seen again before after start count window answered
  -- Readers in the middle of an append see what they would see before it, so both moments are taken
  -- between steps; there the later store holds the rows of the earlier one and more behind.
  obtain ⟨held, grown⟩ := course.sound sound
  rw [sound.gathers.window_of_sighted sound.numbered before, Query.window_eq_ok_iff] at answered
  obtain ⟨result, there, answered⟩ := answered
  obtain ⟨other, stands, grows⟩ := grown batchId resultId result there
  rw [found] at stands
  cases stands
  obtain ⟨wasOpen, longer⟩ := grows opened
  obtain ⟨stored, holds, -⟩ := sound.gathers.at sound.numbered there wasOpen
  obtain ⟨more, behind⟩ := longer stored holds
  obtain ⟨same, begins⟩ := ResultSet.window_stays holds behind answered
  constructor
  · rw [held.gathers.window_of_sighted held.numbered after, Query.window_eq_ok_iff]
    exact ⟨last, found, same⟩
  · intro other asked
    rw [held.gathers.window_of_sighted held.numbered after, Query.window_eq_ok_iff] at asked
    obtain ⟨result, isThere, asked⟩ := asked
    rw [found] at isThere
    cases isThere
    exact begins other asked

/-- Announced rows can be read and never change. Whenever a result is told of in a step of a query and
its store is open while that is delivered, whatever else may have been asked in the meantime, a window
over all rows announced shows exactly the first rows yielded for it. And whatever has been served at
any moment of any run is served again at every later one as long as the store is open. -/
theorem announced_rows_are_readable (owner text : String) (connection : Connection)
    (settings : Settings) (host : η) (maker : StoreMaker) (members : List α)
    (course : Course (fun _ => True)
      (attended host maker (.create owner text connection settings) members) transcript) :
    (∀ now, ∀ happening ∈ transcript.tells now, ∀ told, happening.result? = some told →
      ∀ inside, Course (· ≠ .steps) (transcript.step now) inside →
        ∃ result, inside.query.resultAt told.batchId told.id = some result ∧
          (result.store.isOpen = true → inside.Shows told)) ∧
      ∀ later, Course (fun _ => True) transcript later →
        transcript.query.ServesAgain later.query := by
  obtain ⟨sound, -⟩ := course.sound (sound_attended owner text connection settings host maker members)
  refine ⟨?_, fun later course => sound.servesAgain course⟩
  intro now happening member told isTold inside meanwhile
  obtain ⟨stepped, -, tells⟩ := sound.step now
  obtain ⟨result, found, shows⟩ := tells happening member told isTold
  obtain ⟨-, unfed⟩ := meanwhile.unstepped stepped
  obtain ⟨kept, there, rests⟩ := unfed.resultAt found
  have counted : kept.rowCount = told.rowCount :=
    rests.rowCount.trans (congrArg ResultSummary.rowCount shows)
  exact ⟨kept, there, (meanwhile.sound stepped).1.shows there counted⟩

/-- A result of three rows and one without rows, kept in files. -/
def paged : Transcript (Array Replay) Unit :=
  attended #[⟨[[.result ⟨⟨[], false⟩, [.row [.int64 7], .row [.text "a"], .row [.null]], none⟩,
    .result ⟨⟨[], false⟩, [], none⟩]], []⟩] .file (.create "o" "select 1" 0 .standard) [()]

def pagedBegun : Transcript (Array Replay) Unit :=
  { paged with stage := paged.stage.withQuery { paged.query with
      state := .running, started := some ⟨0, 0⟩, activity := .choosing 0 } }

def pagedAfter (count : Nat) : Transcript (Array Replay) Unit := (step ⟨0, 0⟩)^[count] pagedBegun

theorem paged_reached (count : Nat) : Course (fun _ => True) paged (pagedAfter count) := by
  have fresh : paged.query.begin ⟨0, 0⟩ = .ok pagedBegun.query := if_pos rfl
  have begins : Course (fun _ => True) paged pagedBegun :=
    .single .begins trivial (.asks nofun (.begins ⟨0, 0⟩ fresh))
  exact begins.trans (Along.iterate trivial (fun _ => .steps ⟨0, 0⟩) count pagedBegun)

theorem paged_goes_on (first more : Nat) :
    Course (fun _ => True) (pagedAfter first) (pagedAfter (more + first)) := by
  rw [pagedAfter, pagedAfter, Function.iterate_add_apply]
  exact Along.iterate trivial (fun _ => .steps ⟨0, 0⟩) more _

/-- The first row is announced and read while the other two are still to come, and read again after
the query has ended. -/
theorem announced_rows_are_readable_paged :
    (pagedAfter 6).tells ⟨0, 0⟩ =
        [.resultAvailable ⟨0, 0, 1, false, [], .ofHeader ⟨[], false⟩⟩] ∧
      (pagedAfter 7).query.window 0 0 0 1 = .ok (.ofRows 0 [[.int64 7]]) ∧
      (pagedAfter 30).query.state = .completed ∧
      (pagedAfter 30).rows 0 0 = [[.int64 7], [.text "a"], [.null]] ∧
      (pagedAfter 30).query.window 0 0 0 1 = .ok (.ofRows 0 [[.int64 7]]) := by
  have told : (pagedAfter 6).tells ⟨0, 0⟩ =
      [.resultAvailable ⟨0, 0, 1, false, [], .ofHeader ⟨[], false⟩⟩] := by decide +kernel
  have next : (pagedAfter 6).step ⟨0, 0⟩ = pagedAfter 7 :=
    (Function.iterate_succ_apply' (step ⟨0, 0⟩) 6 pagedBegun).symm
  have opened (count : Nat) (isOpen : ((pagedAfter count).query.resultAt 0 0).map
      (·.store.isOpen) = some true) : ∃ result, (pagedAfter count).query.resultAt 0 0 =
        some result ∧ result.store.isOpen = true := Option.map_eq_some_iff.mp isOpen
  -- Nothing happens between the announcement and the window, so the run in between is empty.
  obtain ⟨readable, -⟩ := announced_rows_are_readable "o" "select 1" 0 .standard _ _ [()]
    (paged_reached 6)
  obtain ⟨-, again⟩ := announced_rows_are_readable "o" "select 1" 0 .standard _ _ [()]
    (paged_reached 7)
  obtain ⟨result, found, shows⟩ := readable ⟨0, 0⟩ _ (told ▸ List.mem_cons_self) _ rfl (pagedAfter 7)
    (next ▸ .refl)
  obtain ⟨other, there, wasOpen⟩ := opened 7 (by decide +kernel)
  rw [show (pagedAfter 7).query.resultAt 0 0 = some result from found] at there
  cases there
  have rows : (pagedAfter 7).announced ⟨0, 0, 1, false, [], .ofHeader ⟨[], false⟩⟩ =
      [[.int64 7]] := by decide +kernel
  have first : (pagedAfter 7).query.window 0 0 0 1 = .ok (.ofRows 0 [[.int64 7]]) := by
    rw [← rows]
    exact (shows wasOpen).shown (by decide) (by rw [rows]; decide)
  obtain ⟨later, stands, isOpen⟩ := opened 30 (by decide +kernel)
  have served := again (pagedAfter 30) (paged_goes_on 7 23) 0 0 later stands isOpen _ _ .still .still
    0 1 _ first
  exact ⟨told, first, by decide +kernel, by decide +kernel, served.1⟩

/-- Of a result without rows none can be asked for, although it has been announced; and a cell that is
too long for its length to be written is not found as it was yielded. -/
theorem announced_rows_missed :
    (∃ told, (pagedAfter 15).tells ⟨0, 0⟩ = [.resultAvailable told] ∧ told.rowCount = 0 ∧
        ((pagedAfter 16).query.resultAt told.batchId told.id).map (·.store.isOpen) = some true ∧
        (pagedAfter 16).query.window told.batchId told.id 0 0 =
          .error (.batch (.resultSet (.outOfRange 0 0 0)))) ∧
      Row.readBack [.bytes (List.replicate Row.wordLimit 0)] = some [.bytes []] := by
  refine ⟨⟨⟨1, 0, 0, true, [], .ofHeader ⟨[], false⟩⟩, ?_, rfl, ?_, ?_⟩, ?_⟩
  · decide +kernel
  · decide +kernel
  · decide +kernel
  · exact Row.readBack_of_overlong List.length_replicate

end Transcript

end SqlDesk
