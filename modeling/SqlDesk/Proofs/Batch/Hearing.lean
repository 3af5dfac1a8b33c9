import SqlDesk.Proofs.Batch.Log

/-! Messages are told as they are logged: whoever has listened from the start has heard the log, and no
error is heard before the batch has been marked. With the tally of what is to be said this settles what
the log of a batch is when the batch is over. -/

set_option autoImplicit false

namespace SqlDesk

def Happening.message? : Happening → Option BatchMessage
  | .message said => some said
  | _ => none

def messagesOf (happenings : List Happening) : List BatchMessage :=
  happenings.filterMap Happening.message?

theorem messagesOf_results (events : List ResultEvent) :
    messagesOf (events.map ResultEvent.happening) = [] := by
  refine List.filterMap_eq_nil_iff.mpr ?_
  intro happening member
  obtain ⟨event, -, rfl⟩ := List.mem_map.mp member
  cases event <;> rfl

def Batch.Marked (batch : Batch) : Prop :=
  ∀ message ∈ batch.messages, message.isError = true → batch.hasError = true

theorem Batch.Marked.addMessage {batch : Batch} (marked : batch.Marked) (message : BatchMessage) :
    (batch.addMessage message).Marked := by
  intro other member isError
  refine Bool.or_eq_true_iff.mpr ?_
  rcases List.mem_append.mp member with before | last
  · exact .inl (marked other before isError)
  · rw [List.mem_singleton.mp last] at isError
    exact .inr isError

namespace BatchRun

variable {η : Type} [Host η]

/-- A step tells the messages that it logs, and an error that it logs has marked the batch. -/
theorem ensures_messages (now : Instant) (cancelled : Bool) (world : World η) {run : BatchRun}
    (marked : run.batch.Marked) :
    (run.step now cancelled world).2.Ensures
      (fun next events => next.batch.messages = run.batch.messages ++ messagesOf events ∧
        next.batch.Marked)
      (fun done events => done.batch.messages = run.batch.messages ++ messagesOf events ∧
        done.batch.Marked) := by
  have turn := run.turn now cancelled world
  have silent : run.batch.messages = run.batch.messages ++ [] := (List.append_nil _).symm
  revert turn
  rcases run.step now cancelled world with ⟨later, progress⟩
  intro turn
  cases turn with
  | told phase => exact ⟨rfl, marked.addMessage _⟩
  | erred phase tone | remarked phase tone =>
    have marks : run.marked.batch.Marked := fun _ _ _ => rfl
    exact ⟨rfl, marks.addMessage _⟩
  | suppressed phase tone => exact ⟨silent, fun _ _ _ => rfl⟩
  | cancelled phase | failed phase | succeeded phase quiet => exact ⟨rfl, marked.addMessage _⟩
  | read phase last =>
    -- Reading tells of its result, and the log stays as it is.
    refine run.ensures_reading _ _ ?_ ?_
    · intro next events
      rw [messagesOf_results]
      exact ⟨silent, marked⟩
    · intro done events
      rw [messagesOf_results]
      exact ⟨silent, marked⟩
  | _ => exact ⟨silent, marked⟩

theorem ensures_site (now : Instant) (cancelled : Bool) (world : World η) (run : BatchRun) :
    (run.step now cancelled world).2.Ensures (fun next _ => next.batch.site = run.batch.site)
      (fun done _ => done.batch.site = run.batch.site) := by
  refine (run.ensures_fixed now cancelled world).imp ?_ ?_
  · rintro next _ ⟨⟨id, text⟩, -⟩
    simp [Batch.site, Batch.startLine, id, text]
  · rintro done _ ⟨id, text⟩
    simp [Batch.site, Batch.startLine, id, text]

end BatchRun

/-! What a saving, a disposal or a new subscriber leaves as it is. -/

section

variable {left right : Batch}

theorem Batch.site_of_bare (same : left.bare = right.bare) : left.site = right.site := by
  have id : left.bare.id = right.bare.id := by rw [same]
  have text : left.bare.text = right.bare.text := by rw [same]
  change left.id = right.id at id
  change left.text = right.text at text
  simp [Batch.site, Batch.startLine, id, text]

theorem Batch.messages_of_bare (same : left.bare = right.bare) :
    left.messages = right.messages ∧ left.hasError = right.hasError := by
  have messages : left.bare.messages = right.bare.messages := by rw [same]
  have hasError : left.bare.hasError = right.bare.hasError := by rw [same]
  exact ⟨messages, hasError⟩

theorem Batch.tally_of_bare (same : left.bare = right.bare) : left.tally = right.tally := by
  obtain ⟨messages, hasError⟩ := messages_of_bare same
  simp [Batch.tally, messages, hasError]

end

theorem Standing.logged_withBatch {standing : Standing} {batch : Batch}
    {submissions : List Submission} {record : List LastUse} (same : batch.bare = standing.batch.bare)
    (logged : standing.Holds (·.Logged submissions record) (·.Logged submissions record)) :
    (standing.withBatch batch).Holds (·.Logged submissions record) (·.Logged submissions record) := by
  have site := Batch.site_of_bare same
  have tally := Batch.tally_of_bare same
  have length := Batch.length_of_same same
  cases standing with
  | running run =>
    change BatchPhase.Logged batch.site _ _ batch.tally batch.results.length run.phase
    rw [site, tally, length]
    exact logged
  | stopped done =>
    obtain ⟨closing, said, closes, owes, whole⟩ := logged
    change done.batch.tally = _ at whole
    refine ⟨closing, said, ?_, ?_, ?_⟩
    · exact site ▸ closes
    · exact site ▸ owes
    · exact (tally.trans whole).trans (by rw [site]; rfl)

namespace Bench

variable {η α : Type}

abbrev Logged (bench : Bench η α) : Prop :=
  bench.standing.Holds (·.Logged bench.submissions bench.record)
    (·.Logged bench.submissions bench.record)

/-- The first subscribers have heard the log, and nobody has heard a message that is not in it. -/
structure Heard (site : Site) (first : Nat) (bench : Bench η α) : Prop where
  site : bench.batch.site = site
  marked : bench.batch.Marked
  present : first ≤ bench.subscribers.members.length
  heard : ∀ place < first, messagesOf (bench.heard place) = bench.batch.messages
  logged : ∀ round ∈ bench.rounds, ∀ delivery ∈ round, ∀ message,
    delivery.2.happening.message? = some message → message ∈ bench.batch.messages

theorem heard_ofRun {id : Nat} {owner : String} {text : BatchText} {settings : Settings}
    {connection : Connection} {start : Instant} {run : BatchRun}
    (begins : BatchRun.start (.ofText id owner text) settings connection start = .ok run)
    (host : η) (maker : StoreMaker) (subscribers : Subscribers α) :
    Heard ⟨id, text.selection.startLine⟩ subscribers.members.length
        (ofRun host maker subscribers run) ∧
      (ofRun host maker subscribers run).Logged := by
  simp only [BatchRun.start, Batch.ofText, Option.isSome_none, Bool.false_eq_true, if_false,
    Except.ok.injEq] at begins
  subst begins
  refine ⟨⟨rfl, ?_, Nat.le_refl _, fun _ _ => rfl, ?_⟩, rfl, ?_, rfl⟩
  · rintro message ⟨⟩
  · rintro round ⟨⟩
  · rintro repetition ⟨⟩

theorem heard_deliveries {subscribers : Subscribers α} {place : Nat}
    (inside : place < subscribers.members.length) (happenings : List Happening) :
    ((happenings.map subscribers.deliveries).filterMap fun round =>
      (round[place]?).map fun delivery => delivery.2.happening) = happenings := by
  induction happenings with
  | nil => rfl
  | cons happening rest ih =>
    have delivered : ((subscribers.deliveries happening)[place]?).map
        (fun delivery => delivery.2.happening) = some happening := by
      simp [Subscribers.deliveries, inside]
    simp only [List.map_cons, List.filterMap_cons, delivered, ih]

variable [Host η]

theorem Heard.step {site : Site} {first : Nat} {bench : Bench η α} (now : Instant)
    (heard : bench.Heard site first) : (bench.step now).Heard site first := by
  unfold Bench.step
  split
  · exact heard
  · rename_i run runs
    have batch : bench.batch = run.batch := by rw [Bench.batch, runs]; rfl
    have stays := (run.ensures_site now bench.signalled bench.world).batch
      (fun batch _ => batch.site = run.batch.site)
    obtain ⟨messages, marks⟩ := (run.ensures_messages now bench.signalled bench.world
      (batch ▸ heard.marked)).batch
        (fun batch events => batch.messages = run.batch.messages ++ messagesOf events ∧
          batch.Marked)
    refine ⟨?_, marks, heard.present, ?_, ?_⟩
    · exact stays.trans (batch ▸ heard.site)
    -- Who was there before hears each message of the step once, behind those from before.
    · intro place inside
      have before := heard.heard place inside
      unfold Bench.heard messagesOf at before ⊢
      rw [List.filterMap_append, heard_deliveries (Nat.lt_of_lt_of_le inside heard.present),
        List.filterMap_append, before, batch]
      exact messages.symm
    · intro round member delivery inRound message said
      refine messages.symm ▸ List.mem_append.mpr ?_
      rcases List.mem_append.mp member with earlier | latest
      · exact .inl (batch ▸ heard.logged round earlier delivery inRound message said)
      · obtain ⟨happening, told, rfl⟩ := List.mem_map.mp latest
        obtain ⟨listener, -, rfl⟩ := List.mem_map.mp inRound
        exact .inr (List.mem_filterMap.mpr ⟨happening, told, said⟩)

theorem Does.heard {site : Site} {first : Nat} {act : Act} {bench next : Bench η α}
    (does : Does act bench next) (heard : bench.Heard site first) : next.Heard site first := by
  rcases does.cases with ⟨now, -, rfl⟩ | asked
  · exact heard.step now
  · obtain ⟨batch, standing, bare⟩ := asked.standing
    obtain ⟨more, members⟩ := asked.members
    have same : next.batch = batch := by
      rw [Bench.batch, standing]
      cases bench.standing <;> rfl
    obtain ⟨messages, hasError⟩ := Batch.messages_of_bare bare
    -- A request adds nothing to the log and no round, so each part is the one from before.
    refine ⟨?_, ?_, ?_, ?_, ?_⟩
    · rw [same, Batch.site_of_bare bare]
      exact heard.site
    · intro message member isError
      rw [same, messages] at member
      rw [same, hasError]
      exact heard.marked message member isError
    · rw [members, List.length_append]
      exact Nat.le_trans heard.present (Nat.le_add_right _ _)
    · intro place inside
      rw [same, messages, ← heard.heard place inside, Bench.heard, Bench.heard, asked.rounds]
    · rw [asked.rounds, same, messages]
      exact heard.logged

theorem Does.logged {act : Act} {bench next : Bench η α} (does : Does act bench next)
    (logged : bench.Logged) : next.Logged := by
  rcases does.cases with ⟨now, -, rfl⟩ | asked
  · unfold Bench.step
    split
    · exact logged
    · rename_i run runs
      unfold Bench.Logged at logged
      rw [runs] at logged
      exact (run.ensures_logged now bench.signalled bench.world logged).standing
  · obtain ⟨batch, standing, bare⟩ := asked.standing
    unfold Bench.Logged
    rw [standing, asked.submissions, asked.record]
    exact Standing.logged_withBatch bare logged

theorem Course.heard {site : Site} {first : Nat} {allowed : Act → Prop} {before after : Bench η α}
    (course : Course allowed before after) (heard : before.Heard site first) :
    after.Heard site first :=
  course.preserves (Heard site first) (fun _ does => does.heard) heard

theorem Course.logged {allowed : Act → Prop} {before after : Bench η α}
    (course : Course allowed before after) (logged : before.Logged) : after.Logged :=
  course.preserves Logged (fun _ does => does.logged) logged

/-- Whatever source and stores do and whatever is asked of a batch meanwhile, its subscribers hear its
log and no error before the batch is marked. When it is over, its log has for every repetition what its
cursor had made available when it was last used, and the error of the database that ended it, and then
why the batch has stopped; if there is nothing of all this and no error, it is that the batch has
succeeded. -/
theorem log_tells_every_notice (id : Nat) (owner : String) (text : BatchText) (settings : Settings)
    (connection : Connection) (host : η) (maker : StoreMaker) (subscribers : Subscribers α)
    {start : Instant} {run : BatchRun} {bench : Bench η α}
    (begins : BatchRun.start (.ofText id owner text) settings connection start = .ok run)
    (course : Course (fun _ => True) (ofRun host maker subscribers run) bench) :
    (∀ place < subscribers.members.length, messagesOf (bench.heard place) = bench.batch.messages) ∧
    (∀ round ∈ bench.rounds, ∀ delivery ∈ round, ∀ message,
      delivery.2.happening = .message message → message.isError = true →
      bench.batch.hasError = true) ∧
    ∀ done, bench.standing = .stopped done →
      bench.submissions.length = bench.record.length ∧
      (∀ repetition ∈ bench.repetitions, repetition.Follows) ∧
      ∃ closing, Closing ⟨id, text.selection.startLine⟩ bench.record done.outcome closing ∧
        let said := bench.repetitions.flatMap (Repetition.lines ⟨id, text.selection.startLine⟩)
          ++ closing
        done.batch.messages.map BatchMessage.line =
          if said = [] ∧ done.batch.hasError = false then
            [⟨id, false, BatchMessage.successText⟩]
          else said := by
  obtain ⟨fresh, blank⟩ := heard_ofRun begins host maker subscribers
  have heard := course.heard fresh
  have logged := course.logged blank
  refine ⟨heard.heard, ?_, ?_⟩
  · intro round member delivery inRound message said isError
    refine heard.marked message (heard.logged round member delivery inRound message ?_) isError
    rw [said]
    rfl
  · intro done stops
    unfold Bench.Logged at logged
    rw [stops] at logged
    have site : done.batch.site = ⟨id, text.selection.startLine⟩ := by
      have same := heard.site
      rw [Bench.batch, stops] at same
      exact same
    have lines := logged.lines
    rw [site] at lines
    obtain ⟨_, _, _, owes, _⟩ := logged
    exact ⟨owes.even, owes.follow, lines⟩

/-- A text that runs three times. The first run tells of a row and is ended by an informational error
within its result, the second one is ended by an error that is not told, and the third one hangs. -/
def chattyText : BatchText := ⟨"select 1", ⟨4, 0, 4, 8⟩, some 3⟩

def chattyHost : Array Replay :=
  #[⟨[[.notice (.rowsAffected 1), .result ⟨⟨[], false⟩,
      [.row [.int64 1], .notice (.message ⟨50000, 16, 1, 2, none, "bad"⟩)],
      some (.fails (.driver ⟨7, 5, 1, 1, none, "so"⟩))⟩, .notice (.rowsAffected 9)],
    [.stop (.fails (.driver ⟨0, 0, 1, 1, none, "hidden"⟩))],
    [.result ⟨⟨[], false⟩, [.notice (.rowsAffected 2)], some .hangs⟩]], []⟩]

def chattyRun : BatchRun where
  batch := { Batch.ofText 0 "o" chattyText with started := some ⟨0, 0⟩ }
  settings := .standard
  connection := 0
  phase := .starting 3

def chatty : Bench (Array Replay) Unit := ofRun chattyHost .memory ⟨"o", [()]⟩ chattyRun

def chattyOver : Bench (Array Replay) Unit :=
  (step ⟨1, 0⟩)^[20] { (step ⟨0, 0⟩)^[40] chatty with signalled := true }

theorem log_tells_every_notice_chatty :
    messagesOf (chattyOver.heard 0) = chattyOver.batch.messages ∧
      ∃ done closing, chattyOver.standing = .stopped done ∧ done.outcome = .cancelled ∧
        Closing ⟨0, 4⟩ chattyOver.record .cancelled closing ∧
        chattyOver.repetitions.map Repetition.made = [[.rowsAffected 1,
          .message ⟨50000, 16, 1, 2, none, "bad"⟩], [], [.rowsAffected 2]] ∧
        chattyOver.repetitions.flatMap (Repetition.lines ⟨0, 4⟩) ++ closing =
          done.batch.messages.map BatchMessage.line ∧
        done.batch.messages.map BatchMessage.line =
          [⟨0, false, "(1 row affected)"⟩, ⟨0, true, "Msg 50000, Level 16, State 1, Line 6\nbad"⟩,
            ⟨0, false, "so"⟩, ⟨0, false, "(2 rows affected)"⟩,
            ⟨0, false, BatchMessage.cancelledText⟩] := by
  have begins : BatchRun.start (.ofText 0 "o" chattyText) .standard 0 ⟨0, 0⟩ = .ok chattyRun := rfl
  have hangs : Course (fun _ => True) chatty ((step ⟨0, 0⟩)^[40] chatty) :=
    course_steps trivial _ 40 chatty
  have course : Course (fun _ => True) chatty chattyOver :=
    (hangs.tail ⟨.cancels, trivial, .cancels⟩).trans (course_steps trivial _ 20 _)
  obtain ⟨heard, -, settled⟩ := log_tells_every_notice 0 "o" chattyText .standard 0 chattyHost .memory
    ⟨"o", [()]⟩ begins course
  obtain ⟨done, stops, cancelled⟩ := Standing.stopped_of_outcome
    (show chattyOver.standing.outcome? = some .cancelled by decide +kernel)
  obtain ⟨-, -, closing, closes, lines⟩ := settled done stops
  have batch : done.batch = chattyOver.batch := by rw [Bench.batch, stops]; rfl
  have marked : done.batch.hasError = true := by rw [batch]; decide +kernel
  have log : done.batch.messages.map BatchMessage.line =
      [⟨0, false, "(1 row affected)"⟩, ⟨0, true, "Msg 50000, Level 16, State 1, Line 6\nbad"⟩,
        ⟨0, false, "so"⟩, ⟨0, false, "(2 rows affected)"⟩,
        ⟨0, false, BatchMessage.cancelledText⟩] := by
    rw [batch]
    decide +kernel
  refine ⟨heard 0 (by decide), done, closing, stops, cancelled, cancelled ▸ closes, by decide +kernel,
    (lines.trans (if_neg (by simp [marked]))).symm, log⟩

end Bench

end SqlDesk
