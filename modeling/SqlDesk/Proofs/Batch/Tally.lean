import SqlDesk.Proofs.Batch.Bench

/-! What a batch should say, read off the repetitions of its text: the notices that the cursor has come
to, the error of the database that has ended the repetition, and in the end why the batch has stopped.
A tally counts lines together with the mark that an error leaves, which may come without a line. -/

set_option autoImplicit false

namespace SqlDesk

structure Line where
  batchId : Nat
  isError : Bool
  text : String
  deriving DecidableEq

def BatchMessage.line (message : BatchMessage) : Line :=
  ⟨message.batchId, message.isError, message.text⟩

/-- What the lines of a batch depend on. -/
structure Site where
  batchId : Nat
  startLine : Nat

def Batch.site (batch : Batch) : Site := ⟨batch.id, batch.startLine⟩

def Notice.line (site : Site) : Notice → Line
  | .rowsAffected count => ⟨site.batchId, false, rowsText count⟩
  | .message said =>
    if 10 < said.severity then ⟨site.batchId, true, said.errorText site.startLine⟩
    else ⟨site.batchId, false, said.message⟩

/-- An error of the database is told as an error, as plain text or not at all. -/
def DriverMessage.lines (site : Site) (said : DriverMessage) : List Line :=
  if 10 < said.severity then [⟨site.batchId, true, said.errorText site.startLine⟩]
  else if 0 < said.severity ∧ said.code ≠ 0 then [⟨site.batchId, false, said.message⟩]
  else []

theorem Notice.line_eq (site : Site) (notice : Notice) :
    notice.line site = ⟨site.batchId, notice.isError, notice.text site.startLine⟩ := by
  cases notice with
  | rowsAffected count => rfl
  | message said =>
    by_cases severe : 10 < said.severity <;>
      simp [line, isError, text, DriverMessage.isSevere, DriverMessage.errorThreshold, severe]

theorem DriverMessage.lines_eq (site : Site) (said : DriverMessage) :
    said.lines site = match said.tone with
      | .error => [⟨site.batchId, true, said.errorText site.startLine⟩]
      | .informational => [⟨site.batchId, false, said.message⟩]
      | .suppressed => [] := by
  by_cases severe : 10 < said.severity
  · simp [lines, tone, isSevere, errorThreshold, severe]
  · by_cases tells : 0 < said.severity ∧ said.code ≠ 0 <;>
      simp [lines, tone, isSevere, errorThreshold, severe, tells]

/-- The notices that the cursor of a repetition had made available when it was last used. -/
def Repetition.made (repetition : Repetition) : List Notice :=
  match repetition.cursor with
  | none => []
  | some cursor =>
    let notices := repetition.script.notices
    notices.take (notices.length - cursor.ahead.length)

/-- What the cursor has made available, and what it had still ahead, are all notices of the script. -/
def Repetition.Follows (repetition : Repetition) : Prop :=
  ∀ cursor ∈ repetition.cursor, repetition.script.notices = repetition.made ++ cursor.ahead

theorem Repetition.made_of_notices {script : Script} {cursor : Cursor} {front : List Notice}
    (whole : script.notices = front ++ cursor.ahead) (ending : Ending) :
    made ⟨⟨some cursor, ending⟩, script⟩ = front := by
  simp [made, whole]

def Ending.lines (site : Site) : Ending → List Line
  | .raised (.driver said) => said.lines site
  | _ => []

def Repetition.lines (site : Site) (repetition : Repetition) : List Line :=
  repetition.made.map (Notice.line site) ++ repetition.ending.lines site

def Ending.interruption? : Ending → Option Interruption
  | .finished => none
  | .raised (.driver said) => some (.driver said)
  | .raised .cancelled | .signalled => some .cancelled
  | .raised .disconnected => some (.failed SourceError.disconnected.message)
  | .raised (.io text) => some (.failed (SourceError.io text).message)
  | .unstored error => some (.failed (ResultSetError.storage error).message)

theorem Ending.interruption?_ofSource (error : SourceError) :
    (raised error).interruption? = some (.ofSource error) := by
  cases error <;> rfl

theorem Ending.interruption?_readFailure (error : SourceError) :
    (raised error).interruption? = some (.ofResult (Reading.readFailure error)) := by
  cases error <;> rfl

/-- The last words of a batch, by its outcome and by what has ended the last repetition. -/
inductive Closing (site : Site) (record : List LastUse) : BatchOutcome → List Line → Prop where
  | completed : Closing site record .completed []
  | cancelled : Closing site record .cancelled [⟨site.batchId, false, BatchMessage.cancelledText⟩]
  | failed {last : LastUse} {text : String} (final : record.getLast? = some last)
      (fails : last.ending.interruption? = some (.failed text)) :
      Closing site record .failed [⟨site.batchId, true, text⟩]

/-! Tallies. -/

/-- Lines, and whether there has been an error; an error may be marked without a line. -/
@[ext]
structure Tally where
  lines : List Line
  erred : Bool
  deriving DecidableEq

namespace Tally

def none : Tally := ⟨[], false⟩

instance : Append Tally := ⟨fun left right => ⟨left.lines ++ right.lines, left.erred || right.erred⟩⟩

@[simp] theorem lines_append (left right : Tally) :
    (left ++ right).lines = left.lines ++ right.lines := rfl

@[simp] theorem erred_append (left right : Tally) :
    (left ++ right).erred = (left.erred || right.erred) := rfl

@[simp] theorem lines_none : none.lines = [] := rfl

@[simp] theorem erred_none : none.erred = false := rfl

@[simp] theorem append_none (tally : Tally) : tally ++ none = tally := by
  ext <;> simp

@[simp] theorem none_append (tally : Tally) : none ++ tally = tally := by
  ext <;> simp

theorem append_assoc (first second third : Tally) :
    first ++ second ++ third = first ++ (second ++ third) := by
  ext <;> simp [Bool.or_assoc]

def ofLines (lines : List Line) : Tally := ⟨lines, lines.any Line.isError⟩

@[simp] theorem ofLines_nil : ofLines [] = none := rfl

@[simp] theorem ofLines_append (left right : List Line) :
    ofLines (left ++ right) = ofLines left ++ ofLines right := by
  ext <;> simp [ofLines]

def ofNotices (site : Site) (notices : List Notice) : Tally := ofLines (notices.map (Notice.line site))

@[simp] theorem ofNotices_nil (site : Site) : ofNotices site [] = none := rfl

@[simp] theorem ofNotices_append (site : Site) (left right : List Notice) :
    ofNotices site (left ++ right) = ofNotices site left ++ ofNotices site right := by
  simp [ofNotices]

theorem ofNotices_cons (site : Site) (notice : Notice) (notices : List Notice) :
    ofNotices site (notice :: notices) = ofLines [notice.line site] ++ ofNotices site notices :=
  ofNotices_append site [notice] notices

def orSuccess (site : Site) (tally : Tally) : Tally :=
  if tally.lines.isEmpty && !tally.erred then
    ofLines [⟨site.batchId, false, BatchMessage.successText⟩]
  else tally

theorem orSuccess_of_quiet {site : Site} {tally : Tally}
    (quiet : (tally.lines.isEmpty && !tally.erred) = true) : tally.orSuccess site =
      tally ++ ofLines [⟨site.batchId, false, BatchMessage.successText⟩] := by
  rw [orSuccess, if_pos quiet]
  simp only [Bool.and_eq_true, List.isEmpty_iff, Bool.not_eq_true'] at quiet
  ext <;> simp [quiet.1, quiet.2]

theorem orSuccess_of_loud {site : Site} {tally : Tally}
    (loud : (tally.lines.isEmpty && !tally.erred) = false) : tally.orSuccess site = tally := by
  simp [orSuccess, loud]

theorem lines_orSuccess (site : Site) (tally : Tally) : (tally.orSuccess site).lines =
    if tally.lines = [] ∧ tally.erred = false then
      [⟨site.batchId, false, BatchMessage.successText⟩]
    else tally.lines := by
  simp only [orSuccess, Bool.and_eq_true, List.isEmpty_iff, Bool.not_eq_true']
  split <;> rfl

theorem erred_orSuccess (site : Site) (tally : Tally) :
    (tally.orSuccess site).erred = tally.erred := by
  cases quiet : tally.lines.isEmpty && !tally.erred with
  | true => simp [orSuccess_of_quiet quiet, ofLines]
  | false => rw [orSuccess_of_loud quiet]

end Tally

def Batch.tally (batch : Batch) : Tally := ⟨batch.messages.map BatchMessage.line, batch.hasError⟩

theorem Batch.tally_addMessage (batch : Batch) (message : BatchMessage) :
    (batch.addMessage message).tally = batch.tally ++ .ofLines [message.line] := by
  ext <;> simp [tally, addMessage, Tally.ofLines, BatchMessage.line]

theorem Batch.quiet_tally (batch : Batch) : (batch.tally.lines.isEmpty && !batch.tally.erred) =
    (batch.messages.isEmpty && !batch.hasError) := by
  simp [tally]

def Ending.tally (site : Site) : Ending → Tally
  | .raised (.driver said) => ⟨said.lines site, true⟩
  | _ => .none

def Interruption.tally (site : Site) : Interruption → Tally
  | .driver said => ⟨said.lines site, true⟩
  | _ => .none

theorem Ending.tally_of_finished {ending : Ending} (finished : ending.interruption? = none)
    (site : Site) : ending.tally site = .none := by
  cases ending with
  | raised error => cases error <;> cases finished
  | _ => rfl

theorem Ending.tally_of_interruption {ending : Ending} {reason : Interruption}
    (stopped : ending.interruption? = some reason) (site : Site) :
    ending.tally site = reason.tally site := by
  cases ending with
  | raised error => cases error <;> cases stopped <;> rfl
  | finished => cases stopped
  | _ =>
    cases stopped
    rfl

def Repetition.tally (site : Site) (repetition : Repetition) : Tally :=
  .ofNotices site repetition.made ++ repetition.ending.tally site

def tallyOf (site : Site) (done : List Repetition) : Tally :=
  done.foldr (fun repetition rest => repetition.tally site ++ rest) .none

theorem tallyOf_concat (site : Site) (done : List Repetition) (last : Repetition) :
    tallyOf site (done ++ [last]) = tallyOf site done ++ last.tally site := by
  induction done with
  | nil => simp [tallyOf]
  | cons first done ih =>
    simp only [tallyOf, List.cons_append, List.foldr_cons] at ih ⊢
    rw [ih, Tally.append_assoc]

theorem lines_tallyOf (site : Site) (done : List Repetition) :
    (tallyOf site done).lines = done.flatMap (Repetition.lines site) := by
  induction done with
  | nil => rfl
  | cons first done ih =>
    have own : (first.tally site).lines = first.lines site := by
      unfold Repetition.tally Repetition.lines Ending.tally Ending.lines
      split <;> simp_all [Tally.ofNotices, Tally.ofLines]
    rw [List.flatMap_cons, ← ih, ← own]
    rfl

end SqlDesk
