import SqlDesk.Proofs.Batch.Bench
import SqlDesk.Proofs.Batch.Yield

/-! What the repetitions of a text come to when nobody cancels, read off the scripts and the stores and
not off the steps of a batch: the notices that are made available, and what ends the repetition. Then
what the answers of a cursor leave of such an account, so that it can be followed along a run. -/

set_option autoImplicit false

namespace SqlDesk

/-- What becomes of a batch whose repetition has ended so: the next one follows, or the batch stops. -/
def Ending.outcome : Ending → BatchOutcome
  | .finished | .raised (.driver _) => .completed
  | .raised .cancelled | .signalled => .cancelled
  | .raised .disconnected | .raised (.io _) | .unstored _ => .failed

/-- What a repetition comes to. Without an ending it hangs. -/
structure Account where
  notices : List Notice
  ending : Option Ending
  maker : StoreMaker

namespace Account

def behind (earlier : List Notice) (account : Account) : Account :=
  { account with notices := earlier ++ account.notices }

@[simp] theorem behind_behind (first second : List Notice) (account : Account) :
    (account.behind second).behind first = account.behind (first ++ second) := by
  simp [behind]

@[simp] theorem ending_behind (earlier : List Notice) (account : Account) :
    (account.behind earlier).ending = account.ending := rfl

@[simp] theorem maker_behind (earlier : List Notice) (account : Account) :
    (account.behind earlier).maker = account.maker := rfl

def goesOn (account : Account) : Bool := account.ending.any fun ending => ending.outcome = .completed

end Account

def Stop.ending : Stop → Option Ending
  | .fails error => some (.raised error)
  | .hangs => none

/-- What reading a result comes to of which a number of rows has been stored. Rows over the limit are
dropped, and a row that finds no room ends the repetition; otherwise the rest of the script follows. -/
def Item.account (limit room : Option Nat) (maker : StoreMaker) (stop : Option Stop)
    (rest : Account) : Nat → List Item → Account
  | _, [] =>
    match stop with
    | none => rest
    | some stop => ⟨[], stop.ending, maker⟩
  | stored, .notice given :: items =>
    (account limit room maker stop rest stored items).behind [given]
  | stored, .row _ :: items =>
    if limit.any (· ≤ stored) then account limit room maker stop rest stored items
    else if room.any (· ≤ stored) then ⟨[], some (.unstored RowStore.diskFull), maker⟩
    else account limit room maker stop rest (stored + 1) items

/-- What a script comes to. Every result takes a store of its own. -/
def Script.account (limit : Option Nat) : Script → StoreMaker → Account
  | [], maker => ⟨[], some .finished, maker⟩
  | .notice given :: script, maker => (account limit script maker).behind [given]
  | .stop stop :: _, maker => ⟨[], stop.ending, maker⟩
  | .result result :: script, maker =>
    if maker.failing then ⟨[], some (.unstored RowStore.diskFull), maker.spent⟩
    else Item.account limit maker.room maker.spent result.stop (account limit script maker.spent) 0
      result.items

/-- The accounts of a number of repetitions, up to the first one that does not go on. -/
def RunPlan.accounts {η : Type} [Host η] (plan : RunPlan) : Nat → World η → List Account
  | 0, _ => []
  | left + 1, world =>
    let (script, host) := Host.execute world.host plan.connection plan.execution
    let account := Script.account plan.limit script world.maker
    account :: if account.goesOn then plan.accounts left ⟨host, account.maker⟩ else []

def RunPlan.following {η : Type} [Host η] (plan : RunPlan) (left : Nat) (host : η)
    (account : Account) : List Account :=
  account :: if account.goesOn then plan.accounts left ⟨host, account.maker⟩ else []

namespace RunPlan

variable {η : Type} [Host η] (plan : RunPlan)

def after (outcome : BatchOutcome) (left : Nat) (world : World η) : List Account :=
  if outcome = .completed then plan.accounts left world else []

theorem following_of_ending {account : Account} {ending : Ending}
    (ended : account.ending = some ending) (left : Nat) (host : η) :
    plan.following left host account =
      account :: plan.after ending.outcome left ⟨host, account.maker⟩ := by
  simp [following, after, Account.goesOn, ended]

theorem following_of_hung {account : Account} (hung : account.ending = none) (left : Nat) (host : η) :
    plan.following left host account = [account] := by
  simp [following, Account.goesOn, hung]

theorem accounts_succ (left : Nat) (world : World η) :
    plan.accounts (left + 1) world =
      let answer := Host.execute world.host plan.connection plan.execution
      plan.following left answer.2 (Script.account plan.limit answer.1 world.maker) := rfl

theorem accounts_ne_nil {left : Nat} (asked : 0 < left) (world : World η) :
    plan.accounts left world ≠ [] := by
  cases left with
  | zero => exact absurd asked (Nat.lt_irrefl 0)
  | succ left =>
    rw [accounts_succ]
    exact List.cons_ne_nil _ _

theorem length_accounts_le (left : Nat) (world : World η) :
    (plan.accounts left world).length ≤ left := by
  induction left generalizing world with
  | zero => exact Nat.le_refl 0
  | succ left ih =>
    rw [accounts_succ, following, List.length_cons]
    split
    · exact Nat.succ_le_succ (ih _)
    · exact Nat.succ_le_succ (Nat.zero_le left)

theorem goesOn_of_mem_dropLast {left : Nat} {world : World η} {account : Account}
    (member : account ∈ (plan.accounts left world).dropLast) : account.goesOn = true := by
  induction left generalizing world with
  | zero => cases member
  | succ left ih =>
    rw [accounts_succ, following] at member
    -- The first repetition is not the last one only if it goes on and another one follows.
    split at member
    · rename_i goesOn
      by_cases last : plan.accounts left ⟨(Host.execute world.host plan.connection plan.execution).2,
          (Script.account plan.limit (Host.execute world.host plan.connection plan.execution).1
            world.maker).maker⟩ = []
      · rw [last] at member
        cases member
      · rw [List.dropLast_cons_of_ne_nil last] at member
        rcases List.mem_cons.mp member with rfl | later
        · exact goesOn
        · exact ih later
    · cases member

theorem length_accounts_of_goesOn {left : Nat} {world : World η}
    (all : ∀ account ∈ plan.accounts left world, account.goesOn = true) :
    (plan.accounts left world).length = left := by
  induction left generalizing world with
  | zero => rfl
  | succ left ih =>
    rw [accounts_succ, following] at all ⊢
    have first := all _ List.mem_cons_self
    rw [if_pos first] at all ⊢
    rw [List.length_cons, ih fun account member => all account (List.mem_cons_of_mem _ member)]

end RunPlan

/-! Notices that are skipped on the way stand in front of what the rest comes to. -/

@[simp] theorem Item.account_skipped (limit room : Option Nat) (maker : StoreMaker)
    (stop : Option Stop) (rest : Account) (stored : Nat) (skipped : List Notice) (items : List Item) :
    account limit room maker stop rest stored (skipped.map .notice ++ items) =
      (account limit room maker stop rest stored items).behind skipped := by
  induction skipped with
  | nil => rfl
  | cons given skipped ih => simp [account, ih]

@[simp] theorem Item.account_map (limit room : Option Nat) (maker : StoreMaker) (stop : Option Stop)
    (rest : Account) (stored : Nat) (skipped : List Notice) :
    account limit room maker stop rest stored (skipped.map .notice) =
      (account limit room maker stop rest stored []).behind skipped := by
  simpa using account_skipped limit room maker stop rest stored skipped []

@[simp] theorem Script.account_skipped (limit : Option Nat) (maker : StoreMaker)
    (skipped : List Notice) (script : Script) :
    account limit (skipped.map .notice ++ script) maker =
      (account limit script maker).behind skipped := by
  induction skipped with
  | nil => rfl
  | cons given skipped ih => simp [account, ih]

@[simp] theorem Script.account_map (limit : Option Nat) (maker : StoreMaker)
    (skipped : List Notice) :
    account limit (skipped.map .notice) maker = (account limit [] maker).behind skipped := by
  simpa using account_skipped limit maker skipped []

theorem Script.account_of_open_failed {script : Script} {error : SourceError} {limit : Option Nat}
    {maker : StoreMaker} (opened : script.open false = .failed error) :
    account limit script maker = ⟨[], some (.raised error), maker⟩ := by
  have answer := script.opened_open false
  rw [opened] at answer
  cases answer with
  | @failed stop _ _ begins fails =>
    subst begins
    cases stop with
    | hangs => cases fails
    | fails error =>
      cases fails
      rfl

theorem Script.ending_of_open_waits {script : Script} (opened : script.open false = .waits)
    (limit : Option Nat) (maker : StoreMaker) : (account limit script maker).ending = none := by
  have answer := script.opened_open false
  rw [opened] at answer
  cases answer with
  | waits begins =>
    subst begins
    rfl

namespace Cursor

/-- What reading on in the current result comes to, with the notices that have come in already. -/
def within (limit room : Option Nat) (maker : StoreMaker) (stored : Nat) (cursor : Cursor) :
    Account :=
  (Item.account limit room maker cursor.stop (Script.account limit cursor.script maker) stored
    cursor.items).behind cursor.notices

/-- What going on with the next result comes to, with the notices that have come in already. -/
def onward (limit : Option Nat) (maker : StoreMaker) (cursor : Cursor) : Account :=
  (Script.account limit cursor.script maker).behind cursor.notices

section

variable {cursor next : Cursor} {limit room : Option Nat} {maker : StoreMaker} {stored : Nat}

theorem within_of_value {row : Row} (fetched : cursor.nextRow false = (.value row, next)) :
    cursor.within limit room maker stored =
      if limit.any (· ≤ stored) then next.within limit room maker stored
      else if room.any (· ≤ stored) then
        ⟨next.notices, some (.unstored RowStore.diskFull), maker⟩
      else next.within limit room maker (stored + 1) := by
  have taken := cursor.rowTaken_nextRow false
  rw [fetched] at taken
  cases taken with
  | value found =>
    simp only [within, found, Item.account_skipped, Item.account, Account.behind_behind]
    split
    · rfl
    · split
      · simp [Account.behind]
      · rfl

theorem within_of_ended (fetched : cursor.nextRow false = (.ended, next)) :
    cursor.within limit room maker stored = next.onward limit maker := by
  have taken := cursor.rowTaken_nextRow false
  rw [fetched] at taken
  cases taken with
  | ended found stop => simp [within, onward, found, stop, Item.account]

theorem within_of_failed {error : SourceError}
    (fetched : cursor.nextRow false = (.failed error, next)) :
    cursor.within limit room maker stored = ⟨next.notices, some (.raised error), maker⟩ := by
  have taken := cursor.rowTaken_nextRow false
  rw [fetched] at taken
  cases taken with
  | @failed _ stop _ found stopped fails =>
    cases stop with
    | hangs => cases fails
    | fails error =>
      cases fails
      simp [within, found, stopped, Item.account, Stop.ending, Account.behind]

theorem within_of_waits (fetched : cursor.nextRow false = (.waits, next)) :
    cursor.within limit room maker stored = next.within limit room maker stored ∧
      (cursor.within limit room maker stored).ending = none := by
  have taken := cursor.rowTaken_nextRow false
  rw [fetched] at taken
  cases taken with
  | waits found stopped => simp [within, found, stopped, Item.account, Stop.ending]

theorem onward_of_value {header : Header} (fetched : cursor.nextResult false = (.value header, next)) :
    cursor.onward limit maker =
      (Script.account limit (.result ⟨header, next.items, next.stop⟩ :: next.script) maker).behind
        next.notices := by
  have taken := cursor.resultTaken_nextResult false
  rw [fetched] at taken
  cases taken with
  | value found => simp [onward, found]

theorem onward_of_ended (fetched : cursor.nextResult false = (.ended, next)) :
    cursor.onward limit maker = ⟨next.notices, some .finished, maker⟩ := by
  have taken := cursor.resultTaken_nextResult false
  rw [fetched] at taken
  cases taken with
  | ended found => simp [onward, found, Script.account, Account.behind]

theorem onward_of_failed {error : SourceError}
    (fetched : cursor.nextResult false = (.failed error, next)) :
    cursor.onward limit maker = ⟨next.notices, some (.raised error), maker⟩ := by
  have taken := cursor.resultTaken_nextResult false
  rw [fetched] at taken
  cases taken with
  | @failed _ stop _ _ found fails =>
    cases stop with
    | hangs => cases fails
    | fails error =>
      cases fails
      simp [onward, found, Script.account, Stop.ending, Account.behind]

theorem onward_of_waits (fetched : cursor.nextResult false = (.waits, next)) :
    cursor.onward limit maker = next.onward limit maker ∧
      (cursor.onward limit maker).ending = none := by
  have taken := cursor.resultTaken_nextResult false
  rw [fetched] at taken
  cases taken with
  | waits found => simp [onward, found, Script.account, Stop.ending]

end

end Cursor

end SqlDesk
