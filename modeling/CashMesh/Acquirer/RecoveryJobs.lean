import CashMesh.Acquirer.Statements
/-!
# The recovery jobs

A melt effect schedules one job. Workers lease it for one attempt after another and record what came
of an attempt; a lease that expired without an outcome, or whose outcome asks for a retry, makes room
for the next one. Claiming and recording are one transaction each over the job row they lock.
-/

namespace CashMesh.Acquirer

open CashMesh.Lib

/-! ### Errors -/

/-- `CashuStellarMeltRecoveryJobRepositoryErrorCode`. -/
inductive RecoveryJobErrorCode where
  | invalidInput
  | invalidRecord
  | leaseConflict
  | leaseLost
  | storageUnavailable
deriving DecidableEq

structure RecoveryJobError where
  code : RecoveryJobErrorCode
  message : String
deriving DecidableEq

namespace RecoveryJobError

def invalidInput : RecoveryJobError :=
  ⟨.invalidInput, "Cashu Stellar melt recovery job input is invalid."⟩

def invalidRecord : RecoveryJobError :=
  ⟨.invalidRecord, "Cashu Stellar melt recovery job history is invalid."⟩

def leaseLost : RecoveryJobError :=
  ⟨.leaseLost, "Cashu Stellar melt recovery lease is no longer current."⟩

def storageUnavailable : RecoveryJobError :=
  ⟨.storageUnavailable, "PostgreSQL Cashu Stellar melt recovery job storage is unavailable."⟩

/-- `mapStorageError` on what the database raises. -/
def ofDbError : DbError → RecoveryJobError
  | .objectNotInPrerequisiteState => leaseLost
  | .uniqueViolation _ =>
      ⟨.leaseConflict,
        "Cashu Stellar melt recovery lease identity conflicts with stored history."⟩
  | .checkViolation => invalidRecord
  | .foreignKeyViolation => storageUnavailable

end RecoveryJobError

/-- Run a statement within a transaction of the recovery jobs. -/
def recoveryStatement {α : Type} (statement : Except DbError α) : Except RecoveryJobError α :=
  statement.mapError .ofDbError

@[simp] theorem recoveryStatement_eq_ok {α : Type} {statement : Except DbError α} {a : α} :
    recoveryStatement statement = .ok a ↔ statement = .ok a :=
  mapError_eq_ok

/-! ### Leases and outcomes -/

/-- A lease as the repository returns it has the columns of its row. -/
abbrev CashuStellarMeltRecoveryLease := RecoveryLeaseRow

/-- What a worker records of its attempt. -/
inductive CashuStellarMeltRecoveryLeaseOutcome where
  | accepted (recordedAt : UnixTimestamp)
  | released (recordedAt : UnixTimestamp)
  | retryScheduled (reason : RecoveryRetryReason) (recordedAt nextAttemptAt : UnixTimestamp)
  | attentionRequired (reason : RecoveryAttentionReason) (recordedAt : UnixTimestamp)
deriving DecidableEq

namespace CashuStellarMeltRecoveryLeaseOutcome

def kind : CashuStellarMeltRecoveryLeaseOutcome → RecoveryOutcomeKind
  | accepted _ => .accepted
  | released _ => .released
  | retryScheduled _ _ _ => .retryScheduled
  | attentionRequired _ _ => .attentionRequired

def recordedAt : CashuStellarMeltRecoveryLeaseOutcome → UnixTimestamp
  | accepted recordedAt => recordedAt
  | released recordedAt => recordedAt
  | retryScheduled _ recordedAt _ => recordedAt
  | attentionRequired _ recordedAt => recordedAt

def reason : CashuStellarMeltRecoveryLeaseOutcome → Option RecoveryOutcomeReason
  | accepted _ => none
  | released _ => none
  | retryScheduled reason _ _ => some (.retry reason)
  | attentionRequired reason _ => some (.attention reason)

def nextAttemptAt : CashuStellarMeltRecoveryLeaseOutcome → Option UnixTimestamp
  | retryScheduled _ _ nextAttemptAt => some nextAttemptAt
  | _ => none

end CashuStellarMeltRecoveryLeaseOutcome

structure CashuStellarMeltRecoveryAttempt where
  lease : CashuStellarMeltRecoveryLease
  outcome : Option CashuStellarMeltRecoveryLeaseOutcome
deriving DecidableEq

def maxRecoveryLeaseSeconds : Nat := 300
def maxRecoveryAttempts : Nat := 1024

def mapLease (row : RecoveryLeaseRow) : Except RecoveryJobError CashuStellarMeltRecoveryLease := do
  ensure
    (row.claimedAt ≤ maxSafeInteger ∧ row.expiresAt ≤ maxSafeInteger ∧ 1 ≤ row.attemptNumber ∧
      row.attemptNumber ≤ maxRecoveryAttempts ∧ row.claimedAt < row.expiresAt ∧
      row.expiresAt - row.claimedAt ≤ maxRecoveryLeaseSeconds)
    .invalidRecord
  return row

def mapOutcome (row : RecoveryOutcomeRow) :
    Except RecoveryJobError CashuStellarMeltRecoveryLeaseOutcome := do
  ensure (row.recordedAt ≤ maxSafeInteger) .invalidRecord
  match row.outcomeKind, row.reason, row.nextAttemptAt with
  | .accepted, none, none => return .accepted row.recordedAt
  | .released, none, none => return .released row.recordedAt
  | .retryScheduled, some (.retry reason), some nextAttemptAt => do
      ensure (nextAttemptAt ≤ maxSafeInteger ∧ row.recordedAt < nextAttemptAt) .invalidRecord
      return .retryScheduled reason row.recordedAt nextAttemptAt
  | .attentionRequired, some (.attention reason), none =>
      return .attentionRequired reason row.recordedAt
  | _, _, _ => throw .invalidRecord

/-- The outcome of an attempt, none when it has none yet. -/
def mapStoredOutcome (row : Option RecoveryOutcomeRow) :
    Except RecoveryJobError (Option CashuStellarMeltRecoveryLeaseOutcome) :=
  match row with
  | none => return none
  | some row => do
      let outcome ← mapOutcome row
      return some outcome

/-- When the attempt after this one may begin. An attempt whose outcome asks for no retry has to be
the last one, and leaves the time as it is. -/
def nextEligibleAt (lease : CashuStellarMeltRecoveryLease)
    (outcome : Option CashuStellarMeltRecoveryLeaseOutcome) (eligibleAt : UnixTimestamp)
    (isLast : Bool) : Except RecoveryJobError UnixTimestamp :=
  match outcome with
  | none => return lease.expiresAt
  | some outcome => do
      ensure (lease.claimedAt ≤ outcome.recordedAt ∧ outcome.recordedAt ≤ lease.expiresAt)
        .invalidRecord
      match outcome with
      | .retryScheduled _ _ nextAttemptAt => return nextAttemptAt
      | _ => do
          ensure (isLast = true) .invalidRecord
          return eligibleAt

/-- The attempts from a position on. -/
def mapAttemptsFrom (position : Nat) (eligibleAt : UnixTimestamp) :
    List (RecoveryLeaseRow × Option RecoveryOutcomeRow) →
      Except RecoveryJobError (List CashuStellarMeltRecoveryAttempt)
  | [] => return []
  | row :: rest => do
      let lease ← mapLease row.1
      ensure (lease.attemptNumber = position + 1 ∧ eligibleAt ≤ lease.claimedAt) .invalidRecord
      let outcome ← mapStoredOutcome row.2
      let eligibleAt ← nextEligibleAt lease outcome eligibleAt rest.isEmpty
      let attempts ← mapAttemptsFrom (position + 1) eligibleAt rest
      return {
        lease
        outcome } :: attempts

def mapAttempts (initialAttemptAt : UnixTimestamp)
    (rows : List (RecoveryLeaseRow × Option RecoveryOutcomeRow)) :
    Except RecoveryJobError (List CashuStellarMeltRecoveryAttempt) :=
  mapAttemptsFrom 0 initialAttemptAt rows

/-! ### Jobs -/

inductive RecoveryTerminalState where
  | accepted
  | released
deriving DecidableEq

def RecoveryTerminalState.kind : RecoveryTerminalState → RecoveryOutcomeKind
  | accepted => .accepted
  | released => .released

inductive CashuStellarMeltRecoveryJobState where
  | scheduled (nextAttemptAt : UnixTimestamp)
  | leased (lease : CashuStellarMeltRecoveryLease)
  | attentionRequired (outcome : CashuStellarMeltRecoveryLeaseOutcome)
  | completed (completedAt : UnixTimestamp) (terminalState : RecoveryTerminalState)
deriving DecidableEq

structure CashuStellarMeltRecoveryJob where
  attempts : List CashuStellarMeltRecoveryAttempt
  effectId : CashuOperatorEffectId
  initialAttemptAt : UnixTimestamp
  paymentId : PaymentId
  state : CashuStellarMeltRecoveryJobState
deriving DecidableEq

/-- A job whose payment has come to an end. -/
def completedJobState (latest : Option CashuStellarMeltRecoveryAttempt)
    (completedAt : UnixTimestamp) (terminalState : RecoveryTerminalState) :
    Except RecoveryJobError CashuStellarMeltRecoveryJobState := do
  let latestOutcome := latest.bind (·.outcome)
  ensure
    (∀ outcome ∈ latestOutcome, outcome.kind = .accepted ∨ outcome.kind = .released →
      outcome.kind = terminalState.kind)
    .invalidRecord
  return .completed completedAt terminalState

/-- A job whose payment is under way, by its latest attempt. -/
def activeJobState (latest : Option CashuStellarMeltRecoveryAttempt)
    (initialAttemptAt : UnixTimestamp) :
    Except RecoveryJobError CashuStellarMeltRecoveryJobState :=
  match latest with
  | none => return .scheduled initialAttemptAt
  | some { lease, outcome := none } => return .leased lease
  | some { outcome := some (.retryScheduled _ _ nextAttemptAt), .. } =>
      return .scheduled nextAttemptAt
  | some { outcome := some (.attentionRequired reason recordedAt), .. } =>
      return .attentionRequired (.attentionRequired reason recordedAt)
  | some { outcome := some (.accepted _), .. } => throw .invalidRecord
  | some { outcome := some (.released _), .. } => throw .invalidRecord

/-- The state of a job, by the latest event of its payment. -/
def jobState (event : LifecycleEventRow) (latest : Option CashuStellarMeltRecoveryAttempt)
    (initialAttemptAt : UnixTimestamp) :
    Except RecoveryJobError CashuStellarMeltRecoveryJobState :=
  match event.state with
  | .consumed => completedJobState latest event.recordedAt .accepted
  | .released => completedJobState latest event.recordedAt .released
  | _ => activeJobState latest initialAttemptAt

/-- The job that the rows store. -/
def mapJob (row : RecoveryJobRow) (effect : OperatorEffectRow) (event : Option LifecycleEventRow)
    (attemptRows : List (RecoveryLeaseRow × Option RecoveryOutcomeRow)) :
    Except RecoveryJobError CashuStellarMeltRecoveryJob := do
  ensure
    (effect.startedAt ≤ maxSafeInteger ∧ effect.effectKind = .melt ∧
      row.initialAttemptAt = initialRecoveryAttemptAt effect.startedAt)
    .invalidRecord
  let event ← orFail event .invalidRecord
  let attempts ← mapAttempts row.initialAttemptAt attemptRows
  let state ← jobState event attempts.getLast? row.initialAttemptAt
  return {
    attempts
    effectId := row.effectId
    initialAttemptAt := row.initialAttemptAt
    paymentId := row.paymentId
    state }

/-- The leases of a payment in their order, each with its outcome. -/
def Db.attemptRowsOf (db : Db) (paymentId : PaymentId) :
    List (RecoveryLeaseRow × Option RecoveryOutcomeRow) :=
  (db.leasesOf paymentId).map fun lease =>
    (lease, db.cashuStellarMeltRecoveryOutcomes.find fun outcome =>
      outcome.leaseToken = lease.leaseToken ∧ outcome.paymentId = lease.paymentId)

/-- `findByPaymentId` of the recovery job repository. -/
def findJob (db : Db) (paymentId : PaymentId) :
    Except RecoveryJobError (Option CashuStellarMeltRecoveryJob) :=
  let joined := do
    let job ← db.recoveryJob paymentId
    let effect ← db.effect job.effectId job.paymentId
    return (job, effect)
  match joined with
  | none => return none
  | some (job, effect) => do
      let job ← mapJob job effect (db.latestEvent paymentId) (db.attemptRowsOf paymentId)
      return some job

def requireJob (db : Db) (paymentId : PaymentId) :
    Except RecoveryJobError CashuStellarMeltRecoveryJob := do
  let job ← findJob db paymentId
  orFail job .invalidRecord

/-! ### Claiming a lease -/

structure ClaimInput where
  claimedAt : UnixTimestamp
  expiresAt : UnixTimestamp
  leaseToken : Identifier
  workerId : Identifier
deriving DecidableEq

def validateClaim (input : ClaimInput) : Except RecoveryJobError Unit :=
  ensure
    (input.claimedAt ≤ maxSafeInteger ∧ input.expiresAt ≤ maxSafeInteger ∧
      input.claimedAt < input.expiresAt ∧
      input.expiresAt - input.claimedAt ≤ maxRecoveryLeaseSeconds)
    .invalidInput

/-- `is_eligible` of the eligibility query. -/
def IsEligible (db : Db) (job : RecoveryJobRow) (claimedAt : UnixTimestamp) : Prop :=
  let latestLease := db.latestLease job.paymentId
  let latestOutcome := latestLease.bind fun lease => db.recoveryOutcome lease.leaseToken
  (∃ state ∈ db.latestState job.paymentId, state.toReservationState.Active) ∧
    ((latestLease = none ∧ job.initialAttemptAt ≤ claimedAt) ∨
      (latestOutcome = none ∧ ∃ lease ∈ latestLease, lease.expiresAt ≤ claimedAt) ∨
      ∃ outcome ∈ latestOutcome, outcome.outcomeKind = .retryScheduled ∧
        ∃ nextAttemptAt ∈ outcome.nextAttemptAt, nextAttemptAt ≤ claimedAt)

instance (db : Db) (job : RecoveryJobRow) (claimedAt : UnixTimestamp) :
    Decidable (IsEligible db job claimedAt) :=
  inferInstanceAs (Decidable (_ ∧ _))

/-- `claimNext` with the candidate it selected. The selection may be out of date by the time the job
is locked, so any payment can be the candidate. -/
def claimNext (db : Db) (candidate : Option PaymentId) (input : ClaimInput) :
    Except RecoveryJobError (Option CashuStellarMeltRecoveryLease × Db) := do
  validateClaim input
  match candidate.bind db.recoveryJob with
  | none => return (none, db)
  | some job =>
      if IsEligible db job input.claimedAt then
        let row : RecoveryLeaseRow := {
          leaseToken := input.leaseToken
          paymentId := job.paymentId
          attemptNumber := nextAttemptNumber (db.latestLease job.paymentId)
          workerId := input.workerId
          claimedAt := input.claimedAt
          expiresAt := input.expiresAt }
        let s ← recoveryStatement (insertRecoveryLease ⟨db, []⟩ row)
        let lease ← mapLease row
        let db ← recoveryStatement s.commit
        return (some lease, db)
      else
        return (none, db)

/-! ### Recording an outcome -/

structure RecordOutcomeInput where
  leaseToken : Identifier
  outcome : CashuStellarMeltRecoveryLeaseOutcome
  paymentId : PaymentId
deriving DecidableEq

structure RecordOutcomeResult where
  job : CashuStellarMeltRecoveryJob
  replayed : Bool
deriving DecidableEq

def validateOutcome (input : RecordOutcomeInput) : Except RecoveryJobError Unit :=
  ensure
    (input.outcome.recordedAt ≤ maxSafeInteger ∧
      ∀ nextAttemptAt ∈ input.outcome.nextAttemptAt,
        nextAttemptAt ≤ maxSafeInteger ∧ input.outcome.recordedAt < nextAttemptAt)
    .invalidInput

/-- The row of an outcome. -/
def RecordOutcomeInput.row (input : RecordOutcomeInput) : RecoveryOutcomeRow where
  leaseToken := input.leaseToken
  paymentId := input.paymentId
  outcomeKind := input.outcome.kind
  reason := input.outcome.reason
  recordedAt := input.outcome.recordedAt
  nextAttemptAt := input.outcome.nextAttemptAt

/-- `recordOutcome`. A row that collides with another one is not inserted: a second lookup then finds
the outcome, which the first one has not, since the job row is locked. -/
def recordOutcome (db : Db) (input : RecordOutcomeInput) :
    Except RecoveryJobError (RecordOutcomeResult × Db) := do
  validateOutcome input
  ensure (db.recoveryJob input.paymentId).isSome .leaseLost
  ensure ((db.latestLease input.paymentId).map (·.leaseToken) = some input.leaseToken) .leaseLost
  let lease ← orFail (db.lease input.leaseToken) .leaseLost
  let existing := db.cashuStellarMeltRecoveryOutcomes.find fun outcome =>
    outcome.leaseToken = lease.leaseToken ∧ outcome.paymentId = lease.paymentId
  match existing with
  | some existing =>
      -- `assertStoredOutcome`
      ensure (lease.paymentId = input.paymentId ∧ existing = input.row)
        ⟨.leaseConflict, "Cashu Stellar melt recovery lease already has a different outcome."⟩
      let job ← requireJob db input.paymentId
      return ({
        job
        replayed := true }, db)
  | none =>
      ensure (lease.paymentId = input.paymentId) .leaseLost
      let s ← recoveryStatement (insertRecoveryOutcome ⟨db, []⟩ input.row)
      let job ← requireJob s.db input.paymentId
      let db ← recoveryStatement s.commit
      return ({
        job
        replayed := false }, db)

end CashMesh.Acquirer
