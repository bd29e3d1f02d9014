import CashMesh.Acquirer.System
import CashMesh.Lib.Process
/-!
# The recovery worker

One run of a worker claims the lease of one attempt, lets the coordinator recover the payment, and
records what came of it. A run is a process over the clock, the token factory, the coordinator and the
job repository. Its call of the coordinator is two effects, the call leaving and its answer arriving,
and whatever the coordinator does to the rows in between is done by the operations of the other
repositories.

The options are natural numbers, so that of the checks of an option its bounds remain, and a run that
is handed no valid input is not modelled.
-/

namespace CashMesh.Acquirer

open CashMesh.Lib

/-! ### The policy -/

def defaultRecoveryAttemptTimeoutMs : Nat := 65000
def defaultRecoveryLeaseSeconds : Nat := 90
def defaultRecoveryMaxAttempts : Nat := 6
def defaultRecoveryRetryBaseSeconds : Nat := 30
def defaultRecoveryRetryMaxSeconds : Nat := 300

def maxAttemptTimeoutMs : Nat := 120000
def maxLeaseSeconds : Nat := 300
def maxWorkerRecoveryAttempts : Nat := 32
def maxRetrySeconds : Nat := 3600

/-- `CashuStellarMeltRecoveryWorkerErrorCode`. -/
inductive RecoveryWorkerErrorCode where
  | clockUnavailable
  | invalidConfiguration
  | invalidRequest
  | leaseLost
  | requestAborted
  | storageUnavailable
deriving DecidableEq

structure RecoveryWorkerError where
  code : RecoveryWorkerErrorCode
  message : String
deriving DecidableEq

namespace RecoveryWorkerError

def invalidConfiguration : RecoveryWorkerError :=
  ⟨.invalidConfiguration, "Cashu Stellar melt recovery worker configuration is invalid."⟩

def requestAborted : RecoveryWorkerError :=
  ⟨.requestAborted, "Cashu Stellar melt recovery worker was aborted before a lease was claimed."⟩

def clockUnavailable : RecoveryWorkerError :=
  ⟨.clockUnavailable, "Cashu Stellar melt recovery worker clock is unavailable."⟩

def leaseLost : RecoveryWorkerError :=
  ⟨.leaseLost, "Cashu Stellar melt recovery lease is no longer current."⟩

/-- `mapRepositoryError`. -/
def ofRepositoryError (error : RecoveryJobError) : RecoveryWorkerError :=
  if error.code = .leaseLost then
    leaseLost
  else
    ⟨.storageUnavailable, "Cashu Stellar melt recovery worker storage is unavailable."⟩

end RecoveryWorkerError

structure RecoveryWorkerOptions where
  attemptTimeoutMs : Option Nat
  leaseDurationSeconds : Option Nat
  maxAttempts : Option Nat
  retryBaseSeconds : Option Nat
  retryMaxSeconds : Option Nat
  workerId : Identifier

/-- The bounds that `validatePolicy` checks. -/
def PolicyBounds (attemptTimeoutMs leaseDurationSeconds maxAttempts retryBaseSeconds
    retryMaxSeconds : Nat) : Prop :=
  (1 ≤ attemptTimeoutMs ∧ attemptTimeoutMs ≤ maxAttemptTimeoutMs) ∧
    (1 ≤ leaseDurationSeconds ∧ leaseDurationSeconds ≤ maxLeaseSeconds) ∧
    attemptTimeoutMs < leaseDurationSeconds * 1000 ∧
    (1 ≤ maxAttempts ∧ maxAttempts ≤ maxWorkerRecoveryAttempts) ∧
    (1 ≤ retryBaseSeconds ∧ retryBaseSeconds ≤ maxRetrySeconds) ∧
    retryBaseSeconds ≤ retryMaxSeconds ∧ retryMaxSeconds ≤ maxRetrySeconds

instance (attemptTimeoutMs leaseDurationSeconds maxAttempts retryBaseSeconds
    retryMaxSeconds : Nat) : Decidable (PolicyBounds attemptTimeoutMs leaseDurationSeconds
      maxAttempts retryBaseSeconds retryMaxSeconds) :=
  inferInstanceAs (Decidable (_ ∧ _))

/-- A policy within the bounds. -/
structure RecoveryWorkerPolicy where
  attemptTimeoutMs : Nat
  leaseDurationSeconds : Nat
  maxAttempts : Nat
  retryBaseSeconds : Nat
  retryMaxSeconds : Nat
  workerId : Identifier
  bounds : PolicyBounds attemptTimeoutMs leaseDurationSeconds maxAttempts retryBaseSeconds
    retryMaxSeconds

def validatePolicy (options : RecoveryWorkerOptions) :
    Except RecoveryWorkerError RecoveryWorkerPolicy :=
  let attemptTimeoutMs := options.attemptTimeoutMs.getD defaultRecoveryAttemptTimeoutMs
  let leaseDurationSeconds := options.leaseDurationSeconds.getD defaultRecoveryLeaseSeconds
  let maxAttempts := options.maxAttempts.getD defaultRecoveryMaxAttempts
  let retryBaseSeconds := options.retryBaseSeconds.getD defaultRecoveryRetryBaseSeconds
  let retryMaxSeconds := options.retryMaxSeconds.getD defaultRecoveryRetryMaxSeconds
  if bounds : PolicyBounds attemptTimeoutMs leaseDurationSeconds maxAttempts retryBaseSeconds
      retryMaxSeconds then
    .ok {
      attemptTimeoutMs
      leaseDurationSeconds
      maxAttempts
      retryBaseSeconds
      retryMaxSeconds
      workerId := options.workerId
      bounds }
  else
    .error .invalidConfiguration

/-! ### The coordinator, as the worker sees it -/

/-- `CashuStellarMeltRecoveryCoordinatorErrorCode`. -/
inductive RecoveryCoordinatorErrorCode where
  | clockUnavailable
  | effectNotRecoverable
  | evidenceInvalid
  | invalidConfiguration
  | invalidRequest
  | operatorNotConfigured
  | quoteEvidenceMissing
  | requestAborted
  | reservationNotFound
  | storageUnavailable
deriving DecidableEq

/-- What a call of `recover` throws. -/
inductive RecoverFailure where
  | coordinator (code : RecoveryCoordinatorErrorCode)
  | other
deriving DecidableEq

inductive CashuStellarMeltRecoveryResultState where
  | accepted
  | released
  | pending
  | needsAttention (attentionReason : CashuOperatorAttentionReason)
deriving DecidableEq

/-- What the worker reads of a `CashuStellarMeltRecoveryResultV1`. -/
structure CashuStellarMeltRecoveryResult where
  paymentId : PaymentId
  state : CashuStellarMeltRecoveryResultState
deriving DecidableEq

/-! ### The outcome of an attempt -/

def addSeconds (timestamp seconds : Nat) : Except RecoveryWorkerError UnixTimestamp := do
  ensure (timestamp + seconds ≤ maxSafeInteger) .clockUnavailable
  return timestamp + seconds

/-- The delay before the attempt after one. -/
def retryDelay (policy : RecoveryWorkerPolicy) (attemptNumber : Nat) : Nat :=
  min (policy.retryBaseSeconds * 2 ^ (attemptNumber - 1)) policy.retryMaxSeconds

def retryOrExhaust (policy : RecoveryWorkerPolicy) (lease : CashuStellarMeltRecoveryLease)
    (recordedAt : UnixTimestamp) (reason : RecoveryRetryReason) :
    Except RecoveryWorkerError CashuStellarMeltRecoveryLeaseOutcome := do
  if policy.maxAttempts ≤ lease.attemptNumber then
    return .attentionRequired .retryExhausted recordedAt
  else
    let nextAttemptAt ← addSeconds recordedAt (retryDelay policy lease.attemptNumber)
    return .retryScheduled reason recordedAt nextAttemptAt

def selectOutcome (policy : RecoveryWorkerPolicy) (lease : CashuStellarMeltRecoveryLease)
    (recordedAt : UnixTimestamp)
    (answer : Except RecoverFailure CashuStellarMeltRecoveryResult) :
    Except RecoveryWorkerError CashuStellarMeltRecoveryLeaseOutcome :=
  match answer with
  | .ok result =>
      if result.paymentId ≠ lease.paymentId then
        .ok (.attentionRequired .evidenceInvalid recordedAt)
      else
        match result.state with
        | .accepted => .ok (.accepted recordedAt)
        | .released => .ok (.released recordedAt)
        | .needsAttention .operatorResponseInvalid =>
            .ok (.attentionRequired .operatorResponseInvalid recordedAt)
        | .pending => retryOrExhaust policy lease recordedAt .nonterminalEvidence
        | .needsAttention _ => retryOrExhaust policy lease recordedAt .operatorStateUnknown
  | .error (.coordinator .requestAborted) =>
      retryOrExhaust policy lease recordedAt .workerAborted
  | .error (.coordinator .storageUnavailable) =>
      retryOrExhaust policy lease recordedAt .storageUnavailable
  | .error (.coordinator .clockUnavailable) | .error (.coordinator .invalidConfiguration)
  | .error (.coordinator .operatorNotConfigured) =>
      .ok (.attentionRequired .recoveryConfigurationInvalid recordedAt)
  | .error (.coordinator _) => .ok (.attentionRequired .evidenceInvalid recordedAt)
  | .error .other => retryOrExhaust policy lease recordedAt .storageUnavailable

/-! ### A run -/

/-- One await point of a run. -/
inductive WorkerEffect where
  | readClock
  | makeLeaseToken
  | claimNext (input : ClaimInput)
  | recover (paymentId : PaymentId)
  | recovered (paymentId : PaymentId)
  | recordOutcome (input : RecordOutcomeInput)
  | findByPaymentId (paymentId : PaymentId)

/-- The answers. A clock and a token factory can throw or return what is no time and no token. -/
abbrev WorkerAnswer : WorkerEffect → Type
  | .readClock => Option Nat
  | .makeLeaseToken => Option Identifier
  | .claimNext _ => Except RecoveryJobError (Option CashuStellarMeltRecoveryLease)
  | .recover _ => Unit
  | .recovered _ => Except RecoverFailure CashuStellarMeltRecoveryResult
  | .recordOutcome _ => Except RecoveryJobError RecordOutcomeResult
  | .findByPaymentId _ => Except RecoveryJobError (Option CashuStellarMeltRecoveryJob)

abbrev WorkerProcess := Process WorkerEffect WorkerAnswer RecoveryWorkerError

inductive RecoveryWorkerResult where
  | idle
  | completed (lease : CashuStellarMeltRecoveryLease) (state : RecoveryTerminalState)
  | retryScheduled (lease : CashuStellarMeltRecoveryLease) (reason : RecoveryRetryReason)
      (nextAttemptAt : UnixTimestamp)
  | attentionRequired (lease : CashuStellarMeltRecoveryLease) (reason : RecoveryAttentionReason)

namespace RecoveryWorker

def perform (effect : WorkerEffect) : WorkerProcess (WorkerAnswer effect) :=
  Process.perform effect

def readClock : WorkerProcess UnixTimestamp := do
  match ← perform .readClock with
  | none => throw .clockUnavailable
  | some timestamp =>
      if timestamp ≤ maxSafeInteger then
        return timestamp
      else
        throw .clockUnavailable

def makeLeaseToken : WorkerProcess Identifier := do
  match ← perform .makeLeaseToken with
  | none => throw .invalidConfiguration
  | some leaseToken => return leaseToken

/-- The time at which an outcome is recorded, which the lease has to hold. -/
def readRecordTime (lease : CashuStellarMeltRecoveryLease) : WorkerProcess UnixTimestamp := do
  let recordedAt ← readClock
  if recordedAt < lease.claimedAt ∨ lease.expiresAt < recordedAt then
    throw .leaseLost
  else
    return recordedAt

/-- The terminal state of a completed job. -/
def terminalStateOf (job : CashuStellarMeltRecoveryJob) : Option RecoveryTerminalState :=
  match job.state with
  | .completed _ terminalState => some terminalState
  | _ => none

def loadConcurrentTerminal (paymentId : PaymentId) :
    WorkerProcess (Option RecoveryTerminalState) := do
  match ← perform (.findByPaymentId paymentId) with
  | .error error => throw (.ofRepositoryError error)
  | .ok job => return job.bind terminalStateOf

/-- The result of a run whose outcome is recorded. -/
def resultOf (lease : CashuStellarMeltRecoveryLease) :
    CashuStellarMeltRecoveryLeaseOutcome → RecoveryWorkerResult
  | .accepted _ => .completed lease .accepted
  | .released _ => .completed lease .released
  | .retryScheduled reason _ nextAttemptAt => .retryScheduled lease reason nextAttemptAt
  | .attentionRequired reason _ => .attentionRequired lease reason

def persistOutcome (lease : CashuStellarMeltRecoveryLease)
    (outcome : CashuStellarMeltRecoveryLeaseOutcome) : WorkerProcess RecoveryWorkerResult := do
  match ← perform (.recordOutcome {
    leaseToken := lease.leaseToken
    outcome
    paymentId := lease.paymentId }) with
  | .ok _ => return resultOf lease outcome
  | .error error =>
      if error.code = .leaseLost then
        match ← loadConcurrentTerminal lease.paymentId with
        | some terminal => return .completed lease terminal
        | none => throw (.ofRepositoryError error)
      else
        throw (.ofRepositoryError error)

/-- What a run does with the lease it has claimed. -/
def attempt (policy : RecoveryWorkerPolicy) (lease : CashuStellarMeltRecoveryLease) :
    WorkerProcess RecoveryWorkerResult := do
  if policy.maxAttempts < lease.attemptNumber then
    let recordedAt ← readRecordTime lease
    persistOutcome lease (.attentionRequired .retryExhausted recordedAt)
  else
    perform (.recover lease.paymentId)
    let answer ← perform (.recovered lease.paymentId)
    let recordedAt ← readRecordTime lease
    let outcome ← Process.ofExcept (selectOutcome policy lease recordedAt answer)
    persistOutcome lease outcome

def runOnce (policy : RecoveryWorkerPolicy) (aborted : Bool) :
    WorkerProcess RecoveryWorkerResult := do
  if aborted then
    throw .requestAborted
  let claimedAt ← readClock
  let expiresAt ← Process.ofExcept (addSeconds claimedAt policy.leaseDurationSeconds)
  let leaseToken ← makeLeaseToken
  match ← perform (.claimNext {
    claimedAt
    expiresAt
    leaseToken
    workerId := policy.workerId }) with
  | .error error => throw (.ofRepositoryError error)
  | .ok none => return .idle
  | .ok (some lease) => attempt policy lease

end RecoveryWorker

/-! ### Workers over the database -/

/-- The committed rows, and the payments that the coordinator was called for, the latest call first. -/
structure RecoveryWorld where
  db : Db
  recovered : List PaymentId

/-- What a transaction answers: its result, its error, or that the storage failed, before or after the
commit. -/
inductive Answers {α : Type} (result : Except RecoveryJobError (α × Db)) (w : RecoveryWorld) :
    Except RecoveryJobError α → RecoveryWorld → Prop
  | ok {answer db} (hresult : result = .ok (answer, db)) :
      Answers result w (.ok answer) { w with db }
  | lost {answer db} (hresult : result = .ok (answer, db)) :
      Answers result w (.error .storageUnavailable) { w with db }
  | error {error} (hresult : result = .error error) : Answers result w (.error error) w
  | unavailable : Answers result w (.error .storageUnavailable) w

/-- One effect of a run, its answer and the world after it. -/
def workerPerforms : (effect : WorkerEffect) → RecoveryWorld → WorkerAnswer effect →
    RecoveryWorld → Prop
  | .readClock, w, _, w' => w' = w
  | .makeLeaseToken, w, _, w' => w' = w
  | .claimNext input, w, answer, w' =>
      ∃ candidate, Answers (claimNext w.db candidate input) w answer w'
  | .recover paymentId, w, _, w' => w' = { w with recovered := paymentId :: w.recovered }
  | .recovered _, w, _, w' => w' = w
  | .recordOutcome input, w, answer, w' => Answers (recordOutcome w.db input) w answer w'
  | .findByPaymentId paymentId, w, answer, w' =>
      (answer = findJob w.db paymentId ∨ answer = .error .storageUnavailable) ∧ w' = w

/-- What the rest of the acquirer does: any operation but those of the job repository, which only the
workers have. -/
inductive RecoveryWorld.Moves : RecoveryWorld → RecoveryWorld → Prop
  | other {w : RecoveryWorld} {operation : Operation} {db : Db}
      (hclaim : ∀ candidate input, operation ≠ .claimNext candidate input)
      (hrecord : ∀ input, operation ≠ .recordOutcome input)
      (hrun : operation.run w.db = some db) : Moves w { w with db }

/-- Runs of workers whose policies allow at most `maxAttempts` attempts. -/
def WorkerStarts (maxAttempts : Nat) (process : WorkerProcess RecoveryWorkerResult) : Prop :=
  ∃ (policy : RecoveryWorkerPolicy) (aborted : Bool), policy.maxAttempts = maxAttempts ∧
    process = RecoveryWorker.runOnce policy aborted

abbrev RecoveryStep (maxAttempts : Nat) :=
  Pool.Step workerPerforms RecoveryWorld.Moves (WorkerStarts maxAttempts)

/-- Any run of the workers and the acquirer from the empty database. -/
def RecoveryReachable (maxAttempts : Nat)
    (c : Pool RecoveryWorld (WorkerProcess RecoveryWorkerResult)) : Prop :=
  Relation.ReflTransGen (RecoveryStep maxAttempts) ⟨⟨Db.empty, []⟩, []⟩ c

end CashMesh.Acquirer
