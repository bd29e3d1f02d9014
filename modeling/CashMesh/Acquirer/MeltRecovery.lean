import CashMesh.Acquirer.MeltDispatch
import CashMesh.Acquirer.RecoveryWorker
/-!
# The recovery of a melt

One run of the recovery coordinator finds out what has become of a melt: it asks the mint for the quote
and for the states of the proofs, puts both on record, and then accepts the payment, releases the
reservation, or leaves the payment pending or to the attention of the operator. It sends nothing that
spends.

Any number of runs may work on one payment at a time, beside the dispatch. What a write was refused for
is not asked: the run reads the payment again, and returns what has settled it meanwhile.

The quotes and the proof states come from dependencies that may answer anything or throw anything; what
they throw is told apart by its class and code.
-/

namespace CashMesh.Acquirer

open CashMesh.Lib

/-! ### Errors -/

structure RecoveryCoordinatorError where
  code : RecoveryCoordinatorErrorCode
  message : String
deriving DecidableEq

namespace RecoveryCoordinatorError

def clockUnavailable : RecoveryCoordinatorError :=
  ⟨.clockUnavailable, "Cashu Stellar melt recovery clock is unavailable."⟩

def effectNotRecoverable : RecoveryCoordinatorError :=
  ⟨.effectNotRecoverable, "Cashu Stellar melt recovery requires an active melt effect."⟩

def evidenceInvalid : RecoveryCoordinatorError :=
  ⟨.evidenceInvalid, "Cashu Stellar melt recovery evidence is invalid."⟩

def operatorNotConfigured : RecoveryCoordinatorError :=
  ⟨.operatorNotConfigured, "Cashu Stellar melt recovery operator is not configured."⟩

def quoteEvidenceMissing : RecoveryCoordinatorError :=
  ⟨.quoteEvidenceMissing, "Cashu Stellar melt recovery quote evidence was not found."⟩

def requestAborted : RecoveryCoordinatorError :=
  ⟨.requestAborted, "Cashu Stellar melt recovery observation was aborted."⟩

def reservationNotFound : RecoveryCoordinatorError :=
  ⟨.reservationNotFound, "Cashu Stellar melt recovery reservation was not found."⟩

def storageUnavailable : RecoveryCoordinatorError :=
  ⟨.storageUnavailable, "Cashu Stellar melt recovery storage is unavailable."⟩

end RecoveryCoordinatorError

/-- `CashuProofStateObservationErrorCode`. -/
inductive CashuProofStateObservationErrorCode where
  | invalidClock
  | invalidMint
  | invalidObservationInput
  | invalidStateResponse
  | observationAborted
  | proofLimitExceeded
  | sourceUnavailable
  | stateResponseMismatch
deriving DecidableEq

/-- `CashuMintProofStateHttpErrorCode`. -/
inductive CashuMintProofStateHttpErrorCode where
  | invalidConfiguration
  | invalidRequest
  | invalidResponse
  | networkError
  | requestAborted
  | requestTimeout
  | responseTooLarge
  | unexpectedStatus
deriving DecidableEq

/-- What an observation fails with. -/
inductive ObservationFailure where
  | quoteClient (code : CashuStellarMeltQuoteClientErrorCode)
  | proofStateObservation (code : CashuProofStateObservationErrorCode)
  | mintProofStateHttp (code : CashuMintProofStateHttpErrorCode)
  | coordinator (error : RecoveryCoordinatorError)
  | other
deriving DecidableEq

/-- `isObservationAbort`. -/
def ObservationFailure.IsAbort (failure : ObservationFailure) : Prop :=
  failure = .quoteClient .requestAborted ∨ failure = .proofStateObservation .observationAborted ∨
    failure = .mintProofStateHttp .requestAborted

instance : DecidablePred ObservationFailure.IsAbort := fun _ =>
  inferInstanceAs (Decidable (_ ∨ _))

def observationFailureReason : ObservationFailure → CashuOperatorAttentionReason
  | .quoteClient .invalidResponse | .quoteClient .quoteResponseMismatch
  | .quoteClient .responseTooLarge => .operatorResponseInvalid
  | .proofStateObservation .invalidStateResponse
  | .proofStateObservation .stateResponseMismatch => .operatorResponseInvalid
  | .mintProofStateHttp .invalidResponse | .mintProofStateHttp .responseTooLarge =>
      .operatorResponseInvalid
  | .coordinator _ => .operatorResponseInvalid
  | _ => .operatorStateUnknown

/-! ### Results -/

/-- `CashuStellarMeltRecoveryResultV1`, by its state. -/
inductive CashuStellarMeltRecoveryState where
  | accepted (accounting : AcceptedInvoicePayment) (replayed : Bool)
  | released (replayed : Bool)
  | pending (proofStateObservedAt quoteObservedAt : UnixTimestamp)
  | needsAttention (attentionReason : CashuOperatorAttentionReason)
deriving DecidableEq

structure CashuStellarMeltRecoveryResultV1 where
  lifecycle : CashuProofReservationLifecycle
  paymentId : PaymentId
  state : CashuStellarMeltRecoveryState
deriving DecidableEq

/-- `RecoveryContext`, with what the quoted attempt holds. -/
structure RecoveryContext where
  attempt : StoredCashuStellarMeltQuoteAttempt
  latestQuote : CashuStellarMeltQuote
  observations : List CashuStellarMeltQuote
  effect : CashuOperatorEffect
  lifecycle : CashuProofReservationLifecycle
  paymentId : PaymentId
  reservation : CashuProofReservation

/-- `ExpectedRecoveryEvent`. -/
structure ExpectedRecoveryEvent where
  evidenceAt : UnixTimestamp
  evidenceKind : EvidenceKind
  eventId : CashuReservationLifecycleEventId
  state : LifecycleEventState

/-- `ReloadedRecovery`. -/
inductive ReloadedRecovery where
  | equivalentEvent (lifecycle : CashuProofReservationLifecycle)
  | terminal (result : CashuStellarMeltRecoveryResultV1)

/-! ### Checks of what is stored and observed -/

def requireRecoverableEffect (lifecycle : CashuProofReservationLifecycle) :
    Except RecoveryCoordinatorError CashuOperatorEffect := do
  let effect ← orFail lifecycle.effect .effectNotRecoverable
  ensure (effect.kind = .melt ∧ lifecycle.state.Active) .effectNotRecoverable
  return effect

/-- `requireRecoverableAttempt`, to the attempt, its latest quote and its observations. -/
def requireRecoverableAttempt (cashuTs : CashuTs) (attempt : CashuStellarMeltQuoteAttempt)
    (reservation : CashuProofReservation) (effect : CashuOperatorEffect) :
    Except RecoveryCoordinatorError
      (StoredCashuStellarMeltQuoteAttempt × CashuStellarMeltQuote × List CashuStellarMeltQuote) :=
  match attempt with
  | .quoted base latestQuote observations => do
      ensure
        (base.paymentId = reservation.paymentId ∧ base.invoiceId = reservation.invoiceId ∧
          base.operatorId = reservation.operatorId ∧
          normalizeCashuMintUrl cashuTs base.mintUrl = some reservation.mintUrl)
        .evidenceInvalid
      let quote ← orFail (createCashuStellarMeltQuote latestQuote) .evidenceInvalid
      let latestObservation ← orFail observations.getLast? .evidenceInvalid
      ensure
        (MatchingQuoteSnapshots quote latestObservation ∧
          effect.terms.operatorReference = some quote.quoteId ∧
          effect.terms.operatorReferenceExpiresAt = some quote.expiry ∧
          quote.mintUrl = reservation.mintUrl ∧ base.startedAt ≤ effect.startedAt ∧
          effect.startedAt < quote.expiry)
        .evidenceInvalid
      return (base, latestQuote, observations)
  | _ => .error .evidenceInvalid

/-- `assertObservedQuote` of the coordinator. -/
def MeltRecoveryCoordinator.assertObservedQuote (quote : CashuStellarMeltQuote)
    (context : RecoveryContext) :
    Except RecoveryCoordinatorError Unit := do
  ensure (MatchingImmutableQuoteTerms quote context.latestQuote) .evidenceInvalid
  let last ← orFail context.observations.getLast? .evidenceInvalid
  ensure
    (last.observedAt ≤ quote.observedAt ∧
      (quote.observedAt = last.observedAt → SameQuote quote context.latestQuote))
    .evidenceInvalid

def validateProofStateSnapshot (input : CashuProofStateSnapshot)
    (reservation : CashuProofReservation) :
    Except RecoveryCoordinatorError CashuProofStateSnapshot := do
  let snapshot ← orFail (createCashuProofStateSnapshot input) .evidenceInvalid
  ensure
    (snapshot.mintUrl = reservation.mintUrl ∧
      snapshot.states.map (·.y) = reservation.proofReferences.map (·.y))
    .evidenceInvalid
  return snapshot

/-- `uniformProofState`, with none for `MIXED`. -/
def uniformProofState (snapshot : CashuProofStateSnapshot) : Option CashuProofStateValue :=
  match snapshot.states with
  | [] => none
  | first :: rest => if ∀ state ∈ rest, state.state = first.state then some first.state else none

/-- What `recoveryFingerprint` hashes. -/
def recoveryKey (context : RecoveryContext) : RecoveryKey where
  effectId := context.effect.effectId
  mintUrl := context.reservation.mintUrl
  paymentId := context.paymentId
  quoteId := context.latestQuote.quoteId

/-- `recoveryEventId`. -/
def recoveryEventId (context : RecoveryContext) (kind : RecoveryEventKind)
    (evidenceAt : UnixTimestamp) : CashuReservationLifecycleEventId :=
  .stellarMeltRecovery evidenceAt kind (recoveryKey context)

/-- `lifecycle.events.at(-1)?.recordedAt`, or else the start of the effect. -/
def latestRecordedAt (context : RecoveryContext) : UnixTimestamp :=
  match context.lifecycle.events.getLast? with
  | some event => event.base.recordedAt
  | none => context.effect.startedAt

/-- Whether the latest event of a lifecycle is the expected one. -/
def MatchesExpectedEvent (lifecycle : CashuProofReservationLifecycle)
    (expected : ExpectedRecoveryEvent) : Prop :=
  lifecycle.state = expected.state.toReservationState ∧
    ∃ event ∈ lifecycle.events.getLast?, event.base.eventId = expected.eventId ∧
      event.state = expected.state ∧ event.evidenceKind = some expected.evidenceKind ∧
      event.evidenceAt = some expected.evidenceAt

instance (lifecycle : CashuProofReservationLifecycle) (expected : ExpectedRecoveryEvent) :
    Decidable (MatchesExpectedEvent lifecycle expected) :=
  inferInstanceAs (Decidable (_ ∧ ∃ event ∈ lifecycle.events.getLast?, _))

/-! ### A run -/

/-- One await point of a run, a reading of a clock, or a look at the signal of the caller. -/
inductive RecoveryEffect where
  | readClock
  | readSignal
  | findReservation (paymentId : PaymentId)
  | findLifecycle (paymentId : PaymentId)
  | findAcceptedPayment (paymentId : PaymentId)
  | findQuote (paymentId : PaymentId)
  | check (quote : CashuStellarMeltQuote)
  | observeQuote (input : QuoteInput)
  | observeProofs (mintUrl : MintUrl) (proofReferences : List CashuProofReference)
  | persistObservation (input : PersistProofStateInput)
  | acceptPayment (input : AcceptPaymentInput)
  | release (input : ReleaseInput)
  | recordPending (input : EventInput)
  | requireAttention (input : EventInput) (reason : CashuOperatorAttentionReason)

/-- The answers. A clock can throw or return what is no time. -/
abbrev RecoveryAnswer : RecoveryEffect → Type
  | .readClock => Option Nat
  | .readSignal => Bool
  | .findReservation _ => Except ReservationError (Option CashuProofReservation)
  | .findLifecycle _ => Except LifecycleError (Option CashuProofReservationLifecycle)
  | .findAcceptedPayment _ => Except LifecycleError (Option AcceptedInvoicePayment)
  | .findQuote _ => Except QuoteError (Option CashuStellarMeltQuoteAttempt)
  | .check _ => Except ObservationFailure CashuStellarMeltQuote
  | .observeQuote _ => Except QuoteError QuoteAttemptResult
  | .observeProofs _ _ => Except ObservationFailure CashuProofStateSnapshot
  | .persistObservation _ => Except ProofStateError PersistProofStateResult
  | .acceptPayment _ => Except LifecycleError AcceptPaymentResult
  | .release _ => Except LifecycleError LifecycleResult
  | .recordPending _ => Except LifecycleError LifecycleResult
  | .requireAttention _ _ => Except LifecycleError LifecycleResult

abbrev RecoveryProcess := Process RecoveryEffect RecoveryAnswer RecoveryCoordinatorError

/-- The configuration of a coordinator: its library, and the mints of its checkers and observers. -/
structure MeltRecoveryCoordinator where
  cashuTs : CashuTs
  quoteCheckers : List MintUrl
  proofStateObservers : List MintUrl

namespace MeltRecoveryCoordinator

variable {ε α : Type}

def perform (effect : RecoveryEffect) :
    Process RecoveryEffect RecoveryAnswer ε (RecoveryAnswer effect) :=
  Process.perform effect

/-- Throw `error` unless the condition holds. -/
def require (condition : Prop) [Decidable condition] (error : ε) :
    Process RecoveryEffect RecoveryAnswer ε Unit :=
  Process.ofExcept (ensure condition error)

def readClock : RecoveryProcess UnixTimestamp := do
  match ← perform .readClock with
  | none => throw .clockUnavailable
  | some timestamp =>
      if timestamp ≤ maxSafeInteger then
        return timestamp
      else
        throw .clockUnavailable

def loadReservation (cashuTs : CashuTs) (paymentId : PaymentId) :
    RecoveryProcess CashuProofReservation := do
  match ← perform (.findReservation paymentId) with
  | .error _ => throw .storageUnavailable
  | .ok none => throw .reservationNotFound
  | .ok (some found) =>
      Process.ofExcept (validateReservation cashuTs .evidenceInvalid found paymentId)

def loadLifecycle (paymentId : PaymentId) : RecoveryProcess CashuProofReservationLifecycle := do
  match ← perform (.findLifecycle paymentId) with
  | .error _ => throw .storageUnavailable
  | .ok none => throw .evidenceInvalid
  | .ok (some found) => do
      require (found.paymentId = paymentId) .evidenceInvalid
      return found

def loadQuoteAttempt (paymentId : PaymentId) : RecoveryProcess CashuStellarMeltQuoteAttempt := do
  match ← perform (.findQuote paymentId) with
  | .error _ => throw .storageUnavailable
  | .ok none => throw .quoteEvidenceMissing
  | .ok (some found) => return found

/-- The result of a payment that has been settled already. -/
def terminalResult (paymentId : PaymentId) (lifecycle : CashuProofReservationLifecycle) :
    RecoveryProcess (Option CashuStellarMeltRecoveryResultV1) :=
  match lifecycle.state with
  | .released => return some {
      lifecycle
      paymentId
      state := .released true }
  | .consumed => do
      match ← perform (.findAcceptedPayment paymentId) with
      | .error _ => throw .storageUnavailable
      | .ok none => throw .evidenceInvalid
      | .ok (some accounting) =>
          return some {
            lifecycle
            paymentId
            state := .accepted accounting true }
  | _ => return none

/-- `reloadAfterEventWrite`. What it throws itself is as if there were nothing. -/
def reloadAfterEventWrite (paymentId : PaymentId) (expected : Option ExpectedRecoveryEvent) :
    RecoveryProcess (Option ReloadedRecovery) := do
  match ← perform (.findLifecycle paymentId) with
  | .error _ => return none
  | .ok none => return none
  | .ok (some lifecycle) =>
      if lifecycle.paymentId = paymentId then
        match ← (terminalResult paymentId lifecycle).attempt with
        | .error _ => return none
        | .ok (some result) => return some (.terminal result)
        | .ok none =>
            if ∃ event ∈ expected, MatchesExpectedEvent lifecycle event then
              return some (.equivalentEvent lifecycle)
            else
              return none
      else
        return none

/-- `reloadTerminal`. -/
def reloadTerminal (paymentId : PaymentId) :
    RecoveryProcess (Option CashuStellarMeltRecoveryResultV1) := do
  match ← reloadAfterEventWrite paymentId none with
  | some (.terminal result) => return some result
  | _ => return none

/-- `recordAttention`, once the time of the record is known. -/
def recordAttentionAt (context : RecoveryContext) (reason : CashuOperatorAttentionReason)
    (evidenceAt recordedAt : UnixTimestamp) : RecoveryProcess CashuStellarMeltRecoveryResultV1 := do
  require
    (context.effect.startedAt ≤ evidenceAt ∧ evidenceAt ≤ recordedAt ∧
      latestRecordedAt context ≤ recordedAt)
    .clockUnavailable
  let eventId := recoveryEventId context (.attention reason) evidenceAt
  match ← perform (.requireAttention {
    effectId := context.effect.effectId
    eventId
    evidenceAt
    paymentId := context.paymentId
    recordedAt } reason) with
  | .ok attention =>
      return {
        lifecycle := attention.lifecycle
        paymentId := context.paymentId
        state := .needsAttention reason }
  | .error _ =>
      match ← reloadAfterEventWrite context.paymentId (some {
        evidenceAt
        evidenceKind := .attention reason
        eventId
        state := .needsAttention }) with
      | some (.terminal result) => return result
      | some (.equivalentEvent lifecycle) =>
          return {
            lifecycle
            paymentId := context.paymentId
            state := .needsAttention reason }
      | none => throw .storageUnavailable

/-- `recordAttention` without a known time. -/
def recordAttention (context : RecoveryContext) (reason : CashuOperatorAttentionReason)
    (evidenceAt : UnixTimestamp) : RecoveryProcess CashuStellarMeltRecoveryResultV1 := do
  let recordedAt ← readClock
  recordAttentionAt context reason evidenceAt recordedAt

def handleObservationFailure (context : RecoveryContext) (failure : ObservationFailure)
    (evidenceAt : Option UnixTimestamp) : RecoveryProcess CashuStellarMeltRecoveryResultV1 := do
  let aborted ← perform .readSignal
  if aborted ∨ failure.IsAbort then
    throw .requestAborted
  else
    match evidenceAt with
    | some evidenceAt => recordAttention context (observationFailureReason failure) evidenceAt
    | none => do
        let now ← readClock
        recordAttention context (observationFailureReason failure) now

/-- What a run does when a write of observed evidence fails: it returns what has settled the payment
meanwhile, or leaves the payment to the operator. -/
def settledOrAttention (context : RecoveryContext) (evidenceAt : UnixTimestamp) :
    RecoveryProcess CashuStellarMeltRecoveryResultV1 := do
  match ← reloadTerminal context.paymentId with
  | some result => return result
  | none => recordAttention context .operatorStateUnknown evidenceAt

/-- The same for a write of the lifecycle, whose time is known. -/
def settledOrAttentionAt (context : RecoveryContext) (evidenceAt recordedAt : UnixTimestamp) :
    RecoveryProcess CashuStellarMeltRecoveryResultV1 := do
  match ← reloadTerminal context.paymentId with
  | some result => return result
  | none => recordAttentionAt context .operatorStateUnknown evidenceAt recordedAt

def acceptPayment (context : RecoveryContext) (quote : CashuStellarMeltQuote)
    (proofState : CashuProofStateSnapshot) (recordedAt : UnixTimestamp) :
    RecoveryProcess CashuStellarMeltRecoveryResultV1 := do
  match ← perform (.acceptPayment {
    effectId := context.effect.effectId
    eventId := .stellarMeltRecoveryAccepted (recoveryKey context)
    evidenceAt := quote.observedAt
    paymentId := context.paymentId
    recordedAt
    feeAmount := 0
    journalEntryId := .stellarMeltPayment (recoveryKey context)
    proofStateObservedAt := proofState.observedAt }) with
  | .ok accepted =>
      return {
        lifecycle := accepted.lifecycle
        paymentId := context.paymentId
        state := .accepted accepted.accounting accepted.replayed }
  | .error _ => settledOrAttentionAt context proofState.observedAt recordedAt

def releaseReservation (context : RecoveryContext) (quote : CashuStellarMeltQuote)
    (proofState : CashuProofStateSnapshot) (recordedAt : UnixTimestamp) :
    RecoveryProcess CashuStellarMeltRecoveryResultV1 := do
  match ← perform (.release (.afterFailure {
    effectId := context.effect.effectId
    eventId := .stellarMeltRecoveryReleased (recoveryKey context)
    evidenceAt := quote.observedAt
    paymentId := context.paymentId
    recordedAt
    evidenceKind := .meltUnpaidAfterExpiry
    proofStateObservedAt := proofState.observedAt })) with
  | .ok released =>
      return {
        lifecycle := released.lifecycle
        paymentId := context.paymentId
        state := .released released.replayed }
  | .error _ => settledOrAttentionAt context proofState.observedAt recordedAt

def pendingResult (context : RecoveryContext) (quote : CashuStellarMeltQuote)
    (proofState : CashuProofStateSnapshot) (recordedAt : UnixTimestamp) :
    RecoveryProcess CashuStellarMeltRecoveryResultV1 := do
  let result (lifecycle : CashuProofReservationLifecycle) : CashuStellarMeltRecoveryResultV1 := {
    lifecycle
    paymentId := context.paymentId
    state := .pending proofState.observedAt quote.observedAt }
  if quote.state = .pending then
    let eventId := recoveryEventId context .pending quote.observedAt
    match ← perform (.recordPending {
      effectId := context.effect.effectId
      eventId
      evidenceAt := quote.observedAt
      paymentId := context.paymentId
      recordedAt }) with
    | .ok pending => return result pending.lifecycle
    | .error _ =>
        match ← reloadAfterEventWrite context.paymentId (some {
          evidenceAt := quote.observedAt
          evidenceKind := .operatorPending
          eventId
          state := .pending }) with
        | some (.terminal result) => return result
        | some (.equivalentEvent lifecycle) => return result lifecycle
        | none => throw .storageUnavailable
  else
    return result context.lifecycle

/-- The quote as the mint has it now. -/
def checkQuote (context : RecoveryContext) :
    Process RecoveryEffect RecoveryAnswer ObservationFailure CashuStellarMeltQuote := do
  match ← perform (.check context.latestQuote) with
  | .error failure => throw failure
  | .ok checked => do
      let quote ← Process.ofExcept (orFail (createCashuStellarMeltQuote checked) .other)
      Process.ofExcept ((assertObservedQuote quote context).mapError .coordinator)
      return quote

/-- The states of the proofs as the mint has them now. -/
def observeProofStates (context : RecoveryContext) :
    Process RecoveryEffect RecoveryAnswer ObservationFailure CashuProofStateSnapshot := do
  match ← perform (.observeProofs context.reservation.mintUrl
    context.reservation.proofReferences) with
  | .error failure => throw failure
  | .ok observed =>
      Process.ofExcept
        ((validateProofStateSnapshot observed context.reservation).mapError .coordinator)

/-- Put the quote on record. -/
def storeQuote (coordinator : MeltRecoveryCoordinator) (context : RecoveryContext)
    (quote : CashuStellarMeltQuote) : RecoveryProcess Unit := do
  match ← perform (.observeQuote {
    attemptId := context.attempt.attemptId
    paymentId := context.paymentId
    quote }) with
  | .error _ => throw .storageUnavailable
  | .ok stored => do
      let storedAttempt ← Process.ofExcept
        (requireRecoverableAttempt coordinator.cashuTs stored.attempt context.reservation
          context.effect)
      require (SameQuote storedAttempt.2.1 quote) .evidenceInvalid

/-- Put the states of the proofs on record. -/
def storeProofState (context : RecoveryContext) (proofState : CashuProofStateSnapshot) :
    RecoveryProcess Unit := do
  match ← perform (.persistObservation {
    operatorId := context.reservation.operatorId
    paymentId := context.paymentId
    snapshot := proofState
    unit := context.reservation.unit }) with
  | .error _ => throw .storageUnavailable
  | .ok stored => do
      let storedSnapshot ← Process.ofExcept
        (validateProofStateSnapshot stored.snapshot context.reservation)
      require (storedSnapshot = proofState) .evidenceInvalid

/-- What a run makes of the evidence that it has put on record. -/
def settle (context : RecoveryContext) (quote : CashuStellarMeltQuote)
    (proofState : CashuProofStateSnapshot) : RecoveryProcess CashuStellarMeltRecoveryResultV1 := do
  let recordedAt ← readClock
  require
    (context.effect.startedAt ≤ quote.observedAt ∧ quote.observedAt ≤ proofState.observedAt ∧
      latestRecordedAt context ≤ recordedAt ∧ proofState.observedAt ≤ recordedAt)
    .clockUnavailable
  let proofStateValue := uniformProofState proofState
  if quote.state = .paid ∧ proofStateValue = some .spent then
    acceptPayment context quote proofState recordedAt
  else if quote.state = .unpaid ∧ quote.expiry ≤ quote.observedAt ∧
      proofStateValue = some .unspent then
    releaseReservation context quote proofState recordedAt
  else if (quote.state = .pending ∧
        (proofStateValue = some .pending ∨ proofStateValue = some .unspent)) ∨
      (quote.state = .unpaid ∧ quote.observedAt < quote.expiry ∧
        proofStateValue = some .unspent) then
    pendingResult context quote proofState recordedAt
  else
    recordAttentionAt context .operatorStateUnknown
      (max quote.observedAt proofState.observedAt) recordedAt

/-- A run that has found a melt to recover. -/
def observeAndSettle (coordinator : MeltRecoveryCoordinator) (context : RecoveryContext) :
    RecoveryProcess CashuStellarMeltRecoveryResultV1 := do
  match ← (checkQuote context).attempt with
  | .error failure => handleObservationFailure context failure none
  | .ok quote =>
      match ← (storeQuote coordinator context quote).attempt with
      | .error _ => settledOrAttention context quote.observedAt
      | .ok () =>
          match ← (observeProofStates context).attempt with
          | .error failure => handleObservationFailure context failure (some quote.observedAt)
          | .ok proofState =>
              match ← (storeProofState context proofState).attempt with
              | .error _ =>
                  settledOrAttention context (max quote.observedAt proofState.observedAt)
              | .ok () => settle context quote proofState

def recover (coordinator : MeltRecoveryCoordinator) (paymentId : PaymentId) :
    RecoveryProcess CashuStellarMeltRecoveryResultV1 := do
  match ← perform .readSignal with
  | true => throw .requestAborted
  | false =>
      let reservation ← loadReservation coordinator.cashuTs paymentId
      let lifecycle ← loadLifecycle paymentId
      match ← terminalResult paymentId lifecycle with
      | some result => return result
      | none =>
          let effect ← Process.ofExcept (requireRecoverableEffect lifecycle)
          let found ← loadQuoteAttempt paymentId
          let (attempt, latestQuote, observations) ← Process.ofExcept
            (requireRecoverableAttempt coordinator.cashuTs found reservation effect)
          require
            (reservation.mintUrl ∈ coordinator.quoteCheckers ∧
              reservation.mintUrl ∈ coordinator.proofStateObservers)
            .operatorNotConfigured
          observeAndSettle coordinator {
            attempt
            latestQuote
            observations
            effect
            lifecycle
            paymentId
            reservation }

end MeltRecoveryCoordinator

/-! ### Coordinators over the database -/

/-- One effect of a run, its answer and the rows after it. -/
def recoveryPerforms : (effect : RecoveryEffect) → Db → RecoveryAnswer effect → Db → Prop
  | .readClock, db, _, db' => db' = db
  | .readSignal, db, _, db' => db' = db
  | .findReservation paymentId, db, answer, db' =>
      Queries ⟨.storageUnavailable, "Cashu proof reservation storage operation failed."⟩
        (findReservation db paymentId) answer ∧ db' = db
  | .findLifecycle paymentId, db, answer, db' =>
      Queries .storageUnavailable (findLifecycle db paymentId) answer ∧ db' = db
  | .findAcceptedPayment paymentId, db, answer, db' =>
      Queries .storageUnavailable (findAcceptedPaymentByPaymentId db paymentId) answer ∧ db' = db
  | .findQuote paymentId, db, answer, db' =>
      Queries ⟨.storageUnavailable, "Cashu Stellar melt quote storage operation failed."⟩
        (findQuote db paymentId) answer ∧ db' = db
  | .check _, db, _, db' => db' = db
  | .observeQuote input, db, answer, db' =>
      Transacts ⟨.storageUnavailable, "Cashu Stellar melt quote storage operation failed."⟩
        (observe db input) db answer db'
  | .observeProofs _ _, db, _, db' => db' = db
  | .persistObservation input, db, answer, db' =>
      Transacts ⟨.storageUnavailable, "Cashu proof-state storage operation failed."⟩
        (persistProofState db input) db answer db'
  | .acceptPayment input, db, answer, db' =>
      Transacts .storageUnavailable (acceptPayment db input) db answer db'
  | .release input, db, answer, db' =>
      Transacts .storageUnavailable (release db input) db answer db'
  | .recordPending input, db, answer, db' =>
      Transacts .storageUnavailable (recordPending db input) db answer db'
  | .requireAttention input reason, db, answer, db' =>
      Transacts .storageUnavailable (requireAttention db input reason) db answer db'

/-- Runs for any payment, of coordinators of any configuration. -/
def RecoveryStarts (process : RecoveryProcess CashuStellarMeltRecoveryResultV1) : Prop :=
  ∃ (coordinator : MeltRecoveryCoordinator) (paymentId : PaymentId),
    process = coordinator.recover paymentId

/-- Any run of recoveries and of the rest of the acquirer, the dispatch included, from the empty
database. -/
def RecoveringReachable
    (c : Pool Db (RecoveryProcess CashuStellarMeltRecoveryResultV1)) : Prop :=
  Relation.ReflTransGen (Pool.Step recoveryPerforms Step RecoveryStarts) ⟨Db.empty, []⟩ c

end CashMesh.Acquirer
