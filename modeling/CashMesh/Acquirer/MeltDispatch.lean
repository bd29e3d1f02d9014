import CashMesh.Acquirer.InputFee
import CashMesh.Acquirer.KeysetRepository
import CashMesh.Acquirer.QuoteClient
import CashMesh.Acquirer.Reservations
import CashMesh.Lib.Process
import CashMesh.Lib.Transaction
/-!
# The dispatch of a melt

One run of the coordinator spends the proofs of a payment: it reads what is stored of the payment, opens
the custody of the proofs, starts the effect, posts the melt, and records what came of it. A run is a
process over the clocks, the repositories and the mint. The request that is sent and its response are two
effects, so that anything may happen in between.

The client calls back for its authorization, and the callback leaves behind the lifecycle that decides
what a later failure means. So the run is cut where the callback returns: what throws before has sent
nothing, what throws after is put on record.

A payment id is well formed by its type, and the method, the unit and the schema versions of a quote are
those of its type.
-/

namespace CashMesh.Acquirer

open CashMesh.Lib
open CashMesh.StellarSettlement (UrlRecord)

/-! ### Errors -/

namespace MeltCoordinatorError

def clockUnavailable : MeltCoordinatorError :=
  ⟨.clockUnavailable, "Cashu Stellar melt coordinator clock is unavailable."⟩

def custodyNotFound : MeltCoordinatorError :=
  ⟨.custodyNotFound, "Cashu Stellar melt bearer custody was not found."⟩

def keysetEvidenceMissing : MeltCoordinatorError :=
  ⟨.keysetEvidenceMissing, "Cashu Stellar melt keyset evidence was not found."⟩

def operatorNotConfigured : MeltCoordinatorError :=
  ⟨.operatorNotConfigured, "Cashu Stellar melt operator is not configured."⟩

def quoteNotDispatchable : MeltCoordinatorError :=
  ⟨.quoteNotDispatchable, "Cashu Stellar melt quote is not dispatchable."⟩

def requestAborted : MeltCoordinatorError :=
  ⟨.requestAborted, "Cashu Stellar melt dispatch was aborted."⟩

def reservationNotFound : MeltCoordinatorError :=
  ⟨.reservationNotFound, "Cashu Stellar melt reservation was not found."⟩

def storageUnavailable : MeltCoordinatorError :=
  ⟨.storageUnavailable, "Cashu Stellar melt coordination storage is unavailable."⟩

end MeltCoordinatorError

namespace MeltExecutionError

def dispatchNotAuthorized : MeltExecutionError :=
  ⟨.dispatchNotAuthorized, "Cashu Stellar melt dispatch was not authorized."⟩

def invalidClock : MeltExecutionError :=
  ⟨.invalidClock, "Cashu Stellar melt execution clock is invalid."⟩

def invalidRequest : MeltExecutionError :=
  ⟨.invalidRequest, "Cashu Stellar melt execution request is invalid."⟩

def invalidResponse : MeltExecutionError :=
  ⟨.invalidResponse, "Cashu Stellar melt endpoint returned an invalid response."⟩

def quoteExpired : MeltExecutionError :=
  ⟨.quoteExpired, "Cashu Stellar melt quote expired before dispatch."⟩

def quoteResponseMismatch : MeltExecutionError :=
  ⟨.quoteResponseMismatch, "Cashu Stellar melt response changed immutable quote terms."⟩

def requestAborted : MeltExecutionError :=
  ⟨.requestAborted, "Cashu Stellar melt request was aborted."⟩

def unsupportedFeeReserve : MeltExecutionError :=
  ⟨.unsupportedFeeReserve,
    "Cashu Stellar melt execution does not support fee reserves or change."⟩

end MeltExecutionError

/-- What is thrown while the custody of the proofs is open. -/
inductive MeltThrown where
  | coordinator (error : MeltCoordinatorError)
  | execution (error : MeltExecutionError)
  | other
deriving DecidableEq

def attentionReason : MeltThrown → CashuOperatorAttentionReason
  | .execution error =>
      match error.code with
      | .invalidResponse | .quoteResponseMismatch | .responseTooLarge => .operatorResponseInvalid
      | .networkError | .requestAborted | .requestTimeout | .unexpectedStatus =>
          .transportAmbiguous
      | _ => .operatorStateUnknown
  | _ => .operatorStateUnknown

def mapPreAuthorizationError : MeltThrown → MeltCoordinatorError
  | .coordinator error => error
  | .execution error =>
      match error.code with
      | .requestAborted => .requestAborted
      | .quoteExpired | .unsupportedFeeReserve => .quoteNotDispatchable
      | .invalidClock => .clockUnavailable
      | _ => evidenceInvalid
  | .other => .storageUnavailable

/-! ### Checks of what is stored -/

/-- `validateReservation` of the coordinators. -/
def validateReservation {ε : Type} (cashuTs : CashuTs) (invalid : ε)
    (reservation : CashuProofReservation) (expectedPaymentId : PaymentId) :
    Except ε CashuProofReservation := do
  ensure
    (reservation.proofReferences ≠ [] ∧
      reservation.proofReferences.length ≤ maxNut18PaymentProofs)
    invalid
  let mintUrl ← orFail (normalizeCashuMintUrl cashuTs reservation.mintUrl) invalid
  ensure
    (reservation.grossAmount ≤ maxSafeInteger ∧ reservation.keysetObservedAt ≤ maxSafeInteger ∧
      reservation.reservedAt ≤ maxSafeInteger)
    invalid
  let proofReferences ← reservation.proofReferences.mapM fun proof =>
    orFail (createCashuProofReference proof.amount proof.keysetId.val proof.y) invalid
  ensure
    ((proofReferences.map (·.y.val)).IsChain (· < ·) ∧
      reservation.paymentId = expectedPaymentId ∧ reservation.unit = cashuStellarUnit ∧
      reservation.keysetObservedAt ≤ reservation.reservedAt ∧
      (proofReferences.map (·.amount)).sum = reservation.grossAmount)
    invalid
  return { reservation with mintUrl, proofReferences }

/-- `matchingImmutableQuoteTerms`, also `cashuStellarMeltQuoteTermsMatch` of the client and
`sameImmutableQuoteTerms` of the recovery. -/
def MatchingImmutableQuoteTerms (left right : CashuStellarMeltQuote) : Prop :=
  left.amount = right.amount ∧ left.expiry = right.expiry ∧ left.feeReserve = right.feeReserve ∧
    left.mintUrl = right.mintUrl ∧ left.quoteId = right.quoteId ∧
    left.request.uri = right.request.uri

instance : DecidableRel MatchingImmutableQuoteTerms := fun _ _ =>
  inferInstanceAs (Decidable (_ ∧ _))

/-- `sameQuote` of the recovery, what `matchingQuoteSnapshots` compares. -/
def SameQuote (left right : CashuStellarMeltQuote) : Prop :=
  MatchingImmutableQuoteTerms left right ∧ left.observedAt = right.observedAt ∧
    left.state = right.state

instance : DecidableRel SameQuote := fun _ _ =>
  inferInstanceAs (Decidable (_ ∧ _))

/-- `matchingQuoteSnapshots`. -/
def MatchingQuoteSnapshots (left right : CashuStellarMeltQuote) : Prop :=
  ∃ normalized ∈ createCashuStellarMeltQuote right, SameQuote left normalized

instance : DecidableRel MatchingQuoteSnapshots := fun _ right =>
  inferInstanceAs (Decidable (∃ normalized ∈ createCashuStellarMeltQuote right, _))

/-- `requireDispatchableQuote` of the coordinator. -/
def requireDispatchableQuote (cashuTs : CashuTs) (attempt : CashuStellarMeltQuoteAttempt)
    (reservation : CashuProofReservation) (now : UnixTimestamp) :
    Except MeltCoordinatorError CashuStellarMeltQuote :=
  match attempt with
  | .quoted base latestQuote observations => do
      ensure
        (base.paymentId = reservation.paymentId ∧ base.invoiceId = reservation.invoiceId ∧
          base.operatorId = reservation.operatorId ∧
          normalizeCashuMintUrl cashuTs base.mintUrl = some reservation.mintUrl)
        .quoteNotDispatchable
      let quote ← orFail (createCashuStellarMeltQuote latestQuote) .quoteNotDispatchable
      let latest ← orFail observations.getLast? .quoteNotDispatchable
      ensure
        (MatchingQuoteSnapshots quote latest ∧ quote.mintUrl = reservation.mintUrl ∧
          quote.amount = base.request.amount ∧ quote.request.uri = base.request.request.uri ∧
          quote.state = .unpaid ∧ quote.feeReserve = 0 ∧ quote.observedAt ≤ now ∧
          now < quote.expiry)
        .quoteNotDispatchable
      return quote
  | _ => .error .quoteNotDispatchable

/-! ### The request -/

/-- `CashuStellarMeltDispatchV1`. -/
structure CashuStellarMeltDispatch where
  dispatchFingerprint : CashuOperatorDispatchFingerprint
  expiresAt : UnixTimestamp
  mintUrl : MintUrl
  quoteId : CashuStellarMeltQuoteId
deriving DecidableEq

/-- `CashuStellarMeltExecutionResultV1`. -/
structure CashuStellarMeltExecutionResult where
  dispatch : CashuStellarMeltDispatch
  quote : CashuStellarMeltQuote
deriving DecidableEq

/-- An input as `withCashuBearerMeltInputsV1` reads it from the text of its bundle. -/
def CashuBearerMeltInput.text (input : CashuBearerMeltInput) : CashuBearerMeltInputText where
  C := input.signature
  amount := input.amount
  id := input.keysetId.val
  secret := input.secret

/-- `validateExecutionInput` of the client of a mint. -/
def validateExecutionInput (mintUrl : MintUrl) (bearerProofs : CashuBearerProofBundle)
    (inputFee : Nat) (quote : CashuStellarMeltQuote) : Except MeltExecutionError Unit := do
  ensure ((createCashuStellarMeltQuote quote).isSome ∧ inputFee ≤ maxSafeInteger) .invalidRequest
  ensure
    (quote.mintUrl = mintUrl ∧ bearerProofs.mintUrl = mintUrl ∧
      bearerProofs.unit = cashuStellarUnit)
    .invalidRequest
  ensure (quote.feeReserve = 0) .unsupportedFeeReserve

/-- `requireDispatchableQuote` of the client. -/
def requireUnpaidQuote (quote : CashuStellarMeltQuote) (now : UnixTimestamp) :
    Except MeltExecutionError Unit := do
  ensure (quote.observedAt ≤ now) .invalidClock
  ensure (quote.state = .unpaid) .invalidRequest
  ensure (now < quote.expiry) .quoteExpired

/-- The request for a melt of the inputs. -/
def meltPost (mintUrl : MintUrl) (quote : CashuStellarMeltQuote)
    (inputs : List CashuBearerMeltInput) : CashuStellarMeltPost where
  mintUrl
  quoteId := quote.quoteId
  inputs

/-- `createDispatch`, of the request that its digest is of. -/
def createDispatch (quote : CashuStellarMeltQuote) (request : CashuStellarMeltPost) :
    CashuStellarMeltDispatch where
  dispatchFingerprint := request
  expiresAt := quote.expiry
  mintUrl := quote.mintUrl
  quoteId := quote.quoteId

def validateDispatchAuthority (cashuTs : CashuTs) (dispatch : CashuStellarMeltDispatch)
    (quote : CashuStellarMeltQuote) (mintUrl : MintUrl) : Except MeltCoordinatorError Unit :=
  ensure
    (normalizeCashuMintUrl cashuTs dispatch.mintUrl = some mintUrl ∧
      dispatch.quoteId = quote.quoteId ∧ dispatch.expiresAt = quote.expiry)
    evidenceInvalid

def ExecutionMatchesAuthority (execution : CashuStellarMeltExecutionResult)
    (dispatch : CashuStellarMeltDispatch) (expectedQuote : CashuStellarMeltQuote) : Prop :=
  ∃ quote ∈ createCashuStellarMeltQuote execution.quote,
    execution.dispatch.dispatchFingerprint = dispatch.dispatchFingerprint ∧
      execution.dispatch.quoteId = dispatch.quoteId ∧
      execution.dispatch.mintUrl = dispatch.mintUrl ∧
      execution.dispatch.expiresAt = dispatch.expiresAt ∧
      MatchingImmutableQuoteTerms expectedQuote quote

instance (execution : CashuStellarMeltExecutionResult) (dispatch : CashuStellarMeltDispatch)
    (expectedQuote : CashuStellarMeltQuote) :
    Decidable (ExecutionMatchesAuthority execution dispatch expectedQuote) :=
  inferInstanceAs (Decidable (∃ quote ∈ createCashuStellarMeltQuote execution.quote, _))

/-! ### Results -/

/-- `CashuStellarMeltCoordinationResultV1`, with the observation of a state that was answered. -/
inductive CashuStellarMeltCoordinationState where
  | recoveryRequired
  | needsAttention (attentionReason : CashuOperatorAttentionReason)
  | operatorUnpaid (observedAt : UnixTimestamp)
  | operatorPending (observedAt : UnixTimestamp)
  | operatorPaidObserved (observedAt : UnixTimestamp)
deriving DecidableEq

structure CashuStellarMeltCoordinationResult where
  lifecycle : CashuProofReservationLifecycle
  paymentId : PaymentId
  state : CashuStellarMeltCoordinationState
deriving DecidableEq

/-- What `coordinationIds` hashes. -/
def coordinationKey (reservation : CashuProofReservation) (quote : CashuStellarMeltQuote) :
    CoordinationKey where
  mintUrl := reservation.mintUrl
  paymentId := reservation.paymentId
  quoteId := quote.quoteId

/-! ### A run -/

/-- A request that left, with the payment it was sent for and the time that was read before it. -/
structure SentMelt where
  paymentId : PaymentId
  request : CashuStellarMeltPost
  dispatchedAt : UnixTimestamp
deriving DecidableEq

/-- One await point of a run, a reading of a clock, or a look at the signal of the caller. -/
inductive DispatchEffect where
  | readClock
  | readSignal
  | findReservation (paymentId : PaymentId)
  | findLifecycle (paymentId : PaymentId)
  | findQuote (paymentId : PaymentId)
  | findLatestFreshSnapshot (input : KeysetStore.FindInput)
  | retrieveBundle (paymentId : PaymentId)
  | startEffect (input : StartEffectInput)
  | post (sent : SentMelt)
  | receive (sent : SentMelt)
  | observe (input : QuoteInput)
  | recordPending (input : EventInput)
  | requireAttention (input : EventInput) (reason : CashuOperatorAttentionReason)

/-- The answers. A clock can throw or return what is no time. -/
abbrev DispatchAnswer : DispatchEffect → Type
  | .readClock => Option Nat
  | .readSignal => Bool
  | .findReservation _ => Except ReservationError (Option CashuProofReservation)
  | .findLifecycle _ => Except LifecycleError (Option CashuProofReservationLifecycle)
  | .findQuote _ => Except QuoteError (Option CashuStellarMeltQuoteAttempt)
  | .findLatestFreshSnapshot _ => Except KeysetStore.Error (Option CashuKeysetSnapshot)
  | .retrieveBundle _ => Except CustodyErrorCode (Option CashuBearerProofBundle)
  | .startEffect _ => Except LifecycleError LifecycleResult
  | .post _ => Unit
  | .receive _ => Except MeltExecutionError JsonValue
  | .observe _ => Except QuoteError QuoteAttemptResult
  | .recordPending _ => Except LifecycleError LifecycleResult
  | .requireAttention _ _ => Except LifecycleError LifecycleResult

abbrev DispatchProcess := Process DispatchEffect DispatchAnswer MeltCoordinatorError

/-- What runs while the custody is open. -/
abbrev MeltProcess := Process DispatchEffect DispatchAnswer MeltThrown

/-- The configuration of a coordinator: its libraries, and the mints of its executors. -/
structure MeltCoordinator where
  cashuTs : CashuTs
  parseUrl : String → Option UrlRecord
  executors : List MintUrl

/-- What a run has gathered before it opens the custody. -/
structure PreparedMelt where
  attempt : CashuStellarMeltQuoteAttempt
  inputFee : Nat
  quote : CashuStellarMeltQuote
  reservation : CashuProofReservation
  snapshot : CashuKeysetSnapshot

/-- What the callback leaves behind. -/
inductive MeltAuthorization where
  /-- `replayedLifecycle`. -/
  | replayed (lifecycle : CashuProofReservationLifecycle)
  /-- `freshLifecycle` with `authorizedDispatch`, and the reading of the clock before the callback. -/
  | granted (lifecycle : CashuProofReservationLifecycle) (dispatch : CashuStellarMeltDispatch)
      (preparedAt : UnixTimestamp)

namespace MeltCoordinator

variable {ε : Type}

def perform (effect : DispatchEffect) :
    Process DispatchEffect DispatchAnswer ε (DispatchAnswer effect) :=
  Process.perform effect

def readClock (unavailable : ε) : Process DispatchEffect DispatchAnswer ε UnixTimestamp := do
  match ← perform .readClock with
  | none => throw unavailable
  | some timestamp =>
      if timestamp ≤ maxSafeInteger then
        return timestamp
      else
        throw unavailable

/-- A look at the signal of the caller. -/
def throwIfAborted (aborted : ε) : Process DispatchEffect DispatchAnswer ε Unit := do
  match ← perform .readSignal with
  | true => throw aborted
  | false => return ()

/-- Throw `error` unless the condition holds. -/
def require (condition : Prop) [Decidable condition] (error : ε) :
    Process DispatchEffect DispatchAnswer ε Unit :=
  Process.ofExcept (ensure condition error)

def loadReservation (cashuTs : CashuTs) (paymentId : PaymentId) :
    DispatchProcess CashuProofReservation := do
  match ← perform (.findReservation paymentId) with
  | .error _ => throw .storageUnavailable
  | .ok none => throw .reservationNotFound
  | .ok (some found) =>
      Process.ofExcept (validateReservation cashuTs evidenceInvalid found paymentId)

def loadLifecycle (paymentId : PaymentId) : DispatchProcess CashuProofReservationLifecycle := do
  match ← perform (.findLifecycle paymentId) with
  | .error _ => throw .storageUnavailable
  | .ok none => throw evidenceInvalid
  | .ok (some found) => do
      require (found.paymentId = paymentId) evidenceInvalid
      return found

def loadQuoteAttempt (paymentId : PaymentId) : DispatchProcess CashuStellarMeltQuoteAttempt := do
  match ← perform (.findQuote paymentId) with
  | .error _ => throw .storageUnavailable
  | .ok none => throw .quoteNotDispatchable
  | .ok (some found) => return found

def loadExactKeysetSnapshot (cashuTs : CashuTs) (reservation : CashuProofReservation) :
    DispatchProcess CashuKeysetSnapshot := do
  match ← perform (.findLatestFreshSnapshot {
    mintUrl := reservation.mintUrl
    observedAtOrAfter := reservation.keysetObservedAt
    observedAtOrBefore := reservation.keysetObservedAt
    operatorId := reservation.operatorId
    unit := reservation.unit.val }) with
  | .error _ => throw .storageUnavailable
  | .ok none => throw .keysetEvidenceMissing
  | .ok (some found) =>
      Process.ofExcept
        ((createCashuKeysetSnapshot cashuTs found.input).mapError fun _ => evidenceInvalid)

/-- `startEffect` of the coordinator. -/
def startEffect (prepared : PreparedMelt) (paymentId : PaymentId)
    (dispatch : CashuStellarMeltDispatch) (startedAt : UnixTimestamp) :
    MeltProcess LifecycleResult := do
  let key := coordinationKey prepared.reservation prepared.quote
  match ← perform (.startEffect {
    dispatchFingerprint := dispatch.dispatchFingerprint
    effectId := .stellarMelt key
    eventId := .stellarMeltStart key
    paymentId
    startedAt
    terms := .melt prepared.quote.quoteId prepared.quote.expiry }) with
  | .error _ => throw (.coordinator .storageUnavailable)
  | .ok started => return started

/-- The callback of the client, up to what it returns. -/
def authorize (coordinator : MeltCoordinator) (prepared : PreparedMelt) (paymentId : PaymentId)
    (dispatch : CashuStellarMeltDispatch) : MeltProcess LifecycleResult := do
  Process.ofExcept
    ((validateDispatchAuthority coordinator.cashuTs dispatch prepared.quote
      prepared.reservation.mintUrl).mapError .coordinator)
  let startedAt ← readClock (.coordinator .clockUnavailable)
  let currentInputFee ← Process.ofExcept
    ((deriveInputFee coordinator.cashuTs prepared.reservation prepared.snapshot.input
      prepared.quote startedAt).mapError .coordinator)
  require (currentInputFee = prepared.inputFee) (.coordinator evidenceInvalid)
  startEffect prepared paymentId dispatch startedAt

/-- `execute` of the client up to the return of the callback, over the opened custody: none when there
is no custody. -/
def authorizeMelt (coordinator : MeltCoordinator) (prepared : PreparedMelt)
    (paymentId : PaymentId) : MeltProcess (Option MeltAuthorization) := do
  match ← perform (.retrieveBundle paymentId) with
  | .error _ => throw .other
  | .ok none => return none
  | .ok (some bearerProofs) =>
      let mintUrl := prepared.reservation.mintUrl
      Process.ofExcept
        ((validateExecutionInput mintUrl bearerProofs prepared.inputFee prepared.quote).mapError
          .execution)
      throwIfAborted (.execution .requestAborted)
      let preparedAt ← readClock (.execution .invalidClock)
      Process.ofExcept ((requireUnpaidQuote prepared.quote preparedAt).mapError .execution)
      Process.ofExcept
        ((requireExactInputAmount (bearerProofs.inputs.map (·.text)) prepared.quote.amount
          prepared.inputFee).mapError .execution)
      let dispatch := createDispatch prepared.quote
        (meltPost mintUrl prepared.quote bearerProofs.inputs)
      throwIfAborted (.execution .requestAborted)
      let started ← authorize coordinator prepared paymentId dispatch
      if started.replayed then
        return some (.replayed started.lifecycle)
      else
        return some (.granted started.lifecycle dispatch preparedAt)

/-- `execute` of the client from the response on. -/
def receiveMelt (coordinator : MeltCoordinator) (prepared : PreparedMelt)
    (dispatch : CashuStellarMeltDispatch) (sent : SentMelt) :
    MeltProcess CashuStellarMeltExecutionResult := do
  let answer ← perform (.receive sent)
  let response ← Process.ofExcept (answer.mapError .execution)
  let observedAt ← readClock (.execution .invalidClock)
  require (sent.dispatchedAt ≤ observedAt) (.execution .invalidClock)
  let observed ← Process.ofExcept
    ((parseCashuStellarMeltQuoteResponse coordinator.parseUrl response
      prepared.reservation.mintUrl observedAt).mapError fun _ => .execution .invalidResponse)
  require (MatchingImmutableQuoteTerms prepared.quote observed)
    (.execution .quoteResponseMismatch)
  return {
    dispatch
    quote := observed }

/-- `execute` of the client from the return of the callback. -/
def sendMelt (coordinator : MeltCoordinator) (prepared : PreparedMelt) (paymentId : PaymentId)
    (dispatch : CashuStellarMeltDispatch) (preparedAt : UnixTimestamp) :
    MeltProcess CashuStellarMeltExecutionResult := do
  throwIfAborted (.execution .requestAborted)
  let dispatchedAt ← readClock (.execution .invalidClock)
  require (preparedAt ≤ dispatchedAt) (.execution .invalidClock)
  require (dispatchedAt < prepared.quote.expiry) (.execution .quoteExpired)
  throwIfAborted (.execution .requestAborted)
  let sent : SentMelt := {
    paymentId
    request := dispatch.dispatchFingerprint
    dispatchedAt }
  perform (.post sent)
  receiveMelt coordinator prepared dispatch sent

def recordAttention (paymentId : PaymentId) (lifecycle : CashuProofReservationLifecycle)
    (key : CoordinationKey) (reason : CashuOperatorAttentionReason) :
    DispatchProcess CashuStellarMeltCoordinationResult := do
  match lifecycle.effect with
  | none => throw evidenceInvalid
  | some effect => do
      require (effect.kind = .melt) evidenceInvalid
      let recordedAt ← readClock .clockUnavailable
      require (effect.startedAt ≤ recordedAt) .clockUnavailable
      match ← perform (.requireAttention {
        effectId := effect.effectId
        eventId := .stellarMeltAttention reason key
        evidenceAt := recordedAt
        paymentId
        recordedAt } reason) with
      | .error _ => throw .storageUnavailable
      | .ok attention =>
          return {
            lifecycle := attention.lifecycle
            paymentId
            state := .needsAttention reason }

/-- What the run records of a response. It throws where the source goes on to record its attention. -/
def recordExecution (prepared : PreparedMelt) (paymentId : PaymentId)
    (attemptId : CashuStellarMeltQuoteAttemptId) (freshLifecycle : CashuProofReservationLifecycle)
    (quote : CashuStellarMeltQuote) : DispatchProcess CashuStellarMeltCoordinationResult := do
  let recordedAt ← readClock .clockUnavailable
  match freshLifecycle.effect with
  | none => throw .clockUnavailable
  | some effect => do
      require
        (effect.kind = .melt ∧ effect.startedAt ≤ quote.observedAt ∧
          quote.observedAt ≤ recordedAt)
        .clockUnavailable
      match ← perform (.observe {
        attemptId
        paymentId
        quote }) with
      | .error _ => throw .storageUnavailable
      | .ok _ =>
          match quote.state with
          | .pending =>
              match ← perform (.recordPending {
                effectId := effect.effectId
                eventId := .stellarMeltPending (coordinationKey prepared.reservation prepared.quote)
                evidenceAt := quote.observedAt
                paymentId
                recordedAt }) with
              | .error _ => throw .storageUnavailable
              | .ok pending =>
                  return {
                    lifecycle := pending.lifecycle
                    paymentId
                    state := .operatorPending quote.observedAt }
          | .paid =>
              return {
                lifecycle := freshLifecycle
                paymentId
                state := .operatorPaidObserved quote.observedAt }
          | .unpaid =>
              return {
                lifecycle := freshLifecycle
                paymentId
                state := .operatorUnpaid quote.observedAt }

/-- The id of the attempt of a payment. -/
def attemptIdOf : CashuStellarMeltQuoteAttempt → CashuStellarMeltQuoteAttemptId
  | .creating base => base.attemptId
  | .ambiguous base _ _ => base.attemptId
  | .quoted base _ _ => base.attemptId

/-- A run once the effect is started. -/
def dispatchStarted (coordinator : MeltCoordinator) (prepared : PreparedMelt)
    (paymentId : PaymentId) (freshLifecycle : CashuProofReservationLifecycle)
    (dispatch : CashuStellarMeltDispatch) (preparedAt : UnixTimestamp) :
    DispatchProcess CashuStellarMeltCoordinationResult := do
  let key := coordinationKey prepared.reservation prepared.quote
  match ← (sendMelt coordinator prepared paymentId dispatch preparedAt).attempt with
  | .error error => recordAttention paymentId freshLifecycle key (attentionReason error)
  | .ok execution =>
      if ExecutionMatchesAuthority execution dispatch prepared.quote then
        match ← (recordExecution prepared paymentId (attemptIdOf prepared.attempt) freshLifecycle
          execution.quote).attempt with
        | .error _ => recordAttention paymentId freshLifecycle key .operatorStateUnknown
        | .ok result => return result
      else
        recordAttention paymentId freshLifecycle key .operatorResponseInvalid

/-- A run up to the custody. -/
def prepareMelt (coordinator : MeltCoordinator) (paymentId : PaymentId)
    (reservation : CashuProofReservation) (preparedAt : UnixTimestamp) :
    DispatchProcess PreparedMelt := do
  let attempt ← loadQuoteAttempt paymentId
  let quote ← Process.ofExcept
    (requireDispatchableQuote coordinator.cashuTs attempt reservation preparedAt)
  let snapshot ← loadExactKeysetSnapshot coordinator.cashuTs reservation
  let inputFee ← Process.ofExcept
    (deriveInputFee coordinator.cashuTs reservation snapshot.input quote preparedAt)
  require (reservation.mintUrl ∈ coordinator.executors) .operatorNotConfigured
  return {
    attempt
    inputFee
    quote
    reservation
    snapshot }

def dispatch (coordinator : MeltCoordinator) (paymentId : PaymentId) :
    DispatchProcess CashuStellarMeltCoordinationResult := do
  throwIfAborted .requestAborted
  let preparedAt ← readClock .clockUnavailable
  let reservation ← loadReservation coordinator.cashuTs paymentId
  let existingLifecycle ← loadLifecycle paymentId
  if existingLifecycle.state ≠ .reserved ∨ existingLifecycle.effect ≠ none then
    return {
      lifecycle := existingLifecycle
      paymentId
      state := .recoveryRequired }
  else
    let prepared ← prepareMelt coordinator paymentId reservation preparedAt
    match ← (authorizeMelt coordinator prepared paymentId).attempt with
    | .error error => throw (mapPreAuthorizationError error)
    | .ok none => throw .custodyNotFound
    | .ok (some (.replayed lifecycle)) =>
        return {
          lifecycle
          paymentId
          state := .recoveryRequired }
    | .ok (some (.granted lifecycle dispatch preparedAt)) =>
        dispatchStarted coordinator prepared paymentId lifecycle dispatch preparedAt

end MeltCoordinator

/-! ### Coordinators over the database -/

/-- The committed rows, and the requests that were sent, the latest first. -/
structure DispatchWorld where
  db : Db
  sent : List SentMelt

namespace DispatchWorld

/-- A transaction of the world's rows. -/
def Commits {ε α : Type} (unavailable : ε) (result : Except ε (α × Db)) (w : DispatchWorld)
    (answer : Except ε α) (w' : DispatchWorld) : Prop :=
  ∃ db, Transacts unavailable result w.db answer db ∧ w' = { w with db }

/-- One effect of a run, its answer and the world after it. The keyset observations are answered for by
another repository, whatever it says, and a custody may fail for its keys as well. -/
def performs : (effect : DispatchEffect) → DispatchWorld → DispatchAnswer effect →
    DispatchWorld → Prop
  | .readClock, w, _, w' => w' = w
  | .readSignal, w, _, w' => w' = w
  | .findReservation paymentId, w, answer, w' =>
      Queries ⟨.storageUnavailable, "Cashu proof reservation storage operation failed."⟩
        (findReservation w.db paymentId) answer ∧ w' = w
  | .findLifecycle paymentId, w, answer, w' =>
      Queries .storageUnavailable (findLifecycle w.db paymentId) answer ∧ w' = w
  | .findQuote paymentId, w, answer, w' =>
      Queries ⟨.storageUnavailable, "Cashu Stellar melt quote storage operation failed."⟩
        (findQuote w.db paymentId) answer ∧ w' = w
  | .findLatestFreshSnapshot _, w, _, w' => w' = w
  | .retrieveBundle paymentId, w, answer, w' =>
      (answer = retrieveBundle w.db paymentId ∨ ∃ error, answer = .error error) ∧ w' = w
  | .startEffect input, w, answer, w' =>
      Commits .storageUnavailable (startEffect w.db input) w answer w'
  | .post sent, w, _, w' => w' = { w with sent := sent :: w.sent }
  | .receive _, w, _, w' => w' = w
  | .observe input, w, answer, w' =>
      Commits ⟨.storageUnavailable, "Cashu Stellar melt quote storage operation failed."⟩
        (observe w.db input) w answer w'
  | .recordPending input, w, answer, w' =>
      Commits .storageUnavailable (recordPending w.db input) w answer w'
  | .requireAttention input reason, w, answer, w' =>
      Commits .storageUnavailable (requireAttention w.db input reason) w answer w'

/-- What the rest of the acquirer does: any operation of its repositories, the starting of effects by
other callers included. -/
inductive Moves : DispatchWorld → DispatchWorld → Prop
  | operation {w : DispatchWorld} {db : Db} (hstep : Step w.db db) : Moves w { w with db }

end DispatchWorld

/-- Runs for any payment, of coordinators of any configuration. -/
def DispatchStarts (process : DispatchProcess CashuStellarMeltCoordinationResult) : Prop :=
  ∃ (coordinator : MeltCoordinator) (paymentId : PaymentId),
    process = coordinator.dispatch paymentId

abbrev DispatchStep :=
  Pool.Step DispatchWorld.performs DispatchWorld.Moves DispatchStarts

/-- Any run of the coordinators and the acquirer from the empty database. -/
def DispatchReachable
    (c : Pool DispatchWorld (DispatchProcess CashuStellarMeltCoordinationResult)) : Prop :=
  Relation.ReflTransGen DispatchStep ⟨⟨Db.empty, []⟩, []⟩ c

end CashMesh.Acquirer
