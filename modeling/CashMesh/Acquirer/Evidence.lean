import CashMesh.Acquirer.QuoteRecord
import CashMesh.Acquirer.Statements
/-!
# The repositories of the evidence

The melt quote repository keeps the one quote of a payment and what was observed of it, and the proof
state repository keeps the states in which the reserved proofs were observed. Each operation is one
transaction over the reservation row it locks.
-/

namespace CashMesh.Acquirer

open CashMesh.Lib

/-! ### Errors of the quote repository -/

/-- `CashuStellarMeltQuoteRepositoryErrorCode`. -/
inductive QuoteErrorCode where
  | attemptConflict
  | attemptNotFound
  | custodyNotFound
  | invalidInput
  | invalidRecord
  | invalidTransition
  | invoiceWindowClosed
  | observationConflict
  | quoteConflict
  | reservationNotActive
  | reservationNotFound
  | storageUnavailable
  | termsMismatch
deriving DecidableEq

structure QuoteError where
  code : QuoteErrorCode
  message : String
deriving DecidableEq

namespace QuoteError

def invalidInput : QuoteError :=
  ⟨.invalidInput, "Cashu Stellar melt quote repository input is invalid."⟩

def invalidRecord : QuoteError :=
  ⟨.invalidRecord, "Stored Cashu Stellar melt quote evidence is invalid."⟩

def invalidTransition : QuoteError :=
  ⟨.invalidTransition, "Cashu Stellar melt quote attempt transition is invalid."⟩

def attemptMismatch : QuoteError :=
  ⟨.attemptConflict, "Cashu Stellar melt quote attempt does not match its payment."⟩

/-- `mapStorageError` on what the database raises. -/
def ofDbError : DbError → QuoteError
  | .uniqueViolation .cashuStellarQuoteOutcomesMintQuoteUnique =>
      ⟨.quoteConflict, "Cashu Stellar melt quote is already bound to another payment."⟩
  | .uniqueViolation .cashuStellarMeltQuoteObservations =>
      ⟨.observationConflict,
        "Cashu Stellar melt quote observation conflicts with stored evidence."⟩
  | .uniqueViolation .cashuStellarMeltQuoteAttempts =>
      ⟨.attemptConflict, "Cashu Stellar melt quote attempt conflicts with stored ownership."⟩
  | _ => ⟨.storageUnavailable, "Cashu Stellar melt quote storage operation failed."⟩

end QuoteError

/-- Run a statement within a quote transaction. -/
def quoteStatement {α : Type} (statement : Except DbError α) : Except QuoteError α :=
  statement.mapError .ofDbError

@[simp] theorem quoteStatement_eq_ok {α : Type} {statement : Except DbError α} {a : α} :
    quoteStatement statement = .ok a ↔ statement = .ok a :=
  mapError_eq_ok

/-! ### Attempts -/

/-- The attempt of a payment to get a quote, by what has come of it. -/
inductive CashuStellarMeltQuoteAttempt where
  | creating (base : StoredCashuStellarMeltQuoteAttempt)
  | ambiguous (base : StoredCashuStellarMeltQuoteAttempt)
      (reason : CashuStellarMeltQuoteAmbiguityReason) (ambiguousAt : UnixTimestamp)
  | quoted (base : StoredCashuStellarMeltQuoteAttempt) (latestQuote : CashuStellarMeltQuote)
      (observations : List CashuStellarMeltQuote)
deriving DecidableEq

structure QuoteAttemptResult where
  attempt : CashuStellarMeltQuoteAttempt
  replayed : Bool
deriving DecidableEq

def mapAttemptBase (row : MeltQuoteAttemptRow) :
    Except QuoteError StoredCashuStellarMeltQuoteAttempt :=
  (mapCashuStellarMeltQuoteAttemptRecord row).mapError fun _ => .invalidRecord

/-- The attempt that the rows store. -/
def mapAttempt (db : Db) (row : MeltQuoteAttemptRow) :
    Except QuoteError CashuStellarMeltQuoteAttempt := do
  let attempt ← mapAttemptBase row
  let observationRows := db.quoteObservationsOf attempt.attemptId
  match db.outcomeOf attempt.attemptId with
  | none => do
      ensure (observationRows = []) .invalidRecord
      return .creating attempt
  | some outcome => do
      ensure
        (outcome.attemptId = attempt.attemptId ∧ outcome.paymentId = attempt.paymentId ∧
          outcome.mintUrl = attempt.mintUrl)
        .invalidRecord
      match outcome.outcomeKind with
      | .ambiguous => do
          let reason ← orFail outcome.ambiguityReason .invalidRecord
          ensure
            (outcome.quoteId = none ∧ outcome.feeReserve = none ∧ outcome.expiry = none ∧
              attempt.startedAt ≤ outcome.recordedAt ∧ observationRows = [] ∧
              outcome.outcomeFingerprint =
                .ambiguous attempt.attemptFingerprint reason outcome.recordedAt)
            .invalidRecord
          return .ambiguous attempt reason outcome.recordedAt
      | .quoted => do
          let evidence ←
            (mapCashuStellarMeltQuotedEvidenceRecord row outcome observationRows).mapError
              fun _ => .invalidRecord
          let latestQuote ← orFail evidence.observations.getLast? .invalidRecord
          return .quoted evidence.attempt latestQuote evidence.observations

/-- `findByPaymentId` of the quote repository. -/
def findQuote (db : Db) (paymentId : PaymentId) :
    Except QuoteError (Option CashuStellarMeltQuoteAttempt) :=
  match db.attemptOf paymentId with
  | none => return none
  | some row => do
      let attempt ← mapAttempt db row
      return some attempt

/-- The attempt rows with the id or of the payment. -/
def conflictingAttempts (db : Db) (attemptId : CashuStellarMeltQuoteAttemptId)
    (paymentId : PaymentId) : List MeltQuoteAttemptRow :=
  db.cashuStellarMeltQuoteAttempts.select fun row =>
    row.attemptId = attemptId ∨ row.paymentId = paymentId

def lockAttempt (db : Db) (attemptId : CashuStellarMeltQuoteAttemptId) (paymentId : PaymentId) :
    Except QuoteError MeltQuoteAttemptRow :=
  match conflictingAttempts db attemptId paymentId with
  | [] => throw ⟨.attemptNotFound, "Cashu Stellar melt quote attempt was not found."⟩
  | [row] => do
      ensure (row.attemptId = attemptId ∧ row.paymentId = paymentId) .attemptMismatch
      return row
  | _ :: _ :: _ => throw .attemptMismatch

def lockReservation (db : Db) (paymentId : PaymentId) : Except QuoteError Unit :=
  ensure (db.reservation paymentId).isSome
    ⟨.reservationNotFound, "Cashu Stellar melt quote attempt requires its proof reservation."⟩

/-! ### Beginning an attempt -/

structure BeginInput where
  attemptId : CashuStellarMeltQuoteAttemptId
  paymentId : PaymentId
  amount : MinorUnitAmount
  request : Sep7PaymentRequest
  startedAt : UnixTimestamp
deriving DecidableEq

/-- The row of an attempt on a reservation. -/
def attemptRow (reservation : ReservationRow) (attemptId : CashuStellarMeltQuoteAttemptId)
    (request : CashuStellarMeltQuoteRequest) (startedAt : UnixTimestamp) :
    MeltQuoteAttemptRow where
  attemptId
  attemptFingerprint := {
    attemptId
    invoiceId := reservation.invoiceId
    mintUrl := reservation.mintUrl
    operatorId := reservation.operatorId
    paymentId := reservation.paymentId
    request
    settlementDestination := cashuStellarMeltRequestDestination request
    startedAt }
  paymentId := reservation.paymentId
  invoiceId := reservation.invoiceId
  operatorId := reservation.operatorId
  mintUrl := reservation.mintUrl
  amount := request.amount
  request := request.request
  settlementDestination := cashuStellarMeltRequestDestination request
  startedAt

def replayBegin (db : Db) (rows : List MeltQuoteAttemptRow)
    (expected : MeltQuoteAttemptFingerprint) : Except QuoteError QuoteAttemptResult :=
  let conflict : QuoteError :=
    ⟨.attemptConflict,
      "Cashu Stellar melt quote attempt identity is already bound to different terms."⟩
  match rows with
  | [row] => do
      ensure (row.attemptFingerprint = expected) conflict
      let attempt ← mapAttempt db row
      return {
        attempt
        replayed := true }
  | _ => throw conflict

def assertBeginPreconditions (db : Db) (attempt : MeltQuoteAttemptRow)
    (reservation : ReservationRow) (invoice : MerchantInvoiceRow) (route : InvoiceRouteRow) :
    Except QuoteError Unit := do
  let custody ← orFail (db.custodyOf reservation.paymentId)
    ⟨.custodyNotFound,
      "Cashu Stellar melt quote creation requires encrypted proof custody."⟩
  ensure (reservation.unit = cashuStellarUnit) .invalidRecord
  ensure
    (route.mode = .immediateConversion ∧
      route.settlementDestination = attempt.settlementDestination)
    ⟨.termsMismatch,
      "Cashu Stellar melt destination does not match the authorized settlement route."⟩
  ensure (invoice.amount = attempt.amount)
    ⟨.termsMismatch, "Cashu Stellar melt quote amount does not match the merchant invoice."⟩
  ensure
    (invoice.state = .open ∧ invoice.createdAt ≤ attempt.startedAt ∧
      reservation.reservedAt ≤ attempt.startedAt ∧ custody.createdAt ≤ attempt.startedAt ∧
      attempt.startedAt < invoice.expiresAt)
    ⟨.invoiceWindowClosed,
      "Cashu Stellar melt quote attempt is outside the open invoice window."⟩
  ensure
    (db.reservedProofsOf reservation.paymentId ≠ [] ∧
      (db.proofClaimsOf reservation.paymentId).length =
        (db.reservedProofsOf reservation.paymentId).length ∧
      db.effectsOf reservation.paymentId = [] ∧ db.eventsOf reservation.paymentId = [])
    ⟨.reservationNotActive,
      "Cashu Stellar melt quote creation requires an active pre-dispatch reservation."⟩

/-- `begin` of the quote repository. -/
def beginQuote (db : Db) (input : BeginInput) : Except QuoteError (QuoteAttemptResult × Db) := do
  let request ← orFail (createCashuStellarMeltQuoteRequest input.amount input.request) .invalidInput
  ensure (input.startedAt ≤ maxSafeInteger) .invalidInput
  let notFound : QuoteError :=
    ⟨.reservationNotFound, "Cashu Stellar melt quote attempt requires a proof reservation."⟩
  let reservation ← orFail (db.reservation input.paymentId) notFound
  let invoice ← orFail (db.invoice reservation.invoiceId) notFound
  let route ← orFail
    (db.routeOf reservation.invoiceId reservation.operatorId reservation.mintUrl) notFound
  let attempt := attemptRow reservation input.attemptId request input.startedAt
  match conflictingAttempts db attempt.attemptId attempt.paymentId with
  | row :: rows =>
      let replay ← replayBegin db (row :: rows) attempt.attemptFingerprint
      return (replay, db)
  | [] =>
      assertBeginPreconditions db attempt reservation invoice route
      let s ← quoteStatement (insertQuoteAttempt ⟨db, []⟩ attempt)
      let attempt ← mapAttempt s.db attempt
      let db ← quoteStatement s.commit
      return ({
        attempt
        replayed := false }, db)

/-! ### The outcome of an attempt -/

structure AmbiguousInput where
  attemptId : CashuStellarMeltQuoteAttemptId
  paymentId : PaymentId
  reason : CashuStellarMeltQuoteAmbiguityReason
  recordedAt : UnixTimestamp
deriving DecidableEq

structure QuoteInput where
  attemptId : CashuStellarMeltQuoteAttemptId
  paymentId : PaymentId
  quote : CashuStellarMeltQuote
deriving DecidableEq

def assertOutcomeWritable (db : Db) (paymentId : PaymentId) : Except QuoteError Unit :=
  ensure
    ((db.custodyOf paymentId).isSome ∧ db.effectsOf paymentId = [] ∧ db.eventsOf paymentId = [])
    .invalidTransition

def recordAmbiguous (db : Db) (input : AmbiguousInput) :
    Except QuoteError (QuoteAttemptResult × Db) := do
  ensure (input.recordedAt ≤ maxSafeInteger) .invalidInput
  lockReservation db input.paymentId
  let row ← lockAttempt db input.attemptId input.paymentId
  let attempt ← mapAttemptBase row
  ensure (attempt.startedAt ≤ input.recordedAt) .invalidInput
  let fingerprint :=
    MeltQuoteOutcomeFingerprint.ambiguous attempt.attemptFingerprint input.reason input.recordedAt
  match db.outcomeOf attempt.attemptId with
  | some existing =>
      ensure (existing.outcomeKind = .ambiguous) .invalidTransition
      ensure (existing.outcomeFingerprint = fingerprint)
        ⟨.quoteConflict, "Cashu Stellar melt quote attempt already has a different outcome."⟩
      let attempt ← mapAttempt db row
      return ({
        attempt
        replayed := true }, db)
  | none =>
      assertOutcomeWritable db attempt.paymentId
      let s ← quoteStatement (insertQuoteOutcome ⟨db, []⟩ {
        attemptId := attempt.attemptId
        outcomeFingerprint := fingerprint
        paymentId := attempt.paymentId
        mintUrl := attempt.mintUrl
        outcomeKind := .ambiguous
        ambiguityReason := some input.reason
        quoteId := none
        feeReserve := none
        expiry := none
        recordedAt := input.recordedAt })
      let attempt ← mapAttempt s.db row
      let db ← quoteStatement s.commit
      return ({
        attempt
        replayed := false }, db)

/-- `assertMatchingTerms`. -/
def assertMatchingTerms (attempt : StoredCashuStellarMeltQuoteAttempt)
    (quote : CashuStellarMeltQuote) : Except QuoteError Unit :=
  ensure
    (quote.mintUrl = attempt.mintUrl ∧ quote.amount = attempt.request.amount ∧
      quote.request = attempt.request.request)
    ⟨.termsMismatch,
      "Cashu Stellar melt quote does not match its persisted creation intent."⟩

def assertInitialQuote (attempt : StoredCashuStellarMeltQuoteAttempt)
    (quote : CashuStellarMeltQuote) : Except QuoteError Unit := do
  assertMatchingTerms attempt quote
  ensure
    (quote.state = .unpaid ∧ attempt.startedAt ≤ quote.observedAt ∧
      quote.observedAt < quote.expiry ∧
      quote.expiry ≤ attempt.startedAt + maxCashuStellarMeltQuoteTtlSeconds)
    .invalidInput

/-- The row of an observation of a quote. -/
def quoteObservationRow (attempt : StoredCashuStellarMeltQuoteAttempt)
    (quote : CashuStellarMeltQuote) : MeltQuoteObservationRow where
  snapshotFingerprint := createCashuStellarMeltQuoteObservationFingerprint attempt quote
  attemptId := attempt.attemptId
  paymentId := attempt.paymentId
  mintUrl := attempt.mintUrl
  quoteId := quote.quoteId
  observedAt := quote.observedAt
  state := quote.state

/-- The observation of an attempt at a time. -/
def quoteObservationAt (db : Db) (attemptId : CashuStellarMeltQuoteAttemptId)
    (observedAt : UnixTimestamp) : Option MeltQuoteObservationRow :=
  db.cashuStellarMeltQuoteObservations.find fun row =>
    row.attemptId = attemptId ∧ row.observedAt = observedAt

def recordQuote (db : Db) (input : QuoteInput) : Except QuoteError (QuoteAttemptResult × Db) := do
  let quote ← orFail (createCashuStellarMeltQuote input.quote) .invalidInput
  lockReservation db input.paymentId
  let row ← lockAttempt db input.attemptId input.paymentId
  let attempt ← mapAttemptBase row
  assertInitialQuote attempt quote
  let outcomeFingerprint := createCashuStellarMeltQuotedOutcomeFingerprint attempt quote
  match db.outcomeOf attempt.attemptId with
  | some existing =>
      ensure (existing.outcomeKind = .quoted) .invalidTransition
      let initialObservation := quoteObservationAt db attempt.attemptId quote.observedAt
      ensure
        (existing.outcomeFingerprint = outcomeFingerprint ∧
          initialObservation.map (·.snapshotFingerprint) =
            some (createCashuStellarMeltQuoteObservationFingerprint attempt quote))
        ⟨.quoteConflict,
          "Cashu Stellar melt quote attempt already has different quote terms."⟩
      let attempt ← mapAttempt db row
      return ({
        attempt
        replayed := true }, db)
  | none =>
      assertOutcomeWritable db attempt.paymentId
      let s ← quoteStatement (insertQuoteOutcome ⟨db, []⟩ {
        attemptId := attempt.attemptId
        outcomeFingerprint
        paymentId := attempt.paymentId
        mintUrl := attempt.mintUrl
        outcomeKind := .quoted
        ambiguityReason := none
        quoteId := some quote.quoteId
        feeReserve := some quote.feeReserve
        expiry := some quote.expiry
        recordedAt := quote.observedAt })
      let s ← quoteStatement (insertQuoteObservation s (quoteObservationRow attempt quote))
      let attempt ← mapAttempt s.db row
      let db ← quoteStatement s.commit
      return ({
        attempt
        replayed := false }, db)

/-! ### Observing a quote -/

def assertObservedQuote (attempt : StoredCashuStellarMeltQuoteAttempt)
    (outcome : MeltQuoteOutcomeRow) (quote : CashuStellarMeltQuote) : Except QuoteError Unit := do
  assertMatchingTerms attempt quote
  ensure
    (outcome.quoteId = some quote.quoteId ∧ outcome.feeReserve = some quote.feeReserve ∧
      outcome.expiry = some quote.expiry)
    ⟨.termsMismatch,
      "Cashu Stellar melt quote observation changed immutable quote terms."⟩

/-- `observe` of the quote repository. -/
def observe (db : Db) (input : QuoteInput) : Except QuoteError (QuoteAttemptResult × Db) := do
  let quote ← orFail (createCashuStellarMeltQuote input.quote) .invalidInput
  lockReservation db input.paymentId
  let row ← lockAttempt db input.attemptId input.paymentId
  let attempt ← mapAttemptBase row
  let outcome ← orFail (db.outcomeOf attempt.attemptId) .invalidTransition
  ensure (outcome.outcomeKind = .quoted) .invalidTransition
  assertObservedQuote attempt outcome quote
  match quoteObservationAt db attempt.attemptId quote.observedAt with
  | some existing =>
      ensure
        (existing.snapshotFingerprint =
          createCashuStellarMeltQuoteObservationFingerprint attempt quote)
        ⟨.observationConflict,
          "Cashu Stellar melt quote observation time already has different evidence."⟩
      let attempt ← mapAttempt db row
      return ({
        attempt
        replayed := true }, db)
  | none =>
      ensure (∀ state ∈ db.latestState attempt.paymentId, ¬state.toReservationState.Terminal)
        .invalidTransition
      ensure
        (∃ latest ∈ db.latestQuoteObservation attempt.attemptId,
          latest.observedAt < quote.observedAt ∧ (latest.state = .paid → quote.state = .paid))
        .invalidTransition
      let s ← quoteStatement
        (insertQuoteObservation ⟨db, []⟩ (quoteObservationRow attempt quote))
      let attempt ← mapAttempt s.db row
      let db ← quoteStatement s.commit
      return ({
        attempt
        replayed := false }, db)

/-! ### Proof states -/

/-- `CashuProofStateRepositoryErrorCode`. -/
inductive ProofStateErrorCode where
  | invalidInput
  | invalidRecord
  | observationBeforeReservation
  | observationConflict
  | proofSetMismatch
  | reservationNotFound
  | reservationScopeMismatch
  | reservationTerminal
  | spentStateRegression
  | storageUnavailable
deriving DecidableEq

structure ProofStateError where
  code : ProofStateErrorCode
  message : String
deriving DecidableEq

namespace ProofStateError

def invalidInput : ProofStateError :=
  ⟨.invalidInput, "Cashu proof-state repository input is invalid."⟩

def invalidRecord : ProofStateError :=
  ⟨.invalidRecord, "Stored Cashu proof-state observation is invalid."⟩

def observationConflict : ProofStateError :=
  ⟨.observationConflict,
    "A different Cashu proof-state observation already exists at this time."⟩

/-- `mapStorageError` on what the database raises. -/
def ofDbError : DbError → ProofStateError
  | .uniqueViolation .cashuProofStateObservationsPaymentTimeUnique => observationConflict
  | _ => ⟨.storageUnavailable, "Cashu proof-state storage operation failed."⟩

end ProofStateError

/-- Run a statement within a proof state transaction. -/
def proofStateStatement {α : Type} (statement : Except DbError α) : Except ProofStateError α :=
  statement.mapError .ofDbError

@[simp] theorem proofStateStatement_eq_ok {α : Type} {statement : Except DbError α} {a : α} :
    proofStateStatement statement = .ok a ↔ statement = .ok a :=
  mapError_eq_ok

structure PersistProofStateInput where
  operatorId : OperatorId
  paymentId : PaymentId
  snapshot : CashuProofStateSnapshot
  unit : CashuUnit
deriving DecidableEq

structure PersistProofStateResult where
  replayed : Bool
  snapshot : CashuProofStateSnapshot
deriving DecidableEq

/-- `createObservationFingerprint`. -/
def PersistProofStateInput.fingerprint (input : PersistProofStateInput) :
    ProofStateFingerprint where
  mintUrl := input.snapshot.mintUrl
  observedAt := input.snapshot.observedAt
  operatorId := input.operatorId
  paymentId := input.paymentId
  states := input.snapshot.states
  unit := input.unit

/-- A reservation with the points of its proofs. -/
structure ReservationEvidence where
  mintUrl : MintUrl
  operatorId : OperatorId
  paymentId : PaymentId
  proofYs : List CashuProofY
  reservedAt : UnixTimestamp
  unit : CashuUnit
deriving DecidableEq

def loadReservationEvidence (db : Db) (paymentId : PaymentId) :
    Except ProofStateError (Option ReservationEvidence) :=
  match db.reservation paymentId with
  | none => return none
  | some row => do
      let proofs := db.reservedProofsOf paymentId
      ensure
        (proofs ≠ [] ∧ proofs.map (·.position) = List.range proofs.length ∧
          (proofs.map (·.proofY.val)).IsChain (· < ·))
        .invalidRecord
      return some {
        mintUrl := row.mintUrl
        operatorId := row.operatorId
        paymentId := row.paymentId
        proofYs := proofs.map (·.proofY)
        reservedAt := row.reservedAt
        unit := row.unit }

def assertObservationReservationBinding (observation : PersistProofStateInput)
    (reservation : ReservationEvidence) : Except ProofStateError Unit := do
  ensure
    (observation.operatorId = reservation.operatorId ∧
      observation.snapshot.mintUrl = reservation.mintUrl ∧ observation.unit = reservation.unit)
    ⟨.reservationScopeMismatch,
      "Cashu proof-state observation does not match its reservation scope."⟩
  ensure (reservation.reservedAt ≤ observation.snapshot.observedAt)
    ⟨.observationBeforeReservation,
      "Cashu proof-state observation cannot predate its reservation."⟩
  ensure (observation.snapshot.states.map (·.y) = reservation.proofYs)
    ⟨.proofSetMismatch,
      "Cashu proof-state observation does not contain its exact reserved proof set."⟩

/-- No stored observation of a proof that was `SPENT` is followed by one in which it was not. -/
def assertStoredHistory (db : Db) (paymentId : PaymentId) : Except ProofStateError Unit :=
  ensure
    (∀ spent ∈ db.proofStateObservationsOf paymentId,
      ∀ spentEntry ∈ db.proofStateEntriesOf spent.snapshotFingerprint,
        ∀ later ∈ db.proofStateObservationsOf paymentId,
          ∀ laterEntry ∈ db.proofStateEntriesOf later.snapshotFingerprint,
            ¬SpentRegression spent.observedAt later.observedAt spentEntry laterEntry)
    .invalidRecord

/-- The snapshot that an observation row stores. -/
def mapObservation (db : Db) (row : ProofStateObservationRow) :
    Except ProofStateError CashuProofStateSnapshot := do
  let entries := db.proofStateEntriesOf row.snapshotFingerprint
  ensure
    (entries.map (·.position) = List.range entries.length ∧
      ∀ entry ∈ entries, entry.paymentId = row.paymentId)
    .invalidRecord
  let snapshot ← orFail
    (createCashuProofStateSnapshot {
      mintUrl := row.mintUrl
      observedAt := row.observedAt
      states := entries.map fun entry =>
        { state := entry.state
          y := entry.proofY } })
    .invalidRecord
  let evidence ← loadReservationEvidence db row.paymentId
  let reservation ← orFail evidence .invalidRecord
  let observation : PersistProofStateInput := {
    operatorId := row.operatorId
    paymentId := row.paymentId
    snapshot
    unit := row.unit }
  ensure
    (reservation.operatorId = row.operatorId ∧ reservation.mintUrl = row.mintUrl ∧
      reservation.unit = row.unit ∧ reservation.reservedAt ≤ snapshot.observedAt ∧
      snapshot.states.map (·.y) = reservation.proofYs ∧
      observation.fingerprint = row.snapshotFingerprint)
    .invalidRecord
  return snapshot

/-- No stored observation contradicts the proposed one: none before it saw a proof `SPENT` that it
does not, and none after it saw a proof not `SPENT` that it does. -/
def assertProposedTransition (db : Db) (observation : PersistProofStateInput) :
    Except ProofStateError Unit :=
  ensure
    (∀ other ∈ db.proofStateObservationsOf observation.paymentId,
      ∀ otherEntry ∈ db.proofStateEntriesOf other.snapshotFingerprint,
        ∀ state ∈ observation.snapshot.states, state.y = otherEntry.proofY →
          ¬(other.observedAt < observation.snapshot.observedAt ∧
              otherEntry.state = .spent ∧ state.state ≠ .spent) ∧
            ¬(observation.snapshot.observedAt < other.observedAt ∧
              otherEntry.state ≠ .spent ∧ state.state = .spent))
    ⟨.spentStateRegression, "Cashu proof state cannot regress after SPENT evidence."⟩

/-- The row of an observation of the proof states. -/
def proofStateObservationRow (observation : PersistProofStateInput) :
    ProofStateObservationRow where
  snapshotFingerprint := observation.fingerprint
  paymentId := observation.paymentId
  operatorId := observation.operatorId
  mintUrl := observation.snapshot.mintUrl
  unit := observation.unit
  observedAt := observation.snapshot.observedAt

/-- The row of a proof's state at its position. -/
def proofStateEntryRow (observation : PersistProofStateInput)
    (state : CashuProofStateEntry × Nat) : ProofStateEntryRow where
  snapshotFingerprint := observation.fingerprint
  paymentId := observation.paymentId
  position := state.2
  proofY := state.1.y
  state := state.1.state

/-- `persistObservation` of the proof state repository. -/
def persistProofState (db : Db) (input : PersistProofStateInput) :
    Except ProofStateError (PersistProofStateResult × Db) := do
  let snapshot ← orFail (createCashuProofStateSnapshot input.snapshot) .invalidInput
  let observation := { input with snapshot }
  let evidence ← loadReservationEvidence db observation.paymentId
  let reservation ← orFail evidence
    ⟨.reservationNotFound,
      "Cashu proof-state observation requires an existing proof reservation."⟩
  assertObservationReservationBinding observation reservation
  assertStoredHistory db observation.paymentId
  let existing := db.cashuProofStateObservations.find fun row =>
    row.paymentId = observation.paymentId ∧ row.observedAt = observation.snapshot.observedAt
  match existing with
  | some existing =>
      ensure (existing.snapshotFingerprint = observation.fingerprint) .observationConflict
      let snapshot ← mapObservation db existing
      return ({
        replayed := true
        snapshot }, db)
  | none =>
      ensure (∀ state ∈ db.latestState observation.paymentId, ¬state.toReservationState.Terminal)
        ⟨.reservationTerminal,
          "Cashu proof-state observations cannot extend a terminal reservation."⟩
      assertProposedTransition db observation
      let s ← proofStateStatement
        (insertProofStateObservation ⟨db, []⟩ (proofStateObservationRow observation))
      let s ← observation.snapshot.states.zipIdx.foldlM
        (fun s state =>
          proofStateStatement (insertProofStateEntry s (proofStateEntryRow observation state))) s
      let db ← proofStateStatement s.commit
      return ({
        replayed := false
        snapshot := observation.snapshot }, db)

end CashMesh.Acquirer
