import CashMesh.Acquirer.Schema
import Mathlib.Tactic.MkIffOfInductiveProp
/-!
# The statements and their triggers

A transaction runs its statements in a session, which holds the rows it sees and the checks that its
statements have deferred to the commit. A statement runs the `BEFORE` triggers of its table, the
constraints of the row, the unique keys, the foreign keys and the `AFTER` triggers, in this order, and
fails with the first of them that does.

A trigger that raises when a condition is true is stated as what the row must satisfy for it not to
raise, with the nulls read as in the tables. A foreign key that a trigger of the same row has already
looked up is not checked again, and the format checks of the identifiers and the fingerprints are in
their types.
-/

namespace CashMesh.Acquirer

open CashMesh.Lib

/-! ### Sessions -/

/-- A constraint trigger that a statement has deferred. -/
inductive DeferredCheck where
  | requestOperators (invoiceId : InvoiceId)
  | invoiceRequest (invoiceId : InvoiceId)
  | reservation (paymentId : PaymentId)
  | proofStateObservation (fingerprint : ProofStateFingerprint)
  | effectEvent (effect : OperatorEffectRow)
  | activeClaims (paymentId : PaymentId)
  | quoteObservation (attemptId : CashuStellarMeltQuoteAttemptId)
  | journalPostings (journalEntryId : JournalEntryId)
  | invoiceAccounting (invoiceId : InvoiceId)
  | eventAccounting (paymentId : PaymentId)
deriving DecidableEq

/-- The rows a transaction sees, and the checks it has deferred. -/
structure Session where
  db : Db
  deferred : List DeferredCheck
deriving DecidableEq

/-- The session with the given rows and some more deferred checks. -/
def Session.next (s : Session) (db : Db) (deferred : List DeferredCheck) : Session :=
  { db, deferred := s.deferred ++ deferred }

@[simp] theorem Session.next_db (s : Session) (db : Db) (deferred : List DeferredCheck) :
    (s.next db deferred).db = db :=
  rfl

@[simp] theorem Session.next_deferred (s : Session) (db : Db) (deferred : List DeferredCheck) :
    (s.next db deferred).deferred = s.deferred ++ deferred :=
  rfl

/-- Insert a row into a table, or fail with the unique constraint it violates. -/
def insertRow {Row : Type} [UniqueKeys Row] (table : Table Row) (row : Row)
    (constraint : UniqueConstraint) : Except DbError (Table Row) :=
  orFail (table.insert row) (.uniqueViolation constraint)

/-! ### Invoices -/

def insertInvoiceCreation (s : Session) (row : InvoiceCreationRow) : Except DbError Session := do
  let table ← insertRow s.db.invoiceCreationRequests row .invoiceCreationRequests
  return s.next { s.db with invoiceCreationRequests := table } []

def insertInvoice (s : Session) (row : MerchantInvoiceRow) : Except DbError Session := do
  ensure row.Checks .checkViolation
  let table ← insertRow s.db.merchantInvoices row .merchantInvoices
  -- The accounting trigger returns at once for an invoice that is not paid.
  return s.next { s.db with merchantInvoices := table } <|
    [.invoiceRequest row.id] ++ if row.state = .paid then [.invoiceAccounting row.id] else []

def insertInvoiceRequest (s : Session) (row : InvoiceCashuRequestRow) :
    Except DbError Session := do
  ensure (row.issuedAt ≤ maxSafeInteger ∧ 1 ≤ row.operatorCount ∧ row.operatorCount ≤ 16)
    .checkViolation
  let table ← insertRow s.db.invoiceCashuRequests row .invoiceCashuRequests
  ensure
    (∃ invoice ∈ s.db.merchantInvoices,
      invoice.id = row.invoiceId ∧ invoice.merchantId = row.merchantId)
    .foreignKeyViolation
  return s.next { s.db with invoiceCashuRequests := table } [.requestOperators row.invoiceId]

/-- `invoice_cashu_request_operators_policy` with the bound of the position. -/
def InvoiceRouteRow.Checks (row : InvoiceRouteRow) : Prop :=
  row.position < 16 ∧
    ((row.tier = .trusted ∧ row.reason = .trustedOperator) ∨
      (row.tier = .convertible ∧ row.reason = .conversionRequired ∧
        row.mode = .immediateConversion))

instance : DecidablePred InvoiceRouteRow.Checks := fun _ =>
  inferInstanceAs (Decidable (_ ∧ _))

def insertInvoiceRoute (s : Session) (row : InvoiceRouteRow) : Except DbError Session := do
  ensure row.Checks .checkViolation
  let table ← insertRow s.db.invoiceCashuRequestOperators row .invoiceCashuRequestOperators
  ensure
    (∃ request ∈ s.db.invoiceCashuRequests,
      request.invoiceId = row.invoiceId ∧ request.merchantId = row.merchantId)
    .foreignKeyViolation
  return s.next { s.db with invoiceCashuRequestOperators := table }
    [.requestOperators row.invoiceId]

/-- `UPDATE merchant_invoices SET state = 'paid', paid_at = …` of an open invoice, with the number of
rows it changed. -/
def payInvoice (s : Session) (id : InvoiceId) (paidAt : UnixTimestamp) :
    Except DbError (Nat × Session) := do
  let selected := s.db.merchantInvoices.select fun row =>
    row.id = id ∧ row.state = .open ∧ row.paidAt = none
  let paid (row : MerchantInvoiceRow) : MerchantInvoiceRow :=
    { row with state := .paid, paidAt := some paidAt }
  ensure (∀ row ∈ selected, (paid row).Checks) .checkViolation
  let table ← orFail
    (s.db.merchantInvoices.update
      (fun row => row.id = id ∧ row.state = .open ∧ row.paidAt = none) paid)
    (.uniqueViolation .merchantInvoices)
  return (selected.length, s.next { s.db with merchantInvoices := table } <|
    selected.flatMap fun _ => [.invoiceRequest id, .invoiceAccounting id])

/-! ### Keyset evidence -/

def insertKeysetObservation (s : Session) (row : KeysetObservationRow) :
    Except DbError Session := do
  ensure (row.observedAt ≤ maxSafeInteger ∧ row.keysets ≠ []) .checkViolation
  let table ← insertRow s.db.cashuKeysetObservations row .cashuKeysetObservations
  return s.next { s.db with cashuKeysetObservations := table } []

/-! ### Reservations -/

def insertReservation (s : Session) (row : ReservationRow) : Except DbError Session := do
  -- `cashmesh_require_accountable_cashu_reservation_route`
  ensure (∃ request ∈ s.db.invoiceCashuRequests, request.invoiceId = row.invoiceId) .checkViolation
  ensure row.Checks .checkViolation
  let table ← insertRow s.db.cashuProofReservations row .cashuProofReservations
  ensure
    ((∃ invoice ∈ s.db.merchantInvoices, invoice.id = row.invoiceId) ∧
      ∃ route ∈ s.db.invoiceCashuRequestOperators,
        route.invoiceId = row.invoiceId ∧ route.operatorId = row.operatorId ∧
          route.mintUrl = row.mintUrl)
    .foreignKeyViolation
  return s.next { s.db with cashuProofReservations := table } [.reservation row.paymentId]

def insertActiveProofClaim (s : Session) (row : ActiveProofClaimRow) : Except DbError Session := do
  let table ← insertRow s.db.cashuActiveProofClaims row <|
    if ∃ claim ∈ s.db.cashuActiveProofClaims,
        claim.mintUrl = row.mintUrl ∧ claim.proofY = row.proofY then
      .cashuActiveProofClaimsPkey
    else
      .cashuActiveProofClaimsPaymentYUnique
  ensure
    (∃ proof ∈ s.db.cashuReservedProofs,
      proof.paymentId = row.paymentId ∧ proof.mintUrl = row.mintUrl ∧
        proof.proofY = row.proofY)
    .foreignKeyViolation
  return s.next { s.db with cashuActiveProofClaims := table } [.activeClaims row.paymentId]

def insertReservedProof (s : Session) (row : ReservedProofRow) : Except DbError Session := do
  ensure row.Checks .checkViolation
  let table ← insertRow s.db.cashuReservedProofs row .cashuReservedProofs
  ensure
    ((∃ reservation ∈ s.db.cashuProofReservations,
        reservation.paymentId = row.paymentId ∧ reservation.mintUrl = row.mintUrl ∧
          reservation.unit = row.unit) ∧
      ∃ observation ∈ s.db.cashuKeysetObservations,
        observation.mintUrl = row.mintUrl ∧ observation.unit = row.unit ∧
          ∃ keyset ∈ observation.keysets, keyset.id = row.keysetId)
    .foreignKeyViolation
  let s := s.next { s.db with cashuReservedProofs := table }
    [.reservation row.paymentId, .activeClaims row.paymentId]
  -- `cashmesh_claim_cashu_reserved_proof`
  insertActiveProofClaim s {
    mintUrl := row.mintUrl
    proofY := row.proofY
    paymentId := row.paymentId }

/-! ### Evidence -/

/-- `cashmesh_guard_cashu_observation_append`. -/
def guardObservationAppend (s : Session) (paymentId : PaymentId) : Except DbError Unit := do
  ensure (s.db.reservation paymentId).isSome .checkViolation
  ensure
    (∀ state ∈ s.db.latestState paymentId, ¬state.toReservationState.Terminal)
    .objectNotInPrerequisiteState

def insertProofStateObservation (s : Session) (row : ProofStateObservationRow) :
    Except DbError Session := do
  guardObservationAppend s row.paymentId
  ensure (row.observedAt ≤ maxSafeInteger) .checkViolation
  let table ← insertRow s.db.cashuProofStateObservations row <|
    if ∃ observation ∈ s.db.cashuProofStateObservations,
        observation.snapshotFingerprint = row.snapshotFingerprint then
      .cashuProofStateObservationsPkey
    else
      .cashuProofStateObservationsPaymentTimeUnique
  ensure
    (∃ reservation ∈ s.db.cashuProofReservations,
      reservation.paymentId = row.paymentId ∧ reservation.operatorId = row.operatorId ∧
        reservation.mintUrl = row.mintUrl ∧ reservation.unit = row.unit)
    .foreignKeyViolation
  return s.next { s.db with cashuProofStateObservations := table }
    [.proofStateObservation row.snapshotFingerprint]

def insertProofStateEntry (s : Session) (row : ProofStateEntryRow) : Except DbError Session := do
  ensure (row.position < 128) .checkViolation
  let table ← insertRow s.db.cashuProofStateObservationEntries row
    .cashuProofStateObservationEntries
  ensure
    ((∃ observation ∈ s.db.cashuProofStateObservations,
        observation.snapshotFingerprint = row.snapshotFingerprint ∧
          observation.paymentId = row.paymentId) ∧
      ∃ proof ∈ s.db.cashuReservedProofs,
        proof.paymentId = row.paymentId ∧ proof.proofY = row.proofY)
    .foreignKeyViolation
  return s.next { s.db with cashuProofStateObservationEntries := table } []

/-- What `cashmesh_validate_stellar_quote_attempt` requires of an attempt. -/
@[mk_iff] structure ValidQuoteAttempt (db : Db) (row : MeltQuoteAttemptRow)
    (reservation : ReservationRow) (invoice : MerchantInvoiceRow)
    (custody : BearerProofCustodyRow) : Prop where
  invoiceId : reservation.invoiceId = row.invoiceId
  operatorId : reservation.operatorId = row.operatorId
  mintUrl : reservation.mintUrl = row.mintUrl
  unit : reservation.unit = cashuStellarUnit
  amount : invoice.amount = row.amount
  isOpen : invoice.state = .open
  reserved : reservation.reservedAt ≤ row.startedAt
  created : invoice.createdAt ≤ row.startedAt
  beforeExpiry : row.startedAt < invoice.expiresAt
  inCustody : custody.createdAt ≤ row.startedAt
  noEffect : db.effectsOf row.paymentId = []
  noEvent : db.eventsOf row.paymentId = []
  proofs : db.reservedProofsOf row.paymentId ≠ []
  claims : (db.proofClaimsOf row.paymentId).length = (db.reservedProofsOf row.paymentId).length

instance (db : Db) (row : MeltQuoteAttemptRow) (reservation : ReservationRow)
    (invoice : MerchantInvoiceRow) (custody : BearerProofCustodyRow) :
    Decidable (ValidQuoteAttempt db row reservation invoice custody) :=
  decidable_of_iff' _ (validQuoteAttempt_iff ..)

def insertQuoteAttempt (s : Session) (row : MeltQuoteAttemptRow) : Except DbError Session := do
  -- `cashmesh_validate_stellar_quote_destination`
  ensure
    (∃ route ∈ s.db.routeOf row.invoiceId row.operatorId row.mintUrl,
      route.mode = .immediateConversion ∧
        route.settlementDestination = row.settlementDestination)
    .checkViolation
  ensure
    (∃ reservation ∈ s.db.reservation row.paymentId, ∃ invoice ∈ s.db.invoice row.invoiceId,
      ∃ custody ∈ s.db.custodyOf row.paymentId,
        ValidQuoteAttempt s.db row reservation invoice custody)
    .checkViolation
  ensure row.Checks .checkViolation
  let table ← insertRow s.db.cashuStellarMeltQuoteAttempts row .cashuStellarMeltQuoteAttempts
  ensure
    ((∃ reservation ∈ s.db.cashuProofReservations,
        reservation.paymentId = row.paymentId ∧ reservation.invoiceId = row.invoiceId ∧
          reservation.operatorId = row.operatorId ∧ reservation.mintUrl = row.mintUrl) ∧
      ∃ route ∈ s.db.invoiceCashuRequestOperators,
        route.invoiceId = row.invoiceId ∧ route.operatorId = row.operatorId ∧
          route.mintUrl = row.mintUrl ∧
          route.settlementDestination = row.settlementDestination)
    .foreignKeyViolation
  return s.next { s.db with cashuStellarMeltQuoteAttempts := table } []

/-- What `cashmesh_validate_stellar_quote_outcome` requires of an outcome. -/
@[mk_iff] structure ValidQuoteOutcome (db : Db) (row : MeltQuoteOutcomeRow)
    (attempt : MeltQuoteAttemptRow) : Prop where
  started : attempt.startedAt ≤ row.recordedAt
  noEffect : db.effectsOf row.paymentId = []
  noEvent : db.eventsOf row.paymentId = []
  inCustody : (db.custodyOf row.paymentId).isSome
  terms : row.outcomeKind = .quoted →
    (∀ expiry ∈ row.expiry, expiry ≤ attempt.startedAt + 900) ∧
      ∀ feeReserve ∈ row.feeReserve, feeReserve ≤ maxSafeInteger - attempt.amount

instance (db : Db) (row : MeltQuoteOutcomeRow) (attempt : MeltQuoteAttemptRow) :
    Decidable (ValidQuoteOutcome db row attempt) :=
  decidable_of_iff' _ (validQuoteOutcome_iff ..)

def insertQuoteOutcome (s : Session) (row : MeltQuoteOutcomeRow) : Except DbError Session := do
  ensure (∃ attempt ∈ s.db.attempt row.attemptId, ValidQuoteOutcome s.db row attempt)
    .checkViolation
  ensure row.Checks .checkViolation
  let table ← insertRow s.db.cashuStellarMeltQuoteOutcomes row <|
    if ∃ outcome ∈ s.db.cashuStellarMeltQuoteOutcomes,
        outcome.attemptId = row.attemptId ∨
          outcome.outcomeFingerprint = row.outcomeFingerprint then
      .cashuStellarMeltQuoteOutcomes
    else
      .cashuStellarQuoteOutcomesMintQuoteUnique
  ensure
    (∃ attempt ∈ s.db.cashuStellarMeltQuoteAttempts,
      attempt.attemptId = row.attemptId ∧ attempt.paymentId = row.paymentId ∧
        attempt.mintUrl = row.mintUrl)
    .foreignKeyViolation
  return s.next { s.db with cashuStellarMeltQuoteOutcomes := table }
    [.quoteObservation row.attemptId]

/-- What `cashmesh_validate_stellar_quote_observation` requires of an observation. -/
@[mk_iff] structure ValidQuoteObservation (db : Db) (row : MeltQuoteObservationRow)
    (outcome : MeltQuoteOutcomeRow) : Prop where
  quoted : outcome.outcomeKind = .quoted
  paymentId : outcome.paymentId = row.paymentId
  mintUrl : outcome.mintUrl = row.mintUrl
  quoteId : ∀ quoteId ∈ outcome.quoteId, quoteId = row.quoteId
  recorded : outcome.recordedAt ≤ row.observedAt
  first : db.latestQuoteObservation row.attemptId = none →
    row.observedAt = outcome.recordedAt ∧ row.state = .unpaid
  later : ∀ latest ∈ db.latestQuoteObservation row.attemptId,
    latest.observedAt < row.observedAt ∧ (latest.state = .paid → row.state = .paid)

instance (db : Db) (row : MeltQuoteObservationRow) (outcome : MeltQuoteOutcomeRow) :
    Decidable (ValidQuoteObservation db row outcome) :=
  decidable_of_iff' _ (validQuoteObservation_iff ..)

def insertQuoteObservation (s : Session) (row : MeltQuoteObservationRow) :
    Except DbError Session := do
  guardObservationAppend s row.paymentId
  ensure (∃ outcome ∈ s.db.outcomeOf row.attemptId, ValidQuoteObservation s.db row outcome)
    .checkViolation
  ensure row.Checks .checkViolation
  let table ← insertRow s.db.cashuStellarMeltQuoteObservations row
    .cashuStellarMeltQuoteObservations
  ensure
    (∃ outcome ∈ s.db.cashuStellarMeltQuoteOutcomes,
      outcome.attemptId = row.attemptId ∧ outcome.paymentId = row.paymentId ∧
        outcome.mintUrl = row.mintUrl ∧ outcome.quoteId = some row.quoteId)
    .foreignKeyViolation
  return s.next { s.db with cashuStellarMeltQuoteObservations := table }
    [.quoteObservation row.attemptId]

/-! ### Custody -/

/-- What `cashmesh_validate_cashu_bearer_proof_custody_insert` requires of a record. -/
@[mk_iff] structure ValidCustody (db : Db) (row : BearerProofCustodyRow)
    (reservation : ReservationRow) (invoice : MerchantInvoiceRow) : Prop where
  isOpen : invoice.state = .open
  reserved : reservation.reservedAt ≤ row.createdAt
  created : invoice.createdAt ≤ row.createdAt
  beforeExpiry : row.createdAt < invoice.expiresAt
  noEvent : db.latestState row.paymentId = none
  noEffect : db.effectsOf row.paymentId = []
  proofs : db.reservedProofsOf row.paymentId ≠ []
  proofCount : row.proofCount = (db.reservedProofsOf row.paymentId).length
  claims : (db.proofClaimsOf row.paymentId).length = (db.reservedProofsOf row.paymentId).length

instance (db : Db) (row : BearerProofCustodyRow) (reservation : ReservationRow)
    (invoice : MerchantInvoiceRow) : Decidable (ValidCustody db row reservation invoice) :=
  decidable_of_iff' _ (validCustody_iff ..)

def insertCustody (s : Session) (row : BearerProofCustodyRow) : Except DbError Session := do
  ensure
    (∃ reservation ∈ s.db.reservation row.paymentId,
      ∃ invoice ∈ s.db.invoice reservation.invoiceId,
        ValidCustody s.db row reservation invoice)
    .checkViolation
  ensure (0 < row.proofCount ∧ row.proofCount ≤ 128 ∧ row.createdAt ≤ maxSafeInteger)
    .checkViolation
  let table ← insertRow s.db.cashuBearerProofCustody row .cashuBearerProofCustody
  return s.next { s.db with cashuBearerProofCustody := table } []

/-- `DELETE FROM cashu_bearer_proof_custody` with its guard, which wants a terminal lifecycle. -/
def deleteCustody (s : Session) (paymentId : PaymentId) : Except DbError Session := do
  ensure
    ((s.db.custodyOf paymentId).isSome →
      ∃ state ∈ s.db.latestState paymentId, state.toReservationState.Terminal)
    .objectNotInPrerequisiteState
  return s.next
    { s.db with
      cashuBearerProofCustody :=
        s.db.cashuBearerProofCustody.delete fun row => row.paymentId = paymentId }
    []

/-! ### Effects -/

def insertActiveInvoiceClaim (s : Session) (row : ActiveInvoiceClaimRow) :
    Except DbError Session := do
  let table ← insertRow s.db.cashuActiveInvoicePaymentClaims row <|
    if ∃ claim ∈ s.db.cashuActiveInvoicePaymentClaims, claim.invoiceId = row.invoiceId then
      .cashuActiveInvoicePaymentClaimsPkey
    else
      .cashuActiveInvoicePaymentClaims
  ensure
    (∃ effect ∈ s.db.cashuOperatorEffects,
      effect.effectId = row.effectId ∧ effect.paymentId = row.paymentId ∧
        effect.invoiceId = row.invoiceId)
    .foreignKeyViolation
  return s.next { s.db with cashuActiveInvoicePaymentClaims := table }
    [.activeClaims row.paymentId]

/-- When the first recovery of an effect is due. -/
def initialRecoveryAttemptAt (startedAt : UnixTimestamp) : UnixTimestamp :=
  min maxSafeInteger (startedAt + 60)

def insertRecoveryJob (s : Session) (row : RecoveryJobRow) : Except DbError Session := do
  -- `cashmesh_validate_stellar_melt_recovery_job`
  ensure
    (∃ effect ∈ s.db.effect row.effectId row.paymentId,
      effect.effectKind = .melt ∧
        row.initialAttemptAt = initialRecoveryAttemptAt effect.startedAt)
    .checkViolation
  let table ← insertRow s.db.cashuStellarMeltRecoveryJobs row .cashuStellarMeltRecoveryJobs
  return s.next { s.db with cashuStellarMeltRecoveryJobs := table } []

/-- What `cashmesh_validate_cashu_melt_effect_quote` requires of a melt effect. -/
@[mk_iff] structure DispatchableQuote (row : OperatorEffectRow) (attempt : MeltQuoteAttemptRow)
    (outcome : MeltQuoteOutcomeRow) (latest : MeltQuoteObservationRow) : Prop where
  mintUrl : attempt.mintUrl = row.mintUrl
  quoteId : outcome.quoteId = row.operatorReference
  expiry : outcome.expiry = row.operatorReferenceExpiresAt
  recorded : outcome.recordedAt ≤ row.startedAt
  observed : latest.observedAt ≤ row.startedAt
  unpaid : latest.state = .unpaid
  beforeExpiry : ∀ expiry ∈ outcome.expiry, row.startedAt < expiry

instance (row : OperatorEffectRow) (attempt : MeltQuoteAttemptRow)
    (outcome : MeltQuoteOutcomeRow) (latest : MeltQuoteObservationRow) :
    Decidable (DispatchableQuote row attempt outcome latest) :=
  decidable_of_iff' _ (dispatchableQuote_iff ..)

def insertEffect (s : Session) (row : OperatorEffectRow) : Except DbError Session := do
  ensure
    (row.effectKind = .melt →
      ∃ attempt ∈ s.db.attemptOf row.paymentId, ∃ outcome ∈ s.db.outcomeOf attempt.attemptId,
        outcome.outcomeKind = .quoted ∧
          ∃ latest ∈ s.db.latestQuoteObservation attempt.attemptId,
            DispatchableQuote row attempt outcome latest)
    .checkViolation
  ensure row.Checks .checkViolation
  let table ← insertRow s.db.cashuOperatorEffects row .cashuOperatorEffects
  ensure
    (∃ reservation ∈ s.db.cashuProofReservations,
      reservation.paymentId = row.paymentId ∧ reservation.invoiceId = row.invoiceId ∧
        reservation.operatorId = row.operatorId ∧ reservation.mintUrl = row.mintUrl)
    .foreignKeyViolation
  let s := s.next { s.db with cashuOperatorEffects := table }
    [.effectEvent row, .activeClaims row.paymentId]
  -- `cashmesh_claim_cashu_operator_effect_invoice`
  let s ← insertActiveInvoiceClaim s {
    invoiceId := row.invoiceId
    paymentId := row.paymentId
    effectId := row.effectId }
  -- `cashmesh_schedule_stellar_melt_recovery`
  if row.effectKind = .melt then
    insertRecoveryJob s {
      paymentId := row.paymentId
      effectId := row.effectId
      initialAttemptAt := initialRecoveryAttemptAt row.startedAt }
  else
    return s

/-! ### Lifecycle events -/

/-- What `cashmesh_validate_latest_melt_release_evidence` requires of a release after expiry. -/
@[mk_iff] structure LatestFailureEvidence (row : LifecycleEventRow) (effect : OperatorEffectRow)
    (quote : MeltQuoteObservationRow × MeltQuoteOutcomeRow)
    (latestProof : Option ProofStateObservationRow) : Prop where
  melt : effect.effectKind = .melt
  unpaid : quote.1.state = .unpaid
  quoteTime : some quote.1.observedAt = row.evidenceAt
  quoteId : some quote.1.quoteId = effect.operatorReference
  expiry : quote.2.expiry = effect.operatorReferenceExpiresAt
  fingerprint : latestProof.map (·.snapshotFingerprint) = row.proofStateSnapshotFingerprint
  proofTime : ∀ proof ∈ latestProof,
    (∀ evidenceAt ∈ row.evidenceAt, evidenceAt ≤ proof.observedAt) ∧
      proof.observedAt ≤ row.recordedAt

instance (row : LifecycleEventRow) (effect : OperatorEffectRow)
    (quote : MeltQuoteObservationRow × MeltQuoteOutcomeRow)
    (latestProof : Option ProofStateObservationRow) :
    Decidable (LatestFailureEvidence row effect quote latestProof) :=
  decidable_of_iff' _ (latestFailureEvidence_iff ..)

def validateLatestMeltReleaseEvidence (s : Session) (row : LifecycleEventRow) :
    Except DbError Unit :=
  ensure
    ((row.state = .released ∧ ∀ kind ∈ row.evidenceKind, kind = .meltUnpaidAfterExpiry) →
      ∃ effectId ∈ row.effectId, ∃ effect ∈ s.db.effect effectId row.paymentId,
        ∃ quote ∈ s.db.latestQuote row.paymentId,
          LatestFailureEvidence row effect quote (s.db.latestProofState row.paymentId))
    .checkViolation

/-- What the trigger requires of an event that follows another. -/
@[mk_iff] structure ValidSuccessor (previous row : LifecycleEventRow) : Prop where
  sequence : row.sequence = previous.sequence + 1
  recorded : previous.recordedAt ≤ row.recordedAt
  notTerminal : ¬previous.state.toReservationState.Terminal
  notDispatch : row.state ≠ .dispatchStarted
  effectId : row.effectId = previous.effectId

instance (previous row : LifecycleEventRow) : Decidable (ValidSuccessor previous row) :=
  decidable_of_iff' _ (validSuccessor_iff ..)

/-- What the trigger requires of the first event of a payment. -/
@[mk_iff] structure ValidFirst (row : LifecycleEventRow) : Prop where
  sequence : row.sequence = 0
  state : row.state = .dispatchStarted ∨ row.state = .released
  preDispatch : row.state = .released → ∀ kind ∈ row.evidenceKind, kind = .preDispatch

instance (row : LifecycleEventRow) : Decidable (ValidFirst row) :=
  decidable_of_iff' _ (validFirst_iff ..)

/-- What the trigger requires of the dispatch event of an effect. -/
@[mk_iff] structure ValidDispatchEvent (row : LifecycleEventRow) (effect : OperatorEffectRow)
    (invoice : MerchantInvoiceRow) : Prop where
  recorded : effect.startedAt = row.recordedAt
  isOpen : invoice.state = .open
  created : invoice.createdAt ≤ effect.startedAt
  beforeExpiry : effect.startedAt < invoice.expiresAt

instance (row : LifecycleEventRow) (effect : OperatorEffectRow) (invoice : MerchantInvoiceRow) :
    Decidable (ValidDispatchEvent row effect invoice) :=
  decidable_of_iff' _ (validDispatchEvent_iff ..)

/-- Whether the evidence of an event is of the kind of its effect, and not before the expiry where it
reports one. -/
def EvidenceFitsEffect (row : LifecycleEventRow) (effect : OperatorEffectRow) : Prop :=
  ∀ kind ∈ row.evidenceKind,
    (kind = .success .swapSucceeded → effect.effectKind = .swap) ∧
      (kind = .meltPaid → effect.effectKind = .melt) ∧
      (kind = .failure .swapRejected → effect.effectKind = .swap) ∧
      (kind = .meltUnpaidAfterExpiry →
        effect.effectKind = .melt ∧
          ∀ evidenceAt ∈ row.evidenceAt, ∀ expiresAt ∈ effect.operatorReferenceExpiresAt,
            expiresAt ≤ evidenceAt) ∧
      (kind = .operatorPending → effect.effectKind = .melt)

instance (row : LifecycleEventRow) (effect : OperatorEffectRow) :
    Decidable (EvidenceFitsEffect row effect) :=
  inferInstanceAs (Decidable (∀ kind ∈ row.evidenceKind, _ ∧ _ ∧ _ ∧ _ ∧ _))

/-- What the trigger requires of an event with an effect. -/
@[mk_iff] structure ValidEffectEvent (db : Db) (row : LifecycleEventRow)
    (reservation : ReservationRow) (effect : OperatorEffectRow) : Prop where
  started : effect.startedAt ≤ row.recordedAt
  evidenceTime : ∀ evidenceAt ∈ row.evidenceAt, effect.startedAt ≤ evidenceAt
  dispatch : row.state = .dispatchStarted →
    ∃ invoice ∈ db.invoice reservation.invoiceId, ValidDispatchEvent row effect invoice
  evidence : EvidenceFitsEffect row effect

instance (db : Db) (row : LifecycleEventRow) (reservation : ReservationRow)
    (effect : OperatorEffectRow) : Decidable (ValidEffectEvent db row reservation effect) :=
  decidable_of_iff' _ (validEffectEvent_iff ..)

/-- The proof state that a terminal event wants of every entry. -/
def LifecycleEventState.requiredProofState (state : LifecycleEventState) : CashuProofStateValue :=
  if state = .consumed then .spent else .unspent

/-- What the trigger requires of the snapshot that an event cites. -/
@[mk_iff] structure ValidSnapshotEvent (db : Db) (row : LifecycleEventRow)
    (observation : ProofStateObservationRow) : Prop where
  afterEvidence : ∀ evidenceAt ∈ row.evidenceAt, evidenceAt ≤ observation.observedAt
  beforeRecord : observation.observedAt ≤ row.recordedAt
  entries : db.proofStateEntriesOf observation.snapshotFingerprint ≠ []
  uniform : ∀ entry ∈ db.proofStateEntriesOf observation.snapshotFingerprint,
    entry.state = row.state.requiredProofState

instance (db : Db) (row : LifecycleEventRow) (observation : ProofStateObservationRow) :
    Decidable (ValidSnapshotEvent db row observation) :=
  decidable_of_iff' _ (validSnapshotEvent_iff ..)

/-- What `cashmesh_validate_cashu_reservation_event` requires of an event. -/
@[mk_iff] structure ValidEvent (db : Db) (row : LifecycleEventRow)
    (reservation : ReservationRow) : Prop where
  reserved : reservation.reservedAt ≤ row.recordedAt
  successor : ∀ previous ∈ db.latestEvent row.paymentId, ValidSuccessor previous row
  first : db.latestEvent row.paymentId = none → ValidFirst row
  effect : ∀ effectId ∈ row.effectId,
    ∃ effect ∈ db.effect effectId row.paymentId, ValidEffectEvent db row reservation effect
  snapshot : ∀ fingerprint ∈ row.proofStateSnapshotFingerprint,
    ∃ observation ∈ db.proofStateObservation fingerprint row.paymentId,
      ValidSnapshotEvent db row observation

instance (db : Db) (row : LifecycleEventRow) (reservation : ReservationRow) :
    Decidable (ValidEvent db row reservation) :=
  decidable_of_iff' _ (validEvent_iff ..)

def insertEventRow (s : Session) (row : LifecycleEventRow) : Except DbError Session := do
  validateLatestMeltReleaseEvidence s row
  ensure
    (∃ reservation ∈ s.db.reservation row.paymentId, ValidEvent s.db row reservation)
    .checkViolation
  ensure row.Checks .checkViolation
  let table ← insertRow s.db.cashuProofReservationEvents row <|
    if ∃ event ∈ s.db.cashuProofReservationEvents,
        event.eventId = row.eventId ∨ event.eventFingerprint = row.eventFingerprint then
      .cashuProofReservationEventsPkey
    else
      .cashuProofReservationEventsPaymentSequenceUnique
  ensure
    (∀ journalEntryId ∈ row.journalEntryId,
      ∃ journal ∈ s.db.merchantInvoicePaymentJournals,
        journal.journalEntryId = journalEntryId ∧ journal.paymentId = row.paymentId)
    .foreignKeyViolation
  let s := s.next { s.db with cashuProofReservationEvents := table } <|
    [.activeClaims row.paymentId] ++
      if row.state = .consumed then [.eventAccounting row.paymentId] else []
  -- `cashmesh_destroy_terminal_cashu_bearer_proof_custody`
  if row.state.toReservationState.Terminal then
    deleteCustody s row.paymentId
  else
    return s

/-- `DELETE` of the proof claims and of the invoice claims of a payment. -/
def deleteActiveClaims (s : Session) (paymentId : PaymentId) : Session :=
  s.next
    { s.db with
      cashuActiveProofClaims :=
        s.db.cashuActiveProofClaims.delete fun row => row.paymentId = paymentId
      cashuActiveInvoicePaymentClaims :=
        s.db.cashuActiveInvoicePaymentClaims.delete fun row => row.paymentId = paymentId }
    ((s.db.proofClaimsOf paymentId).map (fun _ => .activeClaims paymentId) ++
      (s.db.invoiceClaimsOf paymentId).map fun _ => .activeClaims paymentId)

/-! ### Accounting -/

def insertJournal (s : Session) (row : PaymentJournalRow) : Except DbError Session := do
  ensure row.Checks .checkViolation
  let table ← insertRow s.db.merchantInvoicePaymentJournals row .merchantInvoicePaymentJournals
  ensure
    ((∃ invoice ∈ s.db.merchantInvoices,
        invoice.id = row.invoiceId ∧ invoice.merchantId = row.merchantId) ∧
      ∃ reservation ∈ s.db.cashuProofReservations,
        reservation.paymentId = row.paymentId ∧ reservation.invoiceId = row.invoiceId ∧
          reservation.operatorId = row.operatorId ∧ reservation.mintUrl = row.mintUrl)
    .foreignKeyViolation
  return s.next { s.db with merchantInvoicePaymentJournals := table }
    [.invoiceAccounting row.invoiceId, .journalPostings row.journalEntryId]

def insertPosting (s : Session) (row : PaymentPostingRow) : Except DbError Session := do
  ensure row.Checks .checkViolation
  let table ← insertRow s.db.merchantInvoicePaymentPostings row .merchantInvoicePaymentPostings
  ensure
    (∃ journal ∈ s.db.merchantInvoicePaymentJournals,
      journal.journalEntryId = row.journalEntryId)
    .foreignKeyViolation
  return s.next { s.db with merchantInvoicePaymentPostings := table }
    [.journalPostings row.journalEntryId]

/-! ### Recovery leases -/

/-- When the next lease of a job may be claimed: none when the job is not retryable, and null when a
retry names no time. -/
def eligibleAt (job : RecoveryJobRow) (latestLease : Option RecoveryLeaseRow)
    (latestOutcome : Option RecoveryOutcomeRow) : Option (Option UnixTimestamp) :=
  match latestLease with
  | none => some (some job.initialAttemptAt)
  | some lease =>
      match latestOutcome with
      | none => some (some lease.expiresAt)
      | some outcome =>
          if outcome.outcomeKind = .retryScheduled then some outcome.nextAttemptAt else none

/-- The attempt number that follows the latest lease. -/
def nextAttemptNumber (latestLease : Option RecoveryLeaseRow) : Nat :=
  match latestLease with
  | none => 1
  | some lease => lease.attemptNumber + 1

def insertRecoveryLease (s : Session) (row : RecoveryLeaseRow) : Except DbError Session := do
  -- `cashmesh_validate_stellar_melt_recovery_lease`
  let job ← orFail (s.db.recoveryJob row.paymentId) .objectNotInPrerequisiteState
  ensure
    (∃ state ∈ s.db.latestState row.paymentId, ¬state.toReservationState.Terminal)
    .objectNotInPrerequisiteState
  let latestLease := s.db.latestLease row.paymentId
  ensure (row.attemptNumber = nextAttemptNumber latestLease) .checkViolation
  let latestOutcome := latestLease.bind fun lease => s.db.recoveryOutcome lease.leaseToken
  let eligibleAt ← orFail (eligibleAt job latestLease latestOutcome) .objectNotInPrerequisiteState
  ensure (∃ time ∈ eligibleAt, time ≤ row.claimedAt) .objectNotInPrerequisiteState
  ensure row.Checks .checkViolation
  let table ← insertRow s.db.cashuStellarMeltRecoveryLeases row .cashuStellarMeltRecoveryLeases
  return s.next { s.db with cashuStellarMeltRecoveryLeases := table } []

/-- Whether an outcome of the kind fits the latest lifecycle state. -/
def OutcomeFitsLifecycle (kind : RecoveryOutcomeKind) (latest : Option LifecycleEventState) :
    Prop :=
  (kind = .accepted → latest = some .consumed) ∧
    (kind = .released → latest = some .released) ∧
    (kind = .retryScheduled ∨ kind = .attentionRequired →
      ∃ state ∈ latest, state.toReservationState.Active)

instance (kind : RecoveryOutcomeKind) (latest : Option LifecycleEventState) :
    Decidable (OutcomeFitsLifecycle kind latest) :=
  inferInstanceAs (Decidable (_ ∧ _))

def insertRecoveryOutcome (s : Session) (row : RecoveryOutcomeRow) : Except DbError Session := do
  -- `cashmesh_validate_stellar_melt_recovery_outcome`
  ensure
    (∃ lease ∈ s.db.latestLease row.paymentId,
      lease.leaseToken = row.leaseToken ∧ lease.claimedAt ≤ row.recordedAt ∧
        row.recordedAt ≤ lease.expiresAt)
    .objectNotInPrerequisiteState
  ensure (OutcomeFitsLifecycle row.outcomeKind (s.db.latestState row.paymentId))
    .objectNotInPrerequisiteState
  ensure row.Checks .checkViolation
  let table ← insertRow s.db.cashuStellarMeltRecoveryOutcomes row .cashuStellarMeltRecoveryOutcomes
  return s.next { s.db with cashuStellarMeltRecoveryOutcomes := table } []

/-! ### The deferred checks and the commit -/

/-- `cashmesh_validate_cashu_proof_reservation`. -/
@[mk_iff] structure ValidReservation (db : Db) (row : ReservationRow)
    (invoice : MerchantInvoiceRow) : Prop where
  isOpen : invoice.state = .open
  unit : row.unit = cashuStellarUnit
  created : invoice.createdAt ≤ row.reservedAt
  beforeExpiry : row.reservedAt < invoice.expiresAt
  proofs : db.reservedProofsOf row.paymentId ≠ []
  proofBound : (db.reservedProofsOf row.paymentId).length ≤ 128
  lastPosition : (db.reservedProofsOf row.paymentId).getLast?.map (·.position) =
    some ((db.reservedProofsOf row.paymentId).length - 1)
  total : ((db.reservedProofsOf row.paymentId).map (·.amount)).sum = row.grossAmount
  keysets : ∀ proof ∈ db.reservedProofsOf row.paymentId,
    ∃ observation ∈ db.cashuKeysetObservations,
      observation.operatorId = row.operatorId ∧ observation.mintUrl = row.mintUrl ∧
        observation.unit = row.unit ∧ observation.observedAt = row.keysetObservedAt ∧
        ∃ keyset ∈ observation.keysets, keyset.id = proof.keysetId

instance (db : Db) (row : ReservationRow) (invoice : MerchantInvoiceRow) :
    Decidable (ValidReservation db row invoice) :=
  decidable_of_iff' _ (validReservation_iff ..)

/-- Whether two observations of a proof contradict each other: it was `SPENT` at the earlier time and
is not at the later one. -/
def SpentRegression (earlierAt laterAt : UnixTimestamp)
    (earlier later : ProofStateEntryRow) : Prop :=
  earlierAt < laterAt ∧ earlier.proofY = later.proofY ∧ earlier.state = .spent ∧
    later.state ≠ .spent

instance (earlierAt laterAt : UnixTimestamp) (earlier later : ProofStateEntryRow) :
    Decidable (SpentRegression earlierAt laterAt earlier later) :=
  inferInstanceAs (Decidable (_ ∧ _))

/-- `cashmesh_validate_cashu_proof_state_observation`. -/
@[mk_iff] structure ValidProofStateObservation (db : Db) (row : ProofStateObservationRow)
    (reservation : ReservationRow) : Prop where
  operatorId : reservation.operatorId = row.operatorId
  mintUrl : reservation.mintUrl = row.mintUrl
  unit : reservation.unit = row.unit
  reserved : reservation.reservedAt ≤ row.observedAt
  entries : db.proofStateEntriesOf row.snapshotFingerprint ≠ []
  count : (db.proofStateEntriesOf row.snapshotFingerprint).length =
    (db.reservedProofsOf row.paymentId).length
  firstPosition : (db.proofStateEntriesOf row.snapshotFingerprint).head?.map (·.position) = some 0
  lastPosition : (db.proofStateEntriesOf row.snapshotFingerprint).getLast?.map (·.position) =
    some ((db.proofStateEntriesOf row.snapshotFingerprint).length - 1)
  proofs : ∀ proof ∈ db.reservedProofsOf row.paymentId,
    ∃ entry ∈ db.proofStateEntriesOf row.snapshotFingerprint,
      entry.paymentId = row.paymentId ∧ entry.proofY = proof.proofY
  noRegression : ∀ entry ∈ db.proofStateEntriesOf row.snapshotFingerprint,
    ∀ other ∈ db.proofStateObservationsOf row.paymentId,
      other.snapshotFingerprint ≠ row.snapshotFingerprint →
        ∀ otherEntry ∈ db.proofStateEntriesOf other.snapshotFingerprint,
          ¬SpentRegression other.observedAt row.observedAt otherEntry entry ∧
            ¬SpentRegression row.observedAt other.observedAt entry otherEntry

instance (db : Db) (row : ProofStateObservationRow) (reservation : ReservationRow) :
    Decidable (ValidProofStateObservation db row reservation) :=
  decidable_of_iff' _ (validProofStateObservation_iff ..)

/-- The number of active claims on the reserved proofs of a payment. -/
def Db.activeProofCount (db : Db) (paymentId : PaymentId) : Nat :=
  ((db.proofClaimsOf paymentId).filter fun claim =>
    ∃ proof ∈ db.cashuReservedProofs,
      proof.paymentId = claim.paymentId ∧ proof.mintUrl = claim.mintUrl ∧
        proof.proofY = claim.proofY).length

/-- `cashmesh_validate_cashu_active_claims`. -/
@[mk_iff] structure ValidActiveClaims (db : Db) (paymentId : PaymentId) : Prop where
  released : db.latestState paymentId = some .released →
    db.activeProofCount paymentId = 0 ∧ db.invoiceClaimsOf paymentId = []
  proofs : db.latestState paymentId ≠ some .released →
    db.activeProofCount paymentId = (db.reservedProofsOf paymentId).length
  invoice : db.latestState paymentId ≠ some .released →
    (db.invoiceClaimsOf paymentId).length = if db.effectsOf paymentId = [] then 0 else 1

instance (db : Db) (paymentId : PaymentId) : Decidable (ValidActiveClaims db paymentId) :=
  decidable_of_iff' _ (validActiveClaims_iff ..)

/-- `cashmesh_require_stellar_quote_observation`. -/
def HasInitialObservation (db : Db) (outcome : MeltQuoteOutcomeRow) : Prop :=
  (outcome.outcomeKind = .ambiguous → db.quoteObservationsOf outcome.attemptId = []) ∧
    (outcome.outcomeKind = .quoted →
      ∃ first ∈ (db.quoteObservationsOf outcome.attemptId).head?,
        first.observedAt = outcome.recordedAt ∧ first.state = .unpaid)

instance (db : Db) (outcome : MeltQuoteOutcomeRow) : Decidable (HasInitialObservation db outcome) :=
  inferInstanceAs (Decidable (_ ∧ _))

/-- `cashmesh_validate_merchant_payment_journal`. -/
@[mk_iff] structure ValidJournalPostings (journal : PaymentJournalRow)
    (postings : List PaymentPostingRow) : Prop where
  count : postings.length = if journal.feeAmount = 0 then 2 else 3
  firstPosition : postings.head?.map (·.position) = some 0
  lastPosition : postings.getLast?.map (·.position) = some (postings.length - 1)
  debits : (postings.filter fun posting => posting.side = .debit).length = 1
  debitTotal : ((postings.filter fun posting => posting.side = .debit).map (·.amount)).sum =
    journal.grossAmount
  creditTotal : ((postings.filter fun posting => posting.side = .credit).map (·.amount)).sum =
    journal.grossAmount
  assetDebit : (postings.filter fun posting =>
    posting.side = .debit ∧ posting.position = 0 ∧ posting.account = journal.assetAccount ∧
      posting.amount = journal.grossAmount).length = 1
  merchantCredit : (postings.filter fun posting =>
    posting.side = .credit ∧ posting.position = 1 ∧
      posting.account = .merchantPayable journal.merchantId ∧
      posting.amount = journal.netAmount).length = 1
  feeCredit : (postings.filter fun posting =>
    posting.side = .credit ∧ posting.position = 2 ∧ posting.account = .feeRevenue ∧
      posting.amount = journal.feeAmount).length = if journal.feeAmount = 0 then 0 else 1

instance (journal : PaymentJournalRow) (postings : List PaymentPostingRow) :
    Decidable (ValidJournalPostings journal postings) :=
  decidable_of_iff' _ (validJournalPostings_iff ..)

/-- The consumed event of a payment. -/
def Db.consumedEvent (db : Db) (paymentId : PaymentId) : Option LifecycleEventRow :=
  db.cashuProofReservationEvents.find fun row =>
    row.paymentId = paymentId ∧ row.state = .consumed

/-- Whether the quote of an effect was observed `PAID` at a time. -/
def PaidQuoteAt (db : Db) (effect : OperatorEffectRow) (mintUrl : MintUrl)
    (time : UnixTimestamp) : Prop :=
  ∃ attempt ∈ db.attemptOf effect.paymentId, attempt.mintUrl = mintUrl ∧
    ∃ outcome ∈ db.outcomeOf attempt.attemptId,
      outcome.outcomeKind = .quoted ∧ outcome.quoteId.isSome ∧
        outcome.quoteId = effect.operatorReference ∧ outcome.expiry.isSome ∧
        outcome.expiry = effect.operatorReferenceExpiresAt ∧
        ∃ observation ∈ db.quoteObservationsOf attempt.attemptId,
          observation.observedAt = time ∧ observation.state = .paid

instance (db : Db) (effect : OperatorEffectRow) (mintUrl : MintUrl) (time : UnixTimestamp) :
    Decidable (PaidQuoteAt db effect mintUrl time) :=
  inferInstanceAs (Decidable (∃ attempt ∈ db.attemptOf effect.paymentId, _ ∧ _))

/-- `cashmesh_validate_cashu_payment_accounting` for the rows it has found. -/
@[mk_iff] structure ValidAccounting (db : Db) (invoice : MerchantInvoiceRow)
    (journal : PaymentJournalRow) (reservation : ReservationRow) (effect : OperatorEffectRow)
    (consumed : LifecycleEventRow) (proof : ProofStateObservationRow)
    (route : InvoiceRouteRow) : Prop where
  paid : invoice.state = .paid
  merchantId : journal.merchantId = invoice.merchantId
  grossAmount : journal.grossAmount = invoice.amount
  acceptedAt : ∀ paidAt ∈ invoice.paidAt, journal.acceptedAt = paidAt
  invoiceId : journal.invoiceId = reservation.invoiceId
  operatorId : journal.operatorId = reservation.operatorId
  mintUrl : journal.mintUrl = reservation.mintUrl
  journalEntryId : ∀ journalEntryId ∈ consumed.journalEntryId,
    journal.journalEntryId = journalEntryId
  proofObservedAt : journal.acceptedAt = proof.observedAt
  effectiveAt : journal.effectiveAt = consumed.recordedAt
  mode : journal.settlementMode = route.mode
  evidenceKind : ∀ kind ∈ consumed.evidenceKind, kind = .meltPaid
  melt : effect.effectKind = .melt
  conversion : journal.settlementMode = .immediateConversion
  paidQuote : ∃ evidenceAt ∈ consumed.evidenceAt,
    PaidQuoteAt db effect journal.mintUrl evidenceAt

instance (db : Db) (invoice : MerchantInvoiceRow) (journal : PaymentJournalRow)
    (reservation : ReservationRow) (effect : OperatorEffectRow) (consumed : LifecycleEventRow)
    (proof : ProofStateObservationRow) (route : InvoiceRouteRow) :
    Decidable (ValidAccounting db invoice journal reservation effect consumed proof route) :=
  decidable_of_iff' _ (validAccounting_iff ..)

/-- `cashmesh_validate_cashu_payment_accounting` for an invoice. -/
def Accounted (db : Db) (invoiceId : InvoiceId) : Prop :=
  ∃ invoice ∈ db.invoice invoiceId, ∃ journal ∈ db.journalOfInvoice invoiceId,
    ∃ reservation ∈ db.reservation journal.paymentId,
      ∃ effect ∈ (db.effectsOf journal.paymentId).head?,
        ∃ consumed ∈ db.consumedEvent journal.paymentId,
          ∃ fingerprint ∈ consumed.proofStateSnapshotFingerprint,
            ∃ proof ∈ db.proofStateObservation fingerprint journal.paymentId,
              ∃ route ∈ db.routeOf journal.invoiceId journal.operatorId journal.mintUrl,
                ValidAccounting db invoice journal reservation effect consumed proof route

instance (db : Db) (invoiceId : InvoiceId) : Decidable (Accounted db invoiceId) :=
  inferInstanceAs (Decidable (∃ invoice ∈ db.invoice invoiceId, _))

/-- What a deferred check requires of the rows at the commit. -/
def Db.Satisfies (db : Db) : DeferredCheck → Prop
  | .requestOperators invoiceId =>
      ∀ request ∈ db.invoiceCashuRequests.find fun row => row.invoiceId = invoiceId,
        (db.invoiceCashuRequestOperators.select fun row => row.invoiceId = invoiceId).length =
          request.operatorCount
  | .invoiceRequest invoiceId =>
      (db.invoice invoiceId).isSome →
        ∃ request ∈ db.invoiceCashuRequests, request.invoiceId = invoiceId
  | .reservation paymentId =>
      ∀ reservation ∈ db.reservation paymentId,
        ∃ invoice ∈ db.invoice reservation.invoiceId, ValidReservation db reservation invoice
  | .proofStateObservation fingerprint =>
      ∀ observation ∈ db.cashuProofStateObservations.find fun row =>
          row.snapshotFingerprint = fingerprint,
        ∃ reservation ∈ db.reservation observation.paymentId,
          ValidProofStateObservation db observation reservation
  | .effectEvent effect =>
      ∃ event ∈ db.cashuProofReservationEvents,
        event.paymentId = effect.paymentId ∧ event.sequence = 0 ∧
          event.state = .dispatchStarted ∧ event.effectId = some effect.effectId ∧
          event.recordedAt = effect.startedAt
  | .activeClaims paymentId =>
      (db.reservation paymentId).isSome → ValidActiveClaims db paymentId
  | .quoteObservation attemptId =>
      ∀ outcome ∈ db.outcomeOf attemptId, HasInitialObservation db outcome
  | .journalPostings journalEntryId =>
      ∀ journal ∈ db.merchantInvoicePaymentJournals.find fun row =>
          row.journalEntryId = journalEntryId,
        ValidJournalPostings journal (db.postingsOf journalEntryId)
  | .invoiceAccounting invoiceId => Accounted db invoiceId
  | .eventAccounting paymentId =>
      ∃ reservation ∈ db.reservation paymentId, Accounted db reservation.invoiceId

instance (db : Db) : DecidablePred db.Satisfies
  | .requestOperators _ => inferInstanceAs (Decidable (∀ _ ∈ Table.find _ _, _))
  | .invoiceRequest _ => inferInstanceAs (Decidable (_ → ∃ _ ∈ db.invoiceCashuRequests, _))
  | .reservation _ => inferInstanceAs (Decidable (∀ _ ∈ db.reservation _, _))
  | .proofStateObservation _ => inferInstanceAs (Decidable (∀ _ ∈ Table.find _ _, _))
  | .effectEvent _ => inferInstanceAs (Decidable (∃ _ ∈ db.cashuProofReservationEvents, _))
  | .activeClaims _ => inferInstanceAs (Decidable (_ → ValidActiveClaims db _))
  | .quoteObservation _ => inferInstanceAs (Decidable (∀ _ ∈ db.outcomeOf _, _))
  | .journalPostings _ => inferInstanceAs (Decidable (∀ _ ∈ Table.find _ _, _))
  | .invoiceAccounting _ => inferInstanceAs (Decidable (Accounted db _))
  | .eventAccounting _ => inferInstanceAs (Decidable (∃ _ ∈ db.reservation _, _))

/-- Run the deferred checks of a transaction and publish its rows. -/
def Session.commit (s : Session) : Except DbError Db := do
  ensure (∀ check ∈ s.deferred, s.db.Satisfies check) .checkViolation
  return s.db

end CashMesh.Acquirer
