import CashMesh.Lib.Table
import CashMesh.Acquirer.PaymentRequest
/-!
# The tables

The rows of the acquirer's database, their unique keys and their `CHECK` constraints.

A nullable column is an option. A condition on a null is unknown: a `CHECK` passes on it, which is
`∀ value ∈ column, …`, and an `IF` or a `WHERE` does not take it, which is `∃ value ∈ column, …`.
-/

namespace CashMesh.Acquirer

open CashMesh.Lib

/-- The unique constraint that a row violates. The ones that no repository tells apart share the name
of their table. -/
inductive UniqueConstraint where
  | invoiceCreationRequests
  | merchantInvoices
  | invoiceCashuRequests
  | invoiceCashuRequestOperators
  | cashuKeysetObservations
  | cashuProofReservations
  | cashuReservedProofs
  | cashuActiveProofClaimsPkey
  | cashuActiveProofClaimsPaymentYUnique
  | cashuProofStateObservationsPkey
  | cashuProofStateObservationsPaymentTimeUnique
  | cashuProofStateObservationEntries
  | cashuOperatorEffects
  | cashuActiveInvoicePaymentClaimsPkey
  | cashuActiveInvoicePaymentClaims
  | cashuProofReservationEventsPkey
  | cashuProofReservationEventsPaymentSequenceUnique
  | cashuBearerProofCustody
  | cashuStellarMeltQuoteAttempts
  | cashuStellarMeltQuoteOutcomes
  | cashuStellarQuoteOutcomesMintQuoteUnique
  | cashuStellarMeltQuoteObservations
  | merchantInvoicePaymentJournals
  | merchantInvoicePaymentPostings
  | cashuStellarMeltRecoveryJobs
  | cashuStellarMeltRecoveryLeases
  | cashuStellarMeltRecoveryOutcomes
deriving DecidableEq

/-- The errors that a statement or a commit raises, by their SQLSTATE class. -/
inductive DbError where
  | uniqueViolation (constraint : UniqueConstraint)
  | foreignKeyViolation
  | checkViolation
  | objectNotInPrerequisiteState
deriving DecidableEq

/-! ### Invoices -/

inductive StoredInvoiceState where
  | open
  | paid
deriving DecidableEq

/-- A row of `invoice_creation_requests`. -/
structure InvoiceCreationRow where
  merchantId : MerchantId
  idempotencyKey : Identifier
  requestFingerprint : String
  invoiceId : InvoiceId
  createdAt : UnixTimestamp
deriving DecidableEq

/-- A row of `merchant_invoices`. -/
structure MerchantInvoiceRow where
  id : InvoiceId
  merchantId : MerchantId
  amount : MinorUnitAmount
  createdAt : UnixTimestamp
  expiresAt : UnixTimestamp
  state : StoredInvoiceState
  paidAt : Option UnixTimestamp
deriving DecidableEq

def MerchantInvoiceRow.Checks (row : MerchantInvoiceRow) : Prop :=
  0 < row.amount ∧ row.amount ≤ maxSafeInteger ∧
    row.createdAt ≤ maxSafeInteger ∧
    row.createdAt < row.expiresAt ∧ row.expiresAt ≤ maxSafeInteger ∧
    ((row.state = .open ∧ row.paidAt = none) ∨
      (row.state = .paid ∧
        ∀ paidAt ∈ row.paidAt, row.createdAt ≤ paidAt ∧ paidAt < row.expiresAt))

/-! ### Keysets -/

structure CashuKeyset where
  id : KeysetId
  unit : CashuUnit
  inputFeePpk : Nat
  finalExpiry : Option UnixTimestamp
  /-- The amounts that the keyset has a key for. -/
  amounts : List Nat
deriving DecidableEq

/-- A row of `cashu_keyset_observations` with its entries and their keysets. -/
structure KeysetObservationRow where
  operatorId : OperatorId
  mintUrl : MintUrl
  unit : CashuUnit
  observedAt : UnixTimestamp
  keysets : List CashuKeyset
deriving DecidableEq

/-! ### Reservations -/

/-- A row of `cashu_proof_reservations`. -/
structure ReservationRow where
  paymentId : PaymentId
  reservationFingerprint : CashuProofReservation
  invoiceId : InvoiceId
  operatorId : OperatorId
  mintUrl : MintUrl
  unit : CashuUnit
  keysetObservedAt : UnixTimestamp
  reservedAt : UnixTimestamp
  grossAmount : MinorUnitAmount
deriving DecidableEq

def ReservationRow.Checks (row : ReservationRow) : Prop :=
  row.keysetObservedAt ≤ row.reservedAt ∧ row.reservedAt ≤ maxSafeInteger ∧
    0 < row.grossAmount ∧ row.grossAmount ≤ maxSafeInteger

/-- A row of `cashu_reserved_proofs`. -/
structure ReservedProofRow where
  paymentId : PaymentId
  mintUrl : MintUrl
  unit : CashuUnit
  position : Nat
  proofY : CashuProofY
  keysetId : KeysetId
  amount : MinorUnitAmount
deriving DecidableEq

def ReservedProofRow.Checks (row : ReservedProofRow) : Prop :=
  row.position < 128 ∧ 0 < row.amount ∧ row.amount ≤ maxSafeInteger

/-- A row of `cashu_active_proof_claims`. -/
structure ActiveProofClaimRow where
  mintUrl : MintUrl
  proofY : CashuProofY
  paymentId : PaymentId
deriving DecidableEq

/-! ### Proof states -/

/-- A row of `cashu_proof_state_observations`. -/
structure ProofStateObservationRow where
  snapshotFingerprint : ProofStateFingerprint
  paymentId : PaymentId
  operatorId : OperatorId
  mintUrl : MintUrl
  unit : CashuUnit
  observedAt : UnixTimestamp
deriving DecidableEq

/-- A row of `cashu_proof_state_observation_entries`. -/
structure ProofStateEntryRow where
  snapshotFingerprint : ProofStateFingerprint
  paymentId : PaymentId
  position : Nat
  proofY : CashuProofY
  state : CashuProofStateValue
deriving DecidableEq

/-! ### Effects, claims and events -/

/-- What `createEffectFingerprint` hashes. -/
structure EffectFingerprint where
  effect : CashuOperatorEffect
  invoiceId : InvoiceId
  mintUrl : MintUrl
  operatorId : OperatorId
  paymentId : PaymentId
deriving DecidableEq

/-- A row of `cashu_operator_effects`. -/
structure OperatorEffectRow where
  effectId : CashuOperatorEffectId
  effectFingerprint : EffectFingerprint
  dispatchFingerprint : CashuOperatorDispatchFingerprint
  paymentId : PaymentId
  invoiceId : InvoiceId
  operatorId : OperatorId
  mintUrl : MintUrl
  effectKind : CashuOperatorEffectKind
  operatorReference : Option CashuOperatorReference
  operatorReferenceExpiresAt : Option UnixTimestamp
  startedAt : UnixTimestamp
deriving DecidableEq

def OperatorEffectRow.Checks (row : OperatorEffectRow) : Prop :=
  row.startedAt ≤ maxSafeInteger ∧
    ((row.effectKind = .swap ∧ row.operatorReference = none ∧
        row.operatorReferenceExpiresAt = none) ∨
      (row.effectKind = .melt ∧
        ∀ expiresAt ∈ row.operatorReferenceExpiresAt,
          row.startedAt < expiresAt ∧ expiresAt ≤ maxSafeInteger))

/-- A row of `cashu_active_invoice_payment_claims`. -/
structure ActiveInvoiceClaimRow where
  invoiceId : InvoiceId
  paymentId : PaymentId
  effectId : CashuOperatorEffectId
deriving DecidableEq

/-- A row of `cashu_proof_reservation_events`. -/
structure LifecycleEventRow where
  eventId : CashuReservationLifecycleEventId
  eventFingerprint : EventFingerprint
  paymentId : PaymentId
  sequence : Nat
  state : LifecycleEventState
  recordedAt : UnixTimestamp
  effectId : Option CashuOperatorEffectId
  evidenceKind : Option EvidenceKind
  evidenceAt : Option UnixTimestamp
  journalEntryId : Option JournalEntryId
  proofStateSnapshotFingerprint : Option ProofStateFingerprint
deriving DecidableEq

/-- `cashu_proof_reservation_events_shape`. -/
def LifecycleEventRow.Shape (row : LifecycleEventRow) : Prop :=
  (row.state = .dispatchStarted ∧ row.effectId.isSome ∧ row.evidenceKind = none ∧
      row.evidenceAt = none ∧ row.proofStateSnapshotFingerprint = none) ∨
    (row.state = .pending ∧ row.effectId.isSome ∧
      (∀ kind ∈ row.evidenceKind, kind = .operatorPending) ∧
      row.evidenceAt.isSome ∧ row.proofStateSnapshotFingerprint = none) ∨
    (row.state = .needsAttention ∧ row.effectId.isSome ∧
      (∀ kind ∈ row.evidenceKind, kind = .attention .transportAmbiguous ∨
        kind = .attention .operatorStateUnknown ∨
        kind = .attention .operatorResponseInvalid) ∧
      row.evidenceAt.isSome ∧ row.proofStateSnapshotFingerprint = none) ∨
    (row.state = .consumed ∧ row.effectId.isSome ∧
      (∀ kind ∈ row.evidenceKind, kind = .success .swapSucceeded ∨ kind = .success .meltPaid) ∧
      row.evidenceAt.isSome ∧ row.proofStateSnapshotFingerprint.isSome) ∨
    (row.state = .released ∧ row.effectId = none ∧
      (∀ kind ∈ row.evidenceKind, kind = .preDispatch) ∧
      row.evidenceAt = none ∧ row.proofStateSnapshotFingerprint = none) ∨
    (row.state = .released ∧ row.effectId.isSome ∧
      (∀ kind ∈ row.evidenceKind,
        kind = .failure .swapRejected ∨ kind = .failure .meltUnpaidAfterExpiry) ∧
      row.evidenceAt.isSome ∧ row.proofStateSnapshotFingerprint.isSome)

def LifecycleEventRow.Checks (row : LifecycleEventRow) : Prop :=
  row.sequence < 1024 ∧ row.recordedAt ≤ maxSafeInteger ∧
    (∀ evidenceAt ∈ row.evidenceAt, evidenceAt ≤ row.recordedAt) ∧ row.Shape ∧
    ((row.state = .consumed ∧ row.journalEntryId.isSome) ∨
      (row.state ≠ .consumed ∧ row.journalEntryId = none))

/-! ### Custody -/

/-- The proofs of a payment as `withDecryptedBundle` hands them out, with the references that the
curve gives their secrets. -/
structure CashuBearerProofBundle where
  invoiceId : InvoiceId
  mintUrl : MintUrl
  unit : CashuUnit
  proofReferences : List CashuProofReference
  inputs : List CashuBearerMeltInput
deriving DecidableEq

/-- A row of `cashu_bearer_proof_custody`, kept with the bundle that its ciphertext hides. -/
structure BearerProofCustodyRow where
  paymentId : PaymentId
  bundle : CashuBearerProofBundle
  proofCount : Nat
  createdAt : UnixTimestamp
deriving DecidableEq

/-! ### Melt quotes -/

/-- What `createCashuStellarMeltQuoteAttemptFingerprint` hashes. -/
structure MeltQuoteAttemptFingerprint where
  attemptId : CashuStellarMeltQuoteAttemptId
  invoiceId : InvoiceId
  mintUrl : MintUrl
  operatorId : OperatorId
  paymentId : PaymentId
  request : CashuStellarMeltQuoteRequest
  settlementDestination : CashuStellarSettlementDestination
  startedAt : UnixTimestamp
deriving DecidableEq

/-- A row of `cashu_stellar_melt_quote_attempts`. -/
structure MeltQuoteAttemptRow where
  attemptId : CashuStellarMeltQuoteAttemptId
  attemptFingerprint : MeltQuoteAttemptFingerprint
  paymentId : PaymentId
  invoiceId : InvoiceId
  operatorId : OperatorId
  mintUrl : MintUrl
  amount : MinorUnitAmount
  request : Sep7PaymentRequest
  settlementDestination : CashuStellarSettlementDestination
  startedAt : UnixTimestamp
deriving DecidableEq

def MeltQuoteAttemptRow.Checks (row : MeltQuoteAttemptRow) : Prop :=
  1 ≤ row.amount ∧ row.amount ≤ 25000 ∧ row.startedAt ≤ maxSafeInteger

inductive MeltQuoteOutcomeKind where
  | ambiguous
  | quoted
deriving DecidableEq

inductive CashuStellarMeltQuoteAmbiguityReason where
  | transportAmbiguous
deriving DecidableEq

/-- What the outcome of an attempt hashes: `createAmbiguousOutcomeFingerprint` or
`createCashuStellarMeltQuotedOutcomeFingerprint`. -/
inductive MeltQuoteOutcomeFingerprint where
  | ambiguous (attempt : MeltQuoteAttemptFingerprint)
      (reason : CashuStellarMeltQuoteAmbiguityReason) (recordedAt : UnixTimestamp)
  | quoted (attempt : MeltQuoteAttemptFingerprint) (amount : MinorUnitAmount)
      (expiry : UnixTimestamp) (feeReserve : MinorUnitAmount) (mintUrl : MintUrl)
      (quoteId : CashuStellarMeltQuoteId) (recordedAt : UnixTimestamp)
      (request : Sep7PaymentRequest)
deriving DecidableEq

/-- A row of `cashu_stellar_melt_quote_outcomes`. -/
structure MeltQuoteOutcomeRow where
  attemptId : CashuStellarMeltQuoteAttemptId
  outcomeFingerprint : MeltQuoteOutcomeFingerprint
  paymentId : PaymentId
  mintUrl : MintUrl
  outcomeKind : MeltQuoteOutcomeKind
  ambiguityReason : Option CashuStellarMeltQuoteAmbiguityReason
  quoteId : Option CashuStellarMeltQuoteId
  feeReserve : Option MinorUnitAmount
  expiry : Option UnixTimestamp
  recordedAt : UnixTimestamp
deriving DecidableEq

def MeltQuoteOutcomeRow.Checks (row : MeltQuoteOutcomeRow) : Prop :=
  (∀ quoteId ∈ row.quoteId, uuidV7Pattern quoteId.val = true) ∧
    row.recordedAt ≤ maxSafeInteger ∧
    ((row.outcomeKind = .ambiguous ∧
        (∀ reason ∈ row.ambiguityReason, reason = .transportAmbiguous) ∧
        row.quoteId = none ∧ row.feeReserve = none ∧ row.expiry = none) ∨
      (row.outcomeKind = .quoted ∧ row.ambiguityReason = none ∧ row.quoteId.isSome ∧
        (∀ feeReserve ∈ row.feeReserve, feeReserve ≤ maxSafeInteger) ∧
        (∀ expiry ∈ row.expiry, row.recordedAt < expiry ∧ expiry ≤ maxSafeInteger)))

/-- What `createCashuStellarMeltQuoteObservationFingerprint` hashes. -/
structure MeltQuoteObservationFingerprint where
  attemptId : CashuStellarMeltQuoteAttemptId
  operatorId : OperatorId
  paymentId : PaymentId
  quote : CashuStellarMeltQuote
deriving DecidableEq

/-- A row of `cashu_stellar_melt_quote_observations`. -/
structure MeltQuoteObservationRow where
  snapshotFingerprint : MeltQuoteObservationFingerprint
  attemptId : CashuStellarMeltQuoteAttemptId
  paymentId : PaymentId
  mintUrl : MintUrl
  quoteId : CashuStellarMeltQuoteId
  observedAt : UnixTimestamp
  state : CashuStellarMeltQuoteState
deriving DecidableEq

def MeltQuoteObservationRow.Checks (row : MeltQuoteObservationRow) : Prop :=
  uuidV7Pattern row.quoteId.val = true ∧ row.observedAt ≤ maxSafeInteger

/-! ### Accounting -/

/-- What `createAccountingFingerprint` hashes. -/
structure AccountingFingerprint where
  accounting : AcceptedInvoicePayment
  mintUrl : MintUrl
deriving DecidableEq

/-- A row of `merchant_invoice_payment_journals`. -/
structure PaymentJournalRow where
  journalEntryId : JournalEntryId
  journalFingerprint : AccountingFingerprint
  invoiceId : InvoiceId
  merchantId : MerchantId
  paymentId : PaymentId
  operatorId : OperatorId
  mintUrl : MintUrl
  settlementMode : SettlementMode
  assetAccount : LedgerAccount
  acceptedAt : UnixTimestamp
  effectiveAt : UnixTimestamp
  grossAmount : MinorUnitAmount
  feeAmount : MinorUnitAmount
  netAmount : MinorUnitAmount
deriving DecidableEq

/-- The settlement asset account of Circle's USDC on the Stellar test network. -/
def stellarTestnetUsdcAccount : LedgerAccount :=
  .settlementAsset ⟨"stellar-testnet-usdc-circle", by decide⟩

def PaymentJournalRow.Checks (row : PaymentJournalRow) : Prop :=
  row.settlementMode = .immediateConversion ∧ row.assetAccount = stellarTestnetUsdcAccount ∧
    row.acceptedAt ≤ row.effectiveAt ∧ row.effectiveAt ≤ maxSafeInteger ∧
    0 < row.grossAmount ∧ row.grossAmount ≤ maxSafeInteger ∧
    row.feeAmount < row.grossAmount ∧ row.netAmount = row.grossAmount - row.feeAmount

/-- A row of `merchant_invoice_payment_postings`. -/
structure PaymentPostingRow where
  journalEntryId : JournalEntryId
  position : Nat
  side : PostingSide
  account : LedgerAccount
  amount : MinorUnitAmount
deriving DecidableEq

def PaymentPostingRow.Checks (row : PaymentPostingRow) : Prop :=
  row.position < 3 ∧ 0 < row.amount ∧ row.amount ≤ maxSafeInteger

/-! ### Recovery jobs -/

/-- A row of `cashu_stellar_melt_recovery_jobs`. -/
structure RecoveryJobRow where
  paymentId : PaymentId
  effectId : CashuOperatorEffectId
  initialAttemptAt : UnixTimestamp
deriving DecidableEq

/-- A row of `cashu_stellar_melt_recovery_leases`. -/
structure RecoveryLeaseRow where
  leaseToken : Identifier
  paymentId : PaymentId
  attemptNumber : Nat
  workerId : Identifier
  claimedAt : UnixTimestamp
  expiresAt : UnixTimestamp
deriving DecidableEq

def RecoveryLeaseRow.Checks (row : RecoveryLeaseRow) : Prop :=
  0 < row.attemptNumber ∧ row.attemptNumber ≤ 1024 ∧ row.claimedAt ≤ maxSafeInteger ∧
    row.claimedAt < row.expiresAt ∧ row.expiresAt ≤ maxSafeInteger ∧
    row.expiresAt - row.claimedAt ≤ 300

inductive RecoveryOutcomeKind where
  | accepted
  | released
  | retryScheduled
  | attentionRequired
deriving DecidableEq

inductive RecoveryRetryReason where
  | nonterminalEvidence
  | operatorStateUnknown
  | storageUnavailable
  | workerAborted
deriving DecidableEq

inductive RecoveryAttentionReason where
  | evidenceInvalid
  | operatorResponseInvalid
  | recoveryConfigurationInvalid
  | retryExhausted
deriving DecidableEq

/-- The reasons of the outcome table. -/
inductive RecoveryOutcomeReason where
  | retry (reason : RecoveryRetryReason)
  | attention (reason : RecoveryAttentionReason)
deriving DecidableEq

/-- A row of `cashu_stellar_melt_recovery_outcomes`. -/
structure RecoveryOutcomeRow where
  leaseToken : Identifier
  paymentId : PaymentId
  outcomeKind : RecoveryOutcomeKind
  reason : Option RecoveryOutcomeReason
  recordedAt : UnixTimestamp
  nextAttemptAt : Option UnixTimestamp
deriving DecidableEq

def RecoveryOutcomeRow.Checks (row : RecoveryOutcomeRow) : Prop :=
  row.recordedAt ≤ maxSafeInteger ∧
    (∀ nextAttemptAt ∈ row.nextAttemptAt,
      row.recordedAt < nextAttemptAt ∧ nextAttemptAt ≤ maxSafeInteger) ∧
    (((row.outcomeKind = .accepted ∨ row.outcomeKind = .released) ∧
        row.reason = none ∧ row.nextAttemptAt = none) ∨
      (row.outcomeKind = .retryScheduled ∧
        (∀ reason ∈ row.reason, reason = .retry .nonterminalEvidence ∨
          reason = .retry .operatorStateUnknown ∨ reason = .retry .storageUnavailable ∨
          reason = .retry .workerAborted) ∧
        row.nextAttemptAt.isSome) ∨
      (row.outcomeKind = .attentionRequired ∧
        (∀ reason ∈ row.reason, reason = .attention .evidenceInvalid ∨
          reason = .attention .operatorResponseInvalid ∨
          reason = .attention .recoveryConfigurationInvalid ∨
          reason = .attention .retryExhausted) ∧
        row.nextAttemptAt = none))

/-! ### Decidable constraints -/

section Decidable

instance : DecidablePred MerchantInvoiceRow.Checks := fun _ =>
  inferInstanceAs (Decidable (_ ∧ _))

instance : DecidablePred ReservationRow.Checks := fun _ =>
  inferInstanceAs (Decidable (_ ∧ _))

instance : DecidablePred ReservedProofRow.Checks := fun _ =>
  inferInstanceAs (Decidable (_ ∧ _))

instance : DecidablePred OperatorEffectRow.Checks := fun _ =>
  inferInstanceAs (Decidable (_ ∧ _))

instance : DecidablePred LifecycleEventRow.Shape := fun _ =>
  inferInstanceAs (Decidable (_ ∨ _))

instance : DecidablePred LifecycleEventRow.Checks := fun _ =>
  inferInstanceAs (Decidable (_ ∧ _))

instance : DecidablePred MeltQuoteAttemptRow.Checks := fun _ =>
  inferInstanceAs (Decidable (_ ∧ _))

instance : DecidablePred MeltQuoteOutcomeRow.Checks := fun _ =>
  inferInstanceAs (Decidable (_ ∧ _))

instance : DecidablePred MeltQuoteObservationRow.Checks := fun _ =>
  inferInstanceAs (Decidable (_ ∧ _))

instance : DecidablePred PaymentJournalRow.Checks := fun _ =>
  inferInstanceAs (Decidable (_ ∧ _))

instance : DecidablePred PaymentPostingRow.Checks := fun _ =>
  inferInstanceAs (Decidable (_ ∧ _))

instance : DecidablePred RecoveryLeaseRow.Checks := fun _ =>
  inferInstanceAs (Decidable (_ ∧ _))

instance : DecidablePred RecoveryOutcomeRow.Checks := fun _ =>
  inferInstanceAs (Decidable (_ ∧ _))

end Decidable

/-! ### Unique keys -/

section UniqueKeys

instance : UniqueKeys InvoiceCreationRow where
  Collide row row' :=
    (row.merchantId = row'.merchantId ∧ row.idempotencyKey = row'.idempotencyKey) ∨
      row.invoiceId = row'.invoiceId
  decidableCollide _ _ := inferInstanceAs (Decidable (_ ∨ _))
  symm h := h.imp (fun h => ⟨h.1.symm, h.2.symm⟩) Eq.symm

instance : UniqueKeys MerchantInvoiceRow where
  Collide row row' := row.id = row'.id
  decidableCollide _ _ := inferInstanceAs (Decidable (_ = _))
  symm := Eq.symm

instance : UniqueKeys InvoiceCashuRequestRow where
  Collide row row' := row.invoiceId = row'.invoiceId
  decidableCollide _ _ := inferInstanceAs (Decidable (_ = _))
  symm := Eq.symm

instance : UniqueKeys InvoiceRouteRow where
  Collide row row' :=
    row.invoiceId = row'.invoiceId ∧
      (row.position = row'.position ∨ row.operatorId = row'.operatorId ∨
        row.mintUrl = row'.mintUrl)
  decidableCollide _ _ := inferInstanceAs (Decidable (_ ∧ _))
  symm h := ⟨h.1.symm, h.2.imp Eq.symm (Or.imp Eq.symm Eq.symm)⟩

instance : UniqueKeys KeysetObservationRow where
  Collide row row' :=
    row.operatorId = row'.operatorId ∧ row.mintUrl = row'.mintUrl ∧ row.unit = row'.unit ∧
      row.observedAt = row'.observedAt
  decidableCollide _ _ := inferInstanceAs (Decidable (_ ∧ _))
  symm h := ⟨h.1.symm, h.2.1.symm, h.2.2.1.symm, h.2.2.2.symm⟩

instance : UniqueKeys ReservationRow where
  Collide row row' :=
    row.paymentId = row'.paymentId ∨ row.reservationFingerprint = row'.reservationFingerprint
  decidableCollide _ _ := inferInstanceAs (Decidable (_ ∨ _))
  symm h := h.imp Eq.symm Eq.symm

instance : UniqueKeys ReservedProofRow where
  Collide row row' :=
    row.paymentId = row'.paymentId ∧
      (row.position = row'.position ∨ row.proofY = row'.proofY)
  decidableCollide _ _ := inferInstanceAs (Decidable (_ ∧ _))
  symm h := ⟨h.1.symm, h.2.imp Eq.symm Eq.symm⟩

instance : UniqueKeys ActiveProofClaimRow where
  Collide row row' :=
    row.proofY = row'.proofY ∧
      (row.mintUrl = row'.mintUrl ∨ row.paymentId = row'.paymentId)
  decidableCollide _ _ := inferInstanceAs (Decidable (_ ∧ _))
  symm h := ⟨h.1.symm, h.2.imp Eq.symm Eq.symm⟩

instance : UniqueKeys ProofStateObservationRow where
  Collide row row' :=
    row.snapshotFingerprint = row'.snapshotFingerprint ∨
      (row.paymentId = row'.paymentId ∧ row.observedAt = row'.observedAt)
  decidableCollide _ _ := inferInstanceAs (Decidable (_ ∨ _))
  symm h := h.imp Eq.symm (fun h => ⟨h.1.symm, h.2.symm⟩)

instance : UniqueKeys ProofStateEntryRow where
  Collide row row' :=
    row.snapshotFingerprint = row'.snapshotFingerprint ∧
      (row.position = row'.position ∨ row.proofY = row'.proofY)
  decidableCollide _ _ := inferInstanceAs (Decidable (_ ∧ _))
  symm h := ⟨h.1.symm, h.2.imp Eq.symm Eq.symm⟩

/-- The remote reference of a swap is null and collides with none. -/
instance : UniqueKeys OperatorEffectRow where
  Collide row row' :=
    row.effectId = row'.effectId ∨ row.effectFingerprint = row'.effectFingerprint ∨
      row.paymentId = row'.paymentId ∨
      (row.mintUrl = row'.mintUrl ∧ row.effectKind = row'.effectKind ∧
        ((row.operatorReference.isSome ∧ row.operatorReference = row'.operatorReference) ∨
          row.dispatchFingerprint = row'.dispatchFingerprint))
  decidableCollide _ _ := inferInstanceAs (Decidable (_ ∨ _))
  symm h := by
    rcases h with h | h | h | ⟨hmint, hkind, h | h⟩
    · exact .inl h.symm
    · exact .inr (.inl h.symm)
    · exact .inr (.inr (.inl h.symm))
    · exact .inr (.inr (.inr ⟨hmint.symm, hkind.symm, .inl ⟨h.2 ▸ h.1, h.2.symm⟩⟩))
    · exact .inr (.inr (.inr ⟨hmint.symm, hkind.symm, .inr h.symm⟩))

instance : UniqueKeys ActiveInvoiceClaimRow where
  Collide row row' :=
    row.invoiceId = row'.invoiceId ∨ row.paymentId = row'.paymentId ∨
      row.effectId = row'.effectId
  decidableCollide _ _ := inferInstanceAs (Decidable (_ ∨ _))
  symm h := h.imp Eq.symm (Or.imp Eq.symm Eq.symm)

instance : UniqueKeys LifecycleEventRow where
  Collide row row' :=
    row.eventId = row'.eventId ∨ row.eventFingerprint = row'.eventFingerprint ∨
      (row.paymentId = row'.paymentId ∧ row.sequence = row'.sequence)
  decidableCollide _ _ := inferInstanceAs (Decidable (_ ∨ _))
  symm h := h.imp Eq.symm (Or.imp Eq.symm (fun h => ⟨h.1.symm, h.2.symm⟩))

instance : UniqueKeys BearerProofCustodyRow where
  Collide row row' := row.paymentId = row'.paymentId
  decidableCollide _ _ := inferInstanceAs (Decidable (_ = _))
  symm := Eq.symm

instance : UniqueKeys MeltQuoteAttemptRow where
  Collide row row' :=
    row.attemptId = row'.attemptId ∨ row.attemptFingerprint = row'.attemptFingerprint ∨
      row.paymentId = row'.paymentId
  decidableCollide _ _ := inferInstanceAs (Decidable (_ ∨ _))
  symm h := h.imp Eq.symm (Or.imp Eq.symm Eq.symm)

/-- The quote of a mint is unique among the quoted outcomes. -/
instance : UniqueKeys MeltQuoteOutcomeRow where
  Collide row row' :=
    row.attemptId = row'.attemptId ∨ row.outcomeFingerprint = row'.outcomeFingerprint ∨
      (row.outcomeKind = .quoted ∧ row'.outcomeKind = .quoted ∧ row.mintUrl = row'.mintUrl ∧
        row.quoteId.isSome ∧ row.quoteId = row'.quoteId)
  decidableCollide _ _ := inferInstanceAs (Decidable (_ ∨ _))
  symm h := h.imp Eq.symm (Or.imp Eq.symm
    (fun ⟨hkind, hkind', hmint, hsome, hquote⟩ =>
      ⟨hkind', hkind, hmint.symm, hquote ▸ hsome, hquote.symm⟩))

instance : UniqueKeys MeltQuoteObservationRow where
  Collide row row' :=
    row.snapshotFingerprint = row'.snapshotFingerprint ∨
      (row.attemptId = row'.attemptId ∧ row.observedAt = row'.observedAt)
  decidableCollide _ _ := inferInstanceAs (Decidable (_ ∨ _))
  symm h := h.imp Eq.symm (fun h => ⟨h.1.symm, h.2.symm⟩)

instance : UniqueKeys PaymentJournalRow where
  Collide row row' :=
    row.journalEntryId = row'.journalEntryId ∨
      row.journalFingerprint = row'.journalFingerprint ∨
      row.invoiceId = row'.invoiceId ∨ row.paymentId = row'.paymentId
  decidableCollide _ _ := inferInstanceAs (Decidable (_ ∨ _))
  symm h := h.imp Eq.symm (Or.imp Eq.symm (Or.imp Eq.symm Eq.symm))

instance : UniqueKeys PaymentPostingRow where
  Collide row row' := row.journalEntryId = row'.journalEntryId ∧ row.position = row'.position
  decidableCollide _ _ := inferInstanceAs (Decidable (_ ∧ _))
  symm h := ⟨h.1.symm, h.2.symm⟩

instance : UniqueKeys RecoveryJobRow where
  Collide row row' := row.paymentId = row'.paymentId ∨ row.effectId = row'.effectId
  decidableCollide _ _ := inferInstanceAs (Decidable (_ ∨ _))
  symm h := h.imp Eq.symm Eq.symm

instance : UniqueKeys RecoveryLeaseRow where
  Collide row row' :=
    row.leaseToken = row'.leaseToken ∨
      (row.paymentId = row'.paymentId ∧ row.attemptNumber = row'.attemptNumber)
  decidableCollide _ _ := inferInstanceAs (Decidable (_ ∨ _))
  symm h := h.imp Eq.symm (fun h => ⟨h.1.symm, h.2.symm⟩)

instance : UniqueKeys RecoveryOutcomeRow where
  Collide row row' := row.leaseToken = row'.leaseToken
  decidableCollide _ _ := inferInstanceAs (Decidable (_ = _))
  symm := Eq.symm

end UniqueKeys

/-! ### The database -/

/-- The committed rows of every table. -/
structure Db where
  invoiceCreationRequests : Table InvoiceCreationRow
  merchantInvoices : Table MerchantInvoiceRow
  invoiceCashuRequests : Table InvoiceCashuRequestRow
  invoiceCashuRequestOperators : Table InvoiceRouteRow
  cashuKeysetObservations : Table KeysetObservationRow
  cashuProofReservations : Table ReservationRow
  cashuReservedProofs : Table ReservedProofRow
  cashuActiveProofClaims : Table ActiveProofClaimRow
  cashuProofStateObservations : Table ProofStateObservationRow
  cashuProofStateObservationEntries : Table ProofStateEntryRow
  cashuOperatorEffects : Table OperatorEffectRow
  cashuActiveInvoicePaymentClaims : Table ActiveInvoiceClaimRow
  cashuProofReservationEvents : Table LifecycleEventRow
  cashuBearerProofCustody : Table BearerProofCustodyRow
  cashuStellarMeltQuoteAttempts : Table MeltQuoteAttemptRow
  cashuStellarMeltQuoteOutcomes : Table MeltQuoteOutcomeRow
  cashuStellarMeltQuoteObservations : Table MeltQuoteObservationRow
  merchantInvoicePaymentJournals : Table PaymentJournalRow
  merchantInvoicePaymentPostings : Table PaymentPostingRow
  cashuStellarMeltRecoveryJobs : Table RecoveryJobRow
  cashuStellarMeltRecoveryLeases : Table RecoveryLeaseRow
  cashuStellarMeltRecoveryOutcomes : Table RecoveryOutcomeRow
deriving DecidableEq

namespace Db

/-- The database after the migrations. -/
def empty : Db where
  invoiceCreationRequests := ∅
  merchantInvoices := ∅
  invoiceCashuRequests := ∅
  invoiceCashuRequestOperators := ∅
  cashuKeysetObservations := ∅
  cashuProofReservations := ∅
  cashuReservedProofs := ∅
  cashuActiveProofClaims := ∅
  cashuProofStateObservations := ∅
  cashuProofStateObservationEntries := ∅
  cashuOperatorEffects := ∅
  cashuActiveInvoicePaymentClaims := ∅
  cashuProofReservationEvents := ∅
  cashuBearerProofCustody := ∅
  cashuStellarMeltQuoteAttempts := ∅
  cashuStellarMeltQuoteOutcomes := ∅
  cashuStellarMeltQuoteObservations := ∅
  merchantInvoicePaymentJournals := ∅
  merchantInvoicePaymentPostings := ∅
  cashuStellarMeltRecoveryJobs := ∅
  cashuStellarMeltRecoveryLeases := ∅
  cashuStellarMeltRecoveryOutcomes := ∅

/-! ### Queries -/

section Queries

variable (db : Db)

def invoice (id : InvoiceId) : Option MerchantInvoiceRow :=
  db.merchantInvoices.find fun row => row.id = id

def routesOf (invoiceId : InvoiceId) (merchantId : MerchantId) : List InvoiceRouteRow :=
  orderBy (·.position) (db.invoiceCashuRequestOperators.select fun row =>
    row.invoiceId = invoiceId ∧ row.merchantId = merchantId)

def requestOf (invoiceId : InvoiceId) (merchantId : MerchantId) : Option InvoiceCashuRequestRow :=
  db.invoiceCashuRequests.find fun row =>
    row.invoiceId = invoiceId ∧ row.merchantId = merchantId

/-- The route of an operator among the routes of an invoice. -/
def routeOf (invoiceId : InvoiceId) (operatorId : OperatorId) (mintUrl : MintUrl) :
    Option InvoiceRouteRow :=
  db.invoiceCashuRequestOperators.find fun row =>
    row.invoiceId = invoiceId ∧ row.operatorId = operatorId ∧ row.mintUrl = mintUrl

def reservation (paymentId : PaymentId) : Option ReservationRow :=
  db.cashuProofReservations.find fun row => row.paymentId = paymentId

def reservedProofsOf (paymentId : PaymentId) : List ReservedProofRow :=
  orderBy (·.position) (db.cashuReservedProofs.select fun row => row.paymentId = paymentId)

def proofClaimsOf (paymentId : PaymentId) : List ActiveProofClaimRow :=
  db.cashuActiveProofClaims.select fun row => row.paymentId = paymentId

def invoiceClaimsOf (paymentId : PaymentId) : List ActiveInvoiceClaimRow :=
  db.cashuActiveInvoicePaymentClaims.select fun row => row.paymentId = paymentId

def proofStateObservationsOf (paymentId : PaymentId) : List ProofStateObservationRow :=
  orderBy (·.observedAt)
    (db.cashuProofStateObservations.select fun row => row.paymentId = paymentId)

/-- The proof state observation of a payment with the greatest time. -/
def latestProofState (paymentId : PaymentId) : Option ProofStateObservationRow :=
  latest (·.observedAt)
    (db.cashuProofStateObservations.select fun row => row.paymentId = paymentId)

def proofStateObservation (fingerprint : ProofStateFingerprint) (paymentId : PaymentId) :
    Option ProofStateObservationRow :=
  db.cashuProofStateObservations.find fun row =>
    row.snapshotFingerprint = fingerprint ∧ row.paymentId = paymentId

def proofStateEntriesOf (fingerprint : ProofStateFingerprint) : List ProofStateEntryRow :=
  orderBy (·.position) (db.cashuProofStateObservationEntries.select fun row =>
    row.snapshotFingerprint = fingerprint)

def effectsOf (paymentId : PaymentId) : List OperatorEffectRow :=
  db.cashuOperatorEffects.select fun row => row.paymentId = paymentId

def effect (effectId : CashuOperatorEffectId) (paymentId : PaymentId) :
    Option OperatorEffectRow :=
  db.cashuOperatorEffects.find fun row => row.effectId = effectId ∧ row.paymentId = paymentId

def eventsOf (paymentId : PaymentId) : List LifecycleEventRow :=
  orderBy (·.sequence)
    (db.cashuProofReservationEvents.select fun row => row.paymentId = paymentId)

/-- The event of a payment with the greatest sequence number. -/
def latestEvent (paymentId : PaymentId) : Option LifecycleEventRow :=
  latest (·.sequence)
    (db.cashuProofReservationEvents.select fun row => row.paymentId = paymentId)

/-- The state of the latest event of a payment, null when it has none. -/
def latestState (paymentId : PaymentId) : Option LifecycleEventState :=
  (db.latestEvent paymentId).map (·.state)

def custodyOf (paymentId : PaymentId) : Option BearerProofCustodyRow :=
  db.cashuBearerProofCustody.find fun row => row.paymentId = paymentId

def attemptOf (paymentId : PaymentId) : Option MeltQuoteAttemptRow :=
  db.cashuStellarMeltQuoteAttempts.find fun row => row.paymentId = paymentId

def attempt (attemptId : CashuStellarMeltQuoteAttemptId) : Option MeltQuoteAttemptRow :=
  db.cashuStellarMeltQuoteAttempts.find fun row => row.attemptId = attemptId

def outcomeOf (attemptId : CashuStellarMeltQuoteAttemptId) : Option MeltQuoteOutcomeRow :=
  db.cashuStellarMeltQuoteOutcomes.find fun row => row.attemptId = attemptId

def quoteObservationsOf (attemptId : CashuStellarMeltQuoteAttemptId) :
    List MeltQuoteObservationRow :=
  orderBy (·.observedAt)
    (db.cashuStellarMeltQuoteObservations.select fun row => row.attemptId = attemptId)

/-- The observations of a payment's quote, each with the outcome it belongs to. -/
def quotesOf (paymentId : PaymentId) : List (MeltQuoteObservationRow × MeltQuoteOutcomeRow) :=
  (db.cashuStellarMeltQuoteObservations.select fun row => row.paymentId = paymentId).filterMap
    fun observation =>
      (db.cashuStellarMeltQuoteOutcomes.find fun outcome =>
        outcome.attemptId = observation.attemptId ∧ outcome.paymentId = observation.paymentId ∧
          outcome.mintUrl = observation.mintUrl ∧
          outcome.quoteId = some observation.quoteId).map
        fun outcome => (observation, outcome)

/-- The quote observation of a payment with the greatest time, with its outcome. -/
def latestQuote (paymentId : PaymentId) : Option (MeltQuoteObservationRow × MeltQuoteOutcomeRow) :=
  latest (fun quote => quote.1.observedAt) (db.quotesOf paymentId)

/-- The quote observation of an attempt with the greatest time. -/
def latestQuoteObservation (attemptId : CashuStellarMeltQuoteAttemptId) :
    Option MeltQuoteObservationRow :=
  latest (·.observedAt)
    (db.cashuStellarMeltQuoteObservations.select fun row => row.attemptId = attemptId)

def journalOf (paymentId : PaymentId) : Option PaymentJournalRow :=
  db.merchantInvoicePaymentJournals.find fun row => row.paymentId = paymentId

def journalOfInvoice (invoiceId : InvoiceId) : Option PaymentJournalRow :=
  db.merchantInvoicePaymentJournals.find fun row => row.invoiceId = invoiceId

def postingsOf (journalEntryId : JournalEntryId) : List PaymentPostingRow :=
  orderBy (·.position)
    (db.merchantInvoicePaymentPostings.select fun row => row.journalEntryId = journalEntryId)

def recoveryJob (paymentId : PaymentId) : Option RecoveryJobRow :=
  db.cashuStellarMeltRecoveryJobs.find fun row => row.paymentId = paymentId

def leasesOf (paymentId : PaymentId) : List RecoveryLeaseRow :=
  orderBy (·.attemptNumber)
    (db.cashuStellarMeltRecoveryLeases.select fun row => row.paymentId = paymentId)

/-- The lease of a payment with the greatest attempt number. -/
def latestLease (paymentId : PaymentId) : Option RecoveryLeaseRow :=
  latest (·.attemptNumber)
    (db.cashuStellarMeltRecoveryLeases.select fun row => row.paymentId = paymentId)

def lease (leaseToken : Identifier) : Option RecoveryLeaseRow :=
  db.cashuStellarMeltRecoveryLeases.find fun row => row.leaseToken = leaseToken

def recoveryOutcome (leaseToken : Identifier) : Option RecoveryOutcomeRow :=
  db.cashuStellarMeltRecoveryOutcomes.find fun row => row.leaseToken = leaseToken

end Queries

end Db

end CashMesh.Acquirer
