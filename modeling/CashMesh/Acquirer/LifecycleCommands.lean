import CashMesh.Acquirer.Lifecycle
/-!
# The commands of the lifecycle repository

Each command is one transaction over the reservation row it locks. It replays an event that is stored
with the same content, checks the transition and its evidence, writes, reads the lifecycle back, and
commits. A command that fails leaves the database as it was.
-/

namespace CashMesh.Acquirer

open CashMesh.Lib

structure LifecycleResult where
  lifecycle : CashuProofReservationLifecycle
  replayed : Bool
deriving DecidableEq

structure AcceptPaymentResult where
  accounting : AcceptedInvoicePayment
  lifecycle : CashuProofReservationLifecycle
  replayed : Bool
deriving DecidableEq

/-! ### Inputs -/

structure StartEffectInput where
  dispatchFingerprint : CashuOperatorDispatchFingerprint
  effectId : CashuOperatorEffectId
  eventId : CashuReservationLifecycleEventId
  paymentId : PaymentId
  startedAt : UnixTimestamp
  terms : CashuOperatorEffectTerms
deriving DecidableEq

structure EventInput where
  effectId : CashuOperatorEffectId
  eventId : CashuReservationLifecycleEventId
  evidenceAt : UnixTimestamp
  paymentId : PaymentId
  recordedAt : UnixTimestamp
deriving DecidableEq

structure AcceptPaymentInput extends EventInput where
  feeAmount : MinorUnitAmount
  journalEntryId : JournalEntryId
  proofStateObservedAt : UnixTimestamp
deriving DecidableEq

structure PreDispatchReleaseInput where
  eventId : CashuReservationLifecycleEventId
  paymentId : PaymentId
  recordedAt : UnixTimestamp
deriving DecidableEq

structure AfterFailureReleaseInput extends EventInput where
  evidenceKind : CashuOperatorFailureEvidence
  proofStateObservedAt : UnixTimestamp
deriving DecidableEq

inductive ReleaseInput where
  | preDispatch (input : PreDispatchReleaseInput)
  | afterFailure (input : AfterFailureReleaseInput)
deriving DecidableEq

def validateStartEffect (input : StartEffectInput) : Except LifecycleError Unit :=
  ensure
    (input.startedAt ≤ maxSafeInteger ∧
      ∀ expiresAt ∈ input.terms.operatorReferenceExpiresAt,
        expiresAt ≤ maxSafeInteger ∧ input.startedAt < expiresAt)
    .invalidInput

def validateEvidenceInput (input : EventInput) : Except LifecycleError Unit :=
  ensure (input.evidenceAt ≤ maxSafeInteger ∧ input.recordedAt ≤ maxSafeInteger) .invalidInput

def validatePaymentAcceptance (input : AcceptPaymentInput) : Except LifecycleError Unit := do
  validateEvidenceInput input.toEventInput
  ensure (input.feeAmount ≤ maxSafeInteger ∧ input.proofStateObservedAt ≤ maxSafeInteger)
    .invalidInput

def validateAfterFailure (input : AfterFailureReleaseInput) : Except LifecycleError Unit := do
  validateEvidenceInput input.toEventInput
  ensure (input.proofStateObservedAt ≤ maxSafeInteger) .invalidInput

/-! ### Transitions -/

/-- The event row of a draft at its place in the history. -/
def eventRow (draft : EventDraft) (sequence : Nat) : LifecycleEventRow where
  eventId := draft.eventId
  eventFingerprint := createEventFingerprint draft sequence
  paymentId := draft.paymentId
  sequence
  state := draft.state
  recordedAt := draft.recordedAt
  effectId := draft.effectId
  evidenceKind := draft.evidenceKind
  evidenceAt := draft.evidenceAt
  journalEntryId := draft.journalEntryId
  proofStateSnapshotFingerprint := draft.proofStateSnapshotFingerprint

def insertEvent (s : Session) (draft : EventDraft) (sequence : Nat) :
    Except LifecycleError Session :=
  lifecycleStatement (insertEventRow s (eventRow draft sequence))

def commitLifecycle (s : Session) : Except LifecycleError Db :=
  lifecycleStatement s.commit

/-- The stored result of an event that is repeated, none for a new event, and a conflict for a stored
event with other content. -/
def replayEvent (db : Db) (draft : EventDraft) (expectedEffect : Option CashuOperatorEffect) :
    Except LifecycleError (Option LifecycleResult) :=
  match db.cashuProofReservationEvents.find fun row => row.eventId = draft.eventId with
  | none => return none
  | some existing => do
      ensure (existing.paymentId = draft.paymentId) .eventConflict
      let reservation ← requireReservation db draft.paymentId
      let lifecycle ← loadLifecycle db reservation
      ensure (existing.eventFingerprint = createEventFingerprint draft existing.sequence)
        .eventConflict
      ensure
        (∀ effect ∈ expectedEffect, ∃ stored ∈ lifecycle.effect,
          createEffectFingerprint reservation stored =
            createEffectFingerprint reservation effect)
        .effectConflict
      return some {
        lifecycle
        replayed := true }

/-- `proofStateObservedAt`. -/
def proofStateObservedAt (db : Db) (paymentId : PaymentId)
    (fingerprint : ProofStateFingerprint) : Except LifecycleError UnixTimestamp := do
  let row ← orFail (db.proofStateObservation fingerprint paymentId) .invalidRecord
  return row.observedAt

/-- Whether a payment with the effect can go on with the event of a draft. -/
def TransitionMatches (current : CashuProofReservationLifecycle) (effect : CashuOperatorEffect)
    (draft : EventDraft) : Prop :=
  draft.effectId = some effect.effectId ∧ current.state.Active ∧
    (match current.events.getLast? with
      | none => effect.startedAt
      | some event => event.base.recordedAt) ≤ draft.recordedAt ∧
    (∃ evidenceAt ∈ draft.evidenceAt,
      effect.startedAt ≤ evidenceAt ∧ evidenceAt ≤ draft.recordedAt ∧
        EvidenceTimeMatchesEffect draft.evidenceKind evidenceAt effect) ∧
    EvidenceMatchesEffect draft.evidenceKind effect.kind

instance (current : CashuProofReservationLifecycle) (effect : CashuOperatorEffect)
    (draft : EventDraft) : Decidable (TransitionMatches current effect draft) :=
  inferInstanceAs (Decidable (_ ∧ _))

/-- The snapshot a draft cites is between its evidence and its record. -/
def assertCitedSnapshotOrdered (db : Db) (reservation : ReservationScope) (draft : EventDraft) :
    Except LifecycleError Unit :=
  match draft.proofStateSnapshotFingerprint with
  | none => return ()
  | some fingerprint => do
      let observedAt ← proofStateObservedAt db reservation.paymentId fingerprint
      ensure
        ((∀ evidenceAt ∈ draft.evidenceAt, evidenceAt ≤ observedAt) ∧
          observedAt ≤ draft.recordedAt)
        .invalidTransition

/-- Append an event, free the claims when it releases them, and read the lifecycle back. -/
def appendEvent (s : Session) (reservation : ReservationScope) (draft : EventDraft)
    (sequence : Nat) : Except LifecycleError (LifecycleResult × Session) := do
  let s ← insertEvent s draft sequence
  let s := if draft.state = .released then deleteActiveClaims s reservation.paymentId else s
  let lifecycle ← loadLifecycle s.db reservation
  return ({
    lifecycle
    replayed := false }, s)

def persistTransitionInTransaction (s : Session) (reservation : ReservationScope)
    (draft : EventDraft) : Except LifecycleError (LifecycleResult × Session) := do
  match ← replayEvent s.db draft none with
  | some replay => return (replay, s)
  | none =>
      let current ← loadLifecycle s.db reservation
      if draft.state = .released ∧ draft.evidenceKind = some .preDispatch then
        ensure
          (current.state = .reserved ∧ current.effect = none ∧
            reservation.reservedAt ≤ draft.recordedAt)
          .invalidTransition
        appendEvent s reservation draft 0
      else
        let effect ← orFail current.effect .invalidTransition
        ensure (TransitionMatches current effect draft) .invalidTransition
        assertCitedSnapshotOrdered s.db reservation draft
        appendEvent s reservation draft current.events.length

def persistTransition (db : Db) (draft : EventDraft) :
    Except LifecycleError (LifecycleResult × Db) := do
  let reservation ← requireReservation db draft.paymentId
  let (result, s) ← persistTransitionInTransaction ⟨db, []⟩ reservation draft
  let db ← commitLifecycle s
  return (result, db)

/-! ### Starting an effect -/

def StartEffectInput.effect (input : StartEffectInput) : CashuOperatorEffect where
  dispatchFingerprint := input.dispatchFingerprint
  effectId := input.effectId
  startedAt := input.startedAt
  terms := input.terms

def StartEffectInput.draft (input : StartEffectInput) : EventDraft where
  effectId := some input.effectId
  eventId := input.eventId
  evidenceAt := none
  evidenceKind := none
  journalEntryId := none
  paymentId := input.paymentId
  proofStateSnapshotFingerprint := none
  recordedAt := input.startedAt
  state := .dispatchStarted

/-- The effect row of an effect. -/
def effectRow (reservation : ReservationScope) (effect : CashuOperatorEffect) :
    OperatorEffectRow where
  effectId := effect.effectId
  effectFingerprint := createEffectFingerprint reservation effect
  dispatchFingerprint := effect.dispatchFingerprint
  paymentId := reservation.paymentId
  invoiceId := reservation.invoiceId
  operatorId := reservation.operatorId
  mintUrl := reservation.mintUrl
  effectKind := effect.kind
  operatorReference := effect.terms.operatorReference
  operatorReferenceExpiresAt := effect.terms.operatorReferenceExpiresAt
  startedAt := effect.startedAt

/-- Whether an effect can start on the reservation's invoice. -/
def EffectWithinInvoice (reservation : ReservationScope) (effect : CashuOperatorEffect) : Prop :=
  reservation.invoiceState = .open ∧ reservation.createdAt ≤ effect.startedAt ∧
    effect.startedAt < reservation.expiresAt ∧ reservation.reservedAt ≤ effect.startedAt

instance (reservation : ReservationScope) (effect : CashuOperatorEffect) :
    Decidable (EffectWithinInvoice reservation effect) :=
  inferInstanceAs (Decidable (_ ∧ _))

def startEffect (db : Db) (input : StartEffectInput) :
    Except LifecycleError (LifecycleResult × Db) := do
  validateStartEffect input
  let reservation ← requireReservation db input.paymentId
  match ← replayEvent db input.draft (some input.effect) with
  | some replay => return (replay, db)
  | none =>
      let current ← loadLifecycle db reservation
      ensure (current.state = .reserved) .invalidTransition
      ensure (EffectWithinInvoice reservation input.effect) .invalidTransition
      if input.effect.kind = .melt then
        assertMeltQuoteEvidence db reservation input.effect .dispatch
      let s ← lifecycleStatement (insertEffect ⟨db, []⟩ (effectRow reservation input.effect))
      let s ← insertEvent s input.draft 0
      let lifecycle ← loadLifecycle s.db reservation
      let db ← commitLifecycle s
      return ({
        lifecycle
        replayed := false }, db)

/-! ### Reporting the operator's progress -/

def recordPending (db : Db) (input : EventInput) :
    Except LifecycleError (LifecycleResult × Db) := do
  validateEvidenceInput input
  persistTransition db {
    effectId := some input.effectId
    eventId := input.eventId
    evidenceAt := some input.evidenceAt
    evidenceKind := some .operatorPending
    journalEntryId := none
    paymentId := input.paymentId
    proofStateSnapshotFingerprint := none
    recordedAt := input.recordedAt
    state := .pending }

def requireAttention (db : Db) (input : EventInput) (reason : CashuOperatorAttentionReason) :
    Except LifecycleError (LifecycleResult × Db) := do
  validateEvidenceInput input
  persistTransition db {
    effectId := some input.effectId
    eventId := input.eventId
    evidenceAt := some input.evidenceAt
    evidenceKind := some (.attention reason)
    journalEntryId := none
    paymentId := input.paymentId
    proofStateSnapshotFingerprint := none
    recordedAt := input.recordedAt
    state := .needsAttention }

/-! ### Evidence of a terminal event -/

/-- The quote of a melt was observed `PAID` at the time of the evidence. -/
def assertMeltPaidEvidence (db : Db) (reservation : ReservationScope)
    (effect : CashuOperatorEffect) (evidenceAt : UnixTimestamp) : Except LifecycleError Unit := do
  let missing : LifecycleError :=
    ⟨.quoteEvidenceMissing,
      "Cashu melt payment acceptance requires persisted PAID quote evidence."⟩
  let loaded ← loadMeltQuotedEvidence db reservation.paymentId
  let evidence ← orFail loaded missing
  let paidObservation ← orFail
    (evidence.observations.find? fun observation => observation.observedAt = evidenceAt) missing
  ensure
    (MeltQuoteAttemptMatchesReservation evidence.attempt reservation ∧
      effect.terms = .melt paidObservation.quoteId paidObservation.expiry ∧
      paidObservation.state = .paid)
    ⟨.quoteEvidenceMismatch,
      "Cashu melt payment acceptance does not match persisted PAID quote evidence."⟩

/-- The effect that the evidence of an event is about. -/
def assertEffectEvidence (db : Db) (reservation : ReservationScope)
    (effectId : CashuOperatorEffectId) (kind : EvidenceKind)
    (evidenceAt recordedAt : UnixTimestamp) : Except LifecycleError CashuOperatorEffect := do
  let lifecycle ← loadLifecycle db reservation
  let effect ← orFail lifecycle.effect .invalidTransition
  ensure
    (effect.effectId = effectId ∧ EvidenceMatchesEffect (some kind) effect.kind ∧
      EvidenceTimeMatchesEffect (some kind) evidenceAt effect ∧
      effect.startedAt ≤ evidenceAt ∧ evidenceAt ≤ recordedAt)
    .invalidTransition
  if kind = .meltPaid then
    ensure (effect.kind = .melt) .invalidTransition
    assertMeltPaidEvidence db reservation effect evidenceAt
  return effect

/-- The fingerprint of the snapshot of a time, if it shows `requiredState` for every proof. -/
def resolveProofStateEvidence (db : Db) (reservation : ReservationScope)
    (observedAt : UnixTimestamp) (requiredState : CashuProofStateValue) :
    Except LifecycleError ProofStateFingerprint := do
  let row ← orFail
    (db.cashuProofStateObservations.find fun row =>
      row.paymentId = reservation.paymentId ∧ row.observedAt = observedAt)
    ⟨.proofStateEvidenceMissing,
      "Cashu lifecycle transition requires exact proof-state evidence."⟩
  let _ ← validateProofStateEvidenceByFingerprint db reservation row.snapshotFingerprint
    requiredState true
  return row.snapshotFingerprint

/-- The latest evidence says that the quote was not paid and that no proof was spent. -/
def assertLatestMeltReleaseEvidence (db : Db) (reservation : ReservationScope)
    (effect : CashuOperatorEffect) (evidenceAt observedAt : UnixTimestamp)
    (fingerprint : ProofStateFingerprint) : Except LifecycleError Unit := do
  let loaded ← loadMeltQuotedEvidence db reservation.paymentId
  let settlementRoute ← requireSettlementRoute db reservation
  let evidence ← orFail loaded .invalidTransition
  let latestQuote ← orFail evidence.observations.getLast? .invalidTransition
  ensure
    (MeltQuoteAttemptMatchesReservation evidence.attempt reservation ∧
      cashuStellarMeltRequestDestination evidence.attempt.request =
        settlementRoute.destination ∧
      effect.terms = .melt latestQuote.quoteId latestQuote.expiry ∧
      latestQuote.observedAt = evidenceAt ∧ latestQuote.state = .unpaid)
    .invalidTransition
  ensure
    (∃ latestProof ∈ db.latestProofState reservation.paymentId,
      latestProof.snapshotFingerprint = fingerprint ∧ latestProof.observedAt = observedAt)
    ⟨.proofStateEvidenceMissing,
      "Cashu melt release requires the latest all-UNSPENT proof-state evidence."⟩

/-! ### Accepting a payment -/

/-- The journal row of an accepted payment. -/
def journalRow (reservation : ReservationScope) (accounting : AcceptedInvoicePayment) :
    PaymentJournalRow where
  journalEntryId := accounting.journalEntry.id
  journalFingerprint := createAccountingFingerprint reservation accounting
  invoiceId := accounting.invoice.base.id
  merchantId := accounting.invoice.base.merchantId
  paymentId := accounting.invoice.payment.paymentId
  operatorId := accounting.invoice.payment.operatorId
  mintUrl := reservation.mintUrl
  settlementMode := accounting.invoice.payment.settlementMode
  assetAccount := accounting.invoice.payment.assetAccount
  acceptedAt := accounting.invoice.payment.acceptedAt
  effectiveAt := accounting.journalEntry.effectiveAt
  grossAmount := accounting.invoice.payment.grossAmount
  feeAmount := accounting.invoice.payment.feeAmount
  netAmount := accounting.invoice.payment.netAmount

/-- The posting row of a posting at its position. -/
def postingRow (journalEntryId : JournalEntryId) (posting : LedgerPosting × Nat) :
    PaymentPostingRow where
  journalEntryId
  position := posting.2
  side := posting.1.side
  account := posting.1.account
  amount := posting.1.amount

/-- The accounting of a payment that is accepted on its invoice. -/
def AcceptPaymentInput.accounting (input : AcceptPaymentInput) (reservation : ReservationScope)
    (settlementMode : SettlementMode) : Except DomainError AcceptedInvoicePayment :=
  acceptInvoicePayment reservation.invoice {
    acceptedAt := input.proofStateObservedAt
    assetAccount := stellarTestnetUsdcAccount
    effectiveAt := input.recordedAt
    feeAmount := input.feeAmount
    journalEntryId := input.journalEntryId
    operatorId := reservation.operatorId
    paymentId := reservation.paymentId
    settlementMode }

def persistAcceptedPayment (s : Session) (reservation : ReservationScope)
    (input : AcceptPaymentInput) : Except LifecycleError (AcceptedInvoicePayment × Session) := do
  ensure
    ((∃ invoice ∈ s.db.invoice reservation.invoiceId,
        invoice.state = .open ∧ invoice.paidAt = none) ∧
      reservation.invoiceState = .open ∧ reservation.paidAt = none)
    .invalidTransition
  let settlementRoute ← requireSettlementRoute s.db reservation
  ensure (settlementRoute.mode = .immediateConversion) .invalidTransition
  let accounting ←
    (input.accounting reservation settlementRoute.mode).mapError fun _ => .invalidTransition
  let s ← lifecycleStatement (insertJournal s (journalRow reservation accounting))
  let s ← accounting.journalEntry.postings.zipIdx.foldlM
    (fun s posting =>
      lifecycleStatement (insertPosting s (postingRow accounting.journalEntry.id posting))) s
  let (updated, s) ←
    lifecycleStatement (payInvoice s reservation.invoiceId accounting.invoice.paidAt)
  ensure (updated = 1) .invalidTransition
  return (accounting, s)

/-- `assertAccountingMatchesInput`. -/
def AccountingMatchesInput (accounting : AcceptedInvoicePayment) (reservation : ReservationScope)
    (input : AcceptPaymentInput) : Prop :=
  accounting.invoice.base.id = reservation.invoiceId ∧
    accounting.invoice.base.merchantId = reservation.merchantId ∧
    accounting.invoice.paidAt = input.proofStateObservedAt ∧
    accounting.journalEntry.effectiveAt = input.recordedAt ∧
    accounting.journalEntry.id = input.journalEntryId ∧
    accounting.invoice.payment.paymentId = reservation.paymentId ∧
    accounting.invoice.payment.operatorId = reservation.operatorId ∧
    accounting.invoice.payment.feeAmount = input.feeAmount ∧
    accounting.invoice.payment.assetAccount = stellarTestnetUsdcAccount ∧
    accounting.invoice.payment.settlementMode = .immediateConversion

instance (accounting : AcceptedInvoicePayment) (reservation : ReservationScope)
    (input : AcceptPaymentInput) : Decidable (AccountingMatchesInput accounting reservation input) :=
  inferInstanceAs (Decidable (_ ∧ _))

/-- The consumed event that an acceptance records. -/
def AcceptPaymentInput.draft (input : AcceptPaymentInput) (fingerprint : ProofStateFingerprint) :
    EventDraft where
  effectId := some input.effectId
  eventId := input.eventId
  evidenceAt := some input.evidenceAt
  evidenceKind := some .meltPaid
  journalEntryId := some input.journalEntryId
  paymentId := input.paymentId
  proofStateSnapshotFingerprint := some fingerprint
  recordedAt := input.recordedAt
  state := .consumed

def acceptPayment (db : Db) (input : AcceptPaymentInput) :
    Except LifecycleError (AcceptPaymentResult × Db) := do
  validatePaymentAcceptance input
  let reservation ← requireReservation db input.paymentId
  let _ ← assertEffectEvidence db reservation input.effectId .meltPaid input.evidenceAt
    input.recordedAt
  let fingerprint ← resolveProofStateEvidence db reservation input.proofStateObservedAt .spent
  match ← replayEvent db (input.draft fingerprint) none with
  | some replay =>
      let stored ← loadAcceptedPayment db reservation
      let accounting ← orFail stored .invalidRecord
      ensure (AccountingMatchesInput accounting reservation input) .accountingConflict
      return ({
        accounting
        lifecycle := replay.lifecycle
        replayed := replay.replayed }, db)
  | none =>
      let (accounting, s) ← persistAcceptedPayment ⟨db, []⟩ reservation input
      let (transition, s) ←
        persistTransitionInTransaction s reservation (input.draft fingerprint)
      let db ← commitLifecycle s
      return ({
        accounting
        lifecycle := transition.lifecycle
        replayed := transition.replayed }, db)

/-! ### Releasing a reservation -/

/-- The event of a release before any dispatch. -/
def PreDispatchReleaseInput.draft (input : PreDispatchReleaseInput) : EventDraft where
  effectId := none
  eventId := input.eventId
  evidenceAt := none
  evidenceKind := some .preDispatch
  journalEntryId := none
  paymentId := input.paymentId
  proofStateSnapshotFingerprint := none
  recordedAt := input.recordedAt
  state := .released

/-- The event of a release after the operator failed. -/
def AfterFailureReleaseInput.draft (input : AfterFailureReleaseInput)
    (fingerprint : ProofStateFingerprint) : EventDraft where
  effectId := some input.effectId
  eventId := input.eventId
  evidenceAt := some input.evidenceAt
  evidenceKind := some (.failure input.evidenceKind)
  journalEntryId := none
  paymentId := input.paymentId
  proofStateSnapshotFingerprint := some fingerprint
  recordedAt := input.recordedAt
  state := .released

/-- The event of a release after failure, with the evidence it needs. -/
def afterFailureDraft (db : Db) (reservation : ReservationScope)
    (input : AfterFailureReleaseInput) : Except LifecycleError EventDraft := do
  let effect ← assertEffectEvidence db reservation input.effectId (.failure input.evidenceKind)
    input.evidenceAt input.recordedAt
  let fingerprint ← resolveProofStateEvidence db reservation input.proofStateObservedAt .unspent
  if input.evidenceKind = .meltUnpaidAfterExpiry then
    ensure (effect.kind = .melt) .invalidTransition
    assertLatestMeltReleaseEvidence db reservation effect input.evidenceAt
      input.proofStateObservedAt fingerprint
  return input.draft fingerprint

def release (db : Db) (input : ReleaseInput) : Except LifecycleError (LifecycleResult × Db) :=
  match input with
  | .preDispatch input => do
      ensure (input.recordedAt ≤ maxSafeInteger) .invalidInput
      persistTransition db input.draft
  | .afterFailure input => do
      validateAfterFailure input
      let reservation ← requireReservation db input.paymentId
      let draft ← afterFailureDraft db reservation input
      let (result, s) ← persistTransitionInTransaction ⟨db, []⟩ reservation draft
      let db ← commitLifecycle s
      return (result, db)

end CashMesh.Acquirer
