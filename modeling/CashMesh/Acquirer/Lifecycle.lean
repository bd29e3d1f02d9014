import CashMesh.Acquirer.QuoteRecord
import CashMesh.Acquirer.Statements
/-!
# Reading the lifecycle of a reservation

How the lifecycle repository reads a payment: its reservation with its invoice, its effect, its
events, the evidence they cite, and its accounting. Every read checks the stored rows again and fails
with `invalid_record` on rows that do not fit together.
-/

namespace CashMesh.Acquirer

open CashMesh.Lib

/-! ### Errors -/

/-- `CashuProofReservationLifecycleRepositoryErrorCode`. -/
inductive LifecycleErrorCode where
  | accountingConflict
  | effectConflict
  | eventConflict
  | invalidInput
  | invalidRecord
  | invalidTransition
  | invoiceClaimed
  | proofStateEvidenceMissing
  | quoteEvidenceMismatch
  | quoteEvidenceMissing
  | reservationNotFound
  | storageUnavailable
deriving DecidableEq

structure LifecycleError where
  code : LifecycleErrorCode
  message : String
deriving DecidableEq

namespace LifecycleError

def invalidInput : LifecycleError :=
  ⟨.invalidInput, "Cashu reservation lifecycle input is invalid."⟩

def accountingConflict : LifecycleError :=
  ⟨.accountingConflict, "Cashu payment accounting identity already has different terms."⟩

def invalidRecord : LifecycleError :=
  ⟨.invalidRecord, "Stored Cashu reservation lifecycle is invalid."⟩

def invalidTransition : LifecycleError :=
  ⟨.invalidTransition, "Cashu reservation lifecycle transition is invalid."⟩

def eventConflict : LifecycleError :=
  ⟨.eventConflict, "Cashu reservation lifecycle event identifier already has different evidence."⟩

def effectConflict : LifecycleError :=
  ⟨.effectConflict, "Cashu operator effect identity is already bound to different evidence."⟩

def storageUnavailable : LifecycleError :=
  ⟨.storageUnavailable, "Cashu reservation lifecycle storage operation failed."⟩

/-- `mapStorageError` on what the database raises. -/
def ofDbError : DbError → LifecycleError
  | .uniqueViolation .merchantInvoicePaymentJournals =>
      ⟨.accountingConflict,
        "Cashu payment accounting identity is already bound to another payment."⟩
  | .uniqueViolation .cashuActiveInvoicePaymentClaimsPkey =>
      ⟨.invoiceClaimed, "Another Cashu payment already owns the invoice effect claim."⟩
  | .uniqueViolation .cashuOperatorEffects =>
      ⟨.effectConflict, "Cashu operator effect identity is already bound to another operation."⟩
  | .uniqueViolation .cashuProofReservationEventsPkey =>
      ⟨.eventConflict,
        "Cashu reservation lifecycle event identifier already has different evidence."⟩
  | _ => storageUnavailable

end LifecycleError

/-- Run a statement within a lifecycle transaction. -/
def lifecycleStatement {α : Type} (statement : Except DbError α) : Except LifecycleError α :=
  statement.mapError .ofDbError

@[simp] theorem lifecycleStatement_eq_ok {α : Type} {statement : Except DbError α} {a : α} :
    lifecycleStatement statement = .ok a ↔ statement = .ok a :=
  mapError_eq_ok

/-! ### The reservation and its route -/

/-- A reservation with the invoice it is for. -/
structure ReservationScope where
  amount : MinorUnitAmount
  createdAt : UnixTimestamp
  expiresAt : UnixTimestamp
  invoiceId : InvoiceId
  invoiceState : StoredInvoiceState
  merchantId : MerchantId
  paidAt : Option UnixTimestamp
  mintUrl : MintUrl
  operatorId : OperatorId
  paymentId : PaymentId
  reservedAt : UnixTimestamp
  unit : CashuUnit
deriving DecidableEq

/-- The invoice of a reservation as it was opened. -/
def ReservationScope.invoice (scope : ReservationScope) : OpenInvoice where
  amount := scope.amount
  createdAt := scope.createdAt
  expiresAt := scope.expiresAt
  id := scope.invoiceId
  merchantId := scope.merchantId

/-- The scope of a reservation row joined with its invoice row. -/
def reservationScope (reservation : ReservationRow) (invoice : MerchantInvoiceRow) :
    ReservationScope where
  amount := invoice.amount
  createdAt := invoice.createdAt
  expiresAt := invoice.expiresAt
  invoiceId := reservation.invoiceId
  invoiceState := invoice.state
  merchantId := invoice.merchantId
  paidAt := invoice.paidAt
  mintUrl := reservation.mintUrl
  operatorId := reservation.operatorId
  paymentId := reservation.paymentId
  reservedAt := reservation.reservedAt
  unit := reservation.unit

/-- Whether the state of a stored invoice agrees with when it was paid. -/
def ReservationScope.StateFitsPaidAt (scope : ReservationScope) : Prop :=
  (scope.invoiceState = .open ∧ scope.paidAt = none) ∨
    (scope.invoiceState = .paid ∧
      ∃ paidAt ∈ scope.paidAt, scope.createdAt ≤ paidAt ∧ paidAt < scope.expiresAt)

instance : DecidablePred ReservationScope.StateFitsPaidAt := fun _ =>
  inferInstanceAs (Decidable (_ ∨ _))

def loadReservation (db : Db) (paymentId : PaymentId) :
    Except LifecycleError (Option ReservationScope) :=
  let joined := do
    let reservation ← db.reservation paymentId
    let invoice ← db.invoice reservation.invoiceId
    return reservationScope reservation invoice
  match joined with
  | none => return none
  | some scope => do
      ensure scope.StateFitsPaidAt .invalidRecord
      return some scope

def requireReservation (db : Db) (paymentId : PaymentId) :
    Except LifecycleError ReservationScope := do
  let reservation ← loadReservation db paymentId
  orFail reservation
    ⟨.reservationNotFound,
      "Cashu reservation lifecycle requires an existing proof reservation."⟩

/-- Where the payments of an operator's route are settled, and how. -/
structure SettlementRoute where
  destination : CashuStellarSettlementDestination
  mode : SettlementMode
deriving DecidableEq

def requireSettlementRoute (db : Db) (reservation : ReservationScope) :
    Except LifecycleError SettlementRoute := do
  let requestRow ← orFail (db.requestOf reservation.invoiceId reservation.merchantId) .invalidRecord
  let operatorRows := db.routesOf reservation.invoiceId reservation.merchantId
  let invoice ← (createInvoice reservation.invoice).mapError fun _ => .invalidRecord
  let issuedRequest ←
    orFail (reconstructStoredCashuPaymentRequest requestRow operatorRows invoice) .invalidRecord
  let route ← orFail
    (issuedRequest.operators.find? fun candidate =>
      candidate.operatorId = reservation.operatorId ∧ candidate.mintUrl = reservation.mintUrl)
    .invalidRecord
  let routeRow ← orFail
    (operatorRows.find? fun candidate =>
      candidate.operatorId = reservation.operatorId ∧ candidate.mintUrl = reservation.mintUrl)
    .invalidRecord
  return {
    destination := routeRow.settlementDestination
    mode := route.mode }

/-! ### The quote of a melt effect -/

/-- The quoted evidence of a payment: none without an attempt or an outcome. -/
def loadMeltQuotedEvidence (db : Db) (paymentId : PaymentId) :
    Except LifecycleError (Option StoredCashuStellarMeltQuotedEvidence) :=
  match db.attemptOf paymentId with
  | none => return none
  | some attempt =>
      match db.outcomeOf attempt.attemptId with
      | none => return none
      | some outcome => do
          let evidence ←
            (mapCashuStellarMeltQuotedEvidenceRecord attempt outcome
              (db.quoteObservationsOf attempt.attemptId)).mapError fun _ => .invalidRecord
          return some evidence

/-- Whether an attempt was made for the reservation, within its invoice's window. -/
def MeltQuoteAttemptMatchesReservation (attempt : StoredCashuStellarMeltQuoteAttempt)
    (reservation : ReservationScope) : Prop :=
  attempt.paymentId = reservation.paymentId ∧ attempt.invoiceId = reservation.invoiceId ∧
    attempt.operatorId = reservation.operatorId ∧ attempt.mintUrl = reservation.mintUrl ∧
    attempt.request.amount = reservation.amount ∧ reservation.unit = cashuStellarUnit ∧
    reservation.createdAt ≤ attempt.startedAt ∧ reservation.reservedAt ≤ attempt.startedAt ∧
    attempt.startedAt < reservation.expiresAt

instance (attempt : StoredCashuStellarMeltQuoteAttempt) (reservation : ReservationScope) :
    Decidable (MeltQuoteAttemptMatchesReservation attempt reservation) :=
  inferInstanceAs (Decidable (_ ∧ _))

inductive MeltQuoteEvidenceMode where
  | dispatch
  | stored
deriving DecidableEq

/-- The last quote that was observed no later than the effect started. -/
def dispatchQuote (evidence : StoredCashuStellarMeltQuotedEvidence) (startedAt : UnixTimestamp) :
    Option CashuStellarMeltQuote :=
  (evidence.observations.filter fun observation => observation.observedAt ≤ startedAt).getLast?

/-- Whether the quote an effect was dispatched on has the terms of the effect. -/
def ImmutableTermsMatch (evidence : StoredCashuStellarMeltQuotedEvidence)
    (reservation : ReservationScope) (effect : CashuOperatorEffect)
    (settlementRoute : SettlementRoute) : Prop :=
  MeltQuoteAttemptMatchesReservation evidence.attempt reservation ∧
    cashuStellarMeltRequestDestination evidence.attempt.request = settlementRoute.destination ∧
    evidence.recordedAt ≤ effect.startedAt ∧
    ∃ quote ∈ dispatchQuote evidence effect.startedAt,
      effect.terms = .melt quote.quoteId quote.expiry ∧ quote.state = .unpaid

instance (evidence : StoredCashuStellarMeltQuotedEvidence) (reservation : ReservationScope)
    (effect : CashuOperatorEffect) (settlementRoute : SettlementRoute) :
    Decidable (ImmutableTermsMatch evidence reservation effect settlementRoute) :=
  inferInstanceAs (Decidable (_ ∧ _))

/-- Whether the latest quote lets an effect be dispatched. -/
def DispatchStateMatches (evidence : StoredCashuStellarMeltQuotedEvidence)
    (effect : CashuOperatorEffect) : Prop :=
  ∃ latestQuote ∈ evidence.observations.getLast?,
    latestQuote.state = .unpaid ∧ latestQuote.observedAt ≤ effect.startedAt

instance (evidence : StoredCashuStellarMeltQuotedEvidence) (effect : CashuOperatorEffect) :
    Decidable (DispatchStateMatches evidence effect) :=
  inferInstanceAs (Decidable (∃ latestQuote ∈ evidence.observations.getLast?, _))

def assertMeltQuoteEvidence (db : Db) (reservation : ReservationScope)
    (effect : CashuOperatorEffect) (mode : MeltQuoteEvidenceMode) : Except LifecycleError Unit := do
  let loaded ← loadMeltQuotedEvidence db reservation.paymentId
  let evidence ← orFail loaded <|
    match mode with
    | .stored => .invalidRecord
    | .dispatch =>
        ⟨.quoteEvidenceMissing, "Cashu melt dispatch requires a persisted quoted outcome."⟩
  let settlementRoute ← requireSettlementRoute db reservation
  ensure
    (ImmutableTermsMatch evidence reservation effect settlementRoute ∧
      (mode = .dispatch → DispatchStateMatches evidence effect)) <|
    match mode with
    | .stored => .invalidRecord
    | .dispatch =>
        ⟨.quoteEvidenceMismatch, "Cashu melt dispatch does not match its persisted quote evidence."⟩

/-! ### Proof state evidence -/

/-- `createProofStateFingerprint`. -/
def createProofStateFingerprint (reservation : ReservationScope)
    (snapshot : CashuProofStateSnapshot) : ProofStateFingerprint where
  mintUrl := snapshot.mintUrl
  observedAt := snapshot.observedAt
  operatorId := reservation.operatorId
  paymentId := reservation.paymentId
  states := snapshot.states
  unit := reservation.unit

/-- The state of one proof of a snapshot that must show `requiredState`. -/
def readUniformEntry (reservation : ReservationScope) (requiredState : CashuProofStateValue)
    (inputEvidence : Bool) (entry : ProofStateEntryRow) (proof : ReservedProofRow)
    (position : Nat) : Except LifecycleError CashuProofStateEntry := do
  ensure
    (entry.paymentId = reservation.paymentId ∧ entry.position = position ∧
      proof.position = position ∧ entry.proofY = proof.proofY)
    .invalidRecord
  ensure (entry.state = requiredState) <|
    if inputEvidence then
      ⟨.proofStateEvidenceMissing,
        "Cashu lifecycle transition lacks the required uniform proof state."⟩
    else
      .invalidRecord
  return {
    state := entry.state
    y := entry.proofY }

/-- The time of the snapshot with the fingerprint, if it shows `requiredState` for exactly the
reserved proofs. -/
def validateProofStateEvidenceByFingerprint (db : Db) (reservation : ReservationScope)
    (fingerprint : ProofStateFingerprint) (requiredState : CashuProofStateValue)
    (inputEvidence : Bool) : Except LifecycleError UnixTimestamp := do
  let entryRows := db.proofStateEntriesOf fingerprint
  let proofRows := db.reservedProofsOf reservation.paymentId
  let row ← orFail (db.proofStateObservation fingerprint reservation.paymentId) .invalidRecord
  ensure
    (row.operatorId = reservation.operatorId ∧ row.mintUrl = reservation.mintUrl ∧
      row.unit = reservation.unit ∧ entryRows ≠ [] ∧ entryRows.length = proofRows.length)
    .invalidRecord
  let states ← (entryRows.zip proofRows).zipIdx.mapM fun ((entry, proof), position) =>
    readUniformEntry reservation requiredState inputEvidence entry proof position
  let snapshot ← orFail
    (createCashuProofStateSnapshot {
      mintUrl := row.mintUrl
      observedAt := row.observedAt
      states })
    .invalidRecord
  ensure
    (createProofStateFingerprint reservation snapshot = fingerprint ∧
      reservation.reservedAt ≤ snapshot.observedAt)
    .invalidRecord
  return snapshot.observedAt

/-! ### Effects and events -/

/-- `createEffectFingerprint`. -/
def createEffectFingerprint (reservation : ReservationScope) (effect : CashuOperatorEffect) :
    EffectFingerprint where
  effect
  invoiceId := reservation.invoiceId
  mintUrl := reservation.mintUrl
  operatorId := reservation.operatorId
  paymentId := reservation.paymentId

/-- `createEventFingerprint`. -/
def createEventFingerprint (draft : EventDraft) (sequence : Nat) : EventFingerprint where
  draft
  sequence

/-- The terms of an effect row, if its columns are those of its kind. -/
def OperatorEffectRow.terms (row : OperatorEffectRow) : Option CashuOperatorEffectTerms :=
  match row.effectKind with
  | .swap =>
      if row.operatorReference = none ∧ row.operatorReferenceExpiresAt = none then
        some .swap
      else
        none
  | .melt => do
      let operatorReference ← row.operatorReference
      let operatorReferenceExpiresAt ← row.operatorReferenceExpiresAt
      return .melt operatorReference operatorReferenceExpiresAt

def mapEffect (row : OperatorEffectRow) (reservation : ReservationScope) :
    Except LifecycleError CashuOperatorEffect := do
  let terms ← orFail row.terms .invalidRecord
  let effect : CashuOperatorEffect := {
    dispatchFingerprint := row.dispatchFingerprint
    effectId := row.effectId
    startedAt := row.startedAt
    terms }
  ensure
    (row.paymentId = reservation.paymentId ∧ row.invoiceId = reservation.invoiceId ∧
      row.operatorId = reservation.operatorId ∧ row.mintUrl = reservation.mintUrl ∧
      row.effectFingerprint = createEffectFingerprint reservation effect ∧
      (∀ expiresAt ∈ terms.operatorReferenceExpiresAt, effect.startedAt < expiresAt) ∧
      reservation.reservedAt ≤ effect.startedAt ∧ reservation.createdAt ≤ effect.startedAt ∧
      effect.startedAt < reservation.expiresAt)
    .invalidRecord
  return effect

/-- Whether evidence of the kind can be about an effect of the kind. -/
def EvidenceMatchesEffect (kind : Option EvidenceKind) (effectKind : CashuOperatorEffectKind) :
    Prop :=
  match kind with
  | some .operatorPending => effectKind = .melt
  | some (.success .swapSucceeded) => effectKind = .swap
  | some (.failure .swapRejected) => effectKind = .swap
  | some (.success .meltPaid) => effectKind = .melt
  | some (.failure .meltUnpaidAfterExpiry) => effectKind = .melt
  | _ => True

instance (kind : Option EvidenceKind) (effectKind : CashuOperatorEffectKind) :
    Decidable (EvidenceMatchesEffect kind effectKind) :=
  match kind with
  | some .operatorPending => inferInstanceAs (Decidable (_ = _))
  | some (.success .swapSucceeded) => inferInstanceAs (Decidable (_ = _))
  | some (.failure .swapRejected) => inferInstanceAs (Decidable (_ = _))
  | some (.success .meltPaid) => inferInstanceAs (Decidable (_ = _))
  | some (.failure .meltUnpaidAfterExpiry) => inferInstanceAs (Decidable (_ = _))
  | none => inferInstanceAs (Decidable True)
  | some (.attention _) => inferInstanceAs (Decidable True)
  | some .preDispatch => inferInstanceAs (Decidable True)

/-- Evidence that a melt was unpaid after its expiry is not from before the expiry. -/
def EvidenceTimeMatchesEffect (kind : Option EvidenceKind) (evidenceAt : UnixTimestamp)
    (effect : CashuOperatorEffect) : Prop :=
  kind = some .meltUnpaidAfterExpiry →
    ∃ expiresAt ∈ effect.terms.operatorReferenceExpiresAt, expiresAt ≤ evidenceAt

instance (kind : Option EvidenceKind) (evidenceAt : UnixTimestamp)
    (effect : CashuOperatorEffect) :
    Decidable (EvidenceTimeMatchesEffect kind evidenceAt effect) :=
  inferInstanceAs (Decidable (_ → _))

/-- The event of a draft, if the draft has what the event's state demands. -/
def createPublicEvent (draft : EventDraft) (sequence : Nat)
    (proofStateObservedAt : Option UnixTimestamp) : Option CashuReservationLifecycleEvent :=
  let base : LifecycleEventBase := {
    eventId := draft.eventId
    recordedAt := draft.recordedAt
    sequence }
  if (draft.state = .consumed) = (draft.journalEntryId.isSome = true) then
    match draft.state, draft.evidenceKind, draft.evidenceAt with
    | .dispatchStarted, none, none => some (.dispatchStarted base)
    | .pending, some .operatorPending, some evidenceAt => some (.pending base evidenceAt)
    | .needsAttention, some (.attention reason), some evidenceAt =>
        some (.needsAttention base evidenceAt reason)
    | .consumed, some (.success evidence), some evidenceAt =>
        match proofStateObservedAt, draft.journalEntryId with
        | some proofStateObservedAt, some journalEntryId =>
            some (.consumed base evidenceAt evidence journalEntryId proofStateObservedAt)
        | _, _ => none
    | .released, some .preDispatch, none =>
        if proofStateObservedAt = none then some (.releasedPreDispatch base) else none
    | .released, some (.failure evidence), some evidenceAt =>
        proofStateObservedAt.map fun proofStateObservedAt =>
          .releasedAfterFailure base evidenceAt evidence proofStateObservedAt
    | _, _, _ => none
  else
    none

/-- Whether the state of a reservation can change to `next`. -/
def TransitionAllowed (current : CashuProofReservationState) (next : LifecycleEventState) : Prop :=
  (current = .reserved ∧ (next = .dispatchStarted ∨ next = .released)) ∨
    (current.Active ∧ next ≠ .dispatchStarted)

instance (current : CashuProofReservationState) (next : LifecycleEventState) :
    Decidable (TransitionAllowed current next) :=
  inferInstanceAs (Decidable (_ ∨ _))

/-- Whether an event can be about the effect of its payment. -/
def EventMatchesEffect (event : CashuReservationLifecycleEvent)
    (effect : Option CashuOperatorEffect) : Prop :=
  (event.evidenceKind = some .preDispatch → effect = none) ∧
    (event.evidenceKind ≠ some .preDispatch →
      ∃ started ∈ effect, started.startedAt ≤ event.base.recordedAt ∧
        EvidenceMatchesEffect event.evidenceKind started.kind ∧
        ∀ evidenceAt ∈ event.evidenceAt,
          started.startedAt ≤ evidenceAt ∧
            EvidenceTimeMatchesEffect event.evidenceKind evidenceAt started)

instance (event : CashuReservationLifecycleEvent) (effect : Option CashuOperatorEffect) :
    Decidable (EventMatchesEffect event effect) :=
  inferInstanceAs (Decidable (_ ∧ _))

/-- The draft that an event row stores. -/
def LifecycleEventRow.draft (row : LifecycleEventRow) : EventDraft where
  effectId := row.effectId
  eventId := row.eventId
  evidenceAt := row.evidenceAt
  evidenceKind := row.evidenceKind
  journalEntryId := row.journalEntryId
  paymentId := row.paymentId
  proofStateSnapshotFingerprint := row.proofStateSnapshotFingerprint
  recordedAt := row.recordedAt
  state := row.state

/-- The time of the snapshot an event cites, when it cites one. -/
def citedProofStateObservedAt (db : Db) (reservation : ReservationScope)
    (row : LifecycleEventRow) : Except LifecycleError (Option UnixTimestamp) :=
  match row.proofStateSnapshotFingerprint with
  | none => return none
  | some fingerprint => do
      let observedAt ← validateProofStateEvidenceByFingerprint db reservation fingerprint
        row.state.requiredProofState false
      return some observedAt

def mapEvent (db : Db) (row : LifecycleEventRow) (reservation : ReservationScope)
    (effect : Option CashuOperatorEffect) :
    Except LifecycleError CashuReservationLifecycleEvent := do
  ensure
    (row.paymentId = reservation.paymentId ∧ row.effectId = effect.map (·.effectId))
    .invalidRecord
  let proofStateObservedAt ← citedProofStateObservedAt db reservation row
  let event ← orFail (createPublicEvent row.draft row.sequence proofStateObservedAt) .invalidRecord
  ensure
    (createEventFingerprint row.draft row.sequence = row.eventFingerprint ∧
      reservation.reservedAt ≤ row.recordedAt ∧
      (∀ evidenceAt ∈ row.evidenceAt, evidenceAt ≤ row.recordedAt) ∧
      EventMatchesEffect event effect)
    .invalidRecord
  return event

/-- The state of a reservation after its events. -/
def stateAfter (events : List CashuReservationLifecycleEvent) : CashuProofReservationState :=
  match events.getLast? with
  | none => .reserved
  | some event => event.state.toReservationState

/-- The events of a payment with the next stored one. -/
def appendStoredEvent (db : Db) (reservation : ReservationScope)
    (effect : Option CashuOperatorEffect) (events : List CashuReservationLifecycleEvent)
    (row : LifecycleEventRow) : Except LifecycleError (List CashuReservationLifecycleEvent) := do
  let event ← mapEvent db row reservation effect
  ensure
    (row.sequence = events.length ∧ TransitionAllowed (stateAfter events) event.state ∧
      ∀ previous ∈ events.getLast?, previous.base.recordedAt ≤ event.base.recordedAt)
    .invalidRecord
  return events ++ [event]

def assertProjection (db : Db) (paymentId : PaymentId) (state : CashuProofReservationState)
    (hasEffect : Bool) : Except LifecycleError Unit :=
  let reservedProofs := (db.reservedProofsOf paymentId).length
  let activeProofClaims := (db.proofClaimsOf paymentId).length
  let activeInvoiceClaims := (db.invoiceClaimsOf paymentId).length
  ensure
    (reservedProofs ≠ 0 ∧
      (state = .released → activeProofClaims = 0 ∧ activeInvoiceClaims = 0) ∧
      (state ≠ .released →
        activeProofClaims = reservedProofs ∧
          activeInvoiceClaims = if hasEffect then 1 else 0))
    .invalidRecord

/-- The effect of a payment with the check of the quote it was dispatched on. -/
def loadEffect (db : Db) (reservation : ReservationScope) :
    Except LifecycleError (Option CashuOperatorEffect) := do
  match db.effectsOf reservation.paymentId with
  | [] => return none
  | [row] =>
      let effect ← mapEffect row reservation
      ensure (db.eventsOf reservation.paymentId ≠ []) .invalidRecord
      if effect.kind = .melt then
        assertMeltQuoteEvidence db reservation effect .stored
      return some effect
  | _ :: _ :: _ => throw .invalidRecord

/-- Events without an effect are releases, and an effect begins with its dispatch. -/
def EventsFitEffect (events : List CashuReservationLifecycleEvent)
    (effect : Option CashuOperatorEffect) : Prop :=
  (effect = none → ∀ event ∈ events, event.state = .released) ∧
    (effect.isSome → ∃ first ∈ events.head?, first.state = .dispatchStarted)

instance (events : List CashuReservationLifecycleEvent) (effect : Option CashuOperatorEffect) :
    Decidable (EventsFitEffect events effect) :=
  inferInstanceAs (Decidable (_ ∧ _))

def loadLifecycle (db : Db) (reservation : ReservationScope) :
    Except LifecycleError CashuProofReservationLifecycle := do
  let effect ← loadEffect db reservation
  let events ←
    (db.eventsOf reservation.paymentId).foldlM (appendStoredEvent db reservation effect) []
  ensure (EventsFitEffect events effect) .invalidRecord
  assertProjection db reservation.paymentId (stateAfter events) effect.isSome
  return {
    effect
    events
    paymentId := reservation.paymentId
    state := stateAfter events }

/-! ### Accounting -/

/-- `createAccountingFingerprint`. -/
def createAccountingFingerprint (reservation : ReservationScope)
    (accounting : AcceptedInvoicePayment) : AccountingFingerprint where
  accounting
  mintUrl := reservation.mintUrl

/-- Whether a stored posting is the posting at its position. -/
def SamePosting (accounting : AcceptedInvoicePayment) (row : PaymentPostingRow)
    (posting : LedgerPosting × Nat) : Prop :=
  row.journalEntryId = accounting.journalEntry.id ∧ row.position = posting.2 ∧
    row.side = posting.1.side ∧ row.account = posting.1.account ∧ row.amount = posting.1.amount

instance (accounting : AcceptedInvoicePayment) (row : PaymentPostingRow)
    (posting : LedgerPosting × Nat) : Decidable (SamePosting accounting row posting) :=
  inferInstanceAs (Decidable (_ ∧ _))

/-- `postingsMatch`. -/
def PostingsMatch (rows : List PaymentPostingRow) (accounting : AcceptedInvoicePayment) : Prop :=
  List.Forall₂ (SamePosting accounting) rows accounting.journalEntry.postings.zipIdx

instance (rows : List PaymentPostingRow) (accounting : AcceptedInvoicePayment) :
    Decidable (PostingsMatch rows accounting) :=
  inferInstanceAs (Decidable (List.Forall₂ _ _ _))

/-- The accepted payment that a journal row and its postings store. -/
def mapAcceptedPayment (db : Db) (reservation : ReservationScope) (row : PaymentJournalRow) :
    Except LifecycleError AcceptedInvoicePayment := do
  let settlementRoute ← requireSettlementRoute db reservation
  ensure (row.assetAccount = stellarTestnetUsdcAccount) .invalidRecord
  let accounting ←
    (acceptInvoicePayment reservation.invoice {
      acceptedAt := row.acceptedAt
      assetAccount := stellarTestnetUsdcAccount
      effectiveAt := row.effectiveAt
      feeAmount := row.feeAmount
      journalEntryId := row.journalEntryId
      operatorId := reservation.operatorId
      paymentId := reservation.paymentId
      settlementMode := settlementRoute.mode }).mapError fun _ => .invalidRecord
  ensure
    (row.invoiceId = reservation.invoiceId ∧ row.merchantId = reservation.merchantId ∧
      row.paymentId = reservation.paymentId ∧ row.operatorId = reservation.operatorId ∧
      row.mintUrl = reservation.mintUrl ∧ row.settlementMode = settlementRoute.mode ∧
      row.grossAmount = accounting.invoice.payment.grossAmount ∧
      row.netAmount = accounting.invoice.payment.netAmount ∧
      reservation.invoiceState = .paid ∧
      reservation.paidAt = some accounting.invoice.paidAt ∧
      row.journalFingerprint = createAccountingFingerprint reservation accounting ∧
      PostingsMatch (db.postingsOf row.journalEntryId) accounting)
    .invalidRecord
  return accounting

def loadAcceptedPayment (db : Db) (reservation : ReservationScope) :
    Except LifecycleError (Option AcceptedInvoicePayment) :=
  match db.journalOf reservation.paymentId with
  | none => return none
  | some row => do
      let accounting ← mapAcceptedPayment db reservation row
      return some accounting

/-- Whether the accounting of a payment is that of its lifecycle: a consumed lifecycle has the
accepted payment its last event names, and any other has none. -/
def AccountingFitsLifecycle (accounting : Option AcceptedInvoicePayment)
    (lifecycle : CashuProofReservationLifecycle) : Prop :=
  match accounting with
  | none => lifecycle.state ≠ .consumed
  | some accounting =>
      lifecycle.state = .consumed ∧
        ∃ event ∈ lifecycle.events.getLast?,
          match event with
          | .consumed _ _ _ journalEntryId _ => journalEntryId = accounting.journalEntry.id
          | _ => False

instance (accounting : Option AcceptedInvoicePayment)
    (lifecycle : CashuProofReservationLifecycle) :
    Decidable (AccountingFitsLifecycle accounting lifecycle) :=
  match accounting with
  | none => inferInstanceAs (Decidable (_ ≠ _))
  | some accounting =>
      have (event : CashuReservationLifecycleEvent) :
          Decidable (match event with
            | .consumed _ _ _ journalEntryId _ => journalEntryId = accounting.journalEntry.id
            | _ => False) :=
        match event with
        | .consumed _ _ _ _ _ => inferInstanceAs (Decidable (_ = _))
        | .dispatchStarted _ => inferInstanceAs (Decidable False)
        | .pending _ _ => inferInstanceAs (Decidable False)
        | .needsAttention _ _ _ => inferInstanceAs (Decidable False)
        | .releasedPreDispatch _ => inferInstanceAs (Decidable False)
        | .releasedAfterFailure _ _ _ _ => inferInstanceAs (Decidable False)
      inferInstanceAs (Decidable (_ ∧ ∃ event ∈ lifecycle.events.getLast?, _))

def assertAccountingProjection (db : Db) (reservation : ReservationScope)
    (lifecycle : CashuProofReservationLifecycle) : Except LifecycleError Unit := do
  let accounting ← loadAcceptedPayment db reservation
  ensure (AccountingFitsLifecycle accounting lifecycle) .invalidRecord

/-- `findByPaymentId`. -/
def findLifecycle (db : Db) (paymentId : PaymentId) :
    Except LifecycleError (Option CashuProofReservationLifecycle) := do
  match ← loadReservation db paymentId with
  | none => return none
  | some reservation =>
      let lifecycle ← loadLifecycle db reservation
      assertAccountingProjection db reservation lifecycle
      return some lifecycle

def findAcceptedPaymentByPaymentId (db : Db) (paymentId : PaymentId) :
    Except LifecycleError (Option AcceptedInvoicePayment) := do
  match ← loadReservation db paymentId with
  | none => return none
  | some reservation =>
      let lifecycle ← loadLifecycle db reservation
      let accounting ← loadAcceptedPayment db reservation
      ensure ((lifecycle.state = .consumed) = (accounting.isSome = true)) .invalidRecord
      return accounting

end CashMesh.Acquirer
