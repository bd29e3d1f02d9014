import CashMesh.Acquirer.Schema
/-!
# Stored melt quotes

The quoted evidence of a payment, put together from the rows of its attempt, its outcome and its
observations. The readers replace the error of a malformed row by their own, so it is not kept here,
and a stored number is read as it is, since its table bounds it.
-/

namespace CashMesh.Acquirer

open CashMesh.Lib

structure StoredCashuStellarMeltQuoteAttempt where
  attemptFingerprint : MeltQuoteAttemptFingerprint
  attemptId : CashuStellarMeltQuoteAttemptId
  invoiceId : InvoiceId
  mintUrl : MintUrl
  operatorId : OperatorId
  paymentId : PaymentId
  request : CashuStellarMeltQuoteRequest
  settlementDestination : CashuStellarSettlementDestination
  startedAt : UnixTimestamp
deriving DecidableEq

structure StoredCashuStellarMeltQuotedEvidence where
  attempt : StoredCashuStellarMeltQuoteAttempt
  observations : List CashuStellarMeltQuote
  recordedAt : UnixTimestamp
deriving DecidableEq

/-- The destination that a melt request names. -/
def cashuStellarMeltRequestDestination (request : CashuStellarMeltQuoteRequest) :
    CashuStellarSettlementDestination :=
  request.request.destination

/-- The attempt that a row stores. -/
def mapCashuStellarMeltQuoteAttemptRecord (row : MeltQuoteAttemptRow) :
    Except Unit StoredCashuStellarMeltQuoteAttempt := do
  let request ← orFail (createCashuStellarMeltQuoteRequest row.amount row.request) ()
  ensure
    (cashuStellarMeltRequestDestination request = row.settlementDestination ∧
      row.attemptFingerprint =
        { attemptId := row.attemptId
          invoiceId := row.invoiceId
          mintUrl := row.mintUrl
          operatorId := row.operatorId
          paymentId := row.paymentId
          request
          settlementDestination := row.settlementDestination
          startedAt := row.startedAt })
    ()
  return {
    attemptFingerprint := row.attemptFingerprint
    attemptId := row.attemptId
    invoiceId := row.invoiceId
    mintUrl := row.mintUrl
    operatorId := row.operatorId
    paymentId := row.paymentId
    request
    settlementDestination := row.settlementDestination
    startedAt := row.startedAt }

def createCashuStellarMeltQuotedOutcomeFingerprint (attempt : StoredCashuStellarMeltQuoteAttempt)
    (quote : CashuStellarMeltQuote) : MeltQuoteOutcomeFingerprint :=
  .quoted attempt.attemptFingerprint quote.amount quote.expiry quote.feeReserve quote.mintUrl
    quote.quoteId quote.observedAt quote.request

def createCashuStellarMeltQuoteObservationFingerprint
    (attempt : StoredCashuStellarMeltQuoteAttempt) (quote : CashuStellarMeltQuote) :
    MeltQuoteObservationFingerprint where
  attemptId := attempt.attemptId
  operatorId := attempt.operatorId
  paymentId := attempt.paymentId
  quote

/-- The quote that an observation row stores. -/
def mapCashuStellarMeltQuoteObservationRecord (attempt : StoredCashuStellarMeltQuoteAttempt)
    (outcome : MeltQuoteOutcomeRow) (row : MeltQuoteObservationRow)
    (expiry feeReserve : Nat) : Except Unit CashuStellarMeltQuote := do
  ensure
    (row.attemptId = attempt.attemptId ∧ row.paymentId = attempt.paymentId ∧
      row.mintUrl = attempt.mintUrl ∧ some row.quoteId = outcome.quoteId)
    ()
  let quote ← orFail
    (createCashuStellarMeltQuote {
      amount := attempt.request.amount
      expiry
      feeReserve
      mintUrl := attempt.mintUrl
      observedAt := row.observedAt
      quoteId := row.quoteId
      request := attempt.request.request
      state := row.state })
    ()
  ensure (createCashuStellarMeltQuoteObservationFingerprint attempt quote = row.snapshotFingerprint)
    ()
  return quote

/-- Whether one observation may follow another. -/
def QuoteMayFollow (previous current : CashuStellarMeltQuote) : Prop :=
  previous.observedAt < current.observedAt ∧ (previous.state = .paid → current.state = .paid)

instance : DecidableRel QuoteMayFollow := fun _ _ =>
  inferInstanceAs (Decidable (_ ∧ _))

/-- The quoted evidence that the rows of a payment store. -/
def mapCashuStellarMeltQuotedEvidenceRecord (attemptRow : MeltQuoteAttemptRow)
    (outcome : MeltQuoteOutcomeRow) (observationRows : List MeltQuoteObservationRow) :
    Except Unit StoredCashuStellarMeltQuotedEvidence := do
  let attempt ← mapCashuStellarMeltQuoteAttemptRecord attemptRow
  ensure
    (outcome.attemptId = attempt.attemptId ∧ outcome.paymentId = attempt.paymentId ∧
      outcome.mintUrl = attempt.mintUrl ∧ outcome.outcomeKind = .quoted ∧
      outcome.ambiguityReason = none ∧ outcome.quoteId.isSome)
    ()
  let expiry ← orFail outcome.expiry ()
  let feeReserve ← orFail outcome.feeReserve ()
  let observations ← observationRows.mapM fun row =>
    mapCashuStellarMeltQuoteObservationRecord attempt outcome row expiry feeReserve
  let first ← orFail observations.head? ()
  ensure
    (first.observedAt = outcome.recordedAt ∧ first.state = .unpaid ∧
      attempt.startedAt ≤ outcome.recordedAt ∧ first.observedAt < first.expiry ∧
      first.expiry ≤ attempt.startedAt + maxCashuStellarMeltQuoteTtlSeconds ∧
      createCashuStellarMeltQuotedOutcomeFingerprint attempt first = outcome.outcomeFingerprint)
    ()
  ensure (observations.IsChain QuoteMayFollow) ()
  return {
    attempt
    observations
    recordedAt := outcome.recordedAt }

end CashMesh.Acquirer
