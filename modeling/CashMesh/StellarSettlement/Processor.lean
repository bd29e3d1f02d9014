import CashMesh.Lib.Process
import CashMesh.StellarSettlement.Store
/-!
# The payment processor

The outgoing half of `processor.rs`: the calls of the mint as processes that read and update the
durable store and ask the payout rail. Between two effects of one call every other call may run, and
a restart drops the calls in flight and keeps the journal.

A submission is two effects, the request leaving and its answer arriving, since the process can be
lost between them. The payment library's quote identifiers and the parser of payment requests are
parameters: the calls behave alike for all of them.
-/

namespace CashMesh.StellarSettlement

open CashMesh.Lib

/-! ### The payout rail -/

structure PayoutIntent where
  quoteId : QuoteReference
  payment : Sep7Payment

/-- A payout the rail has signed, which can be persisted before it is dispatched. -/
structure PreparedPayout where
  transactionHash : TransactionHash
  signedEnvelope : String
  deriving DecidableEq

/-- `PreparedPayout::new`. -/
def PreparedPayout.new (transactionHash signedEnvelope : String) :
    Except ValueError PreparedPayout := do
  ensure (isBlank signedEnvelope = false) (.empty "signed envelope")
  let transactionHash ← TransactionHash.new transactionHash
  .ok { transactionHash, signedEnvelope }

inductive PayoutObservation where
  | notFound
  | pending (transactionHash : TransactionHash)
  | confirmed (transactionHash : TransactionHash)
  | provablyFailed (transactionHash : TransactionHash) (reason : String)

inductive SubmitResult where
  | accepted
  | confirmed
  | provablyRejected (reason : String)
  | ambiguous (reason : String)

/-- An error of code outside the crate, by its text. -/
structure ExternalError where
  text : String

/-! ### The payment library -/

inductive CdkPaymentError where
  | custom (text : String)
  | amountMismatch
  | unsupportedPaymentOption
  | unsupportedUnit

inductive CurrencyUnit where
  | usdc
  | other (name : String)
  deriving DecidableEq

structure Amount where
  value : UInt64
  unit : CurrencyUnit
  deriving DecidableEq

structure CustomPaymentOptions (QuoteId : Type) where
  method : String
  quoteId : QuoteId
  request : String
  amount : Option Amount

inductive OutgoingPaymentOptions (QuoteId : Type) where
  | custom (options : CustomPaymentOptions QuoteId)
  | other

inductive PaymentIdentifier (QuoteId : Type) where
  | quoteId (quoteId : QuoteId)
  | other

inductive MeltQuoteState where
  | unpaid
  | pending
  | unknown
  | paid
  | failed
  deriving DecidableEq

structure MakePaymentResponse (QuoteId : Type) where
  paymentLookupId : PaymentIdentifier QuoteId
  paymentProof : Option String
  status : MeltQuoteState
  totalSpent : Amount

/-- What a processor is configured with: the quote identifiers of the payment library and the parser
of payment requests for its profile. -/
structure Processor (QuoteId : Type) where
  quoteIdText : QuoteId → String
  parseQuoteId : String → Option QuoteId
  parsePaymentRequest : String → Except String Sep7Payment

/-! ### Effects -/

/-- One await point of a call, or one access to the store. -/
inductive Effect where
  | meltQuote (quoteId : QuoteReference)
  | updateSettlement (quoteId : QuoteReference)
      (operation : Settlement → Except SettlementError Settlement)
  | prepare (intent : PayoutIntent)
  | observe (transactionHash : TransactionHash)
  | submit (quoteId : QuoteReference) (payout : PreparedPayout)
  | submitted (payout : PreparedPayout)

abbrev Answer : Effect → Type
  | .meltQuote _ => Except StoreError (Option MeltQuoteRecord)
  | .updateSettlement _ _ => Except StoreError Unit
  | .prepare _ => Except ExternalError PreparedPayout
  | .observe _ => Except ExternalError PayoutObservation
  | .submit _ _ => Unit
  | .submitted _ => Except ExternalError SubmitResult

/-- A call in flight. -/
abbrev Call := Process Effect Answer CdkPaymentError

def storeError (error : StoreError) : CdkPaymentError :=
  .custom error.toText

def externalError (error : ExternalError) : CdkPaymentError :=
  .custom error.text

def valueError (error : ValueError) : CdkPaymentError :=
  .custom error.toText

def updateSettlement (quoteId : QuoteReference)
    (operation : Settlement → Except SettlementError Settlement) : Call Unit :=
  .ask (.updateSettlement quoteId operation) fun answer =>
    .ofExcept (answer.mapError storeError)

def observe (transactionHash : TransactionHash) : Call PayoutObservation :=
  .ask (.observe transactionHash) fun answer => .ofExcept (answer.mapError externalError)

/-- `require_melt_quote`. -/
def requireMeltQuote (quoteId : QuoteReference) : Call MeltQuoteRecord :=
  .ask (.meltQuote quoteId) fun
    | .error error => throw (storeError error)
    | .ok none => throw (.custom ("unknown melt quote " ++ quoteId.value))
    | .ok (some quote) => pure quote

/-! ### Responses -/

def validateMethod (method : String) : Except CdkPaymentError Unit :=
  ensure (method = "" ∨ method = "stellar") .unsupportedPaymentOption

def validateUnit (unit : CurrencyUnit) : Except CdkPaymentError Unit :=
  ensure (unit = .usdc) .unsupportedUnit

def cdkAmount (amount : Amount) : Except CdkPaymentError UsdcMinorUnits := do
  validateUnit amount.unit
  (UsdcMinorUnits.new amount.value).mapError valueError

def typedAmount (amount : UsdcMinorUnits) : Amount :=
  { value := amount.value, unit := .usdc }

def zeroAmount : Amount :=
  { value := 0, unit := .usdc }

def cdkMeltState : SettlementState → MeltQuoteState
  | .unpaid => .unpaid
  | .proofsReserved => .pending
  | .submitted _ => .pending
  | .needsAttention _ => .unknown
  | .paid _ => .paid
  | .failed _ => .failed

variable {QuoteId : Type} (processor : Processor QuoteId)

def cdkQuoteId (quoteId : QuoteReference) : Except CdkPaymentError QuoteId :=
  orFail (processor.parseQuoteId quoteId.value) (.custom "invalid durable quote id")

def quoteReference (quoteId : QuoteId) : Except CdkPaymentError QuoteReference :=
  (QuoteReference.new (processor.quoteIdText quoteId)).mapError valueError

def paymentQuoteReference : PaymentIdentifier QuoteId → Except CdkPaymentError QuoteReference
  | .quoteId quoteId => quoteReference processor quoteId
  | .other => .error .unsupportedPaymentOption

def makeResponse (quote : MeltQuoteRecord) :
    Except CdkPaymentError (MakePaymentResponse QuoteId) := do
  let (paymentProof, totalSpent) := match quote.settlement.state with
    | .paid transactionHash => (some transactionHash.value, typedAmount quote.payment.amount)
    | _ => (none, zeroAmount)
  let quoteId ← cdkQuoteId processor quote.quoteId
  .ok { paymentLookupId := .quoteId quoteId
        paymentProof
        status := cdkMeltState quote.settlement.state
        totalSpent }

/-- The response on the record as it stands now. -/
def respond (quoteId : QuoteReference) : Call (MakePaymentResponse QuoteId) := do
  let quote ← requireMeltQuote quoteId
  .ofExcept (makeResponse processor quote)

def preparedPayout (settlement : Settlement) : Except CdkPaymentError PreparedPayout := do
  let prepared ← orFail settlement.preparedTransaction
    (.custom "settlement has no durable prepared transaction")
  (PreparedPayout.new prepared.transactionHash.value prepared.signedEnvelope).mapError valueError

/-! ### Driving a settlement -/

/-- A record still reserved is first marked as dispatched. -/
def startIfReserved (settlement : Settlement) : Except SettlementError Settlement :=
  match settlement.state with
  | .proofsReserved => settlement.recordDispatchStarted
  | _ => .ok settlement

/-- The update that a pending observation makes. -/
def recordPending (transactionHash : TransactionHash) (settlement : Settlement) :
    Except SettlementError Settlement := do
  let settlement ← startIfReserved settlement
  settlement.recordSubmission transactionHash.value

/-- A record still reserved or in need of attention is first moved to submitted. -/
def submitIfOpen (transactionHash : TransactionHash) (settlement : Settlement) :
    Except SettlementError Settlement :=
  match settlement.state with
  | .proofsReserved => do
      let settlement ← settlement.recordDispatchStarted
      settlement.recordSubmission transactionHash.value
  | .needsAttention _ => settlement.recordSubmission transactionHash.value
  | _ => .ok settlement

/-- The update that a confirmed observation makes. -/
def recordConfirmed (transactionHash : TransactionHash) (settlement : Settlement) :
    Except SettlementError Settlement := do
  let settlement ← submitIfOpen transactionHash settlement
  settlement.confirmPaid transactionHash.value

/-- The update that a submission answered as confirmed makes. -/
def recordSubmittedAndConfirmed (transactionHash : TransactionHash) (settlement : Settlement) :
    Except SettlementError Settlement := do
  let settlement ← settlement.recordSubmission transactionHash.value
  settlement.confirmPaid transactionHash.value

def applyObservation (quoteId : QuoteReference) : PayoutObservation → Call Unit
  | .notFound => pure ()
  | .pending transactionHash => updateSettlement quoteId (recordPending transactionHash)
  | .confirmed transactionHash => updateSettlement quoteId (recordConfirmed transactionHash)
  | .provablyFailed transactionHash reason =>
      updateSettlement quoteId (Settlement.recordObservedFailure transactionHash.value reason)

def reconcileSettlement (quoteId : QuoteReference) : Call Unit := do
  let quote ← requireMeltQuote quoteId
  match quote.settlement.preparedTransaction with
  | none => throw (.custom "pending settlement has no durable transaction intent")
  | some prepared => do
      let observation ← observe prepared.transactionHash
      applyObservation quoteId observation

/-- Ask the rail for a signed payout, unless the snapshot already holds one. -/
def prepareSettlement (quoteId : QuoteReference) (quote : MeltQuoteRecord) : Call Unit :=
  match quote.settlement.preparedTransaction with
  | some _ => pure ()
  | none => .ask (.prepare { quoteId, payment := quote.payment }) fun
      | .ok prepared =>
          updateSettlement quoteId (Settlement.recordPreparedTransaction
            prepared.transactionHash.value prepared.signedEnvelope)
      | .error _ =>
          updateSettlement quoteId (Settlement.recordProvableFailure "payout preparation failed")

def recordSubmitResult (quoteId : QuoteReference) (prepared : PreparedPayout) :
    Except ExternalError SubmitResult → Call Unit
  | .ok .accepted =>
      updateSettlement quoteId (Settlement.recordSubmission prepared.transactionHash.value)
  | .ok .confirmed =>
      updateSettlement quoteId (recordSubmittedAndConfirmed prepared.transactionHash)
  | .ok (.provablyRejected reason) =>
      updateSettlement quoteId (Settlement.recordDispatchRejected reason)
  | .ok (.ambiguous reason) => updateSettlement quoteId (Settlement.requireAttention reason)
  | .error error => do
      updateSettlement quoteId
        (Settlement.requireAttention "payout submission outcome is unknown")
      throw (externalError error)

def dispatchPrepared (quoteId : QuoteReference) (prepared : PreparedPayout) : Call Unit := do
  updateSettlement quoteId Settlement.recordDispatchStarted
  Process.perform (Effect.submit quoteId prepared)
  .ask (.submitted prepared) (recordSubmitResult quoteId prepared)

/-- The part of `drive_settlement` for a record with no final or submitted state: prepare, look
whether the transaction is already known to the network, and dispatch it. -/
def driveReserved (quoteId : QuoteReference) (quote : MeltQuoteRecord) :
    Call (MakePaymentResponse QuoteId) := do
  prepareSettlement quoteId quote
  let quote ← requireMeltQuote quoteId
  match quote.settlement.state with
  | .failed _ => .ofExcept (makeResponse processor quote)
  | _ => do
      let prepared ← Process.ofExcept (preparedPayout quote.settlement)
      let observation ← observe prepared.transactionHash
      match observation with
      | .notFound => do
          dispatchPrepared quoteId prepared
          respond processor quoteId
      | observation => do
          applyObservation quoteId observation
          respond processor quoteId

/-- Reserve the proofs of an unpaid record and read it again. -/
def reserveUnpaid (quoteId : QuoteReference) (quote : MeltQuoteRecord) : Call MeltQuoteRecord :=
  match quote.settlement.state with
  | .unpaid => do
      updateSettlement quoteId Settlement.reserveProofs
      requireMeltQuote quoteId
  | _ => pure quote

def driveSettlement (quoteId : QuoteReference) : Call (MakePaymentResponse QuoteId) := do
  let quote ← requireMeltQuote quoteId
  let quote ← reserveUnpaid quoteId quote
  match quote.settlement.state with
  | .paid _ | .failed _ => .ofExcept (makeResponse processor quote)
  | .submitted _ | .needsAttention _ => do
      reconcileSettlement quoteId
      respond processor quoteId
  | _ => driveReserved processor quoteId quote

/-! ### The calls of the mint -/

/-- The amount a caller names has to be the stored one. -/
def checkAmount (amount : Option Amount) (stored : Sep7Payment) : Except CdkPaymentError Unit :=
  match amount with
  | none => .ok ()
  | some amount => do
      let requested ← cdkAmount amount
      ensure (requested = stored.amount) .amountMismatch

def makePayment (unit : CurrencyUnit) (options : OutgoingPaymentOptions QuoteId) :
    Call (MakePaymentResponse QuoteId) := do
  Process.ofExcept (validateUnit unit)
  match options with
  | .other => throw .unsupportedPaymentOption
  | .custom options => do
      Process.ofExcept (validateMethod options.method)
      let quoteId ← Process.ofExcept (quoteReference processor options.quoteId)
      let requested ← Process.ofExcept
        ((processor.parsePaymentRequest options.request).mapError CdkPaymentError.custom)
      let stored ← requireMeltQuote quoteId
      Process.ofExcept (ensure (stored.payment = requested) .amountMismatch)
      Process.ofExcept (checkAmount options.amount stored.payment)
      driveSettlement processor quoteId

/-- Whether `check_outgoing_payment` asks the rail about the record. -/
def awaitsOutcome (settlement : Settlement) : Bool :=
  match settlement.state with
  | .proofsReserved | .submitted _ | .needsAttention _ => settlement.preparedTransaction.isSome
  | _ => false

def checkOutgoingPayment (paymentIdentifier : PaymentIdentifier QuoteId) :
    Call (MakePaymentResponse QuoteId) := do
  let quoteId ← Process.ofExcept (paymentQuoteReference processor paymentIdentifier)
  let quote ← requireMeltQuote quoteId
  if awaitsOutcome quote.settlement then do
    reconcileSettlement quoteId
    respond processor quoteId
  else
    respond processor quoteId

end CashMesh.StellarSettlement
