import CashMesh.Lib.Embedding
import CashMesh.StellarSettlement.Horizon
import CashMesh.StellarSettlement.Sep7
import CashMesh.StellarSettlement.System
/-!
# The incoming payments of the processor

The other half of `processor.rs`: a call that files a mint quote and answers with the payment request
for it, and a call that scans for deposits and answers whether the quote has been paid.

The deposit source is Horizon, whose ledger the world holds in the order of its paging tokens. Horizon
answers a request with the records behind the cursor that the request names, as many as it cares to
return, or the request fails.
-/

namespace CashMesh.StellarSettlement

open CashMesh.Lib

/-! ### The payment library -/

structure CustomIncomingPaymentOptions (QuoteId : Type) where
  method : String
  amount : Option Amount
  unixExpiry : Option UInt64
  quoteId : QuoteId
  pubkey : Option String

inductive IncomingPaymentOptions (QuoteId : Type) where
  | custom (options : CustomIncomingPaymentOptions QuoteId)
  | other

structure CreateIncomingPaymentResponse (QuoteId : Type) where
  requestLookupId : PaymentIdentifier QuoteId
  request : String
  expiry : Option UInt64
  extraJson : List (String × String)

structure WaitPaymentResponse (QuoteId : Type) where
  paymentIdentifier : PaymentIdentifier QuoteId
  paymentAmount : Amount
  paymentId : String

/-- The errors of the incoming calls, which know one more than the outgoing ones. -/
inductive IncomingError where
  | payment (error : CdkPaymentError)
  | invalidExpiry

/-- The text of a profile error. -/
def ProfileError.toText : ProfileError → String
  | .networkIdMismatch configured derived =>
      "configured network id " ++ configured ++ " does not match passphrase-derived id " ++ derived
  | .insecureHorizonUrl => "Horizon endpoint must be an absolute HTTPS URL"
  | .invalidHorizonUrl => "invalid Horizon URL"
  | .invalidAssetCode => "asset code must contain 1 to 12 uppercase ASCII letters or digits"
  | .invalidAmountRange => "minimum amount cannot exceed maximum amount"
  | .invalidQuoteTtl => "quote TTL must be greater than zero"
  | .amountOutsideLimits amount minimum maximum =>
      "amount " ++ toString amount.toNat ++ " is outside configured limits " ++
        toString minimum.toNat ++ "..=" ++ toString maximum.toNat
  | .invalidValue error => error.toText

/-- The text of a payment request error. -/
def Sep7Error.toText : Sep7Error → String
  | .invalidUri => "invalid SEP-0007 URI"
  | .unsupportedOperation => "only web+stellar:pay requests without fragments are supported"
  | .unsupportedParameter key => "unsupported SEP-0007 parameter: " ++ key
  | .duplicateParameter => "SEP-0007 parameters must not be repeated"
  | .missingParameter name => "missing required SEP-0007 parameter: " ++ name
  | .wrongAssetCode => "SEP-0007 asset code does not match the configured asset"
  | .wrongAssetIssuer => "SEP-0007 asset issuer does not match the configured issuer"
  | .wrongNetwork => "SEP-0007 network passphrase does not match the configured network"
  | .incompleteMemo => "memo and memo_type must be supplied together"
  | .unsupportedMemoType => "unsupported Stellar memo type"
  | .invalidValue error => error.toText
  | .invalidProfile error => error.toText

/-! ### Effects -/

/-- The effects of a scan, the clock, and the accesses of the calls to the store. -/
inductive IncomingEffect where
  | unixSeconds
  | insertMintQuote (quote : MintQuoteRecord)
  | mintQuote (quoteId : QuoteReference)
  | scan (effect : ScanEffect)

abbrev IncomingAnswer : IncomingEffect → Type
  | .unixSeconds => UInt64
  | .insertMintQuote _ => Except StoreError Unit
  | .mintQuote _ => Except StoreError (Option MintQuoteRecord)
  | .scan effect => ScanAnswer effect

abbrev IncomingCall :=
  Process IncomingEffect IncomingAnswer IncomingError

def scanError : ScanError → IncomingError
  | .store error => .payment (storeError error)
  | .source error => .payment (.custom error.message)

/-- The scan of `scan_deposits`, as a part of a call. -/
def scanForDeposits : IncomingCall Unit :=
  scanDeposits.embed .scan (fun _ answer => answer) scanError

def fileMintQuote (quote : MintQuoteRecord) : IncomingCall Unit :=
  .ask (.insertMintQuote quote) fun answer =>
    .ofExcept (answer.mapError fun error => .payment (storeError error))

def findMintQuote (quoteId : QuoteReference) : IncomingCall (Option MintQuoteRecord) :=
  .ask (.mintQuote quoteId) fun answer =>
    .ofExcept (answer.mapError fun error => .payment (storeError error))

/-! ### The calls -/

variable {QuoteId : Type} (processor : Processor QuoteId) (crates : Crates) (profile : StellarProfile)

/-- The amount and the key of a request, as far as `create_incoming_payment_request` checks them
before it looks at the clock. -/
def checkIncomingOptions (options : CustomIncomingPaymentOptions QuoteId) :
    Except IncomingError (UsdcMinorUnits × String) := do
  (validateMethod options.method).mapError IncomingError.payment
  let amount ← orFail options.amount (IncomingError.payment .amountMismatch)
  let amount ← (cdkAmount amount).mapError IncomingError.payment
  ensure (profile.validateAmount amount = true)
    (IncomingError.payment (.custom (ProfileError.toText
      (.amountOutsideLimits amount.value profile.minAmount.value profile.maxAmount.value))))
  let lockedPubkey ← orFail options.pubkey
    (IncomingError.payment (.custom "stellar mint quotes require a NUT-20 locking pubkey"))
  .ok (amount, lockedPubkey)

/-- The expiry of a new quote: the one asked for, unless it is past or too far ahead. -/
def incomingExpiry (unixExpiry : Option UInt64) (now : UInt64) : Except IncomingError UInt64 := do
  let maximumExpiry ← orFail (checkedAdd now profile.quoteTtlSeconds) IncomingError.invalidExpiry
  let expiry := unixExpiry.getD maximumExpiry
  ensure (¬(expiry ≤ now ∨ maximumExpiry < expiry)) IncomingError.invalidExpiry
  .ok expiry

/-- The quote that is filed and the payment request for it. -/
def incomingQuote (options : CustomIncomingPaymentOptions QuoteId) (amount : UsdcMinorUnits)
    (lockedPubkey : String) (expiry : UInt64) : Except IncomingError (MintQuoteRecord × Sep7Payment) := do
  let quoteId ← (quoteReference processor options.quoteId).mapError IncomingError.payment
  let payment ← (buildDepositRequest crates profile quoteId amount).mapError
    fun error => IncomingError.payment (.custom error.toText)
  let correlationMemo ← orFail payment.memo
    (IncomingError.payment (.custom "deposit request is missing its correlation memo"))
  let quote ← (MintQuoteRecord.new quoteId amount expiry correlationMemo lockedPubkey).mapError
    fun error => IncomingError.payment (storeError error)
  .ok (quote, payment)

def extraJson : List (String × String) :=
  [("asset_code", profile.asset.code), ("asset_issuer", profile.asset.issuer.value),
    ("network_id", profile.network.networkId)]

def createIncomingPaymentRequest :
    IncomingPaymentOptions QuoteId → IncomingCall (CreateIncomingPaymentResponse QuoteId)
  | .other => throw (.payment .unsupportedPaymentOption)
  | .custom options => do
      let (amount, lockedPubkey) ← Process.ofExcept (checkIncomingOptions profile options)
      let now ← Process.perform IncomingEffect.unixSeconds
      let expiry ← Process.ofExcept (incomingExpiry profile options.unixExpiry now)
      let (quote, payment) ← Process.ofExcept
        (incomingQuote processor crates profile options amount lockedPubkey expiry)
      fileMintQuote quote
      pure
        { requestLookupId := .quoteId options.quoteId
          request := payment.toUri crates
          expiry := some expiry
          extraJson := extraJson profile }

/-- Scan unless the quote is already claimed. -/
def scanUnlessClaimed (quote : MintQuoteRecord) : IncomingCall Unit :=
  match quote.claim with
  | none => scanForDeposits
  | some _ => pure ()

/-- The answer on a quote as it was read last. -/
def statusOf (quoteId : QuoteReference) :
    Option MintQuoteRecord → Except IncomingError (List (WaitPaymentResponse QuoteId))
  | none => .ok []
  | some quote =>
      match quote.claim with
      | none => .ok []
      | some claim => do
          let id ← (cdkQuoteId processor quoteId).mapError IncomingError.payment
          .ok [{
            paymentIdentifier := .quoteId id
            paymentAmount := typedAmount quote.amount
            paymentId := claim.operationId.value }]

def checkIncomingPaymentStatus (paymentIdentifier : PaymentIdentifier QuoteId) :
    IncomingCall (List (WaitPaymentResponse QuoteId)) := do
  let quoteId ← Process.ofExcept
    ((paymentQuoteReference processor paymentIdentifier).mapError IncomingError.payment)
  let quote ← findMintQuote quoteId
  match quote with
  | none => pure []
  | some quote => do
      scanUnlessClaimed quote
      let quote ← findMintQuote quoteId
      Process.ofExcept (statusOf processor quoteId quote)

/-! ### The world -/

/-- The store, the ledger of the network, and the history of the store's claims. -/
structure IncomingWorld where
  store : PersistentState
  ledger : List LedgerRecord
  history : List DepositEvent

namespace IncomingWorld

def initial : IncomingWorld :=
  { store := .default, ledger := [], history := [] }

/-- The same world with the ledger as the scanner's source. -/
def toScan (crates : Crates) (profile : StellarProfile) (w : IncomingWorld) : ScanWorld :=
  { store := w.store
    source := w.ledger.map (LedgerRecord.toSource crates profile)
    history := w.history }

/-- How far the store has read. -/
def position (w : IncomingWorld) : WithBot LedgerCursor :=
  positionOf w.store.pagingCursor

/-- A payment that is shown to the store is evaluated unless it is stale. -/
def observe (profile : StellarProfile) (payment : ObservedPayment) (w : IncomingWorld) :
    IncomingWorld :=
  { w with
    store := (w.store.observePayment profile payment).2
    history := if w.store.Covers payment.pagingCursor then w.history
      else w.history ++ [.evaluated payment] }

/-- The ledger gains records at its end, and the store's melt quotes change. -/
inductive Moves : IncomingWorld → IncomingWorld → Prop
  | closed {w : IncomingWorld} {record : LedgerRecord}
      (hlast : ∀ r ∈ w.ledger, r.cursor < record.cursor) :
      Moves w { w with ledger := w.ledger ++ [record] }
  | melted {w : IncomingWorld} {meltQuotes} :
      Moves w { w with store := { w.store with meltQuotes := meltQuotes } }

end IncomingWorld

/-- The position that the cursor of a request names. -/
def tokenPosition : Option String → WithBot LedgerCursor
  | none => ⊥
  | some token =>
      match LedgerCursor.new token with
      | .ok cursor => cursor
      | .error _ => ⊥

@[simp] theorem tokenPosition_toText (cursor : Option LedgerCursor) :
    tokenPosition (cursor.map LedgerCursor.toText) = positionOf cursor := by
  cases cursor with
  | none => rfl
  | some cursor => simp [tokenPosition, positionOf]

/-- The most records that a request asks for. -/
def horizonPageLimit : Nat := 200

/-- One effect of a scan. Horizon answers with a page of its ledger, and the adapter makes a batch of
it or fails; a request that fails and a store that cannot be read answer with any error. -/
def scansHorizon : (effect : ScanEffect) → IncomingWorld → ScanAnswer effect → IncomingWorld → Prop
  | .snapshot, w, answer, w' =>
      (answer = .ok w.store.pagingCursor ∨ ∃ error, answer = .error error) ∧ w' = w
  | .paymentsAfter cursor, w, answer, w' =>
      ((∃ networkPassphrase size, size ≤ horizonPageLimit ∧
          answer = (horizonPaymentsAfter crates profile networkPassphrase
            ((pageAfter LedgerRecord.cursor (tokenPosition (cursor.map LedgerCursor.toText)) size
              w.ledger).map LedgerRecord.record)).mapError fun error => .source ⟨error.toText⟩) ∨
        ∃ error, answer = .error error) ∧ w' = w
  | .observePayment payment, w, answer, w' =>
      answer = .ok (w.store.observePayment profile payment).1 ∧ w' = w.observe profile payment ∨
        (∃ error, answer = .error error) ∧ w' = w
  | .advanceCursor cursor, w, answer, w' =>
      answer = .ok () ∧ w' = { w with store := w.store.advanceCursor cursor } ∨
        (∃ error, answer = .error error) ∧ w' = w

/-- One effect of a call. The clock may show anything. -/
def performsIncoming :
    (effect : IncomingEffect) → IncomingWorld → IncomingAnswer effect → IncomingWorld → Prop
  | .unixSeconds, w, _, w' => w' = w
  | .insertMintQuote quote, w, answer, w' =>
      (∃ store, PersistentState.insertMintQuote quote w.store = .ok store ∧ answer = .ok () ∧
          w' = { w with store := store, history := w.history ++ [.inserted quote] }) ∨
        (∃ error, (PersistentState.insertMintQuote quote w.store = .error error ∨
            error.isUnsaved = true) ∧ answer = .error error ∧ w' = w)
  | .mintQuote quoteId, w, answer, w' =>
      (answer = .ok (w.store.mintQuote quoteId) ∨ ∃ error, answer = .error error) ∧ w' = w
  | .scan effect, w, answer, w' => scansHorizon crates profile effect w answer w'

/-! ### Requests and runs -/

inductive IncomingRequest (QuoteId : Type) where
  | create (options : IncomingPaymentOptions QuoteId)
  | check (paymentIdentifier : PaymentIdentifier QuoteId)

inductive IncomingResponse (QuoteId : Type) where
  | created (response : CreateIncomingPaymentResponse QuoteId)
  | status (responses : List (WaitPaymentResponse QuoteId))

/-- The call that answers a request, its response labelled with the request. -/
def IncomingRequest.call (request : IncomingRequest QuoteId) :
    IncomingCall (IncomingRequest QuoteId × IncomingResponse QuoteId) :=
  match request with
  | .create options => do
      let response ← createIncomingPaymentRequest processor crates profile options
      pure (request, .created response)
  | .check paymentIdentifier => do
      let responses ← checkIncomingPaymentStatus processor paymentIdentifier
      pure (request, .status responses)

abbrev IncomingSystem (QuoteId : Type) :=
  Pool IncomingWorld (IncomingCall (IncomingRequest QuoteId × IncomingResponse QuoteId))

abbrev IncomingStep : IncomingSystem QuoteId → IncomingSystem QuoteId → Prop :=
  Pool.Step (performsIncoming crates profile) IncomingWorld.Moves
    fun call => ∃ request : IncomingRequest QuoteId, call = request.call processor crates profile

/-- Runs of the incoming calls from an empty journal and an empty ledger. -/
def IncomingReachable : IncomingSystem QuoteId → Prop :=
  Relation.ReflTransGen (IncomingStep processor crates profile) ⟨.initial, []⟩

end CashMesh.StellarSettlement
