import CashMesh.StellarSettlement.Amount
import CashMesh.StellarSettlement.Profile
import CashMesh.StellarSettlement.Store
import Mathlib.Data.Finset.Sort
import Mathlib.Data.String.Basic
/-!
# Deposits

The operations of `store.rs` on mint quotes. A payment observed on the network credits the quote whose
correlation memo it carries, once: the claim is written on the quote and, in the same update, under
the operation and under the transaction that paid it.

The invariant says that the three maps are one relation. Everything else about crediting follows from
it, since an operation or a transaction that has been claimed is found in its map whatever quote it
credited.
-/

namespace CashMesh.StellarSettlement

open CashMesh.Lib

/-- A payment as the observer of the network reports it. -/
structure ObservedPayment where
  networkPassphrase : String
  networkId : String
  operationId : PaymentOperationId
  pagingCursor : LedgerCursor
  transactionHash : TransactionHash
  ledgerSequence : UInt32
  transactionSuccessful : Bool
  ledgerClosedAt : UInt64
  destination : StellarAddress
  assetCode : String
  assetIssuer : StellarAddress
  amount : String
  memo : Option String
  memoType : Option String
  deriving DecidableEq

/-- Why a payment credits no quote. -/
inductive DepositRejection where
  | staleCursor
  | unknownCorrelation
  | wrongNetwork
  | notFinal
  | wrongDestination
  | wrongAssetCode
  | wrongAssetIssuer
  | wrongAmount
  | expired
  | replayedOperation (quoteId : QuoteReference)
  | replayedTransaction (quoteId : QuoteReference)
  | quoteAlreadyPaid
  | invalidValue
  deriving DecidableEq

/-- The text of a rejection. -/
def DepositRejection.toText : DepositRejection → String
  | .staleCursor => "payment cursor is not newer than the durable observer cursor"
  | .unknownCorrelation => "payment does not contain a known CashMesh correlation memo"
  | .wrongNetwork => "payment was observed on the wrong Stellar network"
  | .notFinal => "payment transaction is not successful in a closed ledger"
  | .wrongDestination => "payment reached the wrong destination"
  | .wrongAssetCode => "payment uses the wrong asset code"
  | .wrongAssetIssuer => "payment uses the wrong asset issuer"
  | .wrongAmount => "payment amount is not the exact quoted amount"
  | .expired => "payment was included after quote expiry"
  | .replayedOperation quoteId =>
      "payment operation was already claimed by quote " ++ quoteId.value
  | .replayedTransaction quoteId =>
      "payment transaction was already claimed by quote " ++ quoteId.value
  | .quoteAlreadyPaid => "quote already has a different payment claim"
  | .invalidValue => "invalid observed payment value"

inductive ObservationOutcome where
  | claimed (quoteId : QuoteReference) (claim : DepositClaim)
  | alreadyClaimed (quoteId : QuoteReference) (claim : DepositClaim)
  | rejected (rejection : DepositRejection)
  deriving DecidableEq

/-- The claim that a payment makes. -/
def ObservedPayment.claim (payment : ObservedPayment) : DepositClaim :=
  { operationId := payment.operationId
    transactionHash := payment.transactionHash
    ledgerSequence := payment.ledgerSequence
    ledgerClosedAt := payment.ledgerClosedAt }

/-- `MintQuoteRecord::new`: an unpaid, locked mint quote. -/
def MintQuoteRecord.new (quoteId : QuoteReference) (amount : UsdcMinorUnits) (expiresAt : UInt64)
    (correlationMemo lockedPubkey : String) : Except StoreError MintQuoteRecord := do
  ensure (expiresAt ≠ 0) (StoreError.invalidQuote "expiry must be nonzero")
  ensure (isBlank correlationMemo = false)
    (StoreError.invalidQuote "correlation memo cannot be empty")
  ensure (isBlank lockedPubkey = false) (StoreError.invalidQuote "NUT-20 pubkey cannot be empty")
  .ok { quoteId, amount, expiresAt, correlationMemo, lockedPubkey, claim := none }

/-- `validate_payment`: the first condition that the payment fails, if any. -/
def validatePayment (quote : MintQuoteRecord) (profile : StellarProfile)
    (payment : ObservedPayment) : Option DepositRejection :=
  if payment.networkPassphrase ≠ profile.network.passphrase ∨
      payment.networkId ≠ profile.network.networkId then some .wrongNetwork
  else if payment.transactionSuccessful = false ∨ payment.ledgerSequence = 0 ∨
      payment.ledgerClosedAt = 0 then some .notFinal
  else if payment.destination ≠ profile.depositDestination then some .wrongDestination
  else if payment.assetCode ≠ profile.asset.code then some .wrongAssetCode
  else if payment.assetIssuer ≠ profile.asset.issuer then some .wrongAssetIssuer
  else match quote.amount.matchesStellarDecimal payment.amount with
    | .error _ => some .invalidValue
    | .ok false => some .wrongAmount
    | .ok true => if quote.expiresAt < payment.ledgerClosedAt then some .expired else none

/-- The order of the keys in the maps of the journal. -/
def QuoteReference.Precedes (q₁ q₂ : QuoteReference) : Prop :=
  q₁.value ≤ q₂.value

namespace QuoteReference

instance : DecidableRel Precedes := fun q₁ q₂ =>
  inferInstanceAs (Decidable (q₁.value ≤ q₂.value))

instance : IsTrans QuoteReference Precedes where
  trans _ _ _ h₁₂ h₂₃ := le_trans h₁₂ h₂₃

instance : Std.Antisymm Precedes where
  antisymm q₁ q₂ h₁₂ h₂₁ := by
    have hvalue := le_antisymm h₁₂ h₂₁
    cases q₁
    cases q₂
    cases hvalue
    rfl

instance : Std.Total Precedes where
  total q₁ q₂ := le_total q₁.value q₂.value

end QuoteReference

namespace PersistentState

def mintQuote (state : PersistentState) (quoteId : QuoteReference) : Option MintQuoteRecord :=
  state.mintQuotes.lookup quoteId

/-- `mint_quotes.values()`, in the order of the keys. -/
def mintQuoteValues (state : PersistentState) : List MintQuoteRecord :=
  (state.mintQuotes.keys.sort QuoteReference.Precedes).filterMap (state.mintQuotes.lookup ·)

/-- `insert_mint_quote`: idempotent, and refused for a memo that another quote has. -/
def insertMintQuote (quote : MintQuoteRecord) (state : PersistentState) :
    Except StoreError PersistentState := do
  ensure (∀ existing ∈ state.mintQuoteValues,
      ¬(existing.quoteId ≠ quote.quoteId ∧ existing.correlationMemo = quote.correlationMemo))
    StoreError.duplicateCorrelation
  match state.mintQuotes.lookup quote.quoteId with
  | some existing =>
      if existing = quote then .ok state else .error (.quoteConflict quote.quoteId)
  | none => .ok { state with mintQuotes := state.mintQuotes.insert quote.quoteId quote }

/-- `outcome_for_stale_payment`: a payment behind the cursor credits nothing any more. -/
def outcomeForStalePayment (state : PersistentState) (payment : ObservedPayment) :
    ObservationOutcome :=
  match state.claimedOperations.lookup payment.operationId with
  | some quoteId =>
      match (state.mintQuote quoteId).bind (·.claim) with
      | some claim =>
          if claim.transactionHash = payment.transactionHash then .alreadyClaimed quoteId claim
          else .rejected .staleCursor
      | none => .rejected .staleCursor
  | none => .rejected .staleCursor

/-- The quote that a payment is to credit, or the outcome with which `evaluate_payment` returns
before it writes anything. -/
def payableQuote (profile : StellarProfile) (payment : ObservedPayment) (state : PersistentState) :
    Except ObservationOutcome (QuoteReference × MintQuoteRecord) := do
  let memo ← orFail payment.memo (.rejected .unknownCorrelation)
  ensure (payment.memoType = some "MEMO_HASH" ∨ payment.memoType = some "hash")
    (ObservationOutcome.rejected .unknownCorrelation)
  let correlated ← orFail (state.mintQuoteValues.find? (·.correlationMemo = memo))
    (.rejected .unknownCorrelation)
  let quoteId := correlated.quoteId
  match (state.mintQuote quoteId).bind (·.claim) with
  | some claim =>
      if claim.operationId = payment.operationId ∧ claim.transactionHash = payment.transactionHash
      then .error (.alreadyClaimed quoteId claim) else .error (.rejected .quoteAlreadyPaid)
  | none => do
      let quote ← orFail (state.mintQuote quoteId) (.rejected .invalidValue)
      match validatePayment quote profile payment with
      | some rejection => .error (.rejected rejection)
      | none =>
          match state.claimedOperations.lookup payment.operationId,
              state.claimedTransactions.lookup payment.transactionHash with
          | some existing, _ => .error (.rejected (.replayedOperation existing))
          | none, some existing => .error (.rejected (.replayedTransaction existing))
          | none, none => .ok (quoteId, quote)

/-- The claim of a payment, written on the quote and in both maps. -/
def recordClaim (payment : ObservedPayment) (quoteId : QuoteReference) (quote : MintQuoteRecord)
    (state : PersistentState) : PersistentState :=
  { state with
    mintQuotes := state.mintQuotes.insert quoteId { quote with claim := some payment.claim }
    claimedOperations := state.claimedOperations.insert payment.operationId quoteId
    claimedTransactions := state.claimedTransactions.insert payment.transactionHash quoteId }

/-- `evaluate_payment`. -/
def evaluatePayment (profile : StellarProfile) (payment : ObservedPayment)
    (state : PersistentState) : ObservationOutcome × PersistentState :=
  match state.payableQuote profile payment with
  | .ok (quoteId, quote) =>
      (.claimed quoteId payment.claim, state.recordClaim payment quoteId quote)
  | .error outcome => (outcome, state)

/-- The durable cursor has reached the given one. -/
def Covers (state : PersistentState) (cursor : LedgerCursor) : Prop :=
  ∃ current, state.pagingCursor = some current ∧ cursor.value ≤ current.value

instance (state : PersistentState) (cursor : LedgerCursor) : Decidable (state.Covers cursor) :=
  match h : state.pagingCursor with
  | none => .isFalse (by simp [Covers, h])
  | some current => decidable_of_iff (cursor.value ≤ current.value) (by simp [Covers, h])

/-- `observe_payment`: a payment ahead of the cursor is evaluated and moves the cursor. -/
def observePayment (profile : StellarProfile) (payment : ObservedPayment)
    (state : PersistentState) : ObservationOutcome × PersistentState :=
  if state.Covers payment.pagingCursor then (state.outcomeForStalePayment payment, state)
  else
    let (outcome, next) := state.evaluatePayment profile payment
    (outcome, { next with pagingCursor := some payment.pagingCursor })

/-- `advance_cursor`, which never moves the cursor backward. -/
def advanceCursor (cursor : LedgerCursor) (state : PersistentState) : PersistentState :=
  if state.Covers cursor then state else { state with pagingCursor := some cursor }

/-! ### What an update can do -/

variable {state state' : PersistentState} {quoteId : QuoteReference} {quote : MintQuoteRecord}
variable {profile : StellarProfile} {payment : ObservedPayment} {cursor : LedgerCursor}

theorem mem_mintQuoteValues : quote ∈ state.mintQuoteValues ↔
    ∃ quoteId, state.mintQuote quoteId = some quote := by
  simp only [mintQuoteValues, List.mem_filterMap, Finset.mem_sort, Finmap.mem_keys]
  constructor
  · intro h
    obtain ⟨quoteId, -, hlookup⟩ := h
    exact ⟨quoteId, hlookup⟩
  · intro h
    obtain ⟨quoteId, hlookup⟩ := h
    exact ⟨quoteId, Finmap.mem_of_lookup_eq_some hlookup, hlookup⟩

theorem insertMintQuote_ok (h : insertMintQuote quote state = .ok state') :
    state' = state ∨ state.mintQuote quote.quoteId = none ∧
      (∀ quoteId existing, state.mintQuote quoteId = some existing →
        existing.quoteId ≠ quote.quoteId → existing.correlationMemo ≠ quote.correlationMemo) ∧
      state' = { state with mintQuotes := state.mintQuotes.insert quote.quoteId quote } := by
  simp only [insertMintQuote, bind_eq_ok, ensure_eq_ok, exists_unit] at h
  obtain ⟨hmemo, hinsert⟩ := h
  split at hinsert
  · simp only [ite_else_error_eq_ok] at hinsert
    exact .inl (Except.ok.inj hinsert.2).symm
  · case h_2 hnone =>
      refine .inr ⟨hnone, ?_, (Except.ok.inj hinsert).symm⟩
      intro quoteId existing hexisting hne hsame
      exact hmemo existing (mem_mintQuoteValues.mpr ⟨quoteId, hexisting⟩) ⟨hne, hsame⟩

/-- The quote carries the claim. -/
def Claimed (state : PersistentState) (quoteId : QuoteReference) (claim : DepositClaim) : Prop :=
  ∃ quote, state.mintQuote quoteId = some quote ∧ quote.claim = some claim

/-- What a payment has to be for a quote to credit it. -/
structure Payable (quote : MintQuoteRecord) (profile : StellarProfile) (payment : ObservedPayment) :
    Prop where
  network : payment.networkPassphrase = profile.network.passphrase ∧
    payment.networkId = profile.network.networkId
  final : payment.transactionSuccessful = true ∧ payment.ledgerSequence ≠ 0 ∧
    payment.ledgerClosedAt ≠ 0
  destination : payment.destination = profile.depositDestination
  assetCode : payment.assetCode = profile.asset.code
  assetIssuer : payment.assetIssuer = profile.asset.issuer
  amount : ∃ paid, StellarAmount.parse payment.amount = .ok paid ∧
    paid.stroops.toNat = quote.amount.value.toNat * 100000
  inTime : payment.ledgerClosedAt ≤ quote.expiresAt
  memo : payment.memo = some quote.correlationMemo
  memoType : payment.memoType = some "MEMO_HASH" ∨ payment.memoType = some "hash"

theorem payable_of_validatePayment {memo : String}
    (h : validatePayment quote profile payment = none) (hmemo : payment.memo = some memo)
    (hcorrelated : quote.correlationMemo = memo)
    (hkind : payment.memoType = some "MEMO_HASH" ∨ payment.memoType = some "hash") :
    Payable quote profile payment := by
  unfold validatePayment at h
  split_ifs at h with hnetwork hfinal hdestination hcode hissuer hexpired
  -- the amount is checked before the expiry
  · split at h <;> cases h
  split at h
  · cases h
  · cases h
  · case _ hamount =>
      obtain ⟨hsuccessful, hclosed⟩ := not_or.mp hfinal
      exact
        { network := ⟨Classical.not_not.mp (not_or.mp hnetwork).1,
            Classical.not_not.mp (not_or.mp hnetwork).2⟩
          final := ⟨by simpa using hsuccessful, (not_or.mp hclosed).1, (not_or.mp hclosed).2⟩
          destination := Classical.not_not.mp hdestination
          assetCode := Classical.not_not.mp hcode
          assetIssuer := Classical.not_not.mp hissuer
          amount := UsdcMinorUnits.matchesStellarDecimal_true hamount
          inTime := UInt64.not_lt.mp hexpired
          memo := hmemo.trans (congrArg some hcorrelated.symm)
          memoType := hkind }

/-- A quote is credited only while it has no claim, with a payment that is payable to it and whose
operation and transaction have not been claimed. The records are filed under their own ids. -/
theorem payableQuote_ok
    (hkeyed : ∀ id q, state.mintQuote id = some q → q.quoteId = id)
    (h : state.payableQuote profile payment = .ok (quoteId, quote)) :
    state.mintQuote quoteId = some quote ∧ quote.claim = none ∧ Payable quote profile payment ∧
      state.claimedOperations.lookup payment.operationId = none ∧
      state.claimedTransactions.lookup payment.transactionHash = none := by
  simp only [payableQuote, bind_eq_ok, orFail_eq_ok, ensure_eq_ok, exists_unit] at h
  obtain ⟨memo, hmemo, hkind, correlated, hfind, h⟩ := h
  split at h
  · split_ifs at h
  · case h_2 hunclaimed =>
      simp only [bind_eq_ok, orFail_eq_ok] at h
      obtain ⟨found, hfound, h⟩ := h
      split at h
      · cases h
      · case h_2 hvalid =>
          split at h
          · cases h
          · cases h
          · case h_3 hoperation htransaction =>
              simp only [Except.ok.injEq, Prod.mk.injEq] at h
              obtain ⟨rfl, rfl⟩ := h
              obtain ⟨id, hid⟩ := mem_mintQuoteValues.mp (List.mem_of_find?_eq_some hfind)
              have hsame : found = correlated := by
                rw [hkeyed id correlated hid, hid] at hfound
                exact (Option.some.inj hfound).symm
              have hcorrelated : correlated.correlationMemo = memo := by
                simpa using List.find?_some hfind
              refine ⟨hfound, ?_, ?_, hoperation, htransaction⟩
              · rw [hfound] at hunclaimed
                exact hunclaimed
              · exact payable_of_validatePayment hvalid hmemo (hsame ▸ hcorrelated) hkind

/-- An observation leaves the state alone, moves the cursor past the payment, or moves it and records
the claim of the payment on the quote that it credits. -/
theorem observePayment_cases (profile : StellarProfile) (payment : ObservedPayment)
    (state : PersistentState) :
    state.Covers payment.pagingCursor ∧ (state.observePayment profile payment).2 = state ∨
    ¬state.Covers payment.pagingCursor ∧
      (state.observePayment profile payment).2 =
        { (state.evaluatePayment profile payment).2 with
          pagingCursor := some payment.pagingCursor } := by
  by_cases hcovers : state.Covers payment.pagingCursor
  · exact .inl ⟨hcovers, by simp [observePayment, hcovers]⟩
  · exact .inr ⟨hcovers, by simp [observePayment, hcovers]⟩

theorem evaluatePayment_cases (profile : StellarProfile) (payment : ObservedPayment)
    (state : PersistentState) :
    (state.evaluatePayment profile payment).2 = state ∨
      ∃ quoteId quote, state.payableQuote profile payment = .ok (quoteId, quote) ∧
        (state.evaluatePayment profile payment).2 = state.recordClaim payment quoteId quote := by
  cases hpayable : state.payableQuote profile payment with
  | error outcome => exact .inl (by simp [evaluatePayment, hpayable])
  | ok found =>
      obtain ⟨quoteId, quote⟩ := found
      exact .inr ⟨quoteId, quote, rfl, by simp [evaluatePayment, hpayable]⟩

end PersistentState

end CashMesh.StellarSettlement
