import CashMesh.StellarSettlement.Machine
import Mathlib.Data.Finmap
/-!
# The durable store

The state journal of `store.rs`. An update runs on a copy of the state and replaces it only when it
succeeded, so a failed update is one that did not happen.
-/

namespace CashMesh.StellarSettlement

open CashMesh.Lib

structure PaymentOperationId where
  value : String
  deriving DecidableEq

/-- A Horizon paging token, a `u128`. -/
structure LedgerCursor where
  value : Fin (2 ^ 128)
  deriving DecidableEq

structure DepositClaim where
  operationId : PaymentOperationId
  transactionHash : TransactionHash
  ledgerSequence : UInt32
  ledgerClosedAt : UInt64
  deriving DecidableEq

structure MintQuoteRecord where
  quoteId : QuoteReference
  amount : UsdcMinorUnits
  expiresAt : UInt64
  correlationMemo : String
  lockedPubkey : String
  claim : Option DepositClaim
  deriving DecidableEq

structure MeltQuoteRecord where
  quoteId : QuoteReference
  payment : Sep7Payment
  settlement : Settlement
  deriving DecidableEq

inductive StoreError where
  | io (operation : String)
  | unsupportedStateVersion (version : UInt32)
  | poisoned
  | quoteConflict (quoteId : QuoteReference)
  | quoteNotFound (quoteId : QuoteReference)
  | duplicateCorrelation
  | invalidQuote (reason : String)
  | json (error : String)
  | settlement (error : SettlementError)
  | invalidValue (error : ValueError)

/-- The text of a store error. -/
def StoreError.toText : StoreError → String
  | .io operation => "state journal I/O failed while attempting to " ++ operation
  | .unsupportedStateVersion version =>
      "state journal contains unsupported version " ++ toString version.toNat
  | .poisoned => "state store mutex was poisoned"
  | .quoteConflict quoteId =>
      "quote " ++ quoteId.value ++ " conflicts with an existing durable record"
  | .quoteNotFound quoteId => "quote " ++ quoteId.value ++ " was not found"
  | .duplicateCorrelation => "mint quote correlation memo is already assigned"
  | .invalidQuote reason => "invalid quote: " ++ reason
  | .json error => error
  | .settlement error => error.toText
  | .invalidValue error => error.toText

/-- `MeltQuoteRecord::new`: an unpaid settlement for a validated payment request. -/
def MeltQuoteRecord.new (quoteId : QuoteReference) (payment : Sep7Payment) :
    Except StoreError MeltQuoteRecord := do
  let id ← (SettlementId.new quoteId.value).mapError StoreError.settlement
  .ok { quoteId, payment, settlement := Settlement.new id }

/-- The whole durable state, one journal for both directions of payment. -/
structure PersistentState where
  version : UInt32
  mintQuotes : Finmap fun _ : QuoteReference => MintQuoteRecord
  meltQuotes : Finmap fun _ : QuoteReference => MeltQuoteRecord
  claimedOperations : Finmap fun _ : PaymentOperationId => QuoteReference
  claimedTransactions : Finmap fun _ : TransactionHash => QuoteReference
  pagingCursor : Option LedgerCursor

namespace PersistentState

/-- `PersistentState::default`, the state of a journal that does not exist yet. -/
def default : PersistentState :=
  { version := 1
    mintQuotes := ∅
    meltQuotes := ∅
    claimedOperations := ∅
    claimedTransactions := ∅
    pagingCursor := none }

def meltQuote (state : PersistentState) (quoteId : QuoteReference) : Option MeltQuoteRecord :=
  state.meltQuotes.lookup quoteId

/-- `insert_melt_quote`: idempotent by quote id and payment request. -/
def insertMeltQuote (quote : MeltQuoteRecord) (state : PersistentState) :
    Except StoreError PersistentState :=
  match state.meltQuotes.lookup quote.quoteId with
  | some existing =>
      if existing.payment = quote.payment then .ok state
      else .error (.quoteConflict quote.quoteId)
  | none => .ok { state with meltQuotes := state.meltQuotes.insert quote.quoteId quote }

/-- `update_settlement`: one transition of one settlement. -/
def updateSettlement (quoteId : QuoteReference)
    (operation : Settlement → Except SettlementError Settlement) (state : PersistentState) :
    Except StoreError PersistentState := do
  let quote ← orFail (state.meltQuotes.lookup quoteId) (.quoteNotFound quoteId)
  let settlement ← (operation quote.settlement).mapError StoreError.settlement
  .ok { state with meltQuotes := state.meltQuotes.insert quoteId { quote with settlement } }

/-! ### What an update can do -/

variable {state state' : PersistentState} {quoteId : QuoteReference}

theorem new_ok {payment : Sep7Payment} {quote : MeltQuoteRecord}
    (h : MeltQuoteRecord.new quoteId payment = .ok quote) :
    quote.quoteId = quoteId ∧ ∃ id, quote.settlement = Settlement.new id := by
  simp only [MeltQuoteRecord.new, bind_eq_ok, mapError_eq_ok] at h
  obtain ⟨id, -, hquote⟩ := h
  obtain rfl := Except.ok.inj hquote
  exact ⟨rfl, id, rfl⟩

theorem insertMeltQuote_ok {quote : MeltQuoteRecord} (h : insertMeltQuote quote state = .ok state') :
    state' = state ∨ state.meltQuote quote.quoteId = none ∧
      state'.meltQuotes = state.meltQuotes.insert quote.quoteId quote := by
  unfold insertMeltQuote at h
  split at h
  · simp only [ite_else_error_eq_ok] at h
    exact .inl (Except.ok.inj h.2).symm
  · case h_2 hnone =>
      obtain rfl := Except.ok.inj h
      exact .inr ⟨hnone, rfl⟩

theorem updateSettlement_ok {operation : Settlement → Except SettlementError Settlement}
    (h : updateSettlement quoteId operation state = .ok state') :
    ∃ quote settlement, state.meltQuote quoteId = some quote ∧
      operation quote.settlement = .ok settlement ∧
      state'.meltQuotes = state.meltQuotes.insert quoteId { quote with settlement } := by
  simp only [updateSettlement, bind_eq_ok, orFail_eq_ok, mapError_eq_ok] at h
  obtain ⟨quote, hquote, settlement, hoperation, hstate'⟩ := h
  obtain rfl := Except.ok.inj hstate'
  exact ⟨quote, settlement, hquote, hoperation, rfl⟩

end PersistentState

end CashMesh.StellarSettlement
