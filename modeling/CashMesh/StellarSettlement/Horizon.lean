import CashMesh.StellarSettlement.Decimals
import CashMesh.StellarSettlement.Scanner
/-!
# The Horizon adapter

The deposit source of `horizon.rs`. A page of Horizon's payment records becomes a batch for the
scanner: records that are no payments of an issued asset are passed over, every other one is read into
an observed payment, and one that cannot be read fails the whole page.

A paging token is the position of its record. What the adapter makes of a page of the ledger is then
the batch that the scanner's own source would have given, provided every record on it can be read.
-/

namespace CashMesh.StellarSettlement

open CashMesh.Lib

/-! ### Constructors of `types.rs` -/

/-- `PaymentOperationId::new`. -/
def PaymentOperationId.new (raw : String) : Except ValueError PaymentOperationId := do
  let value ← nonempty raw "payment operation id"
  .ok { value }

/-- `LedgerCursor::new`. A text whose bytes are all ASCII digits is one whose characters are. -/
def LedgerCursor.new (value : String) : Except ValueError LedgerCursor := do
  ensure (value.toList ≠ [] ∧ value.toList.all isAsciiDigit = true) ValueError.invalidLedgerCursor
  if hfits : digitsValue value.toList < 2 ^ 128 then .ok ⟨⟨digitsValue value.toList, hfits⟩⟩
  else .error .invalidLedgerCursor

/-- The text that `Display` writes of a cursor. -/
def LedgerCursor.toText (cursor : LedgerCursor) : String :=
  .ofList (Nat.toDigits 10 cursor.value)

@[simp] theorem LedgerCursor.new_toText (cursor : LedgerCursor) :
    LedgerCursor.new cursor.toText = .ok cursor := by
  have hdigits : (Nat.toDigits 10 cursor.value).all isAsciiDigit = true :=
    List.all_eq_true.mpr (toDigits_digits cursor.value)
  have hnonempty : Nat.toDigits 10 cursor.value ≠ [] := Nat.toDigits_ne_nil
  have hguard : ensure (Nat.toDigits 10 cursor.value ≠ [] ∧
      (Nat.toDigits 10 cursor.value).all isAsciiDigit = true) ValueError.invalidLedgerCursor =
        .ok () := ensure_eq_ok.mpr ⟨hnonempty, hdigits⟩
  simp only [LedgerCursor.new, LedgerCursor.toText, String.toList_ofList, hguard,
    digitsValue_toDigits, dif_pos cursor.value.isLt]
  rfl

/-! ### Horizon's records -/

/-- The transaction that a payment record is joined with. -/
structure HorizonTransaction where
  id : String
  hash : String
  successful : Bool
  ledger : Int32
  createdAt : Int64
  memoType : String
  memo : Option String
  memoBytes : Option String

/-- What every record of the payments endpoint has. -/
structure HorizonOperationBase where
  id : String
  pagingToken : String
  transactionHash : String
  transactionSuccessful : Bool
  transaction : Option HorizonTransaction

structure HorizonAsset where
  assetType : String
  assetCode : Option String
  assetIssuer : Option String

/-- A direct payment. -/
structure HorizonPaymentOperation where
  base : HorizonOperationBase
  asset : HorizonAsset
  toAddress : String
  toMuxed : Option String
  amount : String

/-- A record of the payments endpoint: a direct payment, or an operation of another kind. -/
inductive HorizonPayment where
  | payment (operation : HorizonPaymentOperation)
  | other (base : HorizonOperationBase)

def HorizonPayment.base : HorizonPayment → HorizonOperationBase
  | .payment operation => operation.base
  | .other base => base

/-! ### The adapter -/

inductive HorizonAdapterError where
  | wrongNetwork
  | missingJoinedTransaction
  | transactionHashMismatch
  | missingAsset
  | invalidLedgerSequence
  | invalidCloseTime
  | horizon
  | value (error : ValueError)
  deriving DecidableEq

/-- The text of an adapter error. -/
def HorizonAdapterError.toText : HorizonAdapterError → String
  | .wrongNetwork => "Horizon endpoint reports a different network passphrase"
  | .missingJoinedTransaction => "Horizon payment response omitted the joined transaction"
  | .transactionHashMismatch => "Horizon operation and joined transaction hashes do not match"
  | .missingAsset => "Horizon payment response omitted credit asset fields"
  | .invalidLedgerSequence => "Horizon returned an invalid ledger sequence"
  | .invalidCloseTime => "Horizon returned an invalid ledger close time"
  | .horizon => "Horizon request failed"
  | .value error => error.toText

/-- `u32::try_from` of a ledger number. -/
def u32TryFrom (n : Int32) : Option UInt32 :=
  if 0 ≤ n then some n.toUInt32 else none

/-- `u64::try_from` of a time stamp. -/
def u64TryFrom (n : Int64) : Option UInt64 :=
  if 0 ≤ n then some n.toUInt64 else none

variable (crates : Crates) (profile : StellarProfile)

/-- What `normalize_horizon_payment` makes of a direct payment of an issued asset. -/
def readHorizonPayment (operation : HorizonPaymentOperation) :
    Except HorizonAdapterError ObservedPayment := do
  let transaction ← orFail operation.base.transaction HorizonAdapterError.missingJoinedTransaction
  ensure
    (¬(operation.base.transactionHash ≠ transaction.hash ∨
      operation.base.transactionHash ≠ transaction.id))
    HorizonAdapterError.transactionHashMismatch
  let ledgerSequence ← orFail (u32TryFrom transaction.ledger)
    HorizonAdapterError.invalidLedgerSequence
  let ledgerClosedAt ← orFail (u64TryFrom transaction.createdAt)
    HorizonAdapterError.invalidCloseTime
  let assetCode ← orFail operation.asset.assetCode HorizonAdapterError.missingAsset
  let assetIssuer ← orFail operation.asset.assetIssuer HorizonAdapterError.missingAsset
  let operationId ← (PaymentOperationId.new operation.base.id).mapError HorizonAdapterError.value
  let pagingCursor ← (LedgerCursor.new operation.base.pagingToken).mapError
    HorizonAdapterError.value
  let transactionHash ← (TransactionHash.new operation.base.transactionHash).mapError
    HorizonAdapterError.value
  let destination ← (StellarAddress.new crates (operation.toMuxed.getD operation.toAddress)).mapError
    HorizonAdapterError.value
  let assetIssuer ← (StellarAddress.newAccount crates assetIssuer).mapError
    HorizonAdapterError.value
  .ok {
    networkPassphrase := profile.network.passphrase
    networkId := profile.network.networkId
    operationId
    pagingCursor
    transactionHash
    ledgerSequence
    transactionSuccessful := operation.base.transactionSuccessful && transaction.successful
    ledgerClosedAt
    destination
    assetCode
    assetIssuer
    amount := operation.amount
    memo := transaction.memo.or transaction.memoBytes
    memoType := some transaction.memoType }

/-- `normalize_horizon_payment`. -/
def normalizeHorizonPayment : HorizonPayment → Except HorizonAdapterError (Option ObservedPayment)
  | .other _ => .ok none
  | .payment operation =>
      if operation.asset.assetType = "credit_alphanum4" ∨
          operation.asset.assetType = "credit_alphanum12" then
        (readHorizonPayment crates profile operation).map some
      else .ok none

/-- `verify_root`, against the passphrase that the endpoint reports of itself. -/
def verifyRoot (networkPassphrase : String) : Except HorizonAdapterError Unit :=
  ensure
    (¬(networkPassphrase ≠ profile.network.passphrase ∨
      networkIdForPassphrase crates networkPassphrase ≠ profile.network.networkId))
    HorizonAdapterError.wrongNetwork

/-- The records that are passed over, dropped from the page. -/
def normalizePage (page : List HorizonPayment) : Except HorizonAdapterError (List ObservedPayment) := do
  let payments ← page.mapM (normalizeHorizonPayment crates profile)
  .ok (payments.filterMap id)

/-- The cursor of the last record, also when that record is passed over. -/
def nextCursor (page : List HorizonPayment) : Except HorizonAdapterError (Option LedgerCursor) :=
  match page.getLast? with
  | none => .ok none
  | some record =>
      ((LedgerCursor.new record.base.pagingToken).map some).mapError HorizonAdapterError.value

/-- `payments_after`, for the passphrase and the page that the endpoint answers with. -/
def horizonPaymentsAfter (networkPassphrase : String) (page : List HorizonPayment) :
    Except HorizonAdapterError DepositBatch := do
  verifyRoot crates profile networkPassphrase
  let cursor ← nextCursor page
  let payments ← normalizePage crates profile page
  .ok { payments, cursor }

/-! ### The ledger as a source -/

/-- A record of Horizon's ledger, whose paging token is its position. -/
structure LedgerRecord where
  record : HorizonPayment
  cursor : LedgerCursor
  paged : LedgerCursor.new record.base.pagingToken = .ok cursor

/-- A record that the adapter reads or passes over. -/
def LedgerRecord.Readable (r : LedgerRecord) : Prop :=
  ∃ payment, normalizeHorizonPayment crates profile r.record = .ok payment

/-- The payment of a record, if the record is one and can be read. -/
def LedgerRecord.payment (r : LedgerRecord) : Option ObservedPayment :=
  match normalizeHorizonPayment crates profile r.record with
  | .ok payment => payment
  | .error _ => none

/-- What a reading says of the record that was read. -/
structure ReadAs (operation : HorizonPaymentOperation) (payment : ObservedPayment) : Prop where
  network : payment.networkPassphrase = profile.network.passphrase ∧
    payment.networkId = profile.network.networkId
  operationId : payment.operationId.value = operation.base.id
  cursor : LedgerCursor.new operation.base.pagingToken = .ok payment.pagingCursor
  transactionHash : TransactionHash.new operation.base.transactionHash = .ok payment.transactionHash
  destination : payment.destination.value = operation.toMuxed.getD operation.toAddress
  assetCode : operation.asset.assetCode = some payment.assetCode
  assetIssuer : operation.asset.assetIssuer = some payment.assetIssuer.value
  amount : payment.amount = operation.amount
  transaction : ∃ transaction, operation.base.transaction = some transaction ∧
    transaction.hash = operation.base.transactionHash ∧
    transaction.id = operation.base.transactionHash ∧
    u32TryFrom transaction.ledger = some payment.ledgerSequence ∧
    u64TryFrom transaction.createdAt = some payment.ledgerClosedAt ∧
    payment.transactionSuccessful =
      (operation.base.transactionSuccessful && transaction.successful) ∧
    payment.memo = transaction.memo.or transaction.memoBytes ∧
    payment.memoType = some transaction.memoType

variable {crates profile}

theorem PaymentOperationId.new_eq_ok {raw : String} {id : PaymentOperationId} :
    PaymentOperationId.new raw = .ok id ↔ isBlank raw = false ∧ id = ⟨raw⟩ := by
  simp only [PaymentOperationId.new, bind_eq_ok, nonempty_eq_ok, Except.ok.injEq, and_assoc,
    exists_and_left, exists_eq_left]
  rw [eq_comm (b := id)]

theorem readHorizonPayment_ok {operation : HorizonPaymentOperation} {payment : ObservedPayment}
    (h : readHorizonPayment crates profile operation = .ok payment) :
    ReadAs profile operation payment := by
  simp only [readHorizonPayment, bind_eq_ok, orFail_eq_ok, ensure_eq_ok, exists_unit,
    mapError_eq_ok, PaymentOperationId.new_eq_ok, StellarAddress.new_eq_ok,
    StellarAddress.newAccount_eq_ok, Except.ok.injEq] at h
  obtain ⟨transaction, htransaction, hhashes, ledger, hledger, closed, hclosed, code, hcode,
    issuer, hissuer, operationId, ⟨-, rfl⟩, cursor, hcursor, hash, hhash, destination,
    ⟨-, rfl, -⟩, account, ⟨-, rfl, -⟩, rfl⟩ := h
  obtain ⟨hhash₁, hhash₂⟩ := not_or.mp hhashes
  exact
    { network := ⟨rfl, rfl⟩
      operationId := rfl
      cursor := hcursor
      transactionHash := hhash
      destination := rfl
      assetCode := hcode
      assetIssuer := hissuer
      amount := rfl
      transaction := ⟨transaction, htransaction, (Classical.not_not.mp hhash₁).symm,
        (Classical.not_not.mp hhash₂).symm, hledger, hclosed, rfl, rfl, rfl⟩ }

theorem normalizeHorizonPayment_some {record : HorizonPayment} {payment : ObservedPayment}
    (h : normalizeHorizonPayment crates profile record = .ok (some payment)) :
    ∃ operation, record = .payment operation ∧ ReadAs profile operation payment := by
  cases record with
  | other base => cases h
  | payment operation =>
      simp only [normalizeHorizonPayment] at h
      split_ifs at h
      · obtain ⟨read, hread, hsome⟩ := map_eq_ok.mp h
        obtain rfl := Option.some.inj hsome
        exact ⟨operation, rfl, readHorizonPayment_ok hread⟩
      · cases Except.ok.inj h

theorem LedgerRecord.payment_eq_some {r : LedgerRecord} {payment : ObservedPayment} :
    r.payment crates profile = some payment ↔
      normalizeHorizonPayment crates profile r.record = .ok (some payment) := by
  unfold LedgerRecord.payment
  split
  · case h_1 read hread => simp [hread]
  · case h_2 error hread => simp [hread]

/-- A record of the ledger as the scanner's source has it. -/
def LedgerRecord.toSource (crates : Crates) (profile : StellarProfile) (r : LedgerRecord) :
    SourceRecord where
  cursor := r.cursor
  payment := r.payment crates profile
  paged := by
    intro payment hpayment
    obtain ⟨operation, hrecord, hread⟩ :=
      normalizeHorizonPayment_some (LedgerRecord.payment_eq_some.mp hpayment)
    have hcursor : LedgerCursor.new r.record.base.pagingToken = .ok payment.pagingCursor := by
      rw [hrecord]
      exact hread.cursor
    rw [r.paged] at hcursor
    exact (Except.ok.inj hcursor).symm

/-- A page that is answered has no record that cannot be read. -/
theorem normalizePage_ok {page : List LedgerRecord} {payments : List ObservedPayment}
    (h : normalizePage crates profile (page.map LedgerRecord.record) = .ok payments) :
    (∀ r ∈ page, r.Readable crates profile) ∧
      payments = page.filterMap (LedgerRecord.payment crates profile) := by
  simp only [normalizePage, bind_eq_ok, Except.ok.injEq] at h
  obtain ⟨read, hread, rfl⟩ := h
  rw [mapM_eq_ok, List.forall₂_map_left_iff] at hread
  induction hread with
  | nil => exact ⟨fun r hr => (List.not_mem_nil hr).elim, rfl⟩
  | @cons r payment page read hr hrest ih =>
      obtain ⟨hreadable, hpayments⟩ := ih
      refine ⟨List.forall_mem_cons.mpr ⟨⟨payment, hr⟩, hreadable⟩, ?_⟩
      have hpayment : r.payment crates profile = payment := by
        simp only [LedgerRecord.payment, hr]
      rw [List.filterMap_cons, List.filterMap_cons, hpayment, hpayments]
      rfl

theorem nextCursor_ok {page : List LedgerRecord} {cursor : Option LedgerCursor}
    (h : nextCursor (page.map LedgerRecord.record) = .ok cursor) :
    cursor = page.getLast?.map LedgerRecord.cursor := by
  rw [nextCursor, List.getLast?_map] at h
  cases hlast : page.getLast? with
  | none =>
      rw [hlast] at h
      exact (Except.ok.inj h).symm
  | some r =>
      simp only [hlast, Option.map_some, r.paged] at h
      exact (Except.ok.inj h).symm

/-- The batch of a page of the ledger is that of the scanner's own source, and every record on the
page can be read. -/
theorem horizonPaymentsAfter_ok {networkPassphrase : String} {page : List LedgerRecord}
    {batch : DepositBatch}
    (h : horizonPaymentsAfter crates profile networkPassphrase (page.map LedgerRecord.record) =
      .ok batch) :
    (∀ r ∈ page, r.Readable crates profile) ∧
      batch = DepositBatch.ofPage (page.map (LedgerRecord.toSource crates profile)) := by
  simp only [horizonPaymentsAfter, bind_eq_ok, exists_unit, Except.ok.injEq] at h
  obtain ⟨-, cursor, hcursor, payments, hpayments, rfl⟩ := h
  obtain ⟨hreadable, rfl⟩ := normalizePage_ok hpayments
  obtain rfl := nextCursor_ok hcursor
  refine ⟨hreadable, ?_⟩
  simp only [DepositBatch.ofPage, List.filterMap_map, List.getLast?_map, Option.map_map]
  rfl

end CashMesh.StellarSettlement
