import CashMesh.Domain.Ledger
/-!
# Invoices of the domain package

An invoice is open until it is paid, expires or is cancelled. Each of the three operations reads the
whole invoice again before it looks at its time; an operation that throws leaves the invoice as it is.
-/

namespace CashMesh.Domain

open CashMesh.Lib
open CashMesh.Acquirer (maxSafeInteger identifierPattern)

/-! ### Invoices -/

structure InvoiceBaseV1 where
  amount : Number
  createdAt : Number
  expiresAt : Number
  id : String
  merchantId : String
  schemaVersion : Number
  unit : String
deriving DecidableEq

structure InvoicePaymentV1 where
  acceptedAt : Nat
  assetAccount : LedgerAccountV1
  feeAmount : Nat
  grossAmount : Number
  journalEntryId : String
  netAmount : Nat
  operatorId : String
  paymentId : String
  settlementMode : String
deriving DecidableEq

/-- The state, with the fields that only an invoice in that state has. -/
inductive InvoiceState where
  | open
  | paid (paidAt : Nat) (payment : InvoicePaymentV1)
  | expired (expiredAt : Nat)
  | cancelled (cancelledAt : Nat)
deriving DecidableEq

def InvoiceState.text : InvoiceState → String
  | .open => "open"
  | .paid _ _ => "paid"
  | .expired _ => "expired"
  | .cancelled _ => "cancelled"

structure InvoiceV1 where
  base : InvoiceBaseV1
  state : InvoiceState
deriving DecidableEq

structure CreateInvoiceInput where
  amount : Number
  createdAt : Number
  expiresAt : Number
  id : String
  merchantId : String
deriving DecidableEq

structure AcceptInvoicePaymentInput where
  acceptedAt : Number
  assetAccount : LedgerAccountV1
  effectiveAt : Number
  feeAmount : Number
  journalEntryId : String
  operatorId : String
  paymentId : String
  settlementMode : String
deriving DecidableEq

structure AcceptedInvoicePaymentV1 where
  invoice : InvoiceV1
  journalEntry : JournalEntryV1
deriving DecidableEq

/-! ### The operations -/

/-- What `validateInvoiceBase` has read: the amount that it returns and the times that it compared. -/
structure InvoiceReading where
  amount : Nat
  createdAt : Nat
  expiresAt : Nat
deriving DecidableEq

def validateInvoiceBase (input : CreateInvoiceInput) : Except DomainError InvoiceReading := do
  assertIdentifier input.id "invoice id"
  assertIdentifier input.merchantId "merchant id"
  let createdAt ← unixTimestamp input.createdAt
  let expiresAt ← unixTimestamp input.expiresAt
  let amount ← minorUnits input.amount
  ensure (amount ≠ 0) (.invoice .amountMustBePositive "Invoice amount must be positive.")
  ensure (createdAt < expiresAt) (.invoice .invalidExpiry "Invoice expiry must be after creation.")
  return ⟨amount, createdAt, expiresAt⟩

def InvoiceBaseV1.input (base : InvoiceBaseV1) : CreateInvoiceInput :=
  ⟨base.amount, base.createdAt, base.expiresAt, base.id, base.merchantId⟩

/-- `INVOICE_SCHEMA_VERSION` and `INVOICE_UNIT`. -/
def InvoiceBaseV1.Supported (base : InvoiceBaseV1) : Prop :=
  base.schemaVersion = .ofNat 1 ∧ base.unit = "usdc"

instance (base : InvoiceBaseV1) : Decidable base.Supported :=
  inferInstanceAs (Decidable (_ ∧ _))

def createInvoiceV1 (input : CreateInvoiceInput) : Except DomainError InvoiceV1 := do
  let reading ← validateInvoiceBase input
  return {
    base := {
      amount := .ofNat reading.amount
      createdAt := input.createdAt
      expiresAt := input.expiresAt
      id := input.id
      merchantId := input.merchantId
      schemaVersion := .ofNat 1
      unit := "usdc" }
    state := .open }

def requireOpen (invoice : InvoiceV1) (action : String) : Except DomainError InvoiceReading := do
  ensure invoice.base.Supported
    (.invoice .unsupportedSchema "Invoice schema version or accounting unit is unsupported.")
  ensure (invoice.state = .open)
    (.invoice .invalidTransition
      ("Cannot " ++ action ++ " while invoice is " ++ invoice.state.text ++ "."))
  validateInvoiceBase invoice.base.input

def copyInvoiceBase (base : InvoiceBaseV1) : InvoiceBaseV1 where
  amount := base.amount
  createdAt := base.createdAt
  expiresAt := base.expiresAt
  id := base.id
  merchantId := base.merchantId
  schemaVersion := .ofNat 1
  unit := "usdc"

/-- The command of the entry of a payment, with the amount and the names of the invoice. -/
def AcceptInvoicePaymentInput.journalInput (input : AcceptInvoicePaymentInput) (base : InvoiceBaseV1) :
    InvoicePaymentJournalInput where
  assetAccount := input.assetAccount
  effectiveAt := input.effectiveAt
  feeAmount := input.feeAmount
  grossAmount := base.amount
  invoiceId := base.id
  journalEntryId := input.journalEntryId
  merchantId := base.merchantId
  operatorId := input.operatorId
  paymentId := input.paymentId
  settlementMode := input.settlementMode

/-- `clonePaymentAsset`; an account that is neither of the two has no entry and does not come here. -/
def clonePaymentAsset : LedgerAccountV1 → LedgerAccountV1
  | .operatorEcash operatorId => .operatorEcash operatorId
  | .settlementAsset assetId => .settlementAsset assetId
  | account => account

def acceptInvoicePaymentV1 (invoice : InvoiceV1) (input : AcceptInvoicePaymentInput) :
    Except DomainError AcceptedInvoicePaymentV1 := do
  let reading ← requireOpen invoice "accept payment"
  let acceptedAt ← unixTimestamp input.acceptedAt
  let effectiveAt ← unixTimestamp input.effectiveAt
  ensure (reading.createdAt ≤ acceptedAt)
    (.invoice .paymentBeforeCreation "Payment cannot be accepted before invoice creation.")
  ensure (acceptedAt < reading.expiresAt)
    (.invoice .paymentAfterExpiry "Payment cannot be accepted at or after expiry.")
  ensure (acceptedAt ≤ effectiveAt)
    (.invoice .recordedBeforeAcceptance "Journal time cannot precede payment acceptance.")
  let journalEntry ← createInvoicePaymentJournalV1 (input.journalInput invoice.base)
  let feeAmount ← minorUnits input.feeAmount
  let netAmount ← minorUnits (.ofNat (reading.amount - feeAmount))
  let payment : InvoicePaymentV1 := {
    acceptedAt
    assetAccount := clonePaymentAsset input.assetAccount
    feeAmount
    grossAmount := invoice.base.amount
    journalEntryId := input.journalEntryId
    netAmount
    operatorId := input.operatorId
    paymentId := input.paymentId
    settlementMode := input.settlementMode }
  return ⟨⟨copyInvoiceBase invoice.base, .paid acceptedAt payment⟩, journalEntry⟩

def expireInvoiceV1 (invoice : InvoiceV1) (time : Number) : Except DomainError InvoiceV1 := do
  let reading ← requireOpen invoice "expire"
  let expiredAt ← unixTimestamp time
  ensure (reading.expiresAt ≤ expiredAt)
    (.invoice .invalidExpiry "Invoice cannot expire before its expiry time.")
  return ⟨copyInvoiceBase invoice.base, .expired expiredAt⟩

def cancelInvoiceV1 (invoice : InvoiceV1) (time : Number) : Except DomainError InvoiceV1 := do
  let reading ← requireOpen invoice "cancel"
  let cancelledAt ← unixTimestamp time
  ensure (reading.createdAt ≤ cancelledAt ∧ cancelledAt < reading.expiresAt)
    (.invoice .invalidExpiry "Cancellation must occur during the open invoice window.")
  return ⟨copyInvoiceBase invoice.base, .cancelled cancelledAt⟩

/-! ### Runs -/

/-- An operation on an invoice. -/
inductive InvoiceOperation where
  | accept (input : AcceptInvoicePaymentInput)
  | expire (time : Number)
  | cancel (time : Number)

def InvoiceOperation.apply (invoice : InvoiceV1) : InvoiceOperation → Except DomainError InvoiceV1
  | accept input => do
      let accepted ← acceptInvoicePaymentV1 invoice input
      return accepted.invoice
  | expire time => expireInvoiceV1 invoice time
  | cancel time => cancelInvoiceV1 invoice time

/-- The invoice after an operation, the same one when the operation throws. -/
def InvoiceV1.next (invoice : InvoiceV1) (operation : InvoiceOperation) : InvoiceV1 :=
  match operation.apply invoice with
  | .ok changed => changed
  | .error _ => invoice

/-- The invoice after a run of operations. -/
def InvoiceV1.run (invoice : InvoiceV1) (operations : List InvoiceOperation) : InvoiceV1 :=
  operations.foldl InvoiceV1.next invoice

/-! ### Single operations -/

variable {invoice : InvoiceV1} {reading : InvoiceReading}

theorem unixTimestamp_eq_ok {value : Number} {n : Nat} :
    unixTimestamp value = .ok n ↔ value = .ofNat n ∧ n ≤ maxSafeInteger :=
  orFail_eq_ok.trans Number.natural?_eq_some

theorem minorUnits_eq_ok {value : Number} {n : Nat} :
    minorUnits value = .ok n ↔ value = .ofNat n ∧ n ≤ maxSafeInteger :=
  orFail_eq_ok.trans Number.natural?_eq_some

theorem Number.ofNat_inj {m n : Nat} : Number.ofNat m = Number.ofNat n ↔ m = n := by
  simp [Number.ofNat]

/-- An invoice that the operations read: with the supported schema and a base that is valid. -/
structure ValidInvoice (invoice : InvoiceV1) (reading : InvoiceReading) : Prop where
  supported : invoice.base.Supported
  read : validateInvoiceBase invoice.base.input = .ok reading

theorem requireOpen_eq_ok {action : String} :
    requireOpen invoice action = .ok reading ↔
      invoice.state = .open ∧ ValidInvoice invoice reading := by
  simp only [requireOpen, bind_eq_ok, ensure_eq_ok, exists_unit]
  constructor
  · intro h
    obtain ⟨hsupported, hopen, hread⟩ := h
    exact ⟨hopen, hsupported, hread⟩
  · intro h
    obtain ⟨hopen, hsupported, hread⟩ := h
    exact ⟨hsupported, hopen, hread⟩

theorem ValidInvoice.base (h : ValidInvoice invoice reading) :
    invoice.base.amount = .ofNat reading.amount ∧ invoice.base.createdAt = .ofNat reading.createdAt ∧
      invoice.base.expiresAt = .ofNat reading.expiresAt ∧ reading.amount ≤ maxSafeInteger ∧
      0 < reading.amount ∧ reading.createdAt < reading.expiresAt ∧
      identifierPattern invoice.base.id = true ∧ identifierPattern invoice.base.merchantId = true := by
  have hread := h.read
  simp only [validateInvoiceBase, InvoiceBaseV1.input, bind_eq_ok, assertIdentifier_eq_ok, exists_unit,
    unixTimestamp_eq_ok, minorUnits_eq_ok, ensure_eq_ok, pure_eq_ok] at hread
  obtain ⟨hid, hmerchant, createdAt, ⟨hcreated, -⟩, expiresAt, ⟨hexpires, -⟩, amount,
    ⟨hamount, hle⟩, hne, hlt, hreading⟩ := hread
  obtain rfl := Except.ok.inj hreading
  exact ⟨hamount, hcreated, hexpires, hle, Nat.pos_of_ne_zero hne, hlt, hid, hmerchant⟩

/-- An invoice that is created is open, and the operations read it. -/
theorem validInvoice_of_createInvoiceV1 {input : CreateInvoiceInput}
    (h : createInvoiceV1 input = .ok invoice) :
    invoice.state = .open ∧ ∃ reading, ValidInvoice invoice reading := by
  simp only [createInvoiceV1, bind_eq_ok, pure_eq_ok, Except.ok.injEq] at h
  obtain ⟨reading, hread, rfl⟩ := h
  refine ⟨rfl, reading, ⟨rfl, rfl⟩, ?_⟩
  have hamount : input.amount = .ofNat reading.amount := by
    have hcopy := hread
    simp only [validateInvoiceBase, bind_eq_ok, exists_unit, minorUnits_eq_ok, pure_eq_ok] at hcopy
    obtain ⟨-, -, _, -, _, -, amount, ⟨hamount, -⟩, -, -, hreading⟩ := hcopy
    obtain rfl := Except.ok.inj hreading
    exact hamount
  rw [InvoiceBaseV1.input, ← hamount]
  exact hread

theorem copyInvoiceBase_eq {base : InvoiceBaseV1} (h : base.Supported) : copyInvoiceBase base = base := by
  obtain ⟨hversion, hunit⟩ := h
  rw [copyInvoiceBase, ← hversion, ← hunit]

theorem expireInvoiceV1_eq_ok {time : Number} {changed : InvoiceV1} :
    expireInvoiceV1 invoice time = .ok changed ↔
      ∃ reading expiredAt, invoice.state = .open ∧ ValidInvoice invoice reading ∧
        time = .ofNat expiredAt ∧ expiredAt ≤ maxSafeInteger ∧ reading.expiresAt ≤ expiredAt ∧
        changed = ⟨invoice.base, .expired expiredAt⟩ := by
  simp only [expireInvoiceV1, bind_eq_ok, requireOpen_eq_ok, unixTimestamp_eq_ok, ensure_eq_ok,
    exists_unit, pure_eq_ok, Except.ok.injEq]
  constructor
  · intro h
    obtain ⟨reading, ⟨hopen, hvalid⟩, expiredAt, ⟨htime, hle⟩, hlate, rfl⟩ := h
    exact ⟨reading, expiredAt, hopen, hvalid, htime, hle, hlate, by
      rw [copyInvoiceBase_eq hvalid.supported]⟩
  · intro h
    obtain ⟨reading, expiredAt, hopen, hvalid, htime, hle, hlate, rfl⟩ := h
    exact ⟨reading, ⟨hopen, hvalid⟩, expiredAt, ⟨htime, hle⟩, hlate, by
      rw [copyInvoiceBase_eq hvalid.supported]⟩

theorem cancelInvoiceV1_eq_ok {time : Number} {changed : InvoiceV1} :
    cancelInvoiceV1 invoice time = .ok changed ↔
      ∃ reading cancelledAt, invoice.state = .open ∧ ValidInvoice invoice reading ∧
        time = .ofNat cancelledAt ∧ cancelledAt ≤ maxSafeInteger ∧ reading.createdAt ≤ cancelledAt ∧
        cancelledAt < reading.expiresAt ∧ changed = ⟨invoice.base, .cancelled cancelledAt⟩ := by
  simp only [cancelInvoiceV1, bind_eq_ok, requireOpen_eq_ok, unixTimestamp_eq_ok, ensure_eq_ok,
    exists_unit, pure_eq_ok, Except.ok.injEq]
  constructor
  · intro h
    obtain ⟨reading, ⟨hopen, hvalid⟩, cancelledAt, ⟨htime, hle⟩, ⟨hafter, hbefore⟩, rfl⟩ := h
    exact ⟨reading, cancelledAt, hopen, hvalid, htime, hle, hafter, hbefore, by
      rw [copyInvoiceBase_eq hvalid.supported]⟩
  · intro h
    obtain ⟨reading, cancelledAt, hopen, hvalid, htime, hle, hafter, hbefore, rfl⟩ := h
    exact ⟨reading, ⟨hopen, hvalid⟩, cancelledAt, ⟨htime, hle⟩, ⟨hafter, hbefore⟩, by
      rw [copyInvoiceBase_eq hvalid.supported]⟩

/-- The payment that an accepted command leaves on the invoice. -/
def AcceptInvoicePaymentInput.payment (input : AcceptInvoicePaymentInput) (base : InvoiceBaseV1)
    (acceptedAt fee net : Nat) : InvoicePaymentV1 where
  acceptedAt := acceptedAt
  assetAccount := input.assetAccount
  feeAmount := fee
  grossAmount := base.amount
  journalEntryId := input.journalEntryId
  netAmount := net
  operatorId := input.operatorId
  paymentId := input.paymentId
  settlementMode := input.settlementMode

theorem clonePaymentAsset_eq (account : LedgerAccountV1) : clonePaymentAsset account = account := by
  cases account with
  | operatorEcash operatorId => rfl
  | settlementAsset assetId => rfl
  | merchantPayable merchantId => rfl
  | feeRevenue => rfl
  | other kind => rfl

theorem acceptInvoicePaymentV1_eq_ok {input : AcceptInvoicePaymentInput}
    {accepted : AcceptedInvoicePaymentV1} :
    acceptInvoicePaymentV1 invoice input = .ok accepted ↔
      ∃ reading acceptedAt effectiveAt entry fee, invoice.state = .open ∧ ValidInvoice invoice reading ∧
        input.acceptedAt = .ofNat acceptedAt ∧ acceptedAt ≤ maxSafeInteger ∧
        input.effectiveAt = .ofNat effectiveAt ∧ effectiveAt ≤ maxSafeInteger ∧
        reading.createdAt ≤ acceptedAt ∧ acceptedAt < reading.expiresAt ∧ acceptedAt ≤ effectiveAt ∧
        createInvoicePaymentJournalV1 (input.journalInput invoice.base) = .ok entry ∧
        input.feeAmount = .ofNat fee ∧ fee ≤ maxSafeInteger ∧
        accepted = ⟨⟨invoice.base,
          .paid acceptedAt (input.payment invoice.base acceptedAt fee (reading.amount - fee))⟩, entry⟩ := by
  simp only [acceptInvoicePaymentV1, bind_eq_ok, requireOpen_eq_ok, unixTimestamp_eq_ok,
    minorUnits_eq_ok, ensure_eq_ok, exists_unit, pure_eq_ok, Except.ok.injEq, clonePaymentAsset_eq]
  constructor
  · intro h
    obtain ⟨reading, ⟨hopen, hvalid⟩, acceptedAt, ⟨haccepted, hacceptedLe⟩, effectiveAt,
      ⟨heffective, heffectiveLe⟩, hafter, hbefore, hrecorded, entry, hentry, fee, ⟨hfee, hfeeLe⟩, net,
      ⟨hnet, -⟩, rfl⟩ := h
    refine ⟨reading, acceptedAt, effectiveAt, entry, fee, hopen, hvalid, haccepted, hacceptedLe,
      heffective, heffectiveLe, hafter, hbefore, hrecorded, hentry, hfee, hfeeLe, ?_⟩
    rw [copyInvoiceBase_eq hvalid.supported, Number.ofNat_inj.mp hnet]
    rfl
  · intro h
    obtain ⟨reading, acceptedAt, effectiveAt, entry, fee, hopen, hvalid, haccepted, hacceptedLe,
      heffective, heffectiveLe, hafter, hbefore, hrecorded, hentry, hfee, hfeeLe, rfl⟩ := h
    have hle := hvalid.base.2.2.2.1
    refine ⟨reading, ⟨hopen, hvalid⟩, acceptedAt, ⟨haccepted, hacceptedLe⟩, effectiveAt,
      ⟨heffective, heffectiveLe⟩, hafter, hbefore, hrecorded, entry, hentry, fee, ⟨hfee, hfeeLe⟩,
      reading.amount - fee, ⟨rfl, by omega⟩, ?_⟩
    rw [copyInvoiceBase_eq hvalid.supported]
    rfl

/-! ### Runs of operations -/

/-- An operation that succeeds closes an open invoice and leaves its base. -/
theorem InvoiceOperation.apply_ok {operation : InvoiceOperation} {changed : InvoiceV1}
    (h : operation.apply invoice = .ok changed) :
    invoice.state = .open ∧ changed.state ≠ .open ∧ changed.base = invoice.base := by
  cases operation with
  | accept input =>
      simp only [apply, bind_eq_ok, pure_eq_ok, Except.ok.injEq] at h
      obtain ⟨accepted, haccepted, rfl⟩ := h
      obtain ⟨_, _, _, _, _, hopen, -, -, -, -, -, -, -, -, -, -, -, rfl⟩ :=
        acceptInvoicePaymentV1_eq_ok.mp haccepted
      exact ⟨hopen, by simp, rfl⟩
  | expire time =>
      obtain ⟨_, _, hopen, -, -, -, -, rfl⟩ := expireInvoiceV1_eq_ok.mp h
      exact ⟨hopen, by simp, rfl⟩
  | cancel time =>
      obtain ⟨_, _, hopen, -, -, -, -, -, rfl⟩ := cancelInvoiceV1_eq_ok.mp h
      exact ⟨hopen, by simp, rfl⟩

namespace InvoiceV1

theorem next_cases (invoice : InvoiceV1) (operation : InvoiceOperation) :
    invoice.next operation = invoice ∨
      (invoice.state = .open ∧ (invoice.next operation).state ≠ .open ∧
        (invoice.next operation).base = invoice.base) := by
  cases hresult : operation.apply invoice with
  | ok changed =>
      have hnext : invoice.next operation = changed := by rw [next, hresult]
      rw [hnext]
      exact .inr (operation.apply_ok hresult)
  | error e =>
      have hnext : invoice.next operation = invoice := by rw [next, hresult]
      exact .inl hnext

theorem run_cons (invoice : InvoiceV1) (operation : InvoiceOperation)
    (operations : List InvoiceOperation) :
    invoice.run (operation :: operations) = (invoice.next operation).run operations :=
  rfl

theorem run_append (invoice : InvoiceV1) (first rest : List InvoiceOperation) :
    invoice.run (first ++ rest) = (invoice.run first).run rest :=
  List.foldl_append

theorem run_base (invoice : InvoiceV1) (operations : List InvoiceOperation) :
    (invoice.run operations).base = invoice.base := by
  induction operations generalizing invoice with
  | nil => rfl
  | cons operation operations ih =>
      rw [run_cons, ih]
      rcases invoice.next_cases operation with hsame | ⟨-, -, hbase⟩
      · rw [hsame]
      · exact hbase

/-- No operation changes an invoice that is not open. -/
theorem run_of_closed (h : invoice.state ≠ .open) (operations : List InvoiceOperation) :
    invoice.run operations = invoice := by
  induction operations with
  | nil => rfl
  | cons operation operations ih =>
      rcases invoice.next_cases operation with hsame | ⟨hopen, -, -⟩
      · rw [run_cons, hsame]
        exact ih
      · exact absurd hopen h

theorem run_of_open {operations : List InvoiceOperation} (h : (invoice.run operations).state = .open) :
    invoice.run operations = invoice := by
  induction operations generalizing invoice with
  | nil => rfl
  | cons operation operations ih =>
      rw [run_cons] at h ⊢
      rcases invoice.next_cases operation with hsame | ⟨-, hclosed, -⟩
      · rw [hsame] at h ⊢
        exact ih h
      · rw [run_of_closed hclosed] at h
        exact absurd h hclosed

end InvoiceV1

/-! ### The entry of a payment -/

theorem entry_of_createJournalEntryV1 {input : JournalEntryInput} {entry : JournalEntryV1}
    (h : createJournalEntryV1 input = .ok entry) :
    ∃ time, input.effectiveAt = .ofNat time ∧
      entry = ⟨time, input.id, input.postings.map (·.copy), input.reference⟩ := by
  simp only [createJournalEntryV1, bind_eq_ok, exists_unit, unixTimestamp_eq_ok, ensure_eq_ok,
    Pass.foldlM_eq_ok, pure_eq_ok, Except.ok.injEq] at h
  obtain ⟨-, -, time, ⟨htime, -⟩, -, pass, ⟨-, rfl⟩, -, -, -, rfl⟩ := h
  exact ⟨time, htime, rfl⟩

/-- The entry of a payment says what the payment of the invoice says. -/
structure EntryAgrees (base : InvoiceBaseV1) (payment : InvoicePaymentV1) (entry : JournalEntryV1) :
    Prop where
  id : entry.id = payment.journalEntryId
  invoiceId : entry.reference.invoiceId = base.id
  merchantId : entry.reference.merchantId = base.merchantId
  paymentId : entry.reference.paymentId = payment.paymentId
  operatorId : entry.reference.operatorId = payment.operatorId
  settlementMode : entry.reference.settlementMode = payment.settlementMode
  assetAccount : ∀ posting ∈ entry.postings, isAssetDebit posting = true →
    posting.account = payment.assetAccount
  amount : payment.grossAmount = base.amount
  gross : payment.grossAmount = .ofNat (kindTotal isAssetDebit entry.postings)
  fee : payment.feeAmount = kindTotal isFeeCredit entry.postings
  net : payment.netAmount = kindTotal (isMerchantCredit base.merchantId) entry.postings
  effectiveAt : payment.acceptedAt ≤ entry.effectiveAt

theorem kindTotals_paymentPostings {assetAccount : LedgerAccountV1} {merchantId : String}
    {gross fee : Nat} (hasset : isAssetDebit ⟨assetAccount, gross, .debit⟩ = true) (hfee : fee < gross)
    (hgross : gross ≤ maxSafeInteger) :
    kindTotal isAssetDebit ((paymentPostings assetAccount merchantId gross fee).map (·.copy)) = gross ∧
      kindTotal isFeeCredit ((paymentPostings assetAccount merchantId gross fee).map (·.copy)) = fee ∧
      kindTotal (isMerchantCredit merchantId)
        ((paymentPostings assetAccount merchantId gross fee).map (·.copy)) = gross - fee ∧
      ∀ posting ∈ (paymentPostings assetAccount merchantId gross fee).map (·.copy),
        isAssetDebit posting = true → posting.account = assetAccount := by
  have hnatural : ∀ n, n ≤ maxSafeInteger → (Number.ofNat n).natural?.getD 0 = n := by
    intro n hn
    rw [Number.natural?_ofNat hn]
    rfl
  have hpostings : (paymentPostings assetAccount merchantId gross fee).map (·.copy) =
      [⟨assetAccount, gross, .debit⟩, ⟨.merchantPayable merchantId, gross - fee, .credit⟩] ++
        if 0 < fee then [⟨.feeRevenue, fee, .credit⟩] else [] := by
    by_cases hpositive : 0 < fee
    · simp [paymentPostings, hpositive, PostingInput.copy, PostingInput.natural, hnatural gross hgross,
        hnatural (gross - fee) (by omega), hnatural fee (by omega)]
    · simp [paymentPostings, hpositive, PostingInput.copy, PostingInput.natural, hnatural gross hgross,
        hnatural (gross - fee) (by omega)]
  have hmerchant : ∀ n, isAssetDebit ⟨.merchantPayable merchantId, n, .credit⟩ = false := fun _ => rfl
  have hrevenue : isAssetDebit ⟨.feeRevenue, fee, .credit⟩ = false := rfl
  rw [hpostings]
  by_cases hpositive : 0 < fee
  · simp [kindTotal, hpositive, hasset, hmerchant, hrevenue, isFeeCredit, isMerchantCredit]
  · have hzero : fee = 0 := by omega
    simp [kindTotal, hasset, hmerchant, isFeeCredit, isMerchantCredit, hzero]

theorem entryAgrees_of_accepted {input : AcceptInvoicePaymentInput} {accepted : AcceptedInvoicePaymentV1}
    (h : acceptInvoicePaymentV1 invoice input = .ok accepted) :
    ∃ payment, accepted.invoice = ⟨invoice.base, .paid payment.acceptedAt payment⟩ ∧
      input.acceptedAt = .ofNat payment.acceptedAt ∧
      EntryAgrees invoice.base payment accepted.journalEntry := by
  obtain ⟨reading, acceptedAt, effectiveAt, entry, fee, -, hvalid, haccepted, -, heffective, -, -, -,
    hrecorded, hjournal, hfee, hfeeLe, rfl⟩ := acceptInvoicePaymentV1_eq_ok.mp h
  obtain ⟨hamount, -, -, hle, -⟩ := hvalid.base
  obtain ⟨gross, stored, hgross, hstored, hlt, hmode, -, hmatches, -, hentry⟩ :=
    createInvoicePaymentJournalV1_eq_ok.mp hjournal
  obtain ⟨hgross, -⟩ := Number.natural?_eq_some.mp hgross
  obtain ⟨hstored, -⟩ := Number.natural?_eq_some.mp hstored
  obtain rfl := Number.ofNat_inj.mp (hgross.symm.trans hamount)
  obtain rfl := Number.ofNat_inj.mp (hstored.symm.trans hfee)
  obtain ⟨time, htime, rfl⟩ := entry_of_createJournalEntryV1 hentry
  obtain rfl := Number.ofNat_inj.mp (htime.symm.trans heffective)
  have hasset : isAssetDebit ⟨input.assetAccount, reading.amount, .debit⟩ = true := by
    rcases isAsset_of_matchesMode hmode hmatches with ⟨id, hid⟩ | ⟨id, hid⟩
    · rw [show input.assetAccount = .operatorEcash id from hid]
      rfl
    · rw [show input.assetAccount = .settlementAsset id from hid]
      rfl
  obtain ⟨htotal, hfees, hnet, hdebit⟩ :=
    @kindTotals_paymentPostings _ invoice.base.merchantId _ _ hasset hlt hle
  refine ⟨input.payment invoice.base acceptedAt stored (reading.amount - stored), rfl, haccepted, ?_⟩
  exact {
    id := rfl
    invoiceId := rfl
    merchantId := rfl
    paymentId := rfl
    operatorId := rfl
    settlementMode := rfl
    assetAccount := hdebit
    amount := rfl
    gross := hamount.trans (congrArg Number.ofNat htotal.symm)
    fee := hfees.symm
    net := hnet.symm
    effectiveAt := hrecorded }

/-! ### The window of an open invoice -/

/-- A command at a time of the window that is accepted, with the entry at the same time. -/
def acceptCommand (time : Nat) : AcceptInvoicePaymentInput where
  acceptedAt := .ofNat time
  assetAccount := .operatorEcash "operator"
  effectiveAt := .ofNat time
  feeAmount := .ofNat 0
  journalEntryId := "entry"
  operatorId := "operator"
  paymentId := "payment"
  settlementMode := "trusted_hold"

theorem exists_entry_acceptCommand (h : ValidInvoice invoice reading) {time : Nat}
    (htime : time ≤ maxSafeInteger) :
    ∃ entry, createInvoicePaymentJournalV1 ((acceptCommand time).journalInput invoice.base) =
      .ok entry := by
  obtain ⟨hamount, -, -, hle, hpositive, -, hid, hmerchant⟩ := h.base
  have hoperator : identifierPattern "operator" = true := by decide
  have hpayment : identifierPattern "payment" = true := by decide
  have hreference : validateReference ((acceptCommand time).journalInput invoice.base).reference =
      .ok () :=
    validateReference_eq_ok.mpr ⟨rfl, hid, hmerchant, hoperator, hpayment, rfl⟩
  have hmatches : MatchesMode (.operatorEcash "operator") "operator" "trusted_hold" := by
    constructor
    · intro _
      rfl
    · intro hmode
      exact absurd hmode (by decide)
  have hpostings := acceptable_paymentPostings hreference
    (show ValidAccount (.operatorEcash "operator") from hoperator) hmatches hpositive hle
  have hhead : ValidHead (.ofNat time) "entry"
      ((acceptCommand time).journalInput invoice.base).reference :=
    ⟨by decide, hreference, time, rfl, htime⟩
  have hgross : invoice.base.amount.natural? = some reading.amount := by
    rw [hamount, Number.natural?_ofNat hle]
  have hentry := (createJournalEntryV1_eq_ok hhead (Number.natural?_ofNat htime)).mpr ⟨hpostings, rfl⟩
  exact ⟨_, createInvoicePaymentJournalV1_eq_ok.mpr ⟨reading.amount, 0, hgross,
    Number.natural?_ofNat (Nat.zero_le _), hpositive, rfl, hoperator, hmatches, hmerchant, hentry⟩⟩

/-- What an open invoice allows at a time from its creation on: payment and cancellation before its
expiry, and expiry from then on. -/
structure Window (invoice : InvoiceV1) (expiresAt time : Nat) : Prop where
  cancel : (∃ changed, cancelInvoiceV1 invoice (.ofNat time) = .ok changed) ↔ time < expiresAt
  expire : (∃ changed, expireInvoiceV1 invoice (.ofNat time) = .ok changed) ↔ expiresAt ≤ time
  accept : (∃ input accepted, input.acceptedAt = .ofNat time ∧
    acceptInvoicePaymentV1 invoice input = .ok accepted) ↔ time < expiresAt
  /-- Next to the window a command needs an entry, at a time that is not before its own. -/
  acceptEvery : ∀ input : AcceptInvoicePaymentInput, input.acceptedAt = .ofNat time →
    ((∃ accepted, acceptInvoicePaymentV1 invoice input = .ok accepted) ↔
      time < expiresAt ∧
        (∃ effectiveAt, input.effectiveAt = .ofNat effectiveAt ∧ effectiveAt ≤ maxSafeInteger ∧
          time ≤ effectiveAt) ∧
        ∃ entry, createInvoicePaymentJournalV1 (input.journalInput invoice.base) = .ok entry)

theorem window_of_open (hopen : invoice.state = .open) (h : ValidInvoice invoice reading) {time : Nat}
    (hafter : reading.createdAt ≤ time) (htime : time ≤ maxSafeInteger) :
    Window invoice reading.expiresAt time := by
  have hsame : ∀ {other : InvoiceReading}, ValidInvoice invoice other → other = reading := by
    intro other hother
    exact Except.ok.inj (hother.read.symm.trans h.read)
  have hevery : ∀ input : AcceptInvoicePaymentInput, input.acceptedAt = .ofNat time →
      ((∃ accepted, acceptInvoicePaymentV1 invoice input = .ok accepted) ↔
        time < reading.expiresAt ∧
          (∃ effectiveAt, input.effectiveAt = .ofNat effectiveAt ∧ effectiveAt ≤ maxSafeInteger ∧
            time ≤ effectiveAt) ∧
          ∃ entry, createInvoicePaymentJournalV1 (input.journalInput invoice.base) = .ok entry) := by
    intro input hinput
    constructor
    · intro haccepted
      obtain ⟨accepted, haccepted⟩ := haccepted
      obtain ⟨other, acceptedAt, effectiveAt, entry, fee, -, hother, hat, -, heffective, heffectiveLe, -,
        hbefore, hrecorded, hentry, -, -, -⟩ := acceptInvoicePaymentV1_eq_ok.mp haccepted
      obtain rfl := hsame hother
      obtain rfl := Number.ofNat_inj.mp (hinput.symm.trans hat)
      exact ⟨hbefore, ⟨effectiveAt, heffective, heffectiveLe, hrecorded⟩, entry, hentry⟩
    · intro hallowed
      obtain ⟨hbefore, ⟨effectiveAt, heffective, heffectiveLe, hrecorded⟩, entry, hentry⟩ := hallowed
      obtain ⟨_, fee, -, hfee, -⟩ := createInvoicePaymentJournalV1_eq_ok.mp hentry
      obtain ⟨hfee, hfeeLe⟩ := Number.natural?_eq_some.mp hfee
      exact ⟨_, acceptInvoicePaymentV1_eq_ok.mpr ⟨reading, time, effectiveAt, entry, fee, hopen, h,
        hinput, htime, heffective, heffectiveLe, hafter, hbefore, hrecorded, hentry, hfee, hfeeLe, rfl⟩⟩
  constructor
  case cancel =>
    constructor
    · intro hcancelled
      obtain ⟨changed, hcancelled⟩ := hcancelled
      obtain ⟨other, at', -, hother, hat, -, -, hbefore, -⟩ := cancelInvoiceV1_eq_ok.mp hcancelled
      obtain rfl := hsame hother
      obtain rfl := Number.ofNat_inj.mp hat
      exact hbefore
    · intro hbefore
      exact ⟨_, cancelInvoiceV1_eq_ok.mpr ⟨reading, time, hopen, h, rfl, htime, hafter, hbefore, rfl⟩⟩
  case expire =>
    constructor
    · intro hexpired
      obtain ⟨changed, hexpired⟩ := hexpired
      obtain ⟨other, at', -, hother, hat, -, hlate, -⟩ := expireInvoiceV1_eq_ok.mp hexpired
      obtain rfl := hsame hother
      obtain rfl := Number.ofNat_inj.mp hat
      exact hlate
    · intro hlate
      exact ⟨_, expireInvoiceV1_eq_ok.mpr ⟨reading, time, hopen, h, rfl, htime, hlate, rfl⟩⟩
  case accept =>
    constructor
    · intro haccepted
      obtain ⟨input, accepted, hinput, haccepted⟩ := haccepted
      exact ((hevery input hinput).mp ⟨accepted, haccepted⟩).1
    · intro hbefore
      obtain ⟨entry, hentry⟩ := exists_entry_acceptCommand h htime
      obtain ⟨accepted, haccepted⟩ := (hevery (acceptCommand time) rfl).mpr
        ⟨hbefore, ⟨time, rfl, htime, Nat.le_refl time⟩, entry, hentry⟩
      exact ⟨acceptCommand time, accepted, rfl, haccepted⟩
  case acceptEvery => exact hevery

/-- An invoice under any run of operations: it keeps its base and changes at most once, out of the open
state. While it is open, each time from its creation on allows either payment and cancellation or expiry.
Expiry leaves it expired, cancellation cancelled and payment paid at the time of the command, and the
entry of an accepted payment agrees with the payment that the invoice records. -/
theorem invoice_operations (h : ValidInvoice invoice reading) (operations : List InvoiceOperation) :
    (invoice.run operations).base = invoice.base ∧
      ((invoice.run operations).state = .open → invoice.run operations = invoice) ∧
      ((invoice.run operations).state ≠ .open →
        ∀ rest, invoice.run (operations ++ rest) = invoice.run operations) ∧
      ((invoice.run operations).state = .open →
        ∀ time, reading.createdAt ≤ time → time ≤ maxSafeInteger →
          Window (invoice.run operations) reading.expiresAt time) ∧
      (∀ time changed, expireInvoiceV1 (invoice.run operations) time = .ok changed →
        ∃ expiredAt, time = .ofNat expiredAt ∧ changed = ⟨invoice.base, .expired expiredAt⟩) ∧
      (∀ time changed, cancelInvoiceV1 (invoice.run operations) time = .ok changed →
        ∃ cancelledAt, time = .ofNat cancelledAt ∧
          changed = ⟨invoice.base, .cancelled cancelledAt⟩) ∧
      ∀ input accepted, acceptInvoicePaymentV1 (invoice.run operations) input = .ok accepted →
        ∃ payment, accepted.invoice = ⟨invoice.base, .paid payment.acceptedAt payment⟩ ∧
          input.acceptedAt = .ofNat payment.acceptedAt ∧
          EntryAgrees invoice.base payment accepted.journalEntry := by
  have hbase := InvoiceV1.run_base invoice operations
  refine ⟨hbase, InvoiceV1.run_of_open, ?_, ?_, ?_, ?_, ?_⟩
  · intro hclosed rest
    rw [InvoiceV1.run_append]
    exact InvoiceV1.run_of_closed hclosed rest
  · intro hopen time hafter htime
    have hsame := InvoiceV1.run_of_open hopen
    rw [hsame] at hopen ⊢
    exact window_of_open hopen h hafter htime
  · intro time changed hexpired
    obtain ⟨_, expiredAt, -, -, htime, -, -, rfl⟩ := expireInvoiceV1_eq_ok.mp hexpired
    exact ⟨expiredAt, htime, by rw [hbase]⟩
  · intro time changed hcancelled
    obtain ⟨_, cancelledAt, -, -, htime, -, -, -, rfl⟩ := cancelInvoiceV1_eq_ok.mp hcancelled
    exact ⟨cancelledAt, htime, by rw [hbase]⟩
  · intro input accepted haccepted
    obtain ⟨payment, hinvoice, hat, hentry⟩ := entryAgrees_of_accepted haccepted
    rw [hbase] at hinvoice hentry
    exact ⟨payment, hinvoice, hat, hentry⟩

/-- An open invoice of 100 units. -/
def invoiceSample : InvoiceV1 where
  base := ⟨.ofNat 100, .ofNat 1000, .ofNat 2000, "invoice-1", "merchant-1", .ofNat 1, "usdc"⟩
  state := .open

theorem validInvoice_sample : ValidInvoice invoiceSample ⟨100, 1000, 2000⟩ where
  supported := ⟨rfl, rfl⟩
  read := by decide

theorem invoice_operations_sample :
    Window (invoiceSample.run [.expire (.ofNat 1999), .cancel (.ofNat 2000)]) 2000 1999 ∧
      invoiceSample.run ([.cancel (.ofNat 1999)] ++ [.expire (.ofNat 2000)]) =
        invoiceSample.run [.cancel (.ofNat 1999)] :=
  ⟨(invoice_operations validInvoice_sample [.expire (.ofNat 1999), .cancel (.ofNat 2000)]).2.2.2.1
      (by decide) 1999 (by decide) (by decide),
    (invoice_operations validInvoice_sample [.cancel (.ofNat 1999)]).2.2.1 (by decide) _⟩

end CashMesh.Domain
