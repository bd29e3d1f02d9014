import CashMesh.Acquirer.Types
/-!
# Invoices and the ledger

The operator policy, the journal entry of an invoice payment, and the transitions of an invoice.
-/

namespace CashMesh.Acquirer

open CashMesh.Lib

/-! ### Operator policy -/

inductive OperatorTier where
  | trusted
  | convertible
  | unlisted
deriving DecidableEq

inductive SettlementMode where
  | trustedHold
  | immediateConversion
deriving DecidableEq

inductive PolicyReason where
  | trustedOperator
  | conversionRequired
deriving DecidableEq

/-- The mode and the reason of an accepted operator, or `none` for one that is not accepted. -/
def evaluateOperatorPolicy (tier : OperatorTier) (requestedMode : Option SettlementMode) :
    Option (SettlementMode × PolicyReason) :=
  match tier with
  | .unlisted => none
  | .convertible => some (.immediateConversion, .conversionRequired)
  | .trusted => some (requestedMode.getD .trustedHold, .trustedOperator)

/-! ### The ledger -/

/-- The codes of `LedgerError` and `InvoiceError` that the accounting of a payment can throw. -/
inductive DomainErrorCode where
  | accountModeMismatch
  | feeNotLessThanGross
  | invalidPosting
  | invalidPaymentEntry
  | postingTotalOverflow
  | unbalancedEntry
  | amountMustBePositive
  | invalidExpiry
  | invalidTimestamp
  | invalidMinorUnits
  | paymentAfterExpiry
  | paymentBeforeCreation
  | recordedBeforeAcceptance
deriving DecidableEq

structure DomainError where
  code : DomainErrorCode
  message : String
deriving DecidableEq

inductive LedgerAccount where
  | operatorEcash (operatorId : OperatorId)
  | settlementAsset (assetId : Identifier)
  | merchantPayable (merchantId : MerchantId)
  | feeRevenue
deriving DecidableEq

def LedgerAccount.isOperatorEcash : LedgerAccount → Bool
  | operatorEcash _ => true
  | _ => false

def LedgerAccount.isSettlementAsset : LedgerAccount → Bool
  | settlementAsset _ => true
  | _ => false

inductive PostingSide where
  | debit
  | credit
deriving DecidableEq

structure LedgerPosting where
  account : LedgerAccount
  amount : MinorUnitAmount
  side : PostingSide
deriving DecidableEq

structure InvoicePaymentReference where
  invoiceId : InvoiceId
  merchantId : MerchantId
  operatorId : OperatorId
  paymentId : PaymentId
  settlementMode : SettlementMode
deriving DecidableEq

structure JournalEntry where
  effectiveAt : UnixTimestamp
  id : JournalEntryId
  postings : List LedgerPosting
  reference : InvoicePaymentReference
deriving DecidableEq

/-- The sum of the postings of one side. -/
def postingTotal (side : PostingSide) (postings : List LedgerPosting) : Nat :=
  ((postings.filter fun posting => posting.side = side).map (·.amount)).sum

def assertUnixTimestamp (value : Nat) : Except DomainError Unit :=
  ensure (value ≤ maxSafeInteger)
    ⟨.invalidTimestamp, "Unix timestamps must be non-negative safe integers in seconds."⟩

def minorUnits (value : Nat) : Except DomainError MinorUnitAmount := do
  ensure (value ≤ maxSafeInteger)
    ⟨.invalidMinorUnits, "Minor-unit amounts must be non-negative safe integers."⟩
  return value

def validatePaymentAsset (account : LedgerAccount) (operatorId : OperatorId)
    (mode : SettlementMode) : Except DomainError Unit :=
  let matchesTrustedHold := account = .operatorEcash operatorId
  let matchesConversion := account.isSettlementAsset = true
  ensure
    ((mode = .trustedHold → matchesTrustedHold) ∧ (mode = .immediateConversion → matchesConversion))
    ⟨.accountModeMismatch,
      "Payment asset account does not match the recorded settlement mode."⟩

def validateInvoicePaymentPostings (postings : List LedgerPosting)
    (reference : InvoicePaymentReference) : Except DomainError Unit := do
  let assetDebits := postings.filter fun posting =>
    posting.side = .debit ∧
      (posting.account.isOperatorEcash ∨ posting.account.isSettlementAsset)
  let merchantCredits := postings.filter fun posting =>
    posting.side = .credit ∧ posting.account = .merchantPayable reference.merchantId
  let feeCredits := postings.filter fun posting =>
    posting.side = .credit ∧ posting.account = .feeRevenue
  ensure
    (assetDebits.length = 1 ∧ merchantCredits.length = 1 ∧ feeCredits.length ≤ 1 ∧
      postings.length = assetDebits.length + merchantCredits.length + feeCredits.length)
    ⟨.invalidPaymentEntry,
      "Invoice payment journals require one asset debit, one matching merchant credit, " ++
        "and an optional fee credit."⟩
  match assetDebits with
  | [] => throw ⟨.invalidPaymentEntry, "Invoice payment asset debit is missing."⟩
  | assetDebit :: _ =>
      validatePaymentAsset assetDebit.account reference.operatorId reference.settlementMode

def createJournalEntry (entry : JournalEntry) : Except DomainError JournalEntry := do
  assertUnixTimestamp entry.effectiveAt
  ensure (2 ≤ entry.postings.length)
    ⟨.invalidPosting, "A journal entry requires at least two postings."⟩
  ensure (∀ posting ∈ entry.postings, posting.amount ≤ maxSafeInteger)
    ⟨.invalidMinorUnits, "Minor-unit amounts must be non-negative safe integers."⟩
  ensure (∀ posting ∈ entry.postings, posting.amount ≠ 0)
    ⟨.invalidPosting, "Posting amounts must be positive with a valid side."⟩
  let debits := postingTotal .debit entry.postings
  let credits := postingTotal .credit entry.postings
  ensure (debits ≤ maxSafeInteger ∧ credits ≤ maxSafeInteger)
    ⟨.postingTotalOverflow, "Journal totals exceed safe integer bounds."⟩
  ensure (debits = credits)
    ⟨.unbalancedEntry, "Journal debits and credits must balance exactly."⟩
  validateInvoicePaymentPostings entry.postings entry.reference
  return entry

structure InvoicePaymentJournalInput where
  assetAccount : LedgerAccount
  effectiveAt : UnixTimestamp
  feeAmount : MinorUnitAmount
  grossAmount : MinorUnitAmount
  invoiceId : InvoiceId
  journalEntryId : JournalEntryId
  merchantId : MerchantId
  operatorId : OperatorId
  paymentId : PaymentId
  settlementMode : SettlementMode
deriving DecidableEq

/-- The postings of an invoice payment: the asset is debited with the gross amount, the merchant is
credited with the net amount, and a fee, when there is one, is credited to the revenue. -/
def invoicePaymentPostings (assetAccount : LedgerAccount) (merchantId : MerchantId)
    (grossAmount feeAmount : MinorUnitAmount) : List LedgerPosting :=
  [⟨assetAccount, grossAmount, .debit⟩,
    ⟨.merchantPayable merchantId, grossAmount - feeAmount, .credit⟩] ++
  if 0 < feeAmount then [⟨.feeRevenue, feeAmount, .credit⟩] else []

def createInvoicePaymentJournal (input : InvoicePaymentJournalInput) :
    Except DomainError JournalEntry := do
  validatePaymentAsset input.assetAccount input.operatorId input.settlementMode
  let grossAmount ← minorUnits input.grossAmount
  let feeAmount ← minorUnits input.feeAmount
  ensure (grossAmount ≠ 0 ∧ feeAmount < grossAmount)
    ⟨.feeNotLessThanGross, "Gross amount must be positive and fee must be less than gross."⟩
  createJournalEntry {
    effectiveAt := input.effectiveAt
    id := input.journalEntryId
    postings := invoicePaymentPostings input.assetAccount input.merchantId grossAmount feeAmount
    reference := {
      invoiceId := input.invoiceId
      merchantId := input.merchantId
      operatorId := input.operatorId
      paymentId := input.paymentId
      settlementMode := input.settlementMode } }

/-! ### Invoices -/

/-- An open invoice. -/
structure OpenInvoice where
  amount : MinorUnitAmount
  createdAt : UnixTimestamp
  expiresAt : UnixTimestamp
  id : InvoiceId
  merchantId : MerchantId
deriving DecidableEq

structure InvoicePayment where
  acceptedAt : UnixTimestamp
  assetAccount : LedgerAccount
  feeAmount : MinorUnitAmount
  grossAmount : MinorUnitAmount
  journalEntryId : JournalEntryId
  netAmount : MinorUnitAmount
  operatorId : OperatorId
  paymentId : PaymentId
  settlementMode : SettlementMode
deriving DecidableEq

/-- A paid invoice: the invoice it was, when it was paid, and the payment. -/
structure PaidInvoice where
  base : OpenInvoice
  paidAt : UnixTimestamp
  payment : InvoicePayment
deriving DecidableEq

structure AcceptedInvoicePayment where
  invoice : PaidInvoice
  journalEntry : JournalEntry
deriving DecidableEq

/-- `createInvoiceV1` with the checks of `validateInvoiceBase`. -/
def createInvoice (input : OpenInvoice) : Except DomainError OpenInvoice := do
  assertUnixTimestamp input.createdAt
  assertUnixTimestamp input.expiresAt
  let amount ← minorUnits input.amount
  ensure (amount ≠ 0) ⟨.amountMustBePositive, "Invoice amount must be positive."⟩
  ensure (input.createdAt < input.expiresAt)
    ⟨.invalidExpiry, "Invoice expiry must be after creation."⟩
  return input

structure AcceptInvoicePaymentInput where
  acceptedAt : UnixTimestamp
  assetAccount : LedgerAccount
  effectiveAt : UnixTimestamp
  feeAmount : MinorUnitAmount
  journalEntryId : JournalEntryId
  operatorId : OperatorId
  paymentId : PaymentId
  settlementMode : SettlementMode
deriving DecidableEq

/-- Accept the payment of an open invoice. -/
def acceptInvoicePayment (invoice : OpenInvoice) (input : AcceptInvoicePaymentInput) :
    Except DomainError AcceptedInvoicePayment := do
  let invoice ← createInvoice invoice
  assertUnixTimestamp input.acceptedAt
  assertUnixTimestamp input.effectiveAt
  ensure (invoice.createdAt ≤ input.acceptedAt)
    ⟨.paymentBeforeCreation, "Payment cannot be accepted before invoice creation."⟩
  ensure (input.acceptedAt < invoice.expiresAt)
    ⟨.paymentAfterExpiry, "Payment cannot be accepted at or after expiry."⟩
  ensure (input.acceptedAt ≤ input.effectiveAt)
    ⟨.recordedBeforeAcceptance, "Journal time cannot precede payment acceptance."⟩
  let journalEntry ← createInvoicePaymentJournal {
    assetAccount := input.assetAccount
    effectiveAt := input.effectiveAt
    feeAmount := input.feeAmount
    grossAmount := invoice.amount
    invoiceId := invoice.id
    journalEntryId := input.journalEntryId
    merchantId := invoice.merchantId
    operatorId := input.operatorId
    paymentId := input.paymentId
    settlementMode := input.settlementMode }
  return {
    invoice := {
      base := invoice
      paidAt := input.acceptedAt
      payment := {
        acceptedAt := input.acceptedAt
        assetAccount := input.assetAccount
        feeAmount := input.feeAmount
        grossAmount := invoice.amount
        journalEntryId := input.journalEntryId
        netAmount := invoice.amount - input.feeAmount
        operatorId := input.operatorId
        paymentId := input.paymentId
        settlementMode := input.settlementMode } }
    journalEntry }

end CashMesh.Acquirer
