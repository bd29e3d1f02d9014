import CashMesh.Domain.Values
import Mathlib.Algebra.Order.BigOperators.Group.List
import Mathlib.Tactic.Ring
/-!
# Journal entries

The entries of the ledger as `ledger.ts` checks them. An entry is accepted by one pass over its
postings, which checks each, adds it to the total of its side and copies it, and by checks on the totals
and on the kinds of the postings; its postings may come in any number and in any order.
-/

namespace CashMesh.Domain

open CashMesh.Lib
open CashMesh.Acquirer (maxSafeInteger identifierPattern)

/-! ### Accounts and postings -/

/-- A ledger account, its identifiers not checked yet; `other` has a kind that is none of the four. -/
inductive LedgerAccountV1 where
  | operatorEcash (operatorId : String)
  | settlementAsset (assetId : String)
  | merchantPayable (merchantId : String)
  | feeRevenue
  | other (kind : String)
deriving DecidableEq

inductive PostingSide where
  | debit
  | credit
deriving DecidableEq

/-- `POSTING_SIDES`. -/
def postingSide? (text : String) : Option PostingSide :=
  if text = "debit" then some .debit else if text = "credit" then some .credit else none

/-- The text of a side. -/
def PostingSide.text : PostingSide → String
  | debit => "debit"
  | credit => "credit"

/-- A posting as it is given. -/
structure PostingInput where
  account : LedgerAccountV1
  amount : Number
  side : String
deriving DecidableEq

structure LedgerPostingV1 where
  account : LedgerAccountV1
  amount : Nat
  side : PostingSide
deriving DecidableEq

/-- A posting that an entry holds, given again. -/
def LedgerPostingV1.input (posting : LedgerPostingV1) : PostingInput :=
  ⟨posting.account, .ofNat posting.amount, posting.side.text⟩

inductive SettlementMode where
  | trustedHold
  | immediateConversion
deriving DecidableEq

/-- `SETTLEMENT_MODES`. -/
def settlementMode? (text : String) : Option SettlementMode :=
  if text = "trusted_hold" then some .trustedHold
  else if text = "immediate_conversion" then some .immediateConversion
  else none

structure InvoicePaymentReferenceV1 where
  kind : String
  invoiceId : String
  merchantId : String
  operatorId : String
  paymentId : String
  settlementMode : String
deriving DecidableEq

structure JournalEntryInput where
  effectiveAt : Number
  id : String
  postings : List PostingInput
  reference : InvoicePaymentReferenceV1
deriving DecidableEq

structure JournalEntryV1 where
  effectiveAt : Nat
  id : String
  postings : List LedgerPostingV1
  reference : InvoicePaymentReferenceV1
deriving DecidableEq

/-- An entry, given again. -/
def JournalEntryV1.input (entry : JournalEntryV1) : JournalEntryInput :=
  ⟨.ofNat entry.effectiveAt, entry.id, entry.postings.map (·.input), entry.reference⟩

/-! ### The checks -/

def validateAccount : LedgerAccountV1 → Except DomainError Unit
  | .operatorEcash operatorId => assertIdentifier operatorId "operator id"
  | .settlementAsset assetId => assertIdentifier assetId "settlement asset id"
  | .merchantPayable merchantId => assertIdentifier merchantId "merchant id"
  | .feeRevenue => return ()
  | .other _ => throw (.ledger .invalidAccount "Ledger account kind is invalid.")

def validateSettlementMode (mode : String) : Except DomainError Unit :=
  ensure (settlementMode? mode).isSome (.ledger .invalidPosting "Settlement mode is invalid.")

def validateReference (reference : InvoicePaymentReferenceV1) : Except DomainError Unit := do
  ensure (reference.kind = "invoice_payment")
    (.ledger .invalidReference "Journal reference kind is invalid.")
  assertIdentifier reference.invoiceId "invoice id"
  assertIdentifier reference.merchantId "merchant id"
  assertIdentifier reference.operatorId "operator id"
  assertIdentifier reference.paymentId "payment id"
  validateSettlementMode reference.settlementMode

/-- `matchesTrustedHold` or `matchesConversion`, as the mode asks. -/
def MatchesMode (account : LedgerAccountV1) (operatorId mode : String) : Prop :=
  (mode = "trusted_hold" → account = .operatorEcash operatorId) ∧
    (mode = "immediate_conversion" → ∃ assetId, account = .settlementAsset assetId)

instance (account : LedgerAccountV1) (operatorId mode : String) :
    Decidable (MatchesMode account operatorId mode) := by
  have hasset : Decidable (∃ assetId, account = .settlementAsset assetId) :=
    match account with
    | .settlementAsset assetId => isTrue ⟨assetId, rfl⟩
    | .operatorEcash _ => isFalse (by simp)
    | .merchantPayable _ => isFalse (by simp)
    | .feeRevenue => isFalse (by simp)
    | .other _ => isFalse (by simp)
  exact inferInstanceAs (Decidable (_ ∧ (_ → _)))

def validatePaymentAsset (account : LedgerAccountV1) (operatorId mode : String) :
    Except DomainError Unit := do
  validateAccount account
  ensure (MatchesMode account operatorId mode)
    (.ledger .accountModeMismatch
      "Payment asset account does not match the recorded settlement mode.")

/-- A debit of an asset. -/
def isAssetDebit (posting : LedgerPostingV1) : Bool :=
  posting.side = .debit &&
    match posting.account with
    | .operatorEcash _ => true
    | .settlementAsset _ => true
    | _ => false

/-- A credit to the merchant. -/
def isMerchantCredit (merchantId : String) (posting : LedgerPostingV1) : Bool :=
  posting.side = .credit && posting.account = .merchantPayable merchantId

def isFeeCredit (posting : LedgerPostingV1) : Bool :=
  posting.side = .credit && posting.account = .feeRevenue

def validateInvoicePaymentPostings (postings : List LedgerPostingV1)
    (reference : InvoicePaymentReferenceV1) : Except DomainError Unit := do
  let assetDebits := postings.filter isAssetDebit
  let merchantCredits := postings.filter (isMerchantCredit reference.merchantId)
  let feeCredits := postings.filter isFeeCredit
  ensure
    (assetDebits.length = 1 ∧ merchantCredits.length = 1 ∧ feeCredits.length ≤ 1 ∧
      postings.length = assetDebits.length + merchantCredits.length + feeCredits.length)
    (.ledger .invalidPaymentEntry
      ("Invoice payment journals require one asset debit, one matching merchant credit, " ++
        "and an optional fee credit."))
  match assetDebits with
  | [] => throw (.ledger .invalidPaymentEntry "Invoice payment asset debit is missing.")
  | assetDebit :: _ =>
      validatePaymentAsset assetDebit.account reference.operatorId reference.settlementMode

/-! ### Entries -/

/-- The totals of the sides and the postings copied so far. -/
structure Pass where
  debits : Nat
  credits : Nat
  postings : List LedgerPostingV1

def Pass.start : Pass :=
  ⟨0, 0, []⟩

def invalidPosting : DomainError :=
  .ledger .invalidPosting "Posting amounts must be positive with a valid side."

/-- One posting of the pass. -/
def Pass.add (pass : Pass) (posting : PostingInput) : Except DomainError Pass := do
  validateAccount posting.account
  let amount ← minorUnits posting.amount
  ensure (amount ≠ 0) invalidPosting
  match postingSide? posting.side with
  | none => throw invalidPosting
  | some .debit =>
      return ⟨pass.debits + amount, pass.credits, pass.postings ++ [⟨posting.account, amount, .debit⟩]⟩
  | some .credit =>
      return ⟨pass.debits, pass.credits + amount, pass.postings ++ [⟨posting.account, amount, .credit⟩]⟩

def createJournalEntryV1 (input : JournalEntryInput) : Except DomainError JournalEntryV1 := do
  assertIdentifier input.id "journal entry id"
  validateReference input.reference
  let effectiveAt ← unixTimestamp input.effectiveAt
  ensure (2 ≤ input.postings.length)
    (.ledger .invalidPosting "A journal entry requires at least two postings.")
  let pass ← input.postings.foldlM Pass.add .start
  ensure (pass.debits ≤ maxSafeInteger ∧ pass.credits ≤ maxSafeInteger)
    (.ledger .postingTotalOverflow "Journal totals exceed safe integer bounds.")
  ensure (pass.debits = pass.credits)
    (.ledger .unbalancedEntry "Journal debits and credits must balance exactly.")
  validateInvoicePaymentPostings pass.postings input.reference
  return ⟨effectiveAt, input.id, pass.postings, input.reference⟩

structure InvoicePaymentJournalInput where
  assetAccount : LedgerAccountV1
  effectiveAt : Number
  feeAmount : Number
  grossAmount : Number
  invoiceId : String
  journalEntryId : String
  merchantId : String
  operatorId : String
  paymentId : String
  settlementMode : String
deriving DecidableEq

def InvoicePaymentJournalInput.reference (input : InvoicePaymentJournalInput) :
    InvoicePaymentReferenceV1 where
  kind := "invoice_payment"
  invoiceId := input.invoiceId
  merchantId := input.merchantId
  operatorId := input.operatorId
  paymentId := input.paymentId
  settlementMode := input.settlementMode

/-- `merchantPayableAccount`. -/
def merchantPayableAccount (merchantId : String) : Except DomainError LedgerAccountV1 := do
  assertIdentifier merchantId "merchant id"
  return .merchantPayable merchantId

def createInvoicePaymentJournalV1 (input : InvoicePaymentJournalInput) :
    Except DomainError JournalEntryV1 := do
  validateSettlementMode input.settlementMode
  validatePaymentAsset input.assetAccount input.operatorId input.settlementMode
  let grossAmount ← minorUnits input.grossAmount
  let feeAmount ← minorUnits input.feeAmount
  ensure (grossAmount ≠ 0 ∧ feeAmount < grossAmount)
    (.ledger .feeNotLessThanGross "Gross amount must be positive and fee must be less than gross.")
  let netAmount ← minorUnits (.ofNat (grossAmount - feeAmount))
  let merchantAccount ← merchantPayableAccount input.merchantId
  createJournalEntryV1 {
    effectiveAt := input.effectiveAt
    id := input.journalEntryId
    postings :=
      [⟨input.assetAccount, .ofNat grossAmount, "debit"⟩,
        ⟨merchantAccount, .ofNat netAmount, "credit"⟩] ++
      if 0 < feeAmount then [⟨.feeRevenue, .ofNat feeAmount, "credit"⟩] else []
    reference := input.reference }

/-! ### The postings that are accepted -/

def ValidAccount : LedgerAccountV1 → Prop
  | .operatorEcash operatorId => identifierPattern operatorId = true
  | .settlementAsset assetId => identifierPattern assetId = true
  | .merchantPayable merchantId => identifierPattern merchantId = true
  | .feeRevenue => True
  | .other _ => False

theorem assertIdentifier_eq_ok {value field : String} :
    assertIdentifier value field = .ok () ↔ identifierPattern value = true :=
  ensure_eq_ok

theorem validateAccount_eq_ok {account : LedgerAccountV1} :
    validateAccount account = .ok () ↔ ValidAccount account := by
  cases account with
  | operatorEcash operatorId => exact assertIdentifier_eq_ok
  | settlementAsset assetId => exact assertIdentifier_eq_ok
  | merchantPayable merchantId => exact assertIdentifier_eq_ok
  | feeRevenue => exact iff_of_true rfl trivial
  | other kind => exact iff_of_false (by simp [validateAccount]) (fun h => h)

namespace PostingInput

/-- The amount, when it is a safe integer. -/
def natural (posting : PostingInput) : Nat :=
  posting.amount.natural?.getD 0

/-- A debit of an asset. -/
def isAssetDebit (posting : PostingInput) : Bool :=
  posting.side = "debit" &&
    match posting.account with
    | .operatorEcash _ => true
    | .settlementAsset _ => true
    | _ => false

/-- A credit to the merchant. -/
def isMerchantCredit (merchantId : String) (posting : PostingInput) : Bool :=
  posting.side = "credit" && posting.account = .merchantPayable merchantId

def isFeeCredit (posting : PostingInput) : Bool :=
  posting.side = "credit" && posting.account = .feeRevenue

end PostingInput

/-- The sum of the amounts of one side. -/
def sideTotal (side : String) (postings : List PostingInput) : Nat :=
  ((postings.filter fun posting => posting.side = side).map (·.natural)).sum

/-- The postings of an invoice payment: positive safe amounts on valid accounts that balance within the
safe integers, one debit of the asset of the mode, one credit to the merchant, at most one to the fees
and nothing else. -/
structure AcceptablePostings (reference : InvoicePaymentReferenceV1) (postings : List PostingInput) :
    Prop where
  amounts : ∀ posting ∈ postings, ∃ n, posting.amount = .ofNat n ∧ 0 < n ∧ n ≤ maxSafeInteger
  accounts : ∀ posting ∈ postings, ValidAccount posting.account
  debits_le : sideTotal "debit" postings ≤ maxSafeInteger
  credits_le : sideTotal "credit" postings ≤ maxSafeInteger
  balanced : sideTotal "debit" postings = sideTotal "credit" postings
  assetDebit : postings.countP PostingInput.isAssetDebit = 1
  matchesMode : ∀ posting ∈ postings, posting.isAssetDebit = true →
    MatchesMode posting.account reference.operatorId reference.settlementMode
  merchantCredit : postings.countP (PostingInput.isMerchantCredit reference.merchantId) = 1
  feeCredit : postings.countP PostingInput.isFeeCredit ≤ 1
  noOther : ∀ posting ∈ postings, posting.isAssetDebit = true ∨
    posting.isMerchantCredit reference.merchantId = true ∨ posting.isFeeCredit = true

/-! ### The pass -/

namespace PostingInput

/-- What the pass asks of a posting. -/
structure Passes (posting : PostingInput) : Prop where
  account : ValidAccount posting.account
  amount : ∃ n, posting.amount = .ofNat n ∧ 0 < n ∧ n ≤ maxSafeInteger
  side : posting.side = "debit" ∨ posting.side = "credit"

/-- The copy that the pass makes. -/
def copy (posting : PostingInput) : LedgerPostingV1 :=
  ⟨posting.account, posting.natural, if posting.side = "debit" then .debit else .credit⟩

variable {posting : PostingInput}

theorem Passes.natural (h : posting.Passes) :
    posting.amount.natural? = some posting.natural ∧ posting.natural ≠ 0 := by
  obtain ⟨n, hamount, hpositive, hle⟩ := h.amount
  have hnatural := Number.natural?_ofNat hle
  rw [PostingInput.natural, hamount, hnatural]
  refine ⟨rfl, ?_⟩
  show n ≠ 0
  omega

theorem Passes.isAssetDebit_copy (h : posting.Passes) :
    Domain.isAssetDebit posting.copy = posting.isAssetDebit := by
  rcases h.side with hside | hside
  · simp [Domain.isAssetDebit, PostingInput.isAssetDebit, copy, hside]
  · simp [Domain.isAssetDebit, PostingInput.isAssetDebit, copy, hside]

theorem Passes.isMerchantCredit_copy (h : posting.Passes) (merchantId : String) :
    Domain.isMerchantCredit merchantId posting.copy = posting.isMerchantCredit merchantId := by
  rcases h.side with hside | hside
  · simp [Domain.isMerchantCredit, PostingInput.isMerchantCredit, copy, hside]
  · simp [Domain.isMerchantCredit, PostingInput.isMerchantCredit, copy, hside]

theorem Passes.isFeeCredit_copy (h : posting.Passes) :
    Domain.isFeeCredit posting.copy = posting.isFeeCredit := by
  rcases h.side with hside | hside
  · simp [Domain.isFeeCredit, PostingInput.isFeeCredit, copy, hside]
  · simp [Domain.isFeeCredit, PostingInput.isFeeCredit, copy, hside]

end PostingInput

/-- The pass after some more postings. -/
def Pass.after (pass : Pass) (postings : List PostingInput) : Pass :=
  ⟨pass.debits + sideTotal "debit" postings, pass.credits + sideTotal "credit" postings,
    pass.postings ++ postings.map (·.copy)⟩

theorem sideTotal_cons (side : String) (posting : PostingInput) (postings : List PostingInput) :
    sideTotal side (posting :: postings) =
      (if posting.side = side then posting.natural else 0) + sideTotal side postings := by
  unfold sideTotal
  by_cases hside : posting.side = side
  · simp [hside]
  · simp [hside]

theorem Pass.add_eq_ok {pass next : Pass} {posting : PostingInput} :
    pass.add posting = .ok next ↔ posting.Passes ∧ next = pass.after [posting] := by
  constructor
  · intro h
    simp only [Pass.add, bind_eq_ok, validateAccount_eq_ok, minorUnits, orFail_eq_ok, ensure_eq_ok,
      exists_unit, pure_eq_ok] at h
    obtain ⟨haccount, amount, hamount, hne, h⟩ := h
    obtain ⟨hnumber, hle⟩ := Number.natural?_eq_some.mp hamount
    have hpositive : 0 < amount := by omega
    have hnatural : posting.natural = amount := by rw [PostingInput.natural, hamount]; rfl
    by_cases hdebit : posting.side = "debit"
    · rw [hdebit] at h
      have hnext := Except.ok.inj h
      refine ⟨⟨haccount, ⟨amount, hnumber, hpositive, hle⟩, .inl hdebit⟩, ?_⟩
      rw [← hnext, Pass.after, sideTotal_cons, sideTotal_cons]
      simp [hdebit, hnatural, sideTotal, PostingInput.copy]
    · by_cases hcredit : posting.side = "credit"
      · rw [hcredit] at h
        have hnext := Except.ok.inj h
        refine ⟨⟨haccount, ⟨amount, hnumber, hpositive, hle⟩, .inr hcredit⟩, ?_⟩
        rw [← hnext, Pass.after, sideTotal_cons, sideTotal_cons]
        simp [hcredit, hnatural, sideTotal, PostingInput.copy]
      · simp only [postingSide?, if_neg hdebit, if_neg hcredit] at h
        cases h
  · intro h
    obtain ⟨hpasses, rfl⟩ := h
    obtain ⟨hamount, hne⟩ := hpasses.natural
    simp only [Pass.add, bind_eq_ok, validateAccount_eq_ok, minorUnits, orFail_eq_ok, ensure_eq_ok,
      exists_unit, pure_eq_ok]
    refine ⟨hpasses.account, _, hamount, hne, ?_⟩
    rw [Pass.after, sideTotal_cons, sideTotal_cons]
    rcases hpasses.side with hside | hside
    · simp [postingSide?, hside, sideTotal, PostingInput.copy]
    · simp [postingSide?, hside, sideTotal, PostingInput.copy]

theorem Pass.after_cons (pass : Pass) (posting : PostingInput) (postings : List PostingInput) :
    (pass.after [posting]).after postings = pass.after (posting :: postings) := by
  simp only [Pass.after, sideTotal_cons, List.map_cons, List.map_nil, List.append_assoc,
    List.singleton_append]
  congr 1
  · simp only [sideTotal, List.filter_nil, List.map_nil, List.sum_nil]
    omega
  · simp only [sideTotal, List.filter_nil, List.map_nil, List.sum_nil]
    omega

/-- The whole pass succeeds when every posting passes, with the totals of the sides. -/
theorem Pass.foldlM_eq_ok {pass last : Pass} {postings : List PostingInput} :
    postings.foldlM Pass.add pass = .ok last ↔
      (∀ posting ∈ postings, posting.Passes) ∧ last = pass.after postings := by
  induction postings generalizing pass with
  | nil =>
      have hsame : pass.after [] = pass := by simp [Pass.after, sideTotal]
      rw [hsame]
      constructor
      · intro h
        exact ⟨by simp, (Except.ok.inj h).symm⟩
      · intro h
        rw [h.2]
        rfl
  | cons posting postings ih =>
      simp only [List.foldlM_cons, bind_eq_ok, Pass.add_eq_ok, ih, List.forall_mem_cons]
      constructor
      · intro h
        obtain ⟨_, ⟨hfirst, rfl⟩, hrest, hlast⟩ := h
        exact ⟨⟨hfirst, hrest⟩, by rw [hlast, Pass.after_cons]⟩
      · intro h
        obtain ⟨⟨hfirst, hrest⟩, hlast⟩ := h
        exact ⟨_, ⟨hfirst, rfl⟩, hrest, by rw [hlast, Pass.after_cons]⟩

/-! ### The kinds of the postings -/

/-- Three kinds that exclude each other make up a list when their counts make up its length. -/
theorem length_eq_counts {α : Type} {l : List α} {p q r : α → Bool}
    (hpq : ∀ a, p a = true → q a = false) (hpr : ∀ a, p a = true → r a = false)
    (hqr : ∀ a, q a = true → r a = false) :
    l.length = l.countP p + l.countP q + l.countP r ↔
      ∀ a ∈ l, p a = true ∨ q a = true ∨ r a = true := by
  have hcount : l.countP (fun a => p a || q a || r a) = l.countP p + l.countP q + l.countP r := by
    induction l with
    | nil => rfl
    | cons a l ih =>
        have hp := hpq a
        have hr := hpr a
        have hq := hqr a
        simp only [List.countP_cons, ih]
        cases hpa : p a with
        | true =>
            simp only [hp hpa, hr hpa, Bool.true_or, if_true, Bool.false_eq_true, if_false]
            omega
        | false =>
            cases hqa : q a with
            | true =>
                simp only [hq hqa, Bool.false_or, Bool.true_or, if_true, Bool.false_eq_true, if_false]
                omega
            | false =>
                simp only [Bool.false_or, Bool.false_eq_true, if_false]
                omega
  rw [← hcount, eq_comm, List.countP_eq_length]
  simp only [Bool.or_eq_true, or_assoc]

theorem isAssetDebit_not_merchant (merchantId : String) (posting : PostingInput)
    (h : posting.isAssetDebit = true) : posting.isMerchantCredit merchantId = false := by
  simp only [PostingInput.isAssetDebit, Bool.and_eq_true, decide_eq_true_eq] at h
  simp [PostingInput.isMerchantCredit, h.1]

theorem isAssetDebit_not_fee (posting : PostingInput) (h : posting.isAssetDebit = true) :
    posting.isFeeCredit = false := by
  simp only [PostingInput.isAssetDebit, Bool.and_eq_true, decide_eq_true_eq] at h
  simp [PostingInput.isFeeCredit, h.1]

theorem isMerchantCredit_not_fee (merchantId : String) (posting : PostingInput)
    (h : posting.isMerchantCredit merchantId = true) : posting.isFeeCredit = false := by
  simp only [PostingInput.isMerchantCredit, Bool.and_eq_true, decide_eq_true_eq] at h
  simp [PostingInput.isFeeCredit, h.2]

theorem countP_copy {postings : List PostingInput} {p : LedgerPostingV1 → Bool} {q : PostingInput → Bool}
    (h : ∀ posting ∈ postings, p posting.copy = q posting) :
    ((postings.map (·.copy)).filter p).length = postings.countP q := by
  rw [← List.countP_eq_length_filter, List.countP_map]
  apply List.countP_congr
  intro posting hmem
  rw [Function.comp_apply, h posting hmem]

variable {reference : InvoicePaymentReferenceV1} {postings : List PostingInput}

theorem validateInvoicePaymentPostings_eq_ok (hpasses : ∀ posting ∈ postings, posting.Passes) :
    validateInvoicePaymentPostings (postings.map (·.copy)) reference = .ok () ↔
      postings.countP PostingInput.isAssetDebit = 1 ∧
        postings.countP (PostingInput.isMerchantCredit reference.merchantId) = 1 ∧
        postings.countP PostingInput.isFeeCredit ≤ 1 ∧
        (∀ posting ∈ postings, posting.isAssetDebit = true ∨
          posting.isMerchantCredit reference.merchantId = true ∨ posting.isFeeCredit = true) ∧
        ∀ posting ∈ postings, posting.isAssetDebit = true →
          MatchesMode posting.account reference.operatorId reference.settlementMode := by
  have hasset := countP_copy (q := PostingInput.isAssetDebit)
    fun posting hmem => (hpasses posting hmem).isAssetDebit_copy
  have hmerchant := countP_copy (q := PostingInput.isMerchantCredit reference.merchantId)
    fun posting hmem => (hpasses posting hmem).isMerchantCredit_copy reference.merchantId
  have hfee := countP_copy (q := PostingInput.isFeeCredit)
    fun posting hmem => (hpasses posting hmem).isFeeCredit_copy
  have hkinds := length_eq_counts (l := postings) (p := PostingInput.isAssetDebit)
    (q := PostingInput.isMerchantCredit reference.merchantId) (r := PostingInput.isFeeCredit)
    (isAssetDebit_not_merchant reference.merchantId) isAssetDebit_not_fee
    (isMerchantCredit_not_fee reference.merchantId)
  simp only [validateInvoicePaymentPostings, bind_eq_ok, ensure_eq_ok, exists_unit, hasset, hmerchant,
    hfee, List.length_map, hkinds]
  have hfirst : postings.countP PostingInput.isAssetDebit = 1 →
      ∃ debit ∈ postings, debit.isAssetDebit = true ∧
        (postings.map (·.copy)).filter isAssetDebit = [debit.copy] ∧
        ∀ posting ∈ postings, posting.isAssetDebit = true → posting.account = debit.account := by
    intro hone
    have hlength : ((postings.map (·.copy)).filter isAssetDebit).length = 1 := hasset.trans hone
    obtain ⟨only, honly⟩ := List.length_eq_one_iff.mp hlength
    have hmem : only ∈ (postings.map (·.copy)).filter isAssetDebit := honly ▸ List.mem_cons_self
    obtain ⟨hcopied, hdebit⟩ := List.mem_filter.mp hmem
    obtain ⟨debit, hdebitMem, rfl⟩ := List.mem_map.mp hcopied
    rw [(hpasses debit hdebitMem).isAssetDebit_copy] at hdebit
    refine ⟨debit, hdebitMem, hdebit, honly, ?_⟩
    intro posting hposting hother
    have hin : posting.copy ∈ (postings.map (·.copy)).filter isAssetDebit := by
      apply List.mem_filter.mpr
      refine ⟨List.mem_map.mpr ⟨posting, hposting, rfl⟩, ?_⟩
      rw [(hpasses posting hposting).isAssetDebit_copy]
      exact hother
    rw [honly, List.mem_singleton] at hin
    exact congrArg LedgerPostingV1.account hin
  constructor
  · intro h
    obtain ⟨⟨hone, hmerchantOne, hfeeOne, hall⟩, h⟩ := h
    obtain ⟨debit, hdebitMem, hdebit, hfilter, hsame⟩ := hfirst hone
    rw [hfilter] at h
    simp only [validatePaymentAsset, bind_eq_ok, ensure_eq_ok, exists_unit] at h
    refine ⟨hone, hmerchantOne, hfeeOne, hall, ?_⟩
    intro posting hposting hother
    rw [hsame posting hposting hother]
    exact h.2
  · intro h
    obtain ⟨hone, hmerchantOne, hfeeOne, hall, hmode⟩ := h
    obtain ⟨debit, hdebitMem, hdebit, hfilter, -⟩ := hfirst hone
    refine ⟨⟨hone, hmerchantOne, hfeeOne, hall⟩, ?_⟩
    rw [hfilter]
    simp only [validatePaymentAsset, bind_eq_ok, ensure_eq_ok, exists_unit, validateAccount_eq_ok]
    exact ⟨(hpasses debit hdebitMem).account, hmode debit hdebitMem hdebit⟩

/-! ### The entries that are accepted -/

/-- What an entry is made of, next to its postings. -/
structure ValidHead (effectiveAt : Number) (id : String) (reference : InvoicePaymentReferenceV1) :
    Prop where
  id : identifierPattern id = true
  reference : validateReference reference = .ok ()
  effectiveAt : ∃ time, effectiveAt = .ofNat time ∧ time ≤ maxSafeInteger

theorem passes_iff : (∀ posting ∈ postings, posting.Passes) ↔
    (∀ posting ∈ postings, ∃ n, posting.amount = .ofNat n ∧ 0 < n ∧ n ≤ maxSafeInteger) ∧
      (∀ posting ∈ postings, ValidAccount posting.account) ∧
      ∀ posting ∈ postings, posting.side = "debit" ∨ posting.side = "credit" := by
  constructor
  · intro h
    exact ⟨fun posting hmem => (h posting hmem).amount, fun posting hmem => (h posting hmem).account,
      fun posting hmem => (h posting hmem).side⟩
  · intro h posting hmem
    exact ⟨h.2.1 posting hmem, h.1 posting hmem, h.2.2 posting hmem⟩

theorem side_of_kind {merchantId : String} {posting : PostingInput}
    (h : posting.isAssetDebit = true ∨ posting.isMerchantCredit merchantId = true ∨
      posting.isFeeCredit = true) : posting.side = "debit" ∨ posting.side = "credit" := by
  rcases h with hkind | hkind | hkind
  · simp only [PostingInput.isAssetDebit, Bool.and_eq_true, decide_eq_true_eq] at hkind
    exact .inl hkind.1
  · simp only [PostingInput.isMerchantCredit, Bool.and_eq_true, decide_eq_true_eq] at hkind
    exact .inr hkind.1
  · simp only [PostingInput.isFeeCredit, Bool.and_eq_true, decide_eq_true_eq] at hkind
    exact .inr hkind.1

/-- An entry with a valid head is accepted when its postings are acceptable, and holds their copies. -/
theorem createJournalEntryV1_eq_ok {effectiveAt : Number} {id : String} {time : Nat}
    (hhead : ValidHead effectiveAt id reference) (htime : effectiveAt.natural? = some time)
    {entry : JournalEntryV1} :
    createJournalEntryV1 ⟨effectiveAt, id, postings, reference⟩ = .ok entry ↔
      AcceptablePostings reference postings ∧
        entry = ⟨time, id, postings.map (·.copy), reference⟩ := by
  simp only [createJournalEntryV1, bind_eq_ok, assertIdentifier_eq_ok, exists_unit, unixTimestamp,
    orFail_eq_ok, ensure_eq_ok, Pass.foldlM_eq_ok, pure_eq_ok, Except.ok.injEq]
  constructor
  · intro h
    obtain ⟨-, -, stored, hstored, -, pass, ⟨hpasses, rfl⟩, htotals, hbalanced, hkinds, rfl⟩ := h
    obtain rfl : time = stored := Option.some.inj (htime.symm.trans hstored)
    simp only [Pass.after, Pass.start, Nat.zero_add, List.nil_append] at htotals hbalanced hkinds ⊢
    rw [validateInvoicePaymentPostings_eq_ok hpasses] at hkinds
    obtain ⟨hasset, hmerchant, hfee, hall, hmode⟩ := hkinds
    obtain ⟨hamounts, haccounts, -⟩ := passes_iff.mp hpasses
    exact ⟨⟨hamounts, haccounts, htotals.1, htotals.2, hbalanced, hasset, hmode, hmerchant, hfee, hall⟩,
      trivial⟩
  · intro h
    obtain ⟨hpostings, rfl⟩ := h
    have hpasses := passes_iff.mpr ⟨hpostings.amounts, hpostings.accounts,
      fun posting hmem => side_of_kind (hpostings.noOther posting hmem)⟩
    have hlength := (length_eq_counts (isAssetDebit_not_merchant reference.merchantId)
      isAssetDebit_not_fee (isMerchantCredit_not_fee reference.merchantId)).mpr hpostings.noOther
    have hasset := hpostings.assetDebit
    have hmerchant := hpostings.merchantCredit
    refine ⟨hhead.id, hhead.reference, time, htime, by omega, Pass.start.after postings,
      ⟨hpasses, rfl⟩, ?_, ?_, ?_, ?_⟩
    · simpa [Pass.after, Pass.start] using ⟨hpostings.debits_le, hpostings.credits_le⟩
    · simpa [Pass.after, Pass.start] using hpostings.balanced
    · simp only [Pass.after, Pass.start, List.nil_append]
      exact (validateInvoicePaymentPostings_eq_ok hpasses).mpr ⟨hasset, hmerchant, hpostings.feeCredit,
        hpostings.noOther, hpostings.matchesMode⟩
    · simp [Pass.after, Pass.start]

/-- The postings that `createInvoicePaymentJournalV1` builds. -/
def paymentPostings (assetAccount : LedgerAccountV1) (merchantId : String) (gross fee : Nat) :
    List PostingInput :=
  [⟨assetAccount, .ofNat gross, "debit"⟩, ⟨.merchantPayable merchantId, .ofNat (gross - fee), "credit"⟩] ++
    if 0 < fee then [⟨.feeRevenue, .ofNat fee, "credit"⟩] else []

theorem isAsset_of_matchesMode {account : LedgerAccountV1} {operatorId mode : String}
    (hmode : (settlementMode? mode).isSome = true) (h : MatchesMode account operatorId mode) :
    (∃ id, account = .operatorEcash id) ∨ ∃ id, account = .settlementAsset id := by
  by_cases hhold : mode = "trusted_hold"
  · exact .inl ⟨operatorId, h.1 hhold⟩
  · by_cases hconversion : mode = "immediate_conversion"
    · exact .inr (h.2 hconversion)
    · simp [settlementMode?, hhold, hconversion] at hmode

theorem validateReference_eq_ok : validateReference reference = .ok () ↔
    reference.kind = "invoice_payment" ∧ identifierPattern reference.invoiceId = true ∧
      identifierPattern reference.merchantId = true ∧ identifierPattern reference.operatorId = true ∧
      identifierPattern reference.paymentId = true ∧
      (settlementMode? reference.settlementMode).isSome = true := by
  simp only [validateReference, bind_eq_ok, ensure_eq_ok, exists_unit, assertIdentifier_eq_ok,
    validateSettlementMode]

theorem acceptable_paymentPostings {assetAccount : LedgerAccountV1} {gross fee : Nat}
    (hreference : validateReference reference = .ok ()) (haccount : ValidAccount assetAccount)
    (hmode : MatchesMode assetAccount reference.operatorId reference.settlementMode)
    (hfee : fee < gross) (hgross : gross ≤ maxSafeInteger) :
    AcceptablePostings reference (paymentPostings assetAccount reference.merchantId gross fee) := by
  obtain ⟨-, -, hmerchant, -, -, hmodes⟩ := validateReference_eq_ok.mp hreference
  have hasset : ∀ amount : Number, (⟨assetAccount, amount, "debit"⟩ : PostingInput).isAssetDebit = true := by
    intro amount
    rcases isAsset_of_matchesMode hmodes hmode with ⟨id, rfl⟩ | ⟨id, rfl⟩
    · rfl
    · rfl
  have hnatural : ∀ n, n ≤ maxSafeInteger → (Number.ofNat n).natural?.getD 0 = n := by
    intro n hn
    rw [Number.natural?_ofNat hn]
    rfl
  have hnet : gross - fee ≤ maxSafeInteger := by omega
  have hfeeLe : fee ≤ maxSafeInteger := by omega
  have hdebits : sideTotal "debit" (paymentPostings assetAccount reference.merchantId gross fee) =
      gross := by
    by_cases hpositive : 0 < fee
    · simp [paymentPostings, hpositive, PostingInput.natural, hnatural gross hgross,
        sideTotal]
    · simp [paymentPostings, hpositive, PostingInput.natural, hnatural gross hgross,
        sideTotal]
  have hcredits : sideTotal "credit" (paymentPostings assetAccount reference.merchantId gross fee) =
      gross := by
    by_cases hpositive : 0 < fee
    · simp [paymentPostings, hpositive, PostingInput.natural, hnatural _ hnet,
        hnatural fee hfeeLe, sideTotal]
      omega
    · simp [paymentPostings, hpositive, PostingInput.natural, hnatural _ hnet,
        sideTotal]
      omega
  have hmem : ∀ posting ∈ paymentPostings assetAccount reference.merchantId gross fee,
      posting = ⟨assetAccount, .ofNat gross, "debit"⟩ ∨
        posting = ⟨.merchantPayable reference.merchantId, .ofNat (gross - fee), "credit"⟩ ∨
        (0 < fee ∧ posting = ⟨.feeRevenue, .ofNat fee, "credit"⟩) := by
    intro posting hposting
    by_cases hpositive : 0 < fee
    · simpa [paymentPostings, hpositive] using hposting
    · simpa [paymentPostings, hpositive] using hposting
  have hmerchantAsset : ∀ amount : Number,
      (⟨.merchantPayable reference.merchantId, amount, "credit"⟩ : PostingInput).isAssetDebit = false :=
    fun _ => rfl
  have hfeeAsset : ∀ amount : Number,
      (⟨.feeRevenue, amount, "credit"⟩ : PostingInput).isAssetDebit = false := fun _ => rfl
  constructor
  case amounts =>
    intro posting hposting
    rcases hmem posting hposting with rfl | rfl | ⟨hpositive, rfl⟩
    · exact ⟨gross, rfl, by omega, hgross⟩
    · exact ⟨gross - fee, rfl, by omega, hnet⟩
    · exact ⟨fee, rfl, hpositive, hfeeLe⟩
  case accounts =>
    intro posting hposting
    rcases hmem posting hposting with rfl | rfl | ⟨-, rfl⟩
    · exact haccount
    · exact hmerchant
    · trivial
  case debits_le => rwa [hdebits]
  case credits_le => rwa [hcredits]
  case balanced => rw [hdebits, hcredits]
  case assetDebit =>
    by_cases hpositive : 0 < fee
    · simp [paymentPostings, hpositive, hasset, hmerchantAsset, hfeeAsset]
    · simp [paymentPostings, hpositive, hasset, hmerchantAsset]
  case matchesMode =>
    intro posting hposting hdebitKind
    rcases hmem posting hposting with rfl | rfl | ⟨-, rfl⟩
    · exact hmode
    · cases hdebitKind
    · cases hdebitKind
  case merchantCredit =>
    by_cases hpositive : 0 < fee
    · simp [paymentPostings, hpositive, PostingInput.isMerchantCredit]
    · simp [paymentPostings, hpositive, PostingInput.isMerchantCredit]
  case feeCredit =>
    by_cases hpositive : 0 < fee
    · simp [paymentPostings, hpositive, PostingInput.isFeeCredit]
    · simp [paymentPostings, hpositive, PostingInput.isFeeCredit]
  case noOther =>
    intro posting hposting
    rcases hmem posting hposting with rfl | rfl | ⟨-, rfl⟩
    · exact .inl (hasset _)
    · exact .inr (.inl (by simp [PostingInput.isMerchantCredit]))
    · exact .inr (.inr (by simp [PostingInput.isFeeCredit]))

theorem createInvoicePaymentJournalV1_eq_ok {input : InvoicePaymentJournalInput} {entry : JournalEntryV1} :
    createInvoicePaymentJournalV1 input = .ok entry ↔
      ∃ gross fee, input.grossAmount.natural? = some gross ∧ input.feeAmount.natural? = some fee ∧
        fee < gross ∧ (settlementMode? input.settlementMode).isSome = true ∧
        ValidAccount input.assetAccount ∧
        MatchesMode input.assetAccount input.operatorId input.settlementMode ∧
        identifierPattern input.merchantId = true ∧
        createJournalEntryV1 ⟨input.effectiveAt, input.journalEntryId,
          paymentPostings input.assetAccount input.merchantId gross fee, input.reference⟩ = .ok entry := by
  simp only [createInvoicePaymentJournalV1, validatePaymentAsset, validateSettlementMode,
    merchantPayableAccount, minorUnits, bind_eq_ok, ensure_eq_ok, exists_unit, orFail_eq_ok,
    assertIdentifier_eq_ok, validateAccount_eq_ok, pure_eq_ok, Except.ok.injEq]
  constructor
  · intro h
    obtain ⟨hmode, ⟨haccount, hmatches⟩, gross, hgross, fee, hfee, ⟨-, hlt⟩, net, hnet, _,
      ⟨hmerchant, rfl⟩, hentry⟩ := h
    obtain ⟨hnumber, -⟩ := Number.natural?_eq_some.mp hnet
    exact ⟨gross, fee, hgross, hfee, hlt, hmode, haccount, hmatches, hmerchant, by
      rw [paymentPostings, hnumber]; exact hentry⟩
  · intro h
    obtain ⟨gross, fee, hgross, hfee, hlt, hmode, haccount, hmatches, hmerchant, hentry⟩ := h
    obtain ⟨-, hle⟩ := Number.natural?_eq_some.mp hgross
    exact ⟨hmode, ⟨haccount, hmatches⟩, gross, hgross, fee, hfee, ⟨by omega, hlt⟩, gross - fee,
      Number.natural?_ofNat (by omega), _, ⟨hmerchant, rfl⟩, hentry⟩

/-- The sum of the amounts of the postings of a kind. -/
def kindTotal (kind : LedgerPostingV1 → Bool) (postings : List LedgerPostingV1) : Nat :=
  ((postings.filter kind).map (·.amount)).sum

end CashMesh.Domain
