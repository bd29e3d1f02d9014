import CashMesh.StellarSettlement.IncomingDiscipline
import CashMesh.StellarSettlement.Insertions
/-!
# A quote is reported paid only when Horizon shows its payment

Any number of incoming calls over one store and one ledger. A status that names a payment names a
successful payment of the ledger, of the exact amount, to the deposit account, with the memo of the
request that the quote was created with, closed before the quote expired; and no payment is named for
two quotes.
-/

namespace CashMesh.StellarSettlement

open CashMesh.Lib IncomingWorld

variable {QuoteId : Type} {processor : Processor QuoteId} {crates : Crates} {profile : StellarProfile}
variable {w w' : IncomingWorld} {ε α β : Type}

/-- A call that keeps the discipline from `w` on and returns only what satisfies `Q`. -/
abbrev IncomingSafe (crates : Crates) (profile : StellarProfile) (Q : α → IncomingWorld → Prop)
    (call : IncomingCall α) (w : IncomingWorld) : Prop :=
  Safe (performsIncoming crates profile) (IncomingWorld.discipline crates profile) Q
    (fun _ _ => True) call w

/-! ### The effects of a call -/

theorem incomingSafe_ofExcept {Q : β → IncomingWorld → Prop} {result : Except IncomingError α}
    {rest : α → IncomingCall β} (hrest : ∀ a, result = .ok a → IncomingSafe crates profile Q (rest a) w) :
    IncomingSafe crates profile Q (Process.ofExcept result >>= rest) w :=
  safe_ofExcept_bind hrest fun _ _ => trivial

theorem uses_scanForDeposits : scanForDeposits.Uses fun effect => ∃ inner, effect = .scan inner := by
  show (Process.embed _ _ _ scanDeposits : IncomingCall Unit).Uses _
  exact Process.uses_embed _ _ _ _

/-- A scan keeps the three disciplines, each by what was shown for it. -/
theorem safe_scanForDeposits (w : IncomingWorld) :
    IncomingSafe crates profile (fun _ _ => True) scanForDeposits w := by
  have hscan : Safe (performsIncoming crates profile)
      ((ScanWorld.discipline profile).comap (toScan crates profile)) _ _ scanForDeposits w :=
    safe_embed IncomingEffect.scan (fun _ answer => answer) scanError (toScan crates profile)
      (fun effect w answer w' h => scans_of_scansHorizon effect w answer w' h)
      (safe_scanDeposits profile (w.toScan crates profile))
  have hpassing : Safe (performsIncoming crates profile) ((passing crates profile).comap id) _ _
      scanForDeposits w :=
    safe_embed IncomingEffect.scan (fun _ answer => answer) scanError id (fun _ _ _ _ h => h)
      (passing_scanDeposits w)
  have hcrediting : Safe (performsIncoming crates profile) (crediting crates profile) _ _
      scanForDeposits w :=
    safe_of_uses
      (fun effect w₁ answer w₂ (heffect : ∃ inner, effect = .scan inner) hinv hperform => by
        obtain ⟨inner, rfl⟩ := heffect
        exact crediting_scans hinv hperform)
      uses_scanForDeposits
  exact safe_mono (fun _ _ _ => trivial) (fun _ _ _ => trivial) ((hscan.and hpassing).and hcrediting)

theorem safe_findMintQuote {quoteId : QuoteReference} {rest : Option MintQuoteRecord → IncomingCall β}
    {Q : β → IncomingWorld → Prop}
    (hrest : ∀ w₁ : IncomingWorld, IncomingSafe crates profile Q (rest (w₁.store.mintQuote quoteId)) w₁) :
    IncomingSafe crates profile Q (findMintQuote quoteId >>= rest) w := by
  intro w₁ hinv _ answer w₂ hperform
  obtain ⟨rfl | ⟨error, rfl⟩, rfl⟩ := hperform
  · exact ⟨Discipline.keeps_self _ hinv, hrest w₂⟩
  · exact ⟨Discipline.keeps_self _ hinv, trivial⟩

/-! ### What the calls answer -/

/-- A quote that answers a request for one, with the payment request that the answer holds. -/
structure CreatedAs (crates : Crates) (profile : StellarProfile)
    (options : CustomIncomingPaymentOptions QuoteId)
    (response : CreateIncomingPaymentResponse QuoteId) (quote : MintQuoteRecord) : Prop where
  amount : ∃ amount, options.amount = some amount ∧ cdkAmount amount = .ok quote.amount
  request : ∃ payment, buildDepositRequest crates profile quote.quoteId quote.amount = .ok payment ∧
    response.request = payment.toUri crates
  expiry : response.expiry = some quote.expiresAt
  lockedPubkey : options.pubkey = some quote.lockedPubkey

/-- An answered request has its quote in the store. -/
def IsCreated (processor : Processor QuoteId) (crates : Crates) (profile : StellarProfile)
    (options : CustomIncomingPaymentOptions QuoteId)
    (response : CreateIncomingPaymentResponse QuoteId) (w : IncomingWorld) : Prop :=
  ∃ quoteId quote, quoteReference processor options.quoteId = .ok quoteId ∧
    w.store.mintQuote quoteId = some quote ∧ CreatedAs crates profile options response quote

/-- A status names the claim that its quote has in the store. -/
def IsPaid (processor : Processor QuoteId) (identifier : PaymentIdentifier QuoteId)
    (status : WaitPaymentResponse QuoteId) (w : IncomingWorld) : Prop :=
  ∃ quoteId quote claim, paymentQuoteReference processor identifier = .ok quoteId ∧
    w.store.mintQuote quoteId = some quote ∧ quote.claim = some claim ∧
    status.paymentAmount = typedAmount quote.amount ∧ status.paymentId = claim.operationId.value ∧
    ∃ id, cdkQuoteId processor quoteId = .ok id ∧ status.paymentIdentifier = .quoteId id

/-- What a returned call has answered. -/
def IncomingAnswered (processor : Processor QuoteId) (crates : Crates) (profile : StellarProfile) :
    IncomingRequest QuoteId × IncomingResponse QuoteId → IncomingWorld → Prop
  | (.create (.custom options), .created response), w =>
      IsCreated processor crates profile options response w
  | (.check identifier, .status responses), w =>
      ∀ status ∈ responses, IsPaid processor identifier status w
  | _, _ => False

theorem IsCreated.kept {options : CustomIncomingPaymentOptions QuoteId}
    {response : CreateIncomingPaymentResponse QuoteId}
    (h : IsCreated processor crates profile options response w) (hkept : w.Kept w') :
    IsCreated processor crates profile options response w' := by
  obtain ⟨quoteId, quote, hid, hquote, hcreated⟩ := h
  obtain ⟨quote', hquote', rfl | ⟨-, claim, rfl⟩⟩ := hkept quoteId quote hquote
  · exact ⟨quoteId, quote', hid, hquote', hcreated⟩
  · exact ⟨quoteId, _, hid, hquote', ⟨hcreated.amount, hcreated.request, hcreated.expiry,
      hcreated.lockedPubkey⟩⟩

theorem IsPaid.kept {identifier : PaymentIdentifier QuoteId} {status : WaitPaymentResponse QuoteId}
    (h : IsPaid processor identifier status w) (hkept : w.Kept w') :
    IsPaid processor identifier status w' := by
  obtain ⟨quoteId, quote, claim, hid, hquote, hclaim, hstatus⟩ := h
  exact ⟨quoteId, quote, claim, hid, hkept.claimed hquote hclaim, hclaim, hstatus⟩

theorem stable_incomingAnswered :
    (IncomingWorld.discipline crates profile).Stable (IncomingAnswered processor crates profile) := by
  rintro ⟨request, response⟩ w w' hanswered hgrow
  have hkept : w.Kept w' := hgrow.2
  match request, response, hanswered with
  | .create (.custom options), .created response, hcreated =>
      exact IsCreated.kept hcreated hkept
  | .check identifier, .status responses, hpaid =>
      exact fun status hstatus => (hpaid status hstatus).kept hkept

/-! ### The calls -/

theorem checkIncomingOptions_ok {options : CustomIncomingPaymentOptions QuoteId}
    {amount : UsdcMinorUnits} {lockedPubkey : String}
    (h : checkIncomingOptions profile options = .ok (amount, lockedPubkey)) :
    (∃ named, options.amount = some named ∧ cdkAmount named = .ok amount) ∧
      options.pubkey = some lockedPubkey := by
  simp only [checkIncomingOptions, bind_eq_ok, mapError_eq_ok, orFail_eq_ok, ensure_eq_ok,
    exists_unit, Except.ok.injEq, Prod.mk.injEq] at h
  obtain ⟨-, named, hnamed, amount, hamount, -, pubkey, hpubkey, rfl, rfl⟩ := h
  exact ⟨⟨named, hnamed, hamount⟩, hpubkey⟩

theorem safe_createIncomingPaymentRequest (options : IncomingPaymentOptions QuoteId)
    (w : IncomingWorld) :
    IncomingSafe crates profile
      (fun response => IncomingAnswered processor crates profile (.create options, .created response))
      (createIncomingPaymentRequest processor crates profile options) w := by
  cases options with
  | other => trivial
  | custom options =>
      apply incomingSafe_ofExcept
      rintro ⟨amount, lockedPubkey⟩ hchecked
      intro w₁ hinv₁ _ now w₂ hperform
      obtain rfl := hperform
      refine ⟨Discipline.keeps_self _ hinv₁, ?_⟩
      apply incomingSafe_ofExcept
      intro expiry _
      apply incomingSafe_ofExcept
      rintro ⟨quote, payment⟩ hquote
      obtain ⟨hid, hunclaimed, rfl, rfl, rfl, hpayment, hmemo⟩ := incomingQuote_ok hquote
      obtain ⟨hamount, hpubkey⟩ := checkIncomingOptions_ok hchecked
      intro w₃ hinv₃ _ answer w₄ hperform
      rcases hperform with ⟨store, hinsert, rfl, rfl⟩ | ⟨error, -, rfl, rfl⟩
      · refine ⟨keeps_insert hinv₃ hunclaimed ⟨payment, hpayment, hmemo⟩ hinsert, ?_⟩
        exact ⟨quote.quoteId, quote, hid, StoreWorld.insertMintQuote_defines hinsert, hamount,
          ⟨payment, hpayment, rfl⟩, rfl, hpubkey⟩
      · exact ⟨Discipline.keeps_self _ hinv₃, trivial⟩

theorem isPaid_statusOf {identifier : PaymentIdentifier QuoteId} {quoteId : QuoteReference}
    {responses : List (WaitPaymentResponse QuoteId)}
    (hid : paymentQuoteReference processor identifier = .ok quoteId)
    (h : statusOf processor quoteId (w.store.mintQuote quoteId) = .ok responses) :
    ∀ status ∈ responses, IsPaid processor identifier status w := by
  intro status hstatus
  cases hquote : w.store.mintQuote quoteId with
  | none =>
      rw [hquote] at h
      obtain rfl := Except.ok.inj h
      cases hstatus
  | some quote =>
      rw [hquote] at h
      cases hclaim : quote.claim with
      | none =>
          simp only [statusOf, hclaim] at h
          obtain rfl := Except.ok.inj h
          cases hstatus
      | some claim =>
          simp only [statusOf, hclaim, bind_eq_ok, mapError_eq_ok, Except.ok.injEq] at h
          obtain ⟨id, hcdk, rfl⟩ := h
          obtain rfl := List.mem_singleton.mp hstatus
          exact ⟨quoteId, quote, claim, hid, hquote, hclaim, rfl, rfl, id, hcdk, rfl⟩

theorem safe_scanUnlessClaimed (quote : MintQuoteRecord) (w : IncomingWorld) :
    IncomingSafe crates profile (fun _ _ => True) (scanUnlessClaimed quote) w := by
  unfold scanUnlessClaimed
  split
  · exact safe_scanForDeposits w
  · trivial

theorem safe_checkIncomingPaymentStatus (identifier : PaymentIdentifier QuoteId) (w : IncomingWorld) :
    IncomingSafe crates profile
      (fun responses =>
        IncomingAnswered processor crates profile (.check identifier, .status responses))
      (checkIncomingPaymentStatus processor identifier) w := by
  apply incomingSafe_ofExcept
  intro quoteId hid
  rw [mapError_eq_ok] at hid
  apply safe_findMintQuote
  intro w₁
  cases w₁.store.mintQuote quoteId with
  | none => exact fun status hstatus => (List.not_mem_nil hstatus).elim
  | some quote =>
      show IncomingSafe crates profile _ (scanUnlessClaimed quote >>= _) w₁
      apply safe_bind
      refine safe_mono (fun _ w₂ _ => ?_) (fun _ _ h => h) (safe_scanUnlessClaimed quote w₁)
      apply safe_findMintQuote
      intro w₃
      show IncomingSafe crates profile _ (Process.ofExcept _) w₃
      cases hstatus : statusOf processor quoteId (w₃.store.mintQuote quoteId) with
      | error error => trivial
      | ok responses => exact isPaid_statusOf hid hstatus

theorem safe_incomingCall (request : IncomingRequest QuoteId) (w : IncomingWorld) :
    IncomingSafe crates profile (IncomingAnswered processor crates profile)
      (request.call processor crates profile) w := by
  cases request with
  | create options =>
      apply safe_bind
      exact safe_mono (fun _ _ h => h) (fun _ _ h => h) (safe_createIncomingPaymentRequest options w)
  | check identifier =>
      apply safe_bind
      exact safe_mono (fun _ _ h => h) (fun _ _ h => h) (safe_checkIncomingPaymentStatus identifier w)

variable {c : IncomingSystem QuoteId}

theorem sound_of_incomingReachable (hrun : IncomingReachable processor crates profile c) :
    (IncomingWorld.discipline crates profile).inv c.shared ∧
      ∀ result, .done result ∈ c.running →
        IncomingAnswered processor crates profile result c.shared := by
  have hsound : Pool.Sound (performsIncoming crates profile) (IncomingWorld.discipline crates profile)
      (IncomingAnswered processor crates profile) (fun (_ : IncomingError) _ => True)
      ⟨.initial, []⟩ :=
    ⟨inv_initial, fun p hp => by cases hp⟩
  obtain ⟨hend, -⟩ := Pool.sound_of_run stable_incomingAnswered (fun _ _ _ _ _ => trivial)
    (fun p w hstart _ => by
      obtain ⟨request, rfl⟩ := hstart
      exact safe_incomingCall request w)
    (fun w w' hinv hmove => hmove.keeps hinv) hsound hrun
  exact ⟨hend.inv, fun result hresult => hend.safe _ hresult⟩

/-! ### What was scanned -/

/-- The payments evaluated are those of the ledger up to the durable cursor, each once and in the order
of the ledger, no record up to it was one that cannot be read, and the claims are those of one pass. -/
theorem ledger_scanned_once (hrun : IncomingReachable processor crates profile c) :
    c.shared.evaluated =
        (c.shared.ledger.filter fun r => c.shared.store.Covers r.cursor).filterMap
          (LedgerRecord.payment crates profile) ∧
      (∀ r ∈ c.shared.ledger, c.shared.store.Covers r.cursor →
        ∃ payment, normalizeHorizonPayment crates profile r.record = .ok payment) ∧
      c.shared.evaluated.Pairwise (fun p₁ p₂ => p₁.pagingCursor < p₂.pagingCursor) ∧
      c.shared.store.SameDeposits (sequentialPass profile c.shared.history) := by
  obtain ⟨⟨hscan, hpassed⟩, -⟩ := (sound_of_incomingReachable hrun).1
  have hcovers : ∀ cursor, c.shared.store.Covers cursor ↔
      (cursor : WithBot LedgerCursor) ≤ c.shared.position :=
    (c.shared.toScan crates profile).covers_iff
  have hread : c.shared.evaluated =
      readUpTo LedgerRecord.cursor (LedgerRecord.payment crates profile) c.shared.position
        c.shared.ledger :=
    hscan.read.trans (readUpTo_map c.shared.position c.shared.ledger)
  refine ⟨?_, ?_, ?_, hscan.same⟩
  · rw [hread, readUpTo]
    simp only [hcovers]
  · intro r hr hcovered
    rw [hcovers] at hcovered
    cases hposition : c.shared.position with
    | bot =>
        rw [hposition] at hcovered
        exact absurd hcovered (not_le.mpr (WithBot.bot_lt_coe _))
    | coe cursor =>
        rw [hposition, WithBot.coe_le_coe] at hcovered
        exact (hpassed.passed cursor hposition).readable r hr hcovered
  · rw [hread]
    exact readUpTo_pairwise hpassed.ascending fun r _ payment hpayment =>
      (r.toSource crates profile).paged payment hpayment

/-! ### What was reported -/

/-- A record that pays a quote. -/
structure PaidBy (profile : StellarProfile) (quote : MintQuoteRecord)
    (operation : HorizonPaymentOperation) (transaction : HorizonTransaction) : Prop where
  joined : operation.base.transaction = some transaction ∧
    transaction.hash = operation.base.transactionHash ∧
    transaction.id = operation.base.transactionHash
  successful : operation.base.transactionSuccessful = true ∧ transaction.successful = true
  closed : ∃ ledger closed, u32TryFrom transaction.ledger = some ledger ∧ ledger ≠ 0 ∧
    u64TryFrom transaction.createdAt = some closed ∧ closed ≠ 0 ∧ closed ≤ quote.expiresAt
  destination : operation.toMuxed.getD operation.toAddress = profile.depositDestination.value
  asset : operation.asset.assetCode = some profile.asset.code ∧
    operation.asset.assetIssuer = some profile.asset.issuer.value
  amount : ∃ paid, StellarAmount.parse operation.amount = .ok paid ∧
    paid.stroops.toNat = quote.amount.value.toNat * 100000
  memo : transaction.memo.or transaction.memoBytes = some quote.correlationMemo
  memoType : transaction.memoType = "MEMO_HASH" ∨ transaction.memoType = "hash"

theorem paidBy_of_payable {quote : MintQuoteRecord} {payment : ObservedPayment}
    {operation : HorizonPaymentOperation} (hread : ReadAs profile operation payment)
    (hpays : PersistentState.Payable quote profile payment) :
    ∃ transaction, PaidBy profile quote operation transaction := by
  obtain ⟨transaction, hjoined, hhash, hid, hledger, hclosed, hsuccessful, hmemo, hmemoType⟩ :=
    hread.transaction
  obtain ⟨hfinal, hledger₀, hclosed₀⟩ := hpays.final
  have hboth : operation.base.transactionSuccessful = true ∧ transaction.successful = true := by
    rw [hsuccessful, Bool.and_eq_true] at hfinal
    exact hfinal
  exact ⟨transaction,
    { joined := ⟨hjoined, hhash, hid⟩
      successful := hboth
      closed := ⟨_, _, hledger, hledger₀, hclosed, hclosed₀, hpays.inTime⟩
      destination := by rw [← hread.destination, hpays.destination]
      asset := ⟨by rw [hread.assetCode, hpays.assetCode], by rw [hread.assetIssuer, hpays.assetIssuer]⟩
      amount := hread.amount ▸ hpays.amount
      memo := hmemo.symm.trans hpays.memo
      memoType := by
        have hkind := hpays.memoType
        rw [hmemoType] at hkind
        exact hkind.imp Option.some.inj Option.some.inj }⟩

/-- The record that a claim in the store was made for. -/
theorem record_of_claim (hinv : (IncomingWorld.discipline crates profile).inv w)
    {quoteId : QuoteReference} {quote : MintQuoteRecord} {claim : DepositClaim}
    (hquote : w.store.mintQuote quoteId = some quote) (hclaim : quote.claim = some claim) :
    ∃ r ∈ w.ledger, ∃ operation transaction, r.record = .payment operation ∧
      operation.base.id = claim.operationId.value ∧ PaidBy profile quote operation transaction := by
  obtain ⟨⟨hscan, -⟩, hcredited⟩ := hinv
  obtain ⟨paidProfile, payment, hseen, rfl, hpays⟩ :=
    hcredited.sound.paid quoteId quote claim hquote hclaim
  obtain ⟨seen, hevaluated, hpair⟩ := List.mem_map.mp hseen
  obtain ⟨rfl, rfl⟩ := Prod.mk.inj hpair
  have hread : w.evaluated = _ := hscan.read
  rw [hread] at hevaluated
  obtain ⟨source, hsource, hpayment⟩ := List.mem_filterMap.mp hevaluated
  obtain ⟨r, hr, rfl⟩ := List.mem_map.mp (List.mem_of_mem_filter hsource)
  obtain ⟨operation, hrecord, hreadAs⟩ :=
    normalizeHorizonPayment_some (LedgerRecord.payment_eq_some.mp hpayment)
  obtain ⟨transaction, hpaid⟩ := paidBy_of_payable hreadAs hpays
  exact ⟨r, hr, operation, transaction, hrecord, hreadAs.operationId.symm, hpaid⟩

/-- In every run of the incoming calls: a payment that a status names is a record of the ledger that
pays the quote, as the request for it that a call answered says; a payment is named for one quote
only, and the statuses of one quote all say the same. -/
theorem statuses_backed (hrun : IncomingReachable processor crates profile c) :
    (∀ identifier responses, .done (.check identifier, .status responses) ∈ c.running →
      ∀ status ∈ responses, ∃ quoteId quote,
        paymentQuoteReference processor identifier = .ok quoteId ∧
        c.shared.store.mintQuote quoteId = some quote ∧
        status.paymentAmount = typedAmount quote.amount ∧
        (∃ deposit, buildDepositRequest crates profile quoteId quote.amount = .ok deposit ∧
          deposit.memo = some quote.correlationMemo) ∧
        ∃ r ∈ c.shared.ledger, ∃ operation transaction, r.record = .payment operation ∧
          operation.base.id = status.paymentId ∧ PaidBy profile quote operation transaction) ∧
    (∀ options response, .done (.create (.custom options), .created response) ∈ c.running →
      ∃ quoteId quote, quoteReference processor options.quoteId = .ok quoteId ∧
        c.shared.store.mintQuote quoteId = some quote ∧
        CreatedAs crates profile options response quote) ∧
    ∀ identifier₁ responses₁ identifier₂ responses₂,
      .done (.check identifier₁, .status responses₁) ∈ c.running →
      .done (.check identifier₂, .status responses₂) ∈ c.running →
      ∀ status₁ ∈ responses₁, ∀ status₂ ∈ responses₂,
        (paymentQuoteReference processor identifier₁ = paymentQuoteReference processor identifier₂ ↔
          status₁.paymentId = status₂.paymentId) ∧
        (status₁.paymentId = status₂.paymentId → status₁ = status₂) := by
  obtain ⟨hinv, hanswered⟩ := sound_of_incomingReachable hrun
  have hsound : (c.shared.deposits profile).Sound := hinv.2.sound
  refine ⟨?_, fun options response hdone => hanswered _ hdone, ?_⟩
  · intro identifier responses hdone status hstatus
    obtain ⟨quoteId, quote, claim, hid, hquote, hclaim, hamount, hpayment, -⟩ :=
      hanswered _ hdone status hstatus
    obtain ⟨r, hr, operation, transaction, hrecord, hoperation, hpaid⟩ :=
      record_of_claim hinv hquote hclaim
    obtain ⟨deposit, hdeposit, hmemo⟩ := hinv.2.quoted quoteId quote hquote
    rw [hsound.agree.keyed quoteId quote hquote] at hdeposit
    exact ⟨quoteId, quote, hid, hquote, hamount, ⟨deposit, hdeposit, hmemo⟩, r, hr, operation,
      transaction, hrecord, hoperation.trans hpayment.symm, hpaid⟩
  · intro identifier₁ responses₁ identifier₂ responses₂ hdone₁ hdone₂ status₁ hstatus₁ status₂ hstatus₂
    obtain ⟨id₁, quote₁, claim₁, hid₁, hquote₁, hclaim₁, hamount₁, hpayment₁, cdk₁, hcdk₁, hnamed₁⟩ :=
      hanswered _ hdone₁ status₁ hstatus₁
    obtain ⟨id₂, quote₂, claim₂, hid₂, hquote₂, hclaim₂, hamount₂, hpayment₂, cdk₂, hcdk₂, hnamed₂⟩ :=
      hanswered _ hdone₂ status₂ hstatus₂
    have hsame : status₁.paymentId = status₂.paymentId → id₁ = id₂ := by
      intro hpayment
      have hoperation : claim₁.operationId = claim₂.operationId := by
        have hvalue : claim₁.operationId.value = claim₂.operationId.value := by
          rw [← hpayment₁, ← hpayment₂, hpayment]
        cases hop₁ : claim₁.operationId
        cases hop₂ : claim₂.operationId
        rw [hop₁, hop₂] at hvalue
        exact congrArg _ hvalue
      exact hsound.credits.operation_once id₁ id₂ claim₁ claim₂ ⟨quote₁, hquote₁, hclaim₁⟩
        ⟨quote₂, hquote₂, hclaim₂⟩ hoperation
    have hequal : id₁ = id₂ → status₁ = status₂ := by
      rintro rfl
      obtain rfl := Option.some.inj (hquote₁.symm.trans hquote₂)
      obtain rfl := Option.some.inj (hclaim₁.symm.trans hclaim₂)
      obtain rfl := Except.ok.inj (hcdk₁.symm.trans hcdk₂)
      cases status₁
      cases status₂
      rw [WaitPaymentResponse.mk.injEq]
      exact ⟨hnamed₁.trans hnamed₂.symm, hamount₁.trans hamount₂.symm,
        hpayment₁.trans hpayment₂.symm⟩
    refine ⟨⟨fun hids => ?_, fun hpayment => ?_⟩, fun hpayment => hequal (hsame hpayment)⟩
    · rw [hid₁, hid₂] at hids
      rw [hequal (Except.ok.inj hids)]
    · rw [hid₁, hid₂, hsame hpayment]

/-! ### A run

One call files a quote, its payment closes, and another call finds it. -/

section Sample

deriving instance DecidableEq for PaymentIdentifier, CustomIncomingPaymentOptions,
  IncomingPaymentOptions, CreateIncomingPaymentResponse, WaitPaymentResponse, IncomingRequest,
  IncomingResponse

theorem sampleLimit_positive : (25000 : UInt64) ≠ 0 := by
  decide

def sampleIncomingProfile : StellarProfile := Sep7Sample.profile ⟨25000, sampleLimit_positive⟩

def sampleIncomingProcessor : Processor String :=
  { quoteIdText := id, parseQuoteId := some, parsePaymentRequest := fun _ => .error "" }

/-- A store that can always be written and a Horizon that always answers. -/
def respondIncoming (crates : Crates) (profile : StellarProfile) :
    (effect : IncomingEffect) → IncomingWorld → IncomingAnswer effect × IncomingWorld
  | .unixSeconds, w => (1000, w)
  | .insertMintQuote quote, w =>
      match PersistentState.insertMintQuote quote w.store with
      | .ok store => (.ok (), { w with store := store, history := w.history ++ [.inserted quote] })
      | .error error => (.error error, w)
  | .mintQuote quoteId, w => (.ok (w.store.mintQuote quoteId), w)
  | .scan .snapshot, w => (.ok w.store.pagingCursor, w)
  | .scan (.paymentsAfter cursor), w =>
      ((horizonPaymentsAfter crates profile profile.network.passphrase
        ((pageAfter LedgerRecord.cursor (tokenPosition (cursor.map LedgerCursor.toText))
          horizonPageLimit w.ledger).map LedgerRecord.record)).mapError
            fun error => .source ⟨error.toText⟩, w)
  | .scan (.observePayment payment), w =>
      (.ok (w.store.observePayment profile payment).1, w.observe profile payment)
  | .scan (.advanceCursor cursor), w =>
      (.ok (), { w with store := w.store.advanceCursor cursor })

theorem performs_respondIncoming (effect : IncomingEffect) (w : IncomingWorld) :
    performsIncoming crates profile effect w (respondIncoming crates profile effect w).1
      (respondIncoming crates profile effect w).2 := by
  cases effect with
  | unixSeconds => rfl
  | insertMintQuote quote =>
      cases hinsert : PersistentState.insertMintQuote quote w.store with
      | ok store =>
          simp only [respondIncoming, hinsert]
          exact .inl ⟨store, hinsert, rfl, rfl⟩
      | error error =>
          simp only [respondIncoming, hinsert]
          exact .inr ⟨error, .inl hinsert, rfl, rfl⟩
  | mintQuote quoteId => exact ⟨.inl rfl, rfl⟩
  | scan effect =>
      cases effect with
      | snapshot => exact ⟨.inl rfl, rfl⟩
      | paymentsAfter cursor =>
          exact ⟨.inl ⟨profile.network.passphrase, horizonPageLimit, le_refl _, rfl⟩, rfl⟩
      | observePayment payment => exact .inl ⟨rfl, rfl⟩
      | advanceCursor cursor => exact .inl ⟨rfl, rfl⟩

theorem reachable_incomingCall (request : IncomingRequest QuoteId)
    {ps : List (IncomingCall (IncomingRequest QuoteId × IncomingResponse QuoteId))}
    (hrun : IncomingReachable processor crates profile ⟨w, ps⟩) :
    IncomingReachable processor crates profile
      ⟨((request.call processor crates profile).runWith (respondIncoming crates profile) w).2,
        .ofExcept ((request.call processor crates profile).runWith
          (respondIncoming crates profile) w).1 :: ps⟩ :=
  (hrun.tail (.start ⟨request, rfl⟩)).trans
    (@Pool.run_of_runWith _ _ _ _ _ _ _ _ _ id _ performs_respondIncoming _ w ps)

def sampleIncomingOptions : CustomIncomingPaymentOptions String :=
  { method := "stellar"
    amount := some { value := 125, unit := .usdc }
    unixExpiry := none
    quoteId := Sep7Sample.quoteId.value
    pubkey := some "0279be667ef9dcbbac55a06295ce870b07029bfcdb2dce28d959f2815b16f81798" }

def sampleHorizonPayment : HorizonPaymentOperation :=
  let hash := "abababababababababababababababababababababababababababababababab"
  { base :=
      { id := "12884905985"
        pagingToken := "12884905985"
        transactionHash := hash
        transactionSuccessful := true
        transaction := some
          { id := hash
            hash
            successful := true
            ledger := 3
            createdAt := 1100
            memoType := "hash"
            memo := some "o6nh7ZcyyrKIaBJ74A8c6SGsrv3Vw7I6bp4Acr2cGjQ="
            memoBytes := none } }
    asset :=
      { assetType := "credit_alphanum4"
        assetCode := some "USDC"
        assetIssuer := some circleTestnetUsdcIssuer }
    toAddress := Sep7Sample.destination
    toMuxed := none
    amount := "1.2500000" }

theorem samplePagingToken_lt : 12884905985 < 2 ^ 128 := by
  decide

def sampleLedgerRecord : LedgerRecord :=
  { record := .payment sampleHorizonPayment
    cursor := ⟨⟨12884905985, samplePagingToken_lt⟩⟩
    paged := by rfl }

def sampleCheck : IncomingRequest String := .check (.quoteId Sep7Sample.quoteId.value)

/-- The world after the first call. -/
def sampleFiledWorld : IncomingWorld :=
  ((IncomingRequest.call sampleIncomingProcessor Sep7Sample.crates sampleIncomingProfile
    (.create (.custom sampleIncomingOptions))).runWith
      (respondIncoming Sep7Sample.crates sampleIncomingProfile) .initial).2

/-- The world and the answer after the second call. -/
def sampleReported :
    Except IncomingError (IncomingRequest String × IncomingResponse String) × IncomingWorld :=
  (sampleCheck.call sampleIncomingProcessor Sep7Sample.crates sampleIncomingProfile).runWith
    (respondIncoming Sep7Sample.crates sampleIncomingProfile)
    { sampleFiledWorld with ledger := [sampleLedgerRecord] }

def sampleStatus : WaitPaymentResponse String :=
  { paymentIdentifier := .quoteId Sep7Sample.quoteId.value
    paymentAmount := { value := 125, unit := .usdc }
    paymentId := "12884905985" }

theorem sampleReported_paid : sampleReported.1 = .ok (sampleCheck, .status [sampleStatus]) := by
  apply eq_ok_of_toOption
  decide +kernel

theorem reachable_sampleReported :
    ∃ ps, IncomingReachable sampleIncomingProcessor Sep7Sample.crates sampleIncomingProfile
      ⟨sampleReported.2, .done (sampleCheck, .status [sampleStatus]) :: ps⟩ := by
  have hfiled : IncomingReachable sampleIncomingProcessor Sep7Sample.crates sampleIncomingProfile
      ⟨sampleFiledWorld, _⟩ :=
    reachable_incomingCall (.create (.custom sampleIncomingOptions)) .refl
  have hempty : sampleFiledWorld.ledger = [] :=
    List.eq_nil_of_length_eq_zero (by decide +kernel)
  have hclosed : IncomingWorld.Moves sampleFiledWorld
      { sampleFiledWorld with ledger := sampleFiledWorld.ledger ++ [sampleLedgerRecord] } :=
    .closed fun r hr => (List.not_mem_nil (hempty ▸ hr)).elim
  rw [hempty, List.nil_append] at hclosed
  have hreported := reachable_incomingCall sampleCheck (hfiled.tail (.world hclosed))
  change IncomingReachable _ _ _ ⟨sampleReported.2, .ofExcept sampleReported.1 :: _⟩ at hreported
  rw [sampleReported_paid] at hreported
  exact ⟨_, hreported⟩

theorem ledger_scanned_once_reported :
    sampleReported.2.evaluated.map (·.operationId.value) = ["12884905985"] ∧
      sampleReported.2.store.SameDeposits
        (sequentialPass sampleIncomingProfile sampleReported.2.history) := by
  have hcovered : ((sampleReported.2.ledger.filter fun r =>
      sampleReported.2.store.Covers r.cursor).filterMap
        (LedgerRecord.payment Sep7Sample.crates sampleIncomingProfile)).map (·.operationId.value) =
          ["12884905985"] := by
    decide +kernel
  obtain ⟨ps, hrun⟩ := reachable_sampleReported
  obtain ⟨hread, -, -, hsame⟩ := ledger_scanned_once hrun
  refine ⟨?_, hsame⟩
  rw [hread]
  exact hcovered

theorem statuses_backed_reported :
    ∃ r ∈ sampleReported.2.ledger, ∃ quote operation transaction, r.record = .payment operation ∧
      operation.base.id = "12884905985" ∧
      PaidBy sampleIncomingProfile quote operation transaction := by
  obtain ⟨ps, hrun⟩ := reachable_sampleReported
  obtain ⟨hbacked, -, -⟩ := statuses_backed hrun
  obtain ⟨-, quote, -, -, -, -, r, hr, operation, transaction, hrecord, hoperation, hpaid⟩ :=
    hbacked _ _ List.mem_cons_self sampleStatus List.mem_cons_self
  exact ⟨r, hr, quote, operation, transaction, hrecord, hoperation, hpaid⟩

end Sample

end CashMesh.StellarSettlement
