import CashMesh.StellarSettlement.Deposits
import Mathlib.Logic.Relation
/-!
# Every deposit credits one quote

The mint quotes of one store over any sequence of its operations. The world holds, beside the store,
the records in the hands of the callers and every payment the store was shown: the claim field of a
record is private, so a caller has a record because it built one, which is unpaid, or because it read
one from the store.
-/

namespace CashMesh.StellarSettlement

open CashMesh.Lib

structure DepositWorld where
  store : PersistentState
  records : List MintQuoteRecord
  observed : List (StellarProfile × ObservedPayment)

namespace DepositWorld

/-- An empty journal, before any quote. -/
def initial : DepositWorld :=
  { store := .default, records := [], observed := [] }

/-- One operation. An update that fails, or whose journal could not be written, leaves the store as
it was and is no step. -/
inductive Step : DepositWorld → DepositWorld → Prop
  | built {w quoteId amount expiresAt correlationMemo lockedPubkey quote}
      (hnew : MintQuoteRecord.new quoteId amount expiresAt correlationMemo lockedPubkey =
        .ok quote) : Step w { w with records := quote :: w.records }
  | read {w : DepositWorld} {quoteId quote} (hread : w.store.mintQuote quoteId = some quote) :
      Step w { w with records := quote :: w.records }
  | inserted {w quote store} (hheld : quote ∈ w.records)
      (hinsert : PersistentState.insertMintQuote quote w.store = .ok store) :
      Step w { w with store := store }
  | observed {w : DepositWorld} {profile payment} :
      Step w { w with
        store := (w.store.observePayment profile payment).2
        observed := (profile, payment) :: w.observed }
  | advanced {w : DepositWorld} {cursor} :
      Step w { w with store := w.store.advanceCursor cursor }
  | melted {w : DepositWorld} {meltQuotes} :
      Step w { w with store := { w.store with meltQuotes := meltQuotes } }

abbrev Run : DepositWorld → DepositWorld → Prop :=
  Relation.ReflTransGen Step

def Reachable : DepositWorld → Prop :=
  Run initial

end DepositWorld

/-! ### The claims and the maps are one relation -/

theorem lookup_insert_of_none {α β : Type} [DecidableEq α] {map : Finmap fun _ : α => β} {key : α}
    (hnone : map.lookup key = none) (value : β) (key' : α) (value' : β) :
    (map.insert key value).lookup key' = some value' ↔
      key' = key ∧ value' = value ∨ map.lookup key' = some value' := by
  by_cases hkey : key' = key
  · subst hkey
    rw [Finmap.lookup_insert, hnone]
    simp [eq_comm]
  · rw [Finmap.lookup_insert_of_ne _ hkey]
    simp [hkey]

namespace PersistentState

variable {state : PersistentState} {quoteId : QuoteReference} {quote : MintQuoteRecord}
variable {profile : StellarProfile} {payment : ObservedPayment} {claim : DepositClaim}

/-- The records are filed under their ids, their memos are distinct, and each map holds exactly the
claims on the records. -/
structure ClaimsAgree (state : PersistentState) : Prop where
  keyed : ∀ quoteId quote, state.mintQuote quoteId = some quote → quote.quoteId = quoteId
  correlated : ∀ id₁ id₂ q₁ q₂, state.mintQuote id₁ = some q₁ → state.mintQuote id₂ = some q₂ →
    q₁.correlationMemo = q₂.correlationMemo → id₁ = id₂
  operations : ∀ operationId quoteId, state.claimedOperations.lookup operationId = some quoteId ↔
    ∃ claim, state.Claimed quoteId claim ∧ claim.operationId = operationId
  transactions : ∀ transactionHash quoteId,
    state.claimedTransactions.lookup transactionHash = some quoteId ↔
      ∃ claim, state.Claimed quoteId claim ∧ claim.transactionHash = transactionHash

theorem claimsAgree_default : PersistentState.default.ClaimsAgree := by
  constructor <;> simp [default, mintQuote, Claimed]

theorem mintQuote_insert (state : PersistentState) (quoteId : QuoteReference)
    (quote : MintQuoteRecord) (q : QuoteReference) :
    { state with mintQuotes := state.mintQuotes.insert quoteId quote }.mintQuote q =
      if q = quoteId then some quote else state.mintQuote q := by
  by_cases hq : q = quoteId
  · subst hq
    simp [mintQuote]
  · simp [mintQuote, hq]

theorem mintQuote_recordClaim (q : QuoteReference) :
    (state.recordClaim payment quoteId quote).mintQuote q =
      if q = quoteId then some { quote with claim := some payment.claim } else state.mintQuote q :=
  mintQuote_insert state quoteId _ q

theorem claimed_insert (hnone : state.mintQuote quoteId = none) (hunclaimed : quote.claim = none)
    (q : QuoteReference) (claim : DepositClaim) :
    Claimed { state with mintQuotes := state.mintQuotes.insert quoteId quote } q claim ↔
      state.Claimed q claim := by
  simp only [Claimed, mintQuote_insert]
  by_cases hq : q = quoteId
  · subst hq
    simp [hnone, hunclaimed]
  · simp [hq]

theorem claimed_recordClaim (hquote : state.mintQuote quoteId = some quote)
    (hunclaimed : quote.claim = none) (q : QuoteReference) (claim : DepositClaim) :
    (state.recordClaim payment quoteId quote).Claimed q claim ↔
      q = quoteId ∧ claim = payment.claim ∨ state.Claimed q claim := by
  simp only [Claimed, mintQuote_recordClaim]
  by_cases hq : q = quoteId
  · subst hq
    simp [hquote, hunclaimed, eq_comm]
  · simp [hq]

theorem ClaimsAgree.insert (hagree : state.ClaimsAgree)
    (hnone : state.mintQuote quote.quoteId = none) (hunclaimed : quote.claim = none)
    (hmemo : ∀ quoteId existing, state.mintQuote quoteId = some existing →
      existing.quoteId ≠ quote.quoteId → existing.correlationMemo ≠ quote.correlationMemo) :
    ClaimsAgree { state with mintQuotes := state.mintQuotes.insert quote.quoteId quote } := by
  have hapart : ∀ id q, state.mintQuote id = some q →
      id ≠ quote.quoteId ∧ q.correlationMemo ≠ quote.correlationMemo := by
    intro id q hq
    have hid : id ≠ quote.quoteId := by
      rintro rfl
      simp [hnone] at hq
    exact ⟨hid, hmemo id q hq (hagree.keyed id q hq ▸ hid)⟩
  refine ⟨?_, ?_, ?_, ?_⟩
  · intro id q hq
    rw [mintQuote_insert] at hq
    split_ifs at hq with hid
    · exact hid ▸ congrArg (·.quoteId) (Option.some.inj hq).symm
    · exact hagree.keyed id q hq
  · intro id₁ id₂ q₁ q₂ h₁ h₂ hsame
    rw [mintQuote_insert] at h₁ h₂
    split_ifs at h₁ h₂ with hid₁ hid₂ hid₂
    · exact hid₁.trans hid₂.symm
    · obtain rfl := Option.some.inj h₁
      exact absurd hsame.symm (hapart id₂ q₂ h₂).2
    · obtain rfl := Option.some.inj h₂
      exact absurd hsame (hapart id₁ q₁ h₁).2
    · exact hagree.correlated id₁ id₂ q₁ q₂ h₁ h₂ hsame
  · intro operationId quoteId
    simp only [claimed_insert hnone hunclaimed]
    exact hagree.operations operationId quoteId
  · intro transactionHash quoteId
    simp only [claimed_insert hnone hunclaimed]
    exact hagree.transactions transactionHash quoteId

theorem ClaimsAgree.recordClaim (hagree : state.ClaimsAgree)
    (hquote : state.mintQuote quoteId = some quote) (hunclaimed : quote.claim = none)
    (hoperation : state.claimedOperations.lookup payment.operationId = none)
    (htransaction : state.claimedTransactions.lookup payment.transactionHash = none) :
    (state.recordClaim payment quoteId quote).ClaimsAgree := by
  have hkept : ∀ id q, (state.recordClaim payment quoteId quote).mintQuote id = some q →
      ∃ old, state.mintQuote id = some old ∧ q.quoteId = old.quoteId ∧
        q.correlationMemo = old.correlationMemo := by
    intro id q hq
    rw [mintQuote_recordClaim] at hq
    split_ifs at hq with hid
    · obtain rfl := Option.some.inj hq
      exact ⟨quote, hid ▸ hquote, rfl, rfl⟩
    · exact ⟨q, hq, rfl, rfl⟩
  refine ⟨?_, ?_, ?_, ?_⟩
  · intro id q hq
    obtain ⟨old, hold, hid, -⟩ := hkept id q hq
    exact hid.trans (hagree.keyed id old hold)
  · intro id₁ id₂ q₁ q₂ h₁ h₂ hsame
    obtain ⟨old₁, hold₁, -, hmemo₁⟩ := hkept id₁ q₁ h₁
    obtain ⟨old₂, hold₂, -, hmemo₂⟩ := hkept id₂ q₂ h₂
    exact hagree.correlated id₁ id₂ old₁ old₂ hold₁ hold₂ (hmemo₁ ▸ hmemo₂ ▸ hsame)
  · intro operationId q
    have hlookup := lookup_insert_of_none hoperation quoteId operationId q
    simp only [claimed_recordClaim hquote hunclaimed, or_and_right, exists_or]
    refine hlookup.trans (or_congr ?_ (hagree.operations operationId q))
    constructor
    · rintro ⟨rfl, rfl⟩
      exact ⟨payment.claim, ⟨rfl, rfl⟩, rfl⟩
    · rintro ⟨claim, ⟨rfl, rfl⟩, rfl⟩
      exact ⟨rfl, rfl⟩
  · intro transactionHash q
    have hlookup := lookup_insert_of_none htransaction quoteId transactionHash q
    simp only [claimed_recordClaim hquote hunclaimed, or_and_right, exists_or]
    refine hlookup.trans (or_congr ?_ (hagree.transactions transactionHash q))
    constructor
    · rintro ⟨rfl, rfl⟩
      exact ⟨payment.claim, ⟨rfl, rfl⟩, rfl⟩
    · rintro ⟨claim, ⟨rfl, rfl⟩, rfl⟩
      exact ⟨rfl, rfl⟩

theorem covers_observePayment {cursor : LedgerCursor} (profile : StellarProfile)
    (payment : ObservedPayment) (h : state.Covers cursor) :
    (state.observePayment profile payment).2.Covers cursor := by
  rcases observePayment_cases profile payment state with ⟨-, hsame⟩ | ⟨hahead, hmoved⟩
  · rw [hsame]
    exact h
  · obtain ⟨current, hcurrent, hle⟩ := h
    have hlt : current.value < payment.pagingCursor.value :=
      Fin.not_le.mp fun hge => hahead ⟨current, hcurrent, hge⟩
    rw [hmoved]
    exact ⟨payment.pagingCursor, rfl, Fin.le_trans hle (Fin.le_of_lt hlt)⟩

theorem covers_advanceCursor {cursor next : LedgerCursor} (h : state.Covers cursor) :
    (state.advanceCursor next).Covers cursor := by
  unfold advanceCursor
  split_ifs with hnext
  · exact h
  · obtain ⟨current, hcurrent, hle⟩ := h
    have hlt : current.value < next.value :=
      Fin.not_le.mp fun hge => hnext ⟨current, hcurrent, hge⟩
    exact ⟨next, rfl, Fin.le_trans hle (Fin.le_of_lt hlt)⟩

theorem mintQuote_advanceCursor (next : LedgerCursor) (q : QuoteReference) :
    (state.advanceCursor next).mintQuote q = state.mintQuote q := by
  unfold advanceCursor
  split_ifs <;> rfl

theorem ClaimsAgree.advanceCursor (hagree : state.ClaimsAgree) (next : LedgerCursor) :
    (state.advanceCursor next).ClaimsAgree := by
  unfold PersistentState.advanceCursor
  split_ifs
  · exact hagree
  · exact ⟨hagree.keyed, hagree.correlated, hagree.operations, hagree.transactions⟩

/-- An observation either leaves every quote and map as it is, or credits one quote that had no
claim with a payment that is payable to it. -/
theorem observePayment_credits (hagree : state.ClaimsAgree) (profile : StellarProfile)
    (payment : ObservedPayment) :
    let state' := (state.observePayment profile payment).2
    state'.ClaimsAgree ∧
      ((∀ q, state'.mintQuote q = state.mintQuote q) ∨
        ∃ quoteId quote, state.mintQuote quoteId = some quote ∧ quote.claim = none ∧
          Payable quote profile payment ∧
          ∀ q, state'.mintQuote q =
            if q = quoteId then some { quote with claim := some payment.claim }
            else state.mintQuote q) := by
  intro state'
  rcases observePayment_cases profile payment state with ⟨-, hsame⟩ | ⟨-, hmoved⟩
  · have hstate' : state' = state := hsame
    rw [hstate']
    exact ⟨hagree, .inl fun _ => rfl⟩
  · have hstate' : state' = _ := hmoved
    rw [hstate']
    rcases evaluatePayment_cases profile payment state with hsame | ⟨quoteId, quote, hpayable, hnext⟩
    · rw [hsame]
      exact ⟨⟨hagree.keyed, hagree.correlated, hagree.operations, hagree.transactions⟩,
        .inl fun _ => rfl⟩
    · obtain ⟨hquote, hunclaimed, hpays, hoperation, htransaction⟩ :=
        payableQuote_ok hagree.keyed hpayable
      have hnew := hagree.recordClaim hquote hunclaimed hoperation htransaction
      rw [hnext]
      exact ⟨⟨hnew.keyed, hnew.correlated, hnew.operations, hnew.transactions⟩,
        .inr ⟨quoteId, quote, hquote, hunclaimed, hpays, mintQuote_recordClaim⟩⟩

end PersistentState

/-! ### Runs -/

namespace DepositWorld

open PersistentState

/-! A quote of a dollar and twenty-five cents, paid by one operation. -/

def sampleAccount : StellarAddress :=
  ⟨"GA7QYNF7SOWQ3GLR2BGMZEHXAVIRZA4KVWLTJJFC7MGXUA74P7UJVSGZ"⟩

def sampleDepositCursor : LedgerCursor := ⟨7⟩

def sampleDeposit : ObservedPayment :=
  { networkPassphrase := stellarTestnetPassphrase
    networkId := stellarTestnetNetworkId
    operationId := ⟨"operation-one"⟩
    pagingCursor := sampleDepositCursor
    transactionHash :=
      ⟨"abababababababababababababababababababababababababababababababab",
        ⟨by decide, by decide, by decide⟩⟩
    ledgerSequence := 11
    transactionSuccessful := true
    ledgerClosedAt := 1000
    destination := sampleAccount
    assetCode := "USDC"
    assetIssuer := ⟨circleTestnetUsdcIssuer⟩
    amount := "1.2500000"
    memo := some "memo-one"
    memoType := some "hash" }

def sampleMintQuote : MintQuoteRecord :=
  { quoteId := ⟨"quote-two", by decide⟩
    amount := ⟨125, by decide⟩
    expiresAt := 1900
    correlationMemo := "memo-one"
    lockedPubkey := "pubkey"
    claim := none }

def sampleQuotedStore : PersistentState :=
  { PersistentState.default with mintQuotes := Finmap.insert sampleMintQuote.quoteId sampleMintQuote ∅ }

def samplePaidWorld : DepositWorld :=
  { store := (sampleQuotedStore.observePayment (.testnetUsdc sampleAccount) sampleDeposit).2
    records := [sampleMintQuote]
    observed := [(.testnetUsdc sampleAccount, sampleDeposit)] }

theorem insert_sampleMintQuote : insertMintQuote sampleMintQuote .default = .ok sampleQuotedStore := by
  simp [insertMintQuote, mintQuoteValues, PersistentState.default, sampleQuotedStore, ensure]

theorem reachable_samplePaidWorld : Reachable samplePaidWorld := by
  have hnew : MintQuoteRecord.new sampleMintQuote.quoteId sampleMintQuote.amount 1900 "memo-one"
      "pubkey" = .ok sampleMintQuote := by
    have hmemo : isBlank "memo-one" = false := by decide
    have hpubkey : isBlank "pubkey" = false := by decide
    simp [MintQuoteRecord.new, ensure, hmemo, hpubkey, sampleMintQuote]
  have hbuilt : Step initial ⟨.default, [sampleMintQuote], []⟩ := .built hnew
  have hinserted : Step ⟨.default, [sampleMintQuote], []⟩ ⟨sampleQuotedStore, [sampleMintQuote], []⟩ :=
    .inserted List.mem_cons_self insert_sampleMintQuote
  exact ((Relation.ReflTransGen.single hbuilt).tail hinserted).tail .observed

variable {w w' : DepositWorld}

/-- What holds of a world after any run. A record in the hands of a caller is unpaid, or is the record
the store still has. -/
structure Sound (w : DepositWorld) : Prop where
  agree : w.store.ClaimsAgree
  held : ∀ quote ∈ w.records, quote.claim = none ∨ w.store.mintQuote quote.quoteId = some quote
  paid : ∀ quoteId quote claim, w.store.mintQuote quoteId = some quote →
    quote.claim = some claim → ∃ profile payment, (profile, payment) ∈ w.observed ∧
      payment.claim = claim ∧ Payable quote profile payment

/-- A claimed quote stays as it is, and the cursor never decreases. -/
structure Continues (w w' : DepositWorld) : Prop where
  claimed : ∀ quoteId quote claim, w.store.mintQuote quoteId = some quote →
    quote.claim = some claim → w'.store.mintQuote quoteId = some quote
  cursor : ∀ cursor, w.store.Covers cursor → w'.store.Covers cursor

theorem Continues.refl (w : DepositWorld) : w.Continues w :=
  ⟨fun _ _ _ hquote _ => hquote, fun _ h => h⟩

theorem Continues.trans {w₁ w₂ w₃ : DepositWorld} (h₁₂ : w₁.Continues w₂)
    (h₂₃ : w₂.Continues w₃) : w₁.Continues w₃ :=
  ⟨fun id q claim hquote hclaim =>
      h₂₃.claimed id q claim (h₁₂.claimed id q claim hquote hclaim) hclaim,
    fun cursor h => h₂₃.cursor cursor (h₁₂.cursor cursor h)⟩

theorem sound_initial : initial.Sound :=
  ⟨claimsAgree_default, by simp [initial], by simp [initial, mintQuote, PersistentState.default]⟩

/-- What a step that leaves every claimed record as it is keeps of the records that callers hold. -/
theorem held_of_claimed (hsound : w.Sound) {store : PersistentState}
    (hclaimed : ∀ quoteId quote claim, w.store.mintQuote quoteId = some quote →
      quote.claim = some claim → store.mintQuote quoteId = some quote) :
    ∀ quote ∈ w.records, quote.claim = none ∨ store.mintQuote quote.quoteId = some quote := by
  intro quote hquote
  cases hclaim : quote.claim with
  | none => exact .inl rfl
  | some claim =>
      rcases hsound.held quote hquote with hnone | hstored
      · rw [hclaim] at hnone
        cases hnone
      · exact .inr (hclaimed _ _ claim hstored hclaim)

theorem sound_insert (hsound : w.Sound) {quote : MintQuoteRecord} {store : PersistentState}
    (hheld : quote ∈ w.records) (hinsert : insertMintQuote quote w.store = .ok store) :
    Sound { w with store := store } ∧ w.Continues { w with store := store } := by
  rcases insertMintQuote_ok hinsert with rfl | ⟨hnone, hmemo, rfl⟩
  · exact ⟨hsound, .refl w⟩
  have hunclaimed : quote.claim = none := by
    rcases hsound.held quote hheld with hunclaimed | hstored
    · exact hunclaimed
    · rw [hnone] at hstored
      cases hstored
  have hold : ∀ q record, w.store.mintQuote q = some record →
      PersistentState.mintQuote
        { w.store with mintQuotes := w.store.mintQuotes.insert quote.quoteId quote } q =
          some record := by
    intro q record hrecord
    have hq : q ≠ quote.quoteId := by
      rintro rfl
      simp [hnone] at hrecord
    rw [mintQuote_insert, if_neg hq]
    exact hrecord
  have hclaimed := fun q record (claim : DepositClaim) hrecord
    (_ : record.claim = some claim) => hold q record hrecord
  refine ⟨⟨hsound.agree.insert hnone hunclaimed hmemo, held_of_claimed hsound hclaimed, ?_⟩,
    hclaimed, fun _ h => h⟩
  intro q record claim hrecord hclaim
  rw [mintQuote_insert] at hrecord
  split_ifs at hrecord
  · obtain rfl := Option.some.inj hrecord
    rw [hunclaimed] at hclaim
    cases hclaim
  · exact hsound.paid q record claim hrecord hclaim

theorem sound_observe (hsound : w.Sound) (profile : StellarProfile) (payment : ObservedPayment) :
    let w' := { w with
      store := (w.store.observePayment profile payment).2
      observed := (profile, payment) :: w.observed }
    Sound w' ∧ w.Continues w' := by
  intro w'
  have hobserved : ∀ seen ∈ w.observed, seen ∈ w'.observed :=
    fun _ hseen => List.mem_cons_of_mem _ hseen
  obtain ⟨hagree, hquotes⟩ := observePayment_credits hsound.agree profile payment
  have hcursor : ∀ cursor, w.store.Covers cursor → w'.store.Covers cursor :=
    fun _ h => covers_observePayment profile payment h
  have hclaimed : ∀ q record claim, w.store.mintQuote q = some record →
      record.claim = some claim → w'.store.mintQuote q = some record := by
    intro q record claim hrecord hclaim
    rcases hquotes with hsame | ⟨quoteId, quote, hquote, hunclaimed, -, hnext⟩
    · exact (hsame q).trans hrecord
    · have hq : q ≠ quoteId := by
        rintro rfl
        rw [hquote] at hrecord
        obtain rfl := Option.some.inj hrecord
        rw [hunclaimed] at hclaim
        cases hclaim
      exact (hnext q).trans ((if_neg hq).trans hrecord)
  refine ⟨⟨hagree, held_of_claimed hsound hclaimed, ?_⟩, hclaimed, hcursor⟩
  have hpaid : ∀ q record claim, w.store.mintQuote q = some record → record.claim = some claim →
      ∃ profile payment, (profile, payment) ∈ w'.observed ∧ payment.claim = claim ∧
        Payable record profile payment := by
    intro q record claim hrecord hclaim
    obtain ⟨seenProfile, seen, hseen, hrest⟩ := hsound.paid q record claim hrecord hclaim
    exact ⟨seenProfile, seen, hobserved _ hseen, hrest⟩
  intro q record claim hrecord hclaim
  rcases hquotes with hsame | ⟨quoteId, quote, hquote, hunclaimed, hpays, hnext⟩
  · exact hpaid q record claim ((hsame q).symm.trans hrecord) hclaim
  · have hrecord' := (hnext q).symm.trans hrecord
    split_ifs at hrecord'
    · obtain rfl := Option.some.inj hrecord'
      obtain rfl := Option.some.inj hclaim
      exact ⟨profile, payment, List.mem_cons_self, rfl,
        ⟨hpays.network, hpays.final, hpays.destination, hpays.assetCode, hpays.assetIssuer,
          hpays.amount, hpays.inTime, hpays.memo, hpays.memoType⟩⟩
    · exact hpaid q record claim hrecord' hclaim

theorem Step.sound (hsound : w.Sound) (hstep : Step w w') : w'.Sound ∧ w.Continues w' := by
  cases hstep with
  | @built quoteId amount expiresAt memo pubkey quote hnew =>
      have hunclaimed : quote.claim = none := by
        simp only [MintQuoteRecord.new, bind_eq_ok, ensure_eq_ok, exists_unit] at hnew
        obtain ⟨-, -, -, hquote⟩ := hnew
        exact (congrArg (·.claim) (Except.ok.inj hquote)).symm
      refine ⟨⟨hsound.agree, ?_, hsound.paid⟩, fun _ _ _ hquote _ => hquote, fun _ h => h⟩
      exact List.forall_mem_cons.mpr ⟨.inl hunclaimed, hsound.held⟩
  | @read quoteId quote hread =>
      have hstored : w.store.mintQuote quote.quoteId = some quote := by
        rw [hsound.agree.keyed quoteId quote hread]
        exact hread
      refine ⟨⟨hsound.agree, ?_, hsound.paid⟩, fun _ _ _ hquote _ => hquote, fun _ h => h⟩
      exact List.forall_mem_cons.mpr ⟨.inr hstored, hsound.held⟩
  | inserted hheld hinsert => exact sound_insert hsound hheld hinsert
  | observed => exact sound_observe hsound _ _
  | @advanced cursor =>
      have hquotes : ∀ q, (w.store.advanceCursor cursor).mintQuote q = w.store.mintQuote q :=
        mintQuote_advanceCursor cursor
      refine ⟨⟨hsound.agree.advanceCursor cursor, ?_, ?_⟩, ?_, fun _ h => covers_advanceCursor h⟩
      · exact fun quote hquote => (hsound.held quote hquote).imp_right (hquotes _).trans
      · exact fun q quote claim hquote => hsound.paid q quote claim ((hquotes q).symm.trans hquote)
      · exact fun q quote _ hquote _ => (hquotes q).trans hquote
  | melted =>
      exact ⟨⟨⟨hsound.agree.keyed, hsound.agree.correlated, hsound.agree.operations,
        hsound.agree.transactions⟩, hsound.held, hsound.paid⟩,
        fun _ _ _ hquote _ => hquote, fun _ h => h⟩

/-- The invariant along a whole run. -/
theorem sound_of_run (hsound : w.Sound) (hrun : Run w w') : w'.Sound ∧ w.Continues w' := by
  induction hrun with
  | refl => exact ⟨hsound, .refl w⟩
  | tail _ hstep ih =>
      obtain ⟨hmiddle, hfirst⟩ := ih
      obtain ⟨hlast, hnext⟩ := hstep.sound hmiddle
      exact ⟨hlast, hfirst.trans hnext⟩

/-- What the claims of a store amount to. Each map is the inverse of the claims, and as a quote has
one claim the inverse is injective. -/
structure CreditsSound (w : DepositWorld) : Prop where
  operations : ∀ operationId quoteId,
    w.store.claimedOperations.lookup operationId = some quoteId ↔
      ∃ claim, w.store.Claimed quoteId claim ∧ claim.operationId = operationId
  transactions : ∀ transactionHash quoteId,
    w.store.claimedTransactions.lookup transactionHash = some quoteId ↔
      ∃ claim, w.store.Claimed quoteId claim ∧ claim.transactionHash = transactionHash
  operations_injective : ∀ op₁ op₂ quoteId, w.store.claimedOperations.lookup op₁ = some quoteId →
    w.store.claimedOperations.lookup op₂ = some quoteId → op₁ = op₂
  transactions_injective : ∀ tx₁ tx₂ quoteId,
    w.store.claimedTransactions.lookup tx₁ = some quoteId →
    w.store.claimedTransactions.lookup tx₂ = some quoteId → tx₁ = tx₂
  operation_once : ∀ id₁ id₂ claim₁ claim₂, w.store.Claimed id₁ claim₁ →
    w.store.Claimed id₂ claim₂ → claim₁.operationId = claim₂.operationId → id₁ = id₂
  transaction_once : ∀ id₁ id₂ claim₁ claim₂, w.store.Claimed id₁ claim₁ →
    w.store.Claimed id₂ claim₂ → claim₁.transactionHash = claim₂.transactionHash → id₁ = id₂
  correlated : ∀ id₁ id₂ q₁ q₂, w.store.mintQuote id₁ = some q₁ →
    w.store.mintQuote id₂ = some q₂ → q₁.correlationMemo = q₂.correlationMemo → id₁ = id₂
  paid : ∀ quoteId quote claim, w.store.mintQuote quoteId = some quote →
    quote.claim = some claim → ∃ profile payment, (profile, payment) ∈ w.observed ∧
      payment.claim = claim ∧ Payable quote profile payment

theorem Sound.credits (hsound : w.Sound) : w.CreditsSound := by
  have hunique : ∀ quoteId claim₁ claim₂, w.store.Claimed quoteId claim₁ →
      w.store.Claimed quoteId claim₂ → claim₁ = claim₂ := by
    rintro quoteId claim₁ claim₂ ⟨q₁, hq₁, hclaim₁⟩ ⟨q₂, hq₂, hclaim₂⟩
    rw [hq₁] at hq₂
    obtain rfl := Option.some.inj hq₂
    exact Option.some.inj (hclaim₁.symm.trans hclaim₂)
  have hoperations := hsound.agree.operations
  have htransactions := hsound.agree.transactions
  refine ⟨hoperations, htransactions, ?_, ?_, ?_, ?_, hsound.agree.correlated, hsound.paid⟩
  · intro op₁ op₂ quoteId h₁ h₂
    obtain ⟨claim₁, hclaim₁, rfl⟩ := (hoperations op₁ quoteId).mp h₁
    obtain ⟨claim₂, hclaim₂, rfl⟩ := (hoperations op₂ quoteId).mp h₂
    rw [hunique quoteId claim₁ claim₂ hclaim₁ hclaim₂]
  · intro tx₁ tx₂ quoteId h₁ h₂
    obtain ⟨claim₁, hclaim₁, rfl⟩ := (htransactions tx₁ quoteId).mp h₁
    obtain ⟨claim₂, hclaim₂, rfl⟩ := (htransactions tx₂ quoteId).mp h₂
    rw [hunique quoteId claim₁ claim₂ hclaim₁ hclaim₂]
  · intro id₁ id₂ claim₁ claim₂ h₁ h₂ hsame
    have hfound₁ := (hoperations _ id₁).mpr ⟨claim₁, h₁, rfl⟩
    have hfound₂ := (hoperations _ id₂).mpr ⟨claim₂, h₂, hsame.symm⟩
    exact Option.some.inj (hfound₁.symm.trans hfound₂)
  · intro id₁ id₂ claim₁ claim₂ h₁ h₂ hsame
    have hfound₁ := (htransactions _ id₁).mpr ⟨claim₁, h₁, rfl⟩
    have hfound₂ := (htransactions _ id₂).mpr ⟨claim₂, h₂, hsame.symm⟩
    exact Option.some.inj (hfound₁.symm.trans hfound₂)

/-- Every store has sound credits, and a claim on a quote is there for good. -/
theorem deposits_credited (hrun : Reachable w) :
    w.CreditsSound ∧ ∀ w', Run w w' → w.Continues w' := by
  obtain ⟨hsound, -⟩ := sound_of_run sound_initial hrun
  exact ⟨hsound.credits, fun w' hmore => (sound_of_run hsound hmore).2⟩

theorem deposits_credited_samplePaid :
    samplePaidWorld.CreditsSound ∧ samplePaidWorld.Continues samplePaidWorld ∧
      samplePaidWorld.store.Claimed sampleMintQuote.quoteId sampleDeposit.claim := by
  obtain ⟨hcredits, hcontinues⟩ := deposits_credited reachable_samplePaidWorld
  exact ⟨hcredits, hcontinues _ .refl,
    { sampleMintQuote with claim := some sampleDeposit.claim }, by decide +kernel, rfl⟩

end DepositWorld

end CashMesh.StellarSettlement
