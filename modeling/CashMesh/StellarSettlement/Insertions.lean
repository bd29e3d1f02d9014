import CashMesh.StellarSettlement.Crediting
/-!
# Inserting a quote again

The quotes of one store over any sequence of all its operations. A quote is defined once: whatever
happens to it later, its record keeps the definition, so inserting another one under its id is refused.
Inserting the same melt quote again is always accepted. Inserting the same mint quote again is accepted
until a deposit is claimed, since the whole record is compared and the claim is part of it.
-/

namespace CashMesh.StellarSettlement

open CashMesh.Lib

/-- What a mint quote was defined as, without the claim that a deposit adds. -/
def MintQuoteRecord.definition (quote : MintQuoteRecord) : MintQuoteRecord :=
  { quote with claim := none }

/-- The store, the records that callers hold, and the payments that it was shown. -/
structure StoreWorld where
  store : PersistentState
  mintRecords : List MintQuoteRecord
  meltRecords : List MeltQuoteRecord
  observed : List (StellarProfile × ObservedPayment)

namespace StoreWorld

def initial : StoreWorld :=
  { store := .default, mintRecords := [], meltRecords := [], observed := [] }

/-- One operation of the store. -/
inductive Step : StoreWorld → StoreWorld → Prop
  | mintBuilt {w quoteId amount expiresAt correlationMemo lockedPubkey quote}
      (hnew : MintQuoteRecord.new quoteId amount expiresAt correlationMemo lockedPubkey =
        .ok quote) : Step w { w with mintRecords := quote :: w.mintRecords }
  | mintRead {w : StoreWorld} {quoteId quote} (hread : w.store.mintQuote quoteId = some quote) :
      Step w { w with mintRecords := quote :: w.mintRecords }
  | mintInserted {w quote store} (hheld : quote ∈ w.mintRecords)
      (hinsert : PersistentState.insertMintQuote quote w.store = .ok store) :
      Step w { w with store := store }
  | meltBuilt {w quoteId payment quote} (hnew : MeltQuoteRecord.new quoteId payment = .ok quote) :
      Step w { w with meltRecords := quote :: w.meltRecords }
  | meltRead {w : StoreWorld} {quoteId quote} (hread : w.store.meltQuote quoteId = some quote) :
      Step w { w with meltRecords := quote :: w.meltRecords }
  | meltInserted {w quote store} (hheld : quote ∈ w.meltRecords)
      (hinsert : PersistentState.insertMeltQuote quote w.store = .ok store) :
      Step w { w with store := store }
  | settled {w quoteId operation store}
      (hupdate : PersistentState.updateSettlement quoteId operation w.store = .ok store) :
      Step w { w with store := store }
  | observed {w : StoreWorld} {profile payment} :
      Step w { w with
        store := (w.store.observePayment profile payment).2
        observed := (profile, payment) :: w.observed }
  | advanced {w : StoreWorld} {cursor} :
      Step w { w with store := w.store.advanceCursor cursor }

abbrev Run : StoreWorld → StoreWorld → Prop :=
  Relation.ReflTransGen Step

def Reachable : StoreWorld → Prop :=
  Run initial

/-- The part of the world that deposits are about. -/
def deposits (w : StoreWorld) : DepositWorld :=
  { store := w.store, records := w.mintRecords, observed := w.observed }

end StoreWorld

/-! ### Frames -/

namespace PersistentState

variable {state state' : PersistentState}

theorem insertMeltQuote_frame {quote : MeltQuoteRecord}
    (h : insertMeltQuote quote state = .ok state') :
    ∃ meltQuotes, state' = { state with meltQuotes := meltQuotes } := by
  unfold insertMeltQuote at h
  split at h
  · simp only [ite_else_error_eq_ok] at h
    exact ⟨state.meltQuotes, (Except.ok.inj h.2).symm⟩
  · exact ⟨_, (Except.ok.inj h).symm⟩

theorem updateSettlement_frame {quoteId : QuoteReference}
    {operation : Settlement → Except SettlementError Settlement}
    (h : updateSettlement quoteId operation state = .ok state') :
    ∃ meltQuotes, state' = { state with meltQuotes := meltQuotes } := by
  simp only [updateSettlement, bind_eq_ok, orFail_eq_ok, mapError_eq_ok] at h
  obtain ⟨quote, -, settlement, -, hstate'⟩ := h
  exact ⟨_, (Except.ok.inj hstate').symm⟩

theorem meltQuotes_insertMintQuote {quote : MintQuoteRecord}
    (h : insertMintQuote quote state = .ok state') : state'.meltQuotes = state.meltQuotes := by
  rcases insertMintQuote_ok h with rfl | ⟨-, -, rfl⟩
  · rfl
  · rfl

theorem meltQuotes_observePayment (profile : StellarProfile) (payment : ObservedPayment) :
    (state.observePayment profile payment).2.meltQuotes = state.meltQuotes := by
  rcases observePayment_cases profile payment state with ⟨-, hsame⟩ | ⟨-, hmoved⟩
  · rw [hsame]
  · rw [hmoved]
    rcases evaluatePayment_cases profile payment state with hsame | ⟨quoteId, quote, -, hnext⟩
    · rw [hsame]
    · rw [hnext]
      rfl

theorem meltQuotes_advanceCursor (cursor : LedgerCursor) :
    (state.advanceCursor cursor).meltQuotes = state.meltQuotes := by
  unfold advanceCursor
  split_ifs
  · rfl
  · rfl

end PersistentState

namespace StoreWorld

open PersistentState

variable {w w' w₁ w₂ w₃ : StoreWorld}

theorem Step.deposits (hstep : Step w w') : DepositWorld.Run w.deposits w'.deposits := by
  cases hstep with
  | mintBuilt hnew => exact .single (.built hnew)
  | mintRead hread => exact .single (.read hread)
  | mintInserted hheld hinsert => exact .single (.inserted hheld hinsert)
  | meltBuilt => exact .refl
  | meltRead => exact .refl
  | meltInserted _ hinsert =>
      obtain ⟨meltQuotes, rfl⟩ := insertMeltQuote_frame hinsert
      exact .single .melted
  | settled hupdate =>
      obtain ⟨meltQuotes, rfl⟩ := updateSettlement_frame hupdate
      exact .single .melted
  | observed => exact .single .observed
  | advanced => exact .single .advanced

theorem deposits_of_run (hrun : Run w w') : DepositWorld.Run w.deposits w'.deposits := by
  induction hrun with
  | refl => exact .refl
  | tail _ hstep ih => exact ih.trans hstep.deposits

theorem sound_of_reachable (hreach : Reachable w) : w.deposits.Sound := by
  have hdeposits : DepositWorld.Run .initial w.deposits := deposits_of_run hreach
  exact (DepositWorld.sound_of_run DepositWorld.sound_initial hdeposits).1

/-! ### Definitions are kept -/

/-- Every quote is still there, defined as it was. -/
structure Keeps (w w' : StoreWorld) : Prop where
  mint : ∀ quoteId quote, w.store.mintQuote quoteId = some quote →
    ∃ quote', w'.store.mintQuote quoteId = some quote' ∧ quote'.definition = quote.definition
  melt : ∀ quoteId quote, w.store.meltQuote quoteId = some quote →
    ∃ quote', w'.store.meltQuote quoteId = some quote' ∧ quote'.payment = quote.payment

theorem Keeps.refl (w : StoreWorld) : w.Keeps w :=
  ⟨fun _ quote hquote => ⟨quote, hquote, rfl⟩, fun _ quote hquote => ⟨quote, hquote, rfl⟩⟩

theorem Keeps.trans (h₁₂ : w₁.Keeps w₂) (h₂₃ : w₂.Keeps w₃) : w₁.Keeps w₃ := by
  constructor
  · intro quoteId quote hquote
    obtain ⟨quote₂, hquote₂, hsame₂⟩ := h₁₂.mint quoteId quote hquote
    obtain ⟨quote₃, hquote₃, hsame₃⟩ := h₂₃.mint quoteId quote₂ hquote₂
    exact ⟨quote₃, hquote₃, hsame₃.trans hsame₂⟩
  · intro quoteId quote hquote
    obtain ⟨quote₂, hquote₂, hsame₂⟩ := h₁₂.melt quoteId quote hquote
    obtain ⟨quote₃, hquote₃, hsame₃⟩ := h₂₃.melt quoteId quote₂ hquote₂
    exact ⟨quote₃, hquote₃, hsame₃.trans hsame₂⟩

theorem keeps_melt (hsame : w'.store.meltQuotes = w.store.meltQuotes) :
    ∀ quoteId quote, w.store.meltQuote quoteId = some quote →
      ∃ quote', w'.store.meltQuote quoteId = some quote' ∧ quote'.payment = quote.payment := by
  intro quoteId quote hquote
  refine ⟨quote, ?_, rfl⟩
  rw [meltQuote, hsame]
  exact hquote

theorem keeps_insertMintQuote {quote : MintQuoteRecord} {store : PersistentState}
    (hinsert : insertMintQuote quote w.store = .ok store) : w.Keeps { w with store := store } := by
  refine ⟨?_, keeps_melt (meltQuotes_insertMintQuote hinsert)⟩
  intro quoteId existing hexisting
  rcases insertMintQuote_ok hinsert with rfl | ⟨hnone, -, rfl⟩
  · exact ⟨existing, hexisting, rfl⟩
  · have hother : quoteId ≠ quote.quoteId := by
      rintro rfl
      rw [hnone] at hexisting
      cases hexisting
    exact ⟨existing, by rw [mintQuote_insert, if_neg hother]; exact hexisting, rfl⟩

theorem keeps_insertMeltQuote {quote : MeltQuoteRecord} {store : PersistentState}
    (hinsert : insertMeltQuote quote w.store = .ok store) : w.Keeps { w with store := store } := by
  obtain ⟨meltQuotes, hframe⟩ := insertMeltQuote_frame hinsert
  constructor
  · intro quoteId existing hexisting
    exact ⟨existing, by rw [hframe]; exact hexisting, rfl⟩
  · intro quoteId existing hexisting
    refine ⟨existing, ?_, rfl⟩
    rcases insertMeltQuote_ok hinsert with rfl | ⟨hnone, hquotes⟩
    · exact hexisting
    · have hother : quoteId ≠ quote.quoteId := by
        rintro rfl
        rw [hnone] at hexisting
        cases hexisting
      rw [meltQuote, hquotes, Finmap.lookup_insert_of_ne _ hother]
      exact hexisting

theorem keeps_updateSettlement {quoteId : QuoteReference}
    {operation : Settlement → Except SettlementError Settlement} {store : PersistentState}
    (hupdate : PersistentState.updateSettlement quoteId operation w.store = .ok store) :
    w.Keeps { w with store := store } := by
  obtain ⟨meltQuotes, hframe⟩ := updateSettlement_frame hupdate
  obtain ⟨quote, settlement, hquote, -, hquotes⟩ := updateSettlement_ok hupdate
  constructor
  · intro id existing hexisting
    exact ⟨existing, by rw [hframe]; exact hexisting, rfl⟩
  · intro id existing hexisting
    by_cases hid : id = quoteId
    · subst hid
      rw [hquote] at hexisting
      obtain rfl := Option.some.inj hexisting
      exact ⟨{ quote with settlement }, by rw [meltQuote, hquotes, Finmap.lookup_insert], rfl⟩
    · refine ⟨existing, ?_, rfl⟩
      rw [meltQuote, hquotes, Finmap.lookup_insert_of_ne _ hid]
      exact hexisting

theorem keeps_observePayment (hsound : w.deposits.Sound) (profile : StellarProfile)
    (payment : ObservedPayment) :
    w.Keeps { w with
      store := (w.store.observePayment profile payment).2
      observed := (profile, payment) :: w.observed } := by
  refine ⟨?_, keeps_melt (meltQuotes_observePayment profile payment)⟩
  intro quoteId existing hexisting
  obtain ⟨-, hsame | ⟨paidId, quote, hquote, -, -, hnext⟩⟩ :=
    observePayment_credits hsound.agree profile payment
  · exact ⟨existing, (hsame quoteId).trans hexisting, rfl⟩
  · by_cases hid : quoteId = paidId
    · subst hid
      have hrecord : existing = quote := by
        rw [show w.deposits.store = w.store from rfl, hexisting] at hquote
        exact Option.some.inj hquote
      subst hrecord
      exact ⟨_, (hnext quoteId).trans (if_pos rfl), rfl⟩
    · exact ⟨existing, (hnext quoteId).trans ((if_neg hid).trans hexisting), rfl⟩

theorem Step.keeps (hsound : w.deposits.Sound) (hstep : Step w w') : w.Keeps w' := by
  cases hstep with
  | mintBuilt => exact ⟨(Keeps.refl w).mint, (Keeps.refl w).melt⟩
  | mintRead => exact ⟨(Keeps.refl w).mint, (Keeps.refl w).melt⟩
  | mintInserted _ hinsert => exact keeps_insertMintQuote hinsert
  | meltBuilt => exact ⟨(Keeps.refl w).mint, (Keeps.refl w).melt⟩
  | meltRead => exact ⟨(Keeps.refl w).mint, (Keeps.refl w).melt⟩
  | meltInserted _ hinsert => exact keeps_insertMeltQuote hinsert
  | settled hupdate => exact keeps_updateSettlement hupdate
  | observed => exact keeps_observePayment hsound _ _
  | @advanced cursor =>
      refine ⟨?_, keeps_melt (meltQuotes_advanceCursor cursor)⟩
      exact fun quoteId quote hquote =>
        ⟨quote, (mintQuote_advanceCursor cursor quoteId).trans hquote, rfl⟩

theorem keeps_of_run (hreach : Reachable w) (hrun : Run w w') : w.Keeps w' := by
  induction hrun with
  | refl => exact .refl w
  | tail hrun hstep ih =>
      have hsound := sound_of_reachable (hreach.trans hrun)
      exact ih.trans (hstep.keeps hsound)

/-! ### Inserting again -/

/-- A mint quote that is there is accepted again exactly while it has no claim. -/
theorem insertMintQuote_again {state : PersistentState} (hagree : state.ClaimsAgree)
    {quote stored : MintQuoteRecord} (hstored : state.mintQuote quote.quoteId = some stored)
    (hsame : stored.definition = quote) :
    insertMintQuote quote state = .ok state ↔ stored.claim = none := by
  have hmemo : stored.correlationMemo = quote.correlationMemo := by rw [← hsame]; rfl
  have hguard : ∀ existing ∈ state.mintQuoteValues,
      ¬(existing.quoteId ≠ quote.quoteId ∧ existing.correlationMemo = quote.correlationMemo) := by
    rintro existing hexisting ⟨hother, hmemo'⟩
    obtain ⟨id, hid⟩ := mem_mintQuoteValues.mp hexisting
    have hid' := hagree.correlated id quote.quoteId existing stored hid hstored
      (hmemo'.trans hmemo.symm)
    exact hother ((hagree.keyed id existing hid).trans hid')
  have hlookup : state.mintQuotes.lookup quote.quoteId = some stored := hstored
  simp only [insertMintQuote, ensure_of hguard, ok_bind, hlookup, ite_else_error_eq_ok]
  constructor
  · rintro ⟨hequal, -⟩
    rw [hequal, ← hsame]
    rfl
  · intro hnone
    have hequal : stored = quote := by
      rw [← hsame, MintQuoteRecord.definition, ← hnone]
    exact ⟨hequal, trivial⟩

theorem insertMintQuote_conflict {state : PersistentState} {other stored : MintQuoteRecord}
    (hstored : state.mintQuote other.quoteId = some stored)
    (hother : stored.definition ≠ other.definition) :
    ∃ error, insertMintQuote other state = .error error := by
  cases hinsert : insertMintQuote other state with
  | error error => exact ⟨error, rfl⟩
  | ok state' =>
      have hlookup : state.mintQuotes.lookup other.quoteId = some stored := hstored
      simp only [insertMintQuote, bind_eq_ok, ensure_eq_ok, exists_unit, hlookup,
        ite_else_error_eq_ok] at hinsert
      obtain ⟨-, hequal, -⟩ := hinsert
      exact absurd (congrArg MintQuoteRecord.definition hequal) hother

theorem insertMeltQuote_again {state : PersistentState} {quote stored : MeltQuoteRecord}
    (hstored : state.meltQuote quote.quoteId = some stored) (hsame : stored.payment = quote.payment) :
    insertMeltQuote quote state = .ok state := by
  have hlookup : state.meltQuotes.lookup quote.quoteId = some stored := hstored
  simp only [insertMeltQuote, hlookup, if_pos hsame]

theorem insertMeltQuote_conflict {state : PersistentState} {other stored : MeltQuoteRecord}
    (hstored : state.meltQuote other.quoteId = some stored)
    (hother : stored.payment ≠ other.payment) :
    ∃ error, insertMeltQuote other state = .error error := by
  have hlookup : state.meltQuotes.lookup other.quoteId = some stored := hstored
  refine ⟨.quoteConflict other.quoteId, ?_⟩
  simp only [insertMeltQuote, hlookup, if_neg hother]

theorem insertMintQuote_defines {state store : PersistentState} {quote : MintQuoteRecord}
    (hinsert : insertMintQuote quote state = .ok store) :
    store.mintQuote quote.quoteId = some quote := by
  have hcases := hinsert
  simp only [insertMintQuote, bind_eq_ok, ensure_eq_ok, exists_unit] at hcases
  obtain ⟨-, hcases⟩ := hcases
  split at hcases
  · case h_1 existing hexisting =>
    simp only [ite_else_error_eq_ok] at hcases
    obtain ⟨rfl, hstore⟩ := hcases
    obtain rfl := Except.ok.inj hstore
    exact hexisting
  · obtain rfl := Except.ok.inj hcases
    rw [mintQuote_insert, if_pos rfl]

theorem insertMeltQuote_defines {state store : PersistentState} {quote : MeltQuoteRecord}
    (hinsert : insertMeltQuote quote state = .ok store) :
    ∃ stored, store.meltQuote quote.quoteId = some stored ∧ stored.payment = quote.payment := by
  unfold insertMeltQuote at hinsert
  split at hinsert
  · case h_1 existing hexisting =>
    simp only [ite_else_error_eq_ok] at hinsert
    obtain ⟨hpayment, hstore⟩ := hinsert
    obtain rfl := Except.ok.inj hstore
    exact ⟨existing, hexisting, hpayment⟩
  · obtain rfl := Except.ok.inj hinsert
    exact ⟨quote, Finmap.lookup_insert _, rfl⟩

theorem definition_of_new {quote again : MintQuoteRecord}
    (hnew : MintQuoteRecord.new quote.quoteId quote.amount quote.expiresAt quote.correlationMemo
      quote.lockedPubkey = .ok again) : again = quote.definition := by
  simp only [MintQuoteRecord.new, bind_eq_ok, ensure_eq_ok, exists_unit, Except.ok.injEq] at hnew
  exact hnew.2.2.2.symm

/-- Once a quote was accepted, its definition is accepted again in every later state, a mint quote's
exactly while no deposit has been claimed for it, and any other definition under its id is refused. -/
theorem insertion_again (hreach : Reachable w) :
    (∀ quote ∈ w.mintRecords, ∀ store, insertMintQuote quote w.store = .ok store →
      ∀ w', Run { w with store := store } w' →
        (∀ again, MintQuoteRecord.new quote.quoteId quote.amount quote.expiresAt
            quote.correlationMemo quote.lockedPubkey = .ok again →
          (insertMintQuote again w'.store = .ok w'.store ↔
            ¬∃ claim, w'.store.Claimed quote.quoteId claim)) ∧
        ∀ other, other.quoteId = quote.quoteId → other.definition ≠ quote.definition →
          ∃ error, insertMintQuote other w'.store = .error error) ∧
    (∀ quote ∈ w.meltRecords, ∀ store, insertMeltQuote quote w.store = .ok store →
      ∀ w', Run { w with store := store } w' →
        (∀ again, MeltQuoteRecord.new quote.quoteId quote.payment = .ok again →
          insertMeltQuote again w'.store = .ok w'.store) ∧
        ∀ other, other.quoteId = quote.quoteId → other.payment ≠ quote.payment →
          ∃ error, insertMeltQuote other w'.store = .error error) := by
  constructor
  · intro quote hheld store hinsert w' hrun
    have hreach' : Reachable { w with store := store } := hreach.tail (.mintInserted hheld hinsert)
    obtain ⟨stored, hstored, hsame⟩ :=
      (keeps_of_run hreach' hrun).mint _ _ (insertMintQuote_defines hinsert)
    have hsound := sound_of_reachable (hreach'.trans hrun)
    constructor
    · intro again hnew
      obtain rfl := definition_of_new hnew
      have hstored' : w'.store.mintQuote quote.definition.quoteId = some stored := hstored
      have hagree : w'.store.ClaimsAgree := hsound.agree
      rw [insertMintQuote_again hagree hstored' hsame]
      constructor
      · rintro hnone ⟨claim, claimed, hclaimed, hclaim⟩
        rw [hstored] at hclaimed
        obtain rfl := Option.some.inj hclaimed
        rw [hnone] at hclaim
        cases hclaim
      · intro hunclaimed
        cases hclaim : stored.claim with
        | none => rfl
        | some claim => exact absurd ⟨claim, stored, hstored, hclaim⟩ hunclaimed
    · intro other hid hother
      rw [← hid] at hstored
      exact insertMintQuote_conflict hstored (fun hequal => hother (hequal.symm.trans hsame))
  · intro quote hheld store hinsert w' hrun
    have hreach' : Reachable { w with store := store } := hreach.tail (.meltInserted hheld hinsert)
    obtain ⟨accepted, haccepted, hpayment⟩ := insertMeltQuote_defines hinsert
    obtain ⟨stored, hstored, hsame⟩ := (keeps_of_run hreach' hrun).melt _ _ haccepted
    constructor
    · intro again hnew
      simp only [MeltQuoteRecord.new, bind_eq_ok, mapError_eq_ok, Except.ok.injEq] at hnew
      obtain ⟨id, -, rfl⟩ := hnew
      exact insertMeltQuote_again hstored (hsame.trans hpayment)
    · intro other hid hother
      rw [← hid] at hstored
      exact insertMeltQuote_conflict hstored
        (fun hequal => hother (hequal.symm.trans (hsame.trans hpayment)))

/-! A caller that holds its quote and inserts it, before and after the quote is paid. -/

def sampleHeld : StoreWorld :=
  { store := .default
    mintRecords := [DepositWorld.sampleMintQuote]
    meltRecords := []
    observed := [] }

def sampleCredited : StoreWorld :=
  { sampleHeld with
    store := DepositWorld.samplePaidWorld.store
    observed := DepositWorld.samplePaidWorld.observed }

theorem new_sampleMintQuote :
    MintQuoteRecord.new ⟨"quote-two", DepositWorld.sampleMintQuote.quoteId.nonblank⟩
      DepositWorld.sampleMintQuote.amount 1900 "memo-one" "pubkey" =
        .ok DepositWorld.sampleMintQuote := by
  have hmemo : isBlank "memo-one" = false := by decide
  have hpubkey : isBlank "pubkey" = false := by decide
  simp [MintQuoteRecord.new, ensure, hmemo, hpubkey, DepositWorld.sampleMintQuote]

theorem reachable_sampleHeld : Reachable sampleHeld :=
  .single (.mintBuilt new_sampleMintQuote)

theorem run_sampleCredited :
    Run { sampleHeld with store := DepositWorld.sampleQuotedStore } sampleCredited :=
  .single .observed

theorem insertion_again_unpaid :
    insertMintQuote DepositWorld.sampleMintQuote DepositWorld.sampleQuotedStore =
      .ok DepositWorld.sampleQuotedStore := by
  have hagain := ((insertion_again reachable_sampleHeld).1 DepositWorld.sampleMintQuote
    (List.mem_singleton_self _) _ DepositWorld.insert_sampleMintQuote _ .refl).1 _ new_sampleMintQuote
  apply hagain.mpr
  rintro ⟨claim, quote, hquote, hclaim⟩
  have hunpaid : (DepositWorld.sampleQuotedStore.mintQuote
      DepositWorld.sampleMintQuote.quoteId).bind (·.claim) = none := by decide +kernel
  rw [show DepositWorld.sampleQuotedStore.mintQuote DepositWorld.sampleMintQuote.quoteId = some quote
    from hquote] at hunpaid
  exact absurd (hunpaid.symm.trans hclaim) (by simp)

/-- A paid quote is refused when it is inserted again as it was defined. -/
theorem insertion_again_paid :
    Reachable sampleHeld ∧ DepositWorld.sampleMintQuote ∈ sampleHeld.mintRecords ∧
      insertMintQuote DepositWorld.sampleMintQuote sampleHeld.store =
        .ok DepositWorld.sampleQuotedStore ∧
      Run { sampleHeld with store := DepositWorld.sampleQuotedStore } sampleCredited ∧
      insertMintQuote DepositWorld.sampleMintQuote sampleCredited.store ≠ .ok sampleCredited.store := by
  refine ⟨reachable_sampleHeld, List.mem_singleton_self _, DepositWorld.insert_sampleMintQuote,
    run_sampleCredited, ?_⟩
  have hagree : sampleCredited.store.ClaimsAgree :=
    (DepositWorld.sound_of_run DepositWorld.sound_initial
      DepositWorld.reachable_samplePaidWorld).1.agree
  have hstored : sampleCredited.store.mintQuote DepositWorld.sampleMintQuote.quoteId =
      some { DepositWorld.sampleMintQuote with
        claim := some DepositWorld.sampleDeposit.claim } := by decide +kernel
  rw [ne_eq, insertMintQuote_again hagree hstored rfl]
  intro hnone
  cases hnone

end StoreWorld

end CashMesh.StellarSettlement
