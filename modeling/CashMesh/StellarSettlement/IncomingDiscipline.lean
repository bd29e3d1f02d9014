import CashMesh.StellarSettlement.IncomingScans
/-!
# What the incoming calls keep

Three things at once: the scanner's own discipline, that the cursor has passed no record that cannot
be read, and that the quotes of the store were filed for the memo of their payment request and are
claimed by payments that were evaluated. A quote, once filed, changes in its claim only, and a claim
is for good.
-/

namespace CashMesh.StellarSettlement

open CashMesh.Lib PersistentState

variable {QuoteId : Type} {processor : Processor QuoteId} {crates : Crates} {profile : StellarProfile}
variable {w w' : IncomingWorld} {quoteId : QuoteReference} {quote : MintQuoteRecord}

theorem incomingQuote_ok {options : CustomIncomingPaymentOptions QuoteId} {amount : UsdcMinorUnits}
    {lockedPubkey : String} {expiry : UInt64} {payment : Sep7Payment}
    (h : incomingQuote processor crates profile options amount lockedPubkey expiry =
      .ok (quote, payment)) :
    quoteReference processor options.quoteId = .ok quote.quoteId ∧ quote.claim = none ∧
      quote.amount = amount ∧ quote.expiresAt = expiry ∧ quote.lockedPubkey = lockedPubkey ∧
      buildDepositRequest crates profile quote.quoteId quote.amount = .ok payment ∧
      payment.memo = some quote.correlationMemo := by
  simp only [incomingQuote, bind_eq_ok, mapError_eq_ok, orFail_eq_ok, Except.ok.injEq,
    Prod.mk.injEq] at h
  obtain ⟨quoteId, hquoteId, payment, hpayment, memo, hmemo, quote, hquote, rfl, rfl⟩ := h
  simp only [MintQuoteRecord.new, bind_eq_ok, ensure_eq_ok, exists_unit, Except.ok.injEq] at hquote
  obtain ⟨-, -, -, rfl⟩ := hquote
  exact ⟨hquoteId, rfl, rfl, rfl, rfl, hpayment, hmemo⟩

namespace IncomingWorld

/-! ### The quotes of the store -/

/-- The memo of a quote is that of the payment request for it. -/
def Quoted (crates : Crates) (profile : StellarProfile) (quote : MintQuoteRecord) : Prop :=
  ∃ payment, buildDepositRequest crates profile quote.quoteId quote.amount = .ok payment ∧
    payment.memo = some quote.correlationMemo

/-- The payments that have been evaluated. -/
def evaluated (w : IncomingWorld) : List ObservedPayment :=
  w.history.filterMap DepositEvent.payment?

/-- The store with the payments that it has evaluated. -/
def deposits (profile : StellarProfile) (w : IncomingWorld) : DepositWorld :=
  { store := w.store, records := [], observed := w.evaluated.map fun payment => (profile, payment) }

structure Credited (crates : Crates) (profile : StellarProfile) (w : IncomingWorld) : Prop where
  sound : (w.deposits profile).Sound
  quoted : ∀ quoteId quote, w.store.mintQuote quoteId = some quote → Quoted crates profile quote

/-- A quote stays as it is, but for a claim if it has none yet. -/
def Kept (w w' : IncomingWorld) : Prop :=
  ∀ quoteId quote, w.store.mintQuote quoteId = some quote →
    ∃ quote', w'.store.mintQuote quoteId = some quote' ∧
      (quote' = quote ∨ quote.claim = none ∧ ∃ claim, quote' = { quote with claim := some claim })

theorem Kept.refl (w : IncomingWorld) : w.Kept w :=
  fun _ quote hquote => ⟨quote, hquote, .inl rfl⟩

theorem Kept.trans {w₁ w₂ w₃ : IncomingWorld} (h₁₂ : w₁.Kept w₂) (h₂₃ : w₂.Kept w₃) :
    w₁.Kept w₃ := by
  intro quoteId quote hquote
  obtain ⟨quote', hquote', hkept⟩ := h₁₂ quoteId quote hquote
  obtain ⟨quote'', hquote'', hkept'⟩ := h₂₃ quoteId quote' hquote'
  refine ⟨quote'', hquote'', ?_⟩
  rcases hkept with rfl | ⟨hnone, claim, rfl⟩
  · exact hkept'
  · rcases hkept' with rfl | ⟨hclaimed, -⟩
    · exact .inr ⟨hnone, claim, rfl⟩
    · cases hclaimed

theorem Kept.of_same (hsame : ∀ quoteId, w'.store.mintQuote quoteId = w.store.mintQuote quoteId) :
    w.Kept w' :=
  fun quoteId quote hquote => ⟨quote, (hsame quoteId).trans hquote, .inl rfl⟩

/-- A claim on a quote is for good. -/
theorem Kept.claimed (h : w.Kept w') {claim : DepositClaim}
    (hquote : w.store.mintQuote quoteId = some quote) (hclaim : quote.claim = some claim) :
    w'.store.mintQuote quoteId = some quote := by
  obtain ⟨quote', hquote', rfl | ⟨hnone, -⟩⟩ := h quoteId quote hquote
  · exact hquote'
  · rw [hclaim] at hnone
    cases hnone

def crediting (crates : Crates) (profile : StellarProfile) : Discipline IncomingWorld where
  inv := Credited crates profile
  grows := Kept
  refl := Kept.refl
  trans := Kept.trans

theorem crediting_same (hinv : w.Credited crates profile) {store : PersistentState}
    (hsound : DepositWorld.Sound { w.deposits profile with store := store })
    (hsame : ∀ quoteId, store.mintQuote quoteId = w.store.mintQuote quoteId) :
    (crediting crates profile).Keeps w { w with store := store } :=
  ⟨⟨hsound, fun id q hq => hinv.quoted id q ((hsame id).symm.trans hq)⟩, .of_same hsame⟩

theorem crediting_advance (hinv : w.Credited crates profile) (last : LedgerCursor) :
    (crediting crates profile).Keeps w { w with store := w.store.advanceCursor last } := by
  have hstep : DepositWorld.Step (w.deposits profile)
      { w.deposits profile with store := w.store.advanceCursor last } := .advanced
  exact crediting_same hinv (hstep.sound hinv.sound).1 (mintQuote_advanceCursor last)

theorem crediting_melted (hinv : w.Credited crates profile)
    (meltQuotes : Finmap fun _ : QuoteReference => MeltQuoteRecord) :
    (crediting crates profile).Keeps w
      { w with store := { w.store with meltQuotes := meltQuotes } } := by
  have hstep : DepositWorld.Step (w.deposits profile)
      { w.deposits profile with store := { w.store with meltQuotes := meltQuotes } } := .melted
  exact crediting_same hinv (hstep.sound hinv.sound).1 fun _ => rfl

theorem evaluated_observe (payment : ObservedPayment)
    (hahead : ¬w.store.Covers payment.pagingCursor) :
    (w.observe profile payment).evaluated = w.evaluated ++ [payment] := by
  rw [evaluated, observe, if_neg hahead, List.filterMap_append]
  rfl

/-- Showing a payment credits at most one quote, which had no claim. -/
theorem crediting_observe (hinv : w.Credited crates profile) (payment : ObservedPayment) :
    (crediting crates profile).Keeps w (w.observe profile payment) := by
  by_cases hcovers : w.store.Covers payment.pagingCursor
  · have hsame : w.observe profile payment = w := by
      rcases observePayment_cases profile payment w.store with ⟨-, hstore⟩ | ⟨hahead, -⟩
      · rw [observe, hstore, if_pos hcovers]
      · exact absurd hcovers hahead
    rw [hsame]
    exact (crediting crates profile).keeps_self hinv
  obtain ⟨hsound, -⟩ := DepositWorld.sound_observe hinv.sound profile payment
  obtain ⟨-, hquotes⟩ := observePayment_credits hinv.sound.agree profile payment
  have hstore : (w.observe profile payment).store = (w.store.observePayment profile payment).2 := rfl
  refine ⟨⟨⟨hsound.agree, by simp [deposits], ?_⟩, ?_⟩, ?_⟩
  · intro id q claim hq hclaim
    obtain ⟨seenProfile, seen, hseen, hrest⟩ := hsound.paid id q claim hq hclaim
    refine ⟨seenProfile, seen, ?_, hrest⟩
    simp only [deposits, evaluated_observe payment hcovers, List.map_append, List.map_cons,
      List.map_nil, List.mem_append, List.mem_singleton] at hseen ⊢
    exact (List.mem_cons.mp hseen).symm
  · intro id q hq
    rcases hquotes with hsame | ⟨paidId, paidQuote, hpaid, -, -, hnext⟩
    · exact hinv.quoted id q ((hsame id).symm.trans hq)
    · have hq' := (hnext id).symm.trans hq
      split_ifs at hq'
      · obtain rfl := Option.some.inj hq'
        exact hinv.quoted paidId paidQuote hpaid
      · exact hinv.quoted id q hq'
  · rcases hquotes with hsame | ⟨paidId, paidQuote, hpaid, hunclaimed, -, hnext⟩
    · exact .of_same hsame
    · intro id q hq
      by_cases hid : id = paidId
      · subst hid
        obtain rfl := Option.some.inj (hpaid.symm.trans hq)
        exact ⟨_, (hnext id).trans (if_pos rfl), .inr ⟨hunclaimed, _, rfl⟩⟩
      · exact ⟨q, (hnext id).trans ((if_neg hid).trans hq), .inl rfl⟩

theorem crediting_insert (hinv : w.Credited crates profile) {store : PersistentState}
    (hunclaimed : quote.claim = none) (hquoted : Quoted crates profile quote)
    (hinsert : insertMintQuote quote w.store = .ok store) :
    (crediting crates profile).Keeps w
      { w with store := store, history := w.history ++ [.inserted quote] } := by
  have hevaluated : evaluated { w with
      store := store, history := w.history ++ [.inserted quote] } = w.evaluated := by
    rw [evaluated, List.filterMap_append]
    exact List.append_nil _
  have hheld : DepositWorld.Sound { w.deposits profile with records := [quote] } :=
    ⟨hinv.sound.agree, fun q hq => .inl (List.mem_singleton.mp hq ▸ hunclaimed), hinv.sound.paid⟩
  obtain ⟨hsound, -⟩ := DepositWorld.sound_insert hheld List.mem_cons_self hinsert
  refine ⟨⟨⟨hsound.agree, by simp [deposits], ?_⟩, ?_⟩, ?_⟩
  · rw [deposits, hevaluated]
    exact hsound.paid
  · intro id q hq
    rcases insertMintQuote_ok hinsert with rfl | ⟨-, -, rfl⟩
    · exact hinv.quoted id q hq
    · rw [mintQuote_insert] at hq
      split_ifs at hq
      · exact Option.some.inj hq ▸ hquoted
      · exact hinv.quoted id q hq
  · rcases insertMintQuote_ok hinsert with rfl | ⟨hnone, -, rfl⟩
    · exact .of_same fun _ => rfl
    · intro id q hq
      have hid : id ≠ quote.quoteId := by
        rintro rfl
        rw [hnone] at hq
        cases hq
      exact ⟨q, (mintQuote_insert w.store quote.quoteId quote id).trans ((if_neg hid).trans hq),
        .inl rfl⟩

theorem crediting_scans {effect : ScanEffect} {answer : ScanAnswer effect}
    (hinv : w.Credited crates profile) (h : scansHorizon crates profile effect w answer w') :
    (crediting crates profile).Keeps w w' := by
  cases effect with
  | snapshot =>
      obtain ⟨-, rfl⟩ := h
      exact (crediting crates profile).keeps_self hinv
  | paymentsAfter cursor =>
      obtain ⟨-, rfl⟩ := h
      exact (crediting crates profile).keeps_self hinv
  | observePayment payment =>
      obtain ⟨-, rfl⟩ | ⟨-, rfl⟩ := h
      · exact crediting_observe hinv payment
      · exact (crediting crates profile).keeps_self hinv
  | advanceCursor cursor =>
      obtain ⟨-, rfl⟩ | ⟨-, rfl⟩ := h
      · exact crediting_advance hinv cursor
      · exact (crediting crates profile).keeps_self hinv

/-! ### All that the calls keep -/

/-- The discipline of the scanner, of the ledger's unreadable records, and of the quotes. -/
def discipline (crates : Crates) (profile : StellarProfile) : Discipline IncomingWorld :=
  (((ScanWorld.discipline profile).comap (toScan crates profile)).and
    (passing crates profile)).and (crediting crates profile)

theorem inv_initial : (discipline crates profile).inv initial := by
  refine ⟨⟨ScanWorld.inv_initial, List.Pairwise.nil, fun _ h => (WithBot.bot_ne_coe h).elim⟩,
    DepositWorld.sound_initial, ?_⟩
  intro quoteId quote hquote
  simp [initial, mintQuote, PersistentState.default] at hquote

theorem keeps_insert (hinv : (discipline crates profile).inv w) {store : PersistentState}
    (hunclaimed : quote.claim = none) (hquoted : Quoted crates profile quote)
    (hinsert : insertMintQuote quote w.store = .ok store) :
    (discipline crates profile).Keeps w
      { w with store := store, history := w.history ++ [.inserted quote] } := by
  obtain ⟨⟨hscan, hpassed⟩, hcredited⟩ := hinv
  have hposition : position { w with store := store, history := w.history ++ [.inserted quote] } =
      w.position := by
    rcases insertMintQuote_ok hinsert with rfl | ⟨-, -, rfl⟩ <;> rfl
  have hmove : ScanWorld.Moves (w.toScan crates profile)
      { w.toScan crates profile with
        store := store, history := w.history ++ [.inserted quote] } := .inserted hinsert
  exact Discipline.keeps_and
    (Discipline.keeps_and (hmove.keeps hscan)
      (passing_keeps hpassed rfl hposition.ge (.inl hposition)))
    (crediting_insert hcredited hunclaimed hquoted hinsert)

theorem Moves.keeps (hinv : (discipline crates profile).inv w) (hmove : Moves w w') :
    (discipline crates profile).Keeps w w' := by
  obtain ⟨⟨hscan, hpassed⟩, hcredited⟩ := hinv
  cases hmove with
  | @closed record hlast =>
      have hsource : ∀ r ∈ (w.toScan crates profile).source,
          r.cursor < (record.toSource crates profile).cursor := by
        intro source hsource
        obtain ⟨r, hr, rfl⟩ := List.mem_map.mp hsource
        exact hlast r hr
      have hscan' := (ScanWorld.Moves.closed hsource).keeps hscan
      have hview : toScan crates profile { w with ledger := w.ledger ++ [record] } =
          { w.toScan crates profile with
            source := (w.toScan crates profile).source ++ [record.toSource crates profile] } := by
        simp [toScan]
      have hgrow : w.Extends { w with ledger := w.ledger ++ [record] } := by
        refine ⟨⟨[record], rfl, ?_⟩, le_refl _⟩
        intro r hr r' hr'
        exact List.mem_singleton.mp hr' ▸ hlast r hr
      have hascending : Ascending LedgerRecord.cursor (w.ledger ++ [record]) := by
        rw [Ascending, List.pairwise_append]
        exact ⟨hpassed.ascending, List.pairwise_singleton _ _, fun r hr r' hr' =>
          List.mem_singleton.mp hr' ▸ hlast r hr⟩
      refine Discipline.keeps_and (Discipline.keeps_and ?_ ⟨⟨hascending, ?_⟩, hgrow⟩)
        ⟨⟨hcredited.sound, hcredited.quoted⟩, .of_same fun _ => rfl⟩
      · show (ScanWorld.discipline profile).Keeps _ _
        rw [hview]
        exact hscan'
      · exact fun cursor hcursor => (hpassed.passed cursor hcursor).extends hgrow
  | @melted meltQuotes =>
      have hmove : ScanWorld.Moves (w.toScan crates profile)
          { w.toScan crates profile with
            store := { w.store with meltQuotes := meltQuotes } } := .melted
      exact Discipline.keeps_and
        (Discipline.keeps_and (hmove.keeps hscan)
          (passing_keeps hpassed rfl (le_refl _) (.inl rfl)))
        (crediting_melted hcredited meltQuotes)

end IncomingWorld

end CashMesh.StellarSettlement
