import CashMesh.Acquirer.Observations
/-!
# Reading a dispatched payment

When the lifecycle of a payment with a melt effect loads. The loading derives the quote that the
effect was dispatched on from the observations up to the start of the effect, and observations of that
very second can still come in after the start. It goes on loading in every run in which those are
unpaid, and one that is not makes it fail.
-/

namespace CashMesh.Acquirer

open CashMesh.Lib

variable {db db' : Db}

/-! ### What a lifecycle is read from -/

/-- What a change has to leave as it is for a lifecycle to load as before. -/
structure LifecycleKept (db db' : Db) (scope : ReservationScope) : Prop where
  effects : db'.effectsOf scope.paymentId = db.effectsOf scope.paymentId
  events : db'.eventsOf scope.paymentId = db.eventsOf scope.paymentId
  quote : ∀ row ∈ db.effectsOf scope.paymentId, ∀ effect, mapEffect row scope = .ok effect →
    assertMeltQuoteEvidence db scope effect .stored = .ok () →
      assertMeltQuoteEvidence db' scope effect .stored = .ok ()
  snapshots : ∀ fingerprint requiredState observedAt,
    validateProofStateEvidenceByFingerprint db scope fingerprint requiredState false =
        .ok observedAt →
      validateProofStateEvidenceByFingerprint db' scope fingerprint requiredState false =
        .ok observedAt
  proofs : db'.reservedProofsOf scope.paymentId = db.reservedProofsOf scope.paymentId
  proofClaims : db'.proofClaimsOf scope.paymentId = db.proofClaimsOf scope.paymentId
  invoiceClaims : db'.invoiceClaimsOf scope.paymentId = db.invoiceClaimsOf scope.paymentId

variable {scope : ReservationScope}

theorem LifecycleKept.loadEffect (h : LifecycleKept db db' scope)
    {effect : Option CashuOperatorEffect} (hload : loadEffect db scope = .ok effect) :
    Acquirer.loadEffect db' scope = .ok effect := by
  unfold Acquirer.loadEffect at hload ⊢
  rw [h.effects, h.events]
  split at hload
  · exact hload
  · case h_2 row hrow =>
    simp only [bind_eq_ok, ensure_eq_ok, exists_unit] at hload ⊢
    obtain ⟨stored, hstored, hevents, hload⟩ := hload
    refine ⟨stored, hstored, hevents, ?_⟩
    split at hload
    · case isTrue hmelt =>
      simp only [bind_eq_ok, exists_unit] at hload
      rw [if_pos hmelt, bind_eq_ok]
      exact ⟨(), h.quote row (by simp [hrow]) stored hstored hload.1, hload.2⟩
    · case isFalse hswap =>
      rw [if_neg hswap]
      exact hload
  · exact hload

theorem LifecycleKept.mapEvent (h : LifecycleKept db db' scope) {row : LifecycleEventRow}
    {effect : Option CashuOperatorEffect} {event : CashuReservationLifecycleEvent}
    (hmap : mapEvent db row scope effect = .ok event) :
    Acquirer.mapEvent db' row scope effect = .ok event := by
  simp only [Acquirer.mapEvent, bind_eq_ok] at hmap ⊢
  obtain ⟨_, hsame, observedAt, hcited, hmap⟩ := hmap
  refine ⟨_, hsame, observedAt, ?_, hmap⟩
  unfold citedProofStateObservedAt at hcited ⊢
  split at hcited
  · exact hcited
  · simp only [bind_eq_ok] at hcited ⊢
    obtain ⟨time, hvalid, hcited⟩ := hcited
    exact ⟨time, h.snapshots _ _ _ hvalid, hcited⟩

theorem LifecycleKept.loadLifecycle (h : LifecycleKept db db' scope)
    {lifecycle : CashuProofReservationLifecycle} (hload : loadLifecycle db scope = .ok lifecycle) :
    Acquirer.loadLifecycle db' scope = .ok lifecycle := by
  simp only [Acquirer.loadLifecycle, bind_eq_ok, exists_unit] at hload ⊢
  obtain ⟨effect, heffect, events, hevents, hfits, hprojection, hload⟩ := hload
  refine ⟨effect, h.loadEffect heffect, events, ?_, hfits, ?_, hload⟩
  · rw [h.events]
    refine foldlM_ok_mono ?_ hevents
    intro before row _ after happend
    simp only [appendStoredEvent, bind_eq_ok] at happend ⊢
    obtain ⟨event, hmap, happend⟩ := happend
    exact ⟨event, h.mapEvent hmap, happend⟩
  · rw [assertProjection, h.proofs, h.proofClaims, h.invoiceClaims]
    exact hprojection

/-! ### Quotes that stay as they are -/

theorem assertMeltQuoteEvidence_keep {effect : CashuOperatorEffect}
    (hquoted : ∀ evidence, loadMeltQuotedEvidence db scope.paymentId = .ok (some evidence) →
      loadMeltQuotedEvidence db' scope.paymentId = .ok (some evidence))
    (hroute : ∀ route, requireSettlementRoute db scope = .ok route →
      requireSettlementRoute db' scope = .ok route)
    (h : assertMeltQuoteEvidence db scope effect .stored = .ok ()) :
    assertMeltQuoteEvidence db' scope effect .stored = .ok () := by
  simp only [assertMeltQuoteEvidence, bind_eq_ok, orFail_eq_ok] at h ⊢
  obtain ⟨_, hloaded, evidence, rfl, route, hstoredRoute, h⟩ := h
  exact ⟨_, hquoted evidence hloaded, evidence, rfl, route, hroute route hstoredRoute, h⟩

theorem loadMeltQuotedEvidence_of {paymentId : PaymentId} {attempt : MeltQuoteAttemptRow}
    {outcome : MeltQuoteOutcomeRow} {evidence : StoredCashuStellarMeltQuotedEvidence}
    (hattempt : db.attemptOf paymentId = some attempt)
    (houtcome : db.outcomeOf attempt.attemptId = some outcome)
    (hevidence : mapCashuStellarMeltQuotedEvidenceRecord attempt outcome
      (db.quoteObservationsOf attempt.attemptId) = .ok evidence) :
    loadMeltQuotedEvidence db paymentId = .ok (some evidence) := by
  simp only [loadMeltQuotedEvidence, hattempt, houtcome, hevidence]
  rfl

theorem loadMeltQuotedEvidence_keep {paymentId : PaymentId}
    {evidence : StoredCashuStellarMeltQuotedEvidence}
    (hattempts : ∀ attempt, db.attemptOf paymentId = some attempt →
      db'.attemptOf paymentId = some attempt)
    (houtcomes : ∀ attemptId outcome, db.outcomeOf attemptId = some outcome →
      db'.outcomeOf attemptId = some outcome)
    (hobservations : ∀ attempt outcome, db.attemptOf paymentId = some attempt →
      db.outcomeOf attempt.attemptId = some outcome →
      db'.quoteObservationsOf attempt.attemptId = db.quoteObservationsOf attempt.attemptId)
    (h : loadMeltQuotedEvidence db paymentId = .ok (some evidence)) :
    loadMeltQuotedEvidence db' paymentId = .ok (some evidence) := by
  obtain ⟨attempt, outcome, hattempt, houtcome, hevidence⟩ := loadMeltQuotedEvidence_ok h
  rw [← hobservations attempt outcome hattempt houtcome] at hevidence
  exact loadMeltQuotedEvidence_of (hattempts attempt hattempt) (houtcomes _ outcome houtcome)
    hevidence

theorem assertMeltQuoteEvidence_ok {effect : CashuOperatorEffect} {mode : MeltQuoteEvidenceMode}
    (h : assertMeltQuoteEvidence db scope effect mode = .ok ()) :
    ∃ evidence route, loadMeltQuotedEvidence db scope.paymentId = .ok (some evidence) ∧
      requireSettlementRoute db scope = .ok route ∧
      ImmutableTermsMatch evidence scope effect route := by
  simp only [assertMeltQuoteEvidence, bind_eq_ok, orFail_eq_ok, ensure_eq_ok] at h
  obtain ⟨_, hloaded, evidence, rfl, route, hroute, hterms, -⟩ := h
  exact ⟨evidence, route, hloaded, hroute, hterms⟩

theorem assertMeltQuoteEvidence_of {effect : CashuOperatorEffect}
    {evidence : StoredCashuStellarMeltQuotedEvidence} {route : SettlementRoute}
    (hloaded : loadMeltQuotedEvidence db scope.paymentId = .ok (some evidence))
    (hroute : requireSettlementRoute db scope = .ok route)
    (hterms : ImmutableTermsMatch evidence scope effect route) :
    assertMeltQuoteEvidence db scope effect .stored = .ok () := by
  simp only [assertMeltQuoteEvidence, bind_eq_ok, orFail_eq_ok, ensure_eq_ok]
  refine ⟨_, hloaded, evidence, rfl, route, hroute, hterms, ?_⟩
  intro hdispatch
  cases hdispatch

/-! ### A new observation of the quote -/

theorem mapAttempt_quoted {row : MeltQuoteAttemptRow} {outcome : MeltQuoteOutcomeRow}
    {result : CashuStellarMeltQuoteAttempt} (h : mapAttempt db row = .ok result)
    (houtcome : db.outcomeOf row.attemptId = some outcome) (hkind : outcome.outcomeKind = .quoted) :
    ∃ evidence, mapCashuStellarMeltQuotedEvidenceRecord row outcome
      (db.quoteObservationsOf row.attemptId) = .ok evidence := by
  simp only [mapAttempt, bind_eq_ok] at h
  obtain ⟨attempt, hattempt, h⟩ := h
  obtain ⟨hid, -⟩ := mapAttemptBase_ok hattempt
  rw [hid, houtcome] at h
  simp only [hkind, bind_eq_ok, mapError_eq_ok, exists_unit] at h
  obtain ⟨-, evidence, hevidence, -⟩ := h
  exact ⟨evidence, hevidence⟩

theorem outcomeKind_of_quotedEvidence {attempt : MeltQuoteAttemptRow} {outcome : MeltQuoteOutcomeRow}
    {rows : List MeltQuoteObservationRow} {evidence : StoredCashuStellarMeltQuotedEvidence}
    (h : mapCashuStellarMeltQuotedEvidenceRecord attempt outcome rows = .ok evidence) :
    outcome.outcomeKind = .quoted := by
  simp only [mapCashuStellarMeltQuotedEvidenceRecord, bind_eq_ok, ensure_eq_ok, exists_unit] at h
  obtain ⟨-, -, ⟨-, -, -, hkind, -⟩, -⟩ := h
  exact hkind

theorem quotedEvidence_append {attempt : MeltQuoteAttemptRow} {outcome : MeltQuoteOutcomeRow}
    {rows : List MeltQuoteObservationRow} {row : MeltQuoteObservationRow}
    {evidence evidence' : StoredCashuStellarMeltQuotedEvidence}
    (h : mapCashuStellarMeltQuotedEvidenceRecord attempt outcome rows = .ok evidence)
    (h' : mapCashuStellarMeltQuotedEvidenceRecord attempt outcome (rows ++ [row]) = .ok evidence') :
    ∃ quote, StoresQuote attempt outcome row quote ∧
      evidence' = { evidence with observations := evidence.observations ++ [quote] } := by
  have hstored := (quotedEvidence_ok h').1
  simp only [mapCashuStellarMeltQuotedEvidenceRecord, bind_eq_ok, ensure_eq_ok, exists_unit,
    orFail_eq_ok, pure_eq_ok, Except.ok.injEq, List.mapM_append] at h h'
  obtain ⟨base, hbase, -, expiry, hexpiry, feeReserve, hfeeReserve, quotes, hquotes, -, -, -, -,
    rfl⟩ := h
  obtain ⟨base', hbase', -, expiry', hexpiry', feeReserve', hfeeReserve', _,
    ⟨quotes', hquotes', last, hlast, rfl⟩, -, -, -, -, rfl⟩ := h'
  obtain rfl : base = base' := Except.ok.inj (hbase.symm.trans hbase')
  obtain rfl : expiry = expiry' := Option.some.inj (hexpiry.symm.trans hexpiry')
  obtain rfl : feeReserve = feeReserve' := Option.some.inj (hfeeReserve.symm.trans hfeeReserve')
  obtain rfl : quotes = quotes' := Except.ok.inj (hquotes.symm.trans hquotes')
  have hlength : last.length = 1 := (mapM_eq_ok.mp hlast).length_eq.symm
  obtain ⟨quote, rfl⟩ := List.length_eq_one_iff.mp hlength
  refine ⟨quote, ?_, rfl⟩
  obtain ⟨other, hother, hstores⟩ := getLast?_of_forall₂ hstored (List.getLast?_concat ..)
  rw [List.getLast?_concat, Option.some_inj] at hother
  exact hother ▸ hstores

/-- An observation of the second in which an effect started, or of one before, has to be unpaid for
the quote that the effect was dispatched on to stay unpaid. -/
theorem immutableTermsMatch_append {effect : CashuOperatorEffect} {route : SettlementRoute}
    {attempt : MeltQuoteAttemptRow} {outcome : MeltQuoteOutcomeRow}
    {rows : List MeltQuoteObservationRow} {row : MeltQuoteObservationRow}
    {evidence : StoredCashuStellarMeltQuotedEvidence} {quote : CashuStellarMeltQuote}
    (hevidence : mapCashuStellarMeltQuotedEvidenceRecord attempt outcome rows = .ok evidence)
    (hquote : StoresQuote attempt outcome row quote)
    (hterms : ImmutableTermsMatch evidence scope effect route) :
    ImmutableTermsMatch { evidence with observations := evidence.observations ++ [quote] } scope
        effect route ↔
      row.state = .unpaid ∨ effect.startedAt < row.observedAt := by
  obtain ⟨hmatches, hdestination, hrecorded, dispatched, hdispatched, hterms, hunpaid⟩ := hterms
  have hdispatch : dispatchQuote
      { evidence with observations := evidence.observations ++ [quote] } effect.startedAt =
        if quote.observedAt ≤ effect.startedAt then some quote
        else dispatchQuote evidence effect.startedAt := by
    simp only [dispatchQuote, List.filter_append]
    by_cases hbefore : quote.observedAt ≤ effect.startedAt
    · simp [hbefore]
    · simp [hbefore]
  have hmem : dispatched ∈ evidence.observations :=
    List.mem_of_mem_filter (List.mem_of_getLast? hdispatched)
  obtain ⟨other, -, hother⟩ := exists_of_forall₂ (quotedEvidence_ok hevidence).1 hmem
  have hquoteId : quote.quoteId = dispatched.quoteId := by
    rw [hquote.quoteId, hother.quoteId]
    exact Option.some.inj (hquote.bound.symm.trans hother.bound)
  have hexpiry : quote.expiry = dispatched.expiry :=
    Option.some.inj (hquote.expiry.symm.trans hother.expiry)
  rw [ImmutableTermsMatch, hdispatch, ← hquote.state, ← hquote.observedAt]
  by_cases hbefore : quote.observedAt ≤ effect.startedAt
  · rw [if_pos hbefore]
    constructor
    · rintro ⟨-, -, -, last, hlast, -, hstate⟩
      cases hlast
      exact .inl hstate
    · rintro (hstate | hafter)
      · exact ⟨hmatches, hdestination, hrecorded, quote, rfl, by rw [hterms, hquoteId, hexpiry],
          hstate⟩
      · exact absurd hbefore (Nat.not_le.mpr hafter)
  · rw [if_neg hbefore]
    constructor
    · intro _
      exact .inr (Nat.not_le.mp hbefore)
    · intro _
      exact ⟨hmatches, hdestination, hrecorded, dispatched, hdispatched, hterms, hunpaid⟩

/-! ### Readable payments -/

/-- The payment has a melt effect. -/
def Dispatched (db : Db) (paymentId : PaymentId) : Prop :=
  ∃ effect ∈ db.cashuOperatorEffects, effect.paymentId = paymentId ∧ effect.effectKind = .melt

/-- The reservation and the lifecycle of the payment load. -/
def Readable (db : Db) (paymentId : PaymentId) : Prop :=
  ∃ scope lifecycle, loadReservation db paymentId = .ok (some scope) ∧
    loadLifecycle db scope = .ok lifecycle

/-- An observation of the payment's quote is of after the start of the melt, unless it is unpaid or
stored already. -/
def ObservedInTime (db : Db) (paymentId : PaymentId) (input : QuoteInput) : Prop :=
  input.paymentId = paymentId →
    quoteObservationAt db input.attemptId input.quote.observedAt = none →
    ∀ effect ∈ db.cashuOperatorEffects, effect.paymentId = paymentId → effect.effectKind = .melt →
      input.quote.state = .unpaid ∨ effect.startedAt < input.quote.observedAt

theorem loadReservation_of {paymentId : PaymentId} {reservation : ReservationRow}
    {invoice : MerchantInvoiceRow} (hreservation : db.reservation paymentId = some reservation)
    (hinvoice : db.invoice reservation.invoiceId = some invoice)
    (hfits : (reservationScope reservation invoice).StateFitsPaidAt) :
    loadReservation db paymentId = .ok (some (reservationScope reservation invoice)) := by
  simp only [loadReservation, hreservation, hinvoice, Option.bind_eq_bind, Option.bind_some,
    Option.pure_def, bind_eq_ok, ensure_eq_ok, exists_unit]
  exact ⟨hfits, rfl⟩

theorem loadReservation_keep {paymentId : PaymentId}
    (h : loadReservation db paymentId = .ok (some scope))
    (hreservations : ∀ reservation, db.reservation paymentId = some reservation →
      db'.reservation paymentId = some reservation)
    (hinvoices : ∀ id invoice, db.invoice id = some invoice → db'.invoice id = some invoice) :
    loadReservation db' paymentId = .ok (some scope) := by
  obtain ⟨reservation, invoice, hreservation, hinvoice, rfl, hfits⟩ := loadReservation_ok h
  exact loadReservation_of (hreservations _ hreservation) (hinvoices _ _ hinvoice) hfits

/-- A payment stays readable where its rows are kept. -/
theorem Readable.keep {paymentId : PaymentId} (h : Readable db paymentId)
    (hreservations : ∀ reservation, db.reservation paymentId = some reservation →
      db'.reservation paymentId = some reservation)
    (hinvoices : ∀ id invoice, db.invoice id = some invoice → db'.invoice id = some invoice)
    (hkept : ∀ scope lifecycle, loadReservation db paymentId = .ok (some scope) →
      loadLifecycle db scope = .ok lifecycle → LifecycleKept db db' scope) :
    Readable db' paymentId := by
  obtain ⟨scope, lifecycle, hscope, hlifecycle⟩ := h
  exact ⟨scope, lifecycle, loadReservation_keep hscope hreservations hinvoices,
    (hkept scope lifecycle hscope hlifecycle).loadLifecycle hlifecycle⟩

/-! ### Changes that keep a payment readable -/

section Frame

variable {paymentId : PaymentId}

theorem LifecycleKept.event {row : LifecycleEventRow} {events : Table LifecycleEventRow}
    (hevents : db.cashuProofReservationEvents.Appends [row] events)
    (hne : row.paymentId ≠ scope.paymentId) :
    LifecycleKept db (db.afterEvent row events) scope where
  effects := rfl
  events := @eventsOf_append_of_ne _ (db.afterEvent row events) _ hevents _ hne
  quote _ _ _ _ h := h
  snapshots _ _ _ h := h
  proofs := rfl
  proofClaims := by
    rw [Db.proofClaimsOf, Db.afterEvent]
    split
    · exact Table.select_delete_of_imp_not fun claim hclaim hother => hne (hother.symm.trans hclaim)
    · rfl
  invoiceClaims := by
    rw [Db.invoiceClaimsOf, Db.afterEvent]
    split
    · exact Table.select_delete_of_imp_not fun claim hclaim hother => hne (hother.symm.trans hclaim)
    · rfl

theorem LifecycleKept.trans {db'' : Db} (h : LifecycleKept db db' scope)
    (h' : LifecycleKept db' db'' scope) : LifecycleKept db db'' scope where
  effects := h'.effects.trans h.effects
  events := h'.events.trans h.events
  quote row hrow effect heffect hquote :=
    h'.quote row (h.effects ▸ hrow) effect heffect (h.quote row hrow effect heffect hquote)
  snapshots _ _ _ hsnapshot := h'.snapshots _ _ _ (h.snapshots _ _ _ hsnapshot)
  proofs := h'.proofs.trans h.proofs
  proofClaims := h'.proofClaims.trans h.proofClaims
  invoiceClaims := h'.invoiceClaims.trans h.invoiceClaims

theorem LifecycleKept.effect {row : OperatorEffectRow} {effects claims jobs}
    (heffects : db.cashuOperatorEffects.Appends [row] effects)
    (hclaims : db.cashuActiveInvoicePaymentClaims.Appends [row.claim] claims)
    (hne : row.paymentId ≠ scope.paymentId) :
    LifecycleKept db (db.withEffect effects claims jobs) scope where
  effects := heffects.select_of_not (by simpa using hne)
  events := rfl
  quote _ _ _ _ h := h
  snapshots _ _ _ h := h
  proofs := rfl
  proofClaims := rfl
  invoiceClaims := hclaims.select_of_not (by simpa [OperatorEffectRow.claim] using hne)

theorem LifecycleKept.quotes {row : MeltQuoteObservationRow} {outcomes observations}
    (houtcomes : ∀ attemptId outcome, db.outcomeOf attemptId = some outcome →
      (outcomes.find fun row => row.attemptId = attemptId) = some outcome)
    (hobservations : db.cashuStellarMeltQuoteObservations.Appends [row] observations)
    (hne : ∀ attempt outcome, db.attemptOf scope.paymentId = some attempt →
      db.outcomeOf attempt.attemptId = some outcome → row.attemptId ≠ attempt.attemptId) :
    LifecycleKept db
      { db with
        cashuStellarMeltQuoteOutcomes := outcomes
        cashuStellarMeltQuoteObservations := observations } scope where
  effects := rfl
  events := rfl
  quote _ _ effect _ := by
    apply assertMeltQuoteEvidence_keep
    · intro evidence
      refine loadMeltQuotedEvidence_keep (fun _ hattempt => hattempt) houtcomes ?_
      intro attempt outcome hattempt houtcome
      show orderBy _ (observations.select _) = _
      rw [hobservations.select_of_not]
      · rfl
      · intro other hother hsame
        rw [List.mem_singleton.mp hother] at hsame
        exact hne attempt outcome hattempt houtcome hsame
    · exact fun _ hroute => hroute
  snapshots _ _ _ h := h
  proofs := rfl
  proofClaims := rfl
  invoiceClaims := rfl

theorem LifecycleKept.snapshot {observation : PersistProofStateInput} {observations entries}
    (hobservations : db.cashuProofStateObservations.Appends
      [proofStateObservationRow observation] observations)
    (hentries : db.cashuProofStateObservationEntries.Appends (proofStateEntryRows observation)
      entries) :
    LifecycleKept db
      { db with
        cashuProofStateObservations := observations
        cashuProofStateObservationEntries := entries } scope where
  effects := rfl
  events := rfl
  quote _ _ _ _ h := h
  snapshots fingerprint requiredState observedAt h := by
    simp only [validateProofStateEvidenceByFingerprint, bind_eq_ok, orFail_eq_ok] at h ⊢
    obtain ⟨row, hrow, h⟩ := h
    refine ⟨row, hobservations.find_of_some hrow, ?_⟩
    obtain ⟨hmem, hfingerprint, -⟩ := Table.find_some hrow
    have hsame := proofStateEntriesOf_of_observed hobservations hentries hmem
    rw [hfingerprint] at hsame
    rw [show Db.proofStateEntriesOf { db with
      cashuProofStateObservations := observations
      cashuProofStateObservationEntries := entries } fingerprint =
        db.proofStateEntriesOf fingerprint from hsame]
    exact h
  proofs := rfl
  proofClaims := rfl
  invoiceClaims := rfl

theorem requireSettlementRoute_append {request : InvoiceCashuRequestRow}
    {routeRows : List InvoiceRouteRow} {creations invoices requests routes} {route : SettlementRoute}
    (hrequests : db.invoiceCashuRequests.Appends [request] requests)
    (hroutes : db.invoiceCashuRequestOperators.Appends routeRows routes)
    (hne : ∀ route ∈ routeRows, route.invoiceId ≠ scope.invoiceId)
    (h : requireSettlementRoute db scope = .ok route) :
    requireSettlementRoute
      { db with
        invoiceCreationRequests := creations
        merchantInvoices := invoices
        invoiceCashuRequests := requests
        invoiceCashuRequestOperators := routes } scope = .ok route := by
  simp only [requireSettlementRoute, bind_eq_ok, orFail_eq_ok] at h ⊢
  obtain ⟨row, hrow, h⟩ := h
  refine ⟨row, hrequests.find_of_some hrow, ?_⟩
  have hsame : routes.select (fun route =>
      route.invoiceId = scope.invoiceId ∧ route.merchantId = scope.merchantId) =
        db.invoiceCashuRequestOperators.select (fun route =>
          route.invoiceId = scope.invoiceId ∧ route.merchantId = scope.merchantId) :=
    hroutes.select_of_not fun route hroute hsame => hne route hroute hsame.1
  simp only [Db.routesOf, hsame] at h ⊢
  exact h

theorem LifecycleKept.invoice {request : InvoiceCashuRequestRow} {routeRows : List InvoiceRouteRow}
    {creations invoices requests routes}
    (hrequests : db.invoiceCashuRequests.Appends [request] requests)
    (hroutes : db.invoiceCashuRequestOperators.Appends routeRows routes)
    (hne : ∀ route ∈ routeRows, route.invoiceId ≠ scope.invoiceId) :
    LifecycleKept db
      { db with
        invoiceCreationRequests := creations
        merchantInvoices := invoices
        invoiceCashuRequests := requests
        invoiceCashuRequestOperators := routes } scope where
  effects := rfl
  events := rfl
  quote _ _ effect _ := by
    apply assertMeltQuoteEvidence_keep
    · exact fun _ hloaded => hloaded
    · exact fun route => requireSettlementRoute_append hrequests hroutes hne
  snapshots _ _ _ h := h
  proofs := rfl
  proofClaims := rfl
  invoiceClaims := rfl

end Frame

/-- A later observation of the quote of a readable melt keeps it readable exactly when it is unpaid or
of after the start of the melt. -/
theorem Readable.observe {paymentId : PaymentId} (h : Readable db paymentId)
    (hdispatched : Dispatched db paymentId) {attempt : StoredCashuStellarMeltQuoteAttempt}
    {attemptRow : MeltQuoteAttemptRow} {quote : CashuStellarMeltQuote}
    {result : CashuStellarMeltQuoteAttempt} {observations}
    (hobservable : QuoteObservable db attempt attemptRow quote)
    (hattemptPayment : attempt.paymentId = paymentId)
    (hobservations : db.cashuStellarMeltQuoteObservations.Appends
      [quoteObservationRow attempt quote] observations)
    (hresult : mapAttempt { db with cashuStellarMeltQuoteObservations := observations }
      attemptRow = .ok result) :
    Readable { db with cashuStellarMeltQuoteObservations := observations } paymentId ↔
      ∀ effect ∈ db.cashuOperatorEffects, effect.paymentId = paymentId →
        effect.effectKind = .melt → quote.state = .unpaid ∨ effect.startedAt < quote.observedAt := by
  obtain ⟨scope, lifecycle, hscope, hlifecycle⟩ := h
  obtain ⟨row, hrowMem, hpayment, hmelt⟩ := hdispatched
  have hsame : scope.paymentId = paymentId := paymentId_of_loadReservation hscope
  obtain ⟨effect, -, heffect, hquote⟩ :=
    effect_of_effectRow hlifecycle hrowMem (hpayment.trans hsame.symm)
  have hstores := mapEffect_ok heffect
  obtain ⟨evidence, route, hloaded, hroute, hterms⟩ :=
    assertMeltQuoteEvidence_ok (hquote (hstores.kind.symm.trans hmelt))
  rw [hsame] at hloaded
  obtain ⟨other, outcome, hother, houtcome, hevidence⟩ := loadMeltQuotedEvidence_ok hloaded
  have hrow : db.attemptOf paymentId = some attemptRow := hattemptPayment ▸ hobservable.row
  obtain rfl : attemptRow = other := Option.some.inj (hrow.symm.trans hother)
  obtain ⟨hid, -⟩ := mapAttemptBase_ok hobservable.mapped
  have hrows : Db.quoteObservationsOf
      { db with cashuStellarMeltQuoteObservations := observations } attemptRow.attemptId =
        db.quoteObservationsOf attemptRow.attemptId ++ [quoteObservationRow attempt quote] := by
    have hfilter : [quoteObservationRow attempt quote].filter
        (fun row => row.attemptId = attemptRow.attemptId) = [quoteObservationRow attempt quote] := by
      simp [quoteObservationRow, hid]
    rw [Db.quoteObservationsOf, Db.quoteObservationsOf, hobservations.select, hfilter]
    apply orderBy_append_of_le
    intro old hold
    obtain ⟨latest, hlatest, htime, -⟩ := hobservable.latest
    rw [hid] at hlatest
    exact (le_latest hlatest hold).trans htime.le
  obtain ⟨evidence', hevidence'⟩ := mapAttempt_quoted hresult houtcome
    (outcomeKind_of_quotedEvidence hevidence)
  rw [hrows] at hevidence'
  obtain ⟨last, hlast, rfl⟩ := quotedEvidence_append hevidence hevidence'
  have hloaded' : loadMeltQuotedEvidence
      { db with cashuStellarMeltQuoteObservations := observations } paymentId =
        .ok (some { evidence with observations := evidence.observations ++ [last] }) := by
    rw [← hrows] at hevidence'
    exact loadMeltQuotedEvidence_of hrow houtcome hevidence'
  have hmatches := immutableTermsMatch_append hevidence hlast hterms
  rw [← hstores.startedAt] at hmatches
  constructor
  · rintro ⟨scope', lifecycle', hscope', hlifecycle'⟩ other hotherMem hotherPayment -
    obtain rfl : scope = scope' := Option.some.inj (Except.ok.inj (hscope.symm.trans hscope'))
    obtain rfl : row = other := Table.eq_of_collide hrowMem hotherMem
      (.inr (.inr (.inl (hpayment.trans hotherPayment.symm))))
    obtain ⟨effect', -, heffect', hquote'⟩ :=
      effect_of_effectRow hlifecycle' hrowMem (hpayment.trans hsame.symm)
    obtain rfl : effect = effect' := Except.ok.inj (heffect.symm.trans heffect')
    obtain ⟨evidence', route', hloadedAfter, hroute', hterms'⟩ :=
      assertMeltQuoteEvidence_ok (hquote' (hstores.kind.symm.trans hmelt))
    rw [hsame, hloaded'] at hloadedAfter
    obtain rfl : route = route' := Except.ok.inj (hroute.symm.trans hroute')
    cases hloadedAfter
    exact hmatches.mp hterms'
  · intro htimely
    have hterms' := hmatches.mpr (htimely row hrowMem hpayment hmelt)
    refine ⟨scope, lifecycle, hscope, LifecycleKept.loadLifecycle ?_ hlifecycle⟩
    refine ⟨rfl, rfl, ?_, fun _ _ _ hsnapshot => hsnapshot, rfl, rfl, rfl⟩
    intro other hotherOf effect' heffect' _
    obtain ⟨hotherMem, hotherPayment⟩ := Table.mem_select.mp hotherOf
    obtain rfl : row = other := Table.eq_of_collide hrowMem hotherMem
      (.inr (.inr (.inl (hpayment.trans (hsame.symm.trans hotherPayment.symm)))))
    obtain rfl : effect = effect' := Except.ok.inj (heffect.symm.trans heffect')
    rw [← hsame] at hloaded'
    exact assertMeltQuoteEvidence_of hloaded' hroute hterms'

theorem loadReservation_pay {paymentId : PaymentId} {id : InvoiceId} {paidAt : UnixTimestamp}
    {invoices : Table MerchantInvoiceRow} (h : loadReservation db paymentId = .ok (some scope))
    (hpayable : ∀ row ∈ db.merchantInvoices, row.id = id → row.state = .open → row.paidAt = none →
      (row.pay paidAt).Checks)
    (hinvoices : invoices.rows = payRows db.merchantInvoices.rows id paidAt) :
    ∃ invoiceState paidAt', loadReservation { db with merchantInvoices := invoices } paymentId =
      .ok (some { scope with
        invoiceState := invoiceState
        paidAt := paidAt' }) := by
  obtain ⟨reservation, invoice, hreservation, hinvoice, rfl, hfits⟩ := loadReservation_ok h
  have hpaid := invoice_of_pay hinvoices reservation.invoiceId
  rw [hinvoice, Option.map_some] at hpaid
  by_cases hopen : invoice.id = id ∧ invoice.state = .open ∧ invoice.paidAt = none
  · rw [if_pos hopen] at hpaid
    refine ⟨.paid, some paidAt, @loadReservation_of { db with merchantInvoices := invoices } _ _ _
      hreservation hpaid ?_⟩
    obtain ⟨-, -, -, -, -, ⟨hstate, -⟩ | ⟨-, hwindow⟩⟩ :=
      hpayable invoice (Table.find_some hinvoice).1 hopen.1 hopen.2.1 hopen.2.2
    · cases hstate
    · exact .inr ⟨rfl, paidAt, rfl, hwindow paidAt rfl⟩
  · rw [if_neg hopen] at hpaid
    exact ⟨_, _, @loadReservation_of { db with merchantInvoices := invoices } _ _ _ hreservation
      hpaid hfits⟩

/-- A dispatched payment stays readable under every change in which its quote is observed in time. -/
theorem readable_of_change {paymentId : PaymentId}
    (h : Dispatched db paymentId → Readable db paymentId) (hchange : Change db db')
    (htimely : ∀ input, (Operation.observe input).run db = some db' →
      ObservedInTime db paymentId input) : Dispatched db' paymentId → Readable db' paymentId := by
  intro hdispatched
  cases hchange
  case invoiceCreated invoice request routeRows creations invoices requests routes hopen hchecks
      hinvoices hrequest hrequests hrouteRows hroutes =>
    refine (h hdispatched).keep (fun _ hreservation => hreservation)
      (fun _ _ => hinvoices.find_of_some) ?_
    intro scope lifecycle hscope _
    apply LifecycleKept.invoice hrequests hroutes
    intro route hroute hsame
    obtain ⟨reservation, old, -, hold, rfl, -⟩ := loadReservation_ok hscope
    obtain ⟨hmem, hid⟩ := Table.find_some hold
    exact hinvoices.not_collide hmem List.mem_cons_self
      (hid.trans (hsame.symm.trans (hrouteRows route hroute)))
  case reserved reservation reservations proofs claims hcreated hnew hroute hreservations hproofs
      hclaims =>
    refine (h hdispatched).keep (fun _ => hreservations.find_of_some)
      (fun _ _ hinvoice => hinvoice) ?_
    intro scope lifecycle hscope _
    have hne : reservation.paymentId ≠ scope.paymentId := by
      obtain ⟨old, -, hold, -, rfl, -⟩ := loadReservation_ok hscope
      intro hsame
      rw [hsame, show (reservationScope old _).paymentId = old.paymentId from rfl,
        (Table.find_some hold).2, hold] at hnew
      cases hnew
    have hproofsOf : Db.reservedProofsOf
        { db with
          cashuProofReservations := reservations
          cashuReservedProofs := proofs
          cashuActiveProofClaims := claims } scope.paymentId =
        db.reservedProofsOf scope.paymentId := by
      show orderBy _ (proofs.select _) = _
      rw [hproofs.select_of_not]
      · rfl
      · intro row hrow hsame
        obtain ⟨pair, -, rfl⟩ := List.mem_map.mp hrow
        exact hne hsame
    refine ⟨rfl, rfl, fun _ _ _ _ hquote => hquote, ?_, hproofsOf, ?_, rfl⟩
    · intro fingerprint requiredState observedAt hvalid
      rw [validateProofStateEvidenceByFingerprint, hproofsOf]
      exact hvalid
    · apply hclaims.select_of_not
      intro claim hclaim hsame
      obtain ⟨row, hrow, rfl⟩ := List.mem_map.mp hclaim
      obtain ⟨pair, -, rfl⟩ := List.mem_map.mp hrow
      exact hne hsame
  case quoteBegun row result attempts hcustody hresult hattempts =>
    refine (h hdispatched).keep (fun _ hreservation => hreservation)
      (fun _ _ hinvoice => hinvoice) fun scope lifecycle _ _ => ?_
    refine ⟨rfl, rfl, ?_, fun _ _ _ hsnapshot => hsnapshot, rfl, rfl, rfl⟩
    intro _ _ effect _
    apply assertMeltQuoteEvidence_keep
    · intro evidence
      exact loadMeltQuotedEvidence_keep (fun _ => hattempts.find_of_some)
        (fun _ _ houtcome => houtcome) fun _ _ _ _ => rfl
    · exact fun _ hroute => hroute
  case outcomeAmbiguous attemptRow row result outcomes hattempt hattemptId hpayment hresult hnone
      houtcomes =>
    refine (h hdispatched).keep (fun _ hreservation => hreservation)
      (fun _ _ hinvoice => hinvoice) fun scope lifecycle _ _ => ?_
    refine ⟨rfl, rfl, ?_, fun _ _ _ hsnapshot => hsnapshot, rfl, rfl, rfl⟩
    intro _ _ effect _
    apply assertMeltQuoteEvidence_keep
    · intro evidence
      exact loadMeltQuotedEvidence_keep (fun _ hattempt => hattempt)
        (fun _ _ => houtcomes.find_of_some) fun _ _ _ _ => rfl
    · exact fun _ hroute => hroute
  case quoteRecorded attempt attemptRow quote row result outcomes observations hrow hattempt hactive
      hnone hpayment hattemptId houtcomes hunpaid hobservations hresult =>
    refine (h hdispatched).keep (fun _ hreservation => hreservation)
      (fun _ _ hinvoice => hinvoice) fun scope lifecycle _ _ => ?_
    apply LifecycleKept.quotes (fun _ _ => houtcomes.find_of_some) hobservations
    intro other outcome _ houtcome hsame
    rw [← hsame, show (quoteObservationRow attempt quote).attemptId = attempt.attemptId from rfl,
      hnone] at houtcome
    cases houtcome
  case quoteObserved attempt attemptRow quote result observations hobservable hinput hobservations
      hresult =>
    by_cases hpayment : attempt.paymentId = paymentId
    · apply ((h hdispatched).observe hdispatched hobservable hpayment hobservations hresult).mpr
      exact htimely _ hinput hpayment hobservable.fresh
    · refine (h hdispatched).keep (fun _ hreservation => hreservation)
        (fun _ _ hinvoice => hinvoice) fun scope lifecycle hscope _ => ?_
      apply LifecycleKept.quotes (fun _ _ houtcome => houtcome) hobservations
      intro other outcome hother _ hsame
      obtain ⟨hotherMem, hotherPayment⟩ := Table.find_some hother
      obtain ⟨hrowMem, hrowPayment⟩ := Table.find_some hobservable.row
      have hattemptId : attemptRow.attemptId = other.attemptId :=
        (mapAttemptBase_ok hobservable.mapped).1.symm.trans hsame
      rw [Table.eq_of_collide hrowMem hotherMem (.inl hattemptId), hotherPayment,
        paymentId_of_loadReservation hscope] at hrowPayment
      exact hpayment hrowPayment.symm
  case proofStateObserved hsnapshot hevidence hactive hproposed hobservations hentries =>
    exact (h hdispatched).keep (fun _ hreservation => hreservation)
      (fun _ _ hinvoice => hinvoice) fun _ _ _ _ => .snapshot hobservations hentries
  case effectStarted scope input lifecycle effects claims jobs events hstartable heffects hclaims
      hjobs hadmitted hevents hafter =>
    have hsame := paymentId_of_loadReservation hstartable.loaded
    by_cases hpayment : input.paymentId = paymentId
    · rw [← hpayment]
      exact ⟨scope, lifecycle, hstartable.loaded, hafter⟩
    · have hbefore : Dispatched db paymentId := by
        obtain ⟨effect, heffect, heffectPayment, hmelt⟩ := hdispatched
        rcases heffects.mem.mp heffect with hold | hnew
        · exact ⟨effect, hold, heffectPayment, hmelt⟩
        · rw [List.mem_singleton.mp hnew] at heffectPayment
          exact absurd (hsame.symm.trans heffectPayment) hpayment
      refine (h hbefore).keep (fun _ hreservation => hreservation)
        (fun _ _ hinvoice => hinvoice) fun other _ hother _ => ?_
      have hne : input.paymentId ≠ other.paymentId := by
        rw [paymentId_of_loadReservation hother]
        exact hpayment
      have hmiddle : LifecycleKept db (db.withEffect effects claims jobs) other := by
        apply LifecycleKept.effect heffects hclaims
        rw [← hsame] at hne
        exact hne
      exact hmiddle.trans (.event hevents hne)
  case eventAppended scope draft sequence current lifecycle events hstate hkind hscope hcurrent
      hfollows hrelease hadmitted hevents hafter =>
    by_cases hpayment : draft.paymentId = paymentId
    · rw [← hpayment]
      exact ⟨scope, lifecycle, hscope, hafter⟩
    · refine (h hdispatched).keep (fun _ hreservation => hreservation)
        (fun _ _ hinvoice => hinvoice) fun other _ hother _ => ?_
      apply LifecycleKept.event hevents
      rw [paymentId_of_loadReservation hother]
      exact hpayment
  case paymentAccepted scope input accounting fingerprint current lifecycle journals postings
      invoices events hacceptable hcurrent hfollows hjournals hpostings hpayable hinvoices hadmitted
      hevents hdb hafter haccounted hbalanced =>
    subst hdb
    by_cases hpayment : input.paymentId = paymentId
    · rw [← hpayment]
      obtain ⟨invoiceState, paidAt, hscope⟩ :=
        loadReservation_pay hacceptable.loaded hpayable hinvoices
      exact ⟨_, lifecycle, hscope, hafter⟩
    · obtain ⟨other, before, hother, hbefore⟩ := h hdispatched
      obtain ⟨invoiceState, paidAt, hscope⟩ := loadReservation_pay hother hpayable hinvoices
      have hmiddle : LifecycleKept db (db.withAccounting journals postings invoices) other :=
        ⟨rfl, rfl, fun _ _ _ _ hquote => hquote, fun _ _ _ hsnapshot => hsnapshot, rfl, rfl, rfl⟩
      have hne : input.paymentId ≠ other.paymentId := by
        rw [paymentId_of_loadReservation hother]
        exact hpayment
      exact ⟨_, before, hscope, (hmiddle.trans (.event hevents hne)).loadLifecycle hbefore⟩
  all_goals
    exact (h hdispatched).keep (fun _ hreservation => hreservation)
      (fun _ _ hinvoice => hinvoice) fun _ _ _ _ =>
        ⟨rfl, rfl, fun _ _ _ _ hquote => hquote, fun _ _ _ hsnapshot => hsnapshot, rfl, rfl, rfl⟩

/-! ### Every run -/

/-- A step in which the quote of the payment is observed in time, if it is observed. -/
def TimelyStep (paymentId : PaymentId) (db db' : Db) : Prop :=
  Step db db' ∧ ∀ input, (Operation.observe input).run db = some db' →
    ObservedInTime db paymentId input

theorem timelyRun_of_no_effect (paymentId : PaymentId) (hrun : Run db db')
    (hnone : db'.cashuOperatorEffects.rows = []) :
    Relation.ReflTransGen (TimelyStep paymentId) db db' := by
  induction hrun with
  | refl => exact .refl
  | @tail before after _ hstep ih =>
      have hbefore : before.cashuOperatorEffects.rows = [] := by
        rcases step_cases hstep with rfl | hchange
        · exact hnone
        rcases effects_of_change hchange with hsame | ⟨row, -, happend⟩
        · rw [← hsame]
          exact hnone
        · rw [happend, List.append_eq_nil_iff] at hnone
          exact hnone.1
      refine (ih hbefore).tail ⟨hstep, ?_⟩
      intro input _ _ _ effect heffect
      rw [Table.mem_def, hbefore] at heffect
      cases heffect

/-- A dispatched payment loads in every run in which its quote is observed in time, and an accepted
observation that is not in time makes the loading fail. -/
theorem dispatched_readable (paymentId : PaymentId) :
    (∀ db, Relation.ReflTransGen (TimelyStep paymentId) Db.empty db →
      Dispatched db paymentId → Readable db paymentId) ∧
    ∀ db db' input, Dispatched db paymentId → Readable db paymentId →
      (Operation.observe input).run db = some db' → ¬ObservedInTime db paymentId input →
      ¬Readable db' paymentId := by
  constructor
  · intro db hrun
    induction hrun with
    | refl =>
        rintro ⟨effect, heffect, -⟩
        cases heffect
    | tail _ hstep ih =>
        obtain ⟨hstep, htimely⟩ := hstep
        rcases step_cases hstep with rfl | hchange
        · exact ih
        · exact readable_of_change ih hchange htimely
  · intro db db' input hdispatched hreadable hrun hlate hreadable'
    apply hlate
    intro hpayment hfresh
    obtain ⟨result, hrun⟩ := committed_eq_some.mp hrun
    rcases observe_ok hrun with ⟨-, hstored⟩ | ⟨attempt, attemptRow, mapped, observations, -,
      hattemptPayment, hobservable, hobservations, hmapped, rfl⟩
    · rw [hfresh] at hstored
      cases hstored
    · exact (hreadable.observe hdispatched hobservable (hattemptPayment.trans hpayment)
        hobservations hmapped).mp hreadable'

/-- The dispatched payment after its quote was observed paid in the second of the dispatch. -/
def Sample.observedAtStart : Db :=
  Sample.after [Sample.observe .paid 1010]

/-- The reserved payment with its quote, ready for the dispatch. -/
def Sample.quoted : Db :=
  Sample.intake.foldl Operation.perform Db.empty

set_option maxRecDepth 10000 in
theorem dispatched_readable_observedAtStart :
    Readable (Sample.after []) Sample.paymentId ∧
      ¬Readable Sample.observedAtStart Sample.paymentId := by
  have hstart : Sample.startEffect.run Sample.quoted = some (Sample.after []) := by decide +kernel
  have hobserve : (Sample.observe .paid 1010).run (Sample.after []) =
      some Sample.observedAtStart := by decide +kernel
  have hdispatched : Dispatched (Sample.after []) Sample.paymentId :=
    show ∃ effect ∈ (Sample.after []).cashuOperatorEffects,
      effect.paymentId = Sample.paymentId ∧ effect.effectKind = .melt by decide +kernel
  have hnone : Sample.quoted.cashuOperatorEffects.rows = [] := by decide +kernel
  have hquoted : Relation.ReflTransGen (TimelyStep Sample.paymentId) Db.empty Sample.quoted :=
    timelyRun_of_no_effect _ (run_foldl _ _) hnone
  have htimely : TimelyStep Sample.paymentId Sample.quoted (Sample.after []) := by
    refine ⟨⟨_, hstart⟩, ?_⟩
    intro input _ _ _ effect heffect
    rw [Table.mem_def, hnone] at heffect
    cases heffect
  have hreadable : Readable (Sample.after []) Sample.paymentId :=
    (dispatched_readable _).1 _ (hquoted.tail htimely) hdispatched
  refine ⟨hreadable, (dispatched_readable _).2 _ _ _ hdispatched hreadable hobserve ?_⟩
  have hearly : ∃ effect ∈ (Sample.after []).cashuOperatorEffects,
      effect.paymentId = Sample.paymentId ∧ effect.effectKind = .melt ∧
        ¬effect.startedAt < 1010 := by decide +kernel
  obtain ⟨effect, heffect, hpayment, hmelt, hearly⟩ := hearly
  intro hintime
  rcases hintime rfl (by decide +kernel) effect heffect hpayment hmelt with hunpaid | hlate
  · cases hunpaid
  · exact hearly hlate

set_option maxRecDepth 10000 in
/-- A mint that pays within the second of the dispatch leaves a payment that does not load. -/
theorem unreadable_observedAtStart :
    Reachable Sample.observedAtStart ∧ Dispatched Sample.observedAtStart Sample.paymentId ∧
      ∃ scope, loadReservation Sample.observedAtStart Sample.paymentId = .ok (some scope) ∧
        loadLifecycle Sample.observedAtStart scope = .error .invalidRecord := by
  have hdispatched : ∃ effect ∈ Sample.observedAtStart.cashuOperatorEffects,
      effect.paymentId = Sample.paymentId ∧ effect.effectKind = .melt := by decide +kernel
  have hfails : ∃ scope ∈
      (loadReservation Sample.observedAtStart Sample.paymentId).toOption.join,
      loadLifecycle Sample.observedAtStart scope = .error .invalidRecord := by decide +kernel
  refine ⟨Sample.reachable_after _, hdispatched, ?_⟩
  obtain ⟨scope, hscope, hfails⟩ := hfails
  refine ⟨scope, ?_, hfails⟩
  cases hload : loadReservation Sample.observedAtStart Sample.paymentId with
  | error error =>
      rw [hload] at hscope
      cases hscope
  | ok found =>
      rw [hload] at hscope
      exact congrArg Except.ok hscope

end CashMesh.Acquirer
