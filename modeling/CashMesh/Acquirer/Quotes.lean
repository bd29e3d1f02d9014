import CashMesh.Acquirer.Readable
/-!
# The quote of a payment

The one attempt of a payment to get a melt quote, over every run. Whatever `begin`, `recordQuote`,
`recordAmbiguous` and `observe` have written of an attempt, the strict reader of its record takes it,
and what the reader has checked is the history of the quote: it begins unpaid, every observation is
later than the one before and has its terms, and none is unpaid or pending after a paid one.
-/

namespace CashMesh.Acquirer

open CashMesh.Lib

variable {db db' : Db}

/-! ### The history that a record holds -/

/-- What the observations of a quote tell, from the outcome recorded at a time on. -/
structure QuoteHistory (recordedAt : UnixTimestamp) (quotes : List CashuStellarMeltQuote) :
    Prop where
  first : ∃ first ∈ quotes.head?, first.state = .unpaid ∧ first.observedAt = recordedAt
  later : quotes.Pairwise fun quote next => quote.observedAt < next.observedAt
  terms : quotes.Pairwise fun quote next =>
    next.amount = quote.amount ∧ next.feeReserve = quote.feeReserve ∧
      next.expiry = quote.expiry ∧ next.request = quote.request
  paid : quotes.Pairwise fun quote next => quote.state = .paid → next.state = .paid

instance : Trans QuoteMayFollow QuoteMayFollow QuoteMayFollow where
  trans h h' := ⟨h.1.trans h'.1, fun hpaid => h'.2 (h.2 hpaid)⟩

theorem terms_of_record {attempt : StoredCashuStellarMeltQuoteAttempt}
    {outcome : MeltQuoteOutcomeRow} {row : MeltQuoteObservationRow} {expiry feeReserve : Nat}
    {quote : CashuStellarMeltQuote}
    (h : mapCashuStellarMeltQuoteObservationRecord attempt outcome row expiry feeReserve =
      .ok quote) :
    quote.amount = attempt.request.amount ∧ quote.feeReserve = feeReserve ∧
      quote.expiry = expiry ∧ quote.request = attempt.request.request := by
  simp only [mapCashuStellarMeltQuoteObservationRecord, bind_eq_ok, ensure_eq_ok, exists_unit,
    orFail_eq_ok, pure_eq_ok, Except.ok.injEq] at h
  obtain ⟨-, created, hcreated, -, rfl⟩ := h
  rw [createCashuStellarMeltQuote_some hcreated]
  exact ⟨rfl, rfl, rfl, rfl⟩

/-- The reader of a record accepts no other history. -/
theorem quoteHistory_of_record {attempt : MeltQuoteAttemptRow} {outcome : MeltQuoteOutcomeRow}
    {rows : List MeltQuoteObservationRow} {evidence : StoredCashuStellarMeltQuotedEvidence}
    (h : mapCashuStellarMeltQuotedEvidenceRecord attempt outcome rows = .ok evidence) :
    QuoteHistory outcome.recordedAt evidence.observations := by
  simp only [mapCashuStellarMeltQuotedEvidenceRecord, bind_eq_ok, ensure_eq_ok, exists_unit,
    orFail_eq_ok, pure_eq_ok, Except.ok.injEq] at h
  obtain ⟨stored, -, -, expiry, -, feeReserve, -, quotes, hquotes, first, hfirst,
    ⟨hrecorded, hunpaid, -⟩, hchain, rfl⟩ := h
  have hterms : ∀ quote ∈ quotes, quote.amount = stored.request.amount ∧
      quote.feeReserve = feeReserve ∧ quote.expiry = expiry ∧
      quote.request = stored.request.request := by
    intro quote hquote
    obtain ⟨row, -, hrow⟩ := exists_of_forall₂ (mapM_eq_ok.mp hquotes) hquote
    exact terms_of_record hrow
  have hfollow : quotes.Pairwise QuoteMayFollow := hchain.pairwise
  constructor
  case first => exact ⟨first, hfirst, hunpaid, hrecorded⟩
  case later => exact hfollow.imp fun h => h.1
  case terms =>
    apply List.pairwise_of_forall_mem_list
    intro quote hquote next hnext
    obtain ⟨hamount, hfee, hexpiry, hrequest⟩ := hterms quote hquote
    obtain ⟨hamount', hfee', hexpiry', hrequest'⟩ := hterms next hnext
    exact ⟨hamount'.trans hamount.symm, hfee'.trans hfee.symm, hexpiry'.trans hexpiry.symm,
      hrequest'.trans hrequest.symm⟩
  case paid => exact hfollow.imp fun h => h.2

/-! ### Attempts that map -/

theorem mapAttempt_congr {row : MeltQuoteAttemptRow}
    (houtcome : db'.outcomeOf row.attemptId = db.outcomeOf row.attemptId)
    (hobservations : db'.quoteObservationsOf row.attemptId =
      db.quoteObservationsOf row.attemptId) : mapAttempt db' row = mapAttempt db row := by
  unfold mapAttempt
  cases hbase : mapAttemptBase row with
  | error error => rfl
  | ok attempt =>
      obtain ⟨hid, -⟩ := mapAttemptBase_ok hbase
      simp only [ok_bind, hid, houtcome, hobservations]

/-- Every attempt maps, every outcome is of an attempt, and the observations of an attempt are stored
in the order of their times. -/
structure QuotesReadable (db : Db) : Prop where
  mapped : ∀ attempt ∈ db.cashuStellarMeltQuoteAttempts, ∃ result, mapAttempt db attempt = .ok result
  attempted : ∀ outcome ∈ db.cashuStellarMeltQuoteOutcomes,
    ∃ attempt ∈ db.cashuStellarMeltQuoteAttempts,
      attempt.attemptId = outcome.attemptId ∧ attempt.paymentId = outcome.paymentId
  ordered : ∀ attemptId,
    (db.cashuStellarMeltQuoteObservations.select fun row => row.attemptId = attemptId).Pairwise
      fun row next => row.observedAt < next.observedAt

theorem quotesReadable_empty : QuotesReadable Db.empty := by
  constructor
  · simp [Db.empty]
  · simp [Db.empty]
  · intro attemptId
    exact List.Pairwise.nil

theorem QuotesReadable.keep (h : QuotesReadable db)
    (hattempts : db'.cashuStellarMeltQuoteAttempts = db.cashuStellarMeltQuoteAttempts)
    (houtcomes : db'.cashuStellarMeltQuoteOutcomes = db.cashuStellarMeltQuoteOutcomes)
    (hobservations : db'.cashuStellarMeltQuoteObservations =
      db.cashuStellarMeltQuoteObservations) : QuotesReadable db' where
  mapped := by
    rw [hattempts]
    intro attempt hattempt
    obtain ⟨result, hresult⟩ := h.mapped attempt hattempt
    refine ⟨result, ?_⟩
    rw [← hresult]
    apply mapAttempt_congr
    · rw [Db.outcomeOf, Db.outcomeOf, houtcomes]
    · rw [Db.quoteObservationsOf, Db.quoteObservationsOf, hobservations]
  attempted := by
    rw [houtcomes, hattempts]
    exact h.attempted
  ordered := by
    rw [hobservations]
    exact h.ordered

theorem QuotesReadable.ordered_append (h : QuotesReadable db) {row : MeltQuoteObservationRow}
    {observations} (hnext : NextQuote db row)
    (hobservations : db.cashuStellarMeltQuoteObservations.Appends [row] observations)
    (attemptId : CashuStellarMeltQuoteAttemptId) :
    (observations.select fun row => row.attemptId = attemptId).Pairwise
      fun row next => row.observedAt < next.observedAt := by
  rw [hobservations.select, List.pairwise_append]
  refine ⟨h.ordered attemptId, ?_, ?_⟩
  · exact (List.pairwise_singleton _ row).sublist List.filter_sublist
  · intro old hold new hnew
    obtain ⟨hmem, hsame⟩ := List.mem_filter.mp hnew
    rw [List.mem_singleton] at hmem
    subst hmem
    obtain ⟨holdMem, holdSame⟩ := Table.mem_select.mp hold
    exact (hnext.later old holdMem (holdSame.trans (of_decide_eq_true hsame).symm)).1

/-- Only the attempt that was written has changed, and it was read back. -/
theorem QuotesReadable.mapped_of (h : QuotesReadable db) {attemptRow : MeltQuoteAttemptRow}
    {result : CashuStellarMeltQuoteAttempt}
    (hattempts : db'.cashuStellarMeltQuoteAttempts = db.cashuStellarMeltQuoteAttempts)
    (hrow : attemptRow ∈ db.cashuStellarMeltQuoteAttempts)
    (hother : ∀ attemptId, attemptId ≠ attemptRow.attemptId →
      db'.outcomeOf attemptId = db.outcomeOf attemptId ∧
        db'.quoteObservationsOf attemptId = db.quoteObservationsOf attemptId)
    (hresult : mapAttempt db' attemptRow = .ok result) :
    ∀ attempt ∈ db'.cashuStellarMeltQuoteAttempts, ∃ result, mapAttempt db' attempt = .ok result := by
  rw [hattempts]
  intro attempt hattempt
  by_cases hid : attempt.attemptId = attemptRow.attemptId
  · obtain rfl : attempt = attemptRow := Table.eq_of_collide hattempt hrow (.inl hid)
    exact ⟨result, hresult⟩
  · obtain ⟨houtcome, hobservations⟩ := hother _ hid
    rw [mapAttempt_congr houtcome hobservations]
    exact h.mapped attempt hattempt

theorem quotesReadable_of_change (h : QuotesReadable db) (hsound : QuotesSound db)
    (hchange : Change db db') : QuotesReadable db' := by
  cases hchange
  case quoteBegun row result attempts hcustody hresult hattempts =>
    constructor
    case mapped =>
      intro attempt hattempt
      rcases hattempts.mem.mp hattempt with hold | hnew
      · exact h.mapped attempt hold
      · rw [List.mem_singleton.mp hnew]
        exact ⟨result, hresult⟩
    case attempted =>
      intro outcome houtcome
      obtain ⟨attempt, hattempt, hsame⟩ := h.attempted outcome houtcome
      exact ⟨attempt, hattempts.mem_of_mem hattempt, hsame⟩
    case ordered => exact h.ordered
  case outcomeAmbiguous attemptRow row result outcomes hattempt hattemptId hpayment hresult hnone
      houtcomes =>
    constructor
    case mapped =>
      refine h.mapped_of rfl hattempt ?_ hresult
      intro attemptId hne
      refine ⟨houtcomes.find_of_not ?_, rfl⟩
      simpa [hattemptId] using hne.symm
    case attempted =>
      intro outcome houtcome
      rcases houtcomes.mem.mp houtcome with hold | hnew
      · exact h.attempted outcome hold
      · rw [List.mem_singleton.mp hnew]
        exact ⟨attemptRow, hattempt, hattemptId.symm, hpayment.symm⟩
    case ordered => exact h.ordered
  case quoteRecorded attempt attemptRow quote row result outcomes observations hrow hattempt hactive
      hnone hpayment hattemptId houtcomes hunpaid hobservations hresult =>
    obtain ⟨hid, hattemptPayment⟩ := mapAttemptBase_ok hattempt
    have hrowMem := (Table.find_some hrow).1
    constructor
    case mapped =>
      refine h.mapped_of rfl hrowMem ?_ hresult
      intro attemptId hne
      constructor
      · apply houtcomes.find_of_not
        simpa [hattemptId, hid] using hne.symm
      · rw [Db.quoteObservationsOf, Db.quoteObservationsOf, hobservations.select_of_not]
        simpa [quoteObservationRow, hid] using hne.symm
    case attempted =>
      intro outcome houtcome
      rcases houtcomes.mem.mp houtcome with hold | hnew
      · exact h.attempted outcome hold
      · rw [List.mem_singleton.mp hnew, hattemptId, hpayment]
        exact ⟨attemptRow, hrowMem, hid.symm, hattemptPayment.symm⟩
    case ordered =>
      exact h.ordered_append (hsound.nextOfFirst hrow hattempt hnone) hobservations
  case quoteObserved attempt attemptRow quote result observations hobservable hinput hobservations
      hresult =>
    obtain ⟨hid, -⟩ := mapAttemptBase_ok hobservable.mapped
    constructor
    case mapped =>
      refine h.mapped_of rfl (Table.find_some hobservable.row).1 ?_ hresult
      intro attemptId hne
      refine ⟨rfl, ?_⟩
      rw [Db.quoteObservationsOf, Db.quoteObservationsOf, hobservations.select_of_not]
      simpa [quoteObservationRow, hid] using hne.symm
    case attempted => exact h.attempted
    case ordered => exact h.ordered_append (hsound.next hobservable) hobservations
  case paymentAccepted hdb _ _ _ =>
    subst hdb
    exact h.keep rfl rfl rfl
  all_goals exact h.keep rfl rfl rfl

theorem quotesReadable_of_reachable (h : Reachable db) : QuotesReadable db :=
  reachable_of_change quotesReadable_empty (fun _ _ hreach hreadable hchange =>
    quotesReadable_of_change hreadable (quotesSound_of_reachable hreach) hchange) h

/-! ### Quoted payments -/

/-- The attempt of the payment was answered with a quote. -/
def Quoted (db : Db) (paymentId : PaymentId) : Prop :=
  ∃ attempt outcome, db.attemptOf paymentId = some attempt ∧
    db.outcomeOf attempt.attemptId = some outcome ∧ outcome.outcomeKind = .quoted

theorem quoted_of_evidence {scope : ReservationScope} {effect : CashuOperatorEffect}
    {mode : MeltQuoteEvidenceMode}
    (h : assertMeltQuoteEvidence db scope effect mode = .ok ()) : Quoted db scope.paymentId := by
  obtain ⟨evidence, route, hloaded, -, -⟩ := assertMeltQuoteEvidence_ok h
  obtain ⟨attempt, outcome, hattempt, houtcome, hevidence⟩ := loadMeltQuotedEvidence_ok hloaded
  exact ⟨attempt, outcome, hattempt, houtcome, outcomeKind_of_quotedEvidence hevidence⟩

theorem quoted_of_loadLifecycle {scope : ReservationScope}
    {lifecycle : CashuProofReservationLifecycle} {effect : CashuOperatorEffect}
    (h : loadLifecycle db scope = .ok lifecycle) (heffect : lifecycle.effect = some effect)
    (hmelt : effect.kind = .melt) : Quoted db scope.paymentId := by
  obtain ⟨-, hquote⟩ := (loadEffect_ok (effect_of_loadLifecycle h)).2 effect heffect
  exact quoted_of_evidence (hquote hmelt)

theorem Quoted.keep {paymentId : PaymentId} (h : Quoted db paymentId)
    (hchange : Change db db') : Quoted db' paymentId := by
  obtain ⟨attempt, outcome, hattempt, houtcome, hkind⟩ := h
  exact ⟨attempt, outcome, attemptOf_of_change hchange hattempt, outcomeOf_of_change hchange houtcome,
    hkind⟩

/-- The attempt of the payment was answered with the quote, which expires at the time. -/
def QuotedUntil (db : Db) (paymentId : PaymentId) (quoteId : CashuStellarMeltQuoteId)
    (expiresAt : UnixTimestamp) : Prop :=
  ∃ attempt outcome, db.attemptOf paymentId = some attempt ∧
    db.outcomeOf attempt.attemptId = some outcome ∧ outcome.outcomeKind = .quoted ∧
    outcome.quoteId = some quoteId ∧ outcome.expiry = some expiresAt

theorem QuotedUntil.keep {paymentId : PaymentId} {quoteId : CashuStellarMeltQuoteId}
    {expiresAt : UnixTimestamp} (h : QuotedUntil db paymentId quoteId expiresAt)
    (hchange : Change db db') : QuotedUntil db' paymentId quoteId expiresAt := by
  obtain ⟨attempt, outcome, hattempt, houtcome, hquoted⟩ := h
  exact ⟨attempt, outcome, attemptOf_of_change hchange hattempt, outcomeOf_of_change hchange houtcome,
    hquoted⟩

theorem quotedUntil_of_evidence {scope : ReservationScope} {effect : CashuOperatorEffect}
    {mode : MeltQuoteEvidenceMode}
    (h : assertMeltQuoteEvidence db scope effect mode = .ok ()) :
    ∃ quoteId expiresAt, QuotedUntil db scope.paymentId quoteId expiresAt ∧
      effect.terms = .melt quoteId expiresAt := by
  obtain ⟨evidence, route, hloaded, -, -, -, -, quote, hquote, hterms, -⟩ :=
    assertMeltQuoteEvidence_ok h
  obtain ⟨attempt, outcome, hattempt, houtcome, hevidence⟩ := loadMeltQuotedEvidence_ok hloaded
  have hmem : quote ∈ evidence.observations :=
    (List.mem_filter.mp (List.mem_of_getLast? hquote)).1
  obtain ⟨row, -, hstored⟩ := exists_of_forall₂ (quotedEvidence_ok hevidence).1 hmem
  refine ⟨quote.quoteId, quote.expiry, ⟨attempt, outcome, hattempt, houtcome,
    outcomeKind_of_quotedEvidence hevidence, ?_, hstored.expiry⟩, hterms⟩
  rw [hstored.quoteId]
  exact hstored.bound

/-- The melt of a lifecycle that loads is stored with the quote of its payment and with its expiry. -/
theorem quotedUntil_of_effectRow {scope : ReservationScope}
    {lifecycle : CashuProofReservationLifecycle} {row : OperatorEffectRow}
    (h : loadLifecycle db scope = .ok lifecycle) (hrow : row ∈ db.cashuOperatorEffects)
    (hpayment : row.paymentId = scope.paymentId) (hmelt : row.effectKind = .melt) :
    ∃ quoteId expiresAt, QuotedUntil db scope.paymentId quoteId expiresAt ∧
      row.operatorReference = some quoteId ∧ row.operatorReferenceExpiresAt = some expiresAt := by
  obtain ⟨effect, -, hmapped, hquote⟩ := effect_of_effectRow h hrow hpayment
  have hstored := mapEffect_ok hmapped
  obtain ⟨quoteId, expiresAt, hquoted, hterms⟩ :=
    quotedUntil_of_evidence (hquote (hstored.kind.symm.trans hmelt))
  refine ⟨quoteId, expiresAt, hquoted, ?_, ?_⟩
  · rw [hstored.operatorReference, hterms]
    rfl
  · rw [hstored.expiresAt, hterms]
    rfl

/-- A melt has started only on a quoted payment. -/
def MeltsQuoted (db : Db) : Prop :=
  ∀ effect ∈ db.cashuOperatorEffects, effect.effectKind = .melt → Quoted db effect.paymentId

theorem meltsQuoted_of_change (h : MeltsQuoted db) (hchange : Change db db') : MeltsQuoted db' := by
  have hkeep : ∀ effect ∈ db.cashuOperatorEffects, effect.effectKind = .melt →
      Quoted db' effect.paymentId :=
    fun effect heffect hmelt => (h effect heffect hmelt).keep hchange
  cases hchange
  case effectStarted scope input lifecycle effects claims jobs events hstartable heffects hclaims
      hjobs hadmitted hevents hafter =>
    intro effect heffect hmelt
    rcases heffects.mem.mp heffect with hold | hnew
    · exact hkeep effect hold hmelt
    · obtain ⟨stored, hstored, hmapped, -⟩ := effect_of_effectRow hafter heffect
        (by rw [List.mem_singleton.mp hnew]; rfl)
      rw [List.mem_singleton.mp hnew] at hmelt hmapped ⊢
      exact quoted_of_loadLifecycle hafter hstored ((mapEffect_ok hmapped).kind.symm.trans hmelt)
  case paymentAccepted hdb _ _ _ =>
    subst hdb
    exact hkeep
  all_goals exact hkeep

theorem meltsQuoted_of_reachable (h : Reachable db) : MeltsQuoted db :=
  reachable_of_change (by simp [MeltsQuoted, Db.empty])
    (fun _ _ _ hmelts hchange => meltsQuoted_of_change hmelts hchange) h

theorem quoted_of_startEffect {input : StartEffectInput} {result : LifecycleResult × Db}
    (h : startEffect db input = .ok result) (hmelt : input.effect.kind = .melt) :
    Quoted db input.paymentId := by
  simp only [startEffect, bind_eq_ok] at h
  obtain ⟨-, -, scope, hscope, replay, hreplay, h⟩ := h
  have hpayment : scope.paymentId = input.paymentId :=
    paymentId_of_loadReservation (requireReservation_ok hscope)
  cases replay with
  | none =>
      simp only [bind_eq_ok, ensure_eq_ok, exists_unit, if_pos hmelt] at h
      obtain ⟨current, -, -, -, hevidence, -⟩ := h
      rw [← hpayment]
      exact quoted_of_evidence hevidence
  | some replay =>
      simp only [replayEvent] at hreplay
      split at hreplay
      · cases hreplay
      · simp only [bind_eq_ok, ensure_eq_ok, exists_unit] at hreplay
        obtain ⟨-, other, hother, lifecycle, hlifecycle, -, heffect, -⟩ := hreplay
        obtain rfl : scope = other := Except.ok.inj (hscope.symm.trans hother)
        obtain ⟨stored, hstored, hsame⟩ := heffect input.effect rfl
        have heffects : stored = input.effect := congrArg EffectFingerprint.effect hsame
        rw [← hpayment]
        exact quoted_of_loadLifecycle hlifecycle hstored (heffects ▸ hmelt)

/-! ### Beginning an attempt -/

theorem beginQuote_new {input : BeginInput} {result : QuoteAttemptResult}
    (h : beginQuote db input = .ok (result, db')) (hnew : result.replayed = false) :
    db.attemptOf input.paymentId = none ∧ (db'.attemptOf input.paymentId).isSome := by
  simp only [beginQuote, bind_eq_ok, orFail_eq_ok, ensure_eq_ok, exists_unit] at h
  obtain ⟨request, -, -, reservation, hreservation, invoice, -, route, -, h⟩ := h
  have hpayment : reservation.paymentId = input.paymentId := paymentId_of_reservation hreservation
  split at h
  · case h_1 row rows hrows =>
    simp only [bind_eq_ok, pure_eq_ok, Except.ok.injEq, Prod.mk.injEq] at h
    obtain ⟨replay, hreplay, rfl, rfl⟩ := h
    have hreplayed : replay.replayed = true := by
      simp only [replayBegin] at hreplay
      split at hreplay
      · simp only [bind_eq_ok, ensure_eq_ok, exists_unit, pure_eq_ok, Except.ok.injEq] at hreplay
        obtain ⟨-, mapped, -, rfl⟩ := hreplay
        rfl
      · cases hreplay
    rw [hreplayed] at hnew
    cases hnew
  · case h_2 hnone =>
    simp only [bind_eq_ok, exists_unit, quoteStatement_eq_ok, pure_eq_ok, Except.ok.injEq,
      Prod.mk.injEq, Session.commit_eq_ok] at h
    obtain ⟨-, s, hinsert, mapped, -, _, ⟨-, rfl⟩, -, rfl⟩ := h
    obtain ⟨-, attempts, hattempts, rfl⟩ := insertQuoteAttempt_ok hinsert
    constructor
    · apply Table.find_none.mpr
      intro attempt hattempt hsame
      have hmem : attempt ∈ conflictingAttempts db input.attemptId reservation.paymentId :=
        Table.mem_select.mpr ⟨hattempt, .inr (hsame.trans hpayment.symm)⟩
      rw [show conflictingAttempts db input.attemptId reservation.paymentId = [] from hnone] at hmem
      cases hmem
    · rw [Option.isSome_iff_exists]
      refine ⟨_, Table.find_of_mem (hattempts.mem.mpr (.inr List.mem_cons_self)) hpayment ?_⟩
      intro other hother
      exact .inr (.inr (hother.trans hpayment.symm))

theorem attempt_of_run {paymentId : PaymentId} (hrun : Run db db')
    (h : (db.attemptOf paymentId).isSome) : (db'.attemptOf paymentId).isSome := by
  apply run_of_change (p := fun db => (db.attemptOf paymentId).isSome) ?_ hrun h
  intro before after hbefore hchange
  obtain ⟨attempt, hattempt⟩ := Option.isSome_iff_exists.mp hbefore
  rw [Option.isSome_iff_exists]
  refine ⟨attempt, ?_⟩
  cases hchange
  case quoteBegun hattempts => exact hattempts.find_of_some hattempt
  case paymentAccepted hdb _ _ _ =>
    subst hdb
    exact hattempt
  all_goals exact hattempt

/-! ### Attempts by what has come of them -/

/-- Whether the attempt was answered with a quote. -/
def CashuStellarMeltQuoteAttempt.IsQuoted : CashuStellarMeltQuoteAttempt → Prop
  | .quoted _ _ _ => True
  | .creating _ => False
  | .ambiguous _ _ _ => False

theorem isQuoted_of_mapAttempt {attempt : MeltQuoteAttemptRow}
    {result : CashuStellarMeltQuoteAttempt} (h : mapAttempt db attempt = .ok result) :
    (result.IsQuoted → ∃ outcome, db.outcomeOf attempt.attemptId = some outcome ∧
        outcome.outcomeKind = .quoted) ∧
      (¬result.IsQuoted → db.quoteObservationsOf attempt.attemptId = [] ∧
        ∀ outcome ∈ db.outcomeOf attempt.attemptId, outcome.outcomeKind = .ambiguous ∧
          outcome.quoteId = none) := by
  simp only [mapAttempt, bind_eq_ok] at h
  obtain ⟨base, hbase, h⟩ := h
  rw [(mapAttemptBase_ok hbase).1] at h
  cases houtcome : db.outcomeOf attempt.attemptId with
  | none =>
      simp only [houtcome, bind_eq_ok, ensure_eq_ok, exists_unit, pure_eq_ok, Except.ok.injEq] at h
      obtain ⟨hempty, rfl⟩ := h
      exact ⟨False.elim, fun _ => ⟨hempty, by simp⟩⟩
  | some outcome =>
      simp only [houtcome, bind_eq_ok, ensure_eq_ok, exists_unit] at h
      obtain ⟨-, h⟩ := h
      split at h
      · case h_1 hkind =>
        simp only [bind_eq_ok, orFail_eq_ok, ensure_eq_ok, exists_unit, pure_eq_ok,
          Except.ok.injEq] at h
        obtain ⟨reason, -, ⟨hquoteId, -, -, -, hempty, -⟩, rfl⟩ := h
        refine ⟨False.elim, fun _ => ⟨hempty, ?_⟩⟩
        intro other hother
        cases hother
        exact ⟨hkind, hquoteId⟩
      · case h_2 hkind =>
        simp only [bind_eq_ok, orFail_eq_ok, pure_eq_ok, Except.ok.injEq] at h
        obtain ⟨evidence, -, last, -, rfl⟩ := h
        exact ⟨fun _ => ⟨outcome, rfl, hkind⟩, fun hnot => absurd trivial hnot⟩

theorem outcomeOf_of_mem {outcome : MeltQuoteOutcomeRow}
    (h : outcome ∈ db.cashuStellarMeltQuoteOutcomes) :
    db.outcomeOf outcome.attemptId = some outcome :=
  Table.find_of_mem h rfl fun _ hsame => .inl hsame

theorem isQuoted_iff {attempt : MeltQuoteAttemptRow} {result : CashuStellarMeltQuoteAttempt}
    (hattempt : attempt ∈ db.cashuStellarMeltQuoteAttempts)
    (hresult : mapAttempt db attempt = .ok result) :
    result.IsQuoted ↔ Quoted db attempt.paymentId := by
  obtain ⟨hquoted, hother⟩ := isQuoted_of_mapAttempt hresult
  have hattemptOf : db.attemptOf attempt.paymentId = some attempt :=
    Table.find_of_mem hattempt rfl fun _ hsame => .inr (.inr hsame)
  constructor
  · intro hresult
    obtain ⟨outcome, houtcome, hkind⟩ := hquoted hresult
    exact ⟨attempt, outcome, hattemptOf, houtcome, hkind⟩
  · rintro ⟨other, outcome, hotherOf, houtcome, hkind⟩
    obtain rfl : attempt = other := Option.some.inj (hattemptOf.symm.trans hotherOf)
    by_contra hnot
    have hambiguous := ((hother hnot).2 outcome houtcome).1
    rw [hkind] at hambiguous
    cases hambiguous

theorem QuotesReadable.quoted_of_quoteId (h : QuotesReadable db) {outcome : MeltQuoteOutcomeRow}
    (houtcome : outcome ∈ db.cashuStellarMeltQuoteOutcomes) (hquoteId : outcome.quoteId.isSome) :
    outcome.outcomeKind = .quoted := by
  obtain ⟨attempt, hattempt, hid, -⟩ := h.attempted outcome houtcome
  obtain ⟨result, hresult⟩ := h.mapped attempt hattempt
  obtain ⟨hquoted, hother⟩ := isQuoted_of_mapAttempt hresult
  have houtcomeOf : db.outcomeOf attempt.attemptId = some outcome := by
    rw [hid]
    exact outcomeOf_of_mem houtcome
  by_cases hisQuoted : result.IsQuoted
  · obtain ⟨other, hother, hkind⟩ := hquoted hisQuoted
    obtain rfl : outcome = other := Option.some.inj (houtcomeOf.symm.trans hother)
    exact hkind
  · rw [((hother hisQuoted).2 outcome houtcomeOf).2] at hquoteId
    cases hquoteId

/-! ### Every run -/

/-- Over every run of the acquirer, a payment has one quote attempt, of which at most one `begin` is
not a replay, and a quote of a mint is of one payment; the reader accepts the record of every attempt,
and the record of a quoted one is a quote history, stored in its order; and an attempt that is not
quoted has no observation, and no melt of its payment has started or can. -/
theorem quotes_sound {db : Db} (hreach : Reachable db) :
    (∀ attempt ∈ db.cashuStellarMeltQuoteAttempts, ∀ other ∈ db.cashuStellarMeltQuoteAttempts,
      attempt.paymentId = other.paymentId → attempt = other) ∧
    (∀ input result db₁, beginQuote db input = .ok (result, db₁) → result.replayed = false →
      ∀ db₂, Run db₁ db₂ → ∀ input' result' db₃, input'.paymentId = input.paymentId →
        beginQuote db₂ input' = .ok (result', db₃) → result'.replayed = true) ∧
    (∀ outcome ∈ db.cashuStellarMeltQuoteOutcomes, ∀ other ∈ db.cashuStellarMeltQuoteOutcomes,
      outcome.quoteId.isSome → outcome.mintUrl = other.mintUrl →
        outcome.quoteId = other.quoteId → outcome.paymentId = other.paymentId) ∧
    (∀ attempt ∈ db.cashuStellarMeltQuoteAttempts,
      ∃ result, mapAttempt db attempt = .ok result ∧
        (¬result.IsQuoted →
          (∀ quote ∈ db.cashuStellarMeltQuoteObservations,
            quote.attemptId ≠ attempt.attemptId ∧ quote.paymentId ≠ attempt.paymentId) ∧
          (∀ effect ∈ db.cashuOperatorEffects, effect.paymentId = attempt.paymentId →
            effect.effectKind ≠ .melt) ∧
          ∀ input, input.paymentId = attempt.paymentId → input.effect.kind = .melt →
            ∀ started, startEffect db input ≠ .ok started)) ∧
    ∀ attempt ∈ db.cashuStellarMeltQuoteAttempts, ∀ outcome ∈ db.outcomeOf attempt.attemptId,
      outcome.outcomeKind = .quoted →
        ∃ evidence, mapCashuStellarMeltQuotedEvidenceRecord attempt outcome
            (db.quoteObservationsOf attempt.attemptId) = .ok evidence ∧
          QuoteHistory outcome.recordedAt evidence.observations ∧
          List.Forall₂ (StoresQuote attempt outcome)
            (db.cashuStellarMeltQuoteObservations.select fun row =>
              row.attemptId = attempt.attemptId)
            evidence.observations := by
  have hreadable := quotesReadable_of_reachable hreach
  have hsound := quotesSound_of_reachable hreach
  refine ⟨?_, ?_, ?_, ?_, ?_⟩
  · intro attempt hattempt other hother hsame
    exact Table.eq_of_collide hattempt hother (.inr (.inr hsame))
  · intro input result db₁ hbegin hnew db₂ hrun input' result' db₃ hsame hbegin'
    by_contra hnot
    obtain ⟨hnone, -⟩ := beginQuote_new hbegin' (by simpa using hnot)
    have hsome := attempt_of_run hrun (beginQuote_new hbegin hnew).2
    rw [← hsame, hnone] at hsome
    cases hsome
  · intro outcome houtcome other hother hquoteId hmint hsame
    have hkind := hreadable.quoted_of_quoteId houtcome hquoteId
    have hkind' := hreadable.quoted_of_quoteId hother (hsame ▸ hquoteId)
    rw [Table.eq_of_collide houtcome hother
      (.inr (.inr ⟨hkind, hkind', hmint, hquoteId, hsame⟩))]
  · intro attempt hattempt
    obtain ⟨result, hresult⟩ := hreadable.mapped attempt hattempt
    refine ⟨result, hresult, ?_⟩
    intro hnot
    have hnotQuoted : ¬Quoted db attempt.paymentId :=
      fun hquoted => hnot ((isQuoted_iff hattempt hresult).mpr hquoted)
    have hempty := ((isQuoted_of_mapAttempt hresult).2 hnot).1
    refine ⟨?_, ?_, ?_⟩
    · intro quote hquote
      have hattemptId : quote.attemptId ≠ attempt.attemptId := by
        intro hsame
        have hmem : quote ∈ db.quoteObservationsOf attempt.attemptId :=
          mem_orderBy.mpr (Table.mem_select.mpr ⟨hquote, hsame⟩)
        rw [hempty] at hmem
        cases hmem
      refine ⟨hattemptId, ?_⟩
      intro hpayment
      obtain ⟨other, hother, hotherId, hotherPayment⟩ := hsound.attempted quote hquote
      rw [Table.eq_of_collide hattempt hother
        (.inr (.inr (hpayment.symm.trans hotherPayment.symm)))] at hattemptId
      exact hattemptId hotherId.symm
    · intro effect heffect hpayment hmelt
      exact hnotQuoted (hpayment ▸ meltsQuoted_of_reachable hreach effect heffect hmelt)
    · intro input hpayment hmelt started hstarted
      exact hnotQuoted (hpayment ▸ quoted_of_startEffect hstarted hmelt)
  · intro attempt hattempt outcome houtcome hkind
    obtain ⟨result, hresult⟩ := hreadable.mapped attempt hattempt
    obtain ⟨evidence, hevidence⟩ := mapAttempt_quoted hresult houtcome hkind
    refine ⟨evidence, hevidence, quoteHistory_of_record hevidence, ?_⟩
    have hordered : db.quoteObservationsOf attempt.attemptId =
        db.cashuStellarMeltQuoteObservations.select fun row =>
          row.attemptId = attempt.attemptId :=
      orderBy_of_pairwise ((hreadable.ordered attempt.attemptId).imp Nat.le_of_lt)
    rw [← hordered]
    exact (quotedEvidence_ok hevidence).1

set_option maxRecDepth 10000 in
theorem quotes_sound_accepted :
    (∃ attempt ∈ Sample.accepted.cashuStellarMeltQuoteAttempts,
      ∃ outcome ∈ Sample.accepted.outcomeOf attempt.attemptId, outcome.outcomeKind = .quoted) ∧
      ∀ attempt ∈ Sample.accepted.cashuStellarMeltQuoteAttempts,
        ∀ outcome ∈ Sample.accepted.outcomeOf attempt.attemptId, outcome.outcomeKind = .quoted →
          ∃ evidence, mapCashuStellarMeltQuotedEvidenceRecord attempt outcome
              (Sample.accepted.quoteObservationsOf attempt.attemptId) = .ok evidence ∧
            QuoteHistory outcome.recordedAt evidence.observations ∧
            List.Forall₂ (StoresQuote attempt outcome)
              (Sample.accepted.cashuStellarMeltQuoteObservations.select fun row =>
                row.attemptId = attempt.attemptId)
              evidence.observations :=
  ⟨by decide +kernel, (quotes_sound (Sample.reachable_after _)).2.2.2.2⟩

end CashMesh.Acquirer
