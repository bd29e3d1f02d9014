import CashMesh.Acquirer.Lifecycle
/-!
# What a loaded lifecycle says about the rows

A lifecycle that loads names the one effect row of its payment and the state of its latest event, and
the quoted evidence of a payment is, one for one, the observation rows of its attempt.
-/

namespace CashMesh.Acquirer

open CashMesh.Lib

variable {db : Db}

/-! ### Quotes -/

/-- The quote is the one that the observation row of an attempt stores under its outcome. -/
structure StoresQuote (attempt : MeltQuoteAttemptRow) (outcome : MeltQuoteOutcomeRow)
    (row : MeltQuoteObservationRow) (quote : CashuStellarMeltQuote) : Prop where
  attemptId : row.attemptId = attempt.attemptId
  paymentId : row.paymentId = attempt.paymentId
  quoteId : quote.quoteId = row.quoteId
  bound : outcome.quoteId = some row.quoteId
  expiry : outcome.expiry = some quote.expiry
  observedAt : quote.observedAt = row.observedAt
  state : quote.state = row.state

theorem attempt_of_record {row : MeltQuoteAttemptRow} {attempt : StoredCashuStellarMeltQuoteAttempt}
    (h : mapCashuStellarMeltQuoteAttemptRecord row = .ok attempt) :
    attempt.attemptId = row.attemptId ∧ attempt.paymentId = row.paymentId := by
  simp only [mapCashuStellarMeltQuoteAttemptRecord, bind_eq_ok, ensure_eq_ok, exists_unit,
    pure_eq_ok, Except.ok.injEq] at h
  obtain ⟨_, -, -, rfl⟩ := h
  exact ⟨rfl, rfl⟩

theorem createCashuStellarMeltQuote_some {input quote : CashuStellarMeltQuote}
    (h : createCashuStellarMeltQuote input = some quote) : quote = input := by
  unfold createCashuStellarMeltQuote at h
  split at h
  · exact (Option.some.inj h).symm
  · cases h

/-- The quoted evidence holds one quote for each observation row, each one later than the one before
and none unpaid after a paid one. -/
theorem quotedEvidence_ok {attempt : MeltQuoteAttemptRow} {outcome : MeltQuoteOutcomeRow}
    {rows : List MeltQuoteObservationRow} {evidence : StoredCashuStellarMeltQuotedEvidence}
    (h : mapCashuStellarMeltQuotedEvidenceRecord attempt outcome rows = .ok evidence) :
    List.Forall₂ (StoresQuote attempt outcome) rows evidence.observations ∧
      evidence.observations.IsChain QuoteMayFollow := by
  simp only [mapCashuStellarMeltQuotedEvidenceRecord, bind_eq_ok, ensure_eq_ok, exists_unit,
    orFail_eq_ok, pure_eq_ok, Except.ok.injEq] at h
  obtain ⟨stored, hstored, -, expiry, hexpiry, feeReserve, -, observations, hobservations, -, -, -,
    hchain, rfl⟩ := h
  obtain ⟨hattemptId, hpaymentId⟩ := attempt_of_record hstored
  refine ⟨(mapM_eq_ok.mp hobservations).imp ?_, hchain⟩
  intro row quote hquote
  simp only [mapCashuStellarMeltQuoteObservationRecord, bind_eq_ok, ensure_eq_ok, exists_unit,
    orFail_eq_ok, pure_eq_ok, Except.ok.injEq] at hquote
  obtain ⟨⟨hrowAttempt, hrowPayment, -, hbound⟩, _, hcreated, -, rfl⟩ := hquote
  rw [createCashuStellarMeltQuote_some hcreated]
  exact ⟨hrowAttempt.trans hattemptId, hrowPayment.trans hpaymentId, rfl, hbound.symm, hexpiry,
    rfl, rfl⟩

theorem loadMeltQuotedEvidence_ok {paymentId : PaymentId}
    {evidence : StoredCashuStellarMeltQuotedEvidence}
    (h : loadMeltQuotedEvidence db paymentId = .ok (some evidence)) :
    ∃ attempt outcome, db.attemptOf paymentId = some attempt ∧
      db.outcomeOf attempt.attemptId = some outcome ∧
      mapCashuStellarMeltQuotedEvidenceRecord attempt outcome
        (db.quoteObservationsOf attempt.attemptId) = .ok evidence := by
  unfold loadMeltQuotedEvidence at h
  split at h
  · cases h
  · case h_2 attempt hattempt =>
    split at h
    · cases h
    · case h_2 outcome houtcome =>
      simp only [bind_eq_ok, mapError_eq_ok, pure_eq_ok, Except.ok.injEq, Option.some.injEq] at h
      obtain ⟨_, hevidence, rfl⟩ := h
      exact ⟨attempt, outcome, hattempt, houtcome, hevidence⟩

theorem row_of_quote {paymentId : PaymentId} {evidence : StoredCashuStellarMeltQuotedEvidence}
    {quote : CashuStellarMeltQuote} (h : loadMeltQuotedEvidence db paymentId = .ok (some evidence))
    (hquote : quote ∈ evidence.observations) :
    ∃ row ∈ db.cashuStellarMeltQuoteObservations, row.paymentId = paymentId ∧
      row.observedAt = quote.observedAt ∧ row.state = quote.state ∧ row.quoteId = quote.quoteId := by
  obtain ⟨attempt, outcome, hattempt, -, hevidence⟩ := loadMeltQuotedEvidence_ok h
  obtain ⟨hstored, -⟩ := quotedEvidence_ok hevidence
  obtain ⟨-, hpayment⟩ := Table.find_some hattempt
  obtain ⟨row, hrow, hstores⟩ := exists_of_forall₂ hstored hquote
  exact ⟨row, (Table.mem_select.mp (mem_orderBy.mp hrow)).1, hstores.paymentId.trans hpayment,
    hstores.observedAt.symm, hstores.state.symm, hstores.quoteId.symm⟩

/-! ### Effects -/

/-- The effect is the one that the row stores. -/
structure StoresEffect (row : OperatorEffectRow) (effect : CashuOperatorEffect) : Prop where
  effectId : row.effectId = effect.effectId
  dispatchFingerprint : row.dispatchFingerprint = effect.dispatchFingerprint
  startedAt : row.startedAt = effect.startedAt
  kind : row.effectKind = effect.kind
  operatorReference : row.operatorReference = effect.terms.operatorReference
  expiresAt : row.operatorReferenceExpiresAt = effect.terms.operatorReferenceExpiresAt

theorem OperatorEffectRow.terms_eq_some {row : OperatorEffectRow} {terms : CashuOperatorEffectTerms}
    (h : row.terms = some terms) : row.effectKind = terms.kind ∧
      row.operatorReference = terms.operatorReference ∧
      row.operatorReferenceExpiresAt = terms.operatorReferenceExpiresAt := by
  unfold OperatorEffectRow.terms at h
  split at h
  · case h_1 hkind =>
    split at h
    · case isTrue hnone =>
      cases h
      exact ⟨hkind, hnone⟩
    · cases h
  · case h_2 hkind =>
    obtain ⟨reference, hreference, h⟩ := Option.bind_eq_some_iff.mp h
    obtain ⟨expiresAt, hexpiresAt, h⟩ := Option.bind_eq_some_iff.mp h
    cases h
    exact ⟨hkind, hreference, hexpiresAt⟩

theorem mapEffect_ok {row : OperatorEffectRow} {scope : ReservationScope}
    {effect : CashuOperatorEffect} (h : mapEffect row scope = .ok effect) :
    StoresEffect row effect := by
  simp only [mapEffect, bind_eq_ok, orFail_eq_ok, ensure_eq_ok, exists_unit, pure_eq_ok,
    Except.ok.injEq] at h
  obtain ⟨terms, hterms, -, rfl⟩ := h
  obtain ⟨hkind, hreference, hexpiresAt⟩ := OperatorEffectRow.terms_eq_some hterms
  exact ⟨rfl, rfl, rfl, hkind, hreference, hexpiresAt⟩

/-- A loaded lifecycle has the one effect of its payment, or its payment has none. -/
theorem loadEffect_ok {scope : ReservationScope} {effect : Option CashuOperatorEffect}
    (h : loadEffect db scope = .ok effect) :
    (effect = none → db.effectsOf scope.paymentId = []) ∧
      ∀ stored ∈ effect,
        (∃ row, db.effectsOf scope.paymentId = [row] ∧ mapEffect row scope = .ok stored) ∧
        (stored.kind = .melt → assertMeltQuoteEvidence db scope stored .stored = .ok ()) := by
  unfold loadEffect at h
  split at h
  · case h_1 hnone =>
    cases h
    refine ⟨fun _ => hnone, ?_⟩
    intro stored hstored
    cases hstored
  · case h_2 row hrow =>
    simp only [bind_eq_ok, ensure_eq_ok, exists_unit] at h
    obtain ⟨stored, hstored, -, h⟩ := h
    have hquote : effect = some stored ∧
        (stored.kind = .melt → assertMeltQuoteEvidence db scope stored .stored = .ok ()) := by
      split at h
      · simp only [bind_eq_ok, exists_unit, pure_eq_ok, Except.ok.injEq] at h
        exact ⟨h.2.symm, fun _ => h.1⟩
      · case isFalse hswap =>
        cases h
        exact ⟨rfl, fun hmelt => absurd hmelt hswap⟩
    obtain ⟨rfl, hquote⟩ := hquote
    constructor
    · intro hnone
      cases hnone
    · intro other hother
      cases hother
      exact ⟨⟨row, hrow, hstored⟩, hquote⟩
  · cases h

theorem effect_of_loadLifecycle {scope : ReservationScope}
    {lifecycle : CashuProofReservationLifecycle} (h : loadLifecycle db scope = .ok lifecycle) :
    loadEffect db scope = .ok lifecycle.effect := by
  simp only [loadLifecycle, bind_eq_ok, ensure_eq_ok, exists_unit, pure_eq_ok,
    Except.ok.injEq] at h
  obtain ⟨effect, heffect, _, -, -, -, rfl⟩ := h
  exact heffect

theorem effectRow_of_loadLifecycle {scope : ReservationScope}
    {lifecycle : CashuProofReservationLifecycle} {effect : CashuOperatorEffect}
    (h : loadLifecycle db scope = .ok lifecycle) (heffect : lifecycle.effect = some effect) :
    ∃ row ∈ db.cashuOperatorEffects, row.paymentId = scope.paymentId ∧ StoresEffect row effect := by
  obtain ⟨⟨row, hrow, hstored⟩, -⟩ := (loadEffect_ok (effect_of_loadLifecycle h)).2 effect heffect
  obtain ⟨hmem, hpayment⟩ := Table.mem_select.mp
    (show row ∈ db.effectsOf scope.paymentId by simp [hrow])
  exact ⟨row, hmem, hpayment, mapEffect_ok hstored⟩

theorem no_effectRow_of_loadLifecycle {scope : ReservationScope}
    {lifecycle : CashuProofReservationLifecycle} (h : loadLifecycle db scope = .ok lifecycle)
    (heffect : lifecycle.effect = none) {row : OperatorEffectRow}
    (hrow : row ∈ db.cashuOperatorEffects) : row.paymentId ≠ scope.paymentId := by
  have hload := (loadEffect_ok (effect_of_loadLifecycle h)).1 heffect
  intro hpayment
  have hmem : row ∈ db.effectsOf scope.paymentId := Table.mem_select.mpr ⟨hrow, hpayment⟩
  rw [hload] at hmem
  cases hmem

theorem effect_of_effectRow {scope : ReservationScope} {lifecycle : CashuProofReservationLifecycle}
    (h : loadLifecycle db scope = .ok lifecycle) {row : OperatorEffectRow}
    (hrow : row ∈ db.cashuOperatorEffects) (hpayment : row.paymentId = scope.paymentId) :
    ∃ effect, lifecycle.effect = some effect ∧ mapEffect row scope = .ok effect ∧
      (effect.kind = .melt → assertMeltQuoteEvidence db scope effect .stored = .ok ()) := by
  cases heffect : lifecycle.effect with
  | none => exact absurd hpayment (no_effectRow_of_loadLifecycle h heffect hrow)
  | some effect =>
      obtain ⟨⟨only, honly, hstored⟩, hquote⟩ :=
        (loadEffect_ok (effect_of_loadLifecycle h)).2 effect heffect
      have hmem : row ∈ db.effectsOf scope.paymentId := Table.mem_select.mpr ⟨hrow, hpayment⟩
      rw [honly, List.mem_singleton] at hmem
      exact ⟨effect, rfl, hmem ▸ hstored, hquote⟩

/-! ### States -/

/-- The state of a payment's reservation, by its latest event. -/
def Db.reservationState (db : Db) (paymentId : PaymentId) : CashuProofReservationState :=
  match db.latestState paymentId with
  | none => .reserved
  | some state => state.toReservationState

theorem createPublicEvent_some {draft : EventDraft} {sequence : Nat}
    {observedAt : Option UnixTimestamp} {event : CashuReservationLifecycleEvent}
    (h : createPublicEvent draft sequence observedAt = some event) :
    event.state = draft.state ∧ event.base.eventId = draft.eventId ∧
      event.evidenceKind = draft.evidenceKind ∧ event.evidenceAt = draft.evidenceAt := by
  unfold createPublicEvent at h
  simp only at h
  split at h
  · split at h
    · case h_1 hstate hkind htime =>
      cases h
      exact ⟨hstate.symm, rfl, hkind.symm, htime.symm⟩
    · case h_2 hstate hkind htime =>
      cases h
      exact ⟨hstate.symm, rfl, hkind.symm, htime.symm⟩
    · case h_3 hstate hkind htime =>
      cases h
      exact ⟨hstate.symm, rfl, hkind.symm, htime.symm⟩
    · case h_4 hstate hkind htime =>
      split at h
      · cases h
        exact ⟨hstate.symm, rfl, hkind.symm, htime.symm⟩
      · cases h
    · case h_5 hstate hkind htime =>
      split at h
      · cases h
        exact ⟨hstate.symm, rfl, hkind.symm, htime.symm⟩
      · cases h
    · case h_6 hstate hkind htime =>
      obtain ⟨_, -, rfl⟩ := Option.map_eq_some_iff.mp h
      exact ⟨hstate.symm, rfl, hkind.symm, htime.symm⟩
    · cases h
  · cases h

theorem mapEvent_state {row : LifecycleEventRow} {scope : ReservationScope}
    {effect : Option CashuOperatorEffect} {event : CashuReservationLifecycleEvent}
    (h : mapEvent db row scope effect = .ok event) : event.state = row.state := by
  simp only [mapEvent, bind_eq_ok, orFail_eq_ok, ensure_eq_ok, exists_unit, pure_eq_ok,
    Except.ok.injEq] at h
  obtain ⟨-, _, -, _, hevent, -, rfl⟩ := h
  exact (createPublicEvent_some hevent).1

/-- The events of a loaded lifecycle are those of the rows, one for one. -/
theorem events_of_foldlM {scope : ReservationScope} {effect : Option CashuOperatorEffect}
    {rows : List LifecycleEventRow} {before events : List CashuReservationLifecycleEvent}
    (h : rows.foldlM (appendStoredEvent db scope effect) before = .ok events) :
    ∃ mapped, events = before ++ mapped ∧
      List.Forall₂ (fun row event => mapEvent db row scope effect = .ok event) rows mapped := by
  refine foldlM_ok_induction (motive := fun before rows events => ∃ mapped,
    events = before ++ mapped ∧
      List.Forall₂ (fun row event => mapEvent db row scope effect = .ok event) rows mapped) ?_ ?_ h
  · intro before
    exact ⟨[], by simp, .nil⟩
  · intro before row middle rows events hstep ⟨mapped, hmapped, hrows⟩
    simp only [appendStoredEvent, bind_eq_ok, ensure_eq_ok, exists_unit, pure_eq_ok,
      Except.ok.injEq] at hstep
    obtain ⟨event, hevent, -, rfl⟩ := hstep
    exact ⟨event :: mapped, by simp [hmapped], .cons hevent hrows⟩

theorem rows_of_loadLifecycle {scope : ReservationScope}
    {lifecycle : CashuProofReservationLifecycle} (h : loadLifecycle db scope = .ok lifecycle) :
    List.Forall₂ (fun row event => mapEvent db row scope lifecycle.effect = .ok event)
        (db.eventsOf scope.paymentId) lifecycle.events ∧
      lifecycle.state = stateAfter lifecycle.events := by
  simp only [loadLifecycle, bind_eq_ok, ensure_eq_ok, exists_unit, pure_eq_ok,
    Except.ok.injEq] at h
  obtain ⟨effect, -, events, hevents, -, -, rfl⟩ := h
  obtain ⟨mapped, hmapped, hrows⟩ := events_of_foldlM hevents
  obtain rfl : events = mapped := hmapped
  exact ⟨hrows, rfl⟩

theorem state_of_loadLifecycle {scope : ReservationScope}
    {lifecycle : CashuProofReservationLifecycle} (h : loadLifecycle db scope = .ok lifecycle) :
    lifecycle.state = db.reservationState scope.paymentId := by
  obtain ⟨hrows, hstate⟩ := rows_of_loadLifecycle h
  rw [hstate, stateAfter, Db.reservationState, Db.latestState, Db.latestEvent, latest]
  cases hlast : lifecycle.events.getLast? with
  | none =>
      rw [List.getLast?_eq_none_iff.mp hlast] at hrows
      have hnone : db.eventsOf scope.paymentId = [] := List.forall₂_nil_right_iff.mp hrows
      rw [Db.eventsOf] at hnone
      rw [hnone]
      rfl
  | some event =>
      obtain ⟨row, hrow, hevent⟩ := getLast?_of_forall₂ hrows hlast
      rw [Db.eventsOf] at hrow
      rw [hrow]
      exact congrArg LifecycleEventState.toReservationState (mapEvent_state hevent)

end CashMesh.Acquirer
