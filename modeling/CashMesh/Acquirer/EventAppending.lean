import CashMesh.Acquirer.EventBound
/-!
# Appending an event

When an event is appended to a lifecycle that loads. The statement inserts the row, the lifecycle loads
with the event at its end, and the deferred checks of the transaction find the claims complete or
freed, so that the transaction commits.
-/

namespace CashMesh.Acquirer

open CashMesh.Lib

variable {db : Db} {s : Session} {scope : ReservationScope}
  {current : CashuProofReservationLifecycle} {effect : CashuOperatorEffect}
  {event : CashuReservationLifecycleEvent}

/-! ### The lifecycle with one more event -/

/-- The lifecycle of a payment after one more event. -/
def CashuProofReservationLifecycle.next (current : CashuProofReservationLifecycle)
    (event : CashuReservationLifecycleEvent) : CashuProofReservationLifecycle :=
  { current with
    events := current.events ++ [event]
    state := event.state.toReservationState }

theorem CashuProofReservationState.Active.ne_released {state : CashuProofReservationState}
    (h : state.Active) : state ≠ .released := by
  intro hreleased
  rw [hreleased] at h
  simp [CashuProofReservationState.Active] at h

theorem assertProjection_afterEvent {row : LifecycleEventRow} {events : Table LifecycleEventRow}
    {state : CashuProofReservationState} {hasEffect : Bool}
    (hpayment : row.paymentId = scope.paymentId) (hactive : state ≠ .released)
    (h : assertProjection db scope.paymentId state hasEffect = .ok ()) :
    assertProjection (db.afterEvent row events) scope.paymentId row.state.toReservationState
      hasEffect = .ok () := by
  simp only [assertProjection, ensure_eq_ok] at h ⊢
  obtain ⟨hproofs, -, hclaims⟩ := h
  refine ⟨hproofs, ?_, ?_⟩
  · intro hreleased
    have hstate : row.state = .released := by
      cases hkind : row.state <;> simp [hkind, LifecycleEventState.toReservationState] at hreleased ⊢
    simp only [Db.proofClaimsOf, Db.invoiceClaimsOf, Db.afterEvent, if_pos hstate, hpayment,
      Table.select_delete_self, List.length_nil, and_self]
  · intro hreleased
    have hstate : row.state ≠ .released := by
      intro hstate
      rw [hstate] at hreleased
      exact hreleased rfl
    simp only [Db.proofClaimsOf, Db.invoiceClaimsOf, Db.afterEvent, if_neg hstate]
    exact hclaims hactive

/-- A loaded lifecycle loads with an event appended to it. -/
theorem loadLifecycle_afterEvent {row : LifecycleEventRow} {events : Table LifecycleEventRow}
    (hload : loadLifecycle db scope = .ok current) (hstarted : current.effect = some effect)
    (hpayment : row.paymentId = scope.paymentId) (hnext : NextEvent db row)
    (hevents : db.cashuProofReservationEvents.Appends [row] events)
    (hmap : mapEvent db row scope current.effect = .ok event) (hstate : event.state = row.state)
    (hsequence : row.sequence = current.events.length) (hactive : current.state.Active)
    (hdispatch : row.state ≠ .dispatchStarted)
    (hlater : ∀ previous ∈ current.events.getLast?,
      previous.base.recordedAt ≤ event.base.recordedAt) :
    loadLifecycle (db.afterEvent row events) scope = .ok (current.next event) := by
  simp only [loadLifecycle, bind_eq_ok, ensure_eq_ok, exists_unit, pure_eq_ok,
    Except.ok.injEq] at hload ⊢
  obtain ⟨effect, heffect, stored, hstored, hfits, hprojection, rfl⟩ := hload
  have happended : (db.afterEvent row events).eventsOf scope.paymentId =
      db.eventsOf scope.paymentId ++ [row] := by
    rw [← hpayment]
    exact @eventsOf_append_self _ (db.afterEvent row events) _ hnext hevents
  have hlast : stateAfter (stored ++ [event]) = event.state.toReservationState := by
    rw [stateAfter, List.getLast?_concat]
  refine ⟨effect, ?_, stored ++ [event], ?_, ?_, ?_, ?_⟩
  · unfold loadEffect at heffect ⊢
    rw [show (db.afterEvent row events).effectsOf scope.paymentId = db.effectsOf scope.paymentId
      from rfl, happended]
    split at heffect
    · exact heffect
    · simp only [bind_eq_ok, ensure_eq_ok, exists_unit] at heffect ⊢
      obtain ⟨loaded, hloaded, -, heffect⟩ := heffect
      exact ⟨loaded, hloaded, by simp, heffect⟩
    · exact heffect
  · rw [happended, List.foldlM_append]
    simp only [bind_eq_ok]
    refine ⟨stored, hstored, ?_⟩
    simp only [List.foldlM_cons, List.foldlM_nil, appendStoredEvent, bind_eq_ok, ensure_eq_ok,
      exists_unit, pure_eq_ok, Except.ok.injEq]
    refine ⟨_, ⟨event, hmap, ⟨hsequence, .inr ⟨hactive, ?_⟩, hlater⟩, rfl⟩, rfl⟩
    rwa [hstate]
  · refine ⟨?_, ?_⟩
    · intro hnone
      rw [hnone] at hstarted
      cases hstarted
    · intro hsome
      obtain ⟨first, hfirst, hdispatched⟩ := hfits.2 hsome
      refine ⟨first, ?_, hdispatched⟩
      simp only [List.head?_append, Option.mem_def] at hfirst ⊢
      rw [hfirst]
      rfl
  · rw [hlast, hstate]
    exact assertProjection_afterEvent hpayment hactive.ne_released hprojection
  · rw [hlast]
    rfl

/-! ### The row of the event -/

/-- What lets a row be inserted that is not about an accepted payment, apart from its number. -/
structure EventInsertable (db : Db) (row : LifecycleEventRow) : Prop where
  fresh : ∀ old ∈ db.cashuProofReservationEvents, ¬Collide old row
  releaseEvidence : validateLatestMeltReleaseEvidence ⟨db, []⟩ row = .ok ()
  valid : ∃ reservation ∈ db.reservation row.paymentId, ValidEvent db row reservation
  checks : row.UnboundedChecks
  notConsumed : row.state ≠ .consumed

namespace EventInsertable

variable {row : LifecycleEventRow}

theorem nextEvent (h : EventInsertable db row) : NextEvent db row := by
  obtain ⟨reservation, -, hvalid⟩ := h.valid
  exact ⟨hvalid.successor, hvalid.first⟩

theorem journalEntryId (h : EventInsertable db row) : row.journalEntryId = none := by
  rcases h.checks.2.2.2 with ⟨hconsumed, -⟩ | ⟨-, hjournal⟩
  · exact absurd hconsumed h.notConsumed
  · exact hjournal

theorem insert (h : EventInsertable db row) :
    ∃ events s, db.cashuProofReservationEvents.Appends [row] events ∧
      insertEventRowUnbounded ⟨db, []⟩ row = .ok s ∧
      s.db = { db with
        cashuProofReservationEvents := events
        cashuBearerProofCustody := custodyAfter db row } ∧
      ∀ check ∈ s.deferred, check = .activeClaims row.paymentId := by
  obtain ⟨events, hinsert, hevents⟩ := Table.insert_of_not_collide h.fresh
  have htable (error : UniqueConstraint) :
      insertRow db.cashuProofReservationEvents row error = .ok events := by
    simp [insertRow, hinsert]
  have hjournal : ∀ journalEntryId ∈ row.journalEntryId,
      ∃ journal ∈ db.merchantInvoicePaymentJournals,
        journal.journalEntryId = journalEntryId ∧ journal.paymentId = row.paymentId := by
    rw [h.journalEntryId]
    intro journalEntryId hmem
    cases hmem
  simp only [insertEventRowUnbounded]
  rw [h.releaseEvidence, ok_bind, ensure_of h.valid, ok_bind, ensure_of h.checks, ok_bind, htable,
    ok_bind, ensure_of hjournal, ok_bind, if_neg h.notConsumed]
  by_cases hterminal : row.state.toReservationState.Terminal
  · have hlatest := @latestState_append_self _
      { db with cashuProofReservationEvents := events } _ h.nextEvent hevents
    rw [if_pos hterminal, deleteCustody, ensure_of fun _ => ⟨_, hlatest, hterminal⟩, ok_bind]
    refine ⟨events, _, hevents, rfl, ?_, ?_⟩
    · simp [custodyAfter, hterminal]
    · simp
  · rw [if_neg hterminal]
    refine ⟨events, _, hevents, rfl, ?_, ?_⟩
    · simp [custodyAfter, hterminal]
    · simp

end EventInsertable

/-! ### The transition -/

/-- What lets the event of a draft be appended to the events of a payment, apart from its number. -/
structure Appendable (db : Db) (scope : ReservationScope)
    (current : CashuProofReservationLifecycle) (effect : CashuOperatorEffect) (draft : EventDraft)
    (event : CashuReservationLifecycleEvent) : Prop where
  payment : scope.paymentId = draft.paymentId
  loaded : loadLifecycle db scope = .ok current
  started : current.effect = some effect
  matching : TransitionMatches current effect draft
  cited : assertCitedSnapshotOrdered db scope draft = .ok ()
  insertable : EventInsertable db (eventRow draft current.events.length)
  notDispatch : draft.state ≠ .dispatchStarted
  notPreDispatch : draft.evidenceKind ≠ some .preDispatch
  mapped : mapEvent db (eventRow draft current.events.length) scope current.effect = .ok event
  claims : ∀ events, db.cashuProofReservationEvents.Appends
      [eventRow draft current.events.length] events →
    ValidActiveClaims (db.afterEvent (eventRow draft current.events.length) events)
      draft.paymentId

variable {draft : EventDraft}

theorem base_of_createPublicEvent {sequence : Nat} {observedAt : Option UnixTimestamp}
    (h : createPublicEvent draft sequence observedAt = some event) :
    event.base = ⟨draft.eventId, draft.recordedAt, sequence⟩ := by
  unfold createPublicEvent at h
  simp only at h
  split at h
  · split at h
    · cases h
      rfl
    · cases h
      rfl
    · cases h
      rfl
    · split at h
      · cases h
        rfl
      · cases h
    · split at h
      · cases h
        rfl
      · cases h
    · obtain ⟨observed, -, rfl⟩ := Option.map_eq_some_iff.mp h
      rfl
    · cases h
  · cases h

theorem base_of_mapEvent {row : LifecycleEventRow} {effect : Option CashuOperatorEffect}
    (h : mapEvent db row scope effect = .ok event) :
    event.base = ⟨row.eventId, row.recordedAt, row.sequence⟩ := by
  simp only [mapEvent, bind_eq_ok, orFail_eq_ok, ensure_eq_ok, exists_unit, pure_eq_ok,
    Except.ok.injEq] at h
  obtain ⟨-, _, -, _, hevent, -, rfl⟩ := h
  exact base_of_createPublicEvent hevent

theorem Appendable.later (h : Appendable db scope current effect draft event) :
    ∀ previous ∈ current.events.getLast?, previous.base.recordedAt ≤ event.base.recordedAt := by
  intro previous hprevious
  have hlater := h.matching.2.2.1
  rw [Option.mem_def.mp hprevious] at hlater
  rw [base_of_mapEvent h.mapped]
  exact hlater

theorem commit_of_activeClaims {paymentId : PaymentId}
    (hdeferred : ∀ check ∈ s.deferred, check = .activeClaims paymentId)
    (hclaims : ValidActiveClaims s.db paymentId) : commitLifecycle s = .ok s.db := by
  have hall : ∀ check ∈ s.deferred, s.db.Satisfies check := by
    intro check hcheck
    rw [hdeferred check hcheck]
    intro _
    exact hclaims
  rw [commitLifecycle, Session.commit, ensure_of hall]
  rfl

/-- An appendable event is appended to the rows and to the lifecycle. -/
theorem Appendable.persist (h : Appendable db scope current effect draft event) :
    ∃ events s, db.cashuProofReservationEvents.Appends
        [eventRow draft current.events.length] events ∧
      persistTransitionInTransactionBy insertEventRowUnbounded ⟨db, []⟩ scope draft =
        .ok (⟨current.next event, false⟩, s) ∧
      commitLifecycle s =
        .ok (db.afterEvent (eventRow draft current.events.length) events) ∧
      loadLifecycle (db.afterEvent (eventRow draft current.events.length) events) scope =
        .ok (current.next event) := by
  obtain ⟨events, s, hevents, hinsert, hdb, hdeferred⟩ := h.insertable.insert
  have hload := loadLifecycle_afterEvent h.loaded h.started h.payment.symm h.insertable.nextEvent
    hevents h.mapped (mapEvent_state h.mapped) rfl h.matching.2.1 h.notDispatch
    h.later
  have hfresh : (db.cashuProofReservationEvents.find fun row => row.eventId = draft.eventId) =
      none :=
    Table.find_none.mpr fun old hold hsame => h.insertable.fresh old hold (.inl hsame)
  simp only [persistTransitionInTransactionBy]
  rw [replayEvent_of_find_none hfresh, ok_bind]
  simp only
  rw [h.loaded, ok_bind, if_neg fun hearly => h.notPreDispatch hearly.2, h.started]
  simp only [orFail, ok_bind]
  rw [ensure_of h.matching, ok_bind, h.cited, ok_bind]
  simp only [appendEventBy, insertEventBy, hinsert, lifecycleStatement, Except.mapError, ok_bind]
  by_cases hreleased : draft.state = .released
  · have hafter : (deleteActiveClaims s scope.paymentId).db =
        db.afterEvent (eventRow draft current.events.length) events := by
      simp [deleteActiveClaims, hdb, Db.afterEvent, eventRow, hreleased, h.payment]
    rw [if_pos hreleased, hafter, hload]
    refine ⟨events, _, hevents, rfl, ?_, hload⟩
    rw [← hafter]
    apply commit_of_activeClaims
    · intro check hcheck
      simp only [deleteActiveClaims, Session.next_deferred, List.mem_append, List.mem_map,
        h.payment] at hcheck
      rcases hcheck with hcheck | ⟨_, -, rfl⟩ | ⟨_, -, rfl⟩
      · exact hdeferred check hcheck
      · rfl
      · rfl
    · rw [hafter]
      exact h.claims events hevents
  · have hafter : s.db = db.afterEvent (eventRow draft current.events.length) events := by
      simp [hdb, Db.afterEvent, eventRow, hreleased]
    rw [if_neg hreleased, hafter, hload]
    refine ⟨events, _, hevents, rfl, ?_, hload⟩
    rw [← hafter]
    apply commit_of_activeClaims hdeferred
    rw [hafter]
    exact h.claims events hevents

/-- An event of a payment whose claims are complete leaves them complete, or frees them. -/
theorem validActiveClaims_afterEvent {row : LifecycleEventRow} {events : Table LifecycleEventRow}
    (hnext : NextEvent db row) (hevents : db.cashuProofReservationEvents.Appends [row] events)
    (hproofs : db.activeProofCount row.paymentId = (db.reservedProofsOf row.paymentId).length)
    (hinvoice : (db.invoiceClaimsOf row.paymentId).length =
      if db.effectsOf row.paymentId = [] then 0 else 1) :
    ValidActiveClaims (db.afterEvent row events) row.paymentId := by
  have hlatest := @latestState_append_self _ (db.afterEvent row events) _ hnext hevents
  by_cases hreleased : row.state = .released
  · refine ⟨fun _ => ?_, fun hother => ?_, fun hother => ?_⟩
    · simp only [Db.activeProofCount, Db.proofClaimsOf, Db.invoiceClaimsOf, Db.afterEvent,
        if_pos hreleased, Table.select_delete_self, List.filter_nil, List.length_nil, and_self]
    · rw [hlatest, hreleased] at hother
      exact absurd rfl hother
    · rw [hlatest, hreleased] at hother
      exact absurd rfl hother
  · have hclaims : (db.afterEvent row events).cashuActiveProofClaims =
        db.cashuActiveProofClaims := if_neg hreleased
    have hinvoiceClaims : (db.afterEvent row events).cashuActiveInvoicePaymentClaims =
        db.cashuActiveInvoicePaymentClaims := if_neg hreleased
    refine ⟨fun hstate => ?_, fun _ => ?_, fun _ => ?_⟩
    · rw [hlatest, Option.some_inj] at hstate
      exact absurd hstate hreleased
    · rw [Db.activeProofCount, Db.proofClaimsOf, hclaims]
      exact hproofs
    · rw [Db.invoiceClaimsOf, hinvoiceClaims]
      exact hinvoice

end CashMesh.Acquirer
