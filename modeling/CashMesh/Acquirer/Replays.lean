import CashMesh.Acquirer.Recorded
/-!
# Sending a lifecycle command again

A command that has committed leaves its event behind, together with the evidence that its checks have
seen. Both outlast whatever happens to the payment later, so the command sent again finds its event
and passes its checks, whether the claims are released, the custody is destroyed or the invoice is paid
by then. An event identity is bound to one content: a command that succeeds on it is the same command.
-/

namespace CashMesh.Acquirer

open CashMesh.Lib

/-! ### Commands -/

/-- The commands of the lifecycle repository with their inputs. -/
inductive LifecycleCommand where
  | startEffect (input : StartEffectInput)
  | recordPending (input : EventInput)
  | requireAttention (input : EventInput) (reason : CashuOperatorAttentionReason)
  | acceptPayment (input : AcceptPaymentInput)
  | releasePreDispatch (input : PreDispatchReleaseInput)
  | releaseAfterFailure (input : AfterFailureReleaseInput)
deriving DecidableEq

/-- What a command answers: the lifecycle, and the accounting of an acceptance. -/
structure CommandResult where
  accounting : Option AcceptedInvoicePayment
  lifecycle : CashuProofReservationLifecycle
  replayed : Bool
deriving DecidableEq

def CommandResult.ofLifecycle (result : LifecycleResult) : CommandResult where
  accounting := none
  lifecycle := result.lifecycle
  replayed := result.replayed

def CommandResult.ofAcceptance (result : AcceptPaymentResult) : CommandResult where
  accounting := some result.accounting
  lifecycle := result.lifecycle
  replayed := result.replayed

namespace LifecycleCommand

def operation : LifecycleCommand → Operation
  | startEffect input => .startEffect input
  | recordPending input => .recordPending input
  | requireAttention input reason => .requireAttention input reason
  | acceptPayment input => .acceptPayment input
  | releasePreDispatch input => .release (.preDispatch input)
  | releaseAfterFailure input => .release (.afterFailure input)

def run (db : Db) : LifecycleCommand → Except LifecycleError (CommandResult × Db)
  | startEffect input => (Acquirer.startEffect db input).map (Prod.map .ofLifecycle id)
  | recordPending input => (Acquirer.recordPending db input).map (Prod.map .ofLifecycle id)
  | requireAttention input reason =>
      (Acquirer.requireAttention db input reason).map (Prod.map .ofLifecycle id)
  | acceptPayment input => (Acquirer.acceptPayment db input).map (Prod.map .ofAcceptance id)
  | releasePreDispatch input =>
      (Acquirer.release db (.preDispatch input)).map (Prod.map .ofLifecycle id)
  | releaseAfterFailure input =>
      (Acquirer.release db (.afterFailure input)).map (Prod.map .ofLifecycle id)

def paymentId : LifecycleCommand → PaymentId
  | startEffect input => input.paymentId
  | recordPending input => input.paymentId
  | requireAttention input _ => input.paymentId
  | acceptPayment input => input.paymentId
  | releasePreDispatch input => input.paymentId
  | releaseAfterFailure input => input.paymentId

def eventId : LifecycleCommand → CashuReservationLifecycleEventId
  | startEffect input => input.eventId
  | recordPending input => input.eventId
  | requireAttention input _ => input.eventId
  | acceptPayment input => input.eventId
  | releasePreDispatch input => input.eventId
  | releaseAfterFailure input => input.eventId

/-- The check of the input alone. -/
def validate : LifecycleCommand → Except LifecycleError Unit
  | startEffect input => validateStartEffect input
  | recordPending input => validateEvidenceInput input
  | requireAttention input _ => validateEvidenceInput input
  | acceptPayment input => validatePaymentAcceptance input
  | releasePreDispatch input => ensure (input.recordedAt ≤ maxSafeInteger) .invalidInput
  | releaseAfterFailure input => validateAfterFailure input

/-- The event of a report on the operator's progress. -/
def progressDraft (input : EventInput) (state : LifecycleEventState) (kind : EvidenceKind) :
    EventDraft where
  effectId := some input.effectId
  eventId := input.eventId
  evidenceAt := some input.evidenceAt
  evidenceKind := some kind
  journalEntryId := none
  paymentId := input.paymentId
  proofStateSnapshotFingerprint := none
  recordedAt := input.recordedAt
  state

/-- The event of a command on a snapshot, for the commands that cite one. -/
def draft (fingerprint : ProofStateFingerprint) : LifecycleCommand → EventDraft
  | startEffect input => input.draft
  | recordPending input => progressDraft input .pending .operatorPending
  | requireAttention input reason => progressDraft input .needsAttention (.attention reason)
  | acceptPayment input => input.draft fingerprint
  | releasePreDispatch input => input.draft
  | releaseAfterFailure input => input.draft fingerprint

theorem draft_paymentId (command : LifecycleCommand) (fingerprint : ProofStateFingerprint) :
    (command.draft fingerprint).paymentId = command.paymentId := by
  cases command <;> rfl

theorem draft_eventId (command : LifecycleCommand) (fingerprint : ProofStateFingerprint) :
    (command.draft fingerprint).eventId = command.eventId := by
  cases command <;> rfl

theorem map_prodMap_eq_ok {α β ε : Type} {x : Except ε (α × Db)} {f : α → β} {b : β} {db : Db} :
    x.map (Prod.map f id) = .ok (b, db) ↔ ∃ a, x = .ok (a, db) ∧ f a = b := by
  cases x with
  | error error => simp [Except.map]
  | ok pair =>
      obtain ⟨a, db'⟩ := pair
      simp only [Except.map, Prod.map, id, Except.ok.injEq, Prod.mk.injEq]
      constructor
      · rintro ⟨rfl, rfl⟩
        exact ⟨a, ⟨rfl, rfl⟩, rfl⟩
      · rintro ⟨_, ⟨rfl, rfl⟩, rfl⟩
        exact ⟨rfl, rfl⟩

theorem operation_run {db db' : Db} {command : LifecycleCommand} :
    command.operation.run db = some db' ↔ ∃ result, command.run db = .ok (result, db') := by
  cases command <;> simp only [operation, Operation.run, committed_eq_some, run, map_prodMap_eq_ok]
  all_goals
    constructor
    · rintro ⟨answer, h⟩
      exact ⟨_, answer, h, rfl⟩
    · rintro ⟨_, answer, h, -⟩
      exact ⟨answer, h⟩

end LifecycleCommand

variable {db db' : Db} {scope : ReservationScope} {lifecycle : CashuProofReservationLifecycle}

/-! ### Events that are read back -/

theorem observedAt_of_createSnapshot {input snapshot : CashuProofStateSnapshot}
    (h : createCashuProofStateSnapshot input = some snapshot) :
    snapshot.observedAt = input.observedAt := by
  unfold createCashuProofStateSnapshot at h
  split at h
  · cases h
    rfl
  · cases h

theorem validateProofStateEvidence_ok {fingerprint : ProofStateFingerprint}
    {requiredState : CashuProofStateValue} {inputEvidence : Bool} {observedAt : UnixTimestamp}
    (h : validateProofStateEvidenceByFingerprint db scope fingerprint requiredState inputEvidence =
      .ok observedAt) :
    observedAt = fingerprint.observedAt ∧
      ∃ row, db.proofStateObservation fingerprint scope.paymentId = some row ∧
        row.observedAt = fingerprint.observedAt := by
  simp only [validateProofStateEvidenceByFingerprint, bind_eq_ok, orFail_eq_ok, ensure_eq_ok,
    exists_unit, pure_eq_ok, Except.ok.injEq] at h
  obtain ⟨row, hrow, -, states, -, snapshot, hsnapshot, ⟨hfingerprint, -⟩, rfl⟩ := h
  have htime : snapshot.observedAt = row.observedAt := observedAt_of_createSnapshot hsnapshot
  have hhashed : fingerprint.observedAt = snapshot.observedAt :=
    (congrArg ProofStateFingerprint.observedAt hfingerprint).symm
  exact ⟨hhashed.symm, row, hrow, htime.symm.trans hhashed.symm⟩

theorem validateProofStateEvidence_input {fingerprint : ProofStateFingerprint}
    {requiredState : CashuProofStateValue} {observedAt : UnixTimestamp}
    (h : validateProofStateEvidenceByFingerprint db scope fingerprint requiredState false =
      .ok observedAt) :
    validateProofStateEvidenceByFingerprint db scope fingerprint requiredState true =
      .ok observedAt := by
  simp only [validateProofStateEvidenceByFingerprint, bind_eq_ok, mapM_eq_ok] at h ⊢
  obtain ⟨row, hrow, _, hbound, states, hstates, h⟩ := h
  refine ⟨row, hrow, _, hbound, states, hstates.imp ?_, h⟩
  rintro ⟨⟨entry, proof⟩, position⟩ state hstate
  simp only [readUniformEntry, bind_eq_ok, ensure_eq_ok] at hstate ⊢
  exact hstate

theorem resolveProofStateEvidence_of {fingerprint : ProofStateFingerprint}
    {requiredState : CashuProofStateValue} {observedAt : UnixTimestamp}
    (h : validateProofStateEvidenceByFingerprint db scope fingerprint requiredState false =
      .ok observedAt) :
    resolveProofStateEvidence db scope fingerprint.observedAt requiredState = .ok fingerprint := by
  obtain ⟨-, row, hrow, htime⟩ := validateProofStateEvidence_ok h
  obtain ⟨hmem, hfingerprint, hpayment⟩ := Table.find_some hrow
  have hfind : (db.cashuProofStateObservations.find fun row =>
      row.paymentId = scope.paymentId ∧ row.observedAt = fingerprint.observedAt) = some row :=
    Table.find_of_mem hmem ⟨hpayment, htime⟩ fun other hother =>
      .inr ⟨hother.1.trans hpayment.symm, hother.2.trans htime.symm⟩
  simp only [resolveProofStateEvidence, bind_eq_ok, orFail_eq_ok, pure_eq_ok, Except.ok.injEq]
  refine ⟨row, hfind, observedAt, ?_, hfingerprint⟩
  rw [hfingerprint]
  exact validateProofStateEvidence_input h

theorem fingerprint_of_resolved {fingerprint : ProofStateFingerprint}
    {requiredState : CashuProofStateValue} {observedAt : UnixTimestamp}
    (h : resolveProofStateEvidence db scope observedAt requiredState = .ok fingerprint) :
    fingerprint.observedAt = observedAt := by
  simp only [resolveProofStateEvidence, bind_eq_ok, orFail_eq_ok, pure_eq_ok, Except.ok.injEq] at h
  obtain ⟨row, hfind, time, hvalid, rfl⟩ := h
  obtain ⟨hmem, hpayment, htime⟩ := Table.find_some hfind
  obtain ⟨-, cited, hcited, hcitedTime⟩ := validateProofStateEvidence_ok hvalid
  obtain ⟨hcitedMem, hsame, -⟩ := Table.find_some hcited
  obtain rfl : cited = row := Table.eq_of_collide hcitedMem hmem (.inl hsame)
  exact hcitedTime.symm.trans htime

/-- The event that a row stores. -/
def LifecycleEventRow.event (row : LifecycleEventRow) : Option CashuReservationLifecycleEvent :=
  createPublicEvent row.draft row.sequence (row.proofStateSnapshotFingerprint.map (·.observedAt))

theorem mapEvent_ok {row : LifecycleEventRow} {effect : Option CashuOperatorEffect}
    {event : CashuReservationLifecycleEvent} (h : mapEvent db row scope effect = .ok event) :
    row.event = some event ∧ row.effectId = effect.map (·.effectId) ∧
      createEventFingerprint row.draft row.sequence = row.eventFingerprint ∧
      (∀ evidenceAt ∈ row.evidenceAt, evidenceAt ≤ row.recordedAt) ∧
      EventMatchesEffect event effect ∧
      ∀ fingerprint ∈ row.proofStateSnapshotFingerprint, ∃ observedAt,
        validateProofStateEvidenceByFingerprint db scope fingerprint row.state.requiredProofState
          false = .ok observedAt := by
  simp only [mapEvent, bind_eq_ok, orFail_eq_ok, ensure_eq_ok, exists_unit, pure_eq_ok,
    Except.ok.injEq] at h
  obtain ⟨⟨-, heffectId⟩, observedAt, hcited, _, hevent, ⟨hfingerprint, -, hbefore, hfits⟩, rfl⟩ := h
  have hsnapshot : observedAt = row.proofStateSnapshotFingerprint.map (·.observedAt) ∧
      ∀ fingerprint ∈ row.proofStateSnapshotFingerprint, ∃ time,
        validateProofStateEvidenceByFingerprint db scope fingerprint row.state.requiredProofState
          false = .ok time := by
    unfold citedProofStateObservedAt at hcited
    split at hcited
    · case h_1 hnone =>
      cases hcited
      rw [hnone]
      exact ⟨rfl, by simp⟩
    · case h_2 fingerprint hsome =>
      simp only [bind_eq_ok, pure_eq_ok, Except.ok.injEq] at hcited
      obtain ⟨time, hvalid, rfl⟩ := hcited
      rw [hsome]
      refine ⟨congrArg some (validateProofStateEvidence_ok hvalid).1, ?_⟩
      rintro _ ⟨⟩
      exact ⟨time, hvalid⟩
  obtain ⟨rfl, hvalid⟩ := hsnapshot
  exact ⟨hevent, heffectId, hfingerprint, hbefore, hfits, hvalid⟩

theorem event_of_loadLifecycle (h : loadLifecycle db scope = .ok lifecycle)
    {row : LifecycleEventRow} (hrow : row ∈ db.cashuProofReservationEvents)
    (hpayment : row.paymentId = scope.paymentId) :
    ∃ event ∈ lifecycle.events, mapEvent db row scope lifecycle.effect = .ok event := by
  obtain ⟨hrows, -⟩ := rows_of_loadLifecycle h
  have hmem : row ∈ db.eventsOf scope.paymentId :=
    mem_orderBy.mpr (Table.mem_select.mpr ⟨hrow, hpayment⟩)
  obtain ⟨event, hevent, hmaps⟩ := exists_of_forall₂ hrows.flip hmem
  exact ⟨event, hevent, hmaps⟩

theorem row_of_loadLifecycle (h : loadLifecycle db scope = .ok lifecycle)
    {event : CashuReservationLifecycleEvent} (hevent : event ∈ lifecycle.events) :
    ∃ row ∈ db.cashuProofReservationEvents, row.paymentId = scope.paymentId ∧
      mapEvent db row scope lifecycle.effect = .ok event := by
  obtain ⟨hrows, -⟩ := rows_of_loadLifecycle h
  obtain ⟨row, hrow, hmaps⟩ := exists_of_forall₂ hrows hevent
  obtain ⟨hmem, hpayment⟩ := Table.mem_select.mp (mem_orderBy.mp hrow)
  exact ⟨row, hmem, hpayment, hmaps⟩

/-! ### Stored events -/

/-- The event of a draft is stored, and is among those of a lifecycle. -/
def StoredWith (db : Db) (draft : EventDraft) (lifecycle : CashuProofReservationLifecycle) : Prop :=
  ∃ sequence, eventRow draft sequence ∈ db.cashuProofReservationEvents ∧
    ∃ event ∈ lifecycle.events, (eventRow draft sequence).event = some event

theorem storedWith_of_load {draft : EventDraft} {sequence : Nat}
    (hstored : eventRow draft sequence ∈ db.cashuProofReservationEvents)
    (hpayment : scope.paymentId = draft.paymentId) (hload : loadLifecycle db scope = .ok lifecycle) :
    StoredWith db draft lifecycle := by
  obtain ⟨event, hevent, hmaps⟩ := event_of_loadLifecycle hload hstored hpayment.symm
  exact ⟨sequence, hstored, event, hevent, (mapEvent_ok hmaps).1⟩

/-- A replayed event is stored with the content of the draft. -/
theorem replayEvent_some {draft : EventDraft} {effect : Option CashuOperatorEffect}
    {result : LifecycleResult} (h : replayEvent db draft effect = .ok (some result)) :
    StoredWith db draft result.lifecycle ∧
      ∀ scope, loadReservation db draft.paymentId = .ok (some scope) →
        ∀ expected ∈ effect, StoredEffect db scope expected := by
  simp only [replayEvent] at h
  split at h
  · cases h
  · case h_2 existing hfind =>
    simp only [bind_eq_ok, ensure_eq_ok, exists_unit, pure_eq_ok, Except.ok.injEq,
      Option.some.injEq] at h
    obtain ⟨hpayment, scope, hscope, lifecycle, hload, hfingerprint, hexpected, rfl⟩ := h
    have hloaded := requireReservation_ok hscope
    have hscoped : scope.paymentId = draft.paymentId := paymentId_of_loadReservation hloaded
    obtain ⟨hmem, -⟩ := Table.find_some hfind
    obtain ⟨event, -, hmaps⟩ :=
      event_of_loadLifecycle hload hmem (hpayment.trans hscoped.symm)
    have hstored := (mapEvent_ok hmaps).2.2.1
    have hdraft : existing.draft = draft :=
      congrArg EventFingerprint.draft (hstored.trans hfingerprint)
    have hrow : eventRow draft existing.sequence = existing := by
      rw [← hdraft, eventRow, hstored]
      rfl
    refine ⟨storedWith_of_load (hrow ▸ hmem) hscoped hload, ?_⟩
    intro found hfound expected hsome
    obtain rfl : scope = found := Option.some.inj (Except.ok.inj (hloaded.symm.trans hfound))
    obtain ⟨stored, heffect, hsame⟩ := hexpected expected hsome
    have heffectSame : stored = expected := congrArg EffectFingerprint.effect hsame
    exact heffectSame ▸ storedEffect_of_loadLifecycle hload heffect

theorem requireReservation_of {paymentId : PaymentId}
    (h : loadReservation db paymentId = .ok (some scope)) :
    requireReservation db paymentId = .ok scope := by
  rw [requireReservation, h]
  rfl

/-- A stored event is replayed in every state in which the lifecycle loads. -/
theorem replayEvent_of_stored {draft : EventDraft} {sequence : Nat}
    {effect : Option CashuOperatorEffect}
    (hstored : eventRow draft sequence ∈ db.cashuProofReservationEvents)
    (hloaded : loadReservation db draft.paymentId = .ok (some scope))
    (hload : loadLifecycle db scope = .ok lifecycle)
    (heffect : ∀ expected ∈ effect, lifecycle.effect = some expected) :
    replayEvent db draft effect = .ok (some ⟨lifecycle, true⟩) := by
  have hfind : (db.cashuProofReservationEvents.find fun row => row.eventId = draft.eventId) =
      some (eventRow draft sequence) :=
    Table.find_of_mem hstored rfl fun other hother => .inl hother
  simp only [replayEvent, hfind, bind_eq_ok, ensure_eq_ok, exists_unit, pure_eq_ok,
    Except.ok.injEq, Option.some.injEq]
  refine ⟨rfl, scope, requireReservation_of hloaded, lifecycle, hload, rfl, ?_, rfl⟩
  intro expected hexpected
  exact ⟨expected, heffect expected hexpected, rfl⟩

/-- A transition leaves its event stored, and has changed no more than an event does. -/
theorem persistTransitionInTransaction_stored {s s' : Session} {draft : EventDraft}
    {result : LifecycleResult} (hpayment : scope.paymentId = draft.paymentId)
    (h : persistTransitionInTransaction s scope draft = .ok (result, s')) :
    StoredWith s'.db draft result.lifecycle ∧
      (s'.db = s.db ∨ ∃ row events,
        s.db.cashuProofReservationEvents.Appends [row] events ∧ s'.db = s.db.afterEvent row events) := by
  rcases persistTransitionInTransaction_ok hpayment h with ⟨rfl, hreplay⟩ | ⟨current, sequence,
    events, -, -, -, hevents, hdb, hafter, -⟩
  · exact ⟨(replayEvent_some hreplay).1, .inl rfl⟩
  · have hstored : eventRow draft sequence ∈ s'.db.cashuProofReservationEvents := by
      rw [hdb]
      exact hevents.mem.mpr (.inr List.mem_cons_self)
    exact ⟨storedWith_of_load hstored hpayment hafter, .inr ⟨_, events, hevents, hdb⟩⟩

/-! ### What a command leaves -/

/-- The evidence that the checks of a command have seen, besides its event. -/
def LifecycleCommand.EvidenceKept (db : Db) (scope : ReservationScope)
    (fingerprint : ProofStateFingerprint) : LifecycleCommand → Prop
  | startEffect input => StoredEffect db scope input.effect
  | acceptPayment input =>
      fingerprint.observedAt = input.proofStateObservedAt ∧
        (∃ effect, StoredEffect db scope effect ∧
          assertMeltPaidEvidence db scope effect input.evidenceAt = .ok ()) ∧
        ∃ journal accounting paidAt, db.journalOf scope.paymentId = some journal ∧
          mapAcceptedPayment db (scope.later .paid paidAt) journal = .ok accounting ∧
          AccountingMatchesInput accounting scope input
  | releaseAfterFailure input =>
      fingerprint.observedAt = input.proofStateObservedAt ∧
        (input.evidenceKind = .meltUnpaidAfterExpiry →
          ∃ effect, StoredEffect db scope effect ∧
            assertLatestMeltReleaseEvidence db scope effect input.evidenceAt
              input.proofStateObservedAt fingerprint = .ok ())
  | recordPending _ | requireAttention _ _ | releasePreDispatch _ => True

/-- What the database has of a command that has committed. -/
structure Recorded (db : Db) (command : LifecycleCommand) (scope : ReservationScope)
    (fingerprint : ProofStateFingerprint) : Prop where
  valid : command.validate = .ok ()
  loaded : ∃ invoiceState paidAt,
    loadReservation db command.paymentId = .ok (some (scope.later invoiceState paidAt))
  event : ∃ sequence, eventRow (command.draft fingerprint) sequence ∈ db.cashuProofReservationEvents
  evidence : command.EvidenceKept db scope fingerprint

/-- The accounting that is stored for a command, when it is an acceptance. -/
def LifecycleCommand.accounting (db : Db) : LifecycleCommand → Option AcceptedInvoicePayment
  | acceptPayment input => (db.journalOf input.paymentId).map (·.journalFingerprint.accounting)
  | _ => none

theorem mapAcceptedPayment_of_persisted {input : AcceptPaymentInput}
    {accounting : AcceptedInvoicePayment} {s : Session} (hjournaled : PostingsJournaled db)
    (h : persistAcceptedPayment ⟨db, []⟩ scope input = .ok (accounting, s)) :
    s.db.journalOf scope.paymentId = some (journalRow scope accounting) ∧
      mapAcceptedPayment s.db (scope.later .paid accounting.invoice.paidAt)
        (journalRow scope accounting) = .ok accounting ∧
      AccountingMatchesInput accounting scope input := by
  have hcopy := h
  simp only [persistAcceptedPayment, bind_eq_ok, ensure_eq_ok, exists_unit] at hcopy
  obtain ⟨-, route, hroute, hmode, -⟩ := hcopy
  obtain ⟨-, haccounting, journals, postings, invoices, hjournals, hpostings, -, -, hdb, -⟩ :=
    persistAcceptedPayment_ok h
  have hmade := accounting_ok haccounting
  have hread := hjournaled.postings_of_accepted hjournals hpostings
  have hmatch := postingsMatch_postingRows accounting
  rw [hdb]
  refine ⟨?_, ?_, ?_⟩
  · apply Table.find_of_mem (hjournals.mem.mpr (.inr List.mem_cons_self))
    · rw [hmade]
      rfl
    · intro other hother
      refine .inr (.inr (.inr (hother.trans ?_)))
      rw [hmade]
      rfl
  · rw [← hread] at hmatch
    subst hmade
    simp only [mapAcceptedPayment, bind_eq_ok, ensure_eq_ok, exists_unit, mapError_eq_ok,
      pure_eq_ok, Except.ok.injEq]
    refine ⟨route, hroute, rfl, _, ?_, ?_, rfl⟩
    · rw [hmode]
      exact haccounting
    · exact ⟨rfl, rfl, rfl, rfl, rfl, hmode.symm, rfl, rfl, trivial, rfl, rfl, hmatch⟩
  · subst hmade
    exact ⟨rfl, rfl, rfl, rfl, rfl, rfl, rfl, rfl, rfl, rfl⟩

theorem loadReservation_of_step {paymentId : PaymentId}
    (h : loadReservation db paymentId = .ok (some scope)) (hstep : Step db db') :
    ∃ invoiceState paidAt,
      loadReservation db' paymentId = .ok (some (scope.later invoiceState paidAt)) := by
  rcases step_cases hstep with rfl | hchange
  · exact ⟨scope.invoiceState, scope.paidAt, h⟩
  · exact loadReservation_of_change h hchange

/-- What a committed command has left: its event with its evidence, and what it answered. -/
def LeftBy (db : Db) (command : LifecycleCommand) (result : CommandResult) : Prop :=
  ∃ scope fingerprint, Recorded db command scope fingerprint ∧
    StoredWith db (command.draft fingerprint) result.lifecycle ∧
    result.accounting = command.accounting db

/-- A command that cites no snapshot and brings no evidence of its own. -/
theorem leftBy_of_transition {command : LifecycleCommand} {draft : EventDraft}
    {result : LifecycleResult} (hvalid : command.validate = .ok ())
    (hdraft : ∀ fingerprint, command.draft fingerprint = draft)
    (hevidence : ∀ db scope fingerprint, command.EvidenceKept db scope fingerprint)
    (haccounting : ∀ db, command.accounting db = none)
    (hstep : Step db db') (h : persistTransition db draft = .ok (result, db')) :
    LeftBy db' command (.ofLifecycle result) := by
  simp only [persistTransition, bind_eq_ok, commitLifecycle, lifecycleStatement_eq_ok, pure_eq_ok,
    Except.ok.injEq, Prod.mk.injEq, Session.commit_eq_ok] at h
  obtain ⟨scope, hscope, ⟨_, s⟩, htransition, _, ⟨-, rfl⟩, rfl, rfl⟩ := h
  have hloaded := requireReservation_ok hscope
  obtain ⟨hstored, -⟩ := persistTransitionInTransaction_stored (paymentId_of_loadReservation hloaded)
    htransition
  let fingerprint := createProofStateFingerprint scope ⟨scope.mintUrl, scope.reservedAt, []⟩
  have hpayment : draft.paymentId = command.paymentId := by
    rw [← hdraft fingerprint, command.draft_paymentId]
  rw [hpayment] at hloaded
  refine ⟨scope, fingerprint, ⟨hvalid, loadReservation_of_step hloaded hstep, ?_,
    hevidence _ _ _⟩, ?_, (haccounting _).symm⟩
  · rw [hdraft]
    obtain ⟨sequence, hrow, -⟩ := hstored
    exact ⟨sequence, hrow⟩
  · rw [hdraft]
    exact hstored

theorem leftBy_startEffect {input : StartEffectInput} {result : LifecycleResult}
    (hstep : Step db db') (h : startEffect db input = .ok (result, db')) :
    LeftBy db' (.startEffect input) (.ofLifecycle result) := by
  obtain ⟨hvalid, scope, hloaded, hcases⟩ := startEffect_ok h
  have hscoped : scope.paymentId = input.paymentId := paymentId_of_loadReservation hloaded
  have hstored : StoredWith db' input.draft result.lifecycle ∧ StoredEffect db' scope input.effect := by
    rcases hcases with ⟨rfl, hreplay⟩ | ⟨effects, claims, jobs, events, -, heffects, -, -, -, hevents,
      rfl, hafter⟩
    · obtain ⟨hstored, heffect⟩ := replayEvent_some hreplay
      exact ⟨hstored, heffect scope hloaded _ rfl⟩
    · have hrow : eventRow input.draft 0 ∈ events := hevents.mem.mpr (.inr List.mem_cons_self)
      exact ⟨storedWith_of_load hrow hscoped hafter, effectRow scope input.effect,
        heffects.mem.mpr (.inr List.mem_cons_self), rfl, rfl⟩
  obtain ⟨hstored, heffect⟩ := hstored
  let fingerprint := createProofStateFingerprint scope ⟨scope.mintUrl, scope.reservedAt, []⟩
  refine ⟨scope, fingerprint, ⟨hvalid, loadReservation_of_step hloaded hstep, ?_, heffect⟩, hstored,
    rfl⟩
  obtain ⟨sequence, hrow, -⟩ := hstored
  exact ⟨sequence, hrow⟩

theorem leftBy_acceptPayment {input : AcceptPaymentInput} {result : AcceptPaymentResult}
    (hjournaled : PostingsJournaled db) (hstep : Step db db')
    (h : acceptPayment db input = .ok (result, db')) :
    LeftBy db' (.acceptPayment input) (.ofAcceptance result) := by
  obtain ⟨hvalid, scope, effect, fingerprint, hloaded, heffect, hfingerprint, hcases⟩ :=
    acceptPayment_ok h
  have hscoped : scope.paymentId = input.paymentId := paymentId_of_loadReservation hloaded
  have htime := fingerprint_of_resolved hfingerprint
  obtain ⟨⟨lifecycle, hlifecycle, hstarted⟩, -, hpaid⟩ := assertEffectEvidence_ok heffect
  obtain ⟨-, hpaid⟩ := hpaid rfl
  have heffectStored := storedEffect_of_loadLifecycle hlifecycle hstarted
  have hkept : (StoredWith db' (input.draft fingerprint) result.lifecycle ∧
      StoredEffect db' scope effect ∧
      assertMeltPaidEvidence db' scope effect input.evidenceAt = .ok ()) ∧
      ∃ journal paidAt, db'.journalOf scope.paymentId = some journal ∧
        mapAcceptedPayment db' (scope.later .paid paidAt) journal = .ok result.accounting ∧
        AccountingMatchesInput result.accounting scope input := by
    rcases hcases with ⟨rfl, ⟨replay, hreplay, hsame⟩, hstored, hmatches⟩ |
      ⟨s₁, transition, s₂, -, hpersist, htransition, hsame, hcommit⟩
    · rw [← hsame]
      refine ⟨⟨(replayEvent_some hreplay).1, heffectStored, hpaid⟩, ?_⟩
      unfold loadAcceptedPayment at hstored
      split at hstored
      · cases hstored
      · case h_2 journal hjournal =>
        simp only [bind_eq_ok, pure_eq_ok, Except.ok.injEq, Option.some.injEq] at hstored
        obtain ⟨accounting, haccounting, rfl⟩ := hstored
        have hscopePaid : scope.invoiceState = .paid := (mapAcceptedPayment_ok haccounting).2.2.1
        refine ⟨journal, scope.paidAt, hjournal, ?_, hmatches⟩
        rw [← hscopePaid]
        exact haccounting
    · obtain ⟨-, rfl⟩ := Session.commit_eq_ok.mp hcommit
      obtain ⟨hjournal, hmapped, hmatches⟩ := mapAcceptedPayment_of_persisted hjournaled hpersist
      obtain ⟨-, -, journals, postings, invoices, -, -, -, -, hdb, -⟩ :=
        persistAcceptedPayment_ok hpersist
      obtain ⟨hstored, hchanged⟩ := persistTransitionInTransaction_stored hscoped htransition
      rw [hsame] at hstored
      rcases hchanged with hchanged | ⟨row, events, -, hchanged⟩
      · rw [hchanged] at hstored ⊢
        rw [hdb] at hstored hjournal hmapped ⊢
        exact ⟨⟨hstored, heffectStored, hpaid⟩, _, _, hjournal, hmapped, hmatches⟩
      · rw [hchanged] at hstored ⊢
        rw [hdb] at hstored hjournal hmapped ⊢
        exact ⟨⟨hstored, heffectStored, hpaid⟩, _, _, hjournal, hmapped, hmatches⟩
  obtain ⟨⟨hstored, heffectStored, hpaid⟩, journal, paidAt, hjournal, hmapped, hmatches⟩ := hkept
  refine ⟨scope, fingerprint, ⟨hvalid, loadReservation_of_step hloaded hstep, ?_, htime,
    ⟨effect, heffectStored, hpaid⟩, journal, _, paidAt, hjournal, hmapped, hmatches⟩, hstored, ?_⟩
  · obtain ⟨sequence, hrow, -⟩ := hstored
    exact ⟨sequence, hrow⟩
  · obtain ⟨-, -, -, -, hjournalFingerprint⟩ := mapAcceptedPayment_ok hmapped
    rw [hscoped] at hjournal
    rw [LifecycleCommand.accounting, hjournal, Option.map_some, hjournalFingerprint]
    rfl

theorem leftBy_releaseAfterFailure {input : AfterFailureReleaseInput} {result : LifecycleResult}
    (hstep : Step db db') (h : release db (.afterFailure input) = .ok (result, db')) :
    LeftBy db' (.releaseAfterFailure input) (.ofLifecycle result) := by
  simp only [release, bind_eq_ok, commitLifecycle, lifecycleStatement_eq_ok, pure_eq_ok,
    Except.ok.injEq, Prod.mk.injEq, Session.commit_eq_ok] at h
  obtain ⟨⟨⟩, hvalid, scope, hscope, draft, hdraft, ⟨_, s⟩, htransition, _, ⟨-, rfl⟩, rfl, rfl⟩ := h
  have hloaded := requireReservation_ok hscope
  have hscoped : scope.paymentId = input.paymentId := paymentId_of_loadReservation hloaded
  obtain ⟨effect, fingerprint, ⟨lifecycle, hlifecycle, hstarted⟩, hfingerprint, hlatest, rfl⟩ :=
    afterFailureDraft_ok hdraft
  have htime := fingerprint_of_resolved hfingerprint
  have heffectStored := storedEffect_of_loadLifecycle hlifecycle hstarted
  obtain ⟨hstored, hchanged⟩ := persistTransitionInTransaction_stored hscoped htransition
  have hevidence : input.evidenceKind = .meltUnpaidAfterExpiry →
      ∃ effect, StoredEffect s.db scope effect ∧
        assertLatestMeltReleaseEvidence s.db scope effect input.evidenceAt
          input.proofStateObservedAt fingerprint = .ok () := by
    intro hmelt
    refine ⟨effect, ?_⟩
    rcases hchanged with hchanged | ⟨row, events, -, hchanged⟩
    · rw [hchanged]
      exact ⟨heffectStored, hlatest hmelt⟩
    · rw [hchanged]
      exact ⟨heffectStored, hlatest hmelt⟩
  refine ⟨scope, fingerprint, ⟨hvalid, loadReservation_of_step hloaded hstep, ?_, htime, hevidence⟩,
    hstored, rfl⟩
  obtain ⟨sequence, hrow, -⟩ := hstored
  exact ⟨sequence, hrow⟩

/-- A command that commits leaves its event with its evidence. -/
theorem leftBy_of_run (hreach : Reachable db) {command : LifecycleCommand} {result : CommandResult}
    (h : command.run db = .ok (result, db')) : LeftBy db' command result := by
  have hstep : Step db db' := ⟨command.operation, LifecycleCommand.operation_run.mpr ⟨result, h⟩⟩
  cases command <;> rw [LifecycleCommand.run, LifecycleCommand.map_prodMap_eq_ok] at h <;>
    obtain ⟨answer, h, rfl⟩ := h
  case startEffect input => exact leftBy_startEffect hstep h
  case recordPending input =>
    simp only [recordPending, bind_eq_ok] at h
    obtain ⟨⟨⟩, hvalid, h⟩ := h
    exact leftBy_of_transition hvalid (fun _ => rfl) (fun _ _ _ => trivial) (fun _ => rfl) hstep h
  case requireAttention input reason =>
    simp only [requireAttention, bind_eq_ok] at h
    obtain ⟨⟨⟩, hvalid, h⟩ := h
    exact leftBy_of_transition hvalid (fun _ => rfl) (fun _ _ _ => trivial) (fun _ => rfl) hstep h
  case acceptPayment input =>
    exact leftBy_acceptPayment (postingsJournaled_of_reachable hreach) hstep h
  case releasePreDispatch input =>
    simp only [release, bind_eq_ok] at h
    obtain ⟨⟨⟩, hvalid, h⟩ := h
    exact leftBy_of_transition hvalid (fun _ => rfl) (fun _ _ _ => trivial) (fun _ => rfl) hstep h
  case releaseAfterFailure input => exact leftBy_releaseAfterFailure hstep h

/-! ### The lifecycle of an answer -/

section Run

variable {result : LifecycleResult}

theorem run_startEffect {input : StartEffectInput} (h : startEffect db input = .ok (result, db')) :
    LifecycleCommand.run db (.startEffect input) = .ok (.ofLifecycle result, db') := by
  rw [LifecycleCommand.run, h]
  rfl

theorem run_recordPending {input : EventInput} (h : recordPending db input = .ok (result, db')) :
    LifecycleCommand.run db (.recordPending input) = .ok (.ofLifecycle result, db') := by
  rw [LifecycleCommand.run, h]
  rfl

theorem run_requireAttention {input : EventInput} {reason : CashuOperatorAttentionReason}
    (h : requireAttention db input reason = .ok (result, db')) :
    LifecycleCommand.run db (.requireAttention input reason) = .ok (.ofLifecycle result, db') := by
  rw [LifecycleCommand.run, h]
  rfl

theorem run_acceptPayment {input : AcceptPaymentInput} {accepted : AcceptPaymentResult}
    (h : acceptPayment db input = .ok (accepted, db')) :
    LifecycleCommand.run db (.acceptPayment input) = .ok (.ofAcceptance accepted, db') := by
  rw [LifecycleCommand.run, h]
  rfl

theorem run_releaseAfterFailure {input : AfterFailureReleaseInput}
    (h : release db (.afterFailure input) = .ok (result, db')) :
    LifecycleCommand.run db (.releaseAfterFailure input) = .ok (.ofLifecycle result, db') := by
  rw [LifecycleCommand.run, h]
  rfl

end Run

/-- The lifecycle is the one that is read of the payment. -/
def LifecycleLoaded (db : Db) (paymentId : PaymentId) (lifecycle : CashuProofReservationLifecycle) :
    Prop :=
  ∃ scope : ReservationScope, scope.paymentId = paymentId ∧ loadLifecycle db scope = .ok lifecycle

theorem loaded_of_replayEvent {draft : EventDraft} {effect : Option CashuOperatorEffect}
    {result : LifecycleResult} (h : replayEvent db draft effect = .ok (some result)) :
    LifecycleLoaded db draft.paymentId result.lifecycle := by
  simp only [replayEvent] at h
  split at h
  · cases h
  · simp only [bind_eq_ok, ensure_eq_ok, exists_unit, pure_eq_ok, Except.ok.injEq,
      Option.some.injEq] at h
    obtain ⟨-, scope, hscope, lifecycle, hload, -, -, rfl⟩ := h
    exact ⟨scope, paymentId_of_loadReservation (requireReservation_ok hscope), hload⟩

theorem loaded_of_transaction {s s' : Session} {draft : EventDraft} {result : LifecycleResult}
    (hpayment : scope.paymentId = draft.paymentId)
    (h : persistTransitionInTransaction s scope draft = .ok (result, s')) :
    LifecycleLoaded s'.db draft.paymentId result.lifecycle := by
  rcases persistTransitionInTransaction_ok hpayment h with ⟨rfl, hreplay⟩ |
    ⟨current, sequence, events, -, -, -, -, -, hafter, -⟩
  · exact loaded_of_replayEvent hreplay
  · exact ⟨scope, hpayment, hafter⟩

theorem loaded_of_persistTransition {draft : EventDraft} {result : LifecycleResult}
    (h : persistTransition db draft = .ok (result, db')) :
    LifecycleLoaded db' draft.paymentId result.lifecycle := by
  simp only [persistTransition, bind_eq_ok, commitLifecycle, lifecycleStatement_eq_ok, pure_eq_ok,
    Except.ok.injEq, Prod.mk.injEq, Session.commit_eq_ok] at h
  obtain ⟨scope, hscope, ⟨_, s⟩, htransition, _, ⟨-, rfl⟩, rfl, rfl⟩ := h
  exact loaded_of_transaction (paymentId_of_loadReservation (requireReservation_ok hscope)) htransition

/-- A command that commits answers the lifecycle that is read after it. -/
theorem loaded_of_run {command : LifecycleCommand} {result : CommandResult}
    (h : command.run db = .ok (result, db')) :
    LifecycleLoaded db' command.paymentId result.lifecycle := by
  cases command <;> rw [LifecycleCommand.run, LifecycleCommand.map_prodMap_eq_ok] at h <;>
    obtain ⟨answer, h, rfl⟩ := h
  case startEffect input =>
    obtain ⟨-, scope, hloaded, ⟨rfl, hreplay⟩ | ⟨_, _, _, _, -, -, -, -, -, -, -, hafter⟩⟩ :=
      startEffect_ok h
    · exact loaded_of_replayEvent hreplay
    · exact ⟨scope, paymentId_of_loadReservation hloaded, hafter⟩
  case recordPending input =>
    simp only [recordPending, bind_eq_ok] at h
    obtain ⟨⟨⟩, -, h⟩ := h
    exact loaded_of_persistTransition h
  case requireAttention input reason =>
    simp only [requireAttention, bind_eq_ok] at h
    obtain ⟨⟨⟩, -, h⟩ := h
    exact loaded_of_persistTransition h
  case acceptPayment input =>
    obtain ⟨-, scope, effect, fingerprint, hloaded, -, -,
      ⟨rfl, ⟨replay, hreplay, hsame⟩, -, -⟩ | ⟨s₁, transition, s₂, -, -, htransition, hsame, hcommit⟩⟩ :=
      acceptPayment_ok h
    · have hread := loaded_of_replayEvent hreplay
      rw [hsame] at hread
      exact hread
    · obtain ⟨-, rfl⟩ := Session.commit_eq_ok.mp hcommit
      have hread := loaded_of_transaction (paymentId_of_loadReservation hloaded) htransition
      rw [hsame] at hread
      exact hread
  case releasePreDispatch input =>
    simp only [release, bind_eq_ok] at h
    obtain ⟨⟨⟩, -, h⟩ := h
    exact loaded_of_persistTransition h
  case releaseAfterFailure input =>
    simp only [release, bind_eq_ok, commitLifecycle, lifecycleStatement_eq_ok, pure_eq_ok,
      Except.ok.injEq, Prod.mk.injEq, Session.commit_eq_ok] at h
    obtain ⟨⟨⟩, -, scope, hscope, draft, hdraft, ⟨_, s⟩, htransition, _, ⟨-, rfl⟩, rfl, rfl⟩ := h
    have hscoped : scope.paymentId = input.paymentId :=
      paymentId_of_loadReservation (requireReservation_ok hscope)
    obtain ⟨_, fingerprint, -, -, -, rfl⟩ := afterFailureDraft_ok hdraft
    exact loaded_of_transaction hscoped htransition

/-! ### What is left of a command stays -/

section Keep

variable {paymentId : PaymentId} {effect : CashuOperatorEffect} {state : LifecycleEventState}
  (hquotes : QuotesSound db) (hchange : Change db db')
  (hstate : db.latestState scope.paymentId = some state)
  (hterminal : state.toReservationState.Terminal)

include hquotes hchange hstate hterminal

theorem assertMeltPaidEvidence_of_terminal {evidenceAt : UnixTimestamp}
    (h : assertMeltPaidEvidence db scope effect evidenceAt = .ok ()) :
    assertMeltPaidEvidence db' scope effect evidenceAt = .ok () := by
  simp only [assertMeltPaidEvidence, bind_eq_ok, orFail_eq_ok] at h ⊢
  obtain ⟨_, hloaded, evidence, rfl, h⟩ := h
  exact ⟨_, loadMeltQuotedEvidence_of_terminal hloaded hquotes hchange hstate hterminal, evidence,
    rfl, h⟩

theorem assertLatestMeltReleaseEvidence_of_terminal {evidenceAt observedAt : UnixTimestamp}
    {fingerprint : ProofStateFingerprint} {invoiceState : StoredInvoiceState}
    {paidAt : Option UnixTimestamp}
    (hreserved : loadReservation db paymentId = .ok (some (scope.later invoiceState paidAt)))
    (h : assertLatestMeltReleaseEvidence db scope effect evidenceAt observedAt fingerprint = .ok ()) :
    assertLatestMeltReleaseEvidence db' scope effect evidenceAt observedAt fingerprint = .ok () := by
  have hsnapshots := (evidence_of_terminal hchange hstate hterminal).2
  have hlatest : db'.latestProofState scope.paymentId = db.latestProofState scope.paymentId := by
    rw [Db.latestProofState, Db.latestProofState, hsnapshots]
  simp only [assertLatestMeltReleaseEvidence, bind_eq_ok, hlatest] at h ⊢
  obtain ⟨loaded, hloaded, route, hroute, evidence, hevidence, h⟩ := h
  obtain rfl : loaded = some evidence := orFail_eq_ok.mp hevidence
  have hlater : requireSettlementRoute db (scope.later invoiceState paidAt) = .ok route := hroute
  have hkept := requireSettlementRoute_of_change hlater hreserved hchange
  exact ⟨_, loadMeltQuotedEvidence_of_terminal hloaded hquotes hchange hstate hterminal, route, hkept,
    evidence, rfl, h⟩

end Keep

theorem Recorded.paymentId_eq {command : LifecycleCommand} {fingerprint : ProofStateFingerprint}
    (h : Recorded db command scope fingerprint) : scope.paymentId = command.paymentId := by
  obtain ⟨invoiceState, paidAt, hloaded⟩ := h.loaded
  have hlater : (scope.later invoiceState paidAt).paymentId = command.paymentId :=
    paymentId_of_loadReservation hloaded
  exact hlater

/-- Nothing that happens later takes away what a command has left. -/
theorem Recorded.keep {command : LifecycleCommand} {fingerprint : ProofStateFingerprint}
    (h : Recorded db command scope fingerprint) (hquotes : QuotesSound db)
    (hdecisions : DecisionsSound db) (hchange : Change db db') :
    Recorded db' command scope fingerprint := by
  have hscoped := h.paymentId_eq
  obtain ⟨hvalid, ⟨invoiceState, paidAt, hloaded⟩, ⟨sequence, hrow⟩, hevidence⟩ := h
  have hlatest (hterminal : (command.draft fingerprint).state.toReservationState.Terminal) :
      db.latestState scope.paymentId = some (command.draft fingerprint).state := by
    rw [hscoped, ← command.draft_paymentId fingerprint]
    exact hdecisions.latestState hrow hterminal
  have hlater := loadReservation_of_change hloaded hchange
  refine ⟨hvalid, hlater, ⟨sequence, event_of_change hchange hrow⟩, ?_⟩
  cases command with
  | startEffect input => exact hevidence.keep hchange
  | recordPending input => trivial
  | requireAttention input reason => trivial
  | releasePreDispatch input => trivial
  | acceptPayment input =>
      obtain ⟨htime, ⟨effect, hstored, hpaid⟩, journal, accounting, at', hjournal, hmapped, hmatches⟩ :=
        hevidence
      have hterminal : (LifecycleEventState.consumed).toReservationState.Terminal := .inl rfl
      have hkept := assertMeltPaidEvidence_of_terminal hquotes hchange (hlatest hterminal) hterminal
        hpaid
      have hmappedKept := mapAcceptedPayment_of_change hchange hloaded (Table.find_some hjournal).1
        hmapped
      exact ⟨htime, ⟨effect, hstored.keep hchange, hkept⟩, journal, accounting, at',
        journalOf_of_change hchange hjournal, hmappedKept, hmatches⟩
  | releaseAfterFailure input =>
      obtain ⟨htime, hlatestEvidence⟩ := hevidence
      refine ⟨htime, fun hmelt => ?_⟩
      obtain ⟨effect, hstored, hlast⟩ := hlatestEvidence hmelt
      have hterminal : (LifecycleEventState.released).toReservationState.Terminal := .inr rfl
      exact ⟨effect, hstored.keep hchange, assertLatestMeltReleaseEvidence_of_terminal hquotes hchange
        (hlatest hterminal) hterminal hloaded hlast⟩

theorem Recorded.keep_run {command : LifecycleCommand} {fingerprint : ProofStateFingerprint}
    (h : Recorded db command scope fingerprint) (hreach : Reachable db) (hrun : Run db db') :
    Recorded db' command scope fingerprint := by
  induction hrun with
  | refl => exact h
  | tail hbefore hstep ih =>
      have hreach' := hreach.trans hbefore
      rcases step_cases hstep with rfl | hchange
      · exact ih
      · exact ih.keep (quotesSound_of_reachable hreach') (decisionsSound_of_reachable hreach') hchange

/-- The accounting that is stored for a command is not replaced. -/
theorem Recorded.accounting_of_run {command : LifecycleCommand} {fingerprint : ProofStateFingerprint}
    (h : Recorded db command scope fingerprint) (hrun : Run db db') :
    command.accounting db' = command.accounting db := by
  have hscoped := h.paymentId_eq
  cases command with
  | acceptPayment input =>
      obtain ⟨-, -, journal, -, -, hjournal, -⟩ := h.evidence
      rw [hscoped, LifecycleCommand.paymentId] at hjournal
      have hlater : db'.journalOf input.paymentId = some journal :=
        run_of_change (p := fun db => db.journalOf input.paymentId = some journal)
          (fun _ _ hbefore hchange => journalOf_of_change hchange hbefore) hrun hjournal
      rw [LifecycleCommand.accounting, LifecycleCommand.accounting, hjournal, hlater]
  | startEffect input => rfl
  | recordPending input => rfl
  | requireAttention input reason => rfl
  | releasePreDispatch input => rfl
  | releaseAfterFailure input => rfl

/-! ### One event, one content -/

/-- The commands that have left one event are the same command. -/
theorem Recorded.eq_of_eventId {command other : LifecycleCommand} {scope' : ReservationScope}
    {fingerprint fingerprint' : ProofStateFingerprint} (h : Recorded db command scope fingerprint)
    (h' : Recorded db other scope' fingerprint') (hsame : other.eventId = command.eventId) :
    other = command := by
  have hscoped := h.paymentId_eq
  have hscoped' := h'.paymentId_eq
  obtain ⟨-, -, ⟨sequence, hrow⟩, hevidence⟩ := h
  obtain ⟨-, -, ⟨sequence', hrow'⟩, hevidence'⟩ := h'
  have hrows : eventRow (other.draft fingerprint') sequence' =
      eventRow (command.draft fingerprint) sequence := by
    apply Table.eq_of_collide hrow' hrow
    left
    show (other.draft fingerprint').eventId = (command.draft fingerprint).eventId
    rw [other.draft_eventId, command.draft_eventId, hsame]
  have hdraft : other.draft fingerprint' = command.draft fingerprint :=
    congrArg LifecycleEventRow.draft hrows
  have hpayment : scope'.paymentId = scope.paymentId := by
    rw [hscoped, hscoped', ← other.draft_paymentId fingerprint', hdraft, command.draft_paymentId]
  cases command <;> cases other <;>
    simp only [LifecycleCommand.draft, LifecycleCommand.progressDraft, StartEffectInput.draft,
      AcceptPaymentInput.draft, PreDispatchReleaseInput.draft, AfterFailureReleaseInput.draft,
      EventDraft.mk.injEq, Option.some.injEq, EvidenceKind.attention.injEq,
      EvidenceKind.failure.injEq, reduceCtorEq, false_and, and_false, true_and, and_true] at hdraft
  case startEffect.startEffect input input' =>
    have heffect : input'.effect = input.effect := StoredEffect.unique hevidence' hevidence hpayment
    obtain ⟨dispatchFingerprint, effectId, eventId, paymentId, startedAt, terms⟩ := input
    obtain ⟨dispatchFingerprint', effectId', eventId', paymentId', startedAt', terms'⟩ := input'
    simp only [StartEffectInput.effect, CashuOperatorEffect.mk.injEq] at heffect hdraft
    obtain ⟨rfl, rfl, rfl, rfl⟩ := heffect
    obtain ⟨-, rfl, rfl, -⟩ := hdraft
    rfl
  case recordPending.recordPending input input' =>
    obtain ⟨effectId, eventId, evidenceAt, paymentId, recordedAt⟩ := input
    obtain ⟨rfl, rfl, rfl, rfl, rfl⟩ := hdraft
    rfl
  case requireAttention.requireAttention input reason input' reason' =>
    obtain ⟨effectId, eventId, evidenceAt, paymentId, recordedAt⟩ := input
    obtain ⟨rfl, rfl, rfl, rfl, rfl, rfl⟩ := hdraft
    rfl
  case acceptPayment.acceptPayment input input' =>
    obtain ⟨htime, -, journal, accounting, paidAt, hjournal, hmapped, hmatches⟩ := hevidence
    obtain ⟨htime', -, journal', accounting', paidAt', hjournal', hmapped', hmatches'⟩ := hevidence'
    rw [hpayment, hjournal] at hjournal'
    obtain rfl : journal = journal' := Option.some.inj hjournal'
    have hhashed := (mapAcceptedPayment_ok hmapped).2.2.2.2
    have hhashed' := (mapAcceptedPayment_ok hmapped').2.2.2.2
    have haccounting : accounting' = accounting :=
      congrArg AccountingFingerprint.accounting (hhashed'.symm.trans hhashed)
    have hfee : input'.feeAmount = input.feeAmount := by
      obtain ⟨-, -, -, -, -, -, -, hfee, -⟩ := hmatches
      obtain ⟨-, -, -, -, -, -, -, hfee', -⟩ := hmatches'
      rw [← hfee, ← hfee', haccounting]
    obtain ⟨heffectId, heventId, hevidenceAt, hjournalEntryId, hpaymentId, rfl, hrecordedAt⟩ := hdraft
    have hobserved : input'.proofStateObservedAt = input.proofStateObservedAt :=
      htime'.symm.trans htime
    obtain ⟨⟨effectId, eventId, evidenceAt, paymentId, recordedAt⟩, fee, entry, observedAt⟩ := input
    obtain ⟨⟨effectId', eventId', evidenceAt', paymentId', recordedAt'⟩, fee', entry', observedAt'⟩ :=
      input'
    simp_all only
  case releasePreDispatch.releasePreDispatch input input' =>
    obtain ⟨eventId, paymentId, recordedAt⟩ := input
    obtain ⟨rfl, rfl, rfl⟩ := hdraft
    rfl
  case releaseAfterFailure.releaseAfterFailure input input' =>
    obtain ⟨heffectId, heventId, hevidenceAt, hkind, hpaymentId, rfl, hrecordedAt⟩ := hdraft
    have hobserved : input'.proofStateObservedAt = input.proofStateObservedAt :=
      hevidence'.1.symm.trans hevidence.1
    obtain ⟨⟨effectId, eventId, evidenceAt, paymentId, recordedAt⟩, kind, observedAt⟩ := input
    obtain ⟨⟨effectId', eventId', evidenceAt', paymentId', recordedAt'⟩, kind', observedAt'⟩ := input'
    simp_all only

/-! ### Sending a command again -/

section Stored

variable {draft : EventDraft} {sequence : Nat}
  (hstored : eventRow draft sequence ∈ db.cashuProofReservationEvents)
  (hpayment : scope.paymentId = draft.paymentId) (hload : loadLifecycle db scope = .ok lifecycle)

include hstored hpayment hload

theorem assertEffectEvidence_of_stored {effectId : CashuOperatorEffectId} {kind : EvidenceKind}
    {evidenceAt : UnixTimestamp} (heffectId : draft.effectId = some effectId)
    (hkind : draft.evidenceKind = some kind) (hevidenceAt : draft.evidenceAt = some evidenceAt)
    (hdispatched : kind ≠ .preDispatch)
    (hpaid : kind = .meltPaid → ∀ effect, lifecycle.effect = some effect →
      assertMeltPaidEvidence db scope effect evidenceAt = .ok ()) :
    ∃ effect, lifecycle.effect = some effect ∧ EvidenceMatchesEffect (some kind) effect.kind ∧
      assertEffectEvidence db scope effectId kind evidenceAt draft.recordedAt = .ok effect := by
  obtain ⟨event, -, hmaps⟩ := event_of_loadLifecycle hload hstored hpayment.symm
  obtain ⟨hevent, hrowEffect, -, hbefore, hfits, -⟩ := mapEvent_ok hmaps
  obtain ⟨-, -, heventKind, heventAt⟩ := createPublicEvent_some hevent
  rw [show (eventRow draft sequence).draft.evidenceKind = some kind from hkind] at heventKind
  rw [show (eventRow draft sequence).draft.evidenceAt = some evidenceAt from hevidenceAt] at heventAt
  have hnotPre : event.evidenceKind ≠ some .preDispatch := by
    rw [heventKind]
    exact fun hsame => hdispatched (Option.some.inj hsame)
  obtain ⟨effect, heffect, -, hmatches, htimes⟩ := hfits.2 hnotPre
  obtain ⟨hstarted, hexpired⟩ := htimes evidenceAt (by rw [heventAt]; rfl)
  rw [heventKind] at hmatches hexpired
  have hidentity : effect.effectId = effectId := by
    rw [show (eventRow draft sequence).effectId = some effectId from heffectId, heffect] at hrowEffect
    exact (Option.some.inj hrowEffect).symm
  have hrecorded : evidenceAt ≤ draft.recordedAt := hbefore evidenceAt hevidenceAt
  refine ⟨effect, heffect, hmatches, ?_⟩
  simp only [assertEffectEvidence, bind_eq_ok, orFail_eq_ok, ensure_eq_ok, exists_unit]
  refine ⟨lifecycle, hload, effect, heffect, ⟨hidentity, hmatches, hexpired, hstarted, hrecorded⟩, ?_⟩
  split
  · case isTrue hmelt =>
    subst hmelt
    simp only [bind_eq_ok, ensure_eq_ok, exists_unit, pure_eq_ok, and_true]
    exact ⟨hmatches, hpaid rfl effect heffect⟩
  · rfl

theorem resolveProofStateEvidence_of_stored {fingerprint : ProofStateFingerprint}
    (hcited : draft.proofStateSnapshotFingerprint = some fingerprint) :
    resolveProofStateEvidence db scope fingerprint.observedAt draft.state.requiredProofState =
      .ok fingerprint := by
  obtain ⟨event, -, hmaps⟩ := event_of_loadLifecycle hload hstored hpayment.symm
  obtain ⟨-, -, -, -, -, hsnapshot⟩ := mapEvent_ok hmaps
  obtain ⟨observedAt, hvalid⟩ := hsnapshot fingerprint hcited
  exact resolveProofStateEvidence_of hvalid

end Stored

/-- A transition whose event is stored is replayed. -/
theorem persistTransitionInTransaction_of_stored {draft : EventDraft} {sequence : Nat}
    (hstored : eventRow draft sequence ∈ db.cashuProofReservationEvents)
    (hloaded : loadReservation db draft.paymentId = .ok (some scope))
    (hload : loadLifecycle db scope = .ok lifecycle) :
    persistTransitionInTransaction ⟨db, []⟩ scope draft = .ok (⟨lifecycle, true⟩, ⟨db, []⟩) := by
  simp only [persistTransitionInTransaction, bind_eq_ok]
  exact ⟨_, replayEvent_of_stored hstored hloaded hload (by simp), rfl⟩

theorem persistTransition_of_stored {draft : EventDraft} {sequence : Nat}
    (hstored : eventRow draft sequence ∈ db.cashuProofReservationEvents)
    (hloaded : loadReservation db draft.paymentId = .ok (some scope))
    (hload : loadLifecycle db scope = .ok lifecycle) :
    persistTransition db draft = .ok (⟨lifecycle, true⟩, db) := by
  simp only [persistTransition, bind_eq_ok, commitLifecycle, lifecycleStatement_eq_ok, pure_eq_ok,
    Except.ok.injEq, Prod.mk.injEq, Session.commit_eq_ok]
  refine ⟨scope, requireReservation_of hloaded, _,
    persistTransitionInTransaction_of_stored hstored hloaded hload, db, ⟨?_, rfl⟩, rfl, rfl⟩
  intro check hcheck
  cases hcheck

theorem paid_of_journal (haccounting : AccountingSound db) {paymentId : PaymentId}
    {journal : PaymentJournalRow} (hloaded : loadReservation db paymentId = .ok (some scope))
    (hjournal : db.journalOf paymentId = some journal) :
    scope.invoiceState = .paid ∧ scope.paidAt = some journal.acceptedAt := by
  obtain ⟨reservation, invoice, hreservation, hinvoice, rfl, -⟩ := loadReservation_ok hloaded
  obtain ⟨hreservationMem, hreservationPayment⟩ := Table.find_some hreservation
  obtain ⟨hjournalMem, hjournalPayment⟩ := Table.find_some hjournal
  have hsound := haccounting.journals journal hjournalMem
  obtain ⟨other, hother, hotherPayment, hotherInvoice⟩ := hsound.reserved
  obtain rfl : other = reservation := Table.eq_of_collide hother hreservationMem
    (.inl (hotherPayment.trans (hjournalPayment.trans hreservationPayment.symm)))
  obtain ⟨found, hfound, hpaid, hpaidAt, -⟩ := hsound.invoice
  rw [← hotherInvoice, hinvoice] at hfound
  cases hfound
  exact ⟨hpaid, hpaidAt⟩

/-- A recorded command is replayed in every state in which its payment loads. -/
theorem Recorded.replay {command : LifecycleCommand} {fingerprint : ProofStateFingerprint}
    (h : Recorded db command scope fingerprint) (haccounting : AccountingSound db)
    (hreadable : Readable db command.paymentId) :
    ∃ result, command.run db = .ok (result, db) ∧ result.replayed = true ∧
      StoredWith db (command.draft fingerprint) result.lifecycle ∧
      result.accounting = command.accounting db := by
  have hscoped := h.paymentId_eq
  obtain ⟨hvalid, ⟨invoiceState, paidAt, hlater⟩, ⟨sequence, hrow⟩, hevidence⟩ := h
  obtain ⟨current, lifecycle, hloaded, hload⟩ := hreadable
  obtain rfl : current = scope.later invoiceState paidAt :=
    Option.some.inj (Except.ok.inj (hloaded.symm.trans hlater))
  have hdraftPayment := command.draft_paymentId fingerprint
  have hstored : StoredWith db (command.draft fingerprint) lifecycle :=
    storedWith_of_load hrow (hscoped.trans hdraftPayment.symm) hload
  have hrequired := requireReservation_of hloaded
  have heffectOf {effect : CashuOperatorEffect} (heffect : StoredEffect db scope effect) :
      lifecycle.effect = some effect :=
    heffect.of_loadLifecycle rfl hload
  cases command with
  | startEffect input =>
      have hreplay : replayEvent db input.draft (some input.effect) =
          .ok (some ⟨lifecycle, true⟩) := by
        apply replayEvent_of_stored hrow hloaded hload
        rintro _ ⟨⟩
        exact heffectOf hevidence
      refine ⟨.ofLifecycle ⟨lifecycle, true⟩, ?_, rfl, hstored, rfl⟩
      rw [LifecycleCommand.run, LifecycleCommand.map_prodMap_eq_ok]
      refine ⟨_, ?_, rfl⟩
      simp only [startEffect, bind_eq_ok]
      exact ⟨(), hvalid, _, hrequired, _, hreplay, rfl⟩
  | recordPending input =>
      refine ⟨.ofLifecycle ⟨lifecycle, true⟩, ?_, rfl, hstored, rfl⟩
      rw [LifecycleCommand.run, LifecycleCommand.map_prodMap_eq_ok]
      refine ⟨_, ?_, rfl⟩
      simp only [recordPending, bind_eq_ok]
      exact ⟨(), hvalid, persistTransition_of_stored hrow hloaded hload⟩
  | requireAttention input reason =>
      refine ⟨.ofLifecycle ⟨lifecycle, true⟩, ?_, rfl, hstored, rfl⟩
      rw [LifecycleCommand.run, LifecycleCommand.map_prodMap_eq_ok]
      refine ⟨_, ?_, rfl⟩
      simp only [requireAttention, bind_eq_ok]
      exact ⟨(), hvalid, persistTransition_of_stored hrow hloaded hload⟩
  | releasePreDispatch input =>
      refine ⟨.ofLifecycle ⟨lifecycle, true⟩, ?_, rfl, hstored, rfl⟩
      rw [LifecycleCommand.run, LifecycleCommand.map_prodMap_eq_ok]
      refine ⟨_, ?_, rfl⟩
      simp only [release, bind_eq_ok]
      exact ⟨(), hvalid, persistTransition_of_stored hrow hloaded hload⟩
  | acceptPayment input =>
      obtain ⟨htime, ⟨stored, heffect, hpaid⟩, journal, accounting, journalPaidAt, hjournal, hmapped,
        hmatches⟩ := hevidence
      have hpaidAgain : ∀ effect, lifecycle.effect = some effect →
          assertMeltPaidEvidence db (scope.later invoiceState paidAt) effect input.evidenceAt =
            .ok () := by
        intro effect hsome
        obtain rfl : stored = effect := Option.some.inj ((heffectOf heffect).symm.trans hsome)
        exact hpaid
      obtain ⟨effect, -, -, heffectAgain⟩ := assertEffectEvidence_of_stored hrow
        (hscoped.trans hdraftPayment.symm) hload rfl rfl rfl (fun hpre => by cases hpre)
        fun _ => hpaidAgain
      have hsnapshot := resolveProofStateEvidence_of_stored hrow (hscoped.trans hdraftPayment.symm)
        hload rfl
      rw [htime] at hsnapshot
      have hreplay := replayEvent_of_stored hrow hloaded hload
        (show ∀ expected ∈ none, lifecycle.effect = some expected by simp)
      obtain ⟨-, hjournalTime, -, hjournalPaidAt, hhashed⟩ := mapAcceptedPayment_ok hmapped
      have hjournalOf := hjournal
      rw [hscoped, LifecycleCommand.paymentId] at hjournalOf
      obtain ⟨hinvoicePaid, hinvoicePaidAt⟩ := paid_of_journal haccounting hloaded hjournalOf
      have hsameScope : scope.later invoiceState paidAt = scope.later .paid journalPaidAt := by
        have hpaidAtSame : paidAt = journalPaidAt := by
          rw [show paidAt = some journal.acceptedAt from hinvoicePaidAt, ← hjournalTime]
          exact hjournalPaidAt.symm
        rw [show invoiceState = .paid from hinvoicePaid, hpaidAtSame]
      have haccepted : loadAcceptedPayment db (scope.later invoiceState paidAt) =
          .ok (some accounting) := by
        rw [loadAcceptedPayment, show (scope.later invoiceState paidAt).paymentId = scope.paymentId
          from rfl, hjournal]
        simp only [bind_eq_ok, pure_eq_ok, Except.ok.injEq, Option.some.injEq, exists_eq_right]
        rw [hsameScope]
        exact hmapped
      refine ⟨.ofAcceptance ⟨accounting, lifecycle, true⟩, ?_, rfl, hstored, ?_⟩
      · rw [LifecycleCommand.run, LifecycleCommand.map_prodMap_eq_ok]
        refine ⟨_, ?_, rfl⟩
        simp only [acceptPayment, bind_eq_ok]
        refine ⟨(), hvalid, _, hrequired, effect, heffectAgain, fingerprint, hsnapshot, _, hreplay, ?_⟩
        simp only [bind_eq_ok, orFail_eq_ok, ensure_eq_ok, exists_unit]
        exact ⟨_, haccepted, accounting, rfl, hmatches, rfl⟩
      · rw [LifecycleCommand.accounting, hjournalOf, Option.map_some, hhashed]
        rfl
  | releaseAfterFailure input =>
      obtain ⟨htime, hlatest⟩ := hevidence
      obtain ⟨effect, hsome, hmatches, heffectAgain⟩ := assertEffectEvidence_of_stored hrow
        (hscoped.trans hdraftPayment.symm) hload rfl rfl rfl (fun hpre => by cases hpre)
        (fun hpaid => by cases hpaid)
      have hsnapshot := resolveProofStateEvidence_of_stored hrow (hscoped.trans hdraftPayment.symm)
        hload rfl
      rw [htime] at hsnapshot
      have hdraft : afterFailureDraft db (scope.later invoiceState paidAt) input =
          .ok (input.draft fingerprint) := by
        simp only [afterFailureDraft, bind_eq_ok]
        refine ⟨effect, heffectAgain, fingerprint, hsnapshot, ?_⟩
        split
        · case isTrue hmelt =>
          obtain ⟨stored, heffect, hlast⟩ := hlatest hmelt
          obtain rfl : stored = effect := Option.some.inj ((heffectOf heffect).symm.trans hsome)
          rw [hmelt] at hmatches
          simp only [bind_eq_ok, ensure_eq_ok, exists_unit, pure_eq_ok, and_true]
          exact ⟨hmatches, hlast⟩
        · rfl
      refine ⟨.ofLifecycle ⟨lifecycle, true⟩, ?_, rfl, hstored, rfl⟩
      rw [LifecycleCommand.run, LifecycleCommand.map_prodMap_eq_ok]
      refine ⟨_, ?_, rfl⟩
      simp only [release, bind_eq_ok, commitLifecycle, lifecycleStatement_eq_ok, pure_eq_ok,
        Except.ok.injEq, Prod.mk.injEq, Session.commit_eq_ok]
      refine ⟨(), hvalid, _, hrequired, _, hdraft, _,
        persistTransitionInTransaction_of_stored hrow hloaded hload, db, ⟨?_, rfl⟩, rfl, rfl⟩
      intro check hcheck
      cases hcheck

theorem LifecycleCommand.perform_of_error {command : LifecycleCommand} {error : LifecycleError}
    (h : command.run db = .error error) : command.operation.perform db = db := by
  have hnone : command.operation.run db = none := by
    cases hrun : command.operation.run db with
    | none => rfl
    | some db' =>
        obtain ⟨result, hok⟩ := LifecycleCommand.operation_run.mp hrun
        rw [h] at hok
        cases hok
  rw [Operation.perform, hnone]
  rfl

/-- A lifecycle command that has committed is replayed with its stored event and its accounting
whenever it is sent again while the lifecycle of its payment loads, and changes no row; its event
identity fails with any other content; and a command that fails changes no row. -/
theorem commands_replay {db₀ db₁ db : Db} (hreach : Reachable db₀) {command : LifecycleCommand}
    {result : CommandResult} (h : command.run db₀ = .ok (result, db₁)) (hrun : Run db₁ db) :
    (Readable db command.paymentId → ∃ again, command.run db = .ok (again, db) ∧
      again.replayed = true ∧ again.accounting = result.accounting ∧
      ∃ event ∈ result.lifecycle.events, event.base.eventId = command.eventId ∧
        event ∈ again.lifecycle.events) ∧
    (∀ other : LifecycleCommand, other.eventId = command.eventId → other ≠ command →
      ∃ error, other.run db = .error error) ∧
    ∀ (other : LifecycleCommand) (error : LifecycleError), other.run db = .error error →
      other.operation.perform db = db := by
  have hreach₁ : Reachable db₁ :=
    hreach.tail ⟨command.operation, LifecycleCommand.operation_run.mpr ⟨result, h⟩⟩
  have hreach' : Reachable db := hreach₁.trans hrun
  obtain ⟨scope, fingerprint, hrecorded, ⟨sequence, hrow, event, hevent, hshown⟩, haccounting⟩ :=
    leftBy_of_run hreach h
  have hkept : Recorded db command scope fingerprint := hrecorded.keep_run hreach₁ hrun
  refine ⟨?_, ?_, fun other error => LifecycleCommand.perform_of_error⟩
  · intro hreadable
    obtain ⟨again, hagain, hreplayed, ⟨sequence', hrow', event', hevent', hshown'⟩, haccountingAgain⟩ :=
      hkept.replay (accountingSound_of_reachable hreach') hreadable
    have hrowLater : eventRow (command.draft fingerprint) sequence ∈ db.cashuProofReservationEvents :=
      run_of_change (p := fun db => _ ∈ db.cashuProofReservationEvents)
        (fun _ _ hmem hchange => event_of_change hchange hmem) hrun hrow
    have hrows := Table.eq_of_collide hrow' hrowLater (.inl rfl)
    rw [hrows, hshown] at hshown'
    obtain rfl : event = event' := Option.some.inj hshown'
    refine ⟨again, hagain, hreplayed, ?_, event, hevent, ?_, hevent'⟩
    · rw [haccountingAgain, haccounting, hrecorded.accounting_of_run hrun]
    · rw [(createPublicEvent_some hshown).2.1]
      exact command.draft_eventId fingerprint
  · intro other hsame hother
    cases hcommitted : other.run db with
    | error error => exact ⟨error, rfl⟩
    | ok pair =>
        obtain ⟨answer, db₂⟩ := pair
        have hstep : Step db db₂ :=
          ⟨other.operation, LifecycleCommand.operation_run.mpr ⟨answer, hcommitted⟩⟩
        obtain ⟨scope', fingerprint', hrecorded', -⟩ := leftBy_of_run hreach' hcommitted
        have hlater := hkept.keep_run hreach' (.single hstep)
        exact absurd (hlater.eq_of_eventId hrecorded' hsame) hother

namespace Sample

/-- The report that the operator holds the melt of the dispatched payment. -/
def pending : LifecycleCommand :=
  .recordPending {
    effectId := .stellarMelt coordinationKey
    eventId := .given ⟨"pending-1", by decide⟩
    evidenceAt := 1010
    paymentId
    recordedAt := 1010 }

/-- The payment that was reported pending, after it was accepted. -/
def acceptedPending : Db :=
  [observe .paid 1011, observeProof .spent 1012, acceptPayment].foldl Operation.perform
    (after [pending.operation])

end Sample

set_option maxRecDepth 10000 in
theorem commands_replay_acceptedPending :
    Sample.acceptedPending.latestState Sample.paymentId = some .consumed ∧
      (∃ again, Sample.pending.run Sample.acceptedPending = .ok (again, Sample.acceptedPending) ∧
        again.replayed = true) ∧
      ∀ other : LifecycleCommand, other.eventId = Sample.pending.eventId → other ≠ Sample.pending →
        ∃ error, other.run Sample.acceptedPending = .error error := by
  have hrun : Sample.pending.operation.run (Sample.after []) =
      some (Sample.after [Sample.pending.operation]) := by decide +kernel
  obtain ⟨result, hcommitted⟩ := LifecycleCommand.operation_run.mp hrun
  have hreadable : ∃ scope ∈ (loadReservation Sample.acceptedPending Sample.paymentId).toOption.join,
      (loadLifecycle Sample.acceptedPending scope).toOption.isSome := by decide +kernel
  have hloads : Readable Sample.acceptedPending Sample.pending.paymentId := by
    obtain ⟨scope, hscope, hlifecycle⟩ := hreadable
    have hloaded : loadReservation Sample.acceptedPending Sample.paymentId = .ok (some scope) := by
      cases hload : loadReservation Sample.acceptedPending Sample.paymentId with
      | error error =>
          rw [hload] at hscope
          cases hscope
      | ok found =>
          rw [hload] at hscope
          exact congrArg Except.ok hscope
    cases hload : loadLifecycle Sample.acceptedPending scope with
    | error error =>
        rw [hload] at hlifecycle
        cases hlifecycle
    | ok lifecycle => exact ⟨scope, lifecycle, hloaded, hload⟩
  have hlaterRun : Run (Sample.after [Sample.pending.operation]) Sample.acceptedPending :=
    run_foldl _ _
  have hlater := commands_replay (Sample.reachable_after []) hcommitted hlaterRun
  obtain ⟨again, hagain, hreplayed, -⟩ := hlater.1 hloads
  exact ⟨by decide +kernel, ⟨again, hagain, hreplayed⟩, hlater.2.1⟩

end CashMesh.Acquirer
