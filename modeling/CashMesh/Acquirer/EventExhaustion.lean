import CashMesh.Acquirer.EventAppending
/-!
# Reports that exhaust a payment

Every report of a recovery that could not reach the mint takes a number of the payment's events. After
1023 of them the table has no number left, and the release that all the evidence allows is refused.
What decides on a command that settles a payment, when all else is in order, is the number of events
that are stored.
-/

namespace CashMesh.Acquirer

open CashMesh.Lib

variable {db : Db} {draft : EventDraft} {event : CashuReservationLifecycleEvent}

/-! ### The payment before the reports -/

/-- The rows with another table of events. -/
def Db.withEvents (db : Db) (events : Table LifecycleEventRow) : Db :=
  { db with cashuProofReservationEvents := events }

theorem Db.withEvents_self (db : Db) : db = db.withEvents db.cashuProofReservationEvents :=
  rfl

namespace Sample

/-- The dispatched payment after its quote expired unpaid and its proof was left unspent. -/
@[irreducible] def expired : Db :=
  after [observe .unpaid 1511, observeProof .unspent 1512]

def meltEffect : CashuOperatorEffect where
  dispatchFingerprint := ⟨mintUrl, quoteId, bundle.inputs⟩
  effectId := .stellarMelt coordinationKey
  startedAt := 1010
  terms := .melt quoteId 1500

def recoveryKey : RecoveryKey where
  effectId := .stellarMelt coordinationKey
  mintUrl
  paymentId
  quoteId

def reservedScope : ReservationScope where
  amount := 100
  createdAt := 1000
  expiresAt := 5000
  invoiceId := invoice.id
  invoiceState := .open
  merchantId := invoice.merchantId
  paidAt := none
  mintUrl
  operatorId
  paymentId
  reservedAt := 1002
  unit := cashuStellarUnit

/-- The identity of the report of a second. -/
def reportId (n : Nat) : CashuReservationLifecycleEventId :=
  .stellarMeltRecovery (1600 + n) (.attention .transportAmbiguous) recoveryKey

/-- A recovery that could not reach the mint, `n` seconds after 1600. -/
def report (n : Nat) : EventInput where
  effectId := .stellarMelt coordinationKey
  eventId := reportId n
  evidenceAt := 1600 + n
  paymentId
  recordedAt := 1600 + n

/-- The payment after a number of reports. -/
def reported (n : Nat) : Db :=
  ((List.range n).map fun k => Operation.requireAttention (report k) .transportAmbiguous).foldl
    Operation.perform expired

/-- The release that comes after the reports. -/
def lateRelease : AfterFailureReleaseInput where
  effectId := .stellarMelt coordinationKey
  eventId := .stellarMeltRecoveryReleased recoveryKey
  evidenceAt := 1511
  paymentId
  recordedAt := 3000
  evidenceKind := .meltUnpaidAfterExpiry
  proofStateObservedAt := 1512

def unspentFingerprint : ProofStateFingerprint where
  mintUrl
  observedAt := 1512
  operatorId
  paymentId
  states := [⟨.unspent, proofY⟩]
  unit := cashuStellarUnit

/-- The event of the dispatch. -/
def dispatchRow : LifecycleEventRow :=
  eventRow {
    effectId := some (.stellarMelt coordinationKey)
    eventId := .stellarMeltStart coordinationKey
    evidenceAt := none
    evidenceKind := none
    journalEntryId := none
    paymentId
    proofStateSnapshotFingerprint := none
    recordedAt := 1010
    state := .dispatchStarted } 0

def lateDraft : EventDraft :=
  lateRelease.draft unspentFingerprint

set_option maxRecDepth 10000 in
theorem expired_rows :
    expired.cashuProofReservationEvents.rows = [dispatchRow] ∧
      (expired.reservation paymentId).map (·.reservedAt) = some 1002 ∧
      expired.effect (.stellarMelt coordinationKey) paymentId =
        some (effectRow reservedScope meltEffect) ∧
      (expired.activeProofCount paymentId = (expired.reservedProofsOf paymentId).length ∧
        (expired.invoiceClaimsOf paymentId).length = 1 ∧ expired.effectsOf paymentId ≠ []) ∧
      ∃ observation ∈ expired.proofStateObservation unspentFingerprint paymentId,
        ValidSnapshotEvent expired (eventRow lateDraft 0) observation := by
  decide +kernel

set_option maxRecDepth 10000 in
theorem expired_reads :
    (requireReservation expired paymentId).toOption = some reservedScope ∧
      (loadLifecycle expired reservedScope).toOption = some {
        effect := some meltEffect
        events := [.dispatchStarted ⟨.stellarMeltStart coordinationKey, 1010, 0⟩]
        paymentId
        state := .dispatchStarted } ∧
      (resolveProofStateEvidence expired reservedScope 1512 .unspent).toOption =
        some unspentFingerprint ∧
      (assertLatestMeltReleaseEvidence expired reservedScope meltEffect 1511 1512
        unspentFingerprint).toOption = some () ∧
      (assertCitedSnapshotOrdered expired reservedScope lateDraft).toOption = some () ∧
      (validateProofStateEvidenceByFingerprint expired reservedScope unspentFingerprint .unspent
        false).toOption = some 1512 ∧
      (validateLatestMeltReleaseEvidence ⟨expired, []⟩ (eventRow lateDraft 0)).toOption =
        some () := by
  decide +kernel

theorem expired_scope : requireReservation expired paymentId = .ok reservedScope :=
  eq_ok_of_toOption expired_reads.1

/-- What is left of the dispatched payment after a number of reports. -/
structure Reported (n : Nat) (db : Db) : Prop where
  tables : db = expired.withEvents db.cashuProofReservationEvents
  known : ∀ old ∈ db.cashuProofReservationEvents, old.sequence ≤ n ∧
    old.eventFingerprint.draft.eventId = old.eventId ∧
    (old.eventId = .stellarMeltStart coordinationKey ∨ ∃ k < n, old.eventId = reportId k)
  latest : ∃ last, db.latestEvent paymentId = some last ∧ last.sequence = n ∧
    last.recordedAt ≤ 1600 + n ∧ ¬last.state.toReservationState.Terminal ∧
    last.effectId = some (.stellarMelt coordinationKey)
  loaded : ∃ current, loadLifecycle db reservedScope = .ok current ∧
    current.effect = some meltEffect ∧ current.events.length = n + 1 ∧ current.state.Active ∧
    ∃ last, current.events.getLast? = some last ∧ last.base.recordedAt ≤ 1600 + n

theorem reported_zero : Reported 0 expired where
  tables := expired.withEvents_self
  known old hold := by
    rw [Table.mem_def, expired_rows.1, List.mem_singleton] at hold
    rw [hold]
    exact ⟨Nat.le_refl 0, rfl, .inl rfl⟩
  latest := by
    have hlatest : expired.latestEvent paymentId = some dispatchRow := by
      rw [Db.latestEvent, Table.select, expired_rows.1]
      decide
    exact ⟨dispatchRow, hlatest, by decide, by decide, by decide, by decide⟩
  loaded := by
    refine ⟨_, eq_ok_of_toOption expired_reads.2.1, ?_⟩
    exact ⟨rfl, by decide, .inl (by decide), _, List.getLast?_singleton, by decide⟩

variable {n : Nat}

/-- What a draft needs for its event to come after the reports. -/
structure Follows (n : Nat) (draft : EventDraft) (event : CashuReservationLifecycleEvent) :
    Prop where
  payment : draft.paymentId = paymentId
  effect : draft.effectId = some (.stellarMelt coordinationKey)
  later : 1600 + n ≤ draft.recordedAt
  start : draft.eventId ≠ .stellarMeltStart coordinationKey
  reports : ∀ k < n, draft.eventId ≠ reportId k
  notDispatch : draft.state ≠ .dispatchStarted
  notConsumed : draft.state ≠ .consumed
  notPreDispatch : draft.evidenceKind ≠ some .preDispatch
  evidence : ∃ evidenceAt, draft.evidenceAt = some evidenceAt ∧ 1010 ≤ evidenceAt ∧
    evidenceAt ≤ draft.recordedAt ∧
    EvidenceTimeMatchesEffect draft.evidenceKind evidenceAt meltEffect
  kind : EvidenceMatchesEffect draft.evidenceKind .melt
  fits : EvidenceFitsEffect (eventRow draft (n + 1)) (effectRow reservedScope meltEffect)
  cited : assertCitedSnapshotOrdered expired reservedScope draft = .ok ()
  snapshot : ∀ fingerprint ∈ draft.proofStateSnapshotFingerprint,
    ∃ observation ∈ expired.proofStateObservation fingerprint paymentId,
      ValidSnapshotEvent expired (eventRow draft (n + 1)) observation
  releaseEvidence :
    validateLatestMeltReleaseEvidence ⟨expired, []⟩ (eventRow draft (n + 1)) = .ok ()
  checks : (eventRow draft (n + 1)).UnboundedChecks
  mapped : mapEvent expired (eventRow draft (n + 1)) reservedScope (some meltEffect) = .ok event

/-- A later event of the melt can be inserted after the reports. -/
theorem Follows.insertable (hdraft : Follows n draft event) (h : Reported n db) :
    EventInsertable db (eventRow draft (n + 1)) where
  fresh old hold := by
    obtain ⟨hsequence, hfingerprint, hid⟩ := h.known old hold
    have hne : old.eventId ≠ draft.eventId := by
      rcases hid with hid | ⟨k, hk, hid⟩
      · rw [hid]
        exact hdraft.start.symm
      · rw [hid]
        exact (hdraft.reports k hk).symm
    rintro (hsame | hsame | ⟨-, hsame⟩)
    · exact hne hsame
    · rw [hsame] at hfingerprint
      exact hne hfingerprint.symm
    · rw [hsame] at hsequence
      exact absurd hsequence (Nat.not_succ_le_self n)
  releaseEvidence := by
    rw [h.tables]
    exact hdraft.releaseEvidence
  valid := by
    have hstarted : 1010 ≤ draft.recordedAt :=
      Nat.le_trans (Nat.le_trans (by decide) (Nat.le_add_right 1600 n)) hdraft.later
    obtain ⟨reservation, hreservation, htime⟩ := Option.map_eq_some_iff.mp expired_rows.2.1
    obtain ⟨last, hlast, hsequence, hrecorded, hactive, hlastEffect⟩ := h.latest
    refine ⟨reservation, ?_, ?_, ?_, ?_, ?_, ?_⟩
    · rw [h.tables]
      show expired.reservation draft.paymentId = some reservation
      rw [hdraft.payment, hreservation]
    · show reservation.reservedAt ≤ draft.recordedAt
      rw [htime]
      exact hstarted.trans' (by decide)
    · intro previous hprevious
      change db.latestEvent draft.paymentId = some previous at hprevious
      rw [hdraft.payment, hlast, Option.some_inj] at hprevious
      rw [← hprevious]
      exact ⟨by rw [hsequence]; rfl, hrecorded.trans hdraft.later, hactive, hdraft.notDispatch,
        hdraft.effect.trans hlastEffect.symm⟩
    · intro hnone
      change db.latestEvent draft.paymentId = none at hnone
      rw [hdraft.payment, hlast] at hnone
      cases hnone
    · intro effectId heffectId
      change draft.effectId = some effectId at heffectId
      rw [hdraft.effect, Option.some_inj] at heffectId
      refine ⟨effectRow reservedScope meltEffect, ?_, hstarted, ?_, ?_, hdraft.fits⟩
      · rw [h.tables]
        show expired.effect effectId draft.paymentId = _
        rw [hdraft.payment, ← heffectId, expired_rows.2.2.1]
      · intro evidenceAt hevidenceAt
        obtain ⟨time, htime, hafter, -⟩ := hdraft.evidence
        change draft.evidenceAt = some evidenceAt at hevidenceAt
        rw [htime, Option.some_inj] at hevidenceAt
        exact hevidenceAt ▸ hafter
      · intro hstate
        exact absurd hstate hdraft.notDispatch
    · intro fingerprint hfingerprint
      obtain ⟨observation, hobservation, hvalid⟩ := hdraft.snapshot fingerprint hfingerprint
      rw [h.tables]
      refine ⟨observation, ?_, hvalid.afterEvidence, hvalid.beforeRecord, hvalid.entries,
        hvalid.uniform⟩
      show expired.proofStateObservation fingerprint draft.paymentId = some observation
      rw [hdraft.payment]
      exact hobservation
  checks := hdraft.checks
  notConsumed := hdraft.notConsumed

theorem Reported.started (h : Reported n db) : db.effectsOf paymentId ≠ [] := by
  rw [h.tables]
  exact expired_rows.2.2.2.1.2.2

theorem Reported.claims (h : Reported n db) {row : LifecycleEventRow}
    (hpayment : row.paymentId = paymentId) (hnext : NextEvent db row)
    {events : Table LifecycleEventRow}
    (hevents : db.cashuProofReservationEvents.Appends [row] events) :
    ValidActiveClaims (db.afterEvent row events) row.paymentId := by
  obtain ⟨hproofs, hinvoice, -⟩ := expired_rows.2.2.2.1
  apply validActiveClaims_afterEvent hnext hevents
  · rw [h.tables, hpayment]
    exact hproofs
  · rw [hpayment, if_neg h.started, h.tables]
    exact hinvoice

theorem Follows.appendable (hdraft : Follows n draft event) (h : Reported n db) :
    ∃ current, current.events.length = n + 1 ∧
      Appendable db reservedScope current meltEffect draft event := by
  obtain ⟨current, hloaded, hstarted, hlength, hactive, last, hlast, hrecorded⟩ := h.loaded
  obtain ⟨evidenceAt, hevidenceAt, hafter, hbefore, htime⟩ := hdraft.evidence
  have hinsertable := hdraft.insertable h
  refine ⟨current, hlength, hdraft.payment.symm, hloaded, hstarted, ?_, ?_, ?_,
    hdraft.notDispatch, hdraft.notPreDispatch, ?_, ?_⟩
  · refine ⟨hdraft.effect, hactive, ?_, ⟨evidenceAt, hevidenceAt, hafter, hbefore, htime⟩,
      hdraft.kind⟩
    rw [hlast]
    exact hrecorded.trans hdraft.later
  · rw [h.tables]
    exact hdraft.cited
  · rw [hlength]
    exact hinsertable
  · rw [hlength, hstarted, h.tables]
    exact hdraft.mapped
  · rw [hlength]
    intro events hevents
    exact h.claims hdraft.payment hinsertable.nextEvent hevents

/-! ### The reports -/

/-- The draft of a report. -/
def reportDraft (n : Nat) : EventDraft where
  effectId := some (.stellarMelt coordinationKey)
  eventId := reportId n
  evidenceAt := some (1600 + n)
  evidenceKind := some (.attention .transportAmbiguous)
  journalEntryId := none
  paymentId
  proofStateSnapshotFingerprint := none
  recordedAt := 1600 + n
  state := .needsAttention

def reportEvent (n : Nat) : CashuReservationLifecycleEvent :=
  .needsAttention ⟨reportId n, 1600 + n, n + 1⟩ (1600 + n) .transportAmbiguous

theorem follows_report (hn : n < 1024) : Follows n (reportDraft n) (reportEvent n) where
  payment := rfl
  effect := rfl
  later := Nat.le_refl _
  start := by simp [reportDraft, reportId]
  reports k hk := by
    have hne : n ≠ k := (Nat.ne_of_lt hk).symm
    simp [reportDraft, reportId, hne]
  notDispatch := by simp [reportDraft]
  notConsumed := by simp [reportDraft]
  notPreDispatch := by simp [reportDraft]
  evidence := by
    refine ⟨1600 + n, rfl, Nat.le_add_right_of_le (by decide), Nat.le_refl _, ?_⟩
    simp [EvidenceTimeMatchesEffect, reportDraft]
  kind := trivial
  fits := by
    intro kind hkind
    cases hkind
    simp
  cited := rfl
  snapshot fingerprint hfingerprint := by cases hfingerprint
  releaseEvidence := by
    rw [validateLatestMeltReleaseEvidence, ensure_eq_ok]
    rintro ⟨hstate, -⟩
    cases hstate
  checks := by
    refine ⟨?_, ?_, ?_, ?_⟩
    · show 1600 + n ≤ maxSafeInteger
      rw [maxSafeInteger]
      omega
    · intro evidenceAt hevidenceAt
      cases hevidenceAt
      exact Nat.le_refl _
    · refine .inr (.inr (.inl ⟨rfl, rfl, ?_, rfl, rfl⟩))
      intro kind hkind
      cases hkind
      exact .inl rfl
    · exact .inr ⟨by simp [eventRow, reportDraft], rfl⟩
  mapped := by
    simp only [mapEvent, bind_eq_ok, ensure_eq_ok, exists_unit, orFail_eq_ok, pure_eq_ok,
      Except.ok.injEq]
    refine ⟨⟨rfl, rfl⟩, none, rfl, reportEvent n, ?_, ⟨rfl, ?_, ?_, ?_, ?_⟩, rfl⟩
    · simp [createPublicEvent, eventRow, LifecycleEventRow.draft, reportDraft, reportEvent]
    · exact Nat.le_add_right_of_le (by decide)
    · intro evidenceAt hevidenceAt
      cases hevidenceAt
      exact Nat.le_refl _
    · intro hkind
      cases hkind
    · intro _
      refine ⟨meltEffect, rfl, Nat.le_add_right_of_le (by decide), trivial, ?_⟩
      intro evidenceAt hevidenceAt
      cases hevidenceAt
      refine ⟨Nat.le_add_right_of_le (by decide), ?_⟩
      intro hkind
      cases hkind

theorem afterEvent_of_active {row : LifecycleEventRow} {events : Table LifecycleEventRow}
    (hactive : ¬row.state.toReservationState.Terminal) :
    db.afterEvent row events = db.withEvents events := by
  have hreleased : row.state ≠ .released := by
    intro hstate
    apply hactive
    rw [hstate]
    exact .inr rfl
  simp [Db.afterEvent, Db.withEvents, custodyAfter, hactive, hreleased]

/-- One more report is accepted while there is a number for it. -/
theorem Reported.step (h : Reported n db) (hn : n + 1 < 1024) :
    ∃ result db', requireAttention db (report n) .transportAmbiguous = .ok (result, db') ∧
      Reported (n + 1) db' := by
  have hdraft := follows_report (Nat.lt_of_succ_lt hn)
  obtain ⟨current, hlength, happendable⟩ := hdraft.appendable h
  obtain ⟨events, s, hevents, hpersist, hcommit, hloaded⟩ := happendable.persist
  have hnumber := length_events_of_loadLifecycle happendable.loaded
  have htransition := persistTransition_of_unbounded rfl hpersist
  rw [← hnumber, hlength, if_pos hn] at htransition
  have hvalid : validateEvidenceInput (report n) = .ok () := by
    rw [validateEvidenceInput, ensure_eq_ok]
    exact ⟨hdraft.checks.1, hdraft.checks.1⟩
  have hscope : requireReservation db paymentId = .ok reservedScope := by
    rw [h.tables]
    exact expired_scope
  refine ⟨⟨current.next (reportEvent n), false⟩,
    db.afterEvent (eventRow (reportDraft n) current.events.length) events, ?_, ?_⟩
  · rw [requireAttention, hvalid, ok_bind, persistTransition,
      show (report n).paymentId = paymentId from rfl, hscope, ok_bind]
    change (persistTransitionInTransaction ⟨db, []⟩ reservedScope (reportDraft n) >>= _) = _
    rw [htransition, ok_bind]
    simp only [hcommit, ok_bind]
    rfl
  rw [hlength] at hevents hloaded ⊢
  have hactive : ¬(eventRow (reportDraft n) (n + 1)).state.toReservationState.Terminal := by
    show ¬CashuProofReservationState.Terminal .needsAttention
    decide
  have hafter : db.afterEvent (eventRow (reportDraft n) (n + 1)) events =
      expired.withEvents events := by
    rw [afterEvent_of_active hactive, h.tables]
    rfl
  have hlatest := @latestEvent_append_self _
    (db.afterEvent (eventRow (reportDraft n) (n + 1)) events) _ (hdraft.insertable h).nextEvent
    hevents
  refine ⟨hafter, ?_, ?_, ?_⟩
  · intro old hold
    rcases hevents.mem.mp hold with hold | hnew
    · obtain ⟨hsequence, hfingerprint, hid⟩ := h.known old hold
      refine ⟨Nat.le_succ_of_le hsequence, hfingerprint, ?_⟩
      rcases hid with hid | ⟨k, hk, hid⟩
      · exact .inl hid
      · exact .inr ⟨k, Nat.lt_succ_of_lt hk, hid⟩
    · rw [List.mem_singleton.mp hnew]
      exact ⟨Nat.le_refl _, rfl, .inr ⟨n, Nat.lt_succ_self n, rfl⟩⟩
  · exact ⟨_, hlatest, rfl, Nat.add_le_add_left (Nat.le_succ n) 1600, hactive, rfl⟩
  · refine ⟨_, hloaded, happendable.started, ?_, .inr (.inr rfl), reportEvent n, ?_, ?_⟩
    · simp [CashuProofReservationLifecycle.next, hlength]
    · simp [CashuProofReservationLifecycle.next]
    · exact Nat.add_le_add_left (Nat.le_succ n) 1600

theorem reported_succ (n : Nat) : reported (n + 1) =
    (Operation.requireAttention (report n) .transportAmbiguous).perform (reported n) := by
  rw [reported, reported, List.range_succ, List.map_append, List.foldl_append]
  rfl

theorem reported_of_lt (hn : n < 1024) : Reported n (reported n) := by
  induction n with
  | zero => exact reported_zero
  | succ n ih =>
      obtain ⟨result, db', hreport, hnext⟩ := (ih (Nat.lt_of_succ_lt hn)).step hn
      have hrun : (Operation.requireAttention (report n) .transportAmbiguous).run (reported n) =
          some db' := committed_eq_some.mpr ⟨result, hreport⟩
      rw [reported_succ, Operation.perform, hrun]
      exact hnext

theorem reachable_reported (n : Nat) : Reachable (reported n) := by
  have hexpired : Reachable expired := by
    unfold expired
    exact reachable_after [observe .unpaid 1511, observeProof .unspent 1512]
  have hreports : Run expired (reported n) := run_foldl expired _
  exact hexpired.trans hreports

theorem Reported.length_events (h : Reported n db) : (db.eventsOf paymentId).length = n + 1 := by
  obtain ⟨current, hloaded, -, hlength, -⟩ := h.loaded
  exact (length_events_of_loadLifecycle hloaded).symm.trans hlength

/-! ### The release -/

def lateEvent (n : Nat) : CashuReservationLifecycleEvent :=
  .releasedAfterFailure ⟨.stellarMeltRecoveryReleased recoveryKey, 3000, n + 1⟩ 1511
    .meltUnpaidAfterExpiry 1512

theorem follows_release (hn : n < 1024) : Follows n lateDraft (lateEvent n) where
  payment := rfl
  effect := rfl
  later := by
    show 1600 + n ≤ 3000
    omega
  start := by decide
  reports k _ := by
    intro hsame
    cases hsame
  notDispatch := by decide
  notConsumed := by decide
  notPreDispatch := by decide
  evidence := ⟨1511, rfl, by decide, by decide, by decide⟩
  kind := by decide
  fits := by
    have hfits : EvidenceFitsEffect (eventRow lateDraft 0) (effectRow reservedScope meltEffect) := by
      intro kind hkind
      cases hkind
      decide
    exact hfits
  cited := eq_ok_of_toOption expired_reads.2.2.2.2.1
  snapshot fingerprint hfingerprint := by
    obtain ⟨observation, hobservation, hvalid⟩ := expired_rows.2.2.2.2
    cases hfingerprint
    exact ⟨observation, hobservation, hvalid.afterEvidence, hvalid.beforeRecord, hvalid.entries,
      hvalid.uniform⟩
  releaseEvidence := by
    have hrelease := eq_ok_of_toOption expired_reads.2.2.2.2.2.2
    rw [validateLatestMeltReleaseEvidence, ensure_eq_ok] at hrelease ⊢
    intro hstate
    obtain ⟨effectId, heffectId, effect, heffect, quote, hquote, hlatest⟩ := hrelease hstate
    exact ⟨effectId, heffectId, effect, heffect, quote, hquote, hlatest.melt, hlatest.unpaid,
      hlatest.quoteTime, hlatest.quoteId, hlatest.expiry, hlatest.fingerprint, hlatest.proofTime⟩
  checks := by
    have hchecks : (eventRow lateDraft 0).UnboundedChecks := by
      refine ⟨by decide, ?_, ?_, ?_⟩
      · intro evidenceAt hevidenceAt
        cases hevidenceAt
        decide
      · refine .inr (.inr (.inr (.inr (.inr ⟨rfl, rfl, ?_, rfl, rfl⟩))))
        intro kind hkind
        cases hkind
        exact .inr rfl
      · exact .inr ⟨by decide, rfl⟩
    exact hchecks
  mapped := by
    simp only [mapEvent, bind_eq_ok, ensure_eq_ok, exists_unit, orFail_eq_ok, pure_eq_ok,
      Except.ok.injEq]
    refine ⟨⟨rfl, rfl⟩, some 1512, ?_, lateEvent n, rfl, ⟨rfl, ?_, ?_, ?_, ?_⟩, rfl⟩
    · have hcited := eq_ok_of_toOption expired_reads.2.2.2.2.2.1
      show (validateProofStateEvidenceByFingerprint expired reservedScope unspentFingerprint .unspent
        false >>= fun observedAt => pure (some observedAt)) = _
      rw [hcited]
      rfl
    · show 1002 ≤ 3000
      decide
    · intro evidenceAt hevidenceAt
      cases hevidenceAt
      show 1511 ≤ 3000
      decide
    · intro hkind
      cases hkind
    · intro _
      refine ⟨meltEffect, rfl, ?_, rfl, ?_⟩
      · show 1010 ≤ 3000
        decide
      · intro evidenceAt hevidenceAt
        cases hevidenceAt
        exact ⟨by decide, fun _ => ⟨1500, rfl, by decide⟩⟩

theorem lateDraft_of_reported (h : Reported n db) :
    afterFailureDraft db reservedScope lateRelease = .ok lateDraft := by
  obtain ⟨current, hloaded, hstarted, -⟩ := h.loaded
  have heffect : assertEffectEvidence db reservedScope lateRelease.effectId
      (.failure lateRelease.evidenceKind) lateRelease.evidenceAt lateRelease.recordedAt =
        .ok meltEffect := by
    rw [assertEffectEvidence, hloaded, ok_bind, hstarted]
    rfl
  rw [afterFailureDraft, heffect, ok_bind, h.tables]
  show (resolveProofStateEvidence expired reservedScope 1512 .unspent >>= _) = _
  rw [eq_ok_of_toOption expired_reads.2.2.1, ok_bind]
  show (assertLatestMeltReleaseEvidence expired reservedScope meltEffect 1511 1512
    unspentFingerprint >>= fun _ => pure (lateRelease.draft unspentFingerprint)) = _
  rw [eq_ok_of_toOption expired_reads.2.2.2.1, ok_bind]
  rfl

theorem evidenced_of_reported (h : Reported n db) (hn : n < 1024) :
    (TerminalCommand.release (.afterFailure lateRelease)).Evidenced db := by
  obtain ⟨current, hlength, happendable⟩ := (follows_release hn).appendable h
  obtain ⟨events, s, hevents, hpersist, hcommit, -⟩ := happendable.persist
  have hvalid : validateAfterFailure lateRelease = .ok () := by decide
  have hscope : requireReservation db paymentId = .ok reservedScope := by
    rw [h.tables]
    exact expired_scope
  refine ⟨db.afterEvent (eventRow lateDraft current.events.length) events, map_eq_ok.mpr
    ⟨⟨⟨current.next (lateEvent n), false⟩, _⟩, ?_, rfl⟩⟩
  rw [releaseBy, hvalid, ok_bind, show lateRelease.paymentId = paymentId from rfl, hscope, ok_bind,
    lateDraft_of_reported h, ok_bind, hpersist, ok_bind]
  simp only [hcommit, ok_bind]
  rfl

end Sample

/-- A command that settles a payment on evidence that passes every other check is recorded exactly
when the payment has fewer than 1024 events. -/
theorem terminal_event_recorded {command : TerminalCommand} (h : command.Evidenced db) :
    command.Recorded db ↔ (db.eventsOf command.paymentId).length < 1024 := by
  obtain ⟨db', h⟩ := h
  unfold TerminalCommand.Recorded
  rw [TerminalCommand.run_of_unbounded h]
  by_cases hbound : (db.eventsOf command.paymentId).length < 1024
  · simp [hbound]
  · simp [hbound]

/-- The release is recorded after 1022 reports. -/
theorem terminal_event_recorded_last :
    (TerminalCommand.release (.afterFailure Sample.lateRelease)).Recorded
      (Sample.reported 1022) := by
  have hreported := Sample.reported_of_lt (show 1022 < 1024 by decide)
  have hevents := hreported.length_events
  refine (terminal_event_recorded (Sample.evidenced_of_reported hreported (by decide))).mpr ?_
  show ((Sample.reported 1022).eventsOf Sample.paymentId).length < 1024
  omega

/-- A payment with 1023 reports has no number left for the release that all its evidence allows. -/
theorem terminal_event_unrecordable :
    Reachable (Sample.reported 1023) ∧
      (Sample.reported 1023).effectsOf Sample.paymentId ≠ [] ∧
      (TerminalCommand.release (.afterFailure Sample.lateRelease)).Evidenced
        (Sample.reported 1023) ∧
      ¬(TerminalCommand.release (.afterFailure Sample.lateRelease)).Recorded
        (Sample.reported 1023) := by
  have hreported := Sample.reported_of_lt (show 1023 < 1024 by decide)
  have hevents := hreported.length_events
  have hevidenced := Sample.evidenced_of_reported hreported (by decide)
  refine ⟨Sample.reachable_reported 1023, hreported.started, hevidenced, ?_⟩
  rintro ⟨db', hrecorded⟩
  obtain ⟨db'', hunbounded⟩ := hevidenced
  rw [TerminalCommand.run_of_unbounded hunbounded, if_neg] at hrecorded
  · cases hrecorded
  · show ¬((Sample.reported 1023).eventsOf Sample.paymentId).length < 1024
    omega

end CashMesh.Acquirer
