import CashMesh.Acquirer.Readable
/-!
# The bound of the event sequence

The table of lifecycle events numbers the events of a payment from zero and has a check that keeps the
numbers below 1024. The commands that report a pending or an unclear operator take the next number like
the commands that settle the payment, and none of them leaves a number for the one that comes last. So
a payment that has used all the numbers for reports cannot be settled any more, whatever its evidence.

The commands are stated over the statement that inserts an event, so that they can be compared on the
table as it is and on one without the bound.
-/

namespace CashMesh.Acquirer

open CashMesh.Lib

variable {db db' : Db} {s s' : Session}

/-! ### A table without the bound -/

/-- A statement that inserts an event row. -/
abbrev EventInsert : Type :=
  Session → LifecycleEventRow → Except DbError Session

/-- The checks of an event row apart from that of its number. -/
def LifecycleEventRow.UnboundedChecks (row : LifecycleEventRow) : Prop :=
  row.recordedAt ≤ maxSafeInteger ∧
    (∀ evidenceAt ∈ row.evidenceAt, evidenceAt ≤ row.recordedAt) ∧ row.Shape ∧
    ((row.state = .consumed ∧ row.journalEntryId.isSome) ∨
      (row.state ≠ .consumed ∧ row.journalEntryId = none))

instance (row : LifecycleEventRow) : Decidable row.UnboundedChecks :=
  inferInstanceAs (Decidable (_ ∧ _))

theorem LifecycleEventRow.checks_iff {row : LifecycleEventRow} :
    row.Checks ↔ row.sequence < 1024 ∧ row.UnboundedChecks :=
  Iff.rfl

/-- `insertEventRow` without the bound of the number. -/
def insertEventRowUnbounded : EventInsert := fun s row => do
  validateLatestMeltReleaseEvidence s row
  ensure
    (∃ reservation ∈ s.db.reservation row.paymentId, ValidEvent s.db row reservation)
    .checkViolation
  ensure row.UnboundedChecks .checkViolation
  let table ← insertRow s.db.cashuProofReservationEvents row <|
    if ∃ event ∈ s.db.cashuProofReservationEvents,
        event.eventId = row.eventId ∨ event.eventFingerprint = row.eventFingerprint then
      .cashuProofReservationEventsPkey
    else
      .cashuProofReservationEventsPaymentSequenceUnique
  ensure
    (∀ journalEntryId ∈ row.journalEntryId,
      ∃ journal ∈ s.db.merchantInvoicePaymentJournals,
        journal.journalEntryId = journalEntryId ∧ journal.paymentId = row.paymentId)
    .foreignKeyViolation
  let s := s.next { s.db with cashuProofReservationEvents := table } <|
    [.activeClaims row.paymentId] ++
      if row.state = .consumed then [.eventAccounting row.paymentId] else []
  if row.state.toReservationState.Terminal then
    deleteCustody s row.paymentId
  else
    return s

/-- Where a row can be inserted without the bound, the bound alone decides on it. -/
theorem insertEventRow_of_unbounded {row : LifecycleEventRow}
    (h : insertEventRowUnbounded s row = .ok s') :
    insertEventRow s row = if row.sequence < 1024 then .ok s' else .error .checkViolation := by
  simp only [insertEventRowUnbounded, validateLatestMeltReleaseEvidence, bind_eq_ok, ensure_eq_ok,
    exists_unit] at h
  obtain ⟨hrelease, hvalid, hchecks, events, hevents, hjournal, h⟩ := h
  simp only [insertEventRow, validateLatestMeltReleaseEvidence]
  rw [ensure_of hrelease, ok_bind, ensure_of hvalid, ok_bind]
  by_cases hbound : row.sequence < 1024
  · have hall : row.Checks := LifecycleEventRow.checks_iff.mpr ⟨hbound, hchecks⟩
    rw [if_pos hbound, ensure_of hall, ok_bind, hevents, ok_bind, ensure_of hjournal, ok_bind]
    exact h
  · have hall : ¬row.Checks := fun hrow => hbound hrow.1
    rw [if_neg hbound, ensure_of_not hall]
    rfl

/-! ### The commands over an insertion -/

section Commands

variable (insert : EventInsert)

/-- `insertEvent`. -/
def insertEventBy (s : Session) (draft : EventDraft) (sequence : Nat) :
    Except LifecycleError Session :=
  lifecycleStatement (insert s (eventRow draft sequence))

/-- `appendEvent`. -/
def appendEventBy (s : Session) (reservation : ReservationScope) (draft : EventDraft)
    (sequence : Nat) : Except LifecycleError (LifecycleResult × Session) := do
  let s ← insertEventBy insert s draft sequence
  let s := if draft.state = .released then deleteActiveClaims s reservation.paymentId else s
  let lifecycle ← loadLifecycle s.db reservation
  return ({
    lifecycle
    replayed := false }, s)

/-- `persistTransitionInTransaction`. -/
def persistTransitionInTransactionBy (s : Session) (reservation : ReservationScope)
    (draft : EventDraft) : Except LifecycleError (LifecycleResult × Session) := do
  match ← replayEvent s.db draft none with
  | some replay => return (replay, s)
  | none =>
      let current ← loadLifecycle s.db reservation
      if draft.state = .released ∧ draft.evidenceKind = some .preDispatch then
        ensure
          (current.state = .reserved ∧ current.effect = none ∧
            reservation.reservedAt ≤ draft.recordedAt)
          .invalidTransition
        appendEventBy insert s reservation draft 0
      else
        let effect ← orFail current.effect .invalidTransition
        ensure (TransitionMatches current effect draft) .invalidTransition
        assertCitedSnapshotOrdered s.db reservation draft
        appendEventBy insert s reservation draft current.events.length

/-- `acceptPayment`. -/
def acceptPaymentBy (db : Db) (input : AcceptPaymentInput) :
    Except LifecycleError (AcceptPaymentResult × Db) := do
  validatePaymentAcceptance input
  let reservation ← requireReservation db input.paymentId
  let _ ← assertEffectEvidence db reservation input.effectId .meltPaid input.evidenceAt
    input.recordedAt
  let fingerprint ← resolveProofStateEvidence db reservation input.proofStateObservedAt .spent
  match ← replayEvent db (input.draft fingerprint) none with
  | some replay =>
      let stored ← loadAcceptedPayment db reservation
      let accounting ← orFail stored .invalidRecord
      ensure (AccountingMatchesInput accounting reservation input) .accountingConflict
      return ({
        accounting
        lifecycle := replay.lifecycle
        replayed := replay.replayed }, db)
  | none =>
      let (accounting, s) ← persistAcceptedPayment ⟨db, []⟩ reservation input
      let (transition, s) ←
        persistTransitionInTransactionBy insert s reservation (input.draft fingerprint)
      let db ← commitLifecycle s
      return ({
        accounting
        lifecycle := transition.lifecycle
        replayed := transition.replayed }, db)

/-- `release`. -/
def releaseBy (db : Db) (input : ReleaseInput) :
    Except LifecycleError (LifecycleResult × Db) :=
  match input with
  | .preDispatch input => do
      ensure (input.recordedAt ≤ maxSafeInteger) .invalidInput
      let reservation ← requireReservation db input.paymentId
      let (result, s) ← persistTransitionInTransactionBy insert ⟨db, []⟩ reservation input.draft
      let db ← commitLifecycle s
      return (result, db)
  | .afterFailure input => do
      validateAfterFailure input
      let reservation ← requireReservation db input.paymentId
      let draft ← afterFailureDraft db reservation input
      let (result, s) ← persistTransitionInTransactionBy insert ⟨db, []⟩ reservation draft
      let db ← commitLifecycle s
      return (result, db)

end Commands

/-- A command that settles a payment. -/
inductive TerminalCommand where
  | acceptPayment (input : AcceptPaymentInput)
  | release (input : ReleaseInput)
deriving DecidableEq

namespace TerminalCommand

def paymentId : TerminalCommand → PaymentId
  | .acceptPayment input => input.paymentId
  | .release (.preDispatch input) => input.paymentId
  | .release (.afterFailure input) => input.paymentId

/-- Whether the command was replayed, with the rows that it leaves. -/
def run (db : Db) : TerminalCommand → Except LifecycleError (Bool × Db)
  | .acceptPayment input =>
      (Acquirer.acceptPayment db input).map fun result => (result.1.replayed, result.2)
  | .release input => (Acquirer.release db input).map fun result => (result.1.replayed, result.2)

/-- `run` over a statement that inserts events. -/
def runBy (insert : EventInsert) (db : Db) : TerminalCommand → Except LifecycleError (Bool × Db)
  | .acceptPayment input =>
      (acceptPaymentBy insert db input).map fun result => (result.1.replayed, result.2)
  | .release input => (releaseBy insert db input).map fun result => (result.1.replayed, result.2)

/-- The command is `run` over the statement of the table. -/
theorem run_eq (db : Db) (command : TerminalCommand) :
    command.run db = command.runBy insertEventRow db := by
  cases command with
  | acceptPayment input => rfl
  | release input =>
      cases input with
      | preDispatch input => rfl
      | afterFailure input => rfl

/-- The command is recorded as a new event. -/
def Recorded (db : Db) (command : TerminalCommand) : Prop :=
  ∃ db', command.run db = .ok (false, db')

/-- The command passes every check of a new event but that of the event's number. -/
def Evidenced (db : Db) (command : TerminalCommand) : Prop :=
  ∃ db', command.runBy insertEventRowUnbounded db = .ok (false, db')

end TerminalCommand

/-! ### What the bound decides -/

theorem length_events_of_loadLifecycle {scope : ReservationScope}
    {lifecycle : CashuProofReservationLifecycle} (h : loadLifecycle db scope = .ok lifecycle) :
    lifecycle.events.length = (db.eventsOf scope.paymentId).length := by
  obtain ⟨hrows, -⟩ := rows_of_loadLifecycle h
  exact hrows.length_eq.symm

theorem length_events_of_reserved {scope : ReservationScope}
    {lifecycle : CashuProofReservationLifecycle} (h : loadLifecycle db scope = .ok lifecycle)
    (hreserved : lifecycle.state = .reserved) : (db.eventsOf scope.paymentId).length = 0 := by
  rw [← length_events_of_loadLifecycle h]
  obtain ⟨-, hstate⟩ := rows_of_loadLifecycle h
  rw [hreserved, stateAfter] at hstate
  split at hstate
  · case h_1 hlast => rw [List.getLast?_eq_none_iff.mp hlast, List.length_nil]
  · case h_2 event _ => cases hkind : event.state <;> simp [hkind] at hstate <;> cases hstate

theorem appendEvent_of_unbounded {scope : ReservationScope} {draft : EventDraft} {sequence : Nat}
    {appended : LifecycleResult × Session}
    (h : appendEventBy insertEventRowUnbounded s scope draft sequence = .ok appended) :
    appendEvent s scope draft sequence =
      if sequence < 1024 then .ok appended else .error (.ofDbError .checkViolation) := by
  simp only [appendEventBy, insertEventBy, bind_eq_ok, lifecycleStatement_eq_ok] at h
  obtain ⟨s₁, hinsert, h⟩ := h
  have hbound := insertEventRow_of_unbounded hinsert
  rw [appendEvent, insertEvent, hbound]
  by_cases hsequence : sequence < 1024
  · rw [if_pos (show (eventRow draft sequence).sequence < 1024 from hsequence), if_pos hsequence]
    simp only [lifecycleStatement, Except.mapError, ok_bind, bind_eq_ok]
    exact h
  · rw [if_neg (show ¬(eventRow draft sequence).sequence < 1024 from hsequence), if_neg hsequence]
    rfl

/-- Where a new event passes every other check, the number of the stored ones decides on it. -/
theorem persistTransition_of_unbounded {scope : ReservationScope} {draft : EventDraft}
    {appended : LifecycleResult × Session} (hnew : appended.1.replayed = false)
    (h : persistTransitionInTransactionBy insertEventRowUnbounded s scope draft = .ok appended) :
    persistTransitionInTransaction s scope draft =
      if (s.db.eventsOf scope.paymentId).length < 1024 then .ok appended
      else .error (.ofDbError .checkViolation) := by
  simp only [persistTransitionInTransactionBy, bind_eq_ok] at h
  obtain ⟨replay, hreplay, h⟩ := h
  rw [persistTransitionInTransaction, hreplay, ok_bind]
  cases replay with
  | some replay =>
      simp only [pure_eq_ok, Except.ok.injEq] at h
      have hreplayed := replayed_of_replayEvent hreplay
      rw [← h] at hnew
      simp only [hreplayed, Bool.true_eq_false] at hnew
  | none =>
      obtain ⟨current, hcurrent, h⟩ := bind_eq_ok.mp h
      simp only [hcurrent, ok_bind]
      by_cases hearly : draft.state = .released ∧ draft.evidenceKind = some .preDispatch
      · rw [if_pos hearly] at h ⊢
        simp only [bind_eq_ok, ensure_eq_ok, exists_unit] at h
        obtain ⟨hallowed, h⟩ := h
        have hnone := length_events_of_reserved hcurrent hallowed.1
        rw [ensure_of hallowed, ok_bind, appendEvent_of_unbounded h, hnone]
      · rw [if_neg hearly] at h ⊢
        simp only [bind_eq_ok, orFail_eq_ok, ensure_eq_ok, exists_unit] at h
        obtain ⟨effect, heffect, hmatches, hcited, h⟩ := h
        rw [heffect]
        simp only [orFail, ok_bind]
        rw [ensure_of hmatches, ok_bind, hcited, ok_bind, appendEvent_of_unbounded h,
          length_events_of_loadLifecycle hcurrent]

theorem acceptPayment_of_unbounded {input : AcceptPaymentInput} {result : AcceptPaymentResult}
    (hnew : result.replayed = false)
    (h : acceptPaymentBy insertEventRowUnbounded db input = .ok (result, db')) :
    acceptPayment db input =
      if (db.eventsOf input.paymentId).length < 1024 then .ok (result, db')
      else .error (.ofDbError .checkViolation) := by
  simp only [acceptPaymentBy, bind_eq_ok] at h
  obtain ⟨⟨⟩, hvalid, scope, hscope, effect, heffect, fingerprint, hfingerprint, replay, hreplay,
    h⟩ := h
  rw [acceptPayment, hvalid, ok_bind, hscope, ok_bind, heffect, ok_bind, hfingerprint, ok_bind,
    hreplay, ok_bind]
  cases replay with
  | some replay =>
      simp only [bind_eq_ok, orFail_eq_ok, ensure_eq_ok, exists_unit, pure_eq_ok, Except.ok.injEq,
        Prod.mk.injEq] at h
      obtain ⟨-, -, accounting, -, -, rfl, -⟩ := h
      have hreplayed := replayed_of_replayEvent hreplay
      simp only [hreplayed, Bool.true_eq_false] at hnew
  | none =>
      obtain ⟨⟨accounting, s⟩, hpersist, h⟩ := bind_eq_ok.mp h
      obtain ⟨⟨transition, s'⟩, htransition, h⟩ := bind_eq_ok.mp h
      obtain ⟨committed, hcommit, hresult⟩ := bind_eq_ok.mp h
      simp only [pure_eq_ok, Except.ok.injEq, Prod.mk.injEq] at hresult
      obtain ⟨rfl, rfl⟩ := hresult
      simp only [hpersist, ok_bind]
      rw [persistTransition_of_unbounded hnew htransition]
      obtain ⟨-, -, journals, postings, invoices, -, -, -, -, hs, -⟩ :=
        persistAcceptedPayment_ok hpersist
      have hevents : s.db.eventsOf scope.paymentId = db.eventsOf input.paymentId := by
        rw [hs, paymentId_of_loadReservation (requireReservation_ok hscope)]
        rfl
      rw [hevents]
      by_cases hbound : (db.eventsOf input.paymentId).length < 1024
      · rw [if_pos hbound, if_pos hbound, ok_bind, hcommit]
        rfl
      · rw [if_neg hbound, if_neg hbound]
        rfl

theorem commit_of_bound {bound : Prop} [Decidable bound] {error : LifecycleError}
    {result : LifecycleResult} (hcommit : commitLifecycle s = .ok db') :
    ((if bound then .ok (result, s) else .error error) >>= fun appended => do
        let db ← commitLifecycle appended.2
        return (appended.1, db) : Except LifecycleError (LifecycleResult × Db)) =
      if bound then .ok (result, db') else .error error := by
  by_cases hbound : bound
  · rw [if_pos hbound, if_pos hbound, ok_bind, hcommit]
    rfl
  · rw [if_neg hbound, if_neg hbound]
    rfl

theorem release_of_unbounded {input : ReleaseInput} {result : LifecycleResult}
    (hnew : result.replayed = false)
    (h : releaseBy insertEventRowUnbounded db input = .ok (result, db')) :
    release db input =
      if (db.eventsOf (TerminalCommand.release input).paymentId).length < 1024 then
        .ok (result, db')
      else .error (.ofDbError .checkViolation) := by
  cases input with
  | preDispatch input =>
      simp only [releaseBy, bind_eq_ok] at h
      obtain ⟨⟨⟩, hvalid, scope, hscope, ⟨transition, s⟩, htransition, committed, hcommit, h⟩ := h
      simp only [pure_eq_ok, Except.ok.injEq, Prod.mk.injEq] at h
      obtain ⟨rfl, rfl⟩ := h
      have hpayment := paymentId_of_loadReservation (requireReservation_ok hscope)
      have hdecided := persistTransition_of_unbounded hnew htransition
      rw [hpayment] at hdecided
      rw [release, hvalid, ok_bind, persistTransition, show input.draft.paymentId = input.paymentId
        from rfl, hscope, ok_bind, hdecided]
      exact commit_of_bound hcommit
  | afterFailure input =>
      simp only [releaseBy, bind_eq_ok] at h
      obtain ⟨⟨⟩, hvalid, scope, hscope, draft, hdraft, ⟨transition, s⟩, htransition, committed,
        hcommit, h⟩ := h
      simp only [pure_eq_ok, Except.ok.injEq, Prod.mk.injEq] at h
      obtain ⟨rfl, rfl⟩ := h
      have hpayment := paymentId_of_loadReservation (requireReservation_ok hscope)
      have hdecided := persistTransition_of_unbounded hnew htransition
      rw [hpayment] at hdecided
      rw [release, hvalid, ok_bind, hscope, ok_bind, hdraft, ok_bind, hdecided]
      exact commit_of_bound hcommit

/-- The answer of a bounded command. -/
theorem map_of_bound {ε α β : Type} {bound : Prop} [Decidable bound] {answer : α} {f : α → β}
    {answer' : β} {error : ε} (h : f answer = answer') :
    (if bound then .ok (answer, db') else .error error : Except ε (α × Db)).map
        (fun result => (f result.1, result.2)) =
      if bound then .ok (answer', db') else .error error := by
  by_cases hbound : bound
  · rw [if_pos hbound, if_pos hbound, ← h]
    rfl
  · rw [if_neg hbound, if_neg hbound]
    rfl

/-- Where a command passes every other check, the number of the stored events decides on it. -/
theorem TerminalCommand.run_of_unbounded {command : TerminalCommand}
    (h : command.runBy insertEventRowUnbounded db = .ok (false, db')) :
    command.run db =
      if (db.eventsOf command.paymentId).length < 1024 then .ok (false, db')
      else .error (.ofDbError .checkViolation) := by
  cases command with
  | acceptPayment input =>
      simp only [TerminalCommand.runBy, map_eq_ok, Prod.mk.injEq] at h
      obtain ⟨⟨result, committed⟩, haccepted, hnew, rfl⟩ := h
      rw [TerminalCommand.run, acceptPayment_of_unbounded hnew haccepted]
      exact map_of_bound hnew
  | release input =>
      simp only [TerminalCommand.runBy, map_eq_ok, Prod.mk.injEq] at h
      obtain ⟨⟨result, committed⟩, hreleased, hnew, rfl⟩ := h
      rw [TerminalCommand.run, release_of_unbounded hnew hreleased]
      exact map_of_bound hnew

end CashMesh.Acquirer
