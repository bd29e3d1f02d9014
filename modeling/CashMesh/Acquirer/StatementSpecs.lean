import CashMesh.Acquirer.Statements
/-!
# What the statements do

One lemma for each statement that the transactions on a payment run: the rows it appends or removes,
the checks it defers, and what its triggers and keys have established when it succeeds.
-/

namespace CashMesh.Acquirer

open CashMesh.Lib

variable {s s' : Session}

theorem appends_of_insertRow {Row : Type} [UniqueKeys Row] {table table' : Table Row} {row : Row}
    {constraint : UniqueConstraint} (h : insertRow table row constraint = .ok table') :
    table.Appends [row] table' :=
  Table.appends_of_insert (orFail_eq_ok.mp h)

theorem Session.commit_eq_ok {db : Db} :
    s.commit = .ok db ↔ (∀ check ∈ s.deferred, s.db.Satisfies check) ∧ s.db = db := by
  simp only [Session.commit, bind_eq_ok, ensure_eq_ok, exists_unit, pure_eq_ok, Except.ok.injEq]

/-! ### Invoices -/

theorem insertInvoiceCreation_ok {row : InvoiceCreationRow}
    (h : insertInvoiceCreation s row = .ok s') :
    ∃ creations, s.db.invoiceCreationRequests.Appends [row] creations ∧
      s' = s.next { s.db with invoiceCreationRequests := creations } [] := by
  simp only [insertInvoiceCreation, bind_eq_ok, pure_eq_ok, Except.ok.injEq] at h
  obtain ⟨creations, htable, rfl⟩ := h
  exact ⟨creations, appends_of_insertRow htable, rfl⟩

theorem insertInvoice_ok {row : MerchantInvoiceRow} (h : insertInvoice s row = .ok s') :
    row.Checks ∧ ∃ invoices, s.db.merchantInvoices.Appends [row] invoices ∧
      s'.db = { s.db with merchantInvoices := invoices } := by
  simp only [insertInvoice, bind_eq_ok, ensure_eq_ok, exists_unit, pure_eq_ok,
    Except.ok.injEq] at h
  obtain ⟨hchecks, invoices, htable, rfl⟩ := h
  exact ⟨hchecks, invoices, appends_of_insertRow htable, rfl⟩

theorem insertInvoiceRequest_ok {row : InvoiceCashuRequestRow}
    (h : insertInvoiceRequest s row = .ok s') :
    ∃ requests, s.db.invoiceCashuRequests.Appends [row] requests ∧
      s'.db = { s.db with invoiceCashuRequests := requests } := by
  simp only [insertInvoiceRequest, bind_eq_ok, ensure_eq_ok, exists_unit, pure_eq_ok,
    Except.ok.injEq] at h
  obtain ⟨-, requests, htable, -, rfl⟩ := h
  exact ⟨requests, appends_of_insertRow htable, rfl⟩

theorem insertInvoiceRoute_ok {row : InvoiceRouteRow} (h : insertInvoiceRoute s row = .ok s') :
    ∃ routes, s.db.invoiceCashuRequestOperators.Appends [row] routes ∧
      s'.db = { s.db with invoiceCashuRequestOperators := routes } := by
  simp only [insertInvoiceRoute, bind_eq_ok, ensure_eq_ok, exists_unit, pure_eq_ok,
    Except.ok.injEq] at h
  obtain ⟨-, routes, htable, -, rfl⟩ := h
  exact ⟨routes, appends_of_insertRow htable, rfl⟩

/-- A paid invoice row. -/
def MerchantInvoiceRow.pay (row : MerchantInvoiceRow) (paidAt : UnixTimestamp) :
    MerchantInvoiceRow :=
  { row with
    state := .paid
    paidAt := some paidAt }

/-- The rows with the open invoice of an id paid. -/
def payRows (rows : List MerchantInvoiceRow) (id : InvoiceId) (paidAt : UnixTimestamp) :
    List MerchantInvoiceRow :=
  rows.map fun row =>
    if row.id = id ∧ row.state = .open ∧ row.paidAt = none then row.pay paidAt else row

theorem payInvoice_ok {id : InvoiceId} {paidAt : UnixTimestamp} {updated : Nat}
    (h : payInvoice s id paidAt = .ok (updated, s')) :
    ∃ invoices,
      (∀ row ∈ s.db.merchantInvoices, row.id = id → row.state = .open → row.paidAt = none →
        (row.pay paidAt).Checks) ∧
      updated = (s.db.merchantInvoices.select fun row =>
        row.id = id ∧ row.state = .open ∧ row.paidAt = none).length ∧
      invoices.rows = payRows s.db.merchantInvoices.rows id paidAt ∧
      s' = s.next { s.db with merchantInvoices := invoices }
        ((s.db.merchantInvoices.select fun row =>
          row.id = id ∧ row.state = .open ∧ row.paidAt = none).flatMap fun _ =>
            [.invoiceRequest id, .invoiceAccounting id]) := by
  simp only [payInvoice, bind_eq_ok, ensure_eq_ok, exists_unit, pure_eq_ok, Except.ok.injEq,
    orFail_eq_ok, Prod.mk.injEq] at h
  obtain ⟨hchecks, invoices, hupdate, rfl, rfl⟩ := h
  refine ⟨invoices, ?_, rfl, Table.update_eq_some hupdate, rfl⟩
  intro row hrow hid hopen hpaidAt
  exact hchecks row (Table.mem_select.mpr ⟨hrow, hid, hopen, hpaidAt⟩)

/-! ### Reservations -/

theorem insertReservation_ok {row : ReservationRow} (h : insertReservation s row = .ok s') :
    row.Checks ∧ ∃ reservations, s.db.cashuProofReservations.Appends [row] reservations ∧
      s' = s.next { s.db with cashuProofReservations := reservations }
        [.reservation row.paymentId] := by
  simp only [insertReservation, bind_eq_ok, ensure_eq_ok, exists_unit, pure_eq_ok,
    Except.ok.injEq] at h
  obtain ⟨-, hchecks, reservations, htable, -, rfl⟩ := h
  exact ⟨hchecks, reservations, appends_of_insertRow htable, rfl⟩

/-- The claim on a reserved proof. -/
def ReservedProofRow.claim (row : ReservedProofRow) : ActiveProofClaimRow where
  mintUrl := row.mintUrl
  proofY := row.proofY
  paymentId := row.paymentId

theorem insertReservedProof_ok {row : ReservedProofRow}
    (h : insertReservedProof s row = .ok s') :
    ∃ proofs claims, s.db.cashuReservedProofs.Appends [row] proofs ∧
      s.db.cashuActiveProofClaims.Appends [row.claim] claims ∧
      s' = s.next { s.db with cashuReservedProofs := proofs, cashuActiveProofClaims := claims }
        [.reservation row.paymentId, .activeClaims row.paymentId,
          .activeClaims row.paymentId] := by
  simp only [insertReservedProof, insertActiveProofClaim, bind_eq_ok, ensure_eq_ok, exists_unit,
    pure_eq_ok, Except.ok.injEq] at h
  obtain ⟨-, proofs, hproofs, -, claims, hclaims, -, rfl⟩ := h
  refine ⟨proofs, claims, appends_of_insertRow hproofs, appends_of_insertRow hclaims, ?_⟩
  simp [Session.next, List.append_assoc]

/-! ### Evidence -/

theorem guardObservationAppend_ok {paymentId : PaymentId}
    (h : guardObservationAppend s paymentId = .ok ()) :
    ∀ state ∈ s.db.latestState paymentId, ¬state.toReservationState.Terminal := by
  simp only [guardObservationAppend, bind_eq_ok, ensure_eq_ok, exists_unit] at h
  exact h.2

theorem insertProofStateObservation_ok {row : ProofStateObservationRow}
    (h : insertProofStateObservation s row = .ok s') :
    (∀ state ∈ s.db.latestState row.paymentId, ¬state.toReservationState.Terminal) ∧
      ∃ observations, s.db.cashuProofStateObservations.Appends [row] observations ∧
        s' = s.next { s.db with cashuProofStateObservations := observations }
          [.proofStateObservation row.snapshotFingerprint] := by
  simp only [insertProofStateObservation, bind_eq_ok, ensure_eq_ok, exists_unit, pure_eq_ok,
    Except.ok.injEq] at h
  obtain ⟨hguard, -, observations, htable, -, rfl⟩ := h
  exact ⟨guardObservationAppend_ok hguard, observations, appends_of_insertRow htable, rfl⟩

theorem insertProofStateEntry_ok {row : ProofStateEntryRow}
    (h : insertProofStateEntry s row = .ok s') :
    ∃ entries, s.db.cashuProofStateObservationEntries.Appends [row] entries ∧
      s' = s.next { s.db with cashuProofStateObservationEntries := entries } [] := by
  simp only [insertProofStateEntry, bind_eq_ok, ensure_eq_ok, exists_unit, pure_eq_ok,
    Except.ok.injEq] at h
  obtain ⟨-, entries, htable, -, rfl⟩ := h
  exact ⟨entries, appends_of_insertRow htable, rfl⟩

theorem insertQuoteAttempt_ok {row : MeltQuoteAttemptRow}
    (h : insertQuoteAttempt s row = .ok s') :
    (∃ reservation ∈ s.db.reservation row.paymentId, ∃ invoice ∈ s.db.invoice row.invoiceId,
        ∃ custody ∈ s.db.custodyOf row.paymentId,
          ValidQuoteAttempt s.db row reservation invoice custody) ∧
      ∃ attempts, s.db.cashuStellarMeltQuoteAttempts.Appends [row] attempts ∧
        s' = s.next { s.db with cashuStellarMeltQuoteAttempts := attempts } [] := by
  simp only [insertQuoteAttempt, bind_eq_ok, ensure_eq_ok, exists_unit, pure_eq_ok,
    Except.ok.injEq] at h
  obtain ⟨-, hvalid, -, attempts, htable, -, rfl⟩ := h
  exact ⟨hvalid, attempts, appends_of_insertRow htable, rfl⟩

theorem insertQuoteOutcome_ok {row : MeltQuoteOutcomeRow}
    (h : insertQuoteOutcome s row = .ok s') :
    (∃ attempt ∈ s.db.attempt row.attemptId, ValidQuoteOutcome s.db row attempt) ∧
      ∃ outcomes, s.db.cashuStellarMeltQuoteOutcomes.Appends [row] outcomes ∧
        s' = s.next { s.db with cashuStellarMeltQuoteOutcomes := outcomes }
          [.quoteObservation row.attemptId] := by
  simp only [insertQuoteOutcome, bind_eq_ok, ensure_eq_ok, exists_unit, pure_eq_ok,
    Except.ok.injEq] at h
  obtain ⟨hvalid, -, outcomes, htable, -, rfl⟩ := h
  exact ⟨hvalid, outcomes, appends_of_insertRow htable, rfl⟩

theorem insertQuoteObservation_ok {row : MeltQuoteObservationRow}
    (h : insertQuoteObservation s row = .ok s') :
    (∀ state ∈ s.db.latestState row.paymentId, ¬state.toReservationState.Terminal) ∧
      (∃ outcome ∈ s.db.outcomeOf row.attemptId, ValidQuoteObservation s.db row outcome) ∧
      ∃ observations, s.db.cashuStellarMeltQuoteObservations.Appends [row] observations ∧
        s' = s.next { s.db with cashuStellarMeltQuoteObservations := observations }
          [.quoteObservation row.attemptId] := by
  simp only [insertQuoteObservation, bind_eq_ok, ensure_eq_ok, exists_unit, pure_eq_ok,
    Except.ok.injEq] at h
  obtain ⟨hguard, hvalid, -, observations, htable, -, rfl⟩ := h
  exact ⟨guardObservationAppend_ok hguard, hvalid, observations, appends_of_insertRow htable, rfl⟩

/-! ### Custody -/

theorem insertCustody_ok {row : BearerProofCustodyRow} (h : insertCustody s row = .ok s') :
    (∃ reservation ∈ s.db.reservation row.paymentId,
        ∃ invoice ∈ s.db.invoice reservation.invoiceId,
          ValidCustody s.db row reservation invoice) ∧
      ∃ custody, s.db.cashuBearerProofCustody.Appends [row] custody ∧
        s' = s.next { s.db with cashuBearerProofCustody := custody } [] := by
  simp only [insertCustody, bind_eq_ok, ensure_eq_ok, exists_unit, pure_eq_ok,
    Except.ok.injEq] at h
  obtain ⟨hvalid, -, custody, htable, rfl⟩ := h
  exact ⟨hvalid, custody, appends_of_insertRow htable, rfl⟩

/-! ### Effects -/

/-- The claim of an effect on its invoice. -/
def OperatorEffectRow.claim (row : OperatorEffectRow) : ActiveInvoiceClaimRow where
  invoiceId := row.invoiceId
  paymentId := row.paymentId
  effectId := row.effectId

/-- The recovery jobs that an effect schedules. -/
def OperatorEffectRow.jobs (row : OperatorEffectRow) : List RecoveryJobRow :=
  if row.effectKind = .melt then
    [{ paymentId := row.paymentId
       effectId := row.effectId
       initialAttemptAt := initialRecoveryAttemptAt row.startedAt }]
  else
    []

theorem insertEffect_ok {row : OperatorEffectRow} (h : insertEffect s row = .ok s') :
    row.Checks ∧ ∃ effects claims jobs,
      s.db.cashuOperatorEffects.Appends [row] effects ∧
      s.db.cashuActiveInvoicePaymentClaims.Appends [row.claim] claims ∧
      s.db.cashuStellarMeltRecoveryJobs.Appends row.jobs jobs ∧
      s' = s.next
        { s.db with
          cashuOperatorEffects := effects
          cashuActiveInvoicePaymentClaims := claims
          cashuStellarMeltRecoveryJobs := jobs }
        [.effectEvent row, .activeClaims row.paymentId, .activeClaims row.paymentId] := by
  simp only [insertEffect, insertActiveInvoiceClaim, bind_eq_ok, ensure_eq_ok, exists_unit,
    pure_eq_ok] at h
  obtain ⟨-, hchecks, effects, heffects, -, s₁, ⟨claims, hclaims, -, hs₁⟩, h⟩ := h
  cases hs₁
  refine ⟨hchecks, effects, claims, ?_⟩
  by_cases hmelt : row.effectKind = .melt
  · simp only [if_pos hmelt, insertRecoveryJob, bind_eq_ok, ensure_eq_ok, exists_unit, pure_eq_ok,
      Except.ok.injEq] at h
    obtain ⟨-, jobs, hjobs, rfl⟩ := h
    refine ⟨jobs, appends_of_insertRow heffects, appends_of_insertRow hclaims, ?_, ?_⟩
    · rw [OperatorEffectRow.jobs, if_pos hmelt]
      exact appends_of_insertRow hjobs
    · simp [Session.next, List.append_assoc]
  · simp only [if_neg hmelt, Except.ok.injEq] at h
    subst h
    refine ⟨s.db.cashuStellarMeltRecoveryJobs, appends_of_insertRow heffects,
      appends_of_insertRow hclaims, ?_, ?_⟩
    · rw [OperatorEffectRow.jobs, if_neg hmelt]
      exact Table.Appends.refl _
    · simp [Session.next, List.append_assoc]

/-! ### Lifecycle events -/

/-- What the triggers and the constraints have established of an event that was inserted. -/
structure EventAdmitted (db : Db) (row : LifecycleEventRow) : Prop where
  releaseEvidence : (row.state = .released ∧ ∀ kind ∈ row.evidenceKind,
      kind = .meltUnpaidAfterExpiry) →
    ∃ effectId ∈ row.effectId, ∃ effect ∈ db.effect effectId row.paymentId,
      ∃ quote ∈ db.latestQuote row.paymentId,
        LatestFailureEvidence row effect quote (db.latestProofState row.paymentId)
  valid : ∃ reservation ∈ db.reservation row.paymentId, ValidEvent db row reservation
  checks : row.Checks
  journal : ∀ journalEntryId ∈ row.journalEntryId,
    ∃ journal ∈ db.merchantInvoicePaymentJournals,
      journal.journalEntryId = journalEntryId ∧ journal.paymentId = row.paymentId

/-- The custody after an event: a terminal one destroys that of its payment. -/
def custodyAfter (db : Db) (row : LifecycleEventRow) : Table BearerProofCustodyRow :=
  if row.state.toReservationState.Terminal then
    db.cashuBearerProofCustody.delete fun custody => custody.paymentId = row.paymentId
  else
    db.cashuBearerProofCustody

theorem insertEventRow_ok {row : LifecycleEventRow} (h : insertEventRow s row = .ok s') :
    EventAdmitted s.db row ∧ ∃ events, s.db.cashuProofReservationEvents.Appends [row] events ∧
      s' = s.next
        { s.db with
          cashuProofReservationEvents := events
          cashuBearerProofCustody := custodyAfter s.db row }
        ([.activeClaims row.paymentId] ++
          if row.state = .consumed then [.eventAccounting row.paymentId] else []) := by
  simp only [insertEventRow, validateLatestMeltReleaseEvidence, bind_eq_ok, ensure_eq_ok,
    exists_unit, pure_eq_ok] at h
  obtain ⟨hrelease, hvalid, hchecks, events, hevents, hjournal, h⟩ := h
  refine ⟨⟨hrelease, hvalid, hchecks, hjournal⟩, events, appends_of_insertRow hevents, ?_⟩
  by_cases hterminal : row.state.toReservationState.Terminal
  · simp only [if_pos hterminal, deleteCustody, bind_eq_ok, ensure_eq_ok, exists_unit, pure_eq_ok,
      Except.ok.injEq] at h
    obtain ⟨-, rfl⟩ := h
    simp [Session.next, custodyAfter, hterminal]
  · simp only [if_neg hterminal, Except.ok.injEq] at h
    simp [← h, Session.next, custodyAfter, hterminal]

/-! ### Accounting -/

theorem insertJournal_ok {row : PaymentJournalRow} (h : insertJournal s row = .ok s') :
    row.Checks ∧ ∃ journals, s.db.merchantInvoicePaymentJournals.Appends [row] journals ∧
      s' = s.next { s.db with merchantInvoicePaymentJournals := journals }
        [.invoiceAccounting row.invoiceId, .journalPostings row.journalEntryId] := by
  simp only [insertJournal, bind_eq_ok, ensure_eq_ok, exists_unit, pure_eq_ok,
    Except.ok.injEq] at h
  obtain ⟨hchecks, journals, htable, -, rfl⟩ := h
  exact ⟨hchecks, journals, appends_of_insertRow htable, rfl⟩

theorem insertPosting_ok {row : PaymentPostingRow} (h : insertPosting s row = .ok s') :
    ∃ postings, s.db.merchantInvoicePaymentPostings.Appends [row] postings ∧
      s' = s.next { s.db with merchantInvoicePaymentPostings := postings }
        [.journalPostings row.journalEntryId] := by
  simp only [insertPosting, bind_eq_ok, ensure_eq_ok, exists_unit, pure_eq_ok,
    Except.ok.injEq] at h
  obtain ⟨-, postings, htable, -, rfl⟩ := h
  exact ⟨postings, appends_of_insertRow htable, rfl⟩

/-! ### Recovery leases -/

/-- What the trigger and the constraints have established of a lease that was inserted. -/
structure LeaseAdmitted (db : Db) (row : RecoveryLeaseRow) : Prop where
  job : ∃ job ∈ db.recoveryJob row.paymentId,
    ∃ time, eligibleAt job (db.latestLease row.paymentId)
        ((db.latestLease row.paymentId).bind fun lease => db.recoveryOutcome lease.leaseToken) =
      some (some time) ∧ time ≤ row.claimedAt
  active : ∃ state ∈ db.latestState row.paymentId, ¬state.toReservationState.Terminal
  attemptNumber : row.attemptNumber = nextAttemptNumber (db.latestLease row.paymentId)
  checks : row.Checks

theorem insertRecoveryLease_ok {row : RecoveryLeaseRow}
    (h : insertRecoveryLease s row = .ok s') :
    LeaseAdmitted s.db row ∧ ∃ leases,
      s.db.cashuStellarMeltRecoveryLeases.Appends [row] leases ∧
      s' = s.next { s.db with cashuStellarMeltRecoveryLeases := leases } [] := by
  simp only [insertRecoveryLease, bind_eq_ok, ensure_eq_ok, exists_unit, pure_eq_ok, orFail_eq_ok,
    Except.ok.injEq] at h
  obtain ⟨job, hjob, hactive, hnumber, eligible, heligible, ⟨time, htime, hle⟩, hchecks, leases,
    htable, rfl⟩ := h
  cases Option.mem_def.mp htime
  exact ⟨⟨⟨job, hjob, time, heligible, hle⟩, hactive, hnumber, hchecks⟩, leases,
    appends_of_insertRow htable, rfl⟩

/-- What the trigger and the constraints have established of an outcome that was inserted. -/
structure OutcomeAdmitted (db : Db) (row : RecoveryOutcomeRow) : Prop where
  current : ∃ lease ∈ db.latestLease row.paymentId,
    lease.leaseToken = row.leaseToken ∧ lease.claimedAt ≤ row.recordedAt ∧
      row.recordedAt ≤ lease.expiresAt
  lifecycle : OutcomeFitsLifecycle row.outcomeKind (db.latestState row.paymentId)
  checks : row.Checks

theorem insertRecoveryOutcome_ok {row : RecoveryOutcomeRow}
    (h : insertRecoveryOutcome s row = .ok s') :
    OutcomeAdmitted s.db row ∧ ∃ outcomes,
      s.db.cashuStellarMeltRecoveryOutcomes.Appends [row] outcomes ∧
      s' = s.next { s.db with cashuStellarMeltRecoveryOutcomes := outcomes } [] := by
  simp only [insertRecoveryOutcome, bind_eq_ok, ensure_eq_ok, exists_unit, pure_eq_ok,
    Except.ok.injEq] at h
  obtain ⟨hcurrent, hlifecycle, hchecks, outcomes, htable, rfl⟩ := h
  exact ⟨⟨hcurrent, hlifecycle, hchecks⟩, outcomes, appends_of_insertRow htable, rfl⟩

end CashMesh.Acquirer
