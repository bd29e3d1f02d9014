import CashMesh.Acquirer.LifecycleReads
import CashMesh.Acquirer.StatementSpecs
import CashMesh.Acquirer.System
/-!
# What an operation can do

Every accepted operation either leaves the rows as they were or changes them in one of fourteen ways.
`Change` lists them once, each with the rows it appends or removes and with what the repository, the
triggers and the deferred checks have established about them, and every invariant of the database is
a case analysis on it.
-/

namespace CashMesh.Acquirer

open CashMesh.Lib

/-! ### Rows -/

/-- The rows of the proofs of a reservation. -/
def reservedProofRows (reservation : CashuProofReservation) : List ReservedProofRow :=
  reservation.proofReferences.zipIdx.map (reservedProofRow reservation)

/-- The rows of the states of an observation. -/
def proofStateEntryRows (observation : PersistProofStateInput) : List ProofStateEntryRow :=
  observation.snapshot.states.zipIdx.map (proofStateEntryRow observation)

/-- The rows of the postings of an accepted payment. -/
def postingRows (accounting : AcceptedInvoicePayment) : List PaymentPostingRow :=
  accounting.journalEntry.postings.zipIdx.map (postingRow accounting.journalEntry.id)

/-- The rows after an event of a payment: a terminal one destroys its custody, and a release frees its
claims. -/
def Db.afterEvent (db : Db) (row : LifecycleEventRow) (events : Table LifecycleEventRow) : Db :=
  { db with
    cashuProofReservationEvents := events
    cashuBearerProofCustody := custodyAfter db row
    cashuActiveProofClaims :=
      if row.state = .released then
        db.cashuActiveProofClaims.delete fun claim => claim.paymentId = row.paymentId
      else
        db.cashuActiveProofClaims
    cashuActiveInvoicePaymentClaims :=
      if row.state = .released then
        db.cashuActiveInvoicePaymentClaims.delete fun claim => claim.paymentId = row.paymentId
      else
        db.cashuActiveInvoicePaymentClaims }

/-- The rows that the start of an effect writes before its event. -/
abbrev Db.withEffect (db : Db) (effects : Table OperatorEffectRow)
    (claims : Table ActiveInvoiceClaimRow) (jobs : Table RecoveryJobRow) : Db :=
  { db with
    cashuOperatorEffects := effects
    cashuActiveInvoicePaymentClaims := claims
    cashuStellarMeltRecoveryJobs := jobs }

/-- The rows that an acceptance writes before its event. -/
abbrev Db.withAccounting (db : Db) (journals : Table PaymentJournalRow)
    (postings : Table PaymentPostingRow) (invoices : Table MerchantInvoiceRow) : Db :=
  { db with
    merchantInvoicePaymentJournals := journals
    merchantInvoicePaymentPostings := postings
    merchantInvoices := invoices }

/-! ### Changes -/

/-- Whether a payment can go on with the event of a draft at a place in its history. -/
def EventFollows (current : CashuProofReservationLifecycle) (draft : EventDraft)
    (sequence : Nat) : Prop :=
  (draft.state = .released ∧ draft.evidenceKind = some .preDispatch ∧
      current.state = .reserved ∧ current.effect = none ∧ sequence = 0) ∨
    ∃ effect, current.effect = some effect ∧ TransitionMatches current effect draft ∧
      sequence = current.events.length

/-- What the repository has established of an observation of a quote that it stores. -/
structure QuoteObservable (db : Db) (attempt : StoredCashuStellarMeltQuoteAttempt)
    (attemptRow : MeltQuoteAttemptRow) (quote : CashuStellarMeltQuote) : Prop where
  fresh : quoteObservationAt db attempt.attemptId quote.observedAt = none
  row : db.attemptOf attempt.paymentId = some attemptRow
  mapped : mapAttemptBase attemptRow = .ok attempt
  active : ∀ state ∈ db.latestState attempt.paymentId, ¬state.toReservationState.Terminal
  latest : ∃ latest ∈ db.latestQuoteObservation attempt.attemptId,
    latest.observedAt < quote.observedAt ∧ (latest.state = .paid → quote.state = .paid)

/-- What the repository has established of an effect that it starts. -/
structure EffectStartable (db : Db) (scope : ReservationScope) (input : StartEffectInput) :
    Prop where
  loaded : loadReservation db input.paymentId = .ok (some scope)
  valid : validateStartEffect input = .ok ()
  reserved : ∃ current, loadLifecycle db scope = .ok current ∧ current.state = .reserved
  window : EffectWithinInvoice scope input.effect

/-- What the repository has established of a payment that it accepts. -/
structure PaymentAcceptable (db : Db) (scope : ReservationScope) (input : AcceptPaymentInput)
    (accounting : AcceptedInvoicePayment) (fingerprint : ProofStateFingerprint) : Prop where
  loaded : loadReservation db input.paymentId = .ok (some scope)
  isOpen : scope.invoiceState = .open ∧ scope.paidAt = none
  accounted : input.accounting scope .immediateConversion = .ok accounting
  paid : ∃ effect, assertEffectEvidence db scope input.effectId .meltPaid input.evidenceAt
    input.recordedAt = .ok effect
  snapshot : resolveProofStateEvidence db scope input.proofStateObservedAt .spent =
    .ok fingerprint

/-- What the repository has established of a release of a melt after its expiry. -/
def ReleaseJustified (db : Db) (scope : ReservationScope) (draft : EventDraft) : Prop :=
  ∃ lifecycle effect evidenceAt observedAt fingerprint, loadLifecycle db scope = .ok lifecycle ∧
    lifecycle.effect = some effect ∧ draft.evidenceAt = some evidenceAt ∧
    draft.proofStateSnapshotFingerprint = some fingerprint ∧
    resolveProofStateEvidence db scope observedAt .unspent = .ok fingerprint ∧
    assertLatestMeltReleaseEvidence db scope effect evidenceAt observedAt fingerprint = .ok ()

/-- The ways in which an accepted operation changes the rows. -/
inductive Change (db : Db) : Db → Prop
  | invoiceCreated {invoice : MerchantInvoiceRow} {request : InvoiceCashuRequestRow}
      {routeRows : List InvoiceRouteRow} {creations invoices requests routes}
      (hopen : invoice.state = .open) (hchecks : invoice.Checks)
      (hinvoices : db.merchantInvoices.Appends [invoice] invoices)
      (hrequest : request.invoiceId = invoice.id)
      (hrequests : db.invoiceCashuRequests.Appends [request] requests)
      (hrouteRows : ∀ route ∈ routeRows, route.invoiceId = invoice.id)
      (hroutes : db.invoiceCashuRequestOperators.Appends routeRows routes) :
      Change db
        { db with
          invoiceCreationRequests := creations
          merchantInvoices := invoices
          invoiceCashuRequests := requests
          invoiceCashuRequestOperators := routes }
  | keysetsObserved {observations} : Change db { db with cashuKeysetObservations := observations }
  | reserved {reservation : CashuProofReservation} {reservations proofs claims}
      (hcreated : ∃ input, createReservation input = .ok reservation)
      (hnew : db.reservation reservation.paymentId = none)
      (hroute : assertInvoiceRoute db reservation = .ok ())
      (hreservations : db.cashuProofReservations.Appends [reservationRow reservation]
        reservations)
      (hproofs : db.cashuReservedProofs.Appends (reservedProofRows reservation) proofs)
      (hclaims : db.cashuActiveProofClaims.Appends
        ((reservedProofRows reservation).map (·.claim)) claims) :
      Change db
        { db with
          cashuProofReservations := reservations
          cashuReservedProofs := proofs
          cashuActiveProofClaims := claims }
  | custodyStored {row : BearerProofCustodyRow} {custody}
      (hnoEvent : db.latestState row.paymentId = none)
      (hbundle : ∃ reservation, db.reservation row.paymentId = some reservation ∧
        BundleMatchesReservation db row.bundle reservation)
      (hcustody : db.cashuBearerProofCustody.Appends [row] custody) :
      Change db { db with cashuBearerProofCustody := custody }
  | quoteBegun {row : MeltQuoteAttemptRow} {result : CashuStellarMeltQuoteAttempt} {attempts}
      (hcustody : (db.custodyOf row.paymentId).isSome)
      (hresult : mapAttempt { db with cashuStellarMeltQuoteAttempts := attempts } row = .ok result)
      (hattempts : db.cashuStellarMeltQuoteAttempts.Appends [row] attempts) :
      Change db { db with cashuStellarMeltQuoteAttempts := attempts }
  | outcomeAmbiguous {attemptRow : MeltQuoteAttemptRow} {row : MeltQuoteOutcomeRow}
      {result : CashuStellarMeltQuoteAttempt} {outcomes}
      (hattempt : attemptRow ∈ db.cashuStellarMeltQuoteAttempts)
      (hattemptId : row.attemptId = attemptRow.attemptId)
      (hpayment : row.paymentId = attemptRow.paymentId)
      (hresult : mapAttempt { db with cashuStellarMeltQuoteOutcomes := outcomes } attemptRow =
        .ok result)
      (hnone : db.outcomeOf row.attemptId = none)
      (houtcomes : db.cashuStellarMeltQuoteOutcomes.Appends [row] outcomes) :
      Change db { db with cashuStellarMeltQuoteOutcomes := outcomes }
  | quoteRecorded {attempt : StoredCashuStellarMeltQuoteAttempt} {attemptRow : MeltQuoteAttemptRow}
      {quote : CashuStellarMeltQuote} {row : MeltQuoteOutcomeRow}
      {result : CashuStellarMeltQuoteAttempt} {outcomes observations}
      (hrow : db.attemptOf attempt.paymentId = some attemptRow)
      (hattempt : mapAttemptBase attemptRow = .ok attempt)
      (hactive : ∀ state ∈ db.latestState attempt.paymentId, ¬state.toReservationState.Terminal)
      (hnone : db.outcomeOf attempt.attemptId = none)
      (hpayment : row.paymentId = attempt.paymentId)
      (hattemptId : row.attemptId = attempt.attemptId)
      (houtcomes : db.cashuStellarMeltQuoteOutcomes.Appends [row] outcomes)
      (hunpaid : quote.state = .unpaid)
      (hobservations : db.cashuStellarMeltQuoteObservations.Appends
        [quoteObservationRow attempt quote] observations)
      (hresult : mapAttempt
        { db with
          cashuStellarMeltQuoteOutcomes := outcomes
          cashuStellarMeltQuoteObservations := observations } attemptRow = .ok result) :
      Change db
        { db with
          cashuStellarMeltQuoteOutcomes := outcomes
          cashuStellarMeltQuoteObservations := observations }
  | quoteObserved {attempt : StoredCashuStellarMeltQuoteAttempt} {attemptRow : MeltQuoteAttemptRow}
      {quote : CashuStellarMeltQuote} {result : CashuStellarMeltQuoteAttempt} {observations}
      (hobservable : QuoteObservable db attempt attemptRow quote)
      (hinput : (Operation.observe ⟨attempt.attemptId, attempt.paymentId, quote⟩).run db =
        some { db with cashuStellarMeltQuoteObservations := observations })
      (hobservations : db.cashuStellarMeltQuoteObservations.Appends
        [quoteObservationRow attempt quote] observations)
      (hresult : mapAttempt { db with cashuStellarMeltQuoteObservations := observations }
        attemptRow = .ok result) :
      Change db { db with cashuStellarMeltQuoteObservations := observations }
  | proofStateObserved {observation : PersistProofStateInput} {observations entries}
      (hsnapshot : ∃ input, createCashuProofStateSnapshot input = some observation.snapshot)
      (hevidence : ∃ reservation,
        loadReservationEvidence db observation.paymentId = .ok (some reservation) ∧
          assertObservationReservationBinding observation reservation = .ok ())
      (hactive : ∀ state ∈ db.latestState observation.paymentId,
        ¬state.toReservationState.Terminal)
      (hproposed : assertProposedTransition db observation = .ok ())
      (hobservations : db.cashuProofStateObservations.Appends
        [proofStateObservationRow observation] observations)
      (hentries : db.cashuProofStateObservationEntries.Appends (proofStateEntryRows observation)
        entries) :
      Change db
        { db with
          cashuProofStateObservations := observations
          cashuProofStateObservationEntries := entries }
  | effectStarted {scope : ReservationScope} {input : StartEffectInput}
      {lifecycle : CashuProofReservationLifecycle} {effects claims jobs events}
      (hstartable : EffectStartable db scope input)
      (heffects : db.cashuOperatorEffects.Appends [effectRow scope input.effect] effects)
      (hclaims : db.cashuActiveInvoicePaymentClaims.Appends [(effectRow scope input.effect).claim]
        claims)
      (hjobs : db.cashuStellarMeltRecoveryJobs.Appends (effectRow scope input.effect).jobs jobs)
      (hadmitted : EventAdmitted (db.withEffect effects claims jobs) (eventRow input.draft 0))
      (hevents : db.cashuProofReservationEvents.Appends [eventRow input.draft 0] events)
      (hafter : loadLifecycle
        ((db.withEffect effects claims jobs).afterEvent (eventRow input.draft 0) events) scope =
          .ok lifecycle) :
      Change db
        ((db.withEffect effects claims jobs).afterEvent (eventRow input.draft 0) events)
  | eventAppended {scope : ReservationScope} {draft : EventDraft} {sequence : Nat}
      {current lifecycle : CashuProofReservationLifecycle} {events}
      (hstate : draft.state = .pending ∨ draft.state = .needsAttention ∨ draft.state = .released)
      (hkind : draft.evidenceKind.isSome)
      (hscope : loadReservation db draft.paymentId = .ok (some scope))
      (hcurrent : loadLifecycle db scope = .ok current)
      (hfollows : EventFollows current draft sequence)
      (hrelease : draft.evidenceKind = some .meltUnpaidAfterExpiry →
        ReleaseJustified db scope draft)
      (hadmitted : EventAdmitted db (eventRow draft sequence))
      (hevents : db.cashuProofReservationEvents.Appends [eventRow draft sequence] events)
      (hafter : loadLifecycle (db.afterEvent (eventRow draft sequence) events) scope =
        .ok lifecycle) :
      Change db (db.afterEvent (eventRow draft sequence) events)
  | paymentAccepted {scope : ReservationScope} {input : AcceptPaymentInput}
      {accounting : AcceptedInvoicePayment} {fingerprint : ProofStateFingerprint}
      {current lifecycle : CashuProofReservationLifecycle}
      {journals postings invoices events db'}
      (hacceptable : PaymentAcceptable db scope input accounting fingerprint)
      (hcurrent : loadLifecycle db scope = .ok current)
      (hfollows : EventFollows current (input.draft fingerprint) current.events.length)
      (hjournals : db.merchantInvoicePaymentJournals.Appends [journalRow scope accounting] journals)
      (hpostings : db.merchantInvoicePaymentPostings.Appends (postingRows accounting) postings)
      (hpayable : ∀ row ∈ db.merchantInvoices, row.id = scope.invoiceId → row.state = .open →
        row.paidAt = none → (row.pay accounting.invoice.paidAt).Checks)
      (hinvoices : invoices.rows =
        payRows db.merchantInvoices.rows scope.invoiceId accounting.invoice.paidAt)
      (hadmitted : EventAdmitted (db.withAccounting journals postings invoices)
        (eventRow (input.draft fingerprint) current.events.length))
      (hevents : db.cashuProofReservationEvents.Appends
        [eventRow (input.draft fingerprint) current.events.length] events)
      (hdb : db' = (db.withAccounting journals postings invoices).afterEvent
        (eventRow (input.draft fingerprint) current.events.length) events)
      (hafter : loadLifecycle db' scope = .ok lifecycle)
      (haccounted : Accounted db' scope.invoiceId)
      (hbalanced : db'.Satisfies (.journalPostings accounting.journalEntry.id)) :
      Change db db'
  | leaseClaimed {row : RecoveryLeaseRow} {leases}
      (hactive : ∃ state ∈ db.latestState row.paymentId, state.toReservationState.Active)
      (hadmitted : LeaseAdmitted db row)
      (hleases : db.cashuStellarMeltRecoveryLeases.Appends [row] leases) :
      Change db { db with cashuStellarMeltRecoveryLeases := leases }
  | outcomeRecorded {input : RecordOutcomeInput} {outcomes}
      (hvalid : validateOutcome input = .ok ())
      (hadmitted : OutcomeAdmitted db input.row)
      (houtcomes : db.cashuStellarMeltRecoveryOutcomes.Appends [input.row] outcomes) :
      Change db { db with cashuStellarMeltRecoveryOutcomes := outcomes }

/-- What the operations other than the creation of an invoice do: nothing, or a change that leaves the
creation requests alone. -/
abbrev Moves (db db' : Db) : Prop :=
  db' = db ∨ Change db db' ∧ db'.invoiceCreationRequests = db.invoiceCreationRequests

/-- What the operations other than these two do: they leave the recovery outcomes alone as well. -/
abbrev MovesElsewhere (db db' : Db) : Prop :=
  db' = db ∨ Change db db' ∧ db'.invoiceCreationRequests = db.invoiceCreationRequests ∧
    db'.cashuStellarMeltRecoveryOutcomes = db.cashuStellarMeltRecoveryOutcomes

theorem MovesElsewhere.moves {db db' : Db} (h : MovesElsewhere db db') : Moves db db' :=
  h.imp_right fun ⟨hchange, hcreations, _⟩ => ⟨hchange, hcreations⟩

/-! ### Invoices, keysets, reservations and custody -/

variable {db db' : Db}

theorem insertRoutes_ok {s s' : Session} {invoice : OpenInvoice}
    {settlementDestination : CashuStellarSettlementDestination}
    {routes : List (AcceptedOperatorRoute × Nat)}
    (h : routes.foldlM (fun s route =>
        invoiceStatement (insertInvoiceRoute s
          (invoiceRouteRow invoice settlementDestination route))) s = .ok s') :
    ∃ table, s.db.invoiceCashuRequestOperators.Appends
        (routes.map (invoiceRouteRow invoice settlementDestination)) table ∧
      s'.db = { s.db with invoiceCashuRequestOperators := table } := by
  refine foldlM_ok_induction (motive := fun s routes s' =>
    ∃ table, s.db.invoiceCashuRequestOperators.Appends
        (routes.map (invoiceRouteRow invoice settlementDestination)) table ∧
      s'.db = { s.db with invoiceCashuRequestOperators := table }) ?_ ?_ h
  · intro s
    exact ⟨_, Table.Appends.refl _, rfl⟩
  · intro s route s₁ routes s' hstep ⟨table, htable, hdb⟩
    obtain ⟨first, hfirst, hs₁⟩ := insertInvoiceRoute_ok (invoiceStatement_eq_ok.mp hstep)
    rw [hs₁] at htable hdb
    exact ⟨table, hfirst.trans htable, hdb⟩

theorem createOpenInvoice_change {input : CreateOpenInvoiceInput}
    {result : CreateOpenInvoiceResult} (h : createOpenInvoice db input = .ok (result, db')) :
    db' = db ∨ Change db db' ∧
      db'.cashuStellarMeltRecoveryOutcomes = db.cashuStellarMeltRecoveryOutcomes := by
  simp only [createOpenInvoice, bind_eq_ok] at h
  obtain ⟨request, -, h⟩ := h
  split at h
  · simp only [bind_eq_ok, pure_eq_ok, Except.ok.injEq, Prod.mk.injEq] at h
    obtain ⟨-, -, -, rfl⟩ := h
    exact .inl rfl
  · simp only [bind_eq_ok, pure_eq_ok, Except.ok.injEq, Prod.mk.injEq, invoiceStatement_eq_ok,
      insertCashuPaymentRequest, Session.commit_eq_ok] at h
    obtain ⟨s₁, hcreation, s₂, hinvoice, s₄, ⟨s₃, hrequest, hroutes⟩, _, ⟨-, rfl⟩, -, rfl⟩ := h
    obtain ⟨creations, -, rfl⟩ := insertInvoiceCreation_ok hcreation
    obtain ⟨hchecks, invoices, hinvoices, hs₂⟩ := insertInvoice_ok hinvoice
    obtain ⟨requests, hrequests, hs₃⟩ := insertInvoiceRequest_ok hrequest
    obtain ⟨routes, hroutes, hs₄⟩ := insertRoutes_ok hroutes
    rw [hs₂] at hrequests hs₃
    rw [hs₃] at hroutes hs₄
    rw [hs₄]
    refine .inr ⟨.invoiceCreated rfl hchecks hinvoices rfl hrequests ?_ hroutes, rfl⟩
    intro row hrow
    obtain ⟨route, -, rfl⟩ := List.mem_map.mp hrow
    rfl

theorem persistKeysetObservation_change {row : KeysetObservationRow} {result : Bool}
    (h : persistKeysetObservation db row = .ok (result, db')) : MovesElsewhere db db' := by
  simp only [persistKeysetObservation, bind_eq_ok, ensure_eq_ok, exists_unit] at h
  obtain ⟨-, h⟩ := h
  split at h
  · simp only [bind_eq_ok, ensure_eq_ok, exists_unit, pure_eq_ok, Except.ok.injEq,
      Prod.mk.injEq] at h
    obtain ⟨-, -, rfl⟩ := h
    exact .inl rfl
  · simp only [bind_eq_ok, insertKeysetObservation, mapError_eq_ok, ensure_eq_ok, exists_unit,
      pure_eq_ok, Except.ok.injEq, Prod.mk.injEq, Session.commit_eq_ok] at h
    obtain ⟨s₁, ⟨-, table, -, rfl⟩, _, ⟨-, rfl⟩, -, rfl⟩ := h
    exact .inr ⟨.keysetsObserved, rfl, rfl⟩

theorem insertReservedProofs_ok {s s' : Session} {reservation : CashuProofReservation}
    {proofs : List (CashuProofReference × Nat)}
    (h : proofs.foldlM (fun s proof =>
        reservationStatement (insertReservedProof s (reservedProofRow reservation proof))) s =
      .ok s') :
    ∃ rows claims,
      s.db.cashuReservedProofs.Appends (proofs.map (reservedProofRow reservation)) rows ∧
      s.db.cashuActiveProofClaims.Appends
        ((proofs.map (reservedProofRow reservation)).map (·.claim)) claims ∧
      s'.db = { s.db with cashuReservedProofs := rows, cashuActiveProofClaims := claims } := by
  refine foldlM_ok_induction (motive := fun s proofs s' => ∃ rows claims,
      s.db.cashuReservedProofs.Appends (proofs.map (reservedProofRow reservation)) rows ∧
      s.db.cashuActiveProofClaims.Appends
        ((proofs.map (reservedProofRow reservation)).map (·.claim)) claims ∧
      s'.db = { s.db with cashuReservedProofs := rows, cashuActiveProofClaims := claims })
    ?_ ?_ h
  · intro s
    exact ⟨_, _, Table.Appends.refl _, Table.Appends.refl _, rfl⟩
  · intro s proof s₁ proofs s' hstep ⟨rows, claims, hrows, hclaims, hdb⟩
    obtain ⟨first, claim, hfirst, hclaim, rfl⟩ :=
      insertReservedProof_ok (reservationStatement_eq_ok.mp hstep)
    exact ⟨rows, claims, hfirst.trans hrows, hclaim.trans hclaims, hdb⟩

theorem reserve_change {input : ReserveInput} {result : ReserveResult}
    (h : reserve db input = .ok (result, db')) : MovesElsewhere db db' := by
  simp only [reserve, bind_eq_ok] at h
  obtain ⟨reservation, hcreated, h⟩ := h
  split at h
  · simp only [bind_eq_ok, pure_eq_ok, Except.ok.injEq, Prod.mk.injEq] at h
    obtain ⟨-, -, -, rfl⟩ := h
    exact .inl rfl
  · case h_2 hnew =>
    simp only [bind_eq_ok, ensure_eq_ok, exists_unit, reservationStatement_eq_ok, pure_eq_ok,
      Except.ok.injEq, Prod.mk.injEq, Session.commit_eq_ok] at h
    obtain ⟨hroute, -, -, s₁, hreservation, s₂, hproofs, _, ⟨-, rfl⟩, -, rfl⟩ := h
    obtain ⟨-, reservations, hreservations, rfl⟩ := insertReservation_ok hreservation
    obtain ⟨rows, claims, hrows, hclaims, hdb⟩ := insertReservedProofs_ok hproofs
    rw [hdb]
    exact .inr ⟨.reserved ⟨input, hcreated⟩ hnew hroute hreservations hrows hclaims,
      rfl, rfl⟩

theorem storeCustody_change {paymentId : PaymentId} {bundle : CashuBearerProofBundle}
    {createdAt : UnixTimestamp} {result : Bool}
    (h : storeCustody db paymentId bundle createdAt = .ok (result, db')) :
    MovesElsewhere db db' := by
  simp only [storeCustody, bind_eq_ok, orFail_eq_ok, ensure_eq_ok, exists_unit] at h
  obtain ⟨reservation, hreservation, hbundle, h⟩ := h
  split at h
  · simp only [bind_eq_ok, ensure_eq_ok, exists_unit, pure_eq_ok, Except.ok.injEq,
      Prod.mk.injEq] at h
    obtain ⟨-, -, rfl⟩ := h
    exact .inl rfl
  · simp only [bind_eq_ok, orFail_eq_ok, ensure_eq_ok, exists_unit, mapError_eq_ok, pure_eq_ok,
      Except.ok.injEq, Prod.mk.injEq, Session.commit_eq_ok] at h
    obtain ⟨invoice, -, ⟨hnoEvent, -⟩, s₁, hinsert, _, ⟨-, rfl⟩, -, rfl⟩ := h
    obtain ⟨-, custody, hcustody, rfl⟩ := insertCustody_ok hinsert
    exact .inr ⟨.custodyStored hnoEvent ⟨reservation, hreservation, hbundle⟩ hcustody,
      rfl, rfl⟩

/-! ### Evidence -/

theorem beginQuote_change {input : BeginInput} {result : QuoteAttemptResult}
    (h : beginQuote db input = .ok (result, db')) : MovesElsewhere db db' := by
  simp only [beginQuote, bind_eq_ok, orFail_eq_ok, ensure_eq_ok, exists_unit] at h
  obtain ⟨request, -, -, reservation, -, invoice, -, route, -, h⟩ := h
  split at h
  · simp only [bind_eq_ok, pure_eq_ok, Except.ok.injEq, Prod.mk.injEq] at h
    obtain ⟨-, -, -, rfl⟩ := h
    exact .inl rfl
  · simp only [bind_eq_ok, exists_unit, quoteStatement_eq_ok, pure_eq_ok, Except.ok.injEq,
      Prod.mk.injEq, Session.commit_eq_ok] at h
    obtain ⟨-, s₁, hinsert, mapped, hmapped, _, ⟨-, rfl⟩, -, rfl⟩ := h
    obtain ⟨⟨_, -, _, -, custody, hcustody, -⟩, attempts, hattempts, rfl⟩ :=
      insertQuoteAttempt_ok hinsert
    exact .inr ⟨.quoteBegun (Option.isSome_iff_exists.mpr ⟨custody, hcustody⟩) hmapped hattempts,
      rfl, rfl⟩

theorem attemptOf_of_lockAttempt {attemptId : CashuStellarMeltQuoteAttemptId}
    {paymentId : PaymentId} {row : MeltQuoteAttemptRow}
    (h : lockAttempt db attemptId paymentId = .ok row) :
    db.attemptOf paymentId = some row ∧ row.attemptId = attemptId ∧ row.paymentId = paymentId := by
  simp only [lockAttempt] at h
  split at h
  · cases h
  · case h_2 found hfound =>
    simp only [bind_eq_ok, ensure_eq_ok, exists_unit, pure_eq_ok, Except.ok.injEq] at h
    obtain ⟨⟨hattemptId, hpayment⟩, rfl⟩ := h
    have hmem : found ∈ db.cashuStellarMeltQuoteAttempts := by
      have hselect : found ∈ conflictingAttempts db attemptId paymentId := by simp [hfound]
      exact (Table.mem_select.mp hselect).1
    cases hfind : db.attemptOf paymentId with
    | none => exact absurd hpayment (Table.find_none.mp hfind found hmem)
    | some other =>
        obtain ⟨hother, hsame⟩ := Table.find_some hfind
        have hselect : other ∈ conflictingAttempts db attemptId paymentId :=
          Table.mem_select.mpr ⟨hother, .inr hsame⟩
        rw [hfound, List.mem_singleton] at hselect
        exact ⟨by rw [hselect], hattemptId, hpayment⟩
  · cases h

theorem mapAttemptBase_ok {row : MeltQuoteAttemptRow} {attempt : StoredCashuStellarMeltQuoteAttempt}
    (h : mapAttemptBase row = .ok attempt) :
    attempt.attemptId = row.attemptId ∧ attempt.paymentId = row.paymentId :=
  attempt_of_record (mapError_eq_ok.mp h)

theorem recordAmbiguous_change {input : AmbiguousInput} {result : QuoteAttemptResult}
    (h : recordAmbiguous db input = .ok (result, db')) : MovesElsewhere db db' := by
  simp only [recordAmbiguous, bind_eq_ok, ensure_eq_ok, exists_unit] at h
  obtain ⟨-, -, row, hlock, attempt, hattempt, -, h⟩ := h
  split at h
  · simp only [bind_eq_ok, ensure_eq_ok, exists_unit, pure_eq_ok, Except.ok.injEq,
      Prod.mk.injEq] at h
    obtain ⟨-, -, -, -, -, rfl⟩ := h
    exact .inl rfl
  · case h_2 hnone =>
    simp only [bind_eq_ok, exists_unit, quoteStatement_eq_ok, pure_eq_ok, Except.ok.injEq,
      Prod.mk.injEq, Session.commit_eq_ok] at h
    obtain ⟨-, s₁, hinsert, mapped, hmapped, _, ⟨-, rfl⟩, -, rfl⟩ := h
    obtain ⟨-, outcomes, houtcomes, rfl⟩ := insertQuoteOutcome_ok hinsert
    obtain ⟨hrow, -, -⟩ := attemptOf_of_lockAttempt hlock
    obtain ⟨hattemptId, hpayment⟩ := mapAttemptBase_ok hattempt
    exact .inr ⟨.outcomeAmbiguous (Table.find_some hrow).1 hattemptId hpayment hmapped hnone
      houtcomes, rfl, rfl⟩

theorem recordQuote_change {input : QuoteInput} {result : QuoteAttemptResult}
    (h : recordQuote db input = .ok (result, db')) : MovesElsewhere db db' := by
  simp only [recordQuote, bind_eq_ok, exists_unit] at h
  obtain ⟨quote, -, -, row, hlock, attempt, hattempt, hinitial, h⟩ := h
  split at h
  · simp only [bind_eq_ok, ensure_eq_ok, exists_unit, pure_eq_ok, Except.ok.injEq,
      Prod.mk.injEq] at h
    obtain ⟨-, -, -, -, -, rfl⟩ := h
    exact .inl rfl
  · case h_2 hnone =>
    simp only [bind_eq_ok, exists_unit, quoteStatement_eq_ok, pure_eq_ok, Except.ok.injEq,
      Prod.mk.injEq, Session.commit_eq_ok] at h
    obtain ⟨-, s₁, houtcome, s₂, hobservation, mapped, hmapped, _, ⟨-, rfl⟩, -, rfl⟩ := h
    simp only [assertInitialQuote, bind_eq_ok, ensure_eq_ok, exists_unit] at hinitial
    obtain ⟨-, outcomes, houtcomes, rfl⟩ := insertQuoteOutcome_ok houtcome
    obtain ⟨hactive, -, observations, hobservations, rfl⟩ := insertQuoteObservation_ok hobservation
    obtain ⟨hrow, -, hpayment⟩ := attemptOf_of_lockAttempt hlock
    have hsame : attempt.paymentId = input.paymentId := by
      rw [(mapAttemptBase_ok hattempt).2, hpayment]
    refine .inr ⟨.quoteRecorded (hsame ▸ hrow) hattempt hactive hnone ?_ ?_ houtcomes hinitial.2.1
      hobservations hmapped, rfl, rfl⟩
    · rfl
    · rfl

/-- An observation is stored already, or it is a new one of the attempt of its payment. -/
theorem observe_ok {input : QuoteInput} {result : QuoteAttemptResult}
    (h : observe db input = .ok (result, db')) :
    (db' = db ∧ (quoteObservationAt db input.attemptId input.quote.observedAt).isSome) ∨
      ∃ attempt attemptRow mapped observations, attempt.attemptId = input.attemptId ∧
        attempt.paymentId = input.paymentId ∧
        QuoteObservable db attempt attemptRow input.quote ∧
        db.cashuStellarMeltQuoteObservations.Appends [quoteObservationRow attempt input.quote]
          observations ∧
        mapAttempt { db with cashuStellarMeltQuoteObservations := observations } attemptRow =
          .ok mapped ∧
        db' = { db with cashuStellarMeltQuoteObservations := observations } := by
  simp only [observe, bind_eq_ok, orFail_eq_ok, ensure_eq_ok, exists_unit] at h
  obtain ⟨quote, hquote, -, row, hlock, attempt, hattempt, outcome, -, -, -, h⟩ := h
  obtain rfl : quote = input.quote := createCashuStellarMeltQuote_some hquote
  obtain ⟨hrow, hattemptId, hpayment⟩ := attemptOf_of_lockAttempt hlock
  obtain ⟨hsameId, hsame⟩ := mapAttemptBase_ok hattempt
  rw [hattemptId] at hsameId
  rw [hpayment] at hsame
  split at h
  · case h_1 hstored =>
    simp only [bind_eq_ok, ensure_eq_ok, exists_unit, pure_eq_ok, Except.ok.injEq,
      Prod.mk.injEq] at h
    obtain ⟨-, -, -, -, rfl⟩ := h
    rw [hsameId] at hstored
    exact .inl ⟨rfl, Option.isSome_iff_exists.mpr ⟨_, hstored⟩⟩
  · case h_2 hfresh =>
    simp only [bind_eq_ok, ensure_eq_ok, exists_unit, quoteStatement_eq_ok, pure_eq_ok,
      Except.ok.injEq, Prod.mk.injEq, Session.commit_eq_ok] at h
    obtain ⟨hactive, hlatest, s₁, hinsert, mapped, hmapped, _, ⟨-, rfl⟩, -, rfl⟩ := h
    obtain ⟨-, -, observations, hobservations, rfl⟩ := insertQuoteObservation_ok hinsert
    exact .inr ⟨attempt, row, mapped, observations, hsameId, hsame,
      ⟨hfresh, hsame ▸ hrow, hattempt, hactive, hlatest⟩, hobservations, hmapped, rfl⟩

theorem observe_change {input : QuoteInput} {result : QuoteAttemptResult}
    (h : observe db input = .ok (result, db')) : MovesElsewhere db db' := by
  have hcommitted : (Operation.observe input).run db = some db' := committed_eq_some.mpr ⟨_, h⟩
  rcases observe_ok h with ⟨rfl, -⟩ | ⟨attempt, attemptRow, mapped, observations, hattemptId,
    hpayment, hobservable, hobservations, hmapped, rfl⟩
  · exact .inl rfl
  · exact .inr ⟨.quoteObserved hobservable (hattemptId ▸ hpayment ▸ hcommitted) hobservations
      hmapped, rfl, rfl⟩

theorem insertProofStateEntries_ok {s s' : Session} {observation : PersistProofStateInput}
    {states : List (CashuProofStateEntry × Nat)}
    (h : states.foldlM (fun s state =>
        proofStateStatement (insertProofStateEntry s (proofStateEntryRow observation state))) s =
      .ok s') :
    ∃ entries, s.db.cashuProofStateObservationEntries.Appends
        (states.map (proofStateEntryRow observation)) entries ∧
      s'.db = { s.db with cashuProofStateObservationEntries := entries } := by
  refine foldlM_ok_induction (motive := fun s states s' =>
    ∃ entries, s.db.cashuProofStateObservationEntries.Appends
        (states.map (proofStateEntryRow observation)) entries ∧
      s'.db = { s.db with cashuProofStateObservationEntries := entries }) ?_ ?_ h
  · intro s
    exact ⟨_, Table.Appends.refl _, rfl⟩
  · intro s state s₁ states s' hstep ⟨entries, hentries, hdb⟩
    obtain ⟨first, hfirst, rfl⟩ := insertProofStateEntry_ok (proofStateStatement_eq_ok.mp hstep)
    exact ⟨entries, hfirst.trans hentries, hdb⟩

theorem persistProofState_change {input : PersistProofStateInput}
    {result : PersistProofStateResult} (h : persistProofState db input = .ok (result, db')) :
    MovesElsewhere db db' := by
  simp only [persistProofState, bind_eq_ok, orFail_eq_ok, exists_unit] at h
  obtain ⟨snapshot, hsnapshot, evidence, hevidence, reservation, rfl, hbinding, -, h⟩ := h
  split at h
  · simp only [bind_eq_ok, ensure_eq_ok, exists_unit, pure_eq_ok, Except.ok.injEq,
      Prod.mk.injEq] at h
    obtain ⟨-, -, -, -, rfl⟩ := h
    exact .inl rfl
  · simp only [bind_eq_ok, ensure_eq_ok, exists_unit, proofStateStatement_eq_ok, pure_eq_ok,
      Except.ok.injEq, Prod.mk.injEq, Session.commit_eq_ok] at h
    obtain ⟨hactive, hproposed, s₁, hobservation, s₂, hentries, _, ⟨-, rfl⟩, -, rfl⟩ := h
    obtain ⟨-, observations, hobservations, rfl⟩ := insertProofStateObservation_ok hobservation
    obtain ⟨entries, hentries, hdb⟩ := insertProofStateEntries_ok hentries
    rw [hdb]
    refine .inr ⟨?_, rfl, rfl⟩
    exact @Change.proofStateObserved db { input with snapshot } observations entries
      ⟨_, hsnapshot⟩ ⟨reservation, hevidence, hbinding⟩ hactive hproposed hobservations hentries

/-! ### The lifecycle -/

theorem loadReservation_ok {paymentId : PaymentId} {scope : ReservationScope}
    (h : loadReservation db paymentId = .ok (some scope)) :
    ∃ reservation invoice, db.reservation paymentId = some reservation ∧
      db.invoice reservation.invoiceId = some invoice ∧
      scope = reservationScope reservation invoice ∧ scope.StateFitsPaidAt := by
  simp only [loadReservation] at h
  split at h
  · cases h
  · case h_2 found hjoined =>
    simp only [bind_eq_ok, ensure_eq_ok, exists_unit, pure_eq_ok, Except.ok.injEq,
      Option.some.injEq] at h
    obtain ⟨hfits, rfl⟩ := h
    simp only [Option.bind_eq_bind, Option.bind_eq_some_iff, Option.pure_def,
      Option.some.injEq] at hjoined
    obtain ⟨reservation, hreservation, invoice, hinvoice, hscope⟩ := hjoined
    exact ⟨reservation, invoice, hreservation, hinvoice, hscope.symm, hfits⟩

theorem paymentId_of_reservation {paymentId : PaymentId} {reservation : ReservationRow}
    (h : db.reservation paymentId = some reservation) : reservation.paymentId = paymentId :=
  (Table.find_some h).2

theorem paymentId_of_loadReservation {paymentId : PaymentId} {scope : ReservationScope}
    (h : loadReservation db paymentId = .ok (some scope)) : scope.paymentId = paymentId := by
  obtain ⟨reservation, invoice, hreservation, -, rfl, -⟩ := loadReservation_ok h
  exact paymentId_of_reservation hreservation

theorem requireReservation_ok {paymentId : PaymentId} {scope : ReservationScope}
    (h : requireReservation db paymentId = .ok scope) :
    loadReservation db paymentId = .ok (some scope) := by
  simp only [requireReservation, bind_eq_ok, orFail_eq_ok] at h
  obtain ⟨loaded, hloaded, rfl⟩ := h
  exact hloaded

/-- A draft is replayed exactly when its event is stored. -/
theorem replayed_of_replayEvent {draft : EventDraft} {effect : Option CashuOperatorEffect}
    {replay : LifecycleResult} (h : replayEvent db draft effect = .ok (some replay)) :
    replay.replayed = true := by
  unfold replayEvent at h
  split at h
  · cases h
  · simp only [bind_eq_ok, ensure_eq_ok, exists_unit, pure_eq_ok, Except.ok.injEq,
      Option.some.injEq] at h
    obtain ⟨-, scope, -, lifecycle, -, -, -, rfl⟩ := h
    rfl

theorem replayEvent_none {draft : EventDraft} {effect : Option CashuOperatorEffect}
    (h : replayEvent db draft effect = .ok none) :
    (db.cashuProofReservationEvents.find fun row => row.eventId = draft.eventId) = none := by
  simp only [replayEvent] at h
  split at h
  · case h_1 hfind => exact hfind
  · simp [bind_eq_ok] at h

theorem replayEvent_of_find_none {draft : EventDraft} {effect : Option CashuOperatorEffect}
    (h : (db.cashuProofReservationEvents.find fun row => row.eventId = draft.eventId) = none) :
    replayEvent db draft effect = .ok none := by
  rw [replayEvent, h]
  rfl

theorem appendEvent_ok {s s' : Session} {scope : ReservationScope} {draft : EventDraft}
    {sequence : Nat} {result : LifecycleResult} (hpayment : scope.paymentId = draft.paymentId)
    (h : appendEvent s scope draft sequence = .ok (result, s')) :
    EventAdmitted s.db (eventRow draft sequence) ∧ ∃ events,
      s.db.cashuProofReservationEvents.Appends [eventRow draft sequence] events ∧
      s'.db = s.db.afterEvent (eventRow draft sequence) events ∧
      loadLifecycle s'.db scope = .ok result.lifecycle ∧
      ∀ check ∈ s.deferred, check ∈ s'.deferred := by
  simp only [appendEvent, insertEvent, bind_eq_ok, lifecycleStatement_eq_ok, pure_eq_ok,
    Except.ok.injEq, Prod.mk.injEq] at h
  obtain ⟨s₁, hinsert, lifecycle, hlifecycle, rfl, rfl⟩ := h
  obtain ⟨hadmitted, events, hevents, rfl⟩ := insertEventRow_ok hinsert
  refine ⟨hadmitted, events, hevents, ?_, hlifecycle, ?_⟩
  · by_cases hreleased : draft.state = .released
    · simp [deleteActiveClaims, Db.afterEvent, eventRow, hreleased, hpayment]
    · simp [Db.afterEvent, eventRow, hreleased]
  · intro check hcheck
    by_cases hreleased : draft.state = .released
    · simp [deleteActiveClaims, hreleased, hcheck]
    · simp [hreleased, hcheck]

theorem persistTransitionInTransaction_ok {s s' : Session} {scope : ReservationScope}
    {draft : EventDraft} {result : LifecycleResult} (hpayment : scope.paymentId = draft.paymentId)
    (h : persistTransitionInTransaction s scope draft = .ok (result, s')) :
    (s' = s ∧ replayEvent s.db draft none = .ok (some result)) ∨ ∃ current sequence events,
      loadLifecycle s.db scope = .ok current ∧ EventFollows current draft sequence ∧
      EventAdmitted s.db (eventRow draft sequence) ∧
      s.db.cashuProofReservationEvents.Appends [eventRow draft sequence] events ∧
      s'.db = s.db.afterEvent (eventRow draft sequence) events ∧
      loadLifecycle s'.db scope = .ok result.lifecycle ∧
      ∀ check ∈ s.deferred, check ∈ s'.deferred := by
  simp only [persistTransitionInTransaction, bind_eq_ok] at h
  obtain ⟨replay, hreplay, h⟩ := h
  cases replay with
  | some replay =>
      simp only [pure_eq_ok, Except.ok.injEq, Prod.mk.injEq] at h
      obtain ⟨rfl, rfl⟩ := h
      exact .inl ⟨rfl, hreplay⟩
  | none =>
      simp only [bind_eq_ok] at h
      obtain ⟨current, hcurrent, h⟩ := h
      right
      split at h
      · case isTrue hpre =>
        simp only [bind_eq_ok, ensure_eq_ok, exists_unit] at h
        obtain ⟨⟨hreserved, hnoEffect, -⟩, h⟩ := h
        obtain ⟨hadmitted, events, hevents, hdb, hafter, hdeferred⟩ := appendEvent_ok hpayment h
        exact ⟨current, 0, events, hcurrent,
          .inl ⟨hpre.1, hpre.2, hreserved, hnoEffect, rfl⟩, hadmitted, hevents, hdb, hafter,
          hdeferred⟩
      · simp only [bind_eq_ok, orFail_eq_ok, ensure_eq_ok, exists_unit] at h
        obtain ⟨effect, heffect, hmatches, -, h⟩ := h
        obtain ⟨hadmitted, events, hevents, hdb, hafter, hdeferred⟩ := appendEvent_ok hpayment h
        exact ⟨current, current.events.length, events, hcurrent,
          .inr ⟨effect, heffect, hmatches, rfl⟩, hadmitted, hevents, hdb, hafter, hdeferred⟩

/-- A transition in its own transaction either replays its event or appends it. -/
theorem transition_change {scope : ReservationScope} {draft : EventDraft} {s : Session}
    {result : LifecycleResult}
    (hstate : draft.state = .pending ∨ draft.state = .needsAttention ∨ draft.state = .released)
    (hkind : draft.evidenceKind.isSome)
    (hscope : loadReservation db draft.paymentId = .ok (some scope))
    (hrelease : draft.evidenceKind = some .meltUnpaidAfterExpiry →
      ReleaseJustified db scope draft)
    (h : persistTransitionInTransaction ⟨db, []⟩ scope draft = .ok (result, s)) :
    MovesElsewhere db s.db := by
  rcases persistTransitionInTransaction_ok (paymentId_of_loadReservation hscope) h with
    ⟨rfl, -⟩ | ⟨current, sequence, events, hcurrent, hfollows, hadmitted, hevents, hdb, hafter, -⟩
  · exact .inl rfl
  · rw [hdb] at hafter ⊢
    exact .inr ⟨.eventAppended hstate hkind hscope hcurrent hfollows hrelease hadmitted hevents
      hafter, rfl, rfl⟩

theorem persistTransition_change {draft : EventDraft} {result : LifecycleResult}
    (hstate : draft.state = .pending ∨ draft.state = .needsAttention ∨ draft.state = .released)
    (hkind : draft.evidenceKind.isSome)
    (hother : draft.evidenceKind ≠ some .meltUnpaidAfterExpiry)
    (h : persistTransition db draft = .ok (result, db')) : MovesElsewhere db db' := by
  simp only [persistTransition, bind_eq_ok, commitLifecycle, lifecycleStatement_eq_ok,
    pure_eq_ok, Except.ok.injEq, Prod.mk.injEq, Session.commit_eq_ok] at h
  obtain ⟨scope, hscope, ⟨_, s⟩, htransition, _, ⟨-, rfl⟩, rfl, rfl⟩ := h
  exact transition_change hstate hkind (requireReservation_ok hscope)
    (fun hsame => absurd hsame hother) htransition

theorem recordPending_change {input : EventInput} {result : LifecycleResult}
    (h : recordPending db input = .ok (result, db')) : MovesElsewhere db db' := by
  simp only [recordPending, bind_eq_ok] at h
  obtain ⟨-, -, h⟩ := h
  exact persistTransition_change (.inl rfl) rfl (by simp) h

theorem requireAttention_change {input : EventInput} {reason : CashuOperatorAttentionReason}
    {result : LifecycleResult} (h : requireAttention db input reason = .ok (result, db')) :
    MovesElsewhere db db' := by
  simp only [requireAttention, bind_eq_ok] at h
  obtain ⟨-, -, h⟩ := h
  exact persistTransition_change (.inr (.inl rfl)) rfl (by simp) h

theorem assertEffectEvidence_ok {scope : ReservationScope} {effectId : CashuOperatorEffectId}
    {kind : EvidenceKind} {evidenceAt recordedAt : UnixTimestamp} {effect : CashuOperatorEffect}
    (h : assertEffectEvidence db scope effectId kind evidenceAt recordedAt = .ok effect) :
    (∃ lifecycle, loadLifecycle db scope = .ok lifecycle ∧ lifecycle.effect = some effect) ∧
      effect.startedAt ≤ evidenceAt ∧
      (kind = .meltPaid →
        effect.kind = .melt ∧ assertMeltPaidEvidence db scope effect evidenceAt = .ok ()) := by
  simp only [assertEffectEvidence, bind_eq_ok, orFail_eq_ok, ensure_eq_ok, exists_unit] at h
  obtain ⟨lifecycle, hlifecycle, stored, hstored, ⟨-, -, -, hstarted, -⟩, h⟩ := h
  split at h
  · simp only [bind_eq_ok, ensure_eq_ok, exists_unit, pure_eq_ok, Except.ok.injEq] at h
    obtain ⟨hmelt, hpaid, rfl⟩ := h
    exact ⟨⟨lifecycle, hlifecycle, hstored⟩, hstarted, fun _ => ⟨hmelt, hpaid⟩⟩
  · case isFalse hkind =>
    cases h
    exact ⟨⟨lifecycle, hlifecycle, hstored⟩, hstarted, fun hpaid => absurd hpaid hkind⟩

theorem afterFailureDraft_ok {scope : ReservationScope} {input : AfterFailureReleaseInput}
    {draft : EventDraft} (h : afterFailureDraft db scope input = .ok draft) :
    ∃ effect fingerprint,
      (∃ lifecycle, loadLifecycle db scope = .ok lifecycle ∧ lifecycle.effect = some effect) ∧
      resolveProofStateEvidence db scope input.proofStateObservedAt .unspent = .ok fingerprint ∧
      (input.evidenceKind = .meltUnpaidAfterExpiry →
        assertLatestMeltReleaseEvidence db scope effect input.evidenceAt input.proofStateObservedAt
          fingerprint = .ok ()) ∧
      draft = input.draft fingerprint := by
  simp only [afterFailureDraft, bind_eq_ok] at h
  obtain ⟨effect, heffect, fingerprint, hfingerprint, h⟩ := h
  refine ⟨effect, fingerprint, (assertEffectEvidence_ok heffect).1, hfingerprint, ?_⟩
  split at h
  · simp only [bind_eq_ok, exists_unit, pure_eq_ok, Except.ok.injEq] at h
    obtain ⟨-, hlatest, hdraft⟩ := h
    exact ⟨fun _ => hlatest, hdraft.symm⟩
  · case isFalse hkind =>
    cases h
    exact ⟨fun hmelt => absurd hmelt hkind, rfl⟩

theorem releaseJustified_of_draft {scope : ReservationScope} {input : AfterFailureReleaseInput}
    {draft : EventDraft} (h : afterFailureDraft db scope input = .ok draft) :
    draft.evidenceKind = some .meltUnpaidAfterExpiry → ReleaseJustified db scope draft := by
  obtain ⟨effect, fingerprint, ⟨lifecycle, hlifecycle, hstored⟩, hfingerprint, hlatest, rfl⟩ :=
    afterFailureDraft_ok h
  intro hkind
  have hmelt : input.evidenceKind = .meltUnpaidAfterExpiry := by
    simpa [AfterFailureReleaseInput.draft] using hkind
  exact ⟨lifecycle, effect, input.evidenceAt, input.proofStateObservedAt, fingerprint, hlifecycle,
    hstored, rfl, rfl, hfingerprint, hlatest hmelt⟩

theorem release_change {input : ReleaseInput} {result : LifecycleResult}
    (h : release db input = .ok (result, db')) : MovesElsewhere db db' := by
  cases input with
  | preDispatch input =>
      simp only [release, bind_eq_ok] at h
      obtain ⟨-, -, h⟩ := h
      exact persistTransition_change (.inr (.inr rfl)) rfl
        (by simp [PreDispatchReleaseInput.draft]) h
  | afterFailure input =>
      simp only [release, bind_eq_ok, commitLifecycle, lifecycleStatement_eq_ok, pure_eq_ok,
        Except.ok.injEq, Prod.mk.injEq, Session.commit_eq_ok] at h
      obtain ⟨-, -, scope, hscope, draft, hdraft, ⟨_, s⟩, htransition, _, ⟨-, rfl⟩, rfl, rfl⟩ := h
      have hrelease := releaseJustified_of_draft hdraft
      obtain ⟨_, fingerprint, -, -, -, rfl⟩ := afterFailureDraft_ok hdraft
      exact transition_change (.inr (.inr rfl)) rfl (requireReservation_ok hscope) hrelease
        htransition

theorem startEffect_ok {input : StartEffectInput} {result : LifecycleResult}
    (h : startEffect db input = .ok (result, db')) :
    validateStartEffect input = .ok () ∧ ∃ scope,
      loadReservation db input.paymentId = .ok (some scope) ∧
      ((db' = db ∧ replayEvent db input.draft (some input.effect) = .ok (some result)) ∨
        ∃ effects claims jobs events, EffectStartable db scope input ∧
          db.cashuOperatorEffects.Appends [effectRow scope input.effect] effects ∧
          db.cashuActiveInvoicePaymentClaims.Appends [(effectRow scope input.effect).claim] claims ∧
          db.cashuStellarMeltRecoveryJobs.Appends (effectRow scope input.effect).jobs jobs ∧
          EventAdmitted (db.withEffect effects claims jobs) (eventRow input.draft 0) ∧
          db.cashuProofReservationEvents.Appends [eventRow input.draft 0] events ∧
          db' = (db.withEffect effects claims jobs).afterEvent (eventRow input.draft 0) events ∧
          loadLifecycle db' scope = .ok result.lifecycle) := by
  simp only [startEffect, bind_eq_ok] at h
  obtain ⟨⟨⟩, hvalid, scope, hscope, replay, hreplay, h⟩ := h
  refine ⟨hvalid, scope, requireReservation_ok hscope, ?_⟩
  cases replay with
  | some replay =>
      simp only [pure_eq_ok, Except.ok.injEq, Prod.mk.injEq] at h
      obtain ⟨rfl, rfl⟩ := h
      exact .inl ⟨rfl, hreplay⟩
  | none =>
      simp only [bind_eq_ok, ensure_eq_ok, exists_unit] at h
      obtain ⟨current, hcurrent, hreserved, hwindow, h⟩ := h
      have hrest : ∃ s₁, insertEffect ⟨db, []⟩ (effectRow scope input.effect) = .ok s₁ ∧
          ∃ s₂, insertEventRow s₁ (eventRow input.draft 0) = .ok s₂ ∧
          loadLifecycle s₂.db scope = .ok result.lifecycle ∧ s₂.db = db' := by
        split at h
        · simp only [bind_eq_ok, insertEvent, commitLifecycle, lifecycleStatement_eq_ok,
            pure_eq_ok, Except.ok.injEq, Prod.mk.injEq, Session.commit_eq_ok] at h
          obtain ⟨-, -, s₁, hs₁, s₂, hs₂, lifecycle, hafter, _, ⟨-, rfl⟩, rfl, rfl⟩ := h
          exact ⟨s₁, hs₁, s₂, hs₂, hafter, rfl⟩
        · simp only [bind_eq_ok, insertEvent, commitLifecycle, lifecycleStatement_eq_ok,
            pure_eq_ok, Except.ok.injEq, Prod.mk.injEq, Session.commit_eq_ok] at h
          obtain ⟨s₁, hs₁, s₂, hs₂, lifecycle, hafter, _, ⟨-, rfl⟩, rfl, rfl⟩ := h
          exact ⟨s₁, hs₁, s₂, hs₂, hafter, rfl⟩
      obtain ⟨s₁, heffect, s₂, hevent, hafter, rfl⟩ := hrest
      obtain ⟨-, effects, claims, jobs, heffects, hclaims, hjobs, rfl⟩ := insertEffect_ok heffect
      obtain ⟨hadmitted, events, hevents, rfl⟩ := insertEventRow_ok hevent
      exact .inr ⟨effects, claims, jobs, events, ⟨requireReservation_ok hscope, hvalid,
        ⟨current, hcurrent, hreserved⟩, hwindow⟩, heffects, hclaims, hjobs, hadmitted, hevents, rfl,
        hafter⟩

theorem startEffect_change {input : StartEffectInput} {result : LifecycleResult}
    (h : startEffect db input = .ok (result, db')) : MovesElsewhere db db' := by
  obtain ⟨-, scope, -, ⟨hsame, -⟩ | ⟨effects, claims, jobs, events, hstartable, heffects, hclaims,
    hjobs, hadmitted, hevents, rfl, hafter⟩⟩ := startEffect_ok h
  · exact .inl hsame
  · exact .inr ⟨.effectStarted hstartable heffects hclaims hjobs hadmitted hevents hafter,
      rfl, rfl⟩

theorem insertPostings_ok {s s' : Session} {journalEntryId : JournalEntryId}
    {postings : List (LedgerPosting × Nat)}
    (h : postings.foldlM (fun s posting =>
        lifecycleStatement (insertPosting s (postingRow journalEntryId posting))) s = .ok s') :
    (∃ rows, s.db.merchantInvoicePaymentPostings.Appends
        (postings.map (postingRow journalEntryId)) rows ∧
      s'.db = { s.db with merchantInvoicePaymentPostings := rows }) ∧
      ∀ check ∈ s.deferred, check ∈ s'.deferred := by
  refine foldlM_ok_induction (motive := fun s postings s' =>
    (∃ rows, s.db.merchantInvoicePaymentPostings.Appends
        (postings.map (postingRow journalEntryId)) rows ∧
      s'.db = { s.db with merchantInvoicePaymentPostings := rows }) ∧
      ∀ check ∈ s.deferred, check ∈ s'.deferred) ?_ ?_ h
  · intro s
    exact ⟨⟨_, Table.Appends.refl _, rfl⟩, fun _ hcheck => hcheck⟩
  · intro s posting s₁ postings s' hstep ⟨⟨rows, hrows, hdb⟩, hdeferred⟩
    obtain ⟨first, hfirst, rfl⟩ := insertPosting_ok (lifecycleStatement_eq_ok.mp hstep)
    refine ⟨⟨rows, hfirst.trans hrows, hdb⟩, fun check hcheck => hdeferred check ?_⟩
    simp [hcheck]

theorem accounting_ok {scope : ReservationScope} {input : AcceptPaymentInput}
    {mode : SettlementMode} {accounting : AcceptedInvoicePayment}
    (h : input.accounting scope mode = .ok accounting) :
    accounting = {
      invoice := {
        base := scope.invoice
        paidAt := input.proofStateObservedAt
        payment := {
          acceptedAt := input.proofStateObservedAt
          assetAccount := stellarTestnetUsdcAccount
          feeAmount := input.feeAmount
          grossAmount := scope.amount
          journalEntryId := input.journalEntryId
          netAmount := scope.amount - input.feeAmount
          operatorId := scope.operatorId
          paymentId := scope.paymentId
          settlementMode := mode } }
      journalEntry := {
        effectiveAt := input.recordedAt
        id := input.journalEntryId
        postings := invoicePaymentPostings stellarTestnetUsdcAccount scope.merchantId scope.amount
          input.feeAmount
        reference := {
          invoiceId := scope.invoiceId
          merchantId := scope.merchantId
          operatorId := scope.operatorId
          paymentId := scope.paymentId
          settlementMode := mode } } } := by
  simp only [AcceptPaymentInput.accounting, acceptInvoicePayment, createInvoice,
    createInvoicePaymentJournal, createJournalEntry, minorUnits, bind_eq_ok, ensure_eq_ok,
    exists_unit, pure_eq_ok, Except.ok.injEq] at h
  obtain ⟨_, ⟨-, -, _, ⟨-, rfl⟩, -, -, rfl⟩, -, -, -, -, -, _, ⟨-, _, ⟨-, rfl⟩, _, ⟨-, rfl⟩, -,
    -, -, -, -, -, -, -, rfl⟩, rfl⟩ := h
  rfl

theorem persistAcceptedPayment_ok {scope : ReservationScope} {input : AcceptPaymentInput}
    {accounting : AcceptedInvoicePayment} {s : Session}
    (h : persistAcceptedPayment ⟨db, []⟩ scope input = .ok (accounting, s)) :
    (scope.invoiceState = .open ∧ scope.paidAt = none) ∧
      input.accounting scope .immediateConversion = .ok accounting ∧
      ∃ journals postings invoices,
        db.merchantInvoicePaymentJournals.Appends [journalRow scope accounting] journals ∧
        db.merchantInvoicePaymentPostings.Appends (postingRows accounting) postings ∧
        (∀ row ∈ db.merchantInvoices, row.id = scope.invoiceId → row.state = .open →
          row.paidAt = none → (row.pay accounting.invoice.paidAt).Checks) ∧
        invoices.rows =
          payRows db.merchantInvoices.rows scope.invoiceId accounting.invoice.paidAt ∧
        s.db = db.withAccounting journals postings invoices ∧
        .invoiceAccounting scope.invoiceId ∈ s.deferred ∧
        .journalPostings accounting.journalEntry.id ∈ s.deferred := by
  simp only [persistAcceptedPayment, bind_eq_ok, ensure_eq_ok, exists_unit, mapError_eq_ok,
    lifecycleStatement_eq_ok, pure_eq_ok, Except.ok.injEq, Prod.mk.injEq] at h
  obtain ⟨⟨-, hopen⟩, route, -, hmode, made, haccounting, s₁, hjournal, s₂, hpostings,
    ⟨updated, s₃⟩, hpay, -, hmade, hs⟩ := h
  rw [hmade] at haccounting hjournal hpostings hpay
  rw [hmode] at haccounting
  dsimp only at hs
  rw [hs] at hpay
  obtain ⟨-, journals, hjournals, rfl⟩ := insertJournal_ok hjournal
  obtain ⟨⟨postings, hpostings, hs₂⟩, hkept⟩ := insertPostings_ok hpostings
  obtain ⟨invoices, hpayable, -, hinvoices, rfl⟩ := payInvoice_ok hpay
  have hid : accounting.invoice.base.id = scope.invoiceId := by
    rw [accounting_ok haccounting]
    rfl
  rw [hs₂] at hpayable hinvoices
  refine ⟨hopen, haccounting, journals, postings, invoices, hjournals, hpostings, hpayable,
    hinvoices, ?_, ?_, ?_⟩
  · rw [Session.next_db, hs₂]
    rfl
  · apply List.mem_append_left
    apply hkept
    simp [journalRow, hid]
  · apply List.mem_append_left
    apply hkept
    simp [journalRow]

/-- An acceptance replays its event with the accounting that is stored, or stores both. -/
theorem acceptPayment_ok {input : AcceptPaymentInput} {result : AcceptPaymentResult}
    (h : acceptPayment db input = .ok (result, db')) :
    validatePaymentAcceptance input = .ok () ∧ ∃ scope effect fingerprint,
      loadReservation db input.paymentId = .ok (some scope) ∧
      assertEffectEvidence db scope input.effectId .meltPaid input.evidenceAt input.recordedAt =
        .ok effect ∧
      resolveProofStateEvidence db scope input.proofStateObservedAt .spent = .ok fingerprint ∧
      ((db' = db ∧ (∃ replay, replayEvent db (input.draft fingerprint) none = .ok (some replay) ∧
          replay.lifecycle = result.lifecycle) ∧
          loadAcceptedPayment db scope = .ok (some result.accounting) ∧
          AccountingMatchesInput result.accounting scope input) ∨
        ∃ s₁ transition s₂, replayEvent db (input.draft fingerprint) none = .ok none ∧
          persistAcceptedPayment ⟨db, []⟩ scope input = .ok (result.accounting, s₁) ∧
          persistTransitionInTransaction s₁ scope (input.draft fingerprint) =
            .ok (transition, s₂) ∧
          transition.lifecycle = result.lifecycle ∧ s₂.commit = .ok db') := by
  simp only [acceptPayment, bind_eq_ok] at h
  obtain ⟨⟨⟩, hvalid, scope, hscope, effect, heffect, fingerprint, hfingerprint, replay, hreplay,
    h⟩ := h
  refine ⟨hvalid, scope, effect, fingerprint, requireReservation_ok hscope, heffect, hfingerprint,
    ?_⟩
  cases replay with
  | some replay =>
      simp only [bind_eq_ok, orFail_eq_ok, ensure_eq_ok, exists_unit, pure_eq_ok, Except.ok.injEq,
        Prod.mk.injEq] at h
      obtain ⟨stored, hstored, accounting, rfl, hmatches, rfl, rfl⟩ := h
      exact .inl ⟨rfl, ⟨replay, hreplay, rfl⟩, hstored, hmatches⟩
  | none =>
      simp only [bind_eq_ok, lifecycleStatement_eq_ok, commitLifecycle, pure_eq_ok,
        Except.ok.injEq, Prod.mk.injEq] at h
      obtain ⟨⟨accounting, s₁⟩, hpersist, ⟨transition, s₂⟩, htransition, _, hcommit, rfl, rfl⟩ := h
      exact .inr ⟨s₁, transition, s₂, hreplay, hpersist, htransition, rfl, hcommit⟩

theorem acceptPayment_change {input : AcceptPaymentInput} {result : AcceptPaymentResult}
    (h : acceptPayment db input = .ok (result, db')) : MovesElsewhere db db' := by
  obtain ⟨-, scope, effect, fingerprint, hloaded, heffect, hfingerprint, ⟨hsame, -⟩ |
    ⟨s₁, transition, s₂, hreplay, hpersist, htransition, -, hcommit⟩⟩ := acceptPayment_ok h
  · exact .inl hsame
  · obtain ⟨hchecks, rfl⟩ := Session.commit_eq_ok.mp hcommit
    obtain ⟨hopen, haccounting, journals, postings, invoices, hjournals, hpostings, hpayable,
      hinvoices, hs₁, hinvoiceCheck, hpostingsCheck⟩ := persistAcceptedPayment_ok hpersist
    have hscoped : scope.paymentId = (input.draft fingerprint).paymentId :=
      paymentId_of_loadReservation hloaded
    rcases persistTransitionInTransaction_ok hscoped htransition with
      ⟨-, hagain⟩ | ⟨current, sequence, events, hcurrent, hfollows, hadmitted, hevents, hdb,
        hafter, hdeferred⟩
    · have hstored : replayEvent s₁.db (input.draft fingerprint) none = .ok none := by
        have hfind := replayEvent_none hreplay
        apply replayEvent_of_find_none
        rw [hs₁]
        exact hfind
      rw [show replayEvent s₁.db (input.draft fingerprint) none = _ from hagain] at hstored
      cases hstored
    · obtain rfl : sequence = current.events.length := by
        rcases hfollows with ⟨hstate, -⟩ | ⟨-, -, -, hsequence⟩
        · cases hstate
        · exact hsequence
      rw [hs₁] at hcurrent hadmitted hevents hdb
      refine .inr ⟨.paymentAccepted ⟨hloaded, hopen, haccounting, ⟨effect, heffect⟩,
        hfingerprint⟩ hcurrent hfollows hjournals hpostings hpayable hinvoices hadmitted hevents
        hdb hafter (hchecks _ (hdeferred _ hinvoiceCheck))
        (hchecks _ (hdeferred _ hpostingsCheck)), ?_⟩
      rw [hdb]
      exact ⟨rfl, rfl⟩

/-! ### Recovery jobs -/

theorem claimNext_ok {candidate : Option PaymentId} {input : ClaimInput}
    {result : Option CashuStellarMeltRecoveryLease}
    (h : claimNext db candidate input = .ok (result, db')) :
    (result = none ∧ db' = db) ∨ ∃ row leases, result = some row ∧
      (∃ state ∈ db.latestState row.paymentId, state.toReservationState.Active) ∧
        LeaseAdmitted db row ∧ db.cashuStellarMeltRecoveryLeases.Appends [row] leases ∧
          db' = { db with cashuStellarMeltRecoveryLeases := leases } := by
  simp only [claimNext, bind_eq_ok] at h
  obtain ⟨-, -, h⟩ := h
  split at h
  · cases h
    exact .inl ⟨rfl, rfl⟩
  · split at h
    · case isTrue heligible =>
      simp only [bind_eq_ok, recoveryStatement_eq_ok, pure_eq_ok, Except.ok.injEq, Prod.mk.injEq,
        Session.commit_eq_ok] at h
      obtain ⟨s, hinsert, lease, hlease, _, ⟨-, rfl⟩, rfl, rfl⟩ := h
      simp only [mapLease, bind_eq_ok, ensure_eq_ok, exists_unit, pure_eq_ok,
        Except.ok.injEq] at hlease
      obtain ⟨-, rfl⟩ := hlease
      obtain ⟨hadmitted, leases, hleases, rfl⟩ := insertRecoveryLease_ok hinsert
      exact .inr ⟨_, leases, rfl, heligible.1, hadmitted, hleases, rfl⟩
    · cases h
      exact .inl ⟨rfl, rfl⟩

theorem claimNext_change {candidate : Option PaymentId} {input : ClaimInput}
    {result : Option CashuStellarMeltRecoveryLease}
    (h : claimNext db candidate input = .ok (result, db')) : MovesElsewhere db db' := by
  rcases claimNext_ok h with ⟨-, rfl⟩ | ⟨row, leases, -, hactive, hadmitted, hleases, rfl⟩
  · exact .inl rfl
  · exact .inr ⟨.leaseClaimed hactive hadmitted hleases, rfl, rfl⟩

theorem recordOutcome_ok {input : RecordOutcomeInput} {result : RecordOutcomeResult}
    (h : recordOutcome db input = .ok (result, db')) :
    db' = db ∨ ∃ outcomes, validateOutcome input = .ok () ∧ OutcomeAdmitted db input.row ∧
      db.cashuStellarMeltRecoveryOutcomes.Appends [input.row] outcomes ∧
        db' = { db with cashuStellarMeltRecoveryOutcomes := outcomes } := by
  simp only [recordOutcome, bind_eq_ok, ensure_eq_ok, exists_unit, orFail_eq_ok] at h
  obtain ⟨hvalid, -, -, lease, -, h⟩ := h
  split at h
  · simp only [bind_eq_ok, ensure_eq_ok, exists_unit, pure_eq_ok, Except.ok.injEq,
      Prod.mk.injEq] at h
    obtain ⟨-, -, -, -, rfl⟩ := h
    exact .inl rfl
  · simp only [bind_eq_ok, ensure_eq_ok, exists_unit, recoveryStatement_eq_ok, pure_eq_ok,
      Except.ok.injEq, Prod.mk.injEq, Session.commit_eq_ok] at h
    obtain ⟨-, s, hinsert, -, -, _, ⟨-, rfl⟩, -, rfl⟩ := h
    obtain ⟨hadmitted, outcomes, houtcomes, rfl⟩ := insertRecoveryOutcome_ok hinsert
    exact .inr ⟨outcomes, hvalid, hadmitted, houtcomes, rfl⟩

theorem recordOutcome_change {input : RecordOutcomeInput} {result : RecordOutcomeResult}
    (h : recordOutcome db input = .ok (result, db')) : Moves db db' := by
  rcases recordOutcome_ok h with rfl | ⟨outcomes, hvalid, hadmitted, houtcomes, rfl⟩
  · exact .inl rfl
  · exact .inr ⟨.outcomeRecorded hvalid hadmitted houtcomes, rfl⟩

/-! ### Every operation -/

theorem movesElsewhere_of_run {operation : Operation}
    (hcreate : ∀ input, operation ≠ .createOpenInvoice input)
    (hrecord : ∀ input, operation ≠ .recordOutcome input) (h : operation.run db = some db') :
    MovesElsewhere db db' := by
  cases operation <;> rw [Operation.run, committed_eq_some] at h <;> obtain ⟨answer, h⟩ := h
  case createOpenInvoice input => exact absurd rfl (hcreate input)
  case persistKeysetObservation => exact persistKeysetObservation_change h
  case reserve => exact reserve_change h
  case storeCustody => exact storeCustody_change h
  case beginQuote => exact beginQuote_change h
  case recordAmbiguous => exact recordAmbiguous_change h
  case recordQuote => exact recordQuote_change h
  case observe => exact observe_change h
  case persistProofState => exact persistProofState_change h
  case startEffect => exact startEffect_change h
  case recordPending => exact recordPending_change h
  case requireAttention => exact requireAttention_change h
  case acceptPayment => exact acceptPayment_change h
  case release => exact release_change h
  case claimNext => exact claimNext_change h
  case recordOutcome input => exact absurd rfl (hrecord input)

theorem moves_of_run {operation : Operation} (hother : ∀ input, operation ≠ .createOpenInvoice input)
    (h : operation.run db = some db') : Moves db db' := by
  by_cases hrecord : ∃ input, operation = .recordOutcome input
  · obtain ⟨input, rfl⟩ := hrecord
    rw [Operation.run, committed_eq_some] at h
    obtain ⟨answer, h⟩ := h
    exact recordOutcome_change h
  · have hnot : ∀ input, operation ≠ .recordOutcome input :=
      fun input hsame => hrecord ⟨input, hsame⟩
    exact (movesElsewhere_of_run hother hnot h).moves

/-- An accepted operation leaves the rows as they were or changes them in one of the ways. -/
theorem step_cases (h : Step db db') : db' = db ∨ Change db db' := by
  obtain ⟨operation, h⟩ := h
  by_cases hissue : ∃ input, operation = .createOpenInvoice input
  · obtain ⟨input, rfl⟩ := hissue
    rw [Operation.run, committed_eq_some] at h
    obtain ⟨result, h⟩ := h
    exact (createOpenInvoice_change h).imp_right And.left
  · have hother : ∀ input, operation ≠ .createOpenInvoice input :=
      fun input hsame => hissue ⟨input, hsame⟩
    exact (moves_of_run hother h).imp_right And.left

/-- Only the record of an outcome writes the recovery outcomes. -/
theorem outcomes_of_run {operation : Operation} (hrecord : ∀ input, operation ≠ .recordOutcome input)
    (h : operation.run db = some db') :
    db'.cashuStellarMeltRecoveryOutcomes = db.cashuStellarMeltRecoveryOutcomes := by
  by_cases hissue : ∃ input, operation = .createOpenInvoice input
  · obtain ⟨input, rfl⟩ := hissue
    rw [Operation.run, committed_eq_some] at h
    obtain ⟨answer, h⟩ := h
    rcases createOpenInvoice_change h with rfl | ⟨-, hsame⟩
    · rfl
    · exact hsame
  · have hcreate : ∀ input, operation ≠ .createOpenInvoice input :=
      fun input hsame => hissue ⟨input, hsame⟩
    rcases movesElsewhere_of_run hcreate hrecord h with rfl | ⟨-, -, hsame⟩
    · rfl
    · exact hsame

/-- What the empty database has and every change keeps holds of every reachable database. -/
theorem reachable_of_change {p : Db → Prop} (hempty : p Db.empty)
    (hchange : ∀ db db', Reachable db → p db → Change db db' → p db') {db : Db}
    (hreach : Reachable db) : p db := by
  apply reachable_induction hempty ?_ hreach
  intro db db' hreach hp hstep
  rcases step_cases hstep with rfl | hstep
  · exact hp
  · exact hchange db db' hreach hp hstep

/-- What every change keeps, a run keeps. -/
theorem run_of_change {p : Db → Prop} (hkeep : ∀ db db', p db → Change db db' → p db')
    (hrun : Run db db') (h : p db) : p db' := by
  induction hrun with
  | refl => exact h
  | tail _ hstep ih =>
      rcases step_cases hstep with rfl | hchange
      · exact ih
      · exact hkeep _ _ ih hchange

end CashMesh.Acquirer
