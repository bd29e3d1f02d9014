import CashMesh.Acquirer.Claims
/-!
# The accounting of the invoices

An invoice is paid by one journal, which stands for the one payment of the invoice that is consumed.
The journal balances, has the terms of the invoice, and is dated by the snapshot that saw every proof
of the payment spent.
-/

namespace CashMesh.Acquirer

open CashMesh.Lib

variable {db db' : Db}

/-- The snapshot saw every proof it has an entry for spent. -/
def AllSpent (db : Db) (fingerprint : ProofStateFingerprint) : Prop :=
  db.proofStateEntriesOf fingerprint ≠ [] ∧
    ∀ entry ∈ db.proofStateEntriesOf fingerprint, entry.state = .spent

/-- The consumed event of a payment whose acceptance is dated by a snapshot, and names a journal. -/
def AcceptedAt (db : Db) (paymentId : PaymentId) (journalEntryId : JournalEntryId)
    (acceptedAt : UnixTimestamp) : Prop :=
  ∃ event ∈ db.cashuProofReservationEvents, event.paymentId = paymentId ∧
    event.state = .consumed ∧ event.journalEntryId = some journalEntryId ∧
    ∃ observation ∈ db.cashuProofStateObservations,
      event.proofStateSnapshotFingerprint = some observation.snapshotFingerprint ∧
        observation.paymentId = paymentId ∧ observation.observedAt = acceptedAt ∧
        AllSpent db observation.snapshotFingerprint

/-- The journal is that of a payment of its invoice, which it has paid. -/
structure JournalSound (db : Db) (journal : PaymentJournalRow) : Prop where
  reserved : ∃ reservation ∈ db.cashuProofReservations,
    reservation.paymentId = journal.paymentId ∧ reservation.invoiceId = journal.invoiceId
  invoice : ∃ invoice, db.invoice journal.invoiceId = some invoice ∧ invoice.state = .paid ∧
    invoice.paidAt = some journal.acceptedAt ∧ journal.grossAmount = invoice.amount ∧
    invoice.createdAt ≤ journal.acceptedAt ∧ journal.acceptedAt < invoice.expiresAt
  amounts : journal.netAmount + journal.feeAmount = journal.grossAmount
  postings : ValidJournalPostings journal (db.postingsOf journal.journalEntryId)
  accepted : AcceptedAt db journal.paymentId journal.journalEntryId journal.acceptedAt
  custody : db.custodyOf journal.paymentId = none

/-- Journals, paid invoices and consumed payments go together. -/
structure AccountingSound (db : Db) : Prop where
  journals : ∀ journal ∈ db.merchantInvoicePaymentJournals, JournalSound db journal
  paid : ∀ invoice ∈ db.merchantInvoices, invoice.state = .paid →
    ∃ journal ∈ db.merchantInvoicePaymentJournals, journal.invoiceId = invoice.id
  consumed : ∀ event ∈ db.cashuProofReservationEvents, event.state = .consumed →
    ∃ journal ∈ db.merchantInvoicePaymentJournals, journal.paymentId = event.paymentId

theorem accountingSound_empty : AccountingSound Db.empty := by
  constructor <;> simp [Db.empty]

/-! ### What keeps a journal sound -/

/-- What a change has to leave as it is for a journal to stay sound. -/
structure JournalKept (db db' : Db) (journal : PaymentJournalRow) : Prop where
  reservations : ∀ reservation ∈ db.cashuProofReservations,
    reservation ∈ db'.cashuProofReservations
  invoice : ∀ invoice, db.invoice journal.invoiceId = some invoice → invoice.state = .paid →
    db'.invoice journal.invoiceId = some invoice
  postings : db'.postingsOf journal.journalEntryId = db.postingsOf journal.journalEntryId
  events : ∀ event ∈ db.cashuProofReservationEvents, event ∈ db'.cashuProofReservationEvents
  observations : ∀ observation ∈ db.cashuProofStateObservations,
    observation ∈ db'.cashuProofStateObservations ∧
      db'.proofStateEntriesOf observation.snapshotFingerprint =
        db.proofStateEntriesOf observation.snapshotFingerprint
  custody : db.custodyOf journal.paymentId = none → db'.custodyOf journal.paymentId = none

theorem JournalSound.keep {journal : PaymentJournalRow} (h : JournalSound db journal)
    (hkept : JournalKept db db' journal) : JournalSound db' journal where
  reserved := by
    obtain ⟨reservation, hreservation, hfits⟩ := h.reserved
    exact ⟨reservation, hkept.reservations reservation hreservation, hfits⟩
  invoice := by
    obtain ⟨invoice, hinvoice, hpaid, hterms⟩ := h.invoice
    exact ⟨invoice, hkept.invoice invoice hinvoice hpaid, hpaid, hterms⟩
  amounts := h.amounts
  postings := by
    rw [hkept.postings]
    exact h.postings
  accepted := by
    obtain ⟨event, hevent, hpayment, hstate, hjournal, observation, hobservation, hcited,
      hobserved, htime, hspent⟩ := h.accepted
    obtain ⟨hmem, hentries⟩ := hkept.observations observation hobservation
    refine ⟨event, hkept.events event hevent, hpayment, hstate, hjournal, observation, hmem,
      hcited, hobserved, htime, ?_⟩
    rw [AllSpent, hentries]
    exact hspent
  custody := hkept.custody h.custody

theorem JournalKept.refl {journal : PaymentJournalRow} (hchange : Change db db')
    (hreservations : db'.cashuProofReservations = db.cashuProofReservations)
    (hinvoices : db'.merchantInvoices = db.merchantInvoices)
    (hpostings : db'.merchantInvoicePaymentPostings = db.merchantInvoicePaymentPostings)
    (hobservations : db'.cashuProofStateObservations = db.cashuProofStateObservations)
    (hentries : db'.cashuProofStateObservationEntries = db.cashuProofStateObservationEntries)
    (hcustody : db'.cashuBearerProofCustody = db.cashuBearerProofCustody) :
    JournalKept db db' journal where
  reservations := by
    rw [hreservations]
    exact fun _ h => h
  invoice := by
    rw [Db.invoice, Db.invoice, hinvoices]
    exact fun _ h _ => h
  postings := by rw [Db.postingsOf, Db.postingsOf, hpostings]
  events := fun _ => event_of_change hchange
  observations := by
    rw [hobservations]
    intro observation hobservation
    exact ⟨hobservation, by rw [Db.proofStateEntriesOf, Db.proofStateEntriesOf, hentries]⟩
  custody := by
    rw [Db.custodyOf, Db.custodyOf, hcustody]
    exact fun h => h

theorem custodyOf_custodyAfter (db : Db) {row : LifecycleEventRow} {paymentId : PaymentId}
    (h : db.custodyOf paymentId = none) :
    ((custodyAfter db row).find fun custody => custody.paymentId = paymentId) = none := by
  rw [Table.find_none]
  intro custody hcustody
  apply Table.find_none.mp h custody
  rw [custodyAfter] at hcustody
  split at hcustody
  · exact (Table.mem_delete.mp hcustody).1
  · exact hcustody

theorem JournalKept.event {journal : PaymentJournalRow} {row : LifecycleEventRow}
    {events : Table LifecycleEventRow}
    (hevents : db.cashuProofReservationEvents.Appends [row] events) :
    JournalKept db (db.afterEvent row events) journal where
  reservations := fun _ h => h
  invoice := fun _ h _ => h
  postings := rfl
  events := fun _ => hevents.mem_of_mem
  observations := fun _ hobservation => ⟨hobservation, rfl⟩
  custody := custodyOf_custodyAfter db

theorem proofStateEntriesOf_of_observed {observation : PersistProofStateInput}
    {observations entries}
    (hobservations : db.cashuProofStateObservations.Appends
      [proofStateObservationRow observation] observations)
    (hentries : db.cashuProofStateObservationEntries.Appends (proofStateEntryRows observation)
      entries) {old : ProofStateObservationRow} (hold : old ∈ db.cashuProofStateObservations) :
    orderBy (·.position) (entries.select fun row =>
        row.snapshotFingerprint = old.snapshotFingerprint) =
      db.proofStateEntriesOf old.snapshotFingerprint := by
  have hne : old.snapshotFingerprint ≠ observation.fingerprint := by
    intro hsame
    exact hobservations.not_collide hold List.mem_cons_self (.inl hsame)
  rw [Db.proofStateEntriesOf, hentries.select_of_not]
  intro row hrow hsame
  obtain ⟨state, -, rfl⟩ := List.mem_map.mp hrow
  exact hne hsame.symm

/-! ### Paying an invoice -/

theorem pay_id (row : MerchantInvoiceRow) (id : InvoiceId) (paidAt : UnixTimestamp) :
    (if row.id = id ∧ row.state = .open ∧ row.paidAt = none then row.pay paidAt else row).id =
      row.id := by
  split
  · rfl
  · rfl

theorem invoice_of_pay {invoices : Table MerchantInvoiceRow} {id : InvoiceId}
    {paidAt : UnixTimestamp} (hinvoices : invoices.rows = payRows db.merchantInvoices.rows id paidAt)
    (invoiceId : InvoiceId) :
    (invoices.find fun row => row.id = invoiceId) = (db.invoice invoiceId).map fun row =>
      if row.id = id ∧ row.state = .open ∧ row.paidAt = none then row.pay paidAt else row := by
  rw [Db.invoice, Table.find, Table.find, Table.select, Table.select, hinvoices, payRows,
    List.filter_map, List.head?_map]
  congr 2
  apply List.filter_congr
  intro row _
  simp only [Function.comp, pay_id]

theorem fee_lt_of_accounting {scope : ReservationScope} {input : AcceptPaymentInput}
    {mode : SettlementMode} {accounting : AcceptedInvoicePayment}
    (h : input.accounting scope mode = .ok accounting) : input.feeAmount < scope.amount := by
  simp only [AcceptPaymentInput.accounting, acceptInvoicePayment, createInvoice,
    createInvoicePaymentJournal, minorUnits, bind_eq_ok, ensure_eq_ok, exists_unit, pure_eq_ok,
    Except.ok.injEq] at h
  obtain ⟨_, ⟨-, -, _, ⟨-, rfl⟩, -, -, rfl⟩, -, -, -, -, -, _, ⟨-, _, ⟨-, rfl⟩, _, ⟨-, rfl⟩, hfee,
    -⟩, -⟩ := h
  exact hfee.2

theorem resolveProofStateEvidence_ok {scope : ReservationScope} {observedAt : UnixTimestamp}
    {requiredState : CashuProofStateValue} {fingerprint : ProofStateFingerprint}
    (h : resolveProofStateEvidence db scope observedAt requiredState = .ok fingerprint) :
    ∃ observation ∈ db.cashuProofStateObservations,
      observation.paymentId = scope.paymentId ∧ observation.observedAt = observedAt ∧
        observation.snapshotFingerprint = fingerprint := by
  simp only [resolveProofStateEvidence, bind_eq_ok, orFail_eq_ok, pure_eq_ok,
    Except.ok.injEq] at h
  obtain ⟨observation, hfind, -, -, rfl⟩ := h
  obtain ⟨hmem, hpayment, hobserved⟩ := Table.find_some hfind
  exact ⟨observation, hmem, hpayment, hobserved, rfl⟩

section Accept

variable {scope : ReservationScope} {input : AcceptPaymentInput}
  {accounting : AcceptedInvoicePayment} {fingerprint : ProofStateFingerprint} {sequence : Nat}
  {journals : Table PaymentJournalRow} {postings : Table PaymentPostingRow}
  {invoices : Table MerchantInvoiceRow} {events : Table LifecycleEventRow}

theorem JournalKept.accept {journal : PaymentJournalRow} {row : LifecycleEventRow}
    (hjournal : journal ∈ db.merchantInvoicePaymentJournals)
    (hjournals : db.merchantInvoicePaymentJournals.Appends [journalRow scope accounting] journals)
    (hpostings : db.merchantInvoicePaymentPostings.Appends (postingRows accounting) postings)
    (hinvoices : invoices.rows =
      payRows db.merchantInvoices.rows scope.invoiceId accounting.invoice.paidAt)
    (hevents : db.cashuProofReservationEvents.Appends [row] events) :
    JournalKept db ((db.withAccounting journals postings invoices).afterEvent row events)
      journal where
  reservations := fun _ h => h
  invoice invoice hfind hpaid := by
    show (invoices.find fun row => row.id = journal.invoiceId) = some invoice
    rw [invoice_of_pay hinvoices, hfind, Option.map_some, if_neg]
    rintro ⟨-, hopen, -⟩
    rw [hpaid] at hopen
    cases hopen
  postings := by
    show orderBy _ (postings.select _) = _
    rw [hpostings.select_of_not]
    · rfl
    · intro posting hposting hsame
      obtain ⟨pair, -, rfl⟩ := List.mem_map.mp hposting
      exact hjournals.not_collide hjournal List.mem_cons_self (.inl hsame.symm)
  events := fun _ => hevents.mem_of_mem
  observations := fun _ hobservation => ⟨hobservation, rfl⟩
  custody := custodyOf_custodyAfter (db.withAccounting journals postings invoices)

theorem JournalSound.accept
    (hacceptable : PaymentAcceptable db scope input accounting fingerprint)
    (hjournals : db.merchantInvoicePaymentJournals.Appends [journalRow scope accounting] journals)
    (hpayable : ∀ row ∈ db.merchantInvoices, row.id = scope.invoiceId → row.state = .open →
      row.paidAt = none → (row.pay accounting.invoice.paidAt).Checks)
    (hinvoices : invoices.rows =
      payRows db.merchantInvoices.rows scope.invoiceId accounting.invoice.paidAt)
    (hadmitted : EventAdmitted (db.withAccounting journals postings invoices)
      (eventRow (input.draft fingerprint) sequence))
    (hevents : db.cashuProofReservationEvents.Appends
      [eventRow (input.draft fingerprint) sequence] events)
    (hbalanced : ((db.withAccounting journals postings invoices).afterEvent
      (eventRow (input.draft fingerprint) sequence) events).Satisfies
        (.journalPostings accounting.journalEntry.id)) :
    JournalSound ((db.withAccounting journals postings invoices).afterEvent
      (eventRow (input.draft fingerprint) sequence) events) (journalRow scope accounting) := by
  obtain ⟨reservation, invoice, hreservation, hinvoice, rfl, -⟩ :=
    loadReservation_ok hacceptable.loaded
  obtain ⟨hreservationMem, hpayment⟩ := Table.find_some hreservation
  obtain ⟨hinvoiceMem, hinvoiceId⟩ := Table.find_some hinvoice
  obtain ⟨hopen, hunpaid⟩ := hacceptable.isOpen
  have hfee := fee_lt_of_accounting hacceptable.accounted
  have hmade := accounting_ok hacceptable.accounted
  obtain ⟨observation, hobservation, hobserved, htime, hfingerprint⟩ :=
    resolveProofStateEvidence_ok hacceptable.snapshot
  have hpaidAt : accounting.invoice.paidAt = input.proofStateObservedAt := by rw [hmade]
  constructor
  case reserved =>
    refine ⟨reservation, hreservationMem, ?_, ?_⟩
    · rw [hmade]
      rfl
    · rw [hmade]
      rfl
  case invoice =>
    have hchecks := hpayable invoice hinvoiceMem hinvoiceId hopen hunpaid
    have hwindow : invoice.createdAt ≤ accounting.invoice.paidAt ∧
        accounting.invoice.paidAt < invoice.expiresAt := by
      obtain ⟨-, -, -, -, -, hstate | ⟨-, hpaid⟩⟩ := hchecks
      · cases hstate.1
      · exact hpaid _ rfl
    refine ⟨invoice.pay accounting.invoice.paidAt, ?_, rfl, ?_, ?_, ?_⟩
    · show (invoices.find fun row => row.id = _) = _
      rw [invoice_of_pay hinvoices, show (journalRow _ accounting).invoiceId =
        reservation.invoiceId by rw [hmade]; rfl, hinvoice, Option.map_some,
        if_pos ⟨hinvoiceId, hopen, hunpaid⟩]
    · rw [hmade]
      rfl
    · rw [hmade]
      rfl
    · rw [hmade] at hwindow ⊢
      exact hwindow
  case amounts =>
    rw [hmade]
    exact Nat.sub_add_cancel hfee.le
  case postings =>
    apply hbalanced
    exact Table.find_of_mem (hjournals.mem.mpr (.inr List.mem_cons_self)) rfl
      fun other hother => .inl (hother.trans rfl)
  case accepted =>
    refine ⟨_, hevents.mem.mpr (.inr List.mem_cons_self), ?_, rfl, ?_, observation, hobservation,
      ?_, ?_, ?_, ?_⟩
    · rw [hmade]
      exact hpayment.symm
    · rw [hmade]
      rfl
    · rw [hfingerprint]
      rfl
    · rw [hobserved, hmade]
      rfl
    · rw [htime, hmade]
      rfl
    · obtain ⟨_, -, hvalid⟩ := hadmitted.valid
      obtain ⟨cited, hcited, hsnapshot⟩ := hvalid.snapshot fingerprint rfl
      obtain ⟨-, hcitedFingerprint, -⟩ := Table.find_some hcited
      have hentries := hsnapshot.entries
      have huniform := hsnapshot.uniform
      rw [hcitedFingerprint, ← hfingerprint] at hentries huniform
      exact ⟨hentries, huniform⟩
  case custody =>
    rw [hmade]
    show ((custodyAfter (db.withAccounting journals postings invoices)
      (eventRow (input.draft fingerprint) sequence)).find fun custody =>
        custody.paymentId = reservation.paymentId) = none
    rw [Table.find_none, hpayment]
    intro custody hcustody
    exact (Table.mem_delete.mp hcustody).2

theorem AccountingSound.accept (h : AccountingSound db)
    (hacceptable : PaymentAcceptable db scope input accounting fingerprint)
    (hjournals : db.merchantInvoicePaymentJournals.Appends [journalRow scope accounting] journals)
    (hpostings : db.merchantInvoicePaymentPostings.Appends (postingRows accounting) postings)
    (hpayable : ∀ row ∈ db.merchantInvoices, row.id = scope.invoiceId → row.state = .open →
      row.paidAt = none → (row.pay accounting.invoice.paidAt).Checks)
    (hinvoices : invoices.rows =
      payRows db.merchantInvoices.rows scope.invoiceId accounting.invoice.paidAt)
    (hadmitted : EventAdmitted (db.withAccounting journals postings invoices)
      (eventRow (input.draft fingerprint) sequence))
    (hevents : db.cashuProofReservationEvents.Appends
      [eventRow (input.draft fingerprint) sequence] events)
    (hbalanced : ((db.withAccounting journals postings invoices).afterEvent
      (eventRow (input.draft fingerprint) sequence) events).Satisfies
        (.journalPostings accounting.journalEntry.id)) :
    AccountingSound ((db.withAccounting journals postings invoices).afterEvent
      (eventRow (input.draft fingerprint) sequence) events) where
  journals journal hjournal := by
    rcases hjournals.mem.mp hjournal with hold | hnew
    · exact (h.journals journal hold).keep
        (.accept hold hjournals hpostings hinvoices hevents)
    · rw [List.mem_singleton.mp hnew]
      exact .accept hacceptable hjournals hpayable hinvoices hadmitted hevents hbalanced
  paid invoice hinvoice hpaid := by
    have hmem : invoice ∈ payRows db.merchantInvoices.rows scope.invoiceId
        accounting.invoice.paidAt := by
      rw [← hinvoices]
      exact hinvoice
    obtain ⟨row, hrow, rfl⟩ := List.mem_map.mp hmem
    rw [pay_id]
    by_cases hselected : row.id = scope.invoiceId ∧ row.state = .open ∧ row.paidAt = none
    · refine ⟨_, hjournals.mem.mpr (.inr List.mem_cons_self), ?_⟩
      rw [hselected.1, accounting_ok hacceptable.accounted]
      rfl
    · rw [if_neg hselected] at hpaid
      obtain ⟨journal, hjournal, hsame⟩ := h.paid row hrow hpaid
      exact ⟨journal, hjournals.mem_of_mem hjournal, hsame⟩
  consumed event hevent hstate := by
    rcases hevents.mem.mp hevent with hold | hnew
    · obtain ⟨journal, hjournal, hsame⟩ := h.consumed event hold hstate
      exact ⟨journal, hjournals.mem_of_mem hjournal, hsame⟩
    · rw [List.mem_singleton.mp hnew]
      refine ⟨_, hjournals.mem.mpr (.inr List.mem_cons_self), ?_⟩
      rw [accounting_ok hacceptable.accounted]
      exact paymentId_of_loadReservation hacceptable.loaded

end Accept

/-! ### Every run -/

/-- A change that accepts no payment keeps the accounting, when it keeps every journal. -/
theorem AccountingSound.keep (h : AccountingSound db)
    (hjournals : db'.merchantInvoicePaymentJournals = db.merchantInvoicePaymentJournals)
    (hinvoices : ∀ invoice ∈ db'.merchantInvoices, invoice.state = .paid →
      invoice ∈ db.merchantInvoices)
    (hevents : ∀ event ∈ db'.cashuProofReservationEvents, event.state = .consumed →
      event ∈ db.cashuProofReservationEvents)
    (hkept : ∀ journal ∈ db.merchantInvoicePaymentJournals, JournalKept db db' journal) :
    AccountingSound db' where
  journals := by
    rw [hjournals]
    intro journal hjournal
    exact (h.journals journal hjournal).keep (hkept journal hjournal)
  paid := by
    rw [hjournals]
    intro invoice hinvoice hpaid
    exact h.paid invoice (hinvoices invoice hinvoice hpaid) hpaid
  consumed := by
    rw [hjournals]
    intro event hevent hstate
    exact h.consumed event (hevents event hevent hstate) hstate

theorem AccountingSound.event (h : AccountingSound db) {row : LifecycleEventRow}
    {events : Table LifecycleEventRow} (hstate : row.state ≠ .consumed)
    (hevents : db.cashuProofReservationEvents.Appends [row] events) :
    AccountingSound (db.afterEvent row events) := by
  refine h.keep rfl (fun _ hinvoice _ => hinvoice) ?_ (fun _ _ => .event hevents)
  intro event hevent hconsumed
  rcases hevents.mem.mp hevent with hold | hnew
  · exact hold
  · rw [List.mem_singleton.mp hnew] at hconsumed
    exact absurd hconsumed hstate

theorem JournalSound.latestState_ne_none {journal : PaymentJournalRow}
    (h : JournalSound db journal) : db.latestState journal.paymentId ≠ none := by
  obtain ⟨event, hevent, hpayment, -⟩ := h.accepted
  intro hnone
  have hsome := latestEvent_isSome_of_mem hevent
  rw [Db.latestState, Option.map_eq_none_iff] at hnone
  rw [hpayment, hnone] at hsome
  cases hsome

theorem accountingSound_of_change (h : AccountingSound db) (hchange : Change db db') :
    AccountingSound db' := by
  have hcopy := hchange
  cases hchange
  case invoiceCreated invoice request routeRows creations invoices requests routes hopen hchecks
      hinvoices hrequest hrequests hrouteRows hroutes =>
    refine h.keep rfl ?_ (fun _ hevent _ => hevent) ?_
    · intro row hrow hpaid
      rcases hinvoices.mem.mp hrow with hold | hnew
      · exact hold
      · rw [List.mem_singleton.mp hnew, hopen] at hpaid
        cases hpaid
    · intro journal _
      exact ⟨fun _ hrow => hrow, fun row hrow _ => hinvoices.find_of_some hrow, rfl,
        fun _ hevent => hevent, fun _ hrow => ⟨hrow, rfl⟩, fun hnone => hnone⟩
  case reserved hcreated hnew hroute hreservations hproofs hclaims =>
    refine h.keep rfl (fun _ hinvoice _ => hinvoice) (fun _ hevent _ => hevent) ?_
    intro journal _
    exact ⟨fun _ => hreservations.mem_of_mem, fun _ hrow _ => hrow, rfl, fun _ hevent => hevent,
      fun _ hrow => ⟨hrow, rfl⟩, fun hnone => hnone⟩
  case custodyStored row custody hnoEvent hbundle hcustody =>
    refine h.keep rfl (fun _ hinvoice _ => hinvoice) (fun _ hevent _ => hevent) ?_
    intro journal hjournal
    refine ⟨fun _ hrow => hrow, fun _ hrow _ => hrow, rfl, fun _ hevent => hevent,
      fun _ hrow => ⟨hrow, rfl⟩, ?_⟩
    intro hnone
    show (custody.find fun row => row.paymentId = journal.paymentId) = none
    rw [hcustody.find_of_not]
    · exact hnone
    · intro other hother hsame
      rw [List.mem_singleton.mp hother] at hsame
      exact (h.journals journal hjournal).latestState_ne_none (hsame ▸ hnoEvent)
  case proofStateObserved hsnapshot hevidence hactive hproposed hobservations hentries =>
    refine h.keep rfl (fun _ hinvoice _ => hinvoice) (fun _ hevent _ => hevent) ?_
    intro journal _
    exact ⟨fun _ hrow => hrow, fun _ hrow _ => hrow, rfl, fun _ hevent => hevent,
      fun _ hrow => ⟨hobservations.mem_of_mem hrow,
        proofStateEntriesOf_of_observed hobservations hentries hrow⟩, fun hnone => hnone⟩
  case effectStarted scope input lifecycle effects claims jobs events hstartable heffects hclaims
      hjobs hadmitted hevents hafter =>
    have hmiddle : AccountingSound (db.withEffect effects claims jobs) := by
      refine h.keep rfl (fun _ hinvoice _ => hinvoice) (fun _ hevent _ => hevent) ?_
      intro journal _
      exact ⟨fun _ hrow => hrow, fun _ hrow _ => hrow, rfl, fun _ hevent => hevent,
        fun _ hrow => ⟨hrow, rfl⟩, fun hnone => hnone⟩
    exact hmiddle.event nofun hevents
  case eventAppended hstate hkind hscope hcurrent hfollows hrelease hadmitted hevents hafter =>
    refine h.event ?_ hevents
    rcases hstate with hstate | hstate | hstate <;> simp [eventRow, hstate]
  case paymentAccepted hacceptable hcurrent hfollows hjournals hpostings hpayable hinvoices
      hadmitted hevents hdb hafter haccounted hbalanced =>
    subst hdb
    exact h.accept hacceptable hjournals hpostings hpayable hinvoices hadmitted hevents hbalanced
  all_goals
    exact h.keep rfl (fun _ hinvoice _ => hinvoice) (fun _ hevent _ => hevent)
      (fun _ _ => .refl hcopy rfl rfl rfl rfl rfl rfl)

theorem accountingSound_of_reachable (h : Reachable db) : AccountingSound db :=
  reachable_of_change accountingSound_empty (fun _ _ _ hsound hchange =>
    accountingSound_of_change hsound hchange) h

/-- A payment of the invoice with a consumed event. -/
def ConsumedFor (db : Db) (invoiceId : InvoiceId) (paymentId : PaymentId) : Prop :=
  (∃ reservation ∈ db.cashuProofReservations,
      reservation.paymentId = paymentId ∧ reservation.invoiceId = invoiceId) ∧
    ∃ event ∈ db.cashuProofReservationEvents,
      event.paymentId = paymentId ∧ event.state = .consumed

/-- A consumed payment of an invoice has the journal of the invoice. -/
theorem AccountingSound.journal_of_consumed (h : AccountingSound db) {invoiceId : InvoiceId}
    {paymentId : PaymentId} (hconsumed : ConsumedFor db invoiceId paymentId) :
    ∃ journal ∈ db.merchantInvoicePaymentJournals, journal.invoiceId = invoiceId ∧
      journal.paymentId = paymentId := by
  obtain ⟨⟨reservation, hreservation, hpayment, hinvoice⟩, event, hevent, hsame, hstate⟩ :=
    hconsumed
  obtain ⟨journal, hjournal, hjournalPayment⟩ := h.consumed event hevent hstate
  obtain ⟨other, hother, hotherPayment, hotherInvoice⟩ := (h.journals journal hjournal).reserved
  obtain rfl : other = reservation := Table.eq_of_collide hother hreservation
    (.inl (hotherPayment.trans (hjournalPayment.trans (hsame.trans hpayment.symm))))
  exact ⟨journal, hjournal, hotherInvoice.symm.trans hinvoice, hjournalPayment.trans hsame⟩

theorem AccountingSound.consumed_of_journal (h : AccountingSound db) {journal : PaymentJournalRow}
    (hjournal : journal ∈ db.merchantInvoicePaymentJournals) :
    ConsumedFor db journal.invoiceId journal.paymentId := by
  obtain ⟨event, hevent, hpayment, hstate, -⟩ := (h.journals journal hjournal).accepted
  exact ⟨(h.journals journal hjournal).reserved, event, hevent, hpayment, hstate⟩

/-- Over every run of the acquirer, an invoice is paid exactly when it has one journal, exactly when
one payment of it is consumed; then the journal balances, has the terms of the invoice and the time of
the all-spent snapshot that the acceptance cites, within the window of the invoice, and the custody of
the payment is gone. An acceptance that fails leaves every row as it was. -/
theorem accounting_sound {db : Db} (hreach : Reachable db) :
    (∀ invoice ∈ db.merchantInvoices,
      (invoice.state = .paid ↔
        ∃! journal, journal ∈ db.merchantInvoicePaymentJournals ∧
          journal.invoiceId = invoice.id) ∧
      (invoice.state = .paid ↔ ∃! paymentId, ConsumedFor db invoice.id paymentId) ∧
      ∀ journal ∈ db.merchantInvoicePaymentJournals, journal.invoiceId = invoice.id →
        ValidJournalPostings journal (db.postingsOf journal.journalEntryId) ∧
        journal.grossAmount = invoice.amount ∧
        journal.netAmount + journal.feeAmount = journal.grossAmount ∧
        invoice.paidAt = some journal.acceptedAt ∧
        AcceptedAt db journal.paymentId journal.journalEntryId journal.acceptedAt ∧
        invoice.createdAt ≤ journal.acceptedAt ∧ journal.acceptedAt < invoice.expiresAt ∧
        db.custodyOf journal.paymentId = none) ∧
    ∀ input error, acceptPayment db input = .error error →
      (Operation.acceptPayment input).perform db = db := by
  have hsound := accountingSound_of_reachable hreach
  constructor
  · intro invoice hinvoice
    have hnamed : ∀ journal ∈ db.merchantInvoicePaymentJournals, journal.invoiceId = invoice.id →
        db.invoice journal.invoiceId = some invoice := by
      intro journal _ hsame
      exact Table.find_of_mem hinvoice hsame.symm fun other hother => hother.trans hsame
    have hpaidOf : ∀ journal ∈ db.merchantInvoicePaymentJournals,
        journal.invoiceId = invoice.id → invoice.state = .paid := by
      intro journal hjournal hsame
      obtain ⟨found, hfound, hpaid, -⟩ := (hsound.journals journal hjournal).invoice
      rw [hnamed journal hjournal hsame] at hfound
      cases hfound
      exact hpaid
    refine ⟨⟨?_, ?_⟩, ⟨?_, ?_⟩, ?_⟩
    · intro hpaid
      obtain ⟨journal, hjournal, hsame⟩ := hsound.paid invoice hinvoice hpaid
      refine ⟨journal, ⟨hjournal, hsame⟩, ?_⟩
      rintro other ⟨hother, hotherSame⟩
      exact Table.eq_of_collide hother hjournal (.inr (.inr (.inl (hotherSame.trans hsame.symm))))
    · rintro ⟨journal, ⟨hjournal, hsame⟩, -⟩
      exact hpaidOf journal hjournal hsame
    · intro hpaid
      obtain ⟨journal, hjournal, hsame⟩ := hsound.paid invoice hinvoice hpaid
      refine ⟨journal.paymentId, hsame ▸ hsound.consumed_of_journal hjournal, ?_⟩
      intro paymentId hconsumed
      obtain ⟨other, hother, hotherSame, hpayment⟩ := hsound.journal_of_consumed hconsumed
      rw [← hpayment, Table.eq_of_collide hother hjournal
        (.inr (.inr (.inl (hotherSame.trans hsame.symm))))]
    · rintro ⟨paymentId, hconsumed, -⟩
      obtain ⟨journal, hjournal, hsame, -⟩ := hsound.journal_of_consumed hconsumed
      exact hpaidOf journal hjournal hsame
    · intro journal hjournal hsame
      have hjournalSound := hsound.journals journal hjournal
      obtain ⟨found, hfound, -, hpaidAt, hgross, hcreated, hexpires⟩ := hjournalSound.invoice
      rw [hnamed journal hjournal hsame] at hfound
      cases hfound
      exact ⟨hjournalSound.postings, hgross, hjournalSound.amounts, hpaidAt,
        hjournalSound.accepted, hcreated, hexpires, hjournalSound.custody⟩
  · intro input error hfailed
    rw [Operation.perform, Operation.run, hfailed]
    rfl

/-- The dispatched payment after its quote was paid and its proof spent. -/
def Sample.accepted : Db :=
  Sample.after [Sample.observe .paid 1011, Sample.observeProof .spent 1012, Sample.acceptPayment]

set_option maxRecDepth 10000 in
theorem accounting_sound_accepted :
    (∃ invoice ∈ Sample.accepted.merchantInvoices, invoice.state = .paid) ∧
      ∀ invoice ∈ Sample.accepted.merchantInvoices, invoice.state = .paid →
        ∃! paymentId, ConsumedFor Sample.accepted invoice.id paymentId :=
  ⟨by decide +kernel, fun invoice hinvoice =>
    ((accounting_sound (Sample.reachable_after _)).1 invoice hinvoice).2.1.mp⟩

end CashMesh.Acquirer
