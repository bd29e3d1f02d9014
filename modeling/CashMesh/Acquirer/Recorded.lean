import CashMesh.Acquirer.Decisions
import CashMesh.Acquirer.Readable
/-!
# What later operations leave of a payment

A later operation may pay the invoice of a payment, and nothing else of what its commands have read:
the reservation, the settlement route and the effect are kept, the journal with its postings is kept,
and once the payment is settled its quote evidence is kept as well. So a check that a command has
passed on these passes again.
-/

namespace CashMesh.Acquirer

open CashMesh.Lib

variable {db db' : Db} {scope : ReservationScope} {paymentId : PaymentId}

/-! ### The reservation and its route -/

/-- A reservation as it is read in a later state of its invoice. -/
abbrev ReservationScope.later (scope : ReservationScope) (invoiceState : StoredInvoiceState)
    (paidAt : Option UnixTimestamp) : ReservationScope :=
  { scope with
    invoiceState
    paidAt }

theorem loadReservation_of_change (h : loadReservation db paymentId = .ok (some scope))
    (hchange : Change db db') :
    ∃ invoiceState paidAt,
      loadReservation db' paymentId = .ok (some (scope.later invoiceState paidAt)) := by
  cases hchange
  case invoiceCreated hopen hchecks hinvoices hrequest hrequests hrouteRows hroutes =>
    refine ⟨scope.invoiceState, scope.paidAt, ?_⟩
    exact loadReservation_keep h (fun _ hreservation => hreservation)
      fun _ _ => hinvoices.find_of_some
  case reserved hcreated hnew hroute hreservations hproofs hclaims =>
    refine ⟨scope.invoiceState, scope.paidAt, ?_⟩
    exact loadReservation_keep h (fun _ => hreservations.find_of_some) fun _ _ hinvoice => hinvoice
  case paymentAccepted hacceptable hcurrent hfollows hjournals hpostings hpayable hinvoices hadmitted
      hevents hdb hafter haccounted hbalanced =>
    subst hdb
    have hpaid := loadReservation_pay h hpayable hinvoices
    exact hpaid
  all_goals exact ⟨scope.invoiceState, scope.paidAt, h⟩

theorem requireSettlementRoute_of_change {route : SettlementRoute}
    (h : requireSettlementRoute db scope = .ok route)
    (hloaded : loadReservation db paymentId = .ok (some scope)) (hchange : Change db db') :
    requireSettlementRoute db' scope = .ok route := by
  cases hchange
  case invoiceCreated invoice request routeRows creations invoices requests routes hopen hchecks
      hinvoices hrequest hrequests hrouteRows hroutes =>
    apply requireSettlementRoute_append hrequests hroutes ?_ h
    intro row hrow hsame
    obtain ⟨reservation, old, -, hold, rfl, -⟩ := loadReservation_ok hloaded
    obtain ⟨hmem, hid⟩ := Table.find_some hold
    exact hinvoices.not_collide hmem List.mem_cons_self
      (hid.trans (hsame.symm.trans (hrouteRows row hrow)))
  case paymentAccepted hdb _ _ _ =>
    subst hdb
    exact h
  all_goals exact h

/-! ### The effect -/

/-- The effect is stored for the payment of the reservation. -/
def StoredEffect (db : Db) (scope : ReservationScope) (effect : CashuOperatorEffect) : Prop :=
  ∃ row ∈ db.cashuOperatorEffects, row.paymentId = scope.paymentId ∧
    row.effectFingerprint = createEffectFingerprint scope effect

theorem StoredEffect.keep {effect : CashuOperatorEffect} (h : StoredEffect db scope effect)
    (hchange : Change db db') : StoredEffect db' scope effect := by
  obtain ⟨row, hrow, hstored⟩ := h
  refine ⟨row, ?_, hstored⟩
  rcases effects_of_change hchange with hsame | ⟨other, -, happend⟩
  · rwa [hsame]
  · exact happend.mem_of_mem hrow

theorem StoredEffect.unique {scope' : ReservationScope} {effect effect' : CashuOperatorEffect}
    (h : StoredEffect db scope effect) (h' : StoredEffect db scope' effect')
    (hpayment : scope.paymentId = scope'.paymentId) : effect = effect' := by
  obtain ⟨row, hrow, hrowPayment, hfingerprint⟩ := h
  obtain ⟨row', hrow', hrowPayment', hfingerprint'⟩ := h'
  obtain rfl : row = row' := Table.eq_of_collide hrow hrow'
    (.inr (.inr (.inl (hrowPayment.trans (hpayment.trans hrowPayment'.symm)))))
  exact congrArg EffectFingerprint.effect (hfingerprint.symm.trans hfingerprint')

theorem storedEffect_of_loadLifecycle {lifecycle : CashuProofReservationLifecycle}
    {effect : CashuOperatorEffect} (h : loadLifecycle db scope = .ok lifecycle)
    (heffect : lifecycle.effect = some effect) : StoredEffect db scope effect := by
  obtain ⟨⟨row, hrow, hstored⟩, -⟩ := (loadEffect_ok (effect_of_loadLifecycle h)).2 effect heffect
  obtain ⟨hmem, hpayment⟩ := Table.mem_select.mp
    (show row ∈ db.effectsOf scope.paymentId by simp [hrow])
  refine ⟨row, hmem, hpayment, ?_⟩
  simp only [mapEffect, bind_eq_ok, orFail_eq_ok, ensure_eq_ok, exists_unit, pure_eq_ok,
    Except.ok.injEq] at hstored
  obtain ⟨terms, -, ⟨-, -, -, -, hfingerprint, -⟩, rfl⟩ := hstored
  exact hfingerprint

theorem StoredEffect.of_loadLifecycle {scope' : ReservationScope}
    {lifecycle : CashuProofReservationLifecycle} {effect : CashuOperatorEffect}
    (h : StoredEffect db scope effect) (hpayment : scope.paymentId = scope'.paymentId)
    (hload : loadLifecycle db scope' = .ok lifecycle) : lifecycle.effect = some effect := by
  have hcopy := h
  obtain ⟨row, hrow, hrowPayment, -⟩ := hcopy
  obtain ⟨effect', heffect, -⟩ := effect_of_effectRow hload hrow (hrowPayment.trans hpayment)
  rw [heffect, h.unique (storedEffect_of_loadLifecycle hload heffect) hpayment]

/-! ### The quote of a settled payment -/

theorem QuotesSound.quoteObservationsOf_eq (h : QuotesSound db) {attempt : MeltQuoteAttemptRow}
    (hattempt : db.attemptOf paymentId = some attempt) :
    db.quoteObservationsOf attempt.attemptId = orderBy (·.observedAt)
      (db.cashuStellarMeltQuoteObservations.select fun row => row.paymentId = paymentId) := by
  rw [Db.quoteObservationsOf, h.select_eq hattempt]

theorem loadMeltQuotedEvidence_of_terminal {evidence : StoredCashuStellarMeltQuotedEvidence}
    {state : LifecycleEventState} (h : loadMeltQuotedEvidence db paymentId = .ok (some evidence))
    (hquotes : QuotesSound db) (hchange : Change db db')
    (hstate : db.latestState paymentId = some state) (hterminal : state.toReservationState.Terminal) :
    loadMeltQuotedEvidence db' paymentId = .ok (some evidence) := by
  have hquotes' : QuotesSound db' := quotesSound_of_change hquotes hchange
  refine loadMeltQuotedEvidence_keep (fun _ => attemptOf_of_change hchange)
    (fun _ _ => outcomeOf_of_change hchange) ?_ h
  intro attempt _ hattempt _
  rw [hquotes.quoteObservationsOf_eq hattempt,
    hquotes'.quoteObservationsOf_eq (attemptOf_of_change hchange hattempt),
    (evidence_of_terminal hchange hstate hterminal).1]

/-! ### The journal -/

/-- Every change keeps the journals and their postings, or appends one journal with its postings. -/
theorem journals_of_change (h : Change db db') :
    (db'.merchantInvoicePaymentJournals = db.merchantInvoicePaymentJournals ∧
        db'.merchantInvoicePaymentPostings = db.merchantInvoicePaymentPostings) ∨
      ∃ (scope : ReservationScope) (accounting : AcceptedInvoicePayment),
        db.merchantInvoicePaymentJournals.Appends [journalRow scope accounting]
          db'.merchantInvoicePaymentJournals ∧
        db.merchantInvoicePaymentPostings.Appends (postingRows accounting)
          db'.merchantInvoicePaymentPostings := by
  cases h
  case paymentAccepted hjournals hpostings hpayable hinvoices hadmitted hevents hdb _ _ _ =>
    subst hdb
    exact .inr ⟨_, _, hjournals, hpostings⟩
  all_goals exact .inl ⟨rfl, rfl⟩

theorem journalOf_of_change (hchange : Change db db') {journal : PaymentJournalRow}
    (h : db.journalOf paymentId = some journal) : db'.journalOf paymentId = some journal := by
  rcases journals_of_change hchange with ⟨hsame, -⟩ | ⟨_, _, hjournals, -⟩
  · rw [Db.journalOf, hsame]
    exact h
  · exact hjournals.find_of_some h

theorem postingsOf_of_change (hchange : Change db db') {journal : PaymentJournalRow}
    (hjournal : journal ∈ db.merchantInvoicePaymentJournals) :
    db'.postingsOf journal.journalEntryId = db.postingsOf journal.journalEntryId := by
  rcases journals_of_change hchange with ⟨-, hsame⟩ | ⟨_, _, hjournals, hpostings⟩
  · rw [Db.postingsOf, Db.postingsOf, hsame]
  · rw [Db.postingsOf, Db.postingsOf, hpostings.select_of_not]
    intro posting hposting hsame
    obtain ⟨pair, -, rfl⟩ := List.mem_map.mp hposting
    exact hjournals.not_collide hjournal List.mem_cons_self (.inl hsame.symm)

/-- Every posting is one of a journal. -/
def PostingsJournaled (db : Db) : Prop :=
  ∀ posting ∈ db.merchantInvoicePaymentPostings,
    ∃ journal ∈ db.merchantInvoicePaymentJournals, journal.journalEntryId = posting.journalEntryId

theorem postingsJournaled_of_change (h : PostingsJournaled db) (hchange : Change db db') :
    PostingsJournaled db' := by
  rcases journals_of_change hchange with ⟨hjournals, hpostings⟩ | ⟨_, _, hjournals, hpostings⟩
  · rw [PostingsJournaled, hjournals, hpostings]
    exact h
  · intro posting hposting
    rcases hpostings.mem.mp hposting with hold | hnew
    · obtain ⟨journal, hjournal, hsame⟩ := h posting hold
      exact ⟨journal, hjournals.mem_of_mem hjournal, hsame⟩
    · obtain ⟨pair, -, rfl⟩ := List.mem_map.mp hnew
      exact ⟨_, hjournals.mem.mpr (.inr List.mem_cons_self), rfl⟩

theorem postingsJournaled_of_reachable (h : Reachable db) : PostingsJournaled db :=
  reachable_of_change (by simp [PostingsJournaled, Db.empty])
    (fun _ _ _ hsound hchange => postingsJournaled_of_change hsound hchange) h

theorem pairwise_postingRows (accounting : AcceptedInvoicePayment) :
    (postingRows accounting).Pairwise fun row row' => row.position ≤ row'.position := by
  rw [postingRows, List.pairwise_map]
  have hpositions :
      (accounting.journalEntry.postings.zipIdx.map Prod.snd).Pairwise (· ≤ ·) := by
    rw [List.zipIdx_map_snd]
    apply List.Pairwise.imp (fun h => Nat.le_of_lt h)
    exact List.pairwise_lt_range'
  exact List.pairwise_map.mp hpositions

theorem PostingsJournaled.postings_of_accepted (h : PostingsJournaled db)
    {accounting : AcceptedInvoicePayment} {journals : Table PaymentJournalRow}
    {postings : Table PaymentPostingRow}
    (hjournals : db.merchantInvoicePaymentJournals.Appends [journalRow scope accounting] journals)
    (hpostings : db.merchantInvoicePaymentPostings.Appends (postingRows accounting) postings) :
    orderBy (·.position) (postings.select fun row =>
      row.journalEntryId = accounting.journalEntry.id) = postingRows accounting := by
  have hold : (db.merchantInvoicePaymentPostings.select fun row =>
      row.journalEntryId = accounting.journalEntry.id) = [] := by
    rw [List.eq_nil_iff_forall_not_mem]
    intro posting hposting
    obtain ⟨hmem, hsame⟩ := Table.mem_select.mp hposting
    obtain ⟨journal, hjournal, hid⟩ := h posting hmem
    exact hjournals.not_collide hjournal List.mem_cons_self (.inl (hid.trans hsame))
  have hnew : (postingRows accounting).filter
      (fun row => row.journalEntryId = accounting.journalEntry.id) = postingRows accounting := by
    rw [List.filter_eq_self]
    intro row hrow
    obtain ⟨pair, -, rfl⟩ := List.mem_map.mp hrow
    simp [postingRow]
  rw [hpostings.select, hold, hnew, List.nil_append]
  exact orderBy_of_pairwise (pairwise_postingRows accounting)

theorem postingsMatch_postingRows (accounting : AcceptedInvoicePayment) :
    PostingsMatch (postingRows accounting) accounting := by
  rw [PostingsMatch, postingRows, List.forall₂_map_left_iff, List.forall₂_same]
  intro posting _
  exact ⟨rfl, rfl, rfl, rfl, rfl⟩

/-! ### Reading a journal again -/

/-- An accepted payment that a journal stores goes on being read from it. -/
theorem mapAcceptedPayment_of_change {journal : PaymentJournalRow}
    {accounting : AcceptedInvoicePayment} {invoiceState : StoredInvoiceState}
    {paidAt : Option UnixTimestamp} (hchange : Change db db')
    (hloaded : loadReservation db paymentId = .ok (some scope))
    (hjournal : journal ∈ db.merchantInvoicePaymentJournals)
    (h : mapAcceptedPayment db (scope.later invoiceState paidAt) journal = .ok accounting) :
    mapAcceptedPayment db' (scope.later invoiceState paidAt) journal = .ok accounting := by
  simp only [mapAcceptedPayment, bind_eq_ok] at h ⊢
  obtain ⟨route, hroute, h⟩ := h
  have hsame : requireSettlementRoute db scope = .ok route := hroute
  have hlater := requireSettlementRoute_of_change hsame hloaded hchange
  refine ⟨route, hlater, ?_⟩
  rw [postingsOf_of_change hchange hjournal]
  exact h

theorem mapAcceptedPayment_ok {journal : PaymentJournalRow} {accounting : AcceptedInvoicePayment}
    (h : mapAcceptedPayment db scope journal = .ok accounting) :
    journal.paymentId = scope.paymentId ∧ accounting.invoice.paidAt = journal.acceptedAt ∧
      scope.invoiceState = .paid ∧ scope.paidAt = some accounting.invoice.paidAt ∧
      journal.journalFingerprint = createAccountingFingerprint scope accounting := by
  simp only [mapAcceptedPayment, bind_eq_ok, ensure_eq_ok, exists_unit, mapError_eq_ok, pure_eq_ok,
    Except.ok.injEq] at h
  obtain ⟨_, -, -, made, hmade, ⟨-, -, hpayment, -, -, -, -, -, hpaid, hpaidAt, hfingerprint, -⟩,
    rfl⟩ := h
  refine ⟨hpayment, ?_, hpaid, hpaidAt, hfingerprint⟩
  simp only [acceptInvoicePayment, createInvoice, bind_eq_ok, ensure_eq_ok, exists_unit, pure_eq_ok,
    Except.ok.injEq] at hmade
  obtain ⟨_, -, -, -, -, -, -, _, -, rfl⟩ := hmade
  rfl

end CashMesh.Acquirer
