import CashMesh.Acquirer.Events
/-!
# The active claims

A payment holds a claim on each of its reserved proofs until it is released, and a claim on its
invoice from the start of its effect until it is released. The unique keys of the claims then keep a
proof from being reserved twice and an invoice from being paid twice at the same time.
-/

namespace CashMesh.Acquirer

open CashMesh.Lib

variable {db db' : Db}

/-- The claims are those of the payments that are not released. -/
structure ClaimsSound (db : Db) : Prop where
  eventReserved : ∀ event ∈ db.cashuProofReservationEvents,
    (db.reservation event.paymentId).isSome
  proofReserved : ∀ proof ∈ db.cashuReservedProofs, (db.reservation proof.paymentId).isSome
  effectReserved : ∀ effect ∈ db.cashuOperatorEffects, ∃ reservation ∈ db.cashuProofReservations,
    reservation.paymentId = effect.paymentId ∧ reservation.invoiceId = effect.invoiceId
  proofClaimed : ∀ proof ∈ db.cashuReservedProofs,
    db.latestState proof.paymentId ≠ some .released → proof.claim ∈ db.cashuActiveProofClaims
  claimedProof : ∀ claim ∈ db.cashuActiveProofClaims,
    db.latestState claim.paymentId ≠ some .released ∧
      ∃ proof ∈ db.cashuReservedProofs, proof.claim = claim
  effectClaimed : ∀ effect ∈ db.cashuOperatorEffects,
    db.latestState effect.paymentId ≠ some .released →
      effect.claim ∈ db.cashuActiveInvoicePaymentClaims
  claimedEffect : ∀ claim ∈ db.cashuActiveInvoicePaymentClaims,
    db.latestState claim.paymentId ≠ some .released ∧
      ∃ effect ∈ db.cashuOperatorEffects, effect.claim = claim

theorem claimsSound_empty : ClaimsSound Db.empty := by
  constructor <;> simp [Db.empty]

theorem latestState_of_no_event {paymentId : PaymentId}
    (h : ∀ event ∈ db.cashuProofReservationEvents, event.paymentId ≠ paymentId) :
    db.latestState paymentId = none := by
  rw [Db.latestState, Option.map_eq_none_iff, Db.latestEvent, latest_eq_none,
    List.eq_nil_iff_forall_not_mem]
  intro event hevent
  obtain ⟨hmem, hpayment⟩ := Table.mem_select.mp hevent
  exact h event hmem hpayment

/-- No event follows a release. -/
theorem NextEvent.not_released {row : LifecycleEventRow} (h : NextEvent db row) :
    db.latestState row.paymentId ≠ some .released := by
  intro hreleased
  obtain ⟨event, hevent, hstate⟩ := Option.map_eq_some_iff.mp hreleased
  apply (h.successor event hevent).notTerminal
  rw [hstate]
  exact .inr rfl

/-! ### Reserving -/

theorem ClaimsSound.reserve (h : ClaimsSound db) {reservation : CashuProofReservation}
    {reservations proofs claims}
    (hnew : db.reservation reservation.paymentId = none)
    (hreservations : db.cashuProofReservations.Appends [reservationRow reservation] reservations)
    (hproofs : db.cashuReservedProofs.Appends (reservedProofRows reservation) proofs)
    (hclaims : db.cashuActiveProofClaims.Appends ((reservedProofRows reservation).map (·.claim))
      claims) :
    ClaimsSound
      { db with
        cashuProofReservations := reservations
        cashuReservedProofs := proofs
        cashuActiveProofClaims := claims } := by
  have hkept : ∀ paymentId, (db.reservation paymentId).isSome →
      (reservations.find fun row => row.paymentId = paymentId).isSome := by
    intro paymentId hsome
    obtain ⟨row, hrow⟩ := Option.isSome_iff_exists.mp hsome
    exact Option.isSome_iff_exists.mpr ⟨row, hreservations.find_of_some hrow⟩
  have hown : ∀ proof ∈ reservedProofRows reservation,
      proof.paymentId = reservation.paymentId := by
    intro proof hproof
    obtain ⟨pair, -, rfl⟩ := List.mem_map.mp hproof
    rfl
  have hnoEvent : db.latestState reservation.paymentId = none := by
    apply latestState_of_no_event
    intro event hevent hpayment
    have hsome := h.eventReserved event hevent
    rw [hpayment, hnew] at hsome
    cases hsome
  constructor
  case eventReserved => exact fun event hevent => hkept _ (h.eventReserved event hevent)
  case proofReserved =>
    intro proof hproof
    rcases hproofs.mem.mp hproof with hold | hnewProof
    · exact hkept _ (h.proofReserved proof hold)
    · rw [hown proof hnewProof]
      cases hfind : reservations.find fun row => row.paymentId = reservation.paymentId with
      | some row => exact congrArg Option.isSome hfind
      | none =>
          exact absurd rfl (Table.find_none.mp hfind (reservationRow reservation)
            (hreservations.mem.mpr (.inr List.mem_cons_self)))
  case effectReserved =>
    intro effect heffect
    obtain ⟨row, hrow, hfits⟩ := h.effectReserved effect heffect
    exact ⟨row, hreservations.mem_of_mem hrow, hfits⟩
  case proofClaimed =>
    intro proof hproof hstate
    rcases hproofs.mem.mp hproof with hold | hnewProof
    · exact hclaims.mem_of_mem (h.proofClaimed proof hold hstate)
    · exact hclaims.mem.mpr (.inr (List.mem_map_of_mem hnewProof))
  case claimedProof =>
    intro claim hclaim
    rcases hclaims.mem.mp hclaim with hold | hnewClaim
    · obtain ⟨hstate, proof, hproof, hsame⟩ := h.claimedProof claim hold
      exact ⟨hstate, proof, hproofs.mem_of_mem hproof, hsame⟩
    · obtain ⟨proof, hproof, rfl⟩ := List.mem_map.mp hnewClaim
      refine ⟨?_, proof, hproofs.mem.mpr (.inr hproof), rfl⟩
      rw [show proof.claim.paymentId = reservation.paymentId from hown proof hproof]
      show db.latestState reservation.paymentId ≠ some .released
      rw [hnoEvent]
      exact nofun
  case effectClaimed => exact h.effectClaimed
  case claimedEffect => exact h.claimedEffect

/-! ### Starting an effect -/

theorem ClaimsSound.startEffect (h : ClaimsSound db) {row : OperatorEffectRow}
    {effects claims jobs}
    (hreserved : ∃ reservation ∈ db.cashuProofReservations,
      reservation.paymentId = row.paymentId ∧ reservation.invoiceId = row.invoiceId)
    (hstate : db.latestState row.paymentId ≠ some .released)
    (heffects : db.cashuOperatorEffects.Appends [row] effects)
    (hclaims : db.cashuActiveInvoicePaymentClaims.Appends [row.claim] claims) :
    ClaimsSound (db.withEffect effects claims jobs) := by
  constructor
  case eventReserved => exact h.eventReserved
  case proofReserved => exact h.proofReserved
  case proofClaimed => exact h.proofClaimed
  case claimedProof => exact h.claimedProof
  case effectReserved =>
    intro effect heffect
    rcases heffects.mem.mp heffect with hold | hnew
    · exact h.effectReserved effect hold
    · rw [List.mem_singleton.mp hnew]
      exact hreserved
  case effectClaimed =>
    intro effect heffect hactive
    rcases heffects.mem.mp heffect with hold | hnew
    · exact hclaims.mem_of_mem (h.effectClaimed effect hold hactive)
    · rw [List.mem_singleton.mp hnew]
      exact hclaims.mem.mpr (.inr List.mem_cons_self)
  case claimedEffect =>
    intro claim hclaim
    rcases hclaims.mem.mp hclaim with hold | hnew
    · obtain ⟨hactive, effect, heffect, hsame⟩ := h.claimedEffect claim hold
      exact ⟨hactive, effect, heffects.mem_of_mem heffect, hsame⟩
    · rw [List.mem_singleton.mp hnew]
      exact ⟨hstate, row, heffects.mem.mpr (.inr List.mem_cons_self), rfl⟩

/-! ### Appending an event -/

theorem mem_proofClaims_afterEvent {row : LifecycleEventRow} {events : Table LifecycleEventRow}
    {claim : ActiveProofClaimRow} :
    claim ∈ (db.afterEvent row events).cashuActiveProofClaims ↔
      claim ∈ db.cashuActiveProofClaims ∧
        ¬(row.state = .released ∧ claim.paymentId = row.paymentId) := by
  by_cases hreleased : row.state = .released
  · simp [Db.afterEvent, hreleased, Table.mem_delete]
  · simp [Db.afterEvent, hreleased]

theorem mem_invoiceClaims_afterEvent {row : LifecycleEventRow} {events : Table LifecycleEventRow}
    {claim : ActiveInvoiceClaimRow} :
    claim ∈ (db.afterEvent row events).cashuActiveInvoicePaymentClaims ↔
      claim ∈ db.cashuActiveInvoicePaymentClaims ∧
        ¬(row.state = .released ∧ claim.paymentId = row.paymentId) := by
  by_cases hreleased : row.state = .released
  · simp [Db.afterEvent, hreleased, Table.mem_delete]
  · simp [Db.afterEvent, hreleased]

theorem ClaimsSound.append (h : ClaimsSound db) {row : LifecycleEventRow}
    {events : Table LifecycleEventRow} (hnext : NextEvent db row)
    (hreserved : (db.reservation row.paymentId).isSome)
    (hevents : db.cashuProofReservationEvents.Appends [row] events) :
    ClaimsSound (db.afterEvent row events) := by
  have hself : (db.afterEvent row events).latestState row.paymentId = some row.state :=
    latestState_append_self hnext hevents
  have hother : ∀ paymentId, row.paymentId ≠ paymentId →
      (db.afterEvent row events).latestState paymentId = db.latestState paymentId :=
    fun paymentId hne => latestState_append_of_ne hevents hne
  have hbefore : ∀ paymentId,
      (db.afterEvent row events).latestState paymentId ≠ some .released →
        db.latestState paymentId ≠ some .released ∧
          ¬(row.state = .released ∧ paymentId = row.paymentId) := by
    intro paymentId hstate
    by_cases hpayment : row.paymentId = paymentId
    · subst hpayment
      rw [hself] at hstate
      exact ⟨hnext.not_released, fun hreleased => hstate (by rw [hreleased.1])⟩
    · rw [hother paymentId hpayment] at hstate
      exact ⟨hstate, fun hsame => hpayment hsame.2.symm⟩
  have hafter : ∀ paymentId, db.latestState paymentId ≠ some .released →
      ¬(row.state = .released ∧ paymentId = row.paymentId) →
        (db.afterEvent row events).latestState paymentId ≠ some .released := by
    intro paymentId hstate hkept
    by_cases hpayment : row.paymentId = paymentId
    · subst hpayment
      rw [hself]
      intro hreleased
      exact hkept ⟨Option.some_inj.mp hreleased, rfl⟩
    · rw [hother paymentId hpayment]
      exact hstate
  constructor
  case eventReserved =>
    intro event hevent
    rcases hevents.mem.mp hevent with hold | hnew
    · exact h.eventReserved event hold
    · rw [List.mem_singleton.mp hnew]
      exact hreserved
  case proofReserved => exact h.proofReserved
  case effectReserved => exact h.effectReserved
  case proofClaimed =>
    intro proof hproof hstate
    obtain ⟨hactive, hkept⟩ := hbefore _ hstate
    exact mem_proofClaims_afterEvent.mpr ⟨h.proofClaimed proof hproof hactive, hkept⟩
  case claimedProof =>
    intro claim hclaim
    obtain ⟨hold, hkept⟩ := mem_proofClaims_afterEvent.mp hclaim
    obtain ⟨hstate, hproof⟩ := h.claimedProof claim hold
    exact ⟨hafter _ hstate hkept, hproof⟩
  case effectClaimed =>
    intro effect heffect hstate
    obtain ⟨hactive, hkept⟩ := hbefore _ hstate
    exact mem_invoiceClaims_afterEvent.mpr ⟨h.effectClaimed effect heffect hactive, hkept⟩
  case claimedEffect =>
    intro claim hclaim
    obtain ⟨hold, hkept⟩ := mem_invoiceClaims_afterEvent.mp hclaim
    obtain ⟨hstate, heffect⟩ := h.claimedEffect claim hold
    exact ⟨hafter _ hstate hkept, heffect⟩

/-! ### Every run -/

theorem EventAdmitted.reserved {row : LifecycleEventRow} (h : EventAdmitted db row) :
    (db.reservation row.paymentId).isSome := by
  obtain ⟨reservation, hreservation, -⟩ := h.valid
  exact Option.isSome_iff_exists.mpr ⟨reservation, hreservation⟩

theorem ClaimsSound.account (h : ClaimsSound db) {journals postings invoices} :
    ClaimsSound (db.withAccounting journals postings invoices) :=
  ⟨h.eventReserved, h.proofReserved, h.effectReserved, h.proofClaimed, h.claimedProof,
    h.effectClaimed, h.claimedEffect⟩

theorem claimsSound_of_change (h : ClaimsSound db) (hchange : Change db db') : ClaimsSound db' := by
  cases hchange
  case reserved hcreated hnew hroute hreservations hproofs hclaims =>
    exact h.reserve hnew hreservations hproofs hclaims
  case effectStarted scope input lifecycle effects claims jobs events hstartable heffects hclaims
      hjobs hadmitted hevents hafter =>
    obtain ⟨reservation, invoice, hreservation, -, rfl, -⟩ :=
      loadReservation_ok hstartable.loaded
    obtain ⟨hmem, hpayment⟩ := Table.find_some hreservation
    have hsame : input.paymentId = reservation.paymentId := hpayment.symm
    have hnext : NextEvent db (eventRow input.draft 0) :=
      ⟨hadmitted.nextEvent.successor, hadmitted.nextEvent.first⟩
    have hactive : db.latestState reservation.paymentId ≠ some .released :=
      hsame ▸ hnext.not_released
    have hstarted := @ClaimsSound.startEffect db h _ effects claims jobs
      ⟨reservation, hmem, rfl, rfl⟩ hactive heffects hclaims
    exact hstarted.append hadmitted.nextEvent hadmitted.reserved hevents
  case eventAppended hadmitted hevents _ =>
    exact h.append hadmitted.nextEvent hadmitted.reserved hevents
  case paymentAccepted hadmitted hevents hdb _ _ _ =>
    subst hdb
    exact h.account.append hadmitted.nextEvent hadmitted.reserved hevents
  all_goals
    exact ⟨h.eventReserved, h.proofReserved, h.effectReserved, h.proofClaimed, h.claimedProof,
      h.effectClaimed, h.claimedEffect⟩

theorem claimsSound_of_reachable (h : Reachable db) : ClaimsSound db :=
  reachable_of_change claimsSound_empty (fun _ _ _ hsound hchange =>
    claimsSound_of_change hsound hchange) h

/-- The payment of an invoice has an effect and is not released. -/
def Claiming (db : Db) (invoiceId : InvoiceId) (paymentId : PaymentId) : Prop :=
  (∃ reservation ∈ db.cashuProofReservations,
      reservation.paymentId = paymentId ∧ reservation.invoiceId = invoiceId) ∧
    (∃ effect ∈ db.cashuOperatorEffects, effect.paymentId = paymentId) ∧
    db.latestState paymentId ≠ some .released

theorem ClaimsSound.invoice_of_effect (h : ClaimsSound db) {invoiceId : InvoiceId}
    {paymentId : PaymentId} (hclaiming : Claiming db invoiceId paymentId) :
    ∃ effect ∈ db.cashuOperatorEffects, effect.paymentId = paymentId ∧
      effect.invoiceId = invoiceId ∧ effect.claim ∈ db.cashuActiveInvoicePaymentClaims := by
  obtain ⟨⟨reservation, hreservation, hpayment, hinvoice⟩, ⟨effect, heffect, hsame⟩, hactive⟩ :=
    hclaiming
  obtain ⟨other, hother, hotherPayment, hotherInvoice⟩ := h.effectReserved effect heffect
  obtain rfl : other = reservation := Table.eq_of_collide hother hreservation
    (.inl (hotherPayment.trans (hsame.trans hpayment.symm)))
  exact ⟨effect, heffect, hsame, hotherInvoice.symm.trans hinvoice,
    h.effectClaimed effect heffect (hsame ▸ hactive)⟩

/-- Over every run of the acquirer, a proof is in at most one active claim, a payment claims exactly
its reserved proofs until it is released and none after, an invoice has at most one payment with an
effect that is not released, and it is claimed exactly when there is one. -/
theorem claims_sound {db : Db} (hreach : Reachable db) :
    (∀ claim ∈ db.cashuActiveProofClaims, ∀ other ∈ db.cashuActiveProofClaims,
      claim.mintUrl = other.mintUrl → claim.proofY = other.proofY → claim = other) ∧
    (∀ reservation ∈ db.cashuProofReservations,
      (db.latestState reservation.paymentId ≠ some .released → ∀ claim,
        claim ∈ db.proofClaimsOf reservation.paymentId ↔
          ∃ proof ∈ db.reservedProofsOf reservation.paymentId, proof.claim = claim) ∧
      (db.latestState reservation.paymentId = some .released →
        db.proofClaimsOf reservation.paymentId = [])) ∧
    (∀ invoiceId paymentId paymentId', Claiming db invoiceId paymentId →
      Claiming db invoiceId paymentId' → paymentId = paymentId') ∧
    ∀ invoiceId, (∃ claim ∈ db.cashuActiveInvoicePaymentClaims, claim.invoiceId = invoiceId) ↔
      ∃ paymentId, Claiming db invoiceId paymentId := by
  have hsound := claimsSound_of_reachable hreach
  refine ⟨?_, ?_, ?_, ?_⟩
  · intro claim hclaim other hother hmint hproof
    exact Table.eq_of_collide hclaim hother ⟨hproof, .inl hmint⟩
  · intro reservation hreservation
    constructor
    · intro hactive claim
      rw [Db.proofClaimsOf, Table.mem_select]
      constructor
      · rintro ⟨hclaim, hpayment⟩
        obtain ⟨-, proof, hproof, rfl⟩ := hsound.claimedProof claim hclaim
        exact ⟨proof, mem_orderBy.mpr (Table.mem_select.mpr ⟨hproof, hpayment⟩), rfl⟩
      · rintro ⟨proof, hproof, rfl⟩
        obtain ⟨hmem, hpayment⟩ := Table.mem_select.mp (mem_orderBy.mp hproof)
        exact ⟨hsound.proofClaimed proof hmem (by rw [hpayment]; exact hactive), hpayment⟩
    · intro hreleased
      rw [List.eq_nil_iff_forall_not_mem]
      intro claim hclaim
      obtain ⟨hmem, hpayment⟩ := Table.mem_select.mp hclaim
      exact (hsound.claimedProof claim hmem).1 (by rw [hpayment]; exact hreleased)
  · intro invoiceId paymentId paymentId' hclaiming hclaiming'
    obtain ⟨effect, -, hpayment, hinvoice, hclaim⟩ := hsound.invoice_of_effect hclaiming
    obtain ⟨effect', -, hpayment', hinvoice', hclaim'⟩ := hsound.invoice_of_effect hclaiming'
    have hsame : effect.claim = effect'.claim :=
      Table.eq_of_collide hclaim hclaim' (.inl (hinvoice.trans hinvoice'.symm))
    rw [← hpayment, ← hpayment']
    exact congrArg ActiveInvoiceClaimRow.paymentId hsame
  · intro invoiceId
    constructor
    · rintro ⟨claim, hclaim, rfl⟩
      obtain ⟨hactive, effect, heffect, rfl⟩ := hsound.claimedEffect claim hclaim
      exact ⟨effect.paymentId, hsound.effectReserved effect heffect, ⟨effect, heffect, rfl⟩,
        hactive⟩
    · rintro ⟨paymentId, hclaiming⟩
      obtain ⟨effect, -, -, hinvoice, hclaim⟩ := hsound.invoice_of_effect hclaiming
      exact ⟨effect.claim, hclaim, hinvoice⟩

/-- The dispatched payment holds both of its claims, and its release frees them. -/
theorem claims_sound_released :
    ((Sample.after []).proofClaimsOf Sample.paymentId).length = 1 ∧
      (Sample.after []).cashuActiveInvoicePaymentClaims.rows.length = 1 ∧
      (Sample.after [Sample.observe .unpaid 1511, Sample.observeProof .unspent 1512,
        Sample.release]).proofClaimsOf Sample.paymentId = [] := by
  refine ⟨by decide +kernel, by decide +kernel, ?_⟩
  have hreserved : ∃ reservation ∈ (Sample.after [Sample.observe .unpaid 1511,
      Sample.observeProof .unspent 1512, Sample.release]).cashuProofReservations,
      reservation.paymentId = Sample.paymentId := by decide +kernel
  obtain ⟨reservation, hreservation, hpayment⟩ := hreserved
  have hclaims := (claims_sound (Sample.reachable_after _)).2.1 reservation hreservation
  rw [hpayment] at hclaims
  exact hclaims.2 (by decide +kernel)

end CashMesh.Acquirer
