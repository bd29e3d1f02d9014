import CashMesh.Acquirer.Observations
/-!
# What settles a payment

A melt payment is consumed on a paid quote and a snapshot that saw all of its proofs spent, and it is
released after its dispatch on a quote that was last seen unpaid after its expiry and proofs that were
last seen unspent. Both are final, and since neither a paid quote nor a spent proof is taken back, the
evidence for the one rules the other out.
-/

namespace CashMesh.Acquirer

open CashMesh.Lib

variable {db db' : Db}

/-! ### The evidence of a decision -/

/-- The snapshot saw every proof it has an entry for unspent. -/
def AllUnspent (db : Db) (fingerprint : ProofStateFingerprint) : Prop :=
  db.proofStateEntriesOf fingerprint ≠ [] ∧
    ∀ entry ∈ db.proofStateEntriesOf fingerprint, entry.state = .unspent

/-- The quote of the effect was seen paid once the effect had started, and all the reserved proofs
were seen spent between then and the record of the event. -/
def PaidAndSpent (db : Db) (event : LifecycleEventRow) (effect : OperatorEffectRow) : Prop :=
  ∃ quote ∈ db.cashuStellarMeltQuoteObservations, ∃ snapshot ∈ db.cashuProofStateObservations,
    quote.paymentId = event.paymentId ∧ effect.operatorReference = some quote.quoteId ∧
      quote.state = .paid ∧ effect.startedAt ≤ quote.observedAt ∧
    snapshot.paymentId = event.paymentId ∧ CoversReserved db snapshot ∧
      AllSpent db snapshot.snapshotFingerprint ∧
    quote.observedAt ≤ snapshot.observedAt ∧ snapshot.observedAt ≤ event.recordedAt

/-- The quote observation of a payment with the greatest time. -/
def Db.latestQuoteOf (db : Db) (paymentId : PaymentId) : Option MeltQuoteObservationRow :=
  latest (·.observedAt)
    (db.cashuStellarMeltQuoteObservations.select fun row => row.paymentId = paymentId)

/-- The latest observation of the quote of the effect is unpaid, no earlier than its expiry, and the
latest snapshot has all the reserved proofs unspent. -/
def UnpaidAndUnspent (db : Db) (effect : OperatorEffectRow) : Prop :=
  (∃ quote, db.latestQuoteOf effect.paymentId = some quote ∧ quote.state = .unpaid ∧
      effect.operatorReference = some quote.quoteId ∧
      ∃ expiresAt, effect.operatorReferenceExpiresAt = some expiresAt ∧
        expiresAt ≤ quote.observedAt) ∧
    ∃ snapshot ∈ db.cashuProofStateObservations,
      db.latestProofState effect.paymentId = some snapshot ∧ CoversReserved db snapshot ∧
        AllUnspent db snapshot.snapshotFingerprint

/-- Every decision is on the evidence for it, and is the last event of its payment. -/
structure DecisionsSound (db : Db) : Prop where
  last : ∀ event ∈ db.cashuProofReservationEvents, event.state.toReservationState.Terminal →
    db.latestEvent event.paymentId = some event
  consumed : ∀ event ∈ db.cashuProofReservationEvents, event.state = .consumed →
    ∃ effect ∈ db.cashuOperatorEffects, effect.paymentId = event.paymentId ∧
      effect.effectKind = .melt ∧ PaidAndSpent db event effect
  released : ∀ event ∈ db.cashuProofReservationEvents, event.state = .released →
    ∀ effect ∈ db.cashuOperatorEffects, effect.paymentId = event.paymentId →
      effect.effectKind = .melt → UnpaidAndUnspent db effect

theorem decisionsSound_empty : DecisionsSound Db.empty := by
  constructor <;> simp [Db.empty]

/-! ### Evidence is kept -/

theorem PaidAndSpent.keep {event : LifecycleEventRow} {effect : OperatorEffectRow}
    (h : PaidAndSpent db event effect) (hchange : Change db db') (hsnapshots : SnapshotsSound db') :
    PaidAndSpent db' event effect := by
  obtain ⟨quote, hquote, snapshot, hsnapshot, hpayment, hreference, hpaid, hstarted,
    hsnapshotPayment, -, hspent, htimes⟩ := h
  obtain ⟨hmem, hentries⟩ := snapshot_of_change hchange hsnapshot
  refine ⟨quote, quote_of_change hchange hquote, snapshot, hmem, hpayment, hreference, hpaid,
    hstarted, hsnapshotPayment, hsnapshots.covered snapshot hmem, ?_, htimes⟩
  rw [AllSpent, hentries]
  exact hspent

theorem UnpaidAndUnspent.keep {effect : OperatorEffectRow} {state : LifecycleEventState}
    (h : UnpaidAndUnspent db effect) (hchange : Change db db') (hsnapshots : SnapshotsSound db')
    (hstate : db.latestState effect.paymentId = some state)
    (hterminal : state.toReservationState.Terminal) : UnpaidAndUnspent db' effect := by
  obtain ⟨hquote, snapshot, hsnapshot, hlatest, -, hunspent⟩ := h
  obtain ⟨hquotes, hobservations⟩ := evidence_of_terminal hchange hstate hterminal
  obtain ⟨hmem, hentries⟩ := snapshot_of_change hchange hsnapshot
  constructor
  · rw [Db.latestQuoteOf, hquotes]
    exact hquote
  · refine ⟨snapshot, hmem, ?_, hsnapshots.covered snapshot hmem, ?_⟩
    · rw [Db.latestProofState, hobservations]
      exact hlatest
    · rw [AllUnspent, hentries]
      exact hunspent

/-! ### Consuming -/

/-- The effect of a payment that is accepted is a melt whose quote was seen paid. -/
theorem quote_of_accepted {scope : ReservationScope} {effectId : CashuOperatorEffectId}
    {evidenceAt recordedAt : UnixTimestamp} {effect : CashuOperatorEffect}
    (h : assertEffectEvidence db scope effectId .meltPaid evidenceAt recordedAt = .ok effect) :
    ∃ row ∈ db.cashuOperatorEffects, row.paymentId = scope.paymentId ∧ row.effectKind = .melt ∧
      row.startedAt ≤ evidenceAt ∧
      ∃ quote ∈ db.cashuStellarMeltQuoteObservations, quote.paymentId = scope.paymentId ∧
        row.operatorReference = some quote.quoteId ∧ quote.state = .paid ∧
        quote.observedAt = evidenceAt := by
  obtain ⟨⟨lifecycle, hlifecycle, hstored⟩, hstarted, hpaid⟩ := assertEffectEvidence_ok h
  obtain ⟨hmelt, hpaid⟩ := hpaid rfl
  obtain ⟨row, hrow, hpayment, hstores⟩ := effectRow_of_loadLifecycle hlifecycle hstored
  simp only [assertMeltPaidEvidence, bind_eq_ok, orFail_eq_ok, ensure_eq_ok] at hpaid
  obtain ⟨_, hloaded, evidence, rfl, observation, hfind, -, hterms, hstate⟩ := hpaid
  obtain ⟨quote, hquote, hquotePayment, htime, hquoteState, hquoteId⟩ :=
    row_of_quote hloaded (List.mem_of_find?_eq_some hfind)
  have hat : observation.observedAt = evidenceAt := by simpa using List.find?_some hfind
  refine ⟨row, hrow, hpayment, hstores.kind.trans hmelt, hstores.startedAt.trans_le hstarted,
    quote, hquote, hquotePayment, ?_, hquoteState.trans hstate, htime.trans hat⟩
  rw [hstores.operatorReference, hterms, hquoteId]
  rfl

theorem paidAndSpent_of_accepted {scope : ReservationScope} {input : AcceptPaymentInput}
    {accounting : AcceptedInvoicePayment} {fingerprint : ProofStateFingerprint} {sequence : Nat}
    {journals postings invoices} (hsnapshots : SnapshotsSound db)
    (hacceptable : PaymentAcceptable db scope input accounting fingerprint)
    (hadmitted : EventAdmitted (db.withAccounting journals postings invoices)
      (eventRow (input.draft fingerprint) sequence)) :
    ∃ effect ∈ db.cashuOperatorEffects, effect.paymentId = input.paymentId ∧
      effect.effectKind = .melt ∧
      PaidAndSpent db (eventRow (input.draft fingerprint) sequence) effect := by
  obtain ⟨effect, heffect⟩ := hacceptable.paid
  obtain ⟨row, hrow, hpayment, hmelt, hstarted, quote, hquote, hquotePayment, hreference, hpaid,
    htime⟩ := quote_of_accepted heffect
  have hscope : input.paymentId = scope.paymentId :=
    (paymentId_of_loadReservation hacceptable.loaded).symm
  obtain ⟨_, -, hvalid⟩ := hadmitted.valid
  obtain ⟨snapshot, hsnapshot, hcited⟩ := hvalid.snapshot fingerprint rfl
  obtain ⟨hmem, -, hsnapshotPayment⟩ := Table.find_some hsnapshot
  refine ⟨row, hrow, hpayment.trans hscope.symm, hmelt, quote, hquote, snapshot, hmem,
    hquotePayment.trans hscope.symm, hreference, hpaid, hstarted.trans_eq htime.symm,
    hsnapshotPayment, hsnapshots.covered snapshot hmem, ⟨hcited.entries, hcited.uniform⟩, ?_,
    hcited.beforeRecord⟩
  rw [htime]
  exact hcited.afterEvidence input.evidenceAt rfl

/-! ### Releasing -/

theorem QuotesSound.select_eq (h : QuotesSound db) {paymentId : PaymentId}
    {attempt : MeltQuoteAttemptRow} (hattempt : db.attemptOf paymentId = some attempt) :
    (db.cashuStellarMeltQuoteObservations.select fun row => row.attemptId = attempt.attemptId) =
      db.cashuStellarMeltQuoteObservations.select fun row => row.paymentId = paymentId := by
  obtain ⟨hmem, hpayment⟩ := Table.find_some hattempt
  apply List.filter_congr
  intro row hrow
  obtain ⟨other, hother, hotherId, hotherPayment⟩ := h.attempted row hrow
  rw [decide_eq_decide]
  show row.attemptId = attempt.attemptId ↔ row.paymentId = paymentId
  rw [← hotherId, ← hotherPayment]
  constructor
  · intro hsame
    rw [Table.eq_of_collide hother hmem (.inl hsame), hpayment]
  · intro hsame
    rw [Table.eq_of_collide hother hmem (.inr (.inr (hsame.trans hpayment.symm)))]

theorem QuotesSound.latestQuoteOf_eq (h : QuotesSound db) {paymentId : PaymentId}
    {attempt : MeltQuoteAttemptRow} (hattempt : db.attemptOf paymentId = some attempt) :
    db.latestQuoteOf paymentId = db.latestQuoteObservation attempt.attemptId := by
  rw [Db.latestQuoteOf, Db.latestQuoteObservation, h.select_eq hattempt]

/-- A release of a payment with a melt effect is one after its expiry. -/
theorem evidenceKind_of_released {row : LifecycleEventRow} (h : EventAdmitted db row)
    (hstate : row.state = .released) (hkind : row.evidenceKind.isSome)
    {effectId : CashuOperatorEffectId} (heffectId : row.effectId = some effectId)
    {effect : OperatorEffectRow} (heffect : effect ∈ db.cashuOperatorEffects)
    (hpayment : effect.paymentId = row.paymentId) (hmelt : effect.effectKind = .melt) :
    row.evidenceKind = some .meltUnpaidAfterExpiry := by
  obtain ⟨kind, hkind⟩ := Option.isSome_iff_exists.mp hkind
  have hshape : kind = .failure .swapRejected ∨ kind = .failure .meltUnpaidAfterExpiry := by
    obtain ⟨-, -, -, hshape, -⟩ := h.checks
    rcases hshape with ⟨hother, -⟩ | ⟨hother, -⟩ | ⟨hother, -⟩ | ⟨hother, -⟩ | ⟨-, hnone, -⟩ |
      ⟨-, -, hkinds, -⟩
    · cases hstate.symm.trans hother
    · cases hstate.symm.trans hother
    · cases hstate.symm.trans hother
    · cases hstate.symm.trans hother
    · cases heffectId.symm.trans hnone
    · exact hkinds kind hkind
  rcases hshape with rfl | rfl
  · obtain ⟨_, -, hvalid⟩ := h.valid
    obtain ⟨stored, hstored, hfits⟩ := hvalid.effect effectId heffectId
    obtain ⟨hstoredMem, -, hstoredPayment⟩ := Table.find_some hstored
    obtain rfl : stored = effect := Table.eq_of_collide hstoredMem heffect
      (.inr (.inr (.inl (hstoredPayment.trans hpayment.symm))))
    have hswap := (hfits.evidence _ hkind).2.2.1 rfl
    rw [hmelt] at hswap
    cases hswap
  · exact hkind

theorem unpaidAndUnspent_of_released {scope : ReservationScope} {draft : EventDraft}
    {sequence : Nat} {current : CashuProofReservationLifecycle} (hquotes : QuotesSound db)
    (hsnapshots : SnapshotsSound db) (hkind : draft.evidenceKind.isSome)
    (hscope : loadReservation db draft.paymentId = .ok (some scope))
    (hcurrent : loadLifecycle db scope = .ok current)
    (hfollows : EventFollows current draft sequence)
    (hrelease : draft.evidenceKind = some .meltUnpaidAfterExpiry → ReleaseJustified db scope draft)
    (hadmitted : EventAdmitted db (eventRow draft sequence)) (hstate : draft.state = .released)
    {effect : OperatorEffectRow} (heffect : effect ∈ db.cashuOperatorEffects)
    (hpayment : effect.paymentId = draft.paymentId) (hmelt : effect.effectKind = .melt) :
    UnpaidAndUnspent db effect := by
  have hsame : draft.paymentId = scope.paymentId := (paymentId_of_loadReservation hscope).symm
  rcases hfollows with ⟨-, -, -, hnone, -⟩ | ⟨stored, hstored, hmatches, -⟩
  · exact absurd (hpayment.trans hsame) (no_effectRow_of_loadLifecycle hcurrent hnone heffect)
  obtain ⟨heffectId, -, -, ⟨evidenceAt, hevidenceAt, -, -, hexpired⟩, -⟩ := hmatches
  have hunpaid : draft.evidenceKind = some .meltUnpaidAfterExpiry :=
    evidenceKind_of_released hadmitted hstate hkind heffectId heffect hpayment hmelt
  obtain ⟨row, hrow, hrowPayment, hstores⟩ := effectRow_of_loadLifecycle hcurrent hstored
  obtain rfl : row = effect := Table.eq_of_collide hrow heffect
    (.inr (.inr (.inl (hrowPayment.trans (hsame.symm.trans hpayment.symm)))))
  obtain ⟨lifecycle, released, releasedAt, observedAt, fingerprint, hlifecycle, hreleased,
    hreleasedAt, hcited, -, hlatest⟩ := hrelease hunpaid
  obtain rfl : lifecycle = current := Except.ok.inj (hlifecycle.symm.trans hcurrent)
  obtain rfl : stored = released := Option.some.inj (hstored.symm.trans hreleased)
  obtain rfl : releasedAt = evidenceAt := Option.some.inj (hreleasedAt.symm.trans hevidenceAt)
  simp only [assertLatestMeltReleaseEvidence, bind_eq_ok, orFail_eq_ok, ensure_eq_ok,
    exists_unit] at hlatest
  obtain ⟨_, hloaded, _, -, evidence, rfl, quote, hquote, ⟨-, -, hterms, hquoteAt, hquoteState⟩,
    snapshot, hsnapshot, hsnapshotFingerprint, -⟩ := hlatest
  constructor
  · obtain ⟨attempt, outcome, hattempt, -, hevidence⟩ := loadMeltQuotedEvidence_ok hloaded
    obtain ⟨last, hlast, hlastStores⟩ :=
      getLast?_of_forall₂ (quotedEvidence_ok hevidence).1 hquote
    obtain ⟨expiresAt, hexpiresAt, hle⟩ := hexpired hunpaid
    refine ⟨last, ?_, hlastStores.state.symm.trans hquoteState, ?_, expiresAt,
      hstores.expiresAt.trans hexpiresAt, ?_⟩
    · rw [hrowPayment, hquotes.latestQuoteOf_eq hattempt]
      exact hlast
    · rw [hstores.operatorReference, hterms, hlastStores.quoteId]
      rfl
    · rw [← hlastStores.observedAt, hquoteAt]
      exact hle
  · have hmem : snapshot ∈ db.cashuProofStateObservations :=
      (Table.mem_select.mp (mem_of_latest hsnapshot)).1
    refine ⟨snapshot, hmem, hrowPayment ▸ hsnapshot, hsnapshots.covered snapshot hmem, ?_⟩
    obtain ⟨_, -, hvalid⟩ := hadmitted.valid
    obtain ⟨observation, hobservation, hvalidSnapshot⟩ := hvalid.snapshot fingerprint hcited
    obtain ⟨-, hfingerprint, -⟩ := Table.find_some hobservation
    have huniform := hvalidSnapshot.uniform
    rw [hfingerprint, show (eventRow draft sequence).state = .released from hstate] at huniform
    have hentries := hvalidSnapshot.entries
    rw [hfingerprint] at hentries
    rw [hsnapshotFingerprint]
    exact ⟨hentries, huniform⟩

/-! ### Every run -/

theorem DecisionsSound.latestState (h : DecisionsSound db) {event : LifecycleEventRow}
    (hevent : event ∈ db.cashuProofReservationEvents)
    (hterminal : event.state.toReservationState.Terminal) :
    db.latestState event.paymentId = some event.state := by
  rw [Db.latestState, h.last event hevent hterminal]
  rfl

/-- A change that appends no event, or an event on the evidence for it, keeps the decisions. -/
theorem DecisionsSound.keep (h : DecisionsSound db) (hchange : Change db db')
    (hsnapshots : SnapshotsSound db') {rows : List LifecycleEventRow}
    (hevents : db.cashuProofReservationEvents.Appends rows db'.cashuProofReservationEvents)
    (hlast : ∀ row ∈ rows, db'.latestEvent row.paymentId = some row)
    (hconsumed : ∀ row ∈ rows, row.state = .consumed → ∃ effect ∈ db'.cashuOperatorEffects,
      effect.paymentId = row.paymentId ∧ effect.effectKind = .melt ∧ PaidAndSpent db' row effect)
    (hreleased : ∀ row ∈ rows, row.state = .released → ∀ effect ∈ db'.cashuOperatorEffects,
      effect.paymentId = row.paymentId → effect.effectKind = .melt → UnpaidAndUnspent db' effect) :
    DecisionsSound db' where
  last event hevent hterminal := by
    rcases hevents.mem.mp hevent with hold | hnew
    · rw [terminal_of_change hchange (h.latestState hold hterminal) hterminal]
      exact h.last event hold hterminal
    · exact hlast event hnew
  consumed event hevent hstate := by
    rcases hevents.mem.mp hevent with hold | hnew
    · obtain ⟨effect, heffect, hpayment, hmelt, hpaid⟩ := h.consumed event hold hstate
      refine ⟨effect, ?_, hpayment, hmelt, hpaid.keep hchange hsnapshots⟩
      rcases effects_of_change hchange with hsame | ⟨row, -, heffects⟩
      · rwa [hsame]
      · exact heffects.mem_of_mem heffect
    · exact hconsumed event hnew hstate
  released event hevent hstate effect heffect hpayment hmelt := by
    rcases hevents.mem.mp hevent with hold | hnew
    · have hterminal : event.state.toReservationState.Terminal := by
        rw [hstate]
        exact .inr rfl
      have holdEffect : effect ∈ db.cashuOperatorEffects := by
        rcases effects_of_change hchange with hsame | ⟨row, hnone, heffects⟩
        · rwa [← hsame]
        · rcases heffects.mem.mp heffect with holdEffect | hnewEffect
          · exact holdEffect
          · have hsome := latestEvent_isSome_of_mem hold
            rw [← hpayment, List.mem_singleton.mp hnewEffect, hnone] at hsome
            cases hsome
      have hlatest := h.latestState hold hterminal
      rw [← hpayment] at hlatest
      exact (h.released event hold hstate effect holdEffect hpayment hmelt).keep hchange hsnapshots
        hlatest hterminal
    · exact hreleased event hnew hstate effect heffect hpayment hmelt

theorem decisionsSound_of_change (h : DecisionsSound db) (hquotes : QuotesSound db)
    (hsnapshots : SnapshotsSound db) (hchange : Change db db') : DecisionsSound db' := by
  have hcopy := hchange
  have hsnapshots' := snapshotsSound_of_change hsnapshots hchange
  cases hchange
  case effectStarted scope input lifecycle effects claims jobs events hstartable heffects hclaims
      hjobs hadmitted hevents hafter =>
    have hnext : NextEvent db (eventRow input.draft 0) :=
      ⟨hadmitted.nextEvent.successor, hadmitted.nextEvent.first⟩
    apply h.keep hcopy hsnapshots' hevents
    · intro row hrow
      rw [List.mem_singleton.mp hrow]
      exact latestEvent_append_self hnext hevents
    · intro row hrow hstate
      rw [List.mem_singleton.mp hrow] at hstate
      cases hstate
    · intro row hrow hstate
      rw [List.mem_singleton.mp hrow] at hstate
      cases hstate
  case eventAppended scope draft sequence current lifecycle events hstate hkind hscope hcurrent
      hfollows hrelease hadmitted hevents hafter =>
    apply h.keep hcopy hsnapshots' hevents
    · intro row hrow
      rw [List.mem_singleton.mp hrow]
      exact latestEvent_append_self hadmitted.nextEvent hevents
    · intro row hrow hconsumed
      rw [List.mem_singleton.mp hrow] at hconsumed
      rcases hstate with hstate | hstate | hstate <;> cases hstate.symm.trans hconsumed
    · intro row hrow hreleased effect heffect hpayment hmelt
      rw [List.mem_singleton.mp hrow] at hreleased hpayment
      exact unpaidAndUnspent_of_released hquotes hsnapshots hkind hscope hcurrent hfollows hrelease
        hadmitted hreleased heffect hpayment hmelt
  case paymentAccepted scope input accounting fingerprint current lifecycle journals postings
      invoices events hacceptable hcurrent hfollows hjournals hpostings hpayable hinvoices hadmitted
      hevents hdb hafter haccounted hbalanced =>
    subst hdb
    have hnext : NextEvent db (eventRow (input.draft fingerprint) current.events.length) :=
      ⟨hadmitted.nextEvent.successor, hadmitted.nextEvent.first⟩
    apply h.keep hcopy hsnapshots' hevents
    · intro row hrow
      rw [List.mem_singleton.mp hrow]
      exact latestEvent_append_self hnext hevents
    · intro row hrow _
      rw [List.mem_singleton.mp hrow]
      have hpaid := paidAndSpent_of_accepted hsnapshots hacceptable hadmitted
      exact hpaid
    · intro row hrow hstate
      rw [List.mem_singleton.mp hrow] at hstate
      cases hstate
  all_goals
    exact h.keep hcopy hsnapshots' (Table.Appends.refl _) (by simp) (by simp) (by simp)

theorem decisionsSound_of_reachable (h : Reachable db) : DecisionsSound db :=
  reachable_of_change decisionsSound_empty (fun _ _ hreach hsound hchange =>
    decisionsSound_of_change hsound (quotesSound_of_reachable hreach)
      (snapshotsSound_of_reachable hreach) hchange) h

/-- A payment was seen paid, or a proof of it was seen spent. -/
def SeenSpent (db : Db) (paymentId : PaymentId) : Prop :=
  (∃ quote ∈ db.cashuStellarMeltQuoteObservations,
      quote.paymentId = paymentId ∧ quote.state = .paid) ∨
    ∃ entry ∈ db.cashuProofStateObservationEntries,
      entry.paymentId = paymentId ∧ entry.state = .spent

theorem SeenSpent.keep {paymentId : PaymentId} (h : SeenSpent db paymentId)
    (hchange : Change db db') : SeenSpent db' paymentId := by
  rcases h with ⟨quote, hquote, hpaid⟩ | ⟨entry, hentry, hspent⟩
  · exact .inl ⟨quote, quote_of_change hchange hquote, hpaid⟩
  · refine .inr ⟨entry, ?_, hspent⟩
    rcases snapshots_of_change hchange with ⟨-, hsame⟩ | ⟨_, -, -, hentries⟩
    · rwa [hsame]
    · exact hentries.mem_of_mem hentry

/-- What was seen of a payment rules out the evidence for a release. -/
theorem SeenSpent.not_unpaidAndUnspent {effect : OperatorEffectRow}
    (hseen : SeenSpent db effect.paymentId) (hquotes : QuotesSound db)
    (hsnapshots : SnapshotsSound db) : ¬UnpaidAndUnspent db effect := by
  rintro ⟨⟨latest, hlatest, hunpaid, -⟩, snapshot, hsnapshot, hlatestSnapshot, hcovers, hunspent⟩
  rcases hseen with ⟨quote, hquote, hpayment, hpaid⟩ | ⟨entry, hentry, hpayment, hspent⟩
  · obtain ⟨hlatestMem, hlatestPayment⟩ := Table.mem_select.mp (mem_of_latest hlatest)
    have hle : quote.observedAt ≤ latest.observedAt :=
      le_latest hlatest (Table.mem_select.mpr ⟨hquote, hpayment⟩)
    have hstate : latest.state = .paid := by
      rcases hle.lt_or_eq with hlt | heq
      · exact hquotes.paid quote hquote latest hlatestMem (hlatestPayment.trans hpayment.symm) hlt
          hpaid
      · obtain ⟨first, hfirst, hfirstId, hfirstPayment⟩ := hquotes.attempted quote hquote
        obtain ⟨second, hsecond, hsecondId, hsecondPayment⟩ := hquotes.attempted latest hlatestMem
        have hattempts : first = second := Table.eq_of_collide hfirst hsecond (.inr (.inr
          (hfirstPayment.trans (hpayment.trans
            (hlatestPayment.symm.trans hsecondPayment.symm)))))
        have hsame : quote = latest := Table.eq_of_collide hquote hlatestMem
          (.inr ⟨hfirstId.symm.trans ((congrArg _ hattempts).trans hsecondId), heq⟩)
        rw [← hsame]
        exact hpaid
    rw [hunpaid] at hstate
    cases hstate
  · obtain ⟨earlier, hearlier, hfingerprint, hearlierPayment⟩ := hsnapshots.observed entry hentry
    have hentryOf : entry ∈ db.proofStateEntriesOf earlier.snapshotFingerprint :=
      mem_orderBy.mpr (Table.mem_select.mpr ⟨hentry, hfingerprint.symm⟩)
    obtain ⟨hsnapshotMem, hsnapshotPayment⟩ := Table.mem_select.mp (mem_of_latest hlatestSnapshot)
    have hsame : snapshot.paymentId = earlier.paymentId :=
      hsnapshotPayment.trans (hpayment.symm.trans hearlierPayment.symm)
    have hproof : entry.proofY ∈
        (db.proofStateEntriesOf snapshot.snapshotFingerprint).map (·.proofY) := by
      rw [hcovers, hsame, ← hsnapshots.covered earlier hearlier]
      exact List.mem_map_of_mem hentryOf
    obtain ⟨laterEntry, hlaterEntry, hproofY⟩ := List.mem_map.mp hproof
    have hlaterState := hunspent.2 laterEntry hlaterEntry
    have hle : earlier.observedAt ≤ snapshot.observedAt :=
      le_latest hlatestSnapshot (Table.mem_select.mpr ⟨hearlier, hearlierPayment.trans hpayment⟩)
    rcases hle.lt_or_eq with hlt | heq
    · apply hsnapshots.spent earlier hearlier snapshot hsnapshot hsame entry hentryOf laterEntry
        hlaterEntry
      exact ⟨hlt, hproofY.symm, hspent, by rw [hlaterState]; nofun⟩
    · obtain rfl : earlier = snapshot := Table.eq_of_collide hearlier hsnapshot
        (.inr ⟨hsame.symm, heq⟩)
      rw [hunspent.2 entry hentryOf] at hspent
      cases hspent

/-- What is stored of a settled payment. -/
def Settled (db : Db) (paymentId : PaymentId) (state : LifecycleEventState)
    (events : List LifecycleEventRow) (quotes : List MeltQuoteObservationRow)
    (snapshots : List ProofStateObservationRow) : Prop :=
  db.latestState paymentId = some state ∧ db.eventsOf paymentId = events ∧
    (db.cashuStellarMeltQuoteObservations.select fun row => row.paymentId = paymentId) = quotes ∧
    (db.cashuProofStateObservations.select fun row => row.paymentId = paymentId) = snapshots

theorem Settled.keep {paymentId : PaymentId} {state : LifecycleEventState}
    {events : List LifecycleEventRow} {quotes : List MeltQuoteObservationRow}
    {snapshots : List ProofStateObservationRow} (hterminal : state.toReservationState.Terminal)
    (h : Settled db paymentId state events quotes snapshots) (hchange : Change db db') :
    Settled db' paymentId state events quotes snapshots := by
  obtain ⟨hstate, hevents, hquotes, hsnapshots⟩ := h
  obtain ⟨hquotes', hsnapshots'⟩ := evidence_of_terminal hchange hstate hterminal
  refine ⟨latestState_of_terminal hchange hstate hterminal, ?_, hquotes'.trans hquotes,
    hsnapshots'.trans hsnapshots⟩
  rw [← hevents]
  rcases events_of_change hchange with hsame | ⟨row, hnext, happend⟩
  · rw [Db.eventsOf, Db.eventsOf, hsame]
  · apply eventsOf_append_of_ne happend
    intro hpayment
    obtain ⟨event, hevent, rfl⟩ := Option.map_eq_some_iff.mp hstate
    exact (hnext.successor event (by rw [hpayment]; exact hevent)).notTerminal hterminal

/-- Over every run of the acquirer, a payment is consumed only as a melt whose quote was seen paid
after its start and all of whose proofs were then seen spent before the record; it is released after a
melt has started only on a quote last seen unpaid after its expiry and proofs last seen unspent, and
never once it was seen paid or a proof of it spent; and nothing more is stored of a settled payment. -/
theorem decisions_sound {db : Db} (hreach : Reachable db) :
    (∀ event ∈ db.cashuProofReservationEvents, event.state = .consumed →
      ∃ effect ∈ db.cashuOperatorEffects, effect.paymentId = event.paymentId ∧
        effect.effectKind = .melt ∧ PaidAndSpent db event effect) ∧
    (∀ event ∈ db.cashuProofReservationEvents, event.state = .released →
      ∀ effect ∈ db.cashuOperatorEffects, effect.paymentId = event.paymentId →
        effect.effectKind = .melt → UnpaidAndUnspent db effect) ∧
    (∀ paymentId, SeenSpent db paymentId → ∀ db', Run db db' →
      ∀ event ∈ db'.cashuProofReservationEvents, event.paymentId = paymentId →
        event.state = .released → ∀ effect ∈ db'.cashuOperatorEffects,
          effect.paymentId = paymentId → effect.effectKind ≠ .melt) ∧
    ∀ paymentId state, db.latestState paymentId = some state →
      state.toReservationState.Terminal → ∀ db', Run db db' →
        db'.latestState paymentId = some state ∧
        db'.eventsOf paymentId = db.eventsOf paymentId ∧
        (db'.cashuStellarMeltQuoteObservations.select fun row => row.paymentId = paymentId) =
          (db.cashuStellarMeltQuoteObservations.select fun row => row.paymentId = paymentId) ∧
        (db'.cashuProofStateObservations.select fun row => row.paymentId = paymentId) =
          (db.cashuProofStateObservations.select fun row => row.paymentId = paymentId) := by
  refine ⟨(decisionsSound_of_reachable hreach).consumed,
    (decisionsSound_of_reachable hreach).released, ?_, ?_⟩
  · intro paymentId hseen db' hrun event hevent hpayment hstate effect heffect heffectPayment hmelt
    have hreach' : Reachable db' := hreach.trans hrun
    have hseen' : SeenSpent db' paymentId :=
      run_of_change (p := fun db => SeenSpent db paymentId)
        (fun _ _ hseen hchange => hseen.keep hchange) hrun hseen
    have hunpaid : UnpaidAndUnspent db' effect :=
      (decisionsSound_of_reachable hreach').released event hevent hstate effect heffect
        (heffectPayment.trans hpayment.symm) hmelt
    rw [← heffectPayment] at hseen'
    exact hseen'.not_unpaidAndUnspent (quotesSound_of_reachable hreach')
      (snapshotsSound_of_reachable hreach') hunpaid
  · intro paymentId state hstate hterminal db' hrun
    exact run_of_change (p := fun db => Settled db paymentId state _ _ _)
      (fun _ _ hsettled hchange => hsettled.keep hterminal hchange) hrun ⟨hstate, rfl, rfl, rfl⟩

/-- The dispatched payment after its quote expired unpaid and its proof was left unspent. -/
def Sample.released : Db :=
  Sample.after [Sample.observe .unpaid 1511, Sample.observeProof .unspent 1512, Sample.release]

set_option maxRecDepth 10000 in
theorem decisions_sound_settled :
    ((∃ event ∈ Sample.accepted.cashuProofReservationEvents, event.state = .consumed) ∧
      ∀ event ∈ Sample.accepted.cashuProofReservationEvents, event.state = .consumed →
        ∃ effect ∈ Sample.accepted.cashuOperatorEffects, effect.paymentId = event.paymentId ∧
          effect.effectKind = .melt ∧ PaidAndSpent Sample.accepted event effect) ∧
    (∃ event ∈ Sample.released.cashuProofReservationEvents, event.state = .released) ∧
      ∀ event ∈ Sample.released.cashuProofReservationEvents, event.state = .released →
        ∀ effect ∈ Sample.released.cashuOperatorEffects, effect.paymentId = event.paymentId →
          effect.effectKind = .melt → UnpaidAndUnspent Sample.released effect :=
  ⟨⟨by decide +kernel, (decisions_sound (Sample.reachable_after _)).1⟩,
    by decide +kernel, (decisions_sound (Sample.reachable_after _)).2.1⟩

end CashMesh.Acquirer
