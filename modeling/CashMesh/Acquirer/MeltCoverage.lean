import CashMesh.Acquirer.MeltAuthority
import CashMesh.Acquirer.QuoteRecording
/-!
# What the rows say of a dispatch

A melt is sent only once its effect is stored with exactly that request, and a result is returned only
once it is on record. Both are facts about the rows that no later operation undoes, so that they hold
from then on, whatever the other runs do.
-/

namespace CashMesh.Acquirer

open CashMesh.Lib

variable {db db' : Db} {w w' : DispatchWorld} {paymentId : PaymentId}

/-! ### Covered requests -/

/-- The inputs are those of a bundle that the custody has held for the payment, proof for proof what was
reserved at the mint, and worth as much. -/
def InputsReserved (db : Db) (paymentId : PaymentId) (mintUrl : MintUrl)
    (inputs : List CashuBearerMeltInput) : Prop :=
  ∃ reservation ∈ db.cashuProofReservations, reservation.paymentId = paymentId ∧
    reservation.mintUrl = mintUrl ∧ (inputs.map (·.amount)).sum = reservation.grossAmount ∧
    ∃ past bundle, Reachable past ∧ Run past db ∧
      retrieveBundle past paymentId = .ok (some bundle) ∧ bundle.inputs = inputs ∧
      bundle.proofReferences = reservation.reservationFingerprint.proofReferences

/-- The effect of the payment was started with the request, for the quote that it names and with the
expiry of that quote, which was not over at the time; and the effect has the job of its recovery. -/
def EffectStarted (db : Db) (sent : SentMelt) : Prop :=
  ∃ effect ∈ db.cashuOperatorEffects, effect.paymentId = sent.paymentId ∧
    effect.effectKind = .melt ∧ effect.dispatchFingerprint = sent.request ∧
    effect.mintUrl = sent.request.mintUrl ∧
    effect.operatorReference = some sent.request.quoteId ∧
    (∃ expiresAt, QuotedUntil db sent.paymentId sent.request.quoteId expiresAt ∧
      effect.operatorReferenceExpiresAt = some expiresAt ∧ sent.dispatchedAt < expiresAt) ∧
    (∃ event ∈ db.cashuProofReservationEvents, event.paymentId = sent.paymentId ∧
      event.state = .dispatchStarted ∧ event.effectId = some effect.effectId) ∧
    ∃ job ∈ db.cashuStellarMeltRecoveryJobs, job.paymentId = sent.paymentId ∧
      job.effectId = effect.effectId

/-- The rows cover a request. -/
structure MeltCovered (db : Db) (sent : SentMelt) : Prop where
  effect : EffectStarted db sent
  reserved : InputsReserved db sent.paymentId sent.request.mintUrl sent.request.inputs

theorem reservationRow_of_change (h : Change db db') {row : ReservationRow}
    (hrow : row ∈ db.cashuProofReservations) : row ∈ db'.cashuProofReservations := by
  rcases reservations_of_change h with ⟨hsame, -⟩ | ⟨_, -, -, happends, -⟩
  · rwa [hsame]
  · exact happends.mem_of_mem hrow

theorem effectRow_of_change (h : Change db db') {row : OperatorEffectRow}
    (hrow : row ∈ db.cashuOperatorEffects) : row ∈ db'.cashuOperatorEffects := by
  rcases effects_of_change h with hsame | ⟨_, -, happends⟩
  · rwa [hsame]
  · exact happends.mem_of_mem hrow

theorem jobRow_of_change (h : Change db db') {row : RecoveryJobRow}
    (hrow : row ∈ db.cashuStellarMeltRecoveryJobs) : row ∈ db'.cashuStellarMeltRecoveryJobs := by
  cases h
  case effectStarted hjobs _ _ _ => exact hjobs.mem_of_mem hrow
  case paymentAccepted hdb _ _ _ =>
    subst hdb
    exact hrow
  all_goals exact hrow

theorem InputsReserved.keep {mintUrl : MintUrl} {inputs : List CashuBearerMeltInput}
    (h : InputsReserved db paymentId mintUrl inputs) (hrun : Run db db') :
    InputsReserved db' paymentId mintUrl inputs := by
  obtain ⟨reservation, hreservation, hpayment, hmint, hamount, past, bundle, hreach, hpast, hbundle⟩ := h
  exact ⟨reservation,
    run_of_change (fun _ _ hrow hchange => reservationRow_of_change hchange hrow) hrun
      hreservation,
    hpayment, hmint, hamount, past, bundle, hreach, hpast.trans hrun, hbundle⟩

theorem EffectStarted.keep {sent : SentMelt} (h : EffectStarted db sent)
    (hchange : Change db db') : EffectStarted db' sent := by
  obtain ⟨effect, heffect, hpayment, hkind, hrequest, hmint, hquote, ⟨expiresAt, hquoted, hexpiry⟩,
    ⟨event, hevent, hstarted⟩, job, hjob, hscheduled⟩ := h
  exact ⟨effect, effectRow_of_change hchange heffect, hpayment, hkind, hrequest, hmint, hquote,
    ⟨expiresAt, hquoted.keep hchange, hexpiry⟩, ⟨event, event_of_change hchange hevent, hstarted⟩,
    job, jobRow_of_change hchange hjob, hscheduled⟩

theorem MeltCovered.keep {sent : SentMelt} (h : MeltCovered db sent) (hrun : Run db db') :
    MeltCovered db' sent :=
  ⟨run_of_change (fun _ _ => EffectStarted.keep) hrun h.effect, h.reserved.keep hrun⟩

/-! ### Results on record -/

/-- The rows hold the lifecycle of the payment: the effect that it names is stored and so is each of its
events, and its state is that of the last of them. -/
structure LifecycleRecorded (db : Db) (paymentId : PaymentId)
    (lifecycle : CashuProofReservationLifecycle) : Prop where
  samePayment : lifecycle.paymentId = paymentId
  effect : ∀ effect ∈ lifecycle.effect, ∃ row ∈ db.cashuOperatorEffects,
    row.paymentId = paymentId ∧ StoresEffect row effect
  events : ∀ event ∈ lifecycle.events, ∃ row ∈ db.cashuProofReservationEvents,
    row.paymentId = paymentId ∧ row.event = some event
  last : ∃ event ∈ lifecycle.events.getLast?, lifecycle.state = event.state.toReservationState

/-- An event of the payment with what the draft says of it, which is one of those of the lifecycle. -/
def EventRecorded (db : Db) (paymentId : PaymentId) (lifecycle : CashuProofReservationLifecycle)
    (state : LifecycleEventState) (kind : Option EvidenceKind) (evidenceAt : Option UnixTimestamp) :
    Prop :=
  ∃ row ∈ db.cashuProofReservationEvents, row.paymentId = paymentId ∧ row.state = state ∧
    row.evidenceKind = kind ∧ (∀ time ∈ evidenceAt, row.evidenceAt = some time) ∧
    ∃ event ∈ lifecycle.events, row.event = some event

/-- An observation of the quote of the payment. -/
def QuoteRecorded (db : Db) (paymentId : PaymentId) (observedAt : UnixTimestamp)
    (state : CashuStellarMeltQuoteState) : Prop :=
  ∃ row ∈ db.cashuStellarMeltQuoteObservations, row.paymentId = paymentId ∧
    row.observedAt = observedAt ∧ row.state = state

/-- The effect of the lifecycle is a melt. -/
def NamesMelt (lifecycle : CashuProofReservationLifecycle) : Prop :=
  ∃ effect ∈ lifecycle.effect, effect.kind = .melt

/-- What the rows say of the state of a result. -/
def CashuStellarMeltCoordinationState.Recorded (state : CashuStellarMeltCoordinationState) (db : Db)
    (paymentId : PaymentId) (lifecycle : CashuProofReservationLifecycle) : Prop :=
  match state with
  | .recoveryRequired => lifecycle.state ≠ .reserved
  | .needsAttention reason =>
      NamesMelt lifecycle ∧
        EventRecorded db paymentId lifecycle .needsAttention (some (.attention reason)) none
  | .operatorUnpaid observedAt =>
      NamesMelt lifecycle ∧ EventRecorded db paymentId lifecycle .dispatchStarted none none ∧
        QuoteRecorded db paymentId observedAt .unpaid
  | .operatorPending observedAt =>
      NamesMelt lifecycle ∧
        EventRecorded db paymentId lifecycle .pending (some .operatorPending) (some observedAt) ∧
        QuoteRecorded db paymentId observedAt .pending
  | .operatorPaidObserved observedAt =>
      NamesMelt lifecycle ∧ EventRecorded db paymentId lifecycle .dispatchStarted none none ∧
        QuoteRecorded db paymentId observedAt .paid

/-- A result is on record: its lifecycle is, and the rows say what its state says. -/
structure CashuStellarMeltCoordinationResult.Recorded (result : CashuStellarMeltCoordinationResult)
    (db : Db) : Prop where
  lifecycle : LifecycleRecorded db result.paymentId result.lifecycle
  state : result.state.Recorded db result.paymentId result.lifecycle

theorem LifecycleRecorded.keep {lifecycle : CashuProofReservationLifecycle}
    (h : LifecycleRecorded db paymentId lifecycle) (hchange : Change db db') :
    LifecycleRecorded db' paymentId lifecycle where
  samePayment := h.samePayment
  effect effect heffect := by
    obtain ⟨row, hrow, hstored⟩ := h.effect effect heffect
    exact ⟨row, effectRow_of_change hchange hrow, hstored⟩
  events event hevent := by
    obtain ⟨row, hrow, hstored⟩ := h.events event hevent
    exact ⟨row, event_of_change hchange hrow, hstored⟩
  last := h.last

theorem EventRecorded.keep {lifecycle : CashuProofReservationLifecycle} {state : LifecycleEventState}
    {kind : Option EvidenceKind} {evidenceAt : Option UnixTimestamp}
    (h : EventRecorded db paymentId lifecycle state kind evidenceAt)
    (hchange : Change db db') : EventRecorded db' paymentId lifecycle state kind evidenceAt := by
  obtain ⟨row, hrow, hrecorded⟩ := h
  exact ⟨row, event_of_change hchange hrow, hrecorded⟩

theorem EventRecorded.untimed {lifecycle : CashuProofReservationLifecycle}
    {state : LifecycleEventState} {kind : Option EvidenceKind} {evidenceAt : Option UnixTimestamp}
    (h : EventRecorded db paymentId lifecycle state kind evidenceAt) :
    EventRecorded db paymentId lifecycle state kind none := by
  obtain ⟨row, hrow, hpayment, hstate, hkind, -, hevent⟩ := h
  refine ⟨row, hrow, hpayment, hstate, hkind, ?_, hevent⟩
  intro time htime
  cases htime

theorem QuoteRecorded.keep {observedAt : UnixTimestamp} {state : CashuStellarMeltQuoteState}
    (h : QuoteRecorded db paymentId observedAt state) (hchange : Change db db') :
    QuoteRecorded db' paymentId observedAt state := by
  obtain ⟨row, hrow, hrecorded⟩ := h
  exact ⟨row, quote_of_change hchange hrow, hrecorded⟩

theorem CashuStellarMeltCoordinationResult.Recorded.keep
    {result : CashuStellarMeltCoordinationResult} (h : result.Recorded db)
    (hchange : Change db db') : result.Recorded db' := by
  refine ⟨h.lifecycle.keep hchange, ?_⟩
  obtain ⟨lifecycle, called, state⟩ := result
  obtain ⟨-, hstate⟩ := h
  cases state with
  | recoveryRequired => exact hstate
  | needsAttention reason => exact ⟨hstate.1, hstate.2.keep hchange⟩
  | operatorUnpaid observedAt => exact ⟨hstate.1, hstate.2.1.keep hchange, hstate.2.2.keep hchange⟩
  | operatorPending observedAt => exact ⟨hstate.1, hstate.2.1.keep hchange, hstate.2.2.keep hchange⟩
  | operatorPaidObserved observedAt =>
      exact ⟨hstate.1, hstate.2.1.keep hchange, hstate.2.2.keep hchange⟩

/-! ### Lifecycles that were read -/

/-- The lifecycle is past the reservation of the proofs. -/
def CashuProofReservationLifecycle.Begun (lifecycle : CashuProofReservationLifecycle) : Prop :=
  lifecycle.state ≠ .reserved ∨ lifecycle.effect ≠ none

theorem begun_of_event {lifecycle : CashuProofReservationLifecycle}
    {event : CashuReservationLifecycleEvent}
    (hloaded : LifecycleLoaded db paymentId lifecycle) (hevent : event ∈ lifecycle.events) :
    lifecycle.Begun := by
  obtain ⟨scope, -, hload⟩ := hloaded
  simp only [loadLifecycle, bind_eq_ok, ensure_eq_ok, exists_unit, pure_eq_ok,
    Except.ok.injEq] at hload
  obtain ⟨effect, -, events, -, -, -, rfl⟩ := hload
  left
  show stateAfter events ≠ .reserved
  rw [stateAfter]
  cases hlast : events.getLast? with
  | none =>
      rw [List.getLast?_eq_none_iff.mp hlast] at hevent
      cases hevent
  | some last =>
      dsimp only
      cases last.state <;> simp [LifecycleEventState.toReservationState]

/-- The rows hold what was read of a payment that is past the reservation. -/
theorem recorded_of_loaded {lifecycle : CashuProofReservationLifecycle}
    (hloaded : LifecycleLoaded db paymentId lifecycle) (hbegun : lifecycle.Begun) :
    LifecycleRecorded db paymentId lifecycle := by
  obtain ⟨scope, rfl, hload⟩ := hloaded
  have hstored := hload
  simp only [loadLifecycle, bind_eq_ok, ensure_eq_ok, exists_unit, pure_eq_ok,
    Except.ok.injEq] at hload
  obtain ⟨effect, -, events, -, ⟨-, hfirst⟩, -, rfl⟩ := hload
  refine ⟨rfl, fun _ heffect => effectRow_of_loadLifecycle hstored heffect, ?_, ?_⟩
  · intro event hevent
    obtain ⟨row, hrow, hpayment, hmaps⟩ := row_of_loadLifecycle hstored hevent
    exact ⟨row, hrow, hpayment, (mapEvent_ok hmaps).1⟩
  · show ∃ event ∈ events.getLast?, stateAfter events = event.state.toReservationState
    rw [stateAfter]
    cases hlast : events.getLast? with
    | some event => exact ⟨event, rfl, rfl⟩
    | none =>
        obtain rfl := List.getLast?_eq_none_iff.mp hlast
        rcases hbegun with hstate | heffect
        · exact absurd rfl hstate
        · obtain ⟨first, hhead, -⟩ := hfirst (Option.isSome_iff_ne_none.mpr heffect)
          cases hhead

theorem loaded_of_findLifecycle {lifecycle : CashuProofReservationLifecycle}
    (h : findLifecycle db paymentId = .ok (some lifecycle)) :
    LifecycleLoaded db paymentId lifecycle := by
  simp only [findLifecycle, bind_eq_ok] at h
  obtain ⟨_ | scope, hscope, h⟩ := h
  · cases h
  · simp only [bind_eq_ok, exists_unit, pure_eq_ok, Except.ok.injEq, Option.some.injEq] at h
    obtain ⟨loaded, hload, -, rfl⟩ := h
    exact ⟨scope, paymentId_of_loadReservation hscope, hload⟩

theorem LifecycleRecorded.state_ne {lifecycle : CashuProofReservationLifecycle}
    (h : LifecycleRecorded db paymentId lifecycle) : lifecycle.state ≠ .reserved := by
  obtain ⟨event, -, hstate⟩ := h.last
  rw [hstate]
  cases event.state <;> simp [LifecycleEventState.toReservationState]

/-- A command that commits answers a lifecycle that is on record, with the event of the command. -/
theorem recorded_of_run (hreach : Reachable db) {command : LifecycleCommand} {result : CommandResult}
    (h : command.run db = .ok (result, db')) :
    LifecycleRecorded db' command.paymentId result.lifecycle ∧ ∃ fingerprint,
      EventRecorded db' command.paymentId result.lifecycle (command.draft fingerprint).state
        (command.draft fingerprint).evidenceKind (command.draft fingerprint).evidenceAt := by
  obtain ⟨scope, fingerprint, -, ⟨sequence, hrow, event, hevent, hstored⟩, -⟩ := leftBy_of_run hreach h
  have hloaded := loaded_of_run h
  refine ⟨recorded_of_loaded hloaded (begun_of_event hloaded hevent), fingerprint,
    _, hrow, command.draft_paymentId fingerprint, rfl, rfl, ?_, event, hevent, hstored⟩
  intro time htime
  exact htime

theorem namesMelt_of_effectRow {lifecycle : CashuProofReservationLifecycle} {row : OperatorEffectRow}
    (hloaded : LifecycleLoaded db paymentId lifecycle) (hrow : row ∈ db.cashuOperatorEffects)
    (hpayment : row.paymentId = paymentId) (hmelt : row.effectKind = .melt) : NamesMelt lifecycle := by
  obtain ⟨scope, rfl, hload⟩ := hloaded
  obtain ⟨effect, heffect, hmapped, -⟩ := effect_of_effectRow hload hrow hpayment
  exact ⟨effect, heffect, (mapEffect_ok hmapped).kind.symm.trans hmelt⟩

/-- A melt that is on record is the effect of every lifecycle that is read later on. -/
theorem namesMelt_of_loaded {before lifecycle : CashuProofReservationLifecycle}
    (hbefore : LifecycleRecorded db paymentId before) (hmelt : NamesMelt before)
    (hloaded : LifecycleLoaded db paymentId lifecycle) : NamesMelt lifecycle := by
  obtain ⟨effect, heffect, hkind⟩ := hmelt
  obtain ⟨row, hrow, hpayment, hstored⟩ := hbefore.effect effect heffect
  exact namesMelt_of_effectRow hloaded hrow hpayment (hstored.kind.trans hkind)

theorem snapshotFingerprint_quote (hreach : Reachable db) {row : MeltQuoteObservationRow}
    (hrow : row ∈ db.cashuStellarMeltQuoteObservations) :
    row.snapshotFingerprint.quote.observedAt = row.observedAt ∧
      row.snapshotFingerprint.quote.state = row.state := by
  obtain ⟨attempt, hattempt, hattemptId, -⟩ := (quotesSound_of_reachable hreach).attempted row hrow
  obtain ⟨result, hresult⟩ := (quotesReadable_of_reachable hreach).mapped attempt hattempt
  have hmem : row ∈ db.quoteObservationsOf attempt.attemptId :=
    mem_orderBy.mpr (Table.mem_select.mpr ⟨hrow, hattemptId.symm⟩)
  obtain ⟨hquoted, hother⟩ := isQuoted_of_mapAttempt hresult
  by_cases hkind : result.IsQuoted
  · obtain ⟨outcome, houtcome, hkind⟩ := hquoted hkind
    obtain ⟨evidence, hevidence⟩ := mapAttempt_quoted hresult houtcome hkind
    simp only [mapCashuStellarMeltQuotedEvidenceRecord, bind_eq_ok, ensure_eq_ok, exists_unit,
      orFail_eq_ok] at hevidence
    obtain ⟨stored, -, -, expiry, -, feeReserve, -, quotes, hquotes, -⟩ := hevidence
    obtain ⟨quote, -, hquote⟩ := exists_of_forall₂ (mapM_eq_ok.mp hquotes).flip hmem
    simp only [mapCashuStellarMeltQuoteObservationRecord, bind_eq_ok, ensure_eq_ok, exists_unit,
      orFail_eq_ok] at hquote
    obtain ⟨-, created, hcreated, hfingerprint, -⟩ := hquote
    obtain rfl := createCashuStellarMeltQuote_some hcreated
    rw [← hfingerprint]
    exact ⟨rfl, rfl⟩
  · rw [(hother hkind).1] at hmem
    cases hmem

theorem quoteRecorded_of_observe (hreach : Reachable db) {input : QuoteInput}
    {result : QuoteAttemptResult} (h : observe db input = .ok (result, db')) :
    QuoteRecorded db' input.paymentId input.quote.observedAt input.quote.state := by
  rcases observe_ok h with ⟨rfl, hstored⟩ |
    ⟨attempt, attemptRow, mapped, observations, -, hpayment, -, happends, -, rfl⟩
  · obtain ⟨existing, hexisting⟩ := Option.isSome_iff_exists.mp hstored
    simp only [observe, bind_eq_ok, orFail_eq_ok, ensure_eq_ok, exists_unit] at h
    obtain ⟨quote, hquote, -, row, hlock, attempt, hattempt, outcome, -, -, -, h⟩ := h
    obtain rfl : quote = input.quote := createCashuStellarMeltQuote_some hquote
    obtain ⟨hrow, hattemptId, hpayment⟩ := attemptOf_of_lockAttempt hlock
    rw [(mapAttemptBase_ok hattempt).1, hattemptId, hexisting] at h
    simp only [bind_eq_ok, ensure_eq_ok, exists_unit, pure_eq_ok] at h
    obtain ⟨hfingerprint, -⟩ := h
    obtain ⟨hmem, hexistingId, hobservedAt⟩ := Table.find_some hexisting
    obtain ⟨-, hstate⟩ := snapshotFingerprint_quote hreach hmem
    obtain ⟨stored, hstored, hstoredId, hstoredPayment⟩ :=
      (quotesSound_of_reachable hreach).attempted existing hmem
    obtain rfl : stored = row := Table.eq_of_collide hstored (Table.find_some hrow).1
      (.inl (hstoredId.trans (hexistingId.trans hattemptId.symm)))
    refine ⟨existing, hmem, hstoredPayment.symm.trans hpayment, hobservedAt, ?_⟩
    rw [← hstate, hfingerprint]
    rfl
  · exact ⟨_, happends.mem.mpr (.inr List.mem_cons_self), hpayment, rfl, rfl⟩

/-! ### The discipline of a run -/

/-- The rows are those of a run of the acquirer, and they cover every request that was sent. -/
def dispatchDiscipline : Discipline DispatchWorld where
  inv w := Reachable w.db ∧ ∀ sent ∈ w.sent, MeltCovered w.db sent
  grows w w' := Run w.db w'.db
  refl _ := .refl
  trans := .trans

theorem keeps_of_run (hinv : dispatchDiscipline.inv w) (hrun : Run w.db w'.db)
    (hsent : w'.sent = w.sent) : dispatchDiscipline.Keeps w w' := by
  obtain ⟨hreach, hcovered⟩ := hinv
  refine ⟨⟨hreach.trans hrun, ?_⟩, hrun⟩
  intro sent hmem
  rw [hsent] at hmem
  exact (hcovered sent hmem).keep hrun

theorem run_of_silent {effect : DispatchEffect} {answer : DispatchAnswer effect}
    (hsilent : effect.Silent) (h : DispatchWorld.performs effect w answer w') :
    Run w.db w'.db := by
  rcases (DispatchWorld.performs_silent hsilent h).1 with hsame | hstep
  · rw [hsame]
  · exact .single hstep

theorem keeps_of_silent {effect : DispatchEffect} {answer : DispatchAnswer effect}
    (hsilent : effect.Silent) (hinv : dispatchDiscipline.inv w)
    (h : DispatchWorld.performs effect w answer w') : dispatchDiscipline.Keeps w w' :=
  keeps_of_run hinv (run_of_silent hsilent h) (DispatchWorld.performs_silent hsilent h).2

/-- Safety of what a coordinator runs: it returns only what `Q` says. -/
abbrev DispatchSafe {ε α : Type} (Q : α → DispatchWorld → Prop)
    (p : Process DispatchEffect DispatchAnswer ε α) (w : DispatchWorld) : Prop :=
  Safe DispatchWorld.performs dispatchDiscipline Q (fun _ _ => True) p w

namespace MeltCoordinator

variable {ε α β : Type} {Q : β → DispatchWorld → Prop}

theorem safe_silent {p : Process DispatchEffect DispatchAnswer ε α}
    (hp : p.Uses DispatchEffect.Silent) : DispatchSafe (fun _ _ => True) p w :=
  safe_mono (fun _ _ _ => trivial) (fun _ _ _ => trivial)
    (safe_of_uses (fun _ _ _ _ => keeps_of_silent) hp)

theorem safe_silent_bind {p : Process DispatchEffect DispatchAnswer ε α}
    {rest : α → Process DispatchEffect DispatchAnswer ε β} (hp : p.Uses DispatchEffect.Silent)
    (hrest : ∀ a w', Run w.db w'.db → DispatchSafe Q (rest a) w') :
    DispatchSafe Q (p >>= rest) w := by
  apply safe_bind
  exact safe_mono (fun a w' hrun => hrest a w' hrun) (fun _ _ _ => trivial)
    (safe_of_uses (fun _ _ _ _ => keeps_of_silent) hp)

theorem safe_ofExcept_bind {result : Except ε α}
    {rest : α → Process DispatchEffect DispatchAnswer ε β}
    (hrest : ∀ a, result = .ok a → DispatchSafe Q (rest a) w) :
    DispatchSafe Q (Process.ofExcept result >>= rest) w :=
  Lib.safe_ofExcept_bind hrest fun _ _ => trivial

theorem safe_require_bind {condition : Prop} [Decidable condition] {error : ε}
    {rest : Unit → Process DispatchEffect DispatchAnswer ε β}
    (hrest : condition → DispatchSafe Q (rest ()) w) :
    DispatchSafe Q (require condition error >>= rest) w :=
  safe_ofExcept_bind fun _ hensured => hrest (ensure_eq_ok.mp hensured)

/-- An effect that sends nothing is answered in a state of the same run. -/
theorem safe_ask {effect : DispatchEffect}
    {next : DispatchAnswer effect → Process DispatchEffect DispatchAnswer ε β}
    (hsilent : effect.Silent)
    (hnext : ∀ w₁ answer w₂, Reachable w₁.db → Run w.db w₁.db →
      DispatchWorld.performs effect w₁ answer w₂ → Run w.db w₂.db →
        DispatchSafe Q (next answer) w₂) :
    DispatchSafe Q (.ask effect next) w := by
  intro w₁ hinv hgrow answer w₂ hperform
  refine ⟨keeps_of_silent hsilent hinv hperform, ?_⟩
  exact hnext w₁ answer w₂ hinv.1 hgrow hperform (hgrow.trans (run_of_silent hsilent hperform))

/-! ### What a run reads -/

/-- A reservation as it is read: its row has its payment and its amount. -/
def ReservationRead (db : Db) (paymentId : PaymentId) (grossAmount : MinorUnitAmount) : Prop :=
  ∃ row ∈ db.cashuProofReservations, row.paymentId = paymentId ∧ row.grossAmount = grossAmount

theorem ReservationRead.keep {grossAmount : MinorUnitAmount}
    (h : ReservationRead db paymentId grossAmount) (hrun : Run db db') :
    ReservationRead db' paymentId grossAmount := by
  obtain ⟨row, hrow, hread⟩ := h
  exact ⟨row, run_of_change (fun _ _ hrow hchange => reservationRow_of_change hchange hrow) hrun
    hrow, hread⟩

theorem reservationRead_of_find {reservation : CashuProofReservation}
    (h : findReservation db paymentId = .ok (some reservation)) :
    ReservationRead db paymentId reservation.grossAmount := by
  unfold findReservation at h
  split at h
  · cases h
  · case h_2 row hrow =>
    obtain ⟨hmem, hpayment⟩ := Table.find_some hrow
    obtain ⟨mapped, hmapped, hsome⟩ := map_eq_ok.mp h
    obtain rfl := Option.some.inj hsome
    simp only [mapReservation, bind_eq_ok, ensure_eq_ok, exists_unit, mapError_eq_ok, pure_eq_ok,
      Except.ok.injEq] at hmapped
    obtain ⟨-, created, -, ⟨hamount, -, -⟩, rfl⟩ := hmapped
    exact ⟨row, hmem, hpayment, hamount.symm⟩

theorem validateReservation_ok {cashuTs : CashuTs} {invalid : ε}
    {reservation validated : CashuProofReservation}
    (h : validateReservation cashuTs invalid reservation paymentId = .ok validated) :
    validated.grossAmount = reservation.grossAmount := by
  simp only [validateReservation, bind_eq_ok, ensure_eq_ok, exists_unit, orFail_eq_ok, pure_eq_ok,
    Except.ok.injEq] at h
  obtain ⟨-, mintUrl, -, -, proofReferences, -, -, rfl⟩ := h
  rfl

theorem loadReservation_safe (cashuTs : CashuTs) (paymentId : PaymentId) :
    DispatchSafe (fun reservation w' => ReservationRead w'.db paymentId reservation.grossAmount)
      (loadReservation cashuTs paymentId) w := by
  refine safe_ask (by trivial) ?_
  rintro w₁ (error | _ | found) w₂ - - ⟨hqueried, rfl⟩ -
  · trivial
  · trivial
  · cases hvalidated : validateReservation cashuTs evidenceInvalid found paymentId with
    | error error =>
        show DispatchSafe _ (Process.ofExcept _) _
        rw [hvalidated]
        trivial
    | ok validated =>
        show DispatchSafe _ (Process.ofExcept _) _
        rw [hvalidated]
        show ReservationRead _ _ validated.grossAmount
        rw [validateReservation_ok hvalidated]
        exact reservationRead_of_find hqueried.result_eq

theorem loadLifecycle_safe (paymentId : PaymentId) :
    DispatchSafe
      (fun lifecycle w' => Run w.db w'.db ∧
        (lifecycle.Begun → LifecycleRecorded w'.db paymentId lifecycle))
      (loadLifecycle paymentId) w := by
  refine safe_ask (by trivial) ?_
  rintro w₁ (error | _ | found) w₂ - - ⟨hfound, rfl⟩ hrun
  · trivial
  · trivial
  · apply safe_require_bind
    intro _
    exact ⟨hrun, recorded_of_loaded (loaded_of_findLifecycle hfound.result_eq)⟩

/-! ### The authority of a run -/

/-- The quote and its fee are worth what was reserved. -/
def Exact (prepared : PreparedMelt) : Prop :=
  prepared.quote.amount + prepared.inputFee = prepared.reservation.grossAmount

theorem deriveInputFee_exact {cashuTs : CashuTs} {reservation : CashuProofReservation}
    {snapshot : CreateCashuKeysetSnapshotInput} {quote : CashuStellarMeltQuote}
    {evaluatedAt : UnixTimestamp} {inputFee : Nat}
    (h : deriveInputFee cashuTs reservation snapshot quote evaluatedAt = .ok inputFee) :
    quote.amount + inputFee = reservation.grossAmount := by
  simp only [deriveInputFee, bind_eq_ok, ensure_eq_ok, exists_unit, pure_eq_ok,
    Except.ok.injEq] at h
  obtain ⟨created, -, -, feePpk, -, ⟨-, hexact⟩, rfl⟩ := h
  exact hexact

theorem prepareMelt_safe (coordinator : MeltCoordinator) (paymentId : PaymentId)
    (reservation : CashuProofReservation) (preparedAt : UnixTimestamp) :
    DispatchSafe
      (fun prepared w' => prepared.reservation = reservation ∧ Exact prepared ∧ Run w.db w'.db)
      (prepareMelt coordinator paymentId reservation preparedAt) w := by
  apply safe_silent_bind (loadQuoteAttempt_uses paymentId)
  intro attempt w₁ hrun₁
  apply safe_ofExcept_bind
  intro quote _
  apply safe_silent_bind (loadExactKeysetSnapshot_uses _ _)
  intro snapshot w₂ hrun₂
  apply safe_ofExcept_bind
  intro inputFee hfee
  apply safe_require_bind
  intro _
  exact ⟨rfl, deriveInputFee_exact hfee, hrun₁.trans hrun₂⟩

theorem foldlM_addInputAmount_ok {inputs : List CashuBearerMeltInputText} {total result : Nat}
    (h : inputs.foldlM addInputAmount total = .ok result) :
    result = total + (inputs.map (·.amount)).sum := by
  refine foldlM_ok_induction (motive := fun total inputs result =>
    result = total + (inputs.map (·.amount)).sum) ?_ ?_ h
  · intro total
    rfl
  · intro total input total₁ inputs result hstep hrest
    simp only [addInputAmount, bind_eq_ok, ensure_eq_ok, exists_unit, pure_eq_ok,
      Except.ok.injEq] at hstep
    obtain ⟨-, rfl⟩ := hstep
    rw [hrest, List.map_cons, List.sum_cons, Nat.add_assoc]

/-- The proofs of the payment that the custody gives out are worth what was reserved. -/
theorem inputsReserved_of_retrieve {prepared : PreparedMelt} {bundle : CashuBearerProofBundle}
    (hreach : Reachable db) (hbundle : retrieveBundle db paymentId = .ok (some bundle))
    (hread : ReservationRead db paymentId prepared.reservation.grossAmount)
    (hexact : Exact prepared)
    (hinput : validateExecutionInput prepared.reservation.mintUrl bundle prepared.inputFee
      prepared.quote = .ok ())
    (hamount : requireExactInputAmount (bundle.inputs.map (·.text)) prepared.quote.amount
      prepared.inputFee = .ok ()) :
    InputsReserved db paymentId prepared.reservation.mintUrl bundle.inputs := by
  have hretrieved := hbundle
  unfold retrieveBundle at hbundle
  split at hbundle
  · case h_1 row record hrow hrecord =>
    simp only [bind_eq_ok, ensure_eq_ok, exists_unit, pure_eq_ok, Except.ok.injEq,
      Option.some.injEq] at hbundle
    obtain ⟨-, ⟨-, hmint, -, hreferences⟩, rfl⟩ := hbundle
    obtain ⟨hmem, hpayment⟩ := Table.find_some hrow
    obtain ⟨other, hother, hotherPayment, hgross⟩ := hread
    obtain rfl : other = row := Table.eq_of_collide hother hmem
      (.inl (hotherPayment.trans hpayment.symm))
    simp only [validateExecutionInput, bind_eq_ok, ensure_eq_ok, exists_unit] at hinput
    obtain ⟨-, ⟨-, hsameMint, -⟩, -⟩ := hinput
    simp only [requireExactInputAmount, bind_eq_ok, ensure_eq_ok] at hamount
    obtain ⟨total, htotal, -, hsum⟩ := hamount
    have htexts : (record.bundle.inputs.map (·.text)).map (·.amount) =
        record.bundle.inputs.map (·.amount) := by
      rw [List.map_map]
      rfl
    rw [foldlM_addInputAmount_ok htotal, Nat.zero_add, htexts, hexact, ← hgross] at hsum
    obtain ⟨input, hvalid, hstored, hproofs⟩ := storedReservations_of_reachable hreach other hmem
    refine ⟨other, hmem, hpayment, hmint.symm.trans hsameMint, hsum, db, record.bundle, hreach,
      .refl, hretrieved, rfl, ?_⟩
    rw [hreferences, hproofs, map_reference_reservedProofRows, hstored]
    rfl
  · cases hbundle

/-- What a run may send once its callback has returned. -/
def Authorized (prepared : PreparedMelt) (paymentId : PaymentId)
    (dispatch : CashuStellarMeltDispatch) (db : Db) : Prop :=
  ∀ dispatchedAt < prepared.quote.expiry,
    MeltCovered db ⟨paymentId, dispatch.dispatchFingerprint, dispatchedAt⟩

theorem Authorized.keep {prepared : PreparedMelt} {dispatch : CashuStellarMeltDispatch}
    (h : Authorized prepared paymentId dispatch db) (hrun : Run db db') :
    Authorized prepared paymentId dispatch db' :=
  fun dispatchedAt hbefore => (h dispatchedAt hbefore).keep hrun

/-- The lifecycle is on record with the start of a melt. -/
structure Started (db : Db) (paymentId : PaymentId) (lifecycle : CashuProofReservationLifecycle) :
    Prop where
  recorded : LifecycleRecorded db paymentId lifecycle
  melt : NamesMelt lifecycle
  event : EventRecorded db paymentId lifecycle .dispatchStarted none none

theorem Started.keep {lifecycle : CashuProofReservationLifecycle}
    (h : Started db paymentId lifecycle) (hrun : Run db db') : Started db' paymentId lifecycle :=
  ⟨run_of_change (fun _ _ => LifecycleRecorded.keep) hrun h.recorded, h.melt,
    run_of_change (fun _ _ => EventRecorded.keep) hrun h.event⟩

/-- What the rows say of what the callback leaves behind. -/
def LeftBehind (prepared : PreparedMelt) (paymentId : PaymentId) (db : Db) :
    MeltAuthorization → Prop
  | .replayed lifecycle => LifecycleRecorded db paymentId lifecycle
  | .granted lifecycle dispatch _ =>
      Started db paymentId lifecycle ∧ Authorized prepared paymentId dispatch db

theorem effectStarted_of_startEffect {prepared : PreparedMelt}
    {dispatch : CashuStellarMeltDispatch} {startedAt dispatchedAt : UnixTimestamp}
    {result : LifecycleResult}
    (h : Acquirer.startEffect db {
        dispatchFingerprint := dispatch.dispatchFingerprint
        effectId := .stellarMelt (coordinationKey prepared.reservation prepared.quote)
        eventId := .stellarMeltStart (coordinationKey prepared.reservation prepared.quote)
        paymentId
        startedAt
        terms := .melt prepared.quote.quoteId prepared.quote.expiry } = .ok (result, db'))
    (hfresh : result.replayed = false) {mintUrl : MintUrl}
    {inputs : List CashuBearerMeltInput}
    (hdispatch : dispatch.dispatchFingerprint = meltPost mintUrl prepared.quote inputs)
    (hreserved : InputsReserved db paymentId mintUrl inputs)
    (hbefore : dispatchedAt < prepared.quote.expiry) :
    EffectStarted db' ⟨paymentId, dispatch.dispatchFingerprint, dispatchedAt⟩ := by
  obtain ⟨scope, hloaded, heffects, hjobs, hevents, hafter⟩ := startEffect_fresh h hfresh
  have hscoped : scope.paymentId = paymentId := paymentId_of_loadReservation hloaded
  have hstored := heffects.mem.mpr (.inr List.mem_cons_self)
  obtain ⟨quoteId, expiresAt, hquoted, ⟨⟩, ⟨⟩⟩ := quotedUntil_of_effectRow hafter hstored rfl rfl
  rw [hscoped] at hquoted
  obtain ⟨row, invoice, hrow, -, rfl, -⟩ := loadReservation_ok hloaded
  obtain ⟨other, hother, hpayment, hmint, -⟩ := hreserved
  obtain ⟨hmem, hrowPayment⟩ := Table.find_some hrow
  obtain rfl : other = row := Table.eq_of_collide hother hmem
    (.inl (hpayment.trans hrowPayment.symm))
  refine ⟨_, hstored, hscoped, rfl, rfl, ?_, ?_, ⟨_, ?_, rfl, hbefore⟩,
    ⟨_, hevents.mem.mpr (.inr List.mem_cons_self), rfl, rfl, rfl⟩,
    _, hjobs.mem.mpr (.inr List.mem_cons_self), hscoped, rfl⟩
  · show other.mintUrl = dispatch.dispatchFingerprint.mintUrl
    rw [hdispatch]
    exact hmint
  · show some prepared.quote.quoteId = some dispatch.dispatchFingerprint.quoteId
    rw [hdispatch]
    rfl
  · show QuotedUntil db' paymentId dispatch.dispatchFingerprint.quoteId prepared.quote.expiry
    rw [hdispatch]
    exact hquoted

theorem startEffect_safe {prepared : PreparedMelt} {dispatch : CashuStellarMeltDispatch}
    {mintUrl : MintUrl} {inputs : List CashuBearerMeltInput} (startedAt : UnixTimestamp)
    (hdispatch : dispatch.dispatchFingerprint = meltPost mintUrl prepared.quote inputs)
    (hreserved : InputsReserved w.db paymentId mintUrl inputs) :
    DispatchSafe
      (fun started w' => (started.replayed = true → LifecycleRecorded w'.db paymentId started.lifecycle) ∧
        (started.replayed = false → Started w'.db paymentId started.lifecycle ∧
          Authorized prepared paymentId dispatch w'.db))
      (startEffect prepared paymentId dispatch startedAt) w := by
  refine safe_ask (by trivial) ?_
  rintro w₁ (error | started) w₂ hreach hrun ⟨db, htransacts, rfl⟩ hrun'
  · trivial
  · have hresult := htransacts.result_eq
    have hcommand := run_startEffect hresult
    have hkept := hreserved.keep hrun
    obtain ⟨hrecorded, fingerprint, hevent⟩ := recorded_of_run hreach hcommand
    refine ⟨fun _ => hrecorded, ?_⟩
    intro hfresh
    obtain ⟨scope, hloaded, heffects, -⟩ := startEffect_fresh hresult hfresh
    have hmelt : NamesMelt started.lifecycle :=
      namesMelt_of_effectRow (loaded_of_run hcommand) (heffects.mem.mpr (.inr List.mem_cons_self))
        (paymentId_of_loadReservation hloaded) rfl
    refine ⟨⟨hrecorded, hmelt, hevent.untimed⟩, ?_⟩
    intro dispatchedAt hbefore
    refine ⟨effectStarted_of_startEffect hresult hfresh hdispatch hkept hbefore, ?_⟩
    show InputsReserved db paymentId dispatch.dispatchFingerprint.mintUrl
      dispatch.dispatchFingerprint.inputs
    rw [hdispatch]
    exact hreserved.keep hrun'

/-- What the callback leaves behind is so by the rows. -/
theorem authorizeMelt_safe (coordinator : MeltCoordinator) {prepared : PreparedMelt}
    (hread : ReservationRead w.db paymentId prepared.reservation.grossAmount)
    (hexact : Exact prepared) :
    DispatchSafe
      (fun authorization w' => ∀ left ∈ authorization, LeftBehind prepared paymentId w'.db left)
      (authorizeMelt coordinator prepared paymentId) w := by
  refine safe_ask (by trivial) ?_
  rintro w₁ (error | _ | bearerProofs) w₂ hreach hrun ⟨hretrieved, rfl⟩ -
  · trivial
  · intro left hleft
    cases hleft
  · have hretrieved : retrieveBundle w₂.db paymentId = .ok (some bearerProofs) := by
      rcases hretrieved with hretrieved | ⟨error, hretrieved⟩
      · exact hretrieved.symm
      · cases hretrieved
    apply safe_ofExcept_bind
    intro _ hinput
    apply safe_silent_bind (throwIfAborted_uses _)
    intro _ w₃ hrun₃
    apply safe_silent_bind (readClock_uses _)
    intro preparedAt w₄ hrun₄
    apply safe_ofExcept_bind
    intro _ _
    apply safe_ofExcept_bind
    intro _ hamount
    apply safe_silent_bind (throwIfAborted_uses _)
    intro _ w₅ hrun₅
    have hreserved := inputsReserved_of_retrieve hreach hretrieved (hread.keep hrun) hexact
      (mapError_eq_ok.mp hinput) (mapError_eq_ok.mp hamount)
    unfold authorize
    apply safe_bind
    apply safe_ofExcept_bind
    intro _ _
    apply safe_silent_bind (readClock_uses _)
    intro startedAt w₆ hrun₆
    apply safe_ofExcept_bind
    intro currentInputFee _
    apply safe_require_bind
    intro _
    have hkept := hreserved.keep (hrun₃.trans (hrun₄.trans (hrun₅.trans hrun₆)))
    refine safe_mono ?_ (fun _ _ h => h) (startEffect_safe startedAt rfl hkept)
    rintro started w₇ ⟨hreplayed, hfresh⟩
    split
    · case isTrue htrue =>
      rintro _ ⟨⟩
      exact hreplayed htrue
    · case isFalse hfalse =>
      rintro _ ⟨⟩
      exact hfresh (Bool.eq_false_iff.mpr hfalse)

/-! ### The request -/

/-- A run sends what it has been authorized to send, before the quote expires. -/
theorem sendMelt_safe (coordinator : MeltCoordinator) {prepared : PreparedMelt}
    {dispatch : CashuStellarMeltDispatch} {preparedAt : UnixTimestamp}
    (hauthorized : Authorized prepared paymentId dispatch w.db) :
    DispatchSafe (fun _ _ => True)
      (sendMelt coordinator prepared paymentId dispatch preparedAt) w := by
  apply safe_silent_bind (throwIfAborted_uses _)
  intro _ w₁ hrun₁
  apply safe_silent_bind (readClock_uses _)
  intro dispatchedAt w₂ hrun₂
  apply safe_require_bind
  intro _
  apply safe_require_bind
  intro hbefore
  apply safe_silent_bind (throwIfAborted_uses _)
  intro _ w₃ hrun₃ w₄ hinv hrun₄ _ w₅ hperform
  obtain rfl : w₅ = { w₄ with sent := _ :: w₄.sent } := hperform
  have hkept := hauthorized.keep (hrun₁.trans (hrun₂.trans (hrun₃.trans hrun₄)))
  refine ⟨⟨⟨hinv.1, ?_⟩, .refl⟩, ?_⟩
  · intro sent hsent
    rcases List.mem_cons.mp hsent with rfl | hsent
    · exact hkept dispatchedAt hbefore
    · exact hinv.2 sent hsent
  · exact safe_silent (receiveMelt_uses coordinator prepared dispatch _)

/-! ### The record -/

theorem recordAttention_safe {lifecycle : CashuProofReservationLifecycle} (key : CoordinationKey)
    (reason : CashuOperatorAttentionReason) (hstarted : Started w.db paymentId lifecycle) :
    DispatchSafe (fun result w' => result.Recorded w'.db)
      (recordAttention paymentId lifecycle key reason) w := by
  unfold recordAttention
  split
  · trivial
  · case h_2 effect _ =>
    apply safe_require_bind
    intro _
    apply safe_silent_bind (readClock_uses _)
    intro recordedAt w₁ hrun₁
    apply safe_require_bind
    intro _
    refine safe_ask (by trivial) ?_
    rintro w₂ (error | attention) w₃ hreach - ⟨db, htransacts, rfl⟩ hrun₃
    · trivial
    · have hcommand := run_requireAttention htransacts.result_eq
      obtain ⟨hrecorded, fingerprint, hevent⟩ := recorded_of_run hreach hcommand
      have hmelt : NamesMelt attention.lifecycle :=
        namesMelt_of_loaded (hstarted.keep (hrun₁.trans hrun₃)).recorded hstarted.melt
          (loaded_of_run hcommand)
      exact ⟨hrecorded, hmelt, hevent.untimed⟩

theorem recordExecution_safe (prepared : PreparedMelt) (attemptId : CashuStellarMeltQuoteAttemptId)
    {freshLifecycle : CashuProofReservationLifecycle} (quote : CashuStellarMeltQuote)
    (hstarted : Started w.db paymentId freshLifecycle) :
    DispatchSafe (fun result w' => result.Recorded w'.db)
      (recordExecution prepared paymentId attemptId freshLifecycle quote) w := by
  apply safe_silent_bind (readClock_uses _)
  intro recordedAt w₁ hrun₁
  cases freshLifecycle.effect with
  | none => trivial
  | some effect =>
      apply safe_require_bind
      intro _
      refine safe_ask (by trivial) ?_
      rintro w₂ (error | observed) w₃ hreach - ⟨db, htransacts, rfl⟩ hrun₃
      · trivial
      · have hkept : Started db paymentId freshLifecycle := hstarted.keep (hrun₁.trans hrun₃)
        have hobserved := quoteRecorded_of_observe hreach htransacts.result_eq
        have hquote : ∀ state, quote.state = state →
            QuoteRecorded db paymentId quote.observedAt state := by
          rintro state rfl
          exact hobserved
        cases hstate : quote.state with
        | unpaid => exact ⟨hkept.recorded, hkept.melt, hkept.event, hquote _ hstate⟩
        | paid => exact ⟨hkept.recorded, hkept.melt, hkept.event, hquote _ hstate⟩
        | pending =>
            refine safe_ask (by trivial) ?_
            rintro w₄ (error | pending) w₅ hreach' - ⟨db', htransacts', rfl⟩ hrun'
            · trivial
            · have hcommand := run_recordPending htransacts'.result_eq
              obtain ⟨hrecorded, fingerprint, hevent⟩ := recorded_of_run hreach' hcommand
              have hmelt : NamesMelt pending.lifecycle :=
                namesMelt_of_loaded (hkept.keep hrun').recorded hkept.melt (loaded_of_run hcommand)
              exact ⟨hrecorded, hmelt, hevent,
                run_of_change (fun _ _ => QuoteRecorded.keep) hrun' (hquote _ hstate)⟩

theorem dispatchStarted_safe (coordinator : MeltCoordinator) {prepared : PreparedMelt}
    {lifecycle : CashuProofReservationLifecycle} {dispatch : CashuStellarMeltDispatch}
    (preparedAt : UnixTimestamp) (hstarted : Started w.db paymentId lifecycle)
    (hauthorized : Authorized prepared paymentId dispatch w.db) :
    DispatchSafe (fun result w' => result.Recorded w'.db)
      (dispatchStarted coordinator prepared paymentId lifecycle dispatch preparedAt) w := by
  apply safe_bind
  apply safe_attempt
  refine safe_mono ?_ ?_ (sendMelt_safe coordinator hauthorized).and_grows
  · rintro execution w₁ ⟨-, hrun₁⟩
    have hstarted₁ : Started w₁.db paymentId lifecycle := hstarted.keep hrun₁
    dsimp only
    split
    · apply safe_bind
      apply safe_attempt
      refine safe_mono ?_ ?_ (recordExecution_safe _ _ _ hstarted₁).and_grows
      · rintro result w₂ ⟨hrecorded, -⟩
        exact hrecorded
      · rintro error w₂ ⟨-, hrun₂⟩
        exact recordAttention_safe _ _ (hstarted₁.keep hrun₂)
    · exact recordAttention_safe _ _ hstarted₁
  · rintro error w₁ ⟨-, hrun₁⟩
    exact recordAttention_safe _ _ (hstarted.keep hrun₁)

/-! ### A run -/

theorem dispatch_safe (coordinator : MeltCoordinator) (paymentId : PaymentId) :
    DispatchSafe (fun result w' => result.Recorded w'.db) (coordinator.dispatch paymentId) w := by
  apply safe_silent_bind (throwIfAborted_uses _)
  intro _ w₁ _
  apply safe_silent_bind (readClock_uses _)
  intro preparedAt w₂ _
  apply safe_bind
  refine safe_mono ?_ (fun _ _ h => h) (loadReservation_safe coordinator.cashuTs paymentId)
  intro reservation w₃ hread
  apply safe_bind
  refine safe_mono ?_ (fun _ _ h => h) (loadLifecycle_safe paymentId)
  rintro existingLifecycle w₄ ⟨hrun₄, hbegun⟩
  split
  · case isTrue hnot => exact ⟨hbegun hnot, (hbegun hnot).state_ne⟩
  · apply safe_bind
    refine safe_mono ?_ (fun _ _ h => h) (prepareMelt_safe coordinator paymentId _ preparedAt)
    rintro prepared w₅ ⟨rfl, hexact, hrun₅⟩
    apply safe_bind
    apply safe_attempt
    refine safe_mono ?_ (fun _ _ _ => trivial)
      (authorizeMelt_safe coordinator (hread.keep (hrun₄.trans hrun₅)) hexact)
    rintro (_ | lifecycle | ⟨lifecycle, dispatch, preparedAt⟩) w₆ hleft
    · trivial
    · have hrecorded : LifecycleRecorded w₆.db paymentId lifecycle := hleft _ rfl
      exact ⟨hrecorded, hrecorded.state_ne⟩
    · obtain ⟨hstarted, hauthorized⟩ := hleft _ rfl
      exact dispatchStarted_safe coordinator preparedAt hstarted hauthorized

end MeltCoordinator

/-! ### Every run -/

/-- Whatever holds of the rows and of what is returned, in every run. -/
theorem dispatchSound_of_reachable
    {c : Pool DispatchWorld (DispatchProcess CashuStellarMeltCoordinationResult)}
    (hreach : DispatchReachable c) :
    Pool.Sound DispatchWorld.performs dispatchDiscipline (fun result w => result.Recorded w.db)
      (fun _ _ => True) c := by
  have hempty : Pool.Sound DispatchWorld.performs dispatchDiscipline
      (fun result w => CashuStellarMeltCoordinationResult.Recorded result w.db) (fun _ _ => True)
      (⟨⟨Db.empty, []⟩, []⟩ :
        Pool DispatchWorld (DispatchProcess CashuStellarMeltCoordinationResult)) := by
    refine ⟨⟨.refl, ?_⟩, ?_⟩
    · intro sent hsent
      exact absurd hsent List.not_mem_nil
    · intro p hp
      exact absurd hp List.not_mem_nil
  refine (Pool.sound_of_run ?_ (fun _ _ _ h _ => h) ?_ ?_ hempty hreach).1
  · intro result w w' hrecorded hrun
    exact run_of_change (fun _ _ h hchange => h.keep hchange) hrun hrecorded
  · rintro p w ⟨coordinator, paymentId, rfl⟩ -
    exact MeltCoordinator.dispatch_safe coordinator paymentId
  · rintro w w' hinv ⟨hstep⟩
    exact keeps_of_run hinv (.single hstep) rfl

/-- The money moves once: in every run of coordinators of any configuration, for any payments, with
whatever the stores and the mints answer and whichever runs are lost, the melt of a payment is sent at
most once, with the request and for the quote that its effect was started with, before the quote
expired, and with the proofs that the custody held of its reservation, which are worth what was
reserved; and a request that was sent has its effect, its event and the job of its recovery from before
it left. -/
theorem melts_sent_once
    {c : Pool DispatchWorld (DispatchProcess CashuStellarMeltCoordinationResult)}
    (hreach : DispatchReachable c) :
    (c.shared.sent.map (·.paymentId)).Nodup ∧
      ∀ sent ∈ c.shared.sent, MeltCovered c.shared.db sent := by
  refine ⟨?_, (dispatchSound_of_reachable hreach).inv.2⟩
  apply List.nodup_iff_count_le_one.mpr
  intro paymentId
  have hle := sentFor_le_one hreach paymentId
  rw [DispatchWorld.sentFor] at hle
  rw [List.count_eq_countP, List.countP_map]
  refine le_of_eq_of_le (List.countP_congr ?_) hle
  intro sent _
  simp [Subtype.ext_iff]

/-- A result that a coordinator has returned is on record, whatever has happened since. -/
theorem coordination_results_recorded
    {c : Pool DispatchWorld (DispatchProcess CashuStellarMeltCoordinationResult)}
    (hreach : DispatchReachable c) {result : CashuStellarMeltCoordinationResult}
    (hresult : .done result ∈ c.running) : result.Recorded c.shared.db :=
  (dispatchSound_of_reachable hreach).safe _ hresult

/-! ### A melt whose response is lost -/

theorem dispatchReachable_of_reachable {db : Db} (hreach : Reachable db) :
    DispatchReachable ⟨⟨db, []⟩, []⟩ := by
  induction hreach with
  | refl => exact .refl
  | tail _ hstep ih => exact ih.tail (.world (.operation hstep))

namespace Sample

def cashuTs : CashuTs := FeeSample.cashuTs

def meltCoordinator : MeltCoordinator where
  cashuTs
  parseUrl := QuoteSample.parseUrl
  executors := [mintUrl]

def keysetSnapshot : CashuKeysetSnapshot where
  keysets := [
    { active := true
      finalExpiry := none
      id := keysetId
      inputFeePpk := 0
      keys := [(100, "03acd9df2fa4864e03520527ed6851fba83a7395afa3b24a758f3a0fc9335fd74f")]
      unit := cashuStellarUnit }]
  mintUrl
  observedAt := 1001

/-- The stores answer, the clock goes on from one reading to the next, and the connection to the mint
fails after the request has left. -/
def respond : (effect : DispatchEffect) → DispatchWorld × Nat →
    DispatchAnswer effect × DispatchWorld × Nat
  | .readClock, (w, now) => (some now, w, now + 1)
  | .readSignal, t => (false, t)
  | .findReservation paymentId, t => (findReservation t.1.db paymentId, t)
  | .findLifecycle paymentId, t => (findLifecycle t.1.db paymentId, t)
  | .findQuote paymentId, t => (findQuote t.1.db paymentId, t)
  | .findLatestFreshSnapshot _, t => (.ok (some keysetSnapshot), t)
  | .retrieveBundle paymentId, t => (retrieveBundle t.1.db paymentId, t)
  | .startEffect input, (w, now) => respondTo (Acquirer.startEffect w.db input) w now
  | .post sent, (w, now) => ((), { w with sent := sent :: w.sent }, now)
  | .receive _, t => (.error .requestAborted, t)
  | .observe input, (w, now) => respondTo (Acquirer.observe w.db input) w now
  | .recordPending input, (w, now) => respondTo (recordPending w.db input) w now
  | .requireAttention input reason, (w, now) => respondTo (requireAttention w.db input reason) w now
where
  respondTo {ε α : Type} (result : Except ε (α × Db)) (w : DispatchWorld) (now : Nat) :
      Except ε α × DispatchWorld × Nat :=
    match result with
    | .error error => (.error error, w, now)
    | .ok (answer, db) => (.ok answer, { w with db }, now)

theorem respond_performs (effect : DispatchEffect) (t : DispatchWorld × Nat) :
    DispatchWorld.performs effect t.1 (respond effect t).1 (respond effect t).2.1 := by
  have hcommits : ∀ {ε α : Type} (unavailable : ε) (result : Except ε (α × Db)) (w : DispatchWorld)
      (now : Nat), DispatchWorld.Commits unavailable result w (respond.respondTo result w now).1
        (respond.respondTo result w now).2.1 := by
    intro ε α unavailable result w now
    rcases result with error | ⟨answer, db⟩
    · exact ⟨w.db, .error rfl, rfl⟩
    · exact ⟨db, .ok rfl, rfl⟩
  obtain ⟨w, now⟩ := t
  cases effect with
  | readClock | readSignal | findLatestFreshSnapshot | post | receive => rfl
  | findReservation | findLifecycle | findQuote | retrieveBundle => exact ⟨.inl rfl, rfl⟩
  | startEffect | observe | recordPending | requireAttention => exact hcommits _ _ w now

/-- The rows before the dispatch. -/
def taken : Db :=
  intake.foldl Operation.perform Db.empty

theorem reachable_taken : Reachable taken :=
  run_foldl _ _

/-- What comes of a dispatch from 1010 on. -/
@[irreducible] def dispatched :
    Except MeltCoordinatorError CashuStellarMeltCoordinationResult × DispatchWorld × Nat :=
  (meltCoordinator.dispatch Sample.paymentId).runWith respond (⟨taken, []⟩, 1010)

theorem reachable_dispatched : DispatchReachable ⟨dispatched.2.1, [.ofExcept dispatched.1]⟩ := by
  have hstarted : DispatchReachable ⟨⟨taken, []⟩, [meltCoordinator.dispatch Sample.paymentId]⟩ :=
    (dispatchReachable_of_reachable reachable_taken).tail
      (.start ⟨meltCoordinator, Sample.paymentId, rfl⟩)
  unfold dispatched
  exact hstarted.trans (Pool.run_of_runWith respond_performs _ (⟨taken, []⟩, 1010) [])

end Sample

set_option maxRecDepth 10000 in
theorem melts_sent_once_lost :
    ∃ c, DispatchReachable c ∧ c.shared.sent.map (·.paymentId) = [Sample.paymentId] ∧
      (c.shared.sent.map (·.paymentId)).Nodup ∧
      ∀ sent ∈ c.shared.sent, MeltCovered c.shared.db sent := by
  have hsent : Sample.dispatched.2.1.sent.map (·.paymentId) = [Sample.paymentId] := by
    decide +kernel
  exact ⟨_, Sample.reachable_dispatched, hsent, melts_sent_once Sample.reachable_dispatched⟩

set_option maxRecDepth 10000 in
theorem coordination_results_recorded_lost :
    ∃ c result, DispatchReachable c ∧ .done result ∈ c.running ∧
      result.state = .needsAttention .transportAmbiguous ∧ result.Recorded c.shared.db := by
  have hanswered : ∃ result, Sample.dispatched.1 = .ok result ∧
      result.state = .needsAttention .transportAmbiguous := by
    apply exists_ok_of_any
    decide +kernel
  obtain ⟨result, hresult, hstate⟩ := hanswered
  have hdone : .done result ∈
      [(.ofExcept Sample.dispatched.1 : DispatchProcess CashuStellarMeltCoordinationResult)] := by
    rw [hresult]
    exact List.mem_cons_self
  exact ⟨_, result, Sample.reachable_dispatched, hdone, hstate,
    coordination_results_recorded Sample.reachable_dispatched hdone⟩

end CashMesh.Acquirer
