import CashMesh.Acquirer.MeltCoverage
import CashMesh.Acquirer.MeltRecovery
/-!
# What a recovery returns

A recovery returns only what is on record, whoever has put it there: a payment that it says is accepted
is consumed with that accounting, one that it says is released is released, and an observation or a
report that it names is stored. Settled payments stay settled, so that no two recoveries of a payment
contradict each other, however they have raced.
-/

namespace CashMesh.Acquirer

open CashMesh.Lib

variable {db db' : Db} {paymentId : PaymentId}

/-! ### Results on record -/

/-- A snapshot of the proofs of the payment. -/
def ProofStatesRecorded (db : Db) (paymentId : PaymentId) (observedAt : UnixTimestamp) : Prop :=
  ∃ row ∈ db.cashuProofStateObservations, row.paymentId = paymentId ∧ row.observedAt = observedAt

/-- A payment that was settled by an event of the state. -/
def SettledBy (db : Db) (paymentId : PaymentId) (state : LifecycleEventState) : Prop :=
  state.toReservationState.Terminal ∧ db.latestState paymentId = some state

/-- The accounting of the payment. -/
def AccountedAs (db : Db) (paymentId : PaymentId) (accounting : AcceptedInvoicePayment) : Prop :=
  (db.journalOf paymentId).map (·.journalFingerprint.accounting) = some accounting

/-- A payment was released by an event: before any effect, for a swap that was rejected, or for a melt
that was unpaid after its expiry. -/
def ReleasedOn (db : Db) (paymentId : PaymentId) : Prop :=
  ∃ event ∈ db.cashuProofReservationEvents, event.paymentId = paymentId ∧ event.state = .released ∧
    ((event.evidenceKind = some .preDispatch ∧
        ∀ effect ∈ db.cashuOperatorEffects, effect.paymentId ≠ paymentId) ∨
      ∃ effect ∈ db.cashuOperatorEffects, effect.paymentId = paymentId ∧
        ((event.evidenceKind = some (.failure .swapRejected) ∧ effect.effectKind = .swap) ∨
          (event.evidenceKind = some (.failure .meltUnpaidAfterExpiry) ∧ effect.effectKind = .melt)))

/-- What the rows say of the state of a result. -/
def CashuStellarMeltRecoveryState.Recorded (state : CashuStellarMeltRecoveryState) (db : Db)
    (paymentId : PaymentId) (lifecycle : CashuProofReservationLifecycle) : Prop :=
  match state with
  | .accepted accounting _ =>
      lifecycle.state = .consumed ∧ SettledBy db paymentId .consumed ∧
        AccountedAs db paymentId accounting
  | .released _ =>
      lifecycle.state = .released ∧ SettledBy db paymentId .released ∧ ReleasedOn db paymentId
  | .pending proofStateObservedAt quoteObservedAt =>
      ProofStatesRecorded db paymentId proofStateObservedAt ∧
        (QuoteRecorded db paymentId quoteObservedAt .unpaid ∨
          QuoteRecorded db paymentId quoteObservedAt .pending ∧
            EventRecorded db paymentId lifecycle .pending (some .operatorPending)
              (some quoteObservedAt))
  | .needsAttention reason =>
      EventRecorded db paymentId lifecycle .needsAttention (some (.attention reason)) none

/-- A result is on record: its lifecycle is, and the rows say what its state says. -/
structure CashuStellarMeltRecoveryResultV1.Recorded (result : CashuStellarMeltRecoveryResultV1)
    (db : Db) : Prop where
  lifecycle : LifecycleRecorded db result.paymentId result.lifecycle
  state : result.state.Recorded db result.paymentId result.lifecycle

theorem ProofStatesRecorded.keep {observedAt : UnixTimestamp}
    (h : ProofStatesRecorded db paymentId observedAt) (hchange : Change db db') :
    ProofStatesRecorded db' paymentId observedAt := by
  obtain ⟨row, hrow, hrecorded⟩ := h
  exact ⟨row, (snapshot_of_change hchange hrow).1, hrecorded⟩

theorem SettledBy.keep {state : LifecycleEventState} (h : SettledBy db paymentId state)
    (hchange : Change db db') : SettledBy db' paymentId state :=
  ⟨h.1, latestState_of_terminal hchange h.2 h.1⟩

theorem AccountedAs.keep {accounting : AcceptedInvoicePayment}
    (h : AccountedAs db paymentId accounting) (hchange : Change db db') :
    AccountedAs db' paymentId accounting := by
  obtain ⟨journal, hjournal, haccounting⟩ := Option.map_eq_some_iff.mp h
  exact Option.map_eq_some_iff.mpr ⟨journal, journalOf_of_change hchange hjournal, haccounting⟩

/-- No effect starts on a payment with an event. -/
theorem ReleasedOn.keep (h : ReleasedOn db paymentId) (hchange : Change db db') :
    ReleasedOn db' paymentId := by
  obtain ⟨event, hevent, hpayment, hreleased, hgrounds⟩ := h
  refine ⟨event, event_of_change hchange hevent, hpayment, hreleased, ?_⟩
  rcases hgrounds with ⟨hkind, hnone⟩ | ⟨effect, heffect, hgrounds⟩
  · refine .inl ⟨hkind, ?_⟩
    intro effect heffect hsame
    rcases effects_of_change hchange with hkept | ⟨row, hfirst, heffects⟩
    · rw [hkept] at heffect
      exact hnone effect heffect hsame
    · rcases heffects.mem.mp heffect with hold | hnew
      · exact hnone effect hold hsame
      · have hsome := latestEvent_isSome_of_mem hevent
        rw [hpayment, ← hsame, List.mem_singleton.mp hnew, hfirst] at hsome
        cases hsome
  · exact .inr ⟨effect, effectRow_of_change hchange heffect, hgrounds⟩

theorem CashuStellarMeltRecoveryResultV1.Recorded.keep {result : CashuStellarMeltRecoveryResultV1}
    (h : result.Recorded db) (hchange : Change db db') : result.Recorded db' := by
  refine ⟨h.lifecycle.keep hchange, ?_⟩
  obtain ⟨lifecycle, called, state⟩ := result
  obtain ⟨-, hstate⟩ := h
  cases state with
  | accepted accounting replayed =>
      obtain ⟨hconsumed, hsettled, haccounted⟩ := hstate
      exact ⟨hconsumed, hsettled.keep hchange, haccounted.keep hchange⟩
  | released replayed =>
      obtain ⟨hreleased, hsettled, hgrounds⟩ := hstate
      exact ⟨hreleased, hsettled.keep hchange, hgrounds.keep hchange⟩
  | pending proofStateObservedAt quoteObservedAt =>
      obtain ⟨hproofs, hquote⟩ := hstate
      refine ⟨hproofs.keep hchange, ?_⟩
      rcases hquote with hunpaid | ⟨hpending, hevent⟩
      · exact .inl (hunpaid.keep hchange)
      · exact .inr ⟨hpending.keep hchange, hevent.keep hchange⟩
  | needsAttention reason => exact EventRecorded.keep hstate hchange

/-! ### What the rows tell -/

theorem settled_of_event (hreach : Reachable db) {event : LifecycleEventRow}
    (hevent : event ∈ db.cashuProofReservationEvents)
    (hterminal : event.state.toReservationState.Terminal) :
    SettledBy db event.paymentId event.state := by
  refine ⟨hterminal, ?_⟩
  rw [Db.latestState, (decisionsSound_of_reachable hreach).last event hevent hterminal]
  rfl

/-- What the rows say of a lifecycle that was read. -/
structure LifecycleRead (db : Db) (paymentId : PaymentId)
    (lifecycle : CashuProofReservationLifecycle) : Prop where
  recorded : lifecycle.Begun → LifecycleRecorded db paymentId lifecycle
  settled : ∀ state : LifecycleEventState, state.toReservationState.Terminal →
    lifecycle.state = state.toReservationState → SettledBy db paymentId state
  released : lifecycle.state = .released → ReleasedOn db paymentId

theorem LifecycleRead.keep {lifecycle : CashuProofReservationLifecycle}
    (h : LifecycleRead db paymentId lifecycle) (hrun : Run db db') :
    LifecycleRead db' paymentId lifecycle where
  recorded hbegun := run_of_change (fun _ _ => LifecycleRecorded.keep) hrun (h.recorded hbegun)
  settled state hterminal hstate :=
    run_of_change (fun _ _ => SettledBy.keep) hrun (h.settled state hterminal hstate)
  released hreleased := run_of_change (fun _ _ => ReleasedOn.keep) hrun (h.released hreleased)

theorem settled_of_loaded {lifecycle : CashuProofReservationLifecycle}
    (h : LifecycleLoaded db paymentId lifecycle) {state : LifecycleEventState}
    (hterminal : state.toReservationState.Terminal)
    (hstate : lifecycle.state = state.toReservationState) : SettledBy db paymentId state := by
  obtain ⟨scope, rfl, hload⟩ := h
  refine ⟨hterminal, ?_⟩
  rw [state_of_loadLifecycle hload, Db.reservationState] at hstate
  cases hlatest : db.latestState scope.paymentId with
  | none =>
      rw [hlatest] at hstate
      cases state <;> cases hstate
  | some latest =>
      rw [hlatest] at hstate
      cases latest <;> cases state <;> first | rfl | cases hstate

theorem state_of_settled {lifecycle : CashuProofReservationLifecycle}
    (h : LifecycleLoaded db paymentId lifecycle) {state : LifecycleEventState}
    (hsettled : SettledBy db paymentId state) : lifecycle.state = state.toReservationState := by
  obtain ⟨scope, rfl, hload⟩ := h
  rw [state_of_loadLifecycle hload, Db.reservationState, hsettled.2]

/-- The last event of a released lifecycle says why. -/
theorem releasedOn_of_loaded {lifecycle : CashuProofReservationLifecycle}
    (h : LifecycleLoaded db paymentId lifecycle) (hreleased : lifecycle.state = .released) :
    ReleasedOn db paymentId := by
  obtain ⟨scope, rfl, hload⟩ := h
  obtain ⟨-, hafter⟩ := rows_of_loadLifecycle hload
  rw [hreleased, stateAfter] at hafter
  cases hlast : lifecycle.events.getLast? with
  | none =>
      rw [hlast] at hafter
      cases hafter
  | some event =>
      rw [hlast] at hafter
      obtain ⟨row, hmem, hpayment, hmaps⟩ := row_of_loadLifecycle hload (List.mem_of_getLast? hlast)
      obtain ⟨hevent, -, -, -, ⟨hwithout, hwith⟩, -⟩ := mapEvent_ok hmaps
      obtain ⟨hstate, -, hkind, -⟩ := createPublicEvent_some hevent
      refine ⟨row, hmem, hpayment, ?_, ?_⟩
      · rw [show row.state = event.state from hstate.symm]
        cases event <;> first | rfl | cases hafter
      · rw [show row.evidenceKind = event.evidenceKind from hkind.symm]
        cases event with
        | releasedPreDispatch base =>
            refine .inl ⟨rfl, ?_⟩
            intro other hother hsame
            exact no_effectRow_of_loadLifecycle hload (hwithout rfl) hother hsame
        | releasedAfterFailure base evidenceAt evidence proofStateObservedAt =>
            obtain ⟨started, hstarted, -, hfits, -⟩ := hwith (by rintro ⟨⟩)
            obtain ⟨effectRow, heffectRow, heffectPayment, hstores⟩ :=
              effectRow_of_loadLifecycle hload hstarted
            refine .inr ⟨effectRow, heffectRow, heffectPayment, ?_⟩
            rw [hstores.kind]
            cases evidence with
            | swapRejected => exact .inl ⟨rfl, hfits⟩
            | meltUnpaidAfterExpiry => exact .inr ⟨rfl, hfits⟩
        | dispatchStarted => cases hafter
        | pending => cases hafter
        | needsAttention => cases hafter
        | consumed => cases hafter

theorem lifecycleRead_of_loaded {lifecycle : CashuProofReservationLifecycle}
    (h : LifecycleLoaded db paymentId lifecycle) : LifecycleRead db paymentId lifecycle where
  recorded := recorded_of_loaded h
  settled _ := settled_of_loaded h
  released := releasedOn_of_loaded h

theorem accounted_of_find {accounting : AcceptedInvoicePayment}
    (h : findAcceptedPaymentByPaymentId db paymentId = .ok (some accounting)) :
    AccountedAs db paymentId accounting := by
  simp only [findAcceptedPaymentByPaymentId, bind_eq_ok] at h
  obtain ⟨_ | scope, hscope, h⟩ := h
  · cases h
  · simp only [bind_eq_ok, ensure_eq_ok, exists_unit, pure_eq_ok, Except.ok.injEq] at h
    obtain ⟨lifecycle, -, loaded, hload, -, rfl⟩ := h
    have hscoped : scope.paymentId = paymentId := paymentId_of_loadReservation hscope
    unfold loadAcceptedPayment at hload
    rw [hscoped] at hload
    split at hload
    · cases hload
    · case h_2 journal hjournal =>
      simp only [bind_eq_ok, pure_eq_ok, Except.ok.injEq, Option.some.injEq] at hload
      obtain ⟨mapped, hmapped, rfl⟩ := hload
      obtain ⟨-, -, -, -, hfingerprint⟩ := mapAcceptedPayment_ok hmapped
      rw [AccountedAs, hjournal, Option.map_some, hfingerprint]
      rfl

theorem eventRecorded_of_matches {lifecycle : CashuProofReservationLifecycle}
    {expected : ExpectedRecoveryEvent} (h : LifecycleLoaded db paymentId lifecycle)
    (hmatches : MatchesExpectedEvent lifecycle expected) :
    LifecycleRecorded db paymentId lifecycle ∧
      EventRecorded db paymentId lifecycle expected.state (some expected.evidenceKind)
        (some expected.evidenceAt) := by
  obtain ⟨-, event, hlast, -, hstate, hkind, htime⟩ := hmatches
  have hevent : event ∈ lifecycle.events := List.mem_of_getLast? hlast
  have hrecorded := recorded_of_loaded h (begun_of_event h hevent)
  obtain ⟨row, hrow, hpayment, hstored⟩ := hrecorded.events event hevent
  obtain ⟨hsameState, -, hsameKind, hsameTime⟩ := createPublicEvent_some hstored
  refine ⟨hrecorded, row, hrow, hpayment, hsameState.symm.trans hstate, hsameKind.symm.trans hkind,
    ?_, event, hevent, hstored⟩
  rintro time ⟨⟩
  exact hsameTime.symm.trans htime

theorem proofStatesRecorded_of_persist {input : PersistProofStateInput}
    {result : PersistProofStateResult} (h : persistProofState db input = .ok (result, db')) :
    ProofStatesRecorded db' input.paymentId input.snapshot.observedAt := by
  simp only [persistProofState, bind_eq_ok, orFail_eq_ok, exists_unit] at h
  obtain ⟨snapshot, hsnapshot, evidence, hevidence, reservation, rfl, hbinding, -, h⟩ := h
  have htime : snapshot.observedAt = input.snapshot.observedAt :=
    observedAt_of_createSnapshot hsnapshot
  split at h
  · case h_1 existing hexisting =>
    simp only [bind_eq_ok, ensure_eq_ok, exists_unit, pure_eq_ok, Except.ok.injEq,
      Prod.mk.injEq] at h
    obtain ⟨-, -, -, -, rfl⟩ := h
    obtain ⟨hmem, hpayment, hobservedAt⟩ := Table.find_some hexisting
    exact ⟨existing, hmem, hpayment, hobservedAt.trans htime⟩
  · simp only [bind_eq_ok, ensure_eq_ok, exists_unit, proofStateStatement_eq_ok, pure_eq_ok,
      Except.ok.injEq, Prod.mk.injEq, Session.commit_eq_ok] at h
    obtain ⟨-, -, s₁, hobservation, s₂, hentries, _, ⟨-, rfl⟩, -, rfl⟩ := h
    obtain ⟨-, observations, hobservations, rfl⟩ := insertProofStateObservation_ok hobservation
    obtain ⟨entries, hentries, hdb⟩ := insertProofStateEntries_ok hentries
    rw [hdb]
    exact ⟨_, hobservations.mem.mpr (.inr List.mem_cons_self), rfl, htime⟩

/-! ### A run -/

/-- The rows are those of a run of the acquirer. -/
def recoveringDiscipline : Discipline Db where
  inv := Reachable
  grows := Run
  refl _ := .refl
  trans := .trans

theorem run_of_recoveryPerforms {effect : RecoveryEffect} {answer : RecoveryAnswer effect}
    (h : recoveryPerforms effect db answer db') : Run db db' := by
  have hcommits : ∀ {ε α : Type} {unavailable : ε} {result : Except ε (α × Db)}
      {answer : Except ε α} (operation : Operation), operation.run db = committed result →
        Transacts unavailable result db answer db' → Run db db' := by
    intro ε α unavailable result answer operation hrun htransacts
    rcases htransacts.committed with rfl | ⟨a, hresult⟩
    · exact .refl
    · exact .single ⟨operation, hrun.trans (committed_eq_some.mpr ⟨a, hresult⟩)⟩
  cases effect with
  | readClock | readSignal | check | observeProofs =>
      obtain rfl : db' = db := h
      exact .refl
  | findReservation | findLifecycle | findAcceptedPayment | findQuote =>
      obtain rfl : db' = db := h.2
      exact .refl
  | observeQuote input => exact hcommits (.observe input) rfl h
  | persistObservation input => exact hcommits (.persistProofState input) rfl h
  | acceptPayment input => exact hcommits (.acceptPayment input) rfl h
  | release input => exact hcommits (.release input) rfl h
  | recordPending input => exact hcommits (.recordPending input) rfl h
  | requireAttention input reason => exact hcommits (.requireAttention input reason) rfl h

/-- Safety of what a recovery runs: it returns only what `Q` says. -/
abbrev RecoverySafe {ε α : Type} (Q : α → Db → Prop)
    (p : Process RecoveryEffect RecoveryAnswer ε α) (db : Db) : Prop :=
  Safe recoveryPerforms recoveringDiscipline Q (fun _ _ => True) p db

namespace MeltRecoveryCoordinator

variable {ε α β : Type} {Q : β → Db → Prop} {context : RecoveryContext}

theorem safe_ask {effect : RecoveryEffect}
    {next : RecoveryAnswer effect → Process RecoveryEffect RecoveryAnswer ε β}
    (hnext : ∀ db₁ answer db₂, Reachable db₁ → Run db db₁ →
      recoveryPerforms effect db₁ answer db₂ → Run db db₂ → RecoverySafe Q (next answer) db₂) :
    RecoverySafe Q (.ask effect next) db := by
  intro db₁ hreach hgrow answer db₂ hperform
  have hrun := run_of_recoveryPerforms hperform
  exact ⟨⟨hreach.trans hrun, hrun⟩, hnext db₁ answer db₂ hreach hgrow hperform (hgrow.trans hrun)⟩

theorem safe_ofExcept_bind {result : Except ε α}
    {rest : α → Process RecoveryEffect RecoveryAnswer ε β}
    (hrest : ∀ a, result = .ok a → RecoverySafe Q (rest a) db) :
    RecoverySafe Q (Process.ofExcept result >>= rest) db :=
  Lib.safe_ofExcept_bind hrest fun _ _ => trivial

theorem safe_require_bind {condition : Prop} [Decidable condition] {error : ε}
    {rest : Unit → Process RecoveryEffect RecoveryAnswer ε β}
    (hrest : condition → RecoverySafe Q (rest ()) db) :
    RecoverySafe Q (require condition error >>= rest) db :=
  safe_ofExcept_bind fun _ hensured => hrest (ensure_eq_ok.mp hensured)

theorem safe_then {p : Process RecoveryEffect RecoveryAnswer ε α}
    {rest : α → Process RecoveryEffect RecoveryAnswer ε β} {P : α → Db → Prop}
    (hp : RecoverySafe P p db)
    (hrest : ∀ a db', P a db' → Run db db' → RecoverySafe Q (rest a) db') :
    RecoverySafe Q (p >>= rest) db := by
  apply safe_bind
  exact safe_mono (fun a db' h => hrest a db' h.1 h.2) (fun _ _ _ => trivial) hp.and_grows

theorem safe_attempt_then {ε' : Type} {p : Process RecoveryEffect RecoveryAnswer ε' α}
    {rest : Except ε' α → Process RecoveryEffect RecoveryAnswer ε β} {P : α → Db → Prop}
    (hp : RecoverySafe P p db)
    (hok : ∀ a db', P a db' → Run db db' → RecoverySafe Q (rest (.ok a)) db')
    (herror : ∀ error db', Run db db' → RecoverySafe Q (rest (.error error)) db') :
    RecoverySafe Q (p.attempt >>= rest) db := by
  apply safe_bind
  apply safe_attempt
  exact safe_mono (fun a db' h => hok a db' h.1 h.2) (fun e db' h => herror e db' h.2)
    hp.and_grows

theorem safe_any (p : Process RecoveryEffect RecoveryAnswer ε α) (db : Db) :
    RecoverySafe (fun _ _ => True) p db := by
  induction p generalizing db with
  | done result => trivial
  | fail error => trivial
  | ask effect next ih => exact safe_ask fun _ answer db₂ _ _ _ _ => ih answer db₂

/-! ### What a run reads -/

/-- A settled payment has its result on record. -/
theorem terminalResult_safe {lifecycle : CashuProofReservationLifecycle}
    (hread : LifecycleRead db paymentId lifecycle) :
    RecoverySafe
      (fun result db' => ∀ settled ∈ result,
        settled.Recorded db' ∧ settled.paymentId = paymentId)
      (terminalResult paymentId lifecycle) db := by
  unfold terminalResult
  split
  · case h_1 hstate =>
    have hbegun : lifecycle.Begun := .inl (by rw [hstate]; rintro ⟨⟩)
    rintro settled ⟨⟩
    exact ⟨⟨hread.recorded hbegun, hstate, hread.settled .released (.inr rfl) hstate,
      hread.released hstate⟩, rfl⟩
  · case h_2 hstate =>
    refine safe_ask ?_
    rintro db₁ (error | _ | accounting) db₂ - hrun ⟨hfound, rfl⟩ -
    · trivial
    · trivial
    · have hbegun : lifecycle.Begun := .inl (by rw [hstate]; rintro ⟨⟩)
      have hkept := hread.keep hrun
      rintro settled ⟨⟩
      exact ⟨⟨hkept.recorded hbegun, hstate, hkept.settled .consumed (.inl rfl) hstate,
        accounted_of_find hfound.result_eq⟩, rfl⟩
  · rintro settled ⟨⟩

/-- What the rows say of a payment that was read again. -/
def Reloaded (db : Db) (paymentId : PaymentId) (expected : Option ExpectedRecoveryEvent) :
    ReloadedRecovery → Prop
  | .terminal result => result.Recorded db ∧ result.paymentId = paymentId
  | .equivalentEvent lifecycle => LifecycleRecorded db paymentId lifecycle ∧ ∃ event ∈ expected,
      EventRecorded db paymentId lifecycle event.state (some event.evidenceKind)
        (some event.evidenceAt)

theorem reloadAfterEventWrite_safe (paymentId : PaymentId)
    (expected : Option ExpectedRecoveryEvent) :
    RecoverySafe
      (fun reloaded db' => ∀ found ∈ reloaded, Reloaded db' paymentId expected found)
      (reloadAfterEventWrite paymentId expected) db := by
  refine safe_ask ?_
  rintro db₁ (error | _ | lifecycle) db₂ - - ⟨hfound, rfl⟩ -
  · rintro found ⟨⟩
  · rintro found ⟨⟩
  · have hloaded := loaded_of_findLifecycle hfound.result_eq
    show RecoverySafe _ (if lifecycle.paymentId = paymentId then _ else _) _
    split
    · refine safe_attempt_then (terminalResult_safe (lifecycleRead_of_loaded hloaded)) ?_ ?_
      · rintro (_ | result) db₃ hrecorded hrun₃
        · show RecoverySafe _
            (if ∃ event ∈ expected, MatchesExpectedEvent lifecycle event then _ else _) _
          split
          · case isTrue hmatches =>
            obtain ⟨event, hevent, hmatches⟩ := hmatches
            obtain ⟨hlifecycle, hrecorded⟩ := eventRecorded_of_matches hloaded hmatches
            rintro found ⟨⟩
            exact ⟨run_of_change (fun _ _ => LifecycleRecorded.keep) hrun₃ hlifecycle, event, hevent,
              run_of_change (fun _ _ => EventRecorded.keep) hrun₃ hrecorded⟩
          · rintro found ⟨⟩
        · rintro found ⟨⟩
          exact hrecorded result rfl
      · rintro error db₃ - found ⟨⟩
    · rintro found ⟨⟩

theorem reloadTerminal_safe (paymentId : PaymentId) :
    RecoverySafe
      (fun result db' => ∀ settled ∈ result,
        settled.Recorded db' ∧ settled.paymentId = paymentId)
      (reloadTerminal paymentId) db := by
  refine safe_then (reloadAfterEventWrite_safe paymentId none) ?_
  rintro (_ | lifecycle | result) db' hreloaded -
  · rintro settled ⟨⟩
  · rintro settled ⟨⟩
  · rintro settled ⟨⟩
    exact hreloaded _ rfl

/-! ### What a run returns -/

/-- A result of the payment that is on record. -/
def Returns (paymentId : PaymentId) (result : CashuStellarMeltRecoveryResultV1) (db : Db) : Prop :=
  result.Recorded db ∧ result.paymentId = paymentId

theorem recordAttentionAt_safe (context : RecoveryContext) (reason : CashuOperatorAttentionReason)
    (evidenceAt recordedAt : UnixTimestamp) :
    RecoverySafe (Returns context.paymentId)
      (recordAttentionAt context reason evidenceAt recordedAt) db := by
  apply safe_require_bind
  intro _
  refine safe_ask ?_
  rintro db₁ (error | attention) db₂ hreach - htransacts -
  · show RecoverySafe _ (reloadAfterEventWrite context.paymentId _ >>= _) _
    refine safe_then (reloadAfterEventWrite_safe context.paymentId _) ?_
    rintro (_ | lifecycle | result) db₃ hreloaded -
    · trivial
    · obtain ⟨hlifecycle, event, ⟨⟩, hevent⟩ := hreloaded _ rfl
      exact ⟨⟨hlifecycle, hevent.untimed⟩, rfl⟩
    · exact hreloaded _ rfl
  · obtain ⟨hlifecycle, fingerprint, hevent⟩ :=
      recorded_of_run hreach (run_requireAttention htransacts.result_eq)
    exact ⟨⟨hlifecycle, hevent.untimed⟩, rfl⟩

theorem recordAttention_safe (context : RecoveryContext) (reason : CashuOperatorAttentionReason)
    (evidenceAt : UnixTimestamp) :
    RecoverySafe (Returns context.paymentId) (recordAttention context reason evidenceAt) db :=
  safe_then (safe_any readClock _) fun recordedAt _ _ _ =>
    recordAttentionAt_safe context reason evidenceAt recordedAt

theorem handleObservationFailure_safe (context : RecoveryContext) (failure : ObservationFailure)
    (evidenceAt : Option UnixTimestamp) :
    RecoverySafe (Returns context.paymentId)
      (handleObservationFailure context failure evidenceAt) db := by
  refine safe_ask ?_
  intro db₁ aborted db₂ _ _ _ _
  show RecoverySafe _ (if aborted = true ∨ failure.IsAbort then _ else _) _
  split
  · trivial
  · cases evidenceAt with
    | some evidenceAt => exact recordAttention_safe context _ evidenceAt
    | none => exact safe_then (safe_any readClock _) fun now _ _ _ => recordAttention_safe context _ now

theorem settledOrAttention_safe (context : RecoveryContext) (evidenceAt : UnixTimestamp) :
    RecoverySafe (Returns context.paymentId) (settledOrAttention context evidenceAt) db := by
  refine safe_then (reloadTerminal_safe context.paymentId) ?_
  rintro (_ | result) db' hsettled -
  · exact recordAttention_safe context _ evidenceAt
  · exact hsettled result rfl

theorem settledOrAttentionAt_safe (context : RecoveryContext)
    (evidenceAt recordedAt : UnixTimestamp) :
    RecoverySafe (Returns context.paymentId)
      (settledOrAttentionAt context evidenceAt recordedAt) db := by
  refine safe_then (reloadTerminal_safe context.paymentId) ?_
  rintro (_ | result) db' hsettled -
  · exact recordAttentionAt_safe context _ evidenceAt recordedAt
  · exact hsettled result rfl

theorem acceptPayment_safe (context : RecoveryContext) (quote : CashuStellarMeltQuote)
    (proofState : CashuProofStateSnapshot) (recordedAt : UnixTimestamp) :
    RecoverySafe (Returns context.paymentId)
      (acceptPayment context quote proofState recordedAt) db := by
  refine safe_ask ?_
  rintro db₁ (error | accepted) db₂ hreach - htransacts -
  · exact settledOrAttentionAt_safe context _ _
  · have hcommand := run_acceptPayment htransacts.result_eq
    obtain ⟨scope, fingerprint, hleft, -, haccounting⟩ := leftBy_of_run hreach hcommand
    obtain ⟨sequence, hevent⟩ := hleft.event
    have hreach' : Reachable db₂ := hreach.trans (run_of_recoveryPerforms htransacts)
    have hsettled := settled_of_event hreach' hevent (.inl rfl)
    exact ⟨⟨(recorded_of_run hreach hcommand).1, state_of_settled (loaded_of_run hcommand) hsettled,
      hsettled, haccounting.symm⟩, rfl⟩

theorem releaseReservation_safe (context : RecoveryContext) (quote : CashuStellarMeltQuote)
    (proofState : CashuProofStateSnapshot) (recordedAt : UnixTimestamp) :
    RecoverySafe (Returns context.paymentId)
      (releaseReservation context quote proofState recordedAt) db := by
  refine safe_ask ?_
  rintro db₁ (error | released) db₂ hreach - htransacts -
  · exact settledOrAttentionAt_safe context _ _
  · have hcommand := run_releaseAfterFailure htransacts.result_eq
    obtain ⟨scope, fingerprint, hleft, -⟩ := leftBy_of_run hreach hcommand
    obtain ⟨sequence, hevent⟩ := hleft.event
    have hreach' : Reachable db₂ := hreach.trans (run_of_recoveryPerforms htransacts)
    have hsettled := settled_of_event hreach' hevent (.inr rfl)
    have hloaded := loaded_of_run hcommand
    have hstate := state_of_settled hloaded hsettled
    exact ⟨⟨(recorded_of_run hreach hcommand).1, hstate, hsettled,
      releasedOn_of_loaded hloaded hstate⟩, rfl⟩

/-- What a run has put on record before it settles the payment. -/
structure EvidenceRecorded (db : Db) (paymentId : PaymentId)
    (lifecycle : CashuProofReservationLifecycle) (quote : CashuStellarMeltQuote)
    (proofState : CashuProofStateSnapshot) : Prop where
  lifecycle : LifecycleRecorded db paymentId lifecycle
  quote : QuoteRecorded db paymentId quote.observedAt quote.state
  proofStates : ProofStatesRecorded db paymentId proofState.observedAt

theorem EvidenceRecorded.keep {lifecycle : CashuProofReservationLifecycle}
    {quote : CashuStellarMeltQuote} {proofState : CashuProofStateSnapshot}
    (h : EvidenceRecorded db paymentId lifecycle quote proofState) (hrun : Run db db') :
    EvidenceRecorded db' paymentId lifecycle quote proofState :=
  ⟨run_of_change (fun _ _ => LifecycleRecorded.keep) hrun h.lifecycle,
    run_of_change (fun _ _ => QuoteRecorded.keep) hrun h.quote,
    run_of_change (fun _ _ => ProofStatesRecorded.keep) hrun h.proofStates⟩

theorem pendingResult_safe {quote : CashuStellarMeltQuote}
    {proofState : CashuProofStateSnapshot} (recordedAt : UnixTimestamp)
    (hrecorded : EvidenceRecorded db context.paymentId context.lifecycle quote proofState)
    (hstate : quote.state ≠ .paid) :
    RecoverySafe (Returns context.paymentId)
      (pendingResult context quote proofState recordedAt) db := by
  unfold pendingResult
  split
  · case isTrue hpending =>
    have hquote : ∀ {db : Db},
        EvidenceRecorded db context.paymentId context.lifecycle quote proofState →
        QuoteRecorded db context.paymentId quote.observedAt .pending :=
      fun h => hpending ▸ h.quote
    refine safe_ask ?_
    rintro db₁ (error | pending) db₂ hreach - htransacts hrun
    · have hkept := hrecorded.keep hrun
      show RecoverySafe _ (reloadAfterEventWrite context.paymentId _ >>= _) _
      refine safe_then (reloadAfterEventWrite_safe context.paymentId _) ?_
      rintro (_ | lifecycle | result) db₃ hreloaded hrun₃
      · trivial
      · obtain ⟨hlifecycle, event, ⟨⟩, hevent⟩ := hreloaded _ rfl
        have hkept₃ := hkept.keep hrun₃
        exact ⟨⟨hlifecycle, hkept₃.proofStates, .inr ⟨hquote hkept₃, hevent⟩⟩, rfl⟩
      · exact hreloaded _ rfl
    · have hkept := hrecorded.keep hrun
      obtain ⟨hlifecycle, fingerprint, hevent⟩ :=
        recorded_of_run hreach (run_recordPending htransacts.result_eq)
      exact ⟨⟨hlifecycle, hkept.proofStates, .inr ⟨hquote hkept, hevent⟩⟩, rfl⟩
  · case isFalse hnot =>
    have hunpaid : quote.state = .unpaid := by
      cases hcase : quote.state with
      | unpaid => rfl
      | pending => exact absurd hcase hnot
      | paid => exact absurd hcase hstate
    exact ⟨⟨hrecorded.lifecycle, hrecorded.proofStates, .inl (hunpaid ▸ hrecorded.quote)⟩, rfl⟩

theorem storeQuote_safe (coordinator : MeltRecoveryCoordinator) (context : RecoveryContext)
    (quote : CashuStellarMeltQuote) :
    RecoverySafe
      (fun _ db' => QuoteRecorded db' context.paymentId quote.observedAt quote.state)
      (storeQuote coordinator context quote) db := by
  refine safe_ask ?_
  rintro db₁ (error | stored) db₂ hreach - htransacts -
  · trivial
  · apply safe_ofExcept_bind
    intro storedAttempt _
    have hrecorded := quoteRecorded_of_observe hreach htransacts.result_eq
    show RecoverySafe _ (Process.ofExcept (ensure _ _)) _
    by_cases hsame : SameQuote storedAttempt.2.1 quote
    · rw [ensure_of hsame]
      exact hrecorded
    · rw [ensure_of_not hsame]
      trivial

theorem storeProofState_safe (context : RecoveryContext) (proofState : CashuProofStateSnapshot) :
    RecoverySafe
      (fun _ db' => ProofStatesRecorded db' context.paymentId proofState.observedAt)
      (storeProofState context proofState) db := by
  refine safe_ask ?_
  rintro db₁ (error | stored) db₂ - - htransacts -
  · trivial
  · apply safe_ofExcept_bind
    intro storedSnapshot _
    have hrecorded := proofStatesRecorded_of_persist htransacts.result_eq
    show RecoverySafe _ (Process.ofExcept (ensure _ _)) _
    by_cases hsame : storedSnapshot = proofState
    · rw [ensure_of hsame]
      exact hrecorded
    · rw [ensure_of_not hsame]
      trivial

theorem settle_safe {quote : CashuStellarMeltQuote} {proofState : CashuProofStateSnapshot}
    (hrecorded : EvidenceRecorded db context.paymentId context.lifecycle quote proofState) :
    RecoverySafe (Returns context.paymentId) (settle context quote proofState) db := by
  refine safe_then (safe_any readClock _) ?_
  intro recordedAt db' _ hrun
  apply safe_require_bind
  intro _
  dsimp only
  split
  · exact acceptPayment_safe context quote proofState recordedAt
  · split
    · exact releaseReservation_safe context quote proofState recordedAt
    · split
      · case isTrue hpending =>
        apply pendingResult_safe recordedAt (hrecorded.keep hrun)
        rintro hpaid
        rcases hpending with ⟨hstate, -⟩ | ⟨hstate, -⟩ <;>
          · rw [hpaid] at hstate
            cases hstate
      · exact recordAttentionAt_safe context _ _ _

theorem observeAndSettle_safe (coordinator : MeltRecoveryCoordinator)
    {context : RecoveryContext}
    (hlifecycle : LifecycleRecorded db context.paymentId context.lifecycle) :
    RecoverySafe (Returns context.paymentId) (observeAndSettle coordinator context) db := by
  refine safe_attempt_then (safe_any (checkQuote context) _) ?_ ?_
  · intro quote db₁ _ hrun₁
    refine safe_attempt_then (storeQuote_safe coordinator context quote) ?_ ?_
    · rintro ⟨⟩ db₂ hquote hrun₂
      refine safe_attempt_then (safe_any (observeProofStates context) _) ?_ ?_
      · intro proofState db₃ _ hrun₃
        refine safe_attempt_then (storeProofState_safe context proofState) ?_ ?_
        · rintro ⟨⟩ db₄ hproofs hrun₄
          exact settle_safe
            ⟨run_of_change (fun _ _ => LifecycleRecorded.keep)
                (hrun₁.trans (hrun₂.trans (hrun₃.trans hrun₄))) hlifecycle,
              run_of_change (fun _ _ => QuoteRecorded.keep) (hrun₃.trans hrun₄) hquote, hproofs⟩
        · intro error db₄ _
          exact settledOrAttention_safe context _
      · intro failure db₃ _
        exact handleObservationFailure_safe context failure _
    · intro error db₂ _
      exact settledOrAttention_safe context _
  · intro failure db₁ _
    exact handleObservationFailure_safe context failure _

theorem loadLifecycle_safe (paymentId : PaymentId) :
    RecoverySafe (fun lifecycle db' => LifecycleRead db' paymentId lifecycle)
      (loadLifecycle paymentId) db := by
  refine safe_ask ?_
  rintro db₁ (error | _ | found) db₂ - - ⟨hfound, rfl⟩ -
  · trivial
  · trivial
  · apply safe_require_bind
    intro _
    exact lifecycleRead_of_loaded (loaded_of_findLifecycle hfound.result_eq)

theorem recover_safe (coordinator : MeltRecoveryCoordinator) (paymentId : PaymentId) :
    RecoverySafe (Returns paymentId) (coordinator.recover paymentId) db := by
  refine safe_ask ?_
  rintro db₁ (_ | _) db₂ - - - -
  · show RecoverySafe _ (loadReservation coordinator.cashuTs paymentId >>= _) _
    refine safe_then (safe_any _ _) ?_
    intro reservation db₃ _ _
    refine safe_then (loadLifecycle_safe paymentId) ?_
    intro lifecycle db₄ hread _
    refine safe_then (terminalResult_safe hread) ?_
    rintro (_ | result) db₅ hsettled hrun₅
    · apply safe_ofExcept_bind
      intro effect heffect
      simp only [requireRecoverableEffect, bind_eq_ok, orFail_eq_ok] at heffect
      obtain ⟨stored, hstored, -⟩ := heffect
      have hbegun : lifecycle.Begun := .inr (by rw [hstored]; rintro ⟨⟩)
      refine safe_then (safe_any _ _) ?_
      intro found db₆ _ hrun₆
      apply safe_ofExcept_bind
      intro attempt _
      apply safe_require_bind
      intro _
      exact observeAndSettle_safe coordinator ((hread.keep (hrun₅.trans hrun₆)).recorded hbegun)
    · exact hsettled result rfl
  · trivial

end MeltRecoveryCoordinator

/-! ### Every run -/

theorem recoverySound_of_reachable
    {c : Pool Db (RecoveryProcess CashuStellarMeltRecoveryResultV1)}
    (hreach : RecoveringReachable c) :
    Pool.Sound recoveryPerforms recoveringDiscipline (fun result db => result.Recorded db)
      (fun _ _ => True) c := by
  have hempty : Pool.Sound recoveryPerforms recoveringDiscipline
      (fun result db => CashuStellarMeltRecoveryResultV1.Recorded result db) (fun _ _ => True)
      (⟨Db.empty, []⟩ : Pool Db (RecoveryProcess CashuStellarMeltRecoveryResultV1)) :=
    ⟨.refl, fun p hp => absurd hp List.not_mem_nil⟩
  refine (Pool.sound_of_run ?_ (fun _ _ _ h _ => h) ?_ ?_ hempty hreach).1
  · intro result db db' hrecorded hrun
    exact run_of_change (fun _ _ h hchange => h.keep hchange) hrun hrecorded
  · rintro p db ⟨coordinator, paymentId, rfl⟩ -
    exact safe_mono (fun _ _ h => h.1) (fun _ _ h => h)
      (MeltRecoveryCoordinator.recover_safe coordinator paymentId)
  · intro db db' hinv hstep
    exact ⟨hinv.tail hstep, .single hstep⟩

theorem event_of_settled {state : LifecycleEventState} (h : SettledBy db paymentId state) :
    ∃ event ∈ db.cashuProofReservationEvents, event.paymentId = paymentId ∧ event.state = state := by
  obtain ⟨event, hevent, hstate⟩ := Option.map_eq_some_iff.mp h.2
  obtain ⟨hrow, hpayment⟩ := Table.mem_select.mp (mem_of_latest hevent)
  exact ⟨event, hrow, hpayment, hstate⟩

/-- Two results that cannot both be true of one payment. -/
def CashuStellarMeltRecoveryState.Contradicts :
    CashuStellarMeltRecoveryState → CashuStellarMeltRecoveryState → Prop
  | .accepted accounting _, .accepted other _ => accounting ≠ other
  | .accepted _ _, .released _ => True
  | .released _, .accepted _ _ => True
  | _, _ => False

/-- Whether the state is that of an accepted payment, replayed or not. -/
def CashuStellarMeltRecoveryState.Accepted (replayed : Bool) :
    CashuStellarMeltRecoveryState → Prop
  | .accepted _ called => called = replayed
  | _ => False

instance (replayed : Bool) (state : CashuStellarMeltRecoveryState) :
    Decidable (state.Accepted replayed) :=
  match state with
  | .accepted _ called => inferInstanceAs (Decidable (called = replayed))
  | .released _ | .pending _ _ | .needsAttention _ => inferInstanceAs (Decidable False)

/-- The rows are of one mind. -/
theorem not_contradicts_of_recorded {result other : CashuStellarMeltRecoveryResultV1}
    (hresult : result.Recorded db) (hother : other.Recorded db)
    (hpayment : other.paymentId = result.paymentId) :
    ¬result.state.Contradicts other.state := by
  obtain ⟨lifecycle, called, state⟩ := result
  obtain ⟨otherLifecycle, otherCalled, otherState⟩ := other
  obtain rfl : otherCalled = called := hpayment
  intro hcontradicts
  cases state with
  | accepted accounting replayed =>
      obtain ⟨-, -, ⟨-, hconsumed⟩, haccounted⟩ := hresult
      cases otherState with
      | accepted otherAccounting otherReplayed =>
          exact hcontradicts (Option.some.inj (haccounted.symm.trans hother.state.2.2))
      | released otherReplayed =>
          have hreleased : db.latestState otherCalled = some .released := hother.state.2.1.2
          cases hconsumed.symm.trans hreleased
      | _ => exact hcontradicts
  | released replayed =>
      have hreleased : db.latestState otherCalled = some .released := hresult.state.2.1.2
      cases otherState with
      | accepted otherAccounting otherReplayed => cases hreleased.symm.trans hother.state.2.1.2
      | _ => exact hcontradicts
  | _ => exact hcontradicts

/-- Recoveries tell the truth and agree: in every run of recoveries of any configuration, beside the
dispatch and every other operation, with whatever the mints and their clients answer and whichever runs
are lost, a result that was returned is on record; a payment that is said to be accepted has its
accounting and was seen paid and spent; one that is said to be released had no effect yet, or a swap that
was rejected, or else a melt that was last seen unpaid after its expiry and unspent; and no two results
for one payment contradict each other. -/
theorem recoveries_agree {c : Pool Db (RecoveryProcess CashuStellarMeltRecoveryResultV1)}
    (hreach : RecoveringReachable c) {result : CashuStellarMeltRecoveryResultV1}
    (hresult : .done result ∈ c.running) :
    result.Recorded c.shared ∧
      (∀ accounting replayed, result.state = .accepted accounting replayed →
        ∃ event ∈ c.shared.cashuProofReservationEvents, ∃ effect ∈ c.shared.cashuOperatorEffects,
          event.paymentId = result.paymentId ∧ effect.paymentId = result.paymentId ∧
            PaidAndSpent c.shared event effect) ∧
      (∀ replayed, result.state = .released replayed → ReleasedOn c.shared result.paymentId ∧
        ∀ effect ∈ c.shared.cashuOperatorEffects, effect.paymentId = result.paymentId →
          effect.effectKind = .melt → UnpaidAndUnspent c.shared effect) ∧
      ∀ other, .done other ∈ c.running → other.paymentId = result.paymentId →
        ¬result.state.Contradicts other.state := by
  have hsound := recoverySound_of_reachable hreach
  have hdecisions := decisionsSound_of_reachable hsound.inv
  have hrecorded : ∀ result, .done result ∈ c.running → result.Recorded c.shared :=
    fun result hdone => hsound.safe _ hdone
  have htrue := hrecorded result hresult
  refine ⟨htrue, ?_, ?_, ?_⟩
  · intro accounting replayed hstate
    have hstated := htrue.state
    rw [hstate] at hstated
    obtain ⟨event, hevent, hpayment, hconsumed⟩ := event_of_settled hstated.2.1
    obtain ⟨effect, heffect, hsame, -, hevidence⟩ := hdecisions.consumed event hevent hconsumed
    exact ⟨event, hevent, effect, heffect, hpayment, hsame.trans hpayment, hevidence⟩
  · intro replayed hstate
    have hstated := htrue.state
    rw [hstate] at hstated
    refine ⟨hstated.2.2, ?_⟩
    intro effect heffect hpayment hmelt
    obtain ⟨event, hevent, heventPayment, hreleased⟩ := event_of_settled hstated.2.1
    exact hdecisions.released event hevent hreleased effect heffect
      (hpayment.trans heventPayment.symm) hmelt
  · intro other hother hpayment
    exact not_contradicts_of_recorded htrue (hrecorded other hother) hpayment

theorem recoveringReachable_of_reachable {db : Db} (hreach : Reachable db) :
    RecoveringReachable ⟨db, []⟩ := by
  induction hreach with
  | refl => exact .refl
  | tail _ hstep ih => exact ih.tail (.world hstep)

namespace Sample

def recoveryCoordinator : MeltRecoveryCoordinator where
  cashuTs
  quoteCheckers := [mintUrl]
  proofStateObservers := [mintUrl]

/-- The stores answer, the clock goes on from one reading to the next, and the mint has the quote paid
and the proof spent. -/
def recoveryRespond : (effect : RecoveryEffect) → Db × Nat → RecoveryAnswer effect × Db × Nat
  | .readClock, (db, now) => (some now, db, now + 1)
  | .readSignal, t => (false, t)
  | .findReservation paymentId, t => (findReservation t.1 paymentId, t)
  | .findLifecycle paymentId, t => (findLifecycle t.1 paymentId, t)
  | .findAcceptedPayment paymentId, t => (findAcceptedPaymentByPaymentId t.1 paymentId, t)
  | .findQuote paymentId, t => (findQuote t.1 paymentId, t)
  | .check _, (db, now) => (.ok (quote .paid now), db, now + 1)
  | .observeQuote input, (db, now) => respondTo (Acquirer.observe db input) db now
  | .observeProofs _ _, (db, now) => (.ok ⟨mintUrl, now, [⟨.spent, proofY⟩]⟩, db, now + 1)
  | .persistObservation input, (db, now) => respondTo (persistProofState db input) db now
  | .acceptPayment input, (db, now) => respondTo (Acquirer.acceptPayment db input) db now
  | .release input, (db, now) => respondTo (Acquirer.release db input) db now
  | .recordPending input, (db, now) => respondTo (recordPending db input) db now
  | .requireAttention input reason, (db, now) => respondTo (requireAttention db input reason) db now
where
  respondTo {ε α : Type} (result : Except ε (α × Db)) (db : Db) (now : Nat) :
      Except ε α × Db × Nat :=
    match result with
    | .error error => (.error error, db, now)
    | .ok (answer, db) => (.ok answer, db, now)

theorem recoveryRespond_performs (effect : RecoveryEffect) (t : Db × Nat) :
    recoveryPerforms effect t.1 (recoveryRespond effect t).1 (recoveryRespond effect t).2.1 := by
  have htransacts : ∀ {ε α : Type} (unavailable : ε) (result : Except ε (α × Db)) (db : Db)
      (now : Nat), Transacts unavailable result db (recoveryRespond.respondTo result db now).1
        (recoveryRespond.respondTo result db now).2.1 := by
    intro ε α unavailable result db now
    rcases result with error | ⟨answer, db'⟩
    · exact .error rfl
    · exact .ok rfl
  obtain ⟨db, now⟩ := t
  cases effect with
  | readClock | readSignal | check | observeProofs => rfl
  | findReservation | findLifecycle | findAcceptedPayment | findQuote => exact ⟨.inl rfl, rfl⟩
  | observeQuote | persistObservation | acceptPayment | release | recordPending | requireAttention =>
      exact htransacts _ _ db now

theorem reachable_recovery (db : Db) (now : Nat)
    (ps : List (RecoveryProcess CashuStellarMeltRecoveryResultV1))
    (hreach : RecoveringReachable ⟨db, ps⟩) :
    RecoveringReachable
      ⟨((recoveryCoordinator.recover Sample.paymentId).runWith recoveryRespond (db, now)).2.1,
        .ofExcept
          ((recoveryCoordinator.recover Sample.paymentId).runWith recoveryRespond (db, now)).1 ::
          ps⟩ :=
  (hreach.tail (.start ⟨recoveryCoordinator, Sample.paymentId, rfl⟩)).trans
    (Pool.run_of_runWith recoveryRespond_performs _ (db, now) ps)

/-- What comes of a recovery of a dispatched payment from 1011 on. -/
@[irreducible] def recovered :
    Except RecoveryCoordinatorError CashuStellarMeltRecoveryResultV1 × Db × Nat :=
  (recoveryCoordinator.recover Sample.paymentId).runWith recoveryRespond (after [], 1011)

/-- What comes of another one thereafter. -/
@[irreducible] def recoveredAgain :
    Except RecoveryCoordinatorError CashuStellarMeltRecoveryResultV1 × Db × Nat :=
  (recoveryCoordinator.recover Sample.paymentId).runWith recoveryRespond
    (recovered.2.1, recovered.2.2)

theorem reachable_recoveredAgain :
    RecoveringReachable
      ⟨recoveredAgain.2.1, [.ofExcept recoveredAgain.1, .ofExcept recovered.1]⟩ := by
  have hrecovered : RecoveringReachable ⟨recovered.2.1, [.ofExcept recovered.1]⟩ := by
    unfold recovered
    exact reachable_recovery (after []) 1011 []
      (recoveringReachable_of_reachable (reachable_after []))
  unfold recoveredAgain
  exact reachable_recovery recovered.2.1 recovered.2.2 [.ofExcept recovered.1] hrecovered

end Sample

set_option maxRecDepth 10000 in
theorem recoveries_agree_accepted :
    ∃ c result other, RecoveringReachable c ∧ .done result ∈ c.running ∧ .done other ∈ c.running ∧
      result.state.Accepted true ∧ other.state.Accepted false ∧ result.Recorded c.shared ∧
      ¬result.state.Contradicts other.state := by
  have hagain : ∃ result, Sample.recoveredAgain.1 = .ok result ∧
      (result.paymentId = Sample.paymentId ∧ result.state.Accepted true) := by
    apply exists_ok_of_any
    decide +kernel
  have hfirst : ∃ other, Sample.recovered.1 = .ok other ∧
      (other.paymentId = Sample.paymentId ∧ other.state.Accepted false) := by
    apply exists_ok_of_any
    decide +kernel
  obtain ⟨result, hresult, hpayment, hstate⟩ := hagain
  obtain ⟨other, hother, hotherPayment, hotherState⟩ := hfirst
  have hrunning :
      [.ofExcept Sample.recoveredAgain.1, .ofExcept Sample.recovered.1] =
        [(.done result : RecoveryProcess CashuStellarMeltRecoveryResultV1), .done other] := by
    rw [hresult, hother]
    rfl
  have hreach := Sample.reachable_recoveredAgain
  rw [hrunning] at hreach
  have hdone : (.done result : RecoveryProcess CashuStellarMeltRecoveryResultV1) ∈
      [.done result, .done other] :=
    List.mem_cons_self
  have hdoneOther : (.done other : RecoveryProcess CashuStellarMeltRecoveryResultV1) ∈
      [.done result, .done other] :=
    List.mem_cons_of_mem _ List.mem_cons_self
  obtain ⟨hrecorded, -, -, hagree⟩ := recoveries_agree hreach hdone
  exact ⟨_, result, other, hreach, hdone, hdoneOther, hstate, hotherState, hrecorded,
    hagree other hdoneOther (hotherPayment.trans hpayment.symm)⟩

end CashMesh.Acquirer
