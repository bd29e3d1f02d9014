import CashMesh.Acquirer.Statements
import CashMesh.Lib.ThreeValued
/-!
# The constraints of the events as the schema writes them

The constraints and the triggers of `cashu_proof_reservation_events` condition by condition, in the
logic of three values that PostgreSQL reads them in. What the statements require of an event is what
these conditions leave over: a check that passes, and a trigger none of whose branches raises.
-/

namespace CashMesh.Acquirer

open CashMesh.Lib

/-! ### Constraints -/

namespace LifecycleEventRow

variable (row : LifecycleEventRow)

/-- `state = …` -/
def stateIs (state : LifecycleEventState) : Truth :=
  .of (row.state = state)

/-- `evidence_kind IN (…)` -/
def kindIn (kinds : List EvidenceKind) : Truth :=
  .compare (· ∈ ·) row.evidenceKind (some kinds)

/-- The condition of `cashu_proof_reservation_events_shape`. -/
def shapeCheck : Truth :=
  ((row.stateIs .dispatchStarted).and <|
    (Truth.isNotNull row.effectId).and <|
    (Truth.isNull row.evidenceKind).and <|
    (Truth.isNull row.evidenceAt).and <|
    Truth.isNull row.proofStateSnapshotFingerprint).or <|
  ((row.stateIs .pending).and <|
    (Truth.isNotNull row.effectId).and <|
    (row.kindIn [.operatorPending]).and <|
    (Truth.isNotNull row.evidenceAt).and <|
    Truth.isNull row.proofStateSnapshotFingerprint).or <|
  ((row.stateIs .needsAttention).and <|
    (Truth.isNotNull row.effectId).and <|
    (row.kindIn [.attention .transportAmbiguous, .attention .operatorStateUnknown,
      .attention .operatorResponseInvalid]).and <|
    (Truth.isNotNull row.evidenceAt).and <|
    Truth.isNull row.proofStateSnapshotFingerprint).or <|
  ((row.stateIs .consumed).and <|
    (Truth.isNotNull row.effectId).and <|
    (row.kindIn [.success .swapSucceeded, .meltPaid]).and <|
    (Truth.isNotNull row.evidenceAt).and <|
    Truth.isNotNull row.proofStateSnapshotFingerprint).or <|
  ((row.stateIs .released).and <|
    (Truth.isNull row.effectId).and <|
    (row.kindIn [.preDispatch]).and <|
    (Truth.isNull row.evidenceAt).and <|
    Truth.isNull row.proofStateSnapshotFingerprint).or <|
  ((row.stateIs .released).and <|
    (Truth.isNotNull row.effectId).and <|
    (row.kindIn [.failure .swapRejected, .meltUnpaidAfterExpiry]).and <|
    (Truth.isNotNull row.evidenceAt).and <|
    Truth.isNotNull row.proofStateSnapshotFingerprint)

/-- The conditions of the other constraints of the row. -/
def otherChecks : List Truth := [
  .of (row.sequence < 1024),
  .of (row.recordedAt ≤ maxSafeInteger),
  (Truth.isNull row.evidenceAt).or (.compare (· ≤ ·) row.evidenceAt (some row.recordedAt)),
  ((row.stateIs .consumed).and (Truth.isNotNull row.journalEntryId)).or
    ((row.stateIs .consumed).not.and (Truth.isNull row.journalEntryId))]

@[simp] theorem passes_stateIs {state : LifecycleEventState} :
    (row.stateIs state).Passes ↔ row.state = state := by
  rw [stateIs, Truth.passes_of]

@[simp] theorem holds_stateIs {state : LifecycleEventState} :
    (row.stateIs state).Holds ↔ row.state = state := by
  rw [stateIs, Truth.holds_of]

@[simp] theorem passes_kindIn {kinds : List EvidenceKind} :
    (row.kindIn kinds).Passes ↔ ∀ kind ∈ row.evidenceKind, kind ∈ kinds := by
  simp [kindIn]

@[simp] theorem holds_kindIn {kinds : List EvidenceKind} :
    (row.kindIn kinds).Holds ↔ ∃ kind ∈ row.evidenceKind, kind ∈ kinds := by
  simp [kindIn]

theorem passes_shapeCheck : row.shapeCheck.Passes ↔ row.Shape := by
  simp [shapeCheck, Shape]

theorem passes_checks :
    (∀ check ∈ row.shapeCheck :: row.otherChecks, check.Passes) ↔ row.Checks := by
  have htime : (row.evidenceAt = none ∨ ∀ evidenceAt ∈ row.evidenceAt, evidenceAt ≤ row.recordedAt) ↔
      ∀ evidenceAt ∈ row.evidenceAt, evidenceAt ≤ row.recordedAt := by
    cases row.evidenceAt <;> simp
  simp only [List.forall_mem_cons, passes_shapeCheck, otherChecks, Truth.passes_of, Truth.passes_or,
    Truth.passes_and, Truth.passes_isNull, Truth.passes_isNotNull, Truth.passes_compare,
    Truth.passes_not, passes_stateIs, holds_stateIs, Option.mem_some_iff, forall_eq', htime, Checks]
  constructor
  · intro h
    obtain ⟨hshape, hsequence, hrecorded, hevidence, haccounting, -⟩ := h
    exact ⟨hsequence, hrecorded, hevidence, hshape, haccounting⟩
  · intro h
    obtain ⟨hsequence, hrecorded, hevidence, hshape, haccounting⟩ := h
    exact ⟨hshape, hsequence, hrecorded, hevidence, haccounting, List.forall_mem_nil _⟩

end LifecycleEventRow

/-! ### The trigger of the events -/

section Trigger

variable (db : Db) (row : LifecycleEventRow)

/-- `NEW.recorded_at < reservation_record.reserved_at` -/
def reservationRaises (reservation : ReservationRow) : Truth :=
  .of (row.recordedAt < reservation.reservedAt)

/-- When an event cannot follow the previous one. -/
def successorRaises (previous : LifecycleEventRow) : Truth :=
  (Truth.of (row.sequence ≠ previous.sequence + 1)).or <|
  (Truth.of (row.recordedAt < previous.recordedAt)).or <|
  ((previous.stateIs .consumed).or (previous.stateIs .released)).or <|
  (row.stateIs .dispatchStarted).or <|
  (Truth.isDistinct row.effectId previous.effectId).or <|
  ((row.stateIs .pending).or <| (row.stateIs .needsAttention).or <|
    (row.stateIs .consumed).or (row.stateIs .released)).not

/-- When an event cannot be the first one. -/
def firstRaises : Truth :=
  (Truth.of (row.sequence ≠ 0)).or <|
  ((row.stateIs .dispatchStarted).or (row.stateIs .released)).not.or <|
  (row.stateIs .released).and (row.kindIn [.preDispatch]).not

/-- When an event does not match its effect. -/
def effectRaises (effect : OperatorEffectRow) : Truth :=
  (Truth.of (row.recordedAt < effect.startedAt)).or <|
  (Truth.isNotNull row.evidenceAt).and (.compare (· < ·) row.evidenceAt (some effect.startedAt))

/-- When the invoice of a dispatch is not open at the start of the effect. -/
def dispatchRaises (effect : OperatorEffectRow) (invoice : MerchantInvoiceRow) : Truth :=
  (Truth.of (effect.startedAt ≠ row.recordedAt)).or <|
  (Truth.of (invoice.state ≠ .open)).or <|
  (Truth.of (effect.startedAt < invoice.createdAt)).or <|
  .of (invoice.expiresAt ≤ effect.startedAt)

/-- When the evidence is not of the kind of the effect. -/
def kindRaises (effect : OperatorEffectRow) : Truth :=
  let isNot (kind : CashuOperatorEffectKind) : Truth := .of (effect.effectKind ≠ kind)
  ((row.kindIn [.success .swapSucceeded]).and (isNot .swap)).or <|
  ((row.kindIn [.meltPaid]).and (isNot .melt)).or <|
  ((row.kindIn [.failure .swapRejected]).and (isNot .swap)).or <|
  ((row.kindIn [.meltUnpaidAfterExpiry]).and <| (isNot .melt).or <|
    .compare (· < ·) row.evidenceAt effect.operatorReferenceExpiresAt).or <|
  (row.kindIn [.operatorPending]).and (isNot .melt)

/-- When the snapshot was not observed between the evidence and the event. -/
def observationRaises (observation : ProofStateObservationRow) : Truth :=
  (Truth.compare (· < ·) (some observation.observedAt) row.evidenceAt).or <|
  .of (row.recordedAt < observation.observedAt)

/-- When the entries of the snapshot are not of one state, counted as the trigger does. -/
def entriesRaise (entries : List ProofStateEntryRow) : Truth :=
  (Truth.of (entries.length = 0)).or <|
  .of ((entries.filter fun entry =>
    entry.state = if row.state = .consumed then .spent else .unspent).length ≠ entries.length)

/-- The branches of `cashmesh_validate_cashu_reservation_event`, none of which raises. -/
structure NotRaised (reservation : ReservationRow) : Prop where
  reserved : ¬(reservationRaises row reservation).Holds
  successor : ∀ previous ∈ db.latestEvent row.paymentId, ¬(successorRaises row previous).Holds
  first : db.latestEvent row.paymentId = none → ¬(firstRaises row).Holds
  effect : ∀ effectId ∈ row.effectId, ∃ effect ∈ db.effect effectId row.paymentId,
    ¬(effectRaises row effect).Holds ∧
    (row.state = .dispatchStarted → ∃ invoice ∈ db.invoice reservation.invoiceId,
      ¬(dispatchRaises row effect invoice).Holds) ∧
    ¬(kindRaises row effect).Holds
  snapshot : ∀ fingerprint ∈ row.proofStateSnapshotFingerprint,
    ∃ observation ∈ db.proofStateObservation fingerprint row.paymentId,
      ¬(observationRaises row observation).Holds ∧
      ¬(entriesRaise row (db.proofStateEntriesOf observation.snapshotFingerprint)).Holds

theorem not_successorRaises {previous : LifecycleEventRow} :
    ¬(successorRaises row previous).Holds ↔ ValidSuccessor previous row := by
  have hterminal : previous.state.toReservationState.Terminal ↔
      previous.state = .consumed ∨ previous.state = .released := by
    cases previous.state <;> decide
  have hstate : (row.state = .pending ∨ row.state = .needsAttention ∨ row.state = .consumed ∨
      row.state = .released) ↔ row.state ≠ .dispatchStarted := by
    cases row.state <;> decide
  simp only [successorRaises, Truth.holds_or, Truth.holds_not, Truth.holds_of, Truth.passes_or,
    Truth.holds_isDistinct, LifecycleEventRow.holds_stateIs, LifecycleEventRow.passes_stateIs, hstate,
    validSuccessor_iff, hterminal, not_or, not_not, not_lt]
  tauto

theorem not_firstRaises : ¬(firstRaises row).Holds ↔ ValidFirst row := by
  simp only [firstRaises, Truth.holds_or, Truth.holds_and, Truth.holds_not, Truth.holds_of,
    Truth.passes_or, LifecycleEventRow.holds_stateIs, LifecycleEventRow.passes_stateIs,
    LifecycleEventRow.passes_kindIn, List.mem_singleton, validFirst_iff, not_or, not_and, not_not]
  rw [or_iff_not_imp_left]

theorem not_effectRaises {effect : OperatorEffectRow} :
    ¬(effectRaises row effect).Holds ↔ effect.startedAt ≤ row.recordedAt ∧
      ∀ evidenceAt ∈ row.evidenceAt, effect.startedAt ≤ evidenceAt := by
  simp only [effectRaises, Truth.holds_or, Truth.holds_and, Truth.holds_of, Truth.holds_isNotNull,
    Truth.holds_compare, not_or, not_lt]
  cases row.evidenceAt <;> simp

theorem not_dispatchRaises {effect : OperatorEffectRow} {invoice : MerchantInvoiceRow} :
    ¬(dispatchRaises row effect invoice).Holds ↔ ValidDispatchEvent row effect invoice := by
  simp only [dispatchRaises, Truth.holds_or, Truth.holds_of, validDispatchEvent_iff, not_or, not_not,
    not_lt, not_le]

theorem not_kindRaises {effect : OperatorEffectRow} :
    ¬(kindRaises row effect).Holds ↔ EvidenceFitsEffect row effect := by
  simp only [kindRaises, Truth.holds_or, Truth.holds_and, Truth.holds_of, Truth.holds_compare,
    LifecycleEventRow.holds_kindIn, EvidenceFitsEffect]
  cases row.evidenceKind with
  | none => simp
  | some kind => simp

theorem not_observationRaises {observation : ProofStateObservationRow} :
    ¬(observationRaises row observation).Holds ↔
      (∀ evidenceAt ∈ row.evidenceAt, evidenceAt ≤ observation.observedAt) ∧
        observation.observedAt ≤ row.recordedAt := by
  simp only [observationRaises, Truth.holds_or, Truth.holds_of, Truth.holds_compare, not_or, not_lt]
  cases row.evidenceAt <;> simp

theorem not_entriesRaise {entries : List ProofStateEntryRow} :
    ¬(entriesRaise row entries).Holds ↔
      entries ≠ [] ∧ ∀ entry ∈ entries, entry.state = row.state.requiredProofState := by
  simp only [entriesRaise, Truth.holds_or, Truth.holds_of, not_or, not_not, List.length_eq_zero_iff,
    List.length_filter_eq_length_iff, decide_eq_true_eq, LifecycleEventState.requiredProofState]

/-- No branch of the trigger raises exactly when the event is valid. -/
theorem notRaised_iff {reservation : ReservationRow} :
    NotRaised db row reservation ↔ ValidEvent db row reservation := by
  constructor
  · intro h
    constructor
    case reserved => simpa only [reservationRaises, Truth.holds_of, not_lt] using h.reserved
    case successor =>
      intro previous hprevious
      exact (not_successorRaises row).mp (h.successor previous hprevious)
    case first =>
      intro hnone
      exact (not_firstRaises row).mp (h.first hnone)
    case effect =>
      intro effectId hid
      obtain ⟨effect, heffect, htimes, hdispatch, hkind⟩ := h.effect effectId hid
      obtain ⟨hstarted, hevidence⟩ := (not_effectRaises row).mp htimes
      refine ⟨effect, heffect, hstarted, hevidence, ?_, (not_kindRaises row).mp hkind⟩
      intro hstate
      obtain ⟨invoice, hinvoice, hopen⟩ := hdispatch hstate
      exact ⟨invoice, hinvoice, (not_dispatchRaises row).mp hopen⟩
    case snapshot =>
      intro fingerprint hfingerprint
      obtain ⟨observation, hobservation, htimes, hentries⟩ := h.snapshot fingerprint hfingerprint
      obtain ⟨hafter, hbefore⟩ := (not_observationRaises row).mp htimes
      obtain ⟨hsome, huniform⟩ := (not_entriesRaise row).mp hentries
      exact ⟨observation, hobservation, hafter, hbefore, hsome, huniform⟩
  · intro h
    constructor
    case reserved => simpa only [reservationRaises, Truth.holds_of, not_lt] using h.reserved
    case successor =>
      intro previous hprevious
      exact (not_successorRaises row).mpr (h.successor previous hprevious)
    case first =>
      intro hnone
      exact (not_firstRaises row).mpr (h.first hnone)
    case effect =>
      intro effectId hid
      obtain ⟨effect, heffect, hstarted, hevidence, hdispatch, hkind⟩ := h.effect effectId hid
      refine ⟨effect, heffect, (not_effectRaises row).mpr ⟨hstarted, hevidence⟩, ?_,
        (not_kindRaises row).mpr hkind⟩
      intro hstate
      obtain ⟨invoice, hinvoice, hopen⟩ := hdispatch hstate
      exact ⟨invoice, hinvoice, (not_dispatchRaises row).mpr hopen⟩
    case snapshot =>
      intro fingerprint hfingerprint
      obtain ⟨observation, hobservation, hafter, hbefore, hsome, huniform⟩ :=
        h.snapshot fingerprint hfingerprint
      exact ⟨observation, hobservation, (not_observationRaises row).mpr ⟨hafter, hbefore⟩,
        (not_entriesRaise row).mpr ⟨hsome, huniform⟩⟩

end Trigger

end CashMesh.Acquirer
