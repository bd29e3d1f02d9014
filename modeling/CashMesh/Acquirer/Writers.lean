import CashMesh.Acquirer.EventConstraints
import CashMesh.Acquirer.Events
/-!
# Any writer of the lifecycle tables

What the schema makes of the lifecycles alone, whoever writes them. A writer groups inserts of effects
and of events into transactions as it likes, with inserts of proof state evidence and with anything else
that leaves these tables be; a transaction that is refused anywhere leaves the rows as they were.

The path of a payment through the lifecycle holds without further conditions. That each event shows the
evidence of its state needs two things of the writer: the shape of the events lets an evidence kind be
null, and the entries of a snapshot can be added to after an event has cited it.
-/

namespace CashMesh.Acquirer

open CashMesh.Lib

variable {db db' : Db}

/-! ### Transactions -/

/-- The rows of the lifecycle tables and of the evidence that the events cite are the same. -/
structure SameLifecycles (db db' : Db) : Prop where
  effects : db'.cashuOperatorEffects = db.cashuOperatorEffects
  events : db'.cashuProofReservationEvents = db.cashuProofReservationEvents
  observations : db'.cashuProofStateObservations = db.cashuProofStateObservations
  entries : db'.cashuProofStateObservationEntries = db.cashuProofStateObservationEntries

/-- A statement of a writer. The tables of the lifecycles and of the proof state evidence are
append-only, and whatever becomes of the others is left open. -/
inductive WriterStatement where
  | effect (row : OperatorEffectRow)
  | event (row : LifecycleEventRow)
  | observation (row : ProofStateObservationRow)
  | entry (row : ProofStateEntryRow)
  | elsewhere (change : Db → Db) (same : ∀ db, SameLifecycles db (change db))

def WriterStatement.perform (s : Session) : WriterStatement → Except DbError Session
  | .effect row => insertEffect s row
  | .event row => insertEventRow s row
  | .observation row => insertProofStateObservation s row
  | .entry row => insertProofStateEntry s row
  | .elsewhere change _ => .ok (s.next (change s.db) [])

abbrev Transaction :=
  List WriterStatement

def performAll (s : Session) (statements : Transaction) : Except DbError Session :=
  statements.foldlM WriterStatement.perform s

/-- Run a transaction and its deferred checks. -/
def Transaction.commit (transaction : Transaction) (db : Db) : Except DbError Db := do
  let s ← performAll ⟨db, []⟩ transaction
  s.commit

/-- The rows after a transaction, which are those before it when it is refused. -/
def Transaction.after (db : Db) (transaction : Transaction) : Db :=
  match transaction.commit db with
  | .ok after => after
  | .error _ => db

/-- The rows that the transactions of the writers leave. -/
def writersRun (db : Db) (transactions : List Transaction) : Db :=
  transactions.foldl Transaction.after db

/-! ### Lifecycles -/

/-- The states of the events are a path of the lifecycle from a state. -/
def StatePath : CashuProofReservationState → List LifecycleEventRow → Prop
  | _, [] => True
  | state, event :: events =>
      TransitionAllowed state event.state ∧ StatePath event.state.toReservationState events

/-- The events of a payment in their order, numbered from zero and about one effect. -/
structure LifecyclePath (events : List LifecycleEventRow) : Prop where
  states : StatePath .reserved events
  sequence : events.map (·.sequence) = List.range events.length
  recorded : events.Pairwise fun event later => event.recordedAt ≤ later.recordedAt
  oneEffect : ∀ event ∈ events, ∀ other ∈ events, event.effectId = other.effectId

/-- An event about a stored effect of its payment, with evidence of a time between the start of the
effect and the record. -/
structure EvidenceOf (db : Db) (event : LifecycleEventRow) (effect : OperatorEffectRow)
    (kind : EvidenceKind) (evidenceAt : UnixTimestamp) : Prop where
  stored : effect ∈ db.cashuOperatorEffects
  paymentId : effect.paymentId = event.paymentId
  effectId : event.effectId = some effect.effectId
  kind : event.evidenceKind = some kind
  dated : event.evidenceAt = some evidenceAt
  started : effect.startedAt ≤ evidenceAt
  recorded : evidenceAt ≤ event.recordedAt

/-- An event cites a snapshot with entries of one state, observed between the evidence and the
record. -/
def UniformSnapshot (db : Db) (event : LifecycleEventRow) (evidenceAt : UnixTimestamp)
    (state : CashuProofStateValue) : Prop :=
  ∃ observation ∈ db.cashuProofStateObservations,
    event.proofStateSnapshotFingerprint = some observation.snapshotFingerprint ∧
    observation.paymentId = event.paymentId ∧
    evidenceAt ≤ observation.observedAt ∧ observation.observedAt ≤ event.recordedAt ∧
    (∃ entry ∈ db.cashuProofStateObservationEntries,
      entry.snapshotFingerprint = observation.snapshotFingerprint) ∧
    ∀ entry ∈ db.cashuProofStateObservationEntries,
      entry.snapshotFingerprint = observation.snapshotFingerprint → entry.state = state

/-- The evidence that the state of an event demands. -/
def Evidenced (db : Db) (event : LifecycleEventRow) : Prop :=
  match event.state with
  | .dispatchStarted =>
      ∃ effect ∈ db.cashuOperatorEffects, effect.paymentId = event.paymentId ∧
        event.effectId = some effect.effectId ∧ effect.startedAt = event.recordedAt ∧
        event.evidenceKind = none ∧ event.evidenceAt = none ∧
        event.proofStateSnapshotFingerprint = none
  | .pending =>
      ∃ effect evidenceAt, EvidenceOf db event effect .operatorPending evidenceAt ∧
        effect.effectKind = .melt ∧ event.proofStateSnapshotFingerprint = none
  | .needsAttention =>
      ∃ effect reason evidenceAt, EvidenceOf db event effect (.attention reason) evidenceAt ∧
        event.proofStateSnapshotFingerprint = none
  | .consumed =>
      ∃ effect evidence evidenceAt, EvidenceOf db event effect (.success evidence) evidenceAt ∧
        ((evidence = .swapSucceeded ∧ effect.effectKind = .swap) ∨
          (evidence = .meltPaid ∧ effect.effectKind = .melt)) ∧
        UniformSnapshot db event evidenceAt .spent
  | .released =>
      (event.effectId = none ∧ event.evidenceKind = some .preDispatch ∧ event.evidenceAt = none ∧
        event.proofStateSnapshotFingerprint = none) ∨
      ∃ effect evidence evidenceAt, EvidenceOf db event effect (.failure evidence) evidenceAt ∧
        ((evidence = .swapRejected ∧ effect.effectKind = .swap) ∨
          (evidence = .meltUnpaidAfterExpiry ∧ effect.effectKind = .melt ∧
            ∀ expiresAt ∈ effect.operatorReferenceExpiresAt, expiresAt ≤ evidenceAt)) ∧
        UniformSnapshot db event evidenceAt .unspent

/-- The lifecycle of a payment: a path of events, the first one a dispatch or a release before it, each
with the evidence of its state, and the dispatch that of the effect of the payment. -/
structure Lifecycle (db : Db) (paymentId : PaymentId) : Prop where
  path : LifecyclePath (db.eventsOf paymentId)
  first : ∀ event ∈ (db.eventsOf paymentId).head?,
    event.state = .dispatchStarted ∨ event.evidenceKind = some .preDispatch
  evidenced : ∀ event ∈ db.eventsOf paymentId, Evidenced db event
  dispatched : ∀ effect ∈ db.effectsOf paymentId, ∃ event ∈ (db.eventsOf paymentId).head?,
    event.state = .dispatchStarted ∧ event.effectId = some effect.effectId ∧
      event.recordedAt = effect.startedAt

/-! ### What a statement leaves -/

/-- The lifecycles and their evidence are only added to. -/
structure Grows (db db' : Db) : Prop where
  effects : ∃ rows, db.cashuOperatorEffects.Appends rows db'.cashuOperatorEffects
  events : ∃ rows, db.cashuProofReservationEvents.Appends rows db'.cashuProofReservationEvents
  observations : ∃ rows, db.cashuProofStateObservations.Appends rows db'.cashuProofStateObservations
  entries : ∃ rows,
    db.cashuProofStateObservationEntries.Appends rows db'.cashuProofStateObservationEntries

namespace Grows

theorem refl (db : Db) : Grows db db :=
  ⟨⟨_, .refl _⟩, ⟨_, .refl _⟩, ⟨_, .refl _⟩, ⟨_, .refl _⟩⟩

theorem trans {db'' : Db} (h : Grows db db') (h' : Grows db' db'') : Grows db db'' := by
  obtain ⟨⟨_, heffects⟩, ⟨_, hevents⟩, ⟨_, hobservations⟩, ⟨_, hentries⟩⟩ := h
  obtain ⟨⟨_, heffects'⟩, ⟨_, hevents'⟩, ⟨_, hobservations'⟩, ⟨_, hentries'⟩⟩ := h'
  exact ⟨⟨_, heffects.trans heffects'⟩, ⟨_, hevents.trans hevents'⟩,
    ⟨_, hobservations.trans hobservations'⟩, ⟨_, hentries.trans hentries'⟩⟩

variable (h : Grows db db')

include h

theorem effect {row : OperatorEffectRow} (hrow : row ∈ db.cashuOperatorEffects) :
    row ∈ db'.cashuOperatorEffects :=
  h.effects.choose_spec.mem_of_mem hrow

theorem event {row : LifecycleEventRow} (hrow : row ∈ db.cashuProofReservationEvents) :
    row ∈ db'.cashuProofReservationEvents :=
  h.events.choose_spec.mem_of_mem hrow

theorem observation {row : ProofStateObservationRow} (hrow : row ∈ db.cashuProofStateObservations) :
    row ∈ db'.cashuProofStateObservations :=
  h.observations.choose_spec.mem_of_mem hrow

theorem entry {row : ProofStateEntryRow} (hrow : row ∈ db.cashuProofStateObservationEntries) :
    row ∈ db'.cashuProofStateObservationEntries :=
  h.entries.choose_spec.mem_of_mem hrow

end Grows

theorem SameLifecycles.grows (h : SameLifecycles db db') : Grows db db' where
  effects := ⟨[], h.effects ▸ .refl _⟩
  events := ⟨[], h.events ▸ .refl _⟩
  observations := ⟨[], h.observations ▸ .refl _⟩
  entries := ⟨[], h.entries ▸ .refl _⟩

/-- What a statement has added to the tables. -/
def WriterStatement.Adds (db db' : Db) : WriterStatement → Prop
  | .effect row =>
      db.cashuOperatorEffects.Appends [row] db'.cashuOperatorEffects ∧
      db'.cashuProofReservationEvents = db.cashuProofReservationEvents ∧
      db'.cashuProofStateObservations = db.cashuProofStateObservations ∧
      db'.cashuProofStateObservationEntries = db.cashuProofStateObservationEntries
  | .event row =>
      EventAdmitted db row ∧
      db'.cashuOperatorEffects = db.cashuOperatorEffects ∧
      db.cashuProofReservationEvents.Appends [row] db'.cashuProofReservationEvents ∧
      db'.cashuProofStateObservations = db.cashuProofStateObservations ∧
      db'.cashuProofStateObservationEntries = db.cashuProofStateObservationEntries
  | .observation row =>
      db'.cashuOperatorEffects = db.cashuOperatorEffects ∧
      db'.cashuProofReservationEvents = db.cashuProofReservationEvents ∧
      db.cashuProofStateObservations.Appends [row] db'.cashuProofStateObservations ∧
      db'.cashuProofStateObservationEntries = db.cashuProofStateObservationEntries
  | .entry row =>
      db'.cashuOperatorEffects = db.cashuOperatorEffects ∧
      db'.cashuProofReservationEvents = db.cashuProofReservationEvents ∧
      db'.cashuProofStateObservations = db.cashuProofStateObservations ∧
      db.cashuProofStateObservationEntries.Appends [row] db'.cashuProofStateObservationEntries
  | .elsewhere _ _ => SameLifecycles db db'

theorem perform_ok {s s' : Session} {statement : WriterStatement} (h : statement.perform s = .ok s') :
    statement.Adds s.db s'.db ∧ (∃ deferred, s'.deferred = s.deferred ++ deferred) ∧
      ∀ row, statement = .effect row → .effectEvent row ∈ s'.deferred := by
  cases statement with
  | effect row =>
    obtain ⟨-, effects, claims, jobs, heffects, -, -, rfl⟩ := insertEffect_ok h
    refine ⟨⟨heffects, rfl, rfl, rfl⟩, ⟨_, rfl⟩, ?_⟩
    intro other hother
    cases hother
    simp
  | event row =>
    obtain ⟨hadmitted, events, hevents, rfl⟩ := insertEventRow_ok h
    exact ⟨⟨hadmitted, rfl, hevents, rfl, rfl⟩, ⟨_, rfl⟩, fun _ hother => by cases hother⟩
  | observation row =>
    obtain ⟨-, observations, hobservations, rfl⟩ := insertProofStateObservation_ok h
    exact ⟨⟨rfl, rfl, hobservations, rfl⟩, ⟨_, rfl⟩, fun _ hother => by cases hother⟩
  | entry row =>
    obtain ⟨entries, hentries, rfl⟩ := insertProofStateEntry_ok h
    exact ⟨⟨rfl, rfl, rfl, hentries⟩, ⟨_, rfl⟩, fun _ hother => by cases hother⟩
  | elsewhere change same =>
    obtain rfl := Except.ok.inj h
    exact ⟨same s.db, ⟨_, rfl⟩, fun _ hother => by cases hother⟩

theorem WriterStatement.Adds.grows {statement : WriterStatement} (h : statement.Adds db db') :
    Grows db db' := by
  cases statement with
  | effect row =>
    obtain ⟨heffects, hevents, hobservations, hentries⟩ := h
    exact ⟨⟨_, heffects⟩, ⟨[], hevents ▸ .refl _⟩, ⟨[], hobservations ▸ .refl _⟩,
      ⟨[], hentries ▸ .refl _⟩⟩
  | event row =>
    obtain ⟨-, heffects, hevents, hobservations, hentries⟩ := h
    exact ⟨⟨[], heffects ▸ .refl _⟩, ⟨_, hevents⟩, ⟨[], hobservations ▸ .refl _⟩,
      ⟨[], hentries ▸ .refl _⟩⟩
  | observation row =>
    obtain ⟨heffects, hevents, hobservations, hentries⟩ := h
    exact ⟨⟨[], heffects ▸ .refl _⟩, ⟨[], hevents ▸ .refl _⟩, ⟨_, hobservations⟩,
      ⟨[], hentries ▸ .refl _⟩⟩
  | entry row =>
    obtain ⟨heffects, hevents, hobservations, hentries⟩ := h
    exact ⟨⟨[], heffects ▸ .refl _⟩, ⟨[], hevents ▸ .refl _⟩, ⟨[], hobservations ▸ .refl _⟩,
      ⟨_, hentries⟩⟩
  | elsewhere _ _ => exact SameLifecycles.grows h

theorem WriterStatement.Adds.nextEvent {statement : WriterStatement} (h : statement.Adds db db') :
    db'.cashuProofReservationEvents = db.cashuProofReservationEvents ∨
      ∃ row, statement = .event row ∧ EventAdmitted db row ∧
        db.cashuProofReservationEvents.Appends [row] db'.cashuProofReservationEvents := by
  cases statement with
  | effect row => exact .inl h.2.1
  | event row => exact .inr ⟨row, rfl, h.1, h.2.2.1⟩
  | observation row => exact .inl h.2.1
  | entry row => exact .inl h.2.1
  | elsewhere _ _ => exact .inl (SameLifecycles.events h)

/-! ### Paths -/

/-- The state that events lead to. -/
def stateReached (state : CashuProofReservationState) (events : List LifecycleEventRow) :
    CashuProofReservationState :=
  (events.getLast?.map (·.state.toReservationState)).getD state

theorem statePath_concat {state : CashuProofReservationState} {events : List LifecycleEventRow}
    {row : LifecycleEventRow} (hpath : StatePath state events)
    (hnext : TransitionAllowed (stateReached state events) row.state) :
    StatePath state (events ++ [row]) := by
  induction events generalizing state with
  | nil => exact ⟨hnext, trivial⟩
  | cons event events ih =>
    obtain ⟨hallowed, hrest⟩ := hpath
    refine ⟨hallowed, ih hrest ?_⟩
    cases events with
    | nil => exact hnext
    | cons other events =>
      rw [stateReached, List.getLast?_cons_cons] at hnext
      have hsome := List.getLast?_eq_some_getLast (List.cons_ne_nil other events)
      rw [stateReached]
      rw [hsome] at hnext ⊢
      exact hnext

theorem transitionAllowed_of_successor {previous row : LifecycleEventRow}
    (h : ValidSuccessor previous row) :
    TransitionAllowed previous.state.toReservationState row.state := by
  have hactive : previous.state.toReservationState.Active := by
    have hopen := h.notTerminal
    cases hstate : previous.state <;> rw [hstate] at hopen <;> revert hopen <;> decide
  exact .inr ⟨hactive, h.notDispatch⟩

theorem lifecyclePath_nil : LifecyclePath [] where
  states := trivial
  sequence := rfl
  recorded := List.Pairwise.nil
  oneEffect := fun _ h => absurd h List.not_mem_nil

/-- A valid next event prolongs the path. -/
theorem LifecyclePath.concat {events : List LifecycleEventRow} (h : LifecyclePath events)
    {row : LifecycleEventRow} (hsuccessor : ∀ previous ∈ events.getLast?, ValidSuccessor previous row)
    (hfirst : events.getLast? = none → ValidFirst row) : LifecyclePath (events ++ [row]) := by
  rcases events.eq_nil_or_concat' with rfl | ⟨init, last, rfl⟩
  · obtain ⟨hsequence, hstate, -⟩ := hfirst rfl
    constructor
    case states => exact ⟨.inl ⟨rfl, hstate⟩, trivial⟩
    case sequence => simp [hsequence]
    case recorded => exact List.pairwise_singleton _ _
    case oneEffect =>
      intro event hevent other hother
      rw [List.nil_append, List.mem_singleton] at hevent hother
      rw [hevent, hother]
  · have hlast : (init ++ [last]).getLast? = some last := List.getLast?_concat
    have hnext : ValidSuccessor last row := hsuccessor last hlast
    constructor
    case states =>
      apply statePath_concat h.states
      rw [stateReached, hlast]
      exact transitionAllowed_of_successor hnext
    case sequence =>
      have hsequences := h.sequence
      rw [List.map_append, List.length_append, List.length_singleton, List.range_succ] at hsequences
      obtain ⟨-, hnumber⟩ := List.append_inj' hsequences rfl
      have hlength : last.sequence = init.length := by simpa using hnumber
      have hconcat : (init ++ [last] ++ [row]).length = (init ++ [last]).length + 1 :=
        List.length_append
      rw [List.map_append, h.sequence, hconcat, List.range_succ]
      simp [hnext.sequence, hlength]
    case recorded =>
      have hbefore := h.recorded
      rw [List.pairwise_append] at hbefore ⊢
      refine ⟨h.recorded, List.pairwise_singleton _ _, ?_⟩
      intro event hevent later hlater
      rw [List.mem_singleton.mp hlater]
      rcases List.mem_append.mp hevent with hevent | hevent
      · have hle := hbefore.2.2 event hevent last (List.mem_singleton_self _)
        exact Nat.le_trans hle hnext.recorded
      · rw [List.mem_singleton.mp hevent]
        exact hnext.recorded
    case oneEffect =>
      have hmem : last ∈ init ++ [last] := List.mem_append_right _ (List.mem_singleton_self _)
      have hsame : ∀ event ∈ init ++ [last] ++ [row], event.effectId = last.effectId := by
        intro event hevent
        rcases List.mem_append.mp hevent with hevent | hevent
        · exact h.oneEffect event hevent last hmem
        · rw [List.mem_singleton.mp hevent]
          exact hnext.effectId
      intro event hevent other hother
      rw [hsame event hevent, hsame other hother]

theorem LifecyclePath.head_of_sequence {events : List LifecycleEventRow} (h : LifecyclePath events)
    {event : LifecycleEventRow} (hevent : event ∈ events) (hzero : event.sequence = 0) :
    events.head? = some event := by
  cases events with
  | nil => cases hevent
  | cons head tail =>
    have hsequences := h.sequence
    rw [List.map_cons, List.length_cons, List.range_succ_eq_map] at hsequences
    obtain ⟨-, htail⟩ := List.cons.inj hsequences
    rcases List.mem_cons.mp hevent with rfl | hmem
    · rfl
    · have hnumber : event.sequence ∈ (List.range tail.length).map Nat.succ := by
        rw [← htail]
        exact List.mem_map_of_mem hmem
      obtain ⟨number, -, hsucc⟩ := List.mem_map.mp hnumber
      omega

/-! ### Evidence -/

/-- An event that is no dispatch has a kind of evidence. -/
def HasKind (event : LifecycleEventRow) : Prop :=
  event.state ≠ .dispatchStarted → event.evidenceKind.isSome

/-- The entries of the snapshot that an event cites are of the state it demands. -/
def Uniform (db : Db) (event : LifecycleEventRow) : Prop :=
  ∀ entry ∈ db.cashuProofStateObservationEntries,
    event.proofStateSnapshotFingerprint = some entry.snapshotFingerprint →
      entry.state = event.state.requiredProofState

theorem UniformSnapshot.uniform {event : LifecycleEventRow} {evidenceAt : UnixTimestamp}
    (h : UniformSnapshot db event evidenceAt event.state.requiredProofState) : Uniform db event := by
  obtain ⟨observation, -, hcited, -, -, -, -, huniform⟩ := h
  intro entry hentry hfingerprint
  apply huniform entry hentry
  exact Option.some.inj (hfingerprint.symm.trans hcited)

theorem Evidenced.hasKind {event : LifecycleEventRow} (h : Evidenced db event) : HasKind event := by
  intro hstate
  unfold Evidenced at h
  split at h
  · case h_1 hdispatch => exact absurd hdispatch hstate
  · obtain ⟨effect, evidenceAt, hevidence, -⟩ := h
    rw [hevidence.kind]
    rfl
  · obtain ⟨effect, reason, evidenceAt, hevidence, -⟩ := h
    rw [hevidence.kind]
    rfl
  · obtain ⟨effect, evidence, evidenceAt, hevidence, -⟩ := h
    rw [hevidence.kind]
    rfl
  · rcases h with ⟨-, hkind, -⟩ | ⟨effect, evidence, evidenceAt, hevidence, -⟩
    · rw [hkind]
      rfl
    · rw [hevidence.kind]
      rfl

theorem Evidenced.uniform {event : LifecycleEventRow} (h : Evidenced db event) : Uniform db event := by
  have hnone : event.proofStateSnapshotFingerprint = none → Uniform db event := by
    intro hnone entry _ hfingerprint
    rw [hnone] at hfingerprint
    cases hfingerprint
  unfold Evidenced at h
  split at h
  · obtain ⟨effect, -, -, -, -, -, -, hsnapshot⟩ := h
    exact hnone hsnapshot
  · obtain ⟨effect, evidenceAt, -, -, hsnapshot⟩ := h
    exact hnone hsnapshot
  · obtain ⟨effect, reason, evidenceAt, -, hsnapshot⟩ := h
    exact hnone hsnapshot
  · case h_4 hstate =>
    obtain ⟨effect, evidence, evidenceAt, -, -, hsnapshot⟩ := h
    have hcited : UniformSnapshot db event evidenceAt event.state.requiredProofState := by
      rw [hstate]
      exact hsnapshot
    exact hcited.uniform
  · case h_5 hstate =>
    rcases h with ⟨-, -, -, hsnapshot⟩ | ⟨effect, evidence, evidenceAt, -, -, hsnapshot⟩
    · exact hnone hsnapshot
    · have hcited : UniformSnapshot db event evidenceAt event.state.requiredProofState := by
        rw [hstate]
        exact hsnapshot
      exact hcited.uniform

theorem EvidenceOf.grow {event : LifecycleEventRow} {effect : OperatorEffectRow} {kind : EvidenceKind}
    {evidenceAt : UnixTimestamp} (h : EvidenceOf db event effect kind evidenceAt)
    (hgrows : Grows db db') : EvidenceOf db' event effect kind evidenceAt :=
  { h with stored := hgrows.effect h.stored }

theorem UniformSnapshot.grow {event : LifecycleEventRow} {evidenceAt : UnixTimestamp}
    {state : CashuProofStateValue} (h : UniformSnapshot db event evidenceAt state)
    (hstate : event.state.requiredProofState = state) (hgrows : Grows db db')
    (huniform : Uniform db' event) : UniformSnapshot db' event evidenceAt state := by
  obtain ⟨observation, hobservation, hcited, hpayment, hafter, hbefore, ⟨entry, hentry, hof⟩, -⟩ := h
  refine ⟨observation, hgrows.observation hobservation, hcited, hpayment, hafter, hbefore,
    ⟨entry, hgrows.entry hentry, hof⟩, ?_⟩
  intro other hother hfingerprint
  rw [← hstate]
  apply huniform other hother
  rw [hfingerprint]
  exact hcited

/-- The evidence of an event stays, as long as the entries of its snapshot stay uniform. -/
theorem Evidenced.grow {event : LifecycleEventRow} (h : Evidenced db event) (hgrows : Grows db db')
    (huniform : Uniform db' event) : Evidenced db' event := by
  unfold Evidenced at h ⊢
  split at h
  · obtain ⟨effect, heffect, hrest⟩ := h
    exact ⟨effect, hgrows.effect heffect, hrest⟩
  · obtain ⟨effect, evidenceAt, hevidence, hrest⟩ := h
    exact ⟨effect, evidenceAt, hevidence.grow hgrows, hrest⟩
  · obtain ⟨effect, reason, evidenceAt, hevidence, hrest⟩ := h
    exact ⟨effect, reason, evidenceAt, hevidence.grow hgrows, hrest⟩
  · case h_4 hstate =>
    obtain ⟨effect, evidence, evidenceAt, hevidence, hkind, hsnapshot⟩ := h
    exact ⟨effect, evidence, evidenceAt, hevidence.grow hgrows, hkind,
      hsnapshot.grow (by rw [hstate]; rfl) hgrows huniform⟩
  · case h_5 hstate =>
    rcases h with hrelease | ⟨effect, evidence, evidenceAt, hevidence, hkind, hsnapshot⟩
    · exact .inl hrelease
    · exact .inr ⟨effect, evidence, evidenceAt, hevidence.grow hgrows, hkind,
        hsnapshot.grow (by rw [hstate]; rfl) hgrows huniform⟩

/-! ### The evidence of an event that is inserted -/

section Admitted

variable {row : LifecycleEventRow}

theorem EventAdmitted.evidenceOf (h : EventAdmitted db row) (heffect : row.effectId.isSome)
    {kind : EvidenceKind} (hkind : row.evidenceKind = some kind) (hdated : row.evidenceAt.isSome) :
    ∃ effect evidenceAt, EvidenceOf db row effect kind evidenceAt ∧ EvidenceFitsEffect row effect := by
  obtain ⟨reservation, -, hvalid⟩ := h.valid
  obtain ⟨effectId, hid⟩ := Option.isSome_iff_exists.mp heffect
  obtain ⟨evidenceAt, hat⟩ := Option.isSome_iff_exists.mp hdated
  obtain ⟨effect, hfound, hevent⟩ := hvalid.effect effectId hid
  obtain ⟨hmem, heffectId, hpayment⟩ := Table.find_some hfound
  have hrecorded : evidenceAt ≤ row.recordedAt := h.checks.2.2.1 evidenceAt hat
  refine ⟨effect, evidenceAt, ?_, hevent.evidence⟩
  exact {
    stored := hmem
    paymentId := hpayment
    effectId := by rw [hid, heffectId]
    kind := hkind
    dated := hat
    started := hevent.evidenceTime evidenceAt hat
    recorded := hrecorded }

theorem EventAdmitted.uniformSnapshot (h : EventAdmitted db row)
    (hcited : row.proofStateSnapshotFingerprint.isSome) {evidenceAt : UnixTimestamp}
    (hat : row.evidenceAt = some evidenceAt) :
    UniformSnapshot db row evidenceAt row.state.requiredProofState := by
  obtain ⟨reservation, -, hvalid⟩ := h.valid
  obtain ⟨fingerprint, hfingerprint⟩ := Option.isSome_iff_exists.mp hcited
  obtain ⟨observation, hfound, hsnapshot⟩ := hvalid.snapshot fingerprint hfingerprint
  obtain ⟨hmem, hof, hpayment⟩ := Table.find_some hfound
  have hentries : ∀ entry, entry ∈ db.proofStateEntriesOf observation.snapshotFingerprint ↔
      entry ∈ db.cashuProofStateObservationEntries ∧
        entry.snapshotFingerprint = observation.snapshotFingerprint := by
    intro entry
    rw [Db.proofStateEntriesOf, mem_orderBy, Table.mem_select]
  refine ⟨observation, hmem, by rw [hfingerprint, hof], hpayment,
    hsnapshot.afterEvidence evidenceAt hat, hsnapshot.beforeRecord, ?_, ?_⟩
  · obtain ⟨entry, hentry⟩ := List.exists_mem_of_ne_nil _ hsnapshot.entries
    exact ⟨entry, (hentries entry).mp hentry⟩
  · intro entry hentry hsame
    exact hsnapshot.uniform entry ((hentries entry).mpr ⟨hentry, hsame⟩)

/-- An event that is let in, and has a kind of evidence unless it is a dispatch, shows the evidence of
its state: one case for each disjunct of the shape. -/
theorem EventAdmitted.evidenced (h : EventAdmitted db row) (hkind : HasKind row) :
    Evidenced db row := by
  have hkinds : row.state ≠ .dispatchStarted → ∃ kind, row.evidenceKind = some kind := fun hstate =>
    Option.isSome_iff_exists.mp (hkind hstate)
  rcases h.checks.2.2.2.1 with ⟨hstate, heffect, hnone, hundated, huncited⟩ |
    ⟨hstate, heffect, hshape, hdated, huncited⟩ | ⟨hstate, heffect, hshape, hdated, huncited⟩ |
    ⟨hstate, heffect, hshape, hdated, hcited⟩ | ⟨hstate, heffect, hshape, hundated, huncited⟩ |
    ⟨hstate, heffect, hshape, hdated, hcited⟩
  · obtain ⟨reservation, -, hvalid⟩ := h.valid
    obtain ⟨effectId, hid⟩ := Option.isSome_iff_exists.mp heffect
    obtain ⟨effect, hfound, hevent⟩ := hvalid.effect effectId hid
    obtain ⟨hmem, heffectId, hpayment⟩ := Table.find_some hfound
    obtain ⟨invoice, -, hdispatch⟩ := hevent.dispatch hstate
    simp only [Evidenced, hstate]
    exact ⟨effect, hmem, hpayment, by rw [hid, heffectId], hdispatch.recorded, hnone, hundated, huncited⟩
  · obtain ⟨kind, hsome⟩ := hkinds (by rw [hstate]; decide)
    obtain rfl := hshape kind hsome
    obtain ⟨effect, evidenceAt, hevidence, hfits⟩ := h.evidenceOf heffect hsome hdated
    simp only [Evidenced, hstate]
    exact ⟨effect, evidenceAt, hevidence, (hfits _ hsome).2.2.2.2 rfl, huncited⟩
  · obtain ⟨kind, hsome⟩ := hkinds (by rw [hstate]; decide)
    have hreason : ∃ reason, kind = .attention reason := by
      rcases hshape kind hsome with hkind | hkind | hkind <;> exact ⟨_, hkind⟩
    obtain ⟨reason, rfl⟩ := hreason
    obtain ⟨effect, evidenceAt, hevidence, -⟩ := h.evidenceOf heffect hsome hdated
    simp only [Evidenced, hstate]
    exact ⟨effect, reason, evidenceAt, hevidence, huncited⟩
  · obtain ⟨kind, hsome⟩ := hkinds (by rw [hstate]; decide)
    obtain ⟨effect, evidenceAt, hevidence, hfits⟩ := h.evidenceOf heffect hsome hdated
    have hsnapshot := h.uniformSnapshot hcited hevidence.dated
    simp only [Evidenced, hstate] at hsnapshot ⊢
    rcases hshape kind hsome with rfl | rfl
    · exact ⟨effect, _, evidenceAt, hevidence, .inl ⟨rfl, (hfits _ hsome).1 rfl⟩, hsnapshot⟩
    · exact ⟨effect, _, evidenceAt, hevidence, .inr ⟨rfl, (hfits _ hsome).2.1 rfl⟩, hsnapshot⟩
  · obtain ⟨kind, hsome⟩ := hkinds (by rw [hstate]; decide)
    obtain rfl := hshape kind hsome
    simp only [Evidenced, hstate]
    exact .inl ⟨heffect, hsome, hundated, huncited⟩
  · obtain ⟨kind, hsome⟩ := hkinds (by rw [hstate]; decide)
    obtain ⟨effect, evidenceAt, hevidence, hfits⟩ := h.evidenceOf heffect hsome hdated
    have hsnapshot := h.uniformSnapshot hcited hevidence.dated
    simp only [Evidenced, hstate] at hsnapshot ⊢
    rcases hshape kind hsome with rfl | rfl
    · exact .inr ⟨effect, _, evidenceAt, hevidence, .inl ⟨rfl, (hfits _ hsome).2.2.1 rfl⟩, hsnapshot⟩
    · obtain ⟨hmelt, hexpiry⟩ := (hfits _ hsome).2.2.2.1 rfl
      exact .inr ⟨effect, _, evidenceAt, hevidence,
        .inr ⟨rfl, hmelt, hexpiry evidenceAt hevidence.dated⟩, hsnapshot⟩

end Admitted

/-! ### What the statements keep -/

/-- What a writer has to see to: that an event other than a dispatch names its kind of evidence, and that
an entry added to a snapshot which an event cites is of the state that the event demands. -/
def WriterStatement.Sound (db : Db) : WriterStatement → Prop
  | .event row => HasKind row
  | .entry row => ∀ event ∈ db.cashuProofReservationEvents,
      event.proofStateSnapshotFingerprint = some row.snapshotFingerprint →
        row.state = event.state.requiredProofState
  | _ => True

def Paths (db : Db) : Prop :=
  ∀ paymentId, LifecyclePath (db.eventsOf paymentId)

/-- The events show their evidence, the first of each payment that of a beginning. -/
structure Shown (db : Db) : Prop where
  first : ∀ paymentId, ∀ event ∈ (db.eventsOf paymentId).head?,
    event.state = .dispatchStarted ∨ event.evidenceKind = some .preDispatch
  evidenced : ∀ event ∈ db.cashuProofReservationEvents, Evidenced db event

theorem getLast_eventsOf (db : Db) (paymentId : PaymentId) :
    (db.eventsOf paymentId).getLast? = db.latestEvent paymentId :=
  rfl

theorem eventsOf_congr (h : db'.cashuProofReservationEvents = db.cashuProofReservationEvents)
    (paymentId : PaymentId) : db'.eventsOf paymentId = db.eventsOf paymentId := by
  rw [Db.eventsOf, Db.eventsOf, h]

variable {statement : WriterStatement}

theorem Paths.adds (hpaths : Paths db) (h : statement.Adds db db') : Paths db' := by
  intro paymentId
  rcases h.nextEvent with hsame | ⟨row, -, hadmitted, hevents⟩
  · rw [eventsOf_congr hsame]
    exact hpaths paymentId
  · by_cases hpayment : row.paymentId = paymentId
    · subst hpayment
      rw [eventsOf_append_self hadmitted.nextEvent hevents]
      exact (hpaths row.paymentId).concat hadmitted.nextEvent.successor hadmitted.nextEvent.first
    · rw [eventsOf_append_of_ne hevents hpayment]
      exact hpaths paymentId

theorem first_of_adds (hshown : Shown db) (hsound : statement.Sound db) (h : statement.Adds db db')
    (paymentId : PaymentId) : ∀ event ∈ (db'.eventsOf paymentId).head?,
      event.state = .dispatchStarted ∨ event.evidenceKind = some .preDispatch := by
  rcases h.nextEvent with hsame | ⟨row, rfl, hadmitted, hevents⟩
  · rw [eventsOf_congr hsame]
    exact hshown.first paymentId
  · by_cases hpayment : row.paymentId = paymentId
    · subst hpayment
      rw [eventsOf_append_self hadmitted.nextEvent hevents]
      cases hbefore : db.eventsOf row.paymentId with
      | cons head tail =>
        have hfirst := hshown.first row.paymentId
        rw [hbefore] at hfirst
        exact hfirst
      | nil =>
        intro event hevent
        obtain rfl : row = event := Option.some.inj hevent
        have hnone : db.latestEvent row.paymentId = none := by
          rw [← getLast_eventsOf, hbefore]
          rfl
        obtain ⟨-, hstate, hpreDispatch⟩ := hadmitted.nextEvent.first hnone
        rcases hstate with hdispatch | hreleased
        · exact .inl hdispatch
        · obtain ⟨kind, hkind⟩ :=
            Option.isSome_iff_exists.mp (hsound (by rw [hreleased]; decide))
          rw [hkind, hpreDispatch hreleased kind hkind]
          exact .inr rfl
    · rw [eventsOf_append_of_ne hevents hpayment]
      exact hshown.first paymentId

/-- A sound statement leaves the snapshots uniform that the stored events cite. -/
theorem uniform_of_adds (hshown : Shown db) (hsound : statement.Sound db) (h : statement.Adds db db')
    {event : LifecycleEventRow} (hevent : event ∈ db.cashuProofReservationEvents) :
    Uniform db' event := by
  have hbefore : Uniform db event := (hshown.evidenced event hevent).uniform
  have hsame : db'.cashuProofStateObservationEntries = db.cashuProofStateObservationEntries →
      Uniform db' event := by
    intro hsame
    rw [Uniform, hsame]
    exact hbefore
  cases statement with
  | effect row => exact hsame h.2.2.2
  | event row => exact hsame h.2.2.2.2
  | observation row => exact hsame h.2.2.2
  | entry row =>
    intro entry hentry hcited
    rcases h.2.2.2.mem.mp hentry with hold | hnew
    · exact hbefore entry hold hcited
    · rw [List.mem_singleton.mp hnew] at hcited ⊢
      exact hsound event hevent hcited
  | elsewhere _ _ => exact hsame (SameLifecycles.entries h)

theorem Shown.adds (hshown : Shown db) (hsound : statement.Sound db) (h : statement.Adds db db') :
    Shown db' where
  first := first_of_adds hshown hsound h
  evidenced := by
    intro event hevent
    have hstored : event ∈ db.cashuProofReservationEvents → Evidenced db' event := fun hold =>
      (hshown.evidenced event hold).grow h.grows (uniform_of_adds hshown hsound h hold)
    rcases h.nextEvent with hsame | ⟨row, rfl, hadmitted, hevents⟩
    · rw [hsame] at hevent
      exact hstored hevent
    · rcases hevents.mem.mp hevent with hold | hnew
      · exact hstored hold
      · rw [List.mem_singleton.mp hnew]
        have hevidenced : Evidenced db row := hadmitted.evidenced hsound
        have hentries : db'.cashuProofStateObservationEntries = db.cashuProofStateObservationEntries :=
          h.2.2.2.2
        have huniform : Uniform db' row := by
          rw [Uniform, hentries]
          exact hevidenced.uniform
        exact hevidenced.grow h.grows huniform

/-! ### Transactions that commit -/

/-- The statements of a transaction are sound, each where it runs. -/
def SoundFrom : Session → Transaction → Prop
  | _, [] => True
  | s, statement :: statements =>
      statement.Sound s.db ∧ ∀ s', statement.perform s = .ok s' → SoundFrom s' statements

/-- The effects that a transaction adds have their dispatch checked at the commit. -/
def DispatchDeferred (db : Db) (s : Session) : Prop :=
  ∀ effect ∈ s.db.cashuOperatorEffects,
    effect ∈ db.cashuOperatorEffects ∨ .effectEvent effect ∈ s.deferred

/-- Every effect has its dispatch event. -/
def EffectsDispatched (db : Db) : Prop :=
  ∀ effect ∈ db.cashuOperatorEffects, db.Satisfies (.effectEvent effect)

section PerformAll

variable {s s' : Session} {statements : Transaction}

theorem performAll_cons : performAll s (statement :: statements) = .ok s' ↔
    ∃ between, statement.perform s = .ok between ∧ performAll between statements = .ok s' := by
  rw [performAll, List.foldlM_cons, bind_eq_ok]
  rfl

theorem performAll_grows (h : performAll s statements = .ok s') : Grows s.db s'.db := by
  induction statements generalizing s with
  | nil =>
    obtain rfl := Except.ok.inj h
    exact .refl _
  | cons statement statements ih =>
    obtain ⟨between, hfirst, hrest⟩ := performAll_cons.mp h
    exact (perform_ok hfirst).1.grows.trans (ih hrest)

theorem performAll_paths (h : performAll s statements = .ok s') (hpaths : Paths s.db) :
    Paths s'.db := by
  induction statements generalizing s with
  | nil =>
    obtain rfl := Except.ok.inj h
    exact hpaths
  | cons statement statements ih =>
    obtain ⟨between, hfirst, hrest⟩ := performAll_cons.mp h
    exact ih hrest (hpaths.adds (perform_ok hfirst).1)

theorem performAll_shown (h : performAll s statements = .ok s') (hshown : Shown s.db)
    (hsound : SoundFrom s statements) : Shown s'.db := by
  induction statements generalizing s with
  | nil =>
    obtain rfl := Except.ok.inj h
    exact hshown
  | cons statement statements ih =>
    obtain ⟨between, hfirst, hrest⟩ := performAll_cons.mp h
    exact ih hrest (hshown.adds hsound.1 (perform_ok hfirst).1) (hsound.2 between hfirst)

theorem WriterStatement.Adds.deferred {db : Db} (h : statement.perform s = .ok s')
    (hdeferred : DispatchDeferred db s) : DispatchDeferred db s' := by
  obtain ⟨hadds, ⟨more, hmore⟩, hdispatch⟩ := perform_ok h
  have hkept : ∀ effect ∈ s.db.cashuOperatorEffects,
      effect ∈ db.cashuOperatorEffects ∨ .effectEvent effect ∈ s'.deferred := by
    intro effect heffect
    rw [hmore]
    exact (hdeferred effect heffect).imp_right (List.mem_append_left _)
  intro effect heffect
  cases statement with
  | effect row =>
    rcases hadds.1.mem.mp heffect with hold | hnew
    · exact hkept effect hold
    · rw [List.mem_singleton.mp hnew]
      exact .inr (hdispatch row rfl)
  | event row =>
    rw [hadds.2.1] at heffect
    exact hkept effect heffect
  | observation row =>
    rw [hadds.1] at heffect
    exact hkept effect heffect
  | entry row =>
    rw [hadds.1] at heffect
    exact hkept effect heffect
  | elsewhere _ _ =>
    rw [SameLifecycles.effects hadds] at heffect
    exact hkept effect heffect

theorem performAll_deferred {db : Db} (h : performAll s statements = .ok s')
    (hdeferred : DispatchDeferred db s) : DispatchDeferred db s' := by
  induction statements generalizing s with
  | nil =>
    obtain rfl := Except.ok.inj h
    exact hdeferred
  | cons statement statements ih =>
    obtain ⟨between, hfirst, hrest⟩ := performAll_cons.mp h
    exact ih hrest (WriterStatement.Adds.deferred hfirst hdeferred)

/-- Statements whose rows end up among shown ones were sound: the rows stay, so what they lack would
show. -/
theorem soundFrom_of_shown {last : Db} (h : performAll s statements = .ok s')
    (hgrows : Grows s'.db last) (hshown : Shown last) : SoundFrom s statements := by
  induction statements generalizing s with
  | nil => trivial
  | cons statement statements ih =>
    obtain ⟨between, hfirst, hrest⟩ := performAll_cons.mp h
    have hafter : Grows between.db last := (performAll_grows hrest).trans hgrows
    constructor
    · have hadds := (perform_ok hfirst).1
      cases statement with
      | event row =>
        have hmem := hafter.event (hadds.2.2.1.mem.mpr (.inr (List.mem_singleton_self row)))
        exact (hshown.evidenced row hmem).hasKind
      | entry row =>
        intro event hevent hcited
        have hentry := hafter.entry (hadds.2.2.2.mem.mpr (.inr (List.mem_singleton_self row)))
        have hstored := (hadds.grows.trans hafter).event hevent
        exact (hshown.evidenced event hstored).uniform row hentry hcited
      | effect row => trivial
      | observation row => trivial
      | elsewhere _ _ => trivial
    · intro other hother
      obtain rfl : between = other := Except.ok.inj (hfirst.symm.trans hother)
      exact ih hrest

end PerformAll

theorem EffectsDispatched.grow {effect : OperatorEffectRow} (h : db.Satisfies (.effectEvent effect))
    (hgrows : Grows db db') : db'.Satisfies (.effectEvent effect) := by
  obtain ⟨event, hevent, hrest⟩ := h
  exact ⟨event, hgrows.event hevent, hrest⟩

theorem commit_effectsDispatched {transaction : Transaction} (h : transaction.commit db = .ok db')
    (hdispatched : EffectsDispatched db) : EffectsDispatched db' := by
  simp only [Transaction.commit, bind_eq_ok, Session.commit_eq_ok] at h
  obtain ⟨s, hperform, hdeferred, rfl⟩ := h
  intro effect heffect
  have hbegun : DispatchDeferred db ⟨db, []⟩ := fun _ hold => .inl hold
  rcases performAll_deferred hperform hbegun effect heffect with hold | hnew
  · exact EffectsDispatched.grow (hdispatched effect hold) (performAll_grows hperform)
  · exact hdeferred _ hnew

/-! ### Runs -/

/-- The transactions that commit are sound. -/
def RunSound : Db → List Transaction → Prop
  | _, [] => True
  | db, transaction :: transactions =>
      ((∃ after, transaction.commit db = .ok after) → SoundFrom ⟨db, []⟩ transaction) ∧
        RunSound (Transaction.after db transaction) transactions

theorem after_cases (db : Db) (transaction : Transaction) :
    (∃ s, performAll ⟨db, []⟩ transaction = .ok s ∧
      transaction.commit db = .ok (Transaction.after db transaction) ∧
      Transaction.after db transaction = s.db) ∨
    ((∀ after, transaction.commit db ≠ .ok after) ∧ Transaction.after db transaction = db) := by
  unfold Transaction.after
  cases hcommit : transaction.commit db with
  | error error => exact .inr ⟨fun _ h => by (cases h), rfl⟩
  | ok after =>
    have hdone := hcommit
    simp only [Transaction.commit, bind_eq_ok, Session.commit_eq_ok] at hdone
    obtain ⟨s, hperform, -, rfl⟩ := hdone
    exact .inl ⟨s, hperform, rfl, rfl⟩

theorem run_grows (db : Db) (transactions : List Transaction) : Grows db (writersRun db transactions) := by
  induction transactions generalizing db with
  | nil => exact .refl db
  | cons transaction transactions ih =>
    have hrest := ih (Transaction.after db transaction)
    rcases after_cases db transaction with ⟨s, hperform, -, hafter⟩ | ⟨-, hafter⟩
    · rw [hafter] at hrest
      have hrun : writersRun db (transaction :: transactions) = writersRun s.db transactions := by
        rw [← hafter]
        rfl
      rw [hrun]
      exact (performAll_grows hperform).trans hrest
    · rw [hafter] at hrest
      have hrun : writersRun db (transaction :: transactions) = writersRun db transactions := by
        rw [writersRun, List.foldl_cons, hafter]
        rfl
      rw [hrun]
      exact hrest

/-- Without any condition the paths hold, and every effect has its dispatch. -/
theorem run_paths {transactions : List Transaction} (hpaths : Paths db)
    (hdispatched : EffectsDispatched db) :
    Paths (writersRun db transactions) ∧ EffectsDispatched (writersRun db transactions) := by
  induction transactions generalizing db with
  | nil => exact ⟨hpaths, hdispatched⟩
  | cons transaction transactions ih =>
    show Paths (writersRun (Transaction.after db transaction) transactions) ∧
      EffectsDispatched (writersRun (Transaction.after db transaction) transactions)
    apply ih
    · rcases after_cases db transaction with ⟨s, hperform, -, hafter⟩ | ⟨-, hafter⟩
      · rw [hafter]
        exact performAll_paths hperform hpaths
      · rw [hafter]
        exact hpaths
    · rcases after_cases db transaction with ⟨s, -, hcommit, -⟩ | ⟨-, hafter⟩
      · exact commit_effectsDispatched hcommit hdispatched
      · rw [hafter]
        exact hdispatched

/-- The events show their evidence exactly when the transactions that commit were sound. -/
theorem run_shown_iff {transactions : List Transaction} (hshown : Shown db) :
    Shown (writersRun db transactions) ↔ RunSound db transactions := by
  induction transactions generalizing db with
  | nil => exact iff_of_true hshown trivial
  | cons transaction transactions ih =>
    show Shown (writersRun (Transaction.after db transaction) transactions) ↔ _ ∧ _
    rcases after_cases db transaction with ⟨s, hperform, hcommit, hafter⟩ | ⟨hrefused, hafter⟩
    · constructor
      · intro h
        have hsound : SoundFrom ⟨db, []⟩ transaction := by
          apply soundFrom_of_shown hperform _ h
          rw [← hafter]
          exact run_grows _ _
        have hbetween : Shown (Transaction.after db transaction) := by
          rw [hafter]
          exact performAll_shown hperform hshown hsound
        exact ⟨fun _ => hsound, (ih hbetween).mp h⟩
      · intro h
        have hbetween : Shown (Transaction.after db transaction) := by
          rw [hafter]
          exact performAll_shown hperform hshown (h.1 ⟨_, hcommit⟩)
        exact (ih hbetween).mpr h.2
    · rw [hafter, ih hshown]
      constructor
      · intro h
        exact ⟨fun hdone => absurd hdone.choose_spec (hrefused _), h⟩
      · intro h
        exact h.2

theorem lifecycle_iff_shown (hpaths : Paths db) (hdispatched : EffectsDispatched db) :
    (∀ paymentId, Lifecycle db paymentId) ↔ Shown db := by
  have hmem : ∀ paymentId event, event ∈ db.eventsOf paymentId ↔
      event ∈ db.cashuProofReservationEvents ∧ event.paymentId = paymentId := by
    intro paymentId event
    rw [Db.eventsOf, mem_orderBy, Table.mem_select]
  constructor
  · intro h
    constructor
    case first => exact fun paymentId => (h paymentId).first
    case evidenced =>
      intro event hevent
      exact (h event.paymentId).evidenced event ((hmem _ _).mpr ⟨hevent, rfl⟩)
  · intro h paymentId
    constructor
    case path => exact hpaths paymentId
    case first => exact h.first paymentId
    case evidenced =>
      intro event hevent
      exact h.evidenced event ((hmem _ _).mp hevent).1
    case dispatched =>
      intro effect heffect
      obtain ⟨hstored, hpayment⟩ := Table.mem_select.mp heffect
      obtain ⟨event, hevent, heventPayment, hzero, hstate, hid, hrecorded⟩ := hdispatched effect hstored
      have hof : event ∈ db.eventsOf paymentId :=
        (hmem _ _).mpr ⟨hevent, heventPayment.trans hpayment⟩
      exact ⟨event, (hpaths paymentId).head_of_sequence hof hzero, hstate, hid, hrecorded⟩

/-- Whatever the writers of the lifecycle tables do, the lifecycles hold in the rows they leave exactly
when every event other than a dispatch that they commit has a kind of evidence, and no entry that they
commit to a snapshot which an event cites differs from the state that the event demands. -/
theorem lifecycle_of_writers (transactions : List Transaction) :
    (∀ paymentId, Lifecycle (writersRun Db.empty transactions) paymentId) ↔
      RunSound Db.empty transactions := by
  have hpaths : Paths Db.empty := fun _ => lifecyclePath_nil
  have hdispatched : EffectsDispatched Db.empty := fun _ h => absurd h Table.not_mem_empty
  have hshown : Shown Db.empty := by
    constructor
    case first =>
      intro paymentId event hevent
      cases hevent
    case evidenced => exact fun _ h => absurd h Table.not_mem_empty
  have hkept : Paths (writersRun Db.empty transactions) ∧
      EffectsDispatched (writersRun Db.empty transactions) := run_paths hpaths hdispatched
  rw [lifecycle_iff_shown hkept.1 hkept.2, run_shown_iff hshown]

/-! ### A pending event without a kind of evidence -/

namespace WriterSample

/-- The rows before a dispatch, as the repositories leave them. -/
def taken : Db :=
  Sample.intake.foldl Operation.perform Db.empty

theorem reachable_taken : Reachable taken :=
  run_foldl _ _

/-- The rows of an intake, with the lifecycles and their evidence left as they are. -/
def withIntake (intake db : Db) : Db :=
  { intake with
    cashuOperatorEffects := db.cashuOperatorEffects
    cashuProofReservationEvents := db.cashuProofReservationEvents
    cashuProofStateObservations := db.cashuProofStateObservations
    cashuProofStateObservationEntries := db.cashuProofStateObservationEntries }

theorem sameLifecycles_withIntake (intake db : Db) : SameLifecycles db (withIntake intake db) :=
  ⟨rfl, rfl, rfl, rfl⟩

def effectId : CashuOperatorEffectId := .given ⟨"swap-1", by decide⟩

/-- A swap of the proof. -/
def effectRow : OperatorEffectRow where
  effectId
  effectFingerprint := {
    effect := {
      dispatchFingerprint := ⟨Sample.mintUrl, Sample.quoteId, Sample.bundle.inputs⟩
      effectId
      startedAt := 1010
      terms := .swap }
    invoiceId := Sample.invoice.id
    mintUrl := Sample.mintUrl
    operatorId := Sample.operatorId
    paymentId := Sample.paymentId }
  dispatchFingerprint := ⟨Sample.mintUrl, Sample.quoteId, Sample.bundle.inputs⟩
  paymentId := Sample.paymentId
  invoiceId := Sample.invoice.id
  operatorId := Sample.operatorId
  mintUrl := Sample.mintUrl
  effectKind := .swap
  operatorReference := none
  operatorReferenceExpiresAt := none
  startedAt := 1010

def dispatchRow : LifecycleEventRow :=
  eventRow {
    effectId := some effectId
    eventId := .given ⟨"swap-start-1", by decide⟩
    evidenceAt := none
    evidenceKind := none
    journalEntryId := none
    paymentId := Sample.paymentId
    proofStateSnapshotFingerprint := none
    recordedAt := 1010
    state := .dispatchStarted } 0

/-- The evidence kind of this event is null. -/
def pendingRow : LifecycleEventRow :=
  eventRow {
    effectId := some effectId
    eventId := .given ⟨"swap-pending-1", by decide⟩
    evidenceAt := some 1011
    evidenceKind := none
    journalEntryId := none
    paymentId := Sample.paymentId
    proofStateSnapshotFingerprint := none
    recordedAt := 1012
    state := .pending } 1

def transactions : List Transaction := [
  [.elsewhere (withIntake taken) (sameLifecycles_withIntake taken)],
  [.effect effectRow, .event dispatchRow],
  [.event pendingRow]]

end WriterSample

/-- The database lets a swap become pending, with no evidence named. -/
theorem writers_pending_without_kind :
    Reachable WriterSample.taken ∧
    (∃ event ∈ (writersRun Db.empty WriterSample.transactions).cashuProofReservationEvents,
      event.state = .pending ∧ event.evidenceKind = none ∧
        ∃ effect ∈ (writersRun Db.empty WriterSample.transactions).cashuOperatorEffects,
          event.effectId = some effect.effectId ∧ effect.effectKind = .swap) ∧
    ¬∀ paymentId, Lifecycle (writersRun Db.empty WriterSample.transactions) paymentId := by
  have hpending : ∃ event ∈
      (writersRun Db.empty WriterSample.transactions).cashuProofReservationEvents,
      event.state = .pending ∧ event.evidenceKind = none ∧
        ∃ effect ∈ (writersRun Db.empty WriterSample.transactions).cashuOperatorEffects,
          event.effectId = some effect.effectId ∧ effect.effectKind = .swap := by
    decide +kernel
  refine ⟨WriterSample.reachable_taken, hpending, ?_⟩
  intro hlifecycle
  obtain ⟨event, hevent, hstate, hnone, -⟩ := hpending
  have hmem : event ∈ (writersRun Db.empty WriterSample.transactions).eventsOf event.paymentId := by
    rw [Db.eventsOf, mem_orderBy, Table.mem_select]
    exact ⟨hevent, rfl⟩
  have hkind := ((hlifecycle event.paymentId).evidenced event hmem).hasKind (by rw [hstate]; decide)
  rw [hnone] at hkind
  cases hkind

end CashMesh.Acquirer
