import CashMesh.Lib.Guarded
import CashMesh.StellarSettlement.Types
/-!
# The settlement state machine

One payout obligation of the processor, as in `settlement.rs`. Each transition is a partial function
on the record, and beside it stands one lemma saying everything the transition can do when it
succeeds. Invariants are read off those lemmas and never unfold a transition again.
-/

namespace CashMesh.StellarSettlement

open CashMesh.Lib

/-- The idempotency domain of one payout obligation. -/
structure SettlementId where
  value : String
  nonblank : isBlank value = false

instance : DecidableEq SettlementId := fun i₁ i₂ =>
  decidable_of_iff (i₁.value = i₂.value) (by cases i₁; cases i₂; simp)

/-- The signed transaction that pays one obligation. -/
structure PreparedTransaction where
  transactionHash : TransactionHash
  signedEnvelope : String
  dispatchStarted : Bool
  deriving DecidableEq

inductive SettlementState where
  | unpaid
  | proofsReserved
  | submitted (transactionHash : TransactionHash)
  | paid (transactionHash : TransactionHash)
  | failed (reason : String)
  | needsAttention (reason : String)
  deriving DecidableEq

/-- `state_name`. -/
def SettlementState.name : SettlementState → String
  | .unpaid => "unpaid"
  | .proofsReserved => "proofs_reserved"
  | .submitted _ => "submitted"
  | .paid _ => "paid"
  | .failed _ => "failed"
  | .needsAttention _ => "needs_attention"

structure Settlement where
  id : SettlementId
  state : SettlementState
  preparedTransaction : Option PreparedTransaction
  deriving DecidableEq

inductive SettlementError where
  | emptyIdentifier
  | emptySignedEnvelope
  | missingPreparedTransaction
  | dispatchNotStarted
  | conflictingTransaction (existing attempted : String)
  | transactionMismatch (expected observed : String)
  | outcomeMustBeObserved
  | invalidTransition (action current : String)
  | invalidValue (error : ValueError)
  deriving DecidableEq

/-- The text of a settlement error. -/
def SettlementError.toText : SettlementError → String
  | .emptyIdentifier => "settlement identifier cannot be empty"
  | .emptySignedEnvelope => "signed transaction envelope cannot be empty"
  | .missingPreparedTransaction => "a prepared transaction must be persisted before dispatch"
  | .dispatchNotStarted => "dispatch intent must be persisted before submission is recorded"
  | .conflictingTransaction existing attempted =>
      "settlement already references transaction " ++ existing ++ "; refusing " ++ attempted
  | .transactionMismatch expected observed =>
      "observed transaction " ++ observed ++ " does not match transaction " ++ expected
  | .outcomeMustBeObserved =>
      "a transaction may have been dispatched; observe it before releasing proofs"
  | .invalidTransition action current => "cannot " ++ action ++ " while settlement is " ++ current
  | .invalidValue error => error.toText

/-- `SettlementId::new`. -/
def SettlementId.new (value : String) : Except SettlementError SettlementId :=
  if hvalue : isBlank value = false then .ok ⟨value, hvalue⟩ else .error .emptyIdentifier

namespace Settlement

/-- `Settlement::new`. -/
def new (id : SettlementId) : Settlement :=
  { id, state := .unpaid, preparedTransaction := none }

def preparedHash (s : Settlement) : Option TransactionHash :=
  s.preparedTransaction.map PreparedTransaction.transactionHash

/-- Whether dispatch intent is durable. -/
def dispatchStarted (s : Settlement) : Bool :=
  s.preparedTransaction.any PreparedTransaction.dispatchStarted

def invalidTransition (s : Settlement) (action : String) : SettlementError :=
  .invalidTransition action s.state.name

/-- `prepared_hash().map_or_else(|| "<missing>", ToString::to_string)`. -/
def expectedHash (s : Settlement) : String :=
  (s.preparedHash.map TransactionHash.value).getD "<missing>"

/-- `TransactionHash::new(raw)?`. -/
def parseHash (raw : String) : Except SettlementError TransactionHash :=
  match TransactionHash.new raw with
  | .ok hash => .ok hash
  | .error error => .error (.invalidValue error)

@[simp] theorem parseHash_value (hash : TransactionHash) : parseHash hash.value = .ok hash := by
  simp [parseHash]

/-! ### The transitions -/

/-- Reserves the bearer proofs before any external payout effect. -/
def reserveProofs (s : Settlement) : Except SettlementError Settlement :=
  match s.state with
  | .unpaid => .ok { s with state := .proofsReserved }
  | .proofsReserved => .ok s
  | _ => .error (s.invalidTransition "reserve_proofs")

/-- Stores the exact signed transaction before it can be dispatched. -/
def recordPreparedTransaction (transactionHash signedEnvelope : String) (s : Settlement) :
    Except SettlementError Settlement := do
  ensure (s.state = .proofsReserved) (s.invalidTransition "record_prepared_transaction")
  let transactionHash ← parseHash transactionHash
  ensure (isBlank signedEnvelope = false) .emptySignedEnvelope
  match s.preparedTransaction with
  | none =>
      let prepared := { transactionHash, signedEnvelope, dispatchStarted := false }
      .ok { s with preparedTransaction := some prepared }
  | some existing =>
      if existing.transactionHash = transactionHash ∧ existing.signedEnvelope = signedEnvelope then
        .ok s
      else
        .error (.conflictingTransaction existing.transactionHash.value transactionHash.value)

/-- Records dispatch intent before the network submission begins. -/
def recordDispatchStarted (s : Settlement) : Except SettlementError Settlement := do
  ensure (s.state = .proofsReserved) (s.invalidTransition "record_dispatch_started")
  let prepared ← orFail s.preparedTransaction .missingPreparedTransaction
  .ok { s with preparedTransaction := some { prepared with dispatchStarted := true } }

/-- Refuses a hash other than that of the prepared transaction, when there is one. -/
def matchPrepared (transactionHash : TransactionHash) (s : Settlement) :
    Except SettlementError Unit :=
  match s.preparedTransaction with
  | none => .ok ()
  | some prepared =>
      ensure (prepared.transactionHash = transactionHash)
        (.conflictingTransaction prepared.transactionHash.value transactionHash.value)

/-- Records that the prepared transaction was accepted for submission. -/
def recordSubmission (transactionHash : String) (s : Settlement) :
    Except SettlementError Settlement := do
  let transactionHash ← parseHash transactionHash
  s.matchPrepared transactionHash
  match s.state with
  | .proofsReserved =>
      let prepared ← orFail s.preparedTransaction .missingPreparedTransaction
      ensure (prepared.dispatchStarted = true) .dispatchNotStarted
      .ok { s with state := .submitted transactionHash }
  | .needsAttention _ => .ok { s with state := .submitted transactionHash }
  | .submitted existing | .paid existing =>
      if existing = transactionHash then .ok s
      else .error (.conflictingTransaction existing.value transactionHash.value)
  | _ => .error (s.invalidTransition "record_submission")

/-- Marks the settlement paid after the matching final transaction was observed. -/
def confirmPaid (observedHash : String) (s : Settlement) : Except SettlementError Settlement := do
  let observed ← parseHash observedHash
  match s.state with
  | .submitted transactionHash =>
      if transactionHash = observed then .ok { s with state := .paid transactionHash }
      else .error (.transactionMismatch transactionHash.value observed.value)
  | .needsAttention _ =>
      if s.preparedHash = some observed then .ok { s with state := .paid observed }
      else .error (.transactionMismatch s.expectedHash observed.value)
  | .paid transactionHash =>
      if transactionHash = observed then .ok s
      else .error (.transactionMismatch transactionHash.value observed.value)
  | _ => .error (s.invalidTransition "confirm_paid")

/-- Records a provable failure before any dispatch begins. -/
def recordProvableFailure (reason : String) (s : Settlement) : Except SettlementError Settlement :=
  match s.state with
  | .proofsReserved =>
      if s.dispatchStarted then .error .outcomeMustBeObserved
      else .ok { s with state := .failed reason }
  | .submitted _ | .needsAttention _ => .error .outcomeMustBeObserved
  | _ => .error (s.invalidTransition "record_provable_failure")

/-- Records an authoritative rejection of the exact submitted envelope. -/
def recordDispatchRejected (reason : String) (s : Settlement) :
    Except SettlementError Settlement := do
  ensure (s.state = .proofsReserved ∧ s.dispatchStarted = true)
    (s.invalidTransition "record_dispatch_rejected")
  .ok { s with state := .failed reason }

/-- Records an observed final failure of the exact prepared transaction. -/
def recordObservedFailure (transactionHash reason : String) (s : Settlement) :
    Except SettlementError Settlement := do
  let transactionHash ← parseHash transactionHash
  ensure (s.preparedHash = some transactionHash)
    (.transactionMismatch s.expectedHash transactionHash.value)
  match s.state with
  | .proofsReserved | .submitted _ | .needsAttention _ => .ok { s with state := .failed reason }
  | .failed _ => .ok s
  | _ => .error (s.invalidTransition "record_observed_failure")

/-- Keeps the proofs reserved when a dispatched outcome cannot be classified. -/
def requireAttention (reason : String) (s : Settlement) : Except SettlementError Settlement :=
  match s.state with
  | .submitted _ => .ok { s with state := .needsAttention reason }
  | .proofsReserved =>
      if s.dispatchStarted then .ok { s with state := .needsAttention reason }
      else .error (s.invalidTransition "require_attention")
  | .needsAttention _ => .ok s
  | _ => .error (s.invalidTransition "require_attention")

/-! ### What each transition can do -/

variable {s s' : Settlement}

theorem dispatchStarted_iff :
    s.dispatchStarted = true ↔
      ∃ prepared, s.preparedTransaction = some prepared ∧ prepared.dispatchStarted = true := by
  cases hprepared : s.preparedTransaction with
  | none => simp [dispatchStarted, hprepared]
  | some prepared => simp [dispatchStarted, hprepared]

theorem preparedHash_eq_some {hash : TransactionHash} :
    s.preparedHash = some hash ↔
      ∃ prepared, s.preparedTransaction = some prepared ∧ prepared.transactionHash = hash := by
  simp [preparedHash]

theorem matchPrepared_ok {hash : TransactionHash} {u : Unit} (h : s.matchPrepared hash = .ok u) :
    ∀ prepared, s.preparedTransaction = some prepared → prepared.transactionHash = hash := by
  intro prepared hprepared
  simpa [matchPrepared, hprepared] using h

theorem reserveProofs_ok (h : s.reserveProofs = .ok s') :
    (s.state = .unpaid ∧ s' = { s with state := .proofsReserved }) ∨
      (s.state = .proofsReserved ∧ s' = s) := by
  unfold reserveProofs at h
  split at h
  · case h_1 hstate => exact .inl ⟨hstate, (Except.ok.inj h).symm⟩
  · case h_2 hstate => exact .inr ⟨hstate, (Except.ok.inj h).symm⟩
  · cases h

theorem recordPreparedTransaction_ok {hash : TransactionHash} {envelope : String}
    (h : s.recordPreparedTransaction hash.value envelope = .ok s') :
    s.state = .proofsReserved ∧
      ((s.preparedTransaction = none ∧
          s' = { s with preparedTransaction := some ⟨hash, envelope, false⟩ }) ∨
        ∃ existing, s.preparedTransaction = some existing ∧ existing.transactionHash = hash ∧
          existing.signedEnvelope = envelope ∧ s' = s) := by
  simp only [recordPreparedTransaction, parseHash_value, ok_bind, bind_eq_ok, ensure_eq_ok,
    exists_unit] at h
  obtain ⟨hstate, -, hrest⟩ := h
  refine ⟨hstate, ?_⟩
  cases hprepared : s.preparedTransaction with
  | none =>
      simp only [hprepared] at hrest
      exact .inl ⟨rfl, (Except.ok.inj hrest).symm⟩
  | some existing =>
      simp only [hprepared, ite_else_error_eq_ok] at hrest
      obtain ⟨⟨hhash, henvelope⟩, hsame⟩ := hrest
      exact .inr ⟨existing, rfl, hhash, henvelope, (Except.ok.inj hsame).symm⟩

theorem recordDispatchStarted_ok (h : s.recordDispatchStarted = .ok s') :
    s.state = .proofsReserved ∧ ∃ prepared, s.preparedTransaction = some prepared ∧
      s' = { s with preparedTransaction := some { prepared with dispatchStarted := true } } := by
  simp only [recordDispatchStarted, bind_eq_ok, ensure_eq_ok, exists_unit, orFail_eq_ok] at h
  obtain ⟨hstate, prepared, hprepared, hs'⟩ := h
  exact ⟨hstate, prepared, hprepared, (Except.ok.inj hs').symm⟩

theorem recordSubmission_ok {hash : TransactionHash} (h : s.recordSubmission hash.value = .ok s') :
    (∀ prepared, s.preparedTransaction = some prepared → prepared.transactionHash = hash) ∧
      ((s.state = .proofsReserved ∧ s.dispatchStarted = true ∧
          s' = { s with state := .submitted hash }) ∨
        ((∃ reason, s.state = .needsAttention reason) ∧ s' = { s with state := .submitted hash }) ∨
        ((s.state = .submitted hash ∨ s.state = .paid hash) ∧ s' = s)) := by
  simp only [recordSubmission, parseHash_value, ok_bind, bind_eq_ok, exists_unit] at h
  obtain ⟨hmatch, hrest⟩ := h
  refine ⟨matchPrepared_ok hmatch, ?_⟩
  cases hstate : s.state with
  | proofsReserved =>
      simp only [hstate, bind_eq_ok, orFail_eq_ok, ensure_eq_ok, exists_unit] at hrest
      obtain ⟨prepared, hprepared, hstarted, hs'⟩ := hrest
      exact .inl ⟨rfl, dispatchStarted_iff.mpr ⟨prepared, hprepared, hstarted⟩,
        (Except.ok.inj hs').symm⟩
  | needsAttention reason =>
      simp only [hstate] at hrest
      exact .inr (.inl ⟨⟨reason, rfl⟩, (Except.ok.inj hrest).symm⟩)
  | submitted existing =>
      simp only [hstate, ite_else_error_eq_ok] at hrest
      obtain ⟨rfl, hs'⟩ := hrest
      exact .inr (.inr ⟨.inl rfl, (Except.ok.inj hs').symm⟩)
  | paid existing =>
      simp only [hstate, ite_else_error_eq_ok] at hrest
      obtain ⟨rfl, hs'⟩ := hrest
      exact .inr (.inr ⟨.inr rfl, (Except.ok.inj hs').symm⟩)
  | unpaid => simp [hstate] at hrest
  | failed reason => simp [hstate] at hrest

theorem confirmPaid_ok {hash : TransactionHash} (h : s.confirmPaid hash.value = .ok s') :
    (((s.state = .submitted hash) ∨
        ((∃ reason, s.state = .needsAttention reason) ∧ s.preparedHash = some hash)) ∧
          s' = { s with state := .paid hash }) ∨
      (s.state = .paid hash ∧ s' = s) := by
  simp only [confirmPaid, parseHash_value, ok_bind] at h
  cases hstate : s.state with
  | submitted existing =>
      simp only [hstate, ite_else_error_eq_ok] at h
      obtain ⟨rfl, hs'⟩ := h
      exact .inl ⟨.inl rfl, (Except.ok.inj hs').symm⟩
  | needsAttention reason =>
      simp only [hstate, ite_else_error_eq_ok] at h
      obtain ⟨hprepared, hs'⟩ := h
      exact .inl ⟨.inr ⟨⟨reason, rfl⟩, hprepared⟩, (Except.ok.inj hs').symm⟩
  | paid existing =>
      simp only [hstate, ite_else_error_eq_ok] at h
      obtain ⟨rfl, hs'⟩ := h
      exact .inr ⟨rfl, (Except.ok.inj hs').symm⟩
  | unpaid => simp [hstate] at h
  | proofsReserved => simp [hstate] at h
  | failed reason => simp [hstate] at h

theorem recordProvableFailure_ok {reason : String} (h : s.recordProvableFailure reason = .ok s') :
    s.state = .proofsReserved ∧ s.dispatchStarted = false ∧
      s' = { s with state := .failed reason } := by
  cases hstate : s.state with
  | proofsReserved =>
      simp only [recordProvableFailure, hstate, ite_error_eq_ok, Bool.not_eq_true] at h
      exact ⟨rfl, h.1, (Except.ok.inj h.2).symm⟩
  | unpaid => simp [recordProvableFailure, hstate] at h
  | submitted hash => simp [recordProvableFailure, hstate] at h
  | paid hash => simp [recordProvableFailure, hstate] at h
  | failed text => simp [recordProvableFailure, hstate] at h
  | needsAttention text => simp [recordProvableFailure, hstate] at h

theorem recordDispatchRejected_ok {reason : String} (h : s.recordDispatchRejected reason = .ok s') :
    s.state = .proofsReserved ∧ s.dispatchStarted = true ∧
      s' = { s with state := .failed reason } := by
  simp only [recordDispatchRejected, bind_eq_ok, ensure_eq_ok, exists_unit] at h
  exact ⟨h.1.1, h.1.2, (Except.ok.inj h.2).symm⟩

theorem recordObservedFailure_ok {hash : TransactionHash} {reason : String}
    (h : s.recordObservedFailure hash.value reason = .ok s') :
    s.preparedHash = some hash ∧
      ((s.state = .proofsReserved ∨ (∃ existing, s.state = .submitted existing) ∨
          ∃ text, s.state = .needsAttention text) ∧ s' = { s with state := .failed reason } ∨
        (∃ text, s.state = .failed text) ∧ s' = s) := by
  simp only [recordObservedFailure, parseHash_value, ok_bind, bind_eq_ok, ensure_eq_ok,
    exists_unit] at h
  obtain ⟨hprepared, hrest⟩ := h
  refine ⟨hprepared, ?_⟩
  cases hstate : s.state with
  | proofsReserved =>
      simp only [hstate] at hrest
      exact .inl ⟨.inl rfl, (Except.ok.inj hrest).symm⟩
  | submitted existing =>
      simp only [hstate] at hrest
      exact .inl ⟨.inr (.inl ⟨existing, rfl⟩), (Except.ok.inj hrest).symm⟩
  | needsAttention text =>
      simp only [hstate] at hrest
      exact .inl ⟨.inr (.inr ⟨text, rfl⟩), (Except.ok.inj hrest).symm⟩
  | failed text =>
      simp only [hstate] at hrest
      exact .inr ⟨⟨text, rfl⟩, (Except.ok.inj hrest).symm⟩
  | unpaid => simp [hstate] at hrest
  | paid existing => simp [hstate] at hrest

theorem requireAttention_ok {reason : String} (h : s.requireAttention reason = .ok s') :
    (((∃ existing, s.state = .submitted existing) ∨
        (s.state = .proofsReserved ∧ s.dispatchStarted = true)) ∧
          s' = { s with state := .needsAttention reason }) ∨
      ((∃ text, s.state = .needsAttention text) ∧ s' = s) := by
  cases hstate : s.state with
  | submitted existing =>
      simp only [requireAttention, hstate] at h
      exact .inl ⟨.inl ⟨existing, rfl⟩, (Except.ok.inj h).symm⟩
  | proofsReserved =>
      simp only [requireAttention, hstate, ite_else_error_eq_ok] at h
      exact .inl ⟨.inr ⟨rfl, h.1⟩, (Except.ok.inj h.2).symm⟩
  | needsAttention text =>
      simp only [requireAttention, hstate] at h
      exact .inr ⟨⟨text, rfl⟩, (Except.ok.inj h).symm⟩
  | unpaid => simp [requireAttention, hstate] at h
  | paid existing => simp [requireAttention, hstate] at h
  | failed text => simp [requireAttention, hstate] at h

/-! ### What every transition keeps -/

/-- The shape of a record in each of its states. -/
structure WellFormed (s : Settlement) : Prop where
  unpaid : s.state = .unpaid → s.preparedTransaction = none
  submitted : ∀ hash, s.state = .submitted hash →
    s.preparedHash = some hash ∧ s.dispatchStarted = true
  paid : ∀ hash, s.state = .paid hash → s.preparedHash = some hash ∧ s.dispatchStarted = true
  needsAttention : ∀ reason, s.state = .needsAttention reason → s.dispatchStarted = true

/-- A record only moves forward: a prepared transaction and its dispatch mark stay, and a final
record stays as it is. -/
structure Advances (s s' : Settlement) : Prop where
  prepared : ∀ prepared, s.preparedTransaction = some prepared →
    ∃ prepared', s'.preparedTransaction = some prepared' ∧
      prepared'.transactionHash = prepared.transactionHash ∧
      prepared'.signedEnvelope = prepared.signedEnvelope ∧
      (prepared.dispatchStarted = true → prepared'.dispatchStarted = true)
  paid : ∀ hash, s.state = .paid hash → s' = s
  failed : ∀ reason, s.state = .failed reason → s' = s

/-- What is known of transactions outside the record: which have landed, and which can never land. -/
structure Knowledge where
  landed : TransactionHash → Prop
  dead : TransactionHash → Prop

/-- Knowledge bears out the record: a paid transaction landed, and a failed one that was dispatched
never will. -/
structure Justified (K : Knowledge) (s : Settlement) : Prop where
  paid : ∀ hash, s.state = .paid hash → K.landed hash
  failed : ∀ reason prepared, s.state = .failed reason → s.preparedTransaction = some prepared →
    prepared.dispatchStarted = true → K.dead prepared.transactionHash

/-- A change of a record that keeps its shape, moves it forward and leaves it justified. -/
structure Kept (K : Knowledge) (s s' : Settlement) : Prop where
  wellFormed : s'.WellFormed
  advances : s.Advances s'
  justified : s'.Justified K

theorem wellFormed_new (id : SettlementId) : (new id).WellFormed := by
  constructor <;> simp [new]

theorem justified_new (K : Knowledge) (id : SettlementId) : (new id).Justified K := by
  constructor <;> simp [new]

theorem Advances.refl (s : Settlement) : s.Advances s :=
  ⟨fun prepared hprepared => ⟨prepared, hprepared, rfl, rfl, fun h => h⟩, fun _ _ => rfl, fun _ _ => rfl⟩

theorem Advances.trans {s₁ s₂ s₃ : Settlement} (h₁₂ : s₁.Advances s₂) (h₂₃ : s₂.Advances s₃) :
    s₁.Advances s₃ := by
  refine ⟨?_, ?_, ?_⟩
  · intro prepared hprepared
    obtain ⟨prepared₂, hprepared₂, hhash₂, henvelope₂, hstarted₂⟩ := h₁₂.prepared _ hprepared
    obtain ⟨prepared₃, hprepared₃, hhash₃, henvelope₃, hstarted₃⟩ := h₂₃.prepared _ hprepared₂
    exact ⟨prepared₃, hprepared₃, hhash₃.trans hhash₂, henvelope₃.trans henvelope₂,
      hstarted₃ ∘ hstarted₂⟩
  · intro hash hpaid
    obtain rfl := h₁₂.paid hash hpaid
    exact h₂₃.paid hash hpaid
  · intro reason hfailed
    obtain rfl := h₁₂.failed reason hfailed
    exact h₂₃.failed reason hfailed

section Kept

variable {K : Knowledge}

theorem Kept.refl (hwell : s.WellFormed) (hjust : s.Justified K) :
    Kept K s s :=
  ⟨hwell, .refl s, hjust⟩

theorem Advances.of_state {state : SettlementState} (hpaid : ∀ hash, s.state ≠ .paid hash)
    (hfailed : ∀ reason, s.state ≠ .failed reason) : s.Advances { s with state := state } :=
  ⟨fun prepared hprepared => ⟨prepared, hprepared, rfl, rfl, fun h => h⟩,
    fun hash h => absurd h (hpaid hash), fun reason h => absurd h (hfailed reason)⟩

theorem Justified.of_state {state : SettlementState} (hpaid : ∀ hash, state = .paid hash → K.landed hash)
    (hfailed : ∀ reason prepared, state = .failed reason →
      s.preparedTransaction = some prepared → prepared.dispatchStarted = true →
        K.dead prepared.transactionHash) :
    Justified K { s with state := state } :=
  ⟨hpaid, hfailed⟩

theorem Kept.reserveProofs (hwell : s.WellFormed) (hjust : s.Justified K)
    (h : s.reserveProofs = .ok s') : Kept K s s' := by
  rcases reserveProofs_ok h with ⟨hstate, rfl⟩ | ⟨_, rfl⟩
  · refine ⟨?_, .of_state (by simp [hstate]) (by simp [hstate]), .of_state ?_ ?_⟩
    · constructor <;> simp
    · simp
    · simp
  · exact .refl hwell hjust

theorem Kept.recordPreparedTransaction {hash : TransactionHash} {envelope : String}
    (hwell : s.WellFormed) (hjust : s.Justified K)
    (h : s.recordPreparedTransaction hash.value envelope = .ok s') : Kept K s s' := by
  obtain ⟨hstate, ⟨hnone, rfl⟩ | ⟨existing, -, -, -, rfl⟩⟩ := recordPreparedTransaction_ok h
  · refine ⟨?_, ⟨?_, ?_, ?_⟩, ?_⟩
    · constructor <;> simp [hstate]
    · simp [hnone]
    · simp [hstate]
    · simp [hstate]
    · constructor <;> simp [hstate]
  · exact .refl hwell hjust

theorem Kept.recordDispatchStarted (h : s.recordDispatchStarted = .ok s') : Kept K s s' := by
  obtain ⟨hstate, prepared, hprepared, rfl⟩ := recordDispatchStarted_ok h
  refine ⟨?_, ⟨?_, ?_, ?_⟩, ?_⟩
  · constructor <;> simp [hstate]
  · simp [hprepared]
  · simp [hstate]
  · simp [hstate]
  · constructor <;> simp [hstate]

theorem Kept.recordSubmission {hash : TransactionHash} (hwell : s.WellFormed)
    (hjust : s.Justified K) (h : s.recordSubmission hash.value = .ok s') : Kept K s s' := by
  obtain ⟨hmatch, hcases⟩ := recordSubmission_ok h
  have submitted : s.dispatchStarted = true → (∀ existing, s.state ≠ .paid existing) →
      (∀ reason, s.state ≠ .failed reason) →
      Kept K s { s with state := .submitted hash } := by
    intro hstarted hpaid hfailed
    obtain ⟨prepared, hprepared, hflag⟩ := dispatchStarted_iff.mp hstarted
    have hhash := hmatch prepared hprepared
    refine ⟨?_, .of_state hpaid hfailed, .of_state (by simp) (by simp)⟩
    constructor <;> simp [preparedHash, dispatchStarted, hprepared, hflag, hhash]
  rcases hcases with ⟨hstate, hstarted, rfl⟩ | ⟨⟨reason, hstate⟩, rfl⟩ | ⟨_, rfl⟩
  · exact submitted hstarted (by simp [hstate]) (by simp [hstate])
  · exact submitted (hwell.needsAttention reason hstate) (by simp [hstate]) (by simp [hstate])
  · exact .refl hwell hjust

theorem Kept.confirmPaid {hash : TransactionHash} (hwell : s.WellFormed)
    (hjust : s.Justified K) (hlanded : K.landed hash)
    (h : s.confirmPaid hash.value = .ok s') : Kept K s s' := by
  have paid : s.preparedHash = some hash → s.dispatchStarted = true →
      (∀ existing, s.state ≠ .paid existing) → (∀ reason, s.state ≠ .failed reason) →
      Kept K s { s with state := .paid hash } := by
    intro hprepared hstarted hpaid hfailed
    refine ⟨?_, .of_state hpaid hfailed, .of_state (by simp [hlanded]) (by simp)⟩
    constructor <;> simp_all [preparedHash, dispatchStarted]
  rcases confirmPaid_ok h with ⟨hstate | ⟨⟨reason, hstate⟩, hprepared⟩, rfl⟩ | ⟨_, rfl⟩
  · obtain ⟨hprepared, hstarted⟩ := hwell.submitted hash hstate
    exact paid hprepared hstarted (by simp [hstate]) (by simp [hstate])
  · exact paid hprepared (hwell.needsAttention reason hstate) (by simp [hstate]) (by simp [hstate])
  · exact .refl hwell hjust

/-- Failing an open record, when the transaction it dispatched can never land. -/
theorem Kept.failed {reason : String} (hpaid : ∀ hash, s.state ≠ .paid hash) (hfailed : ∀ text, s.state ≠ .failed text)
    (hdead : ∀ prepared, s.preparedTransaction = some prepared →
      prepared.dispatchStarted = true → K.dead prepared.transactionHash) :
    Kept K s { s with state := .failed reason } := by
  refine ⟨?_, .of_state hpaid hfailed, .of_state (by simp) ?_⟩
  · constructor <;> simp
  · exact fun _ prepared _ => hdead prepared

theorem Kept.recordProvableFailure {reason : String} (h : s.recordProvableFailure reason = .ok s') : Kept K s s' := by
  obtain ⟨hstate, hstarted, rfl⟩ := recordProvableFailure_ok h
  refine .failed (by simp [hstate]) (by simp [hstate]) ?_
  intro prepared hprepared hflag
  have := dispatchStarted_iff.mpr ⟨prepared, hprepared, hflag⟩
  simp [hstarted] at this

theorem Kept.recordDispatchRejected {reason : String}
    (hdead : ∀ prepared, s.preparedTransaction = some prepared → K.dead prepared.transactionHash)
    (h : s.recordDispatchRejected reason = .ok s') : Kept K s s' := by
  obtain ⟨hstate, -, rfl⟩ := recordDispatchRejected_ok h
  exact .failed (by simp [hstate]) (by simp [hstate]) fun prepared hprepared _ =>
    hdead prepared hprepared

theorem Kept.recordObservedFailure {hash : TransactionHash} {reason : String}
    (hwell : s.WellFormed) (hjust : s.Justified K) (hdead : K.dead hash)
    (h : s.recordObservedFailure hash.value reason = .ok s') : Kept K s s' := by
  obtain ⟨hhash, ⟨hstate, rfl⟩ | ⟨_, rfl⟩⟩ := recordObservedFailure_ok h
  · refine .failed ?_ ?_ ?_
    · rcases hstate with hstate | ⟨_, hstate⟩ | ⟨_, hstate⟩ <;> simp [hstate]
    · rcases hstate with hstate | ⟨_, hstate⟩ | ⟨_, hstate⟩ <;> simp [hstate]
    · intro prepared hprepared _
      obtain ⟨prepared', hprepared', rfl⟩ := preparedHash_eq_some.mp hhash
      rw [hprepared] at hprepared'
      obtain rfl := Option.some.inj hprepared'
      exact hdead
  · exact .refl hwell hjust

theorem Kept.requireAttention {reason : String} (hwell : s.WellFormed)
    (hjust : s.Justified K) (h : s.requireAttention reason = .ok s') : Kept K s s' := by
  have attention : s.dispatchStarted = true → (∀ hash, s.state ≠ .paid hash) →
      (∀ text, s.state ≠ .failed text) →
      Kept K s { s with state := .needsAttention reason } := by
    intro hstarted hpaid hfailed
    refine ⟨?_, .of_state hpaid hfailed, .of_state (by simp) (by simp)⟩
    constructor <;> simp_all [dispatchStarted]
  rcases requireAttention_ok h with ⟨⟨hash, hstate⟩ | ⟨hstate, hstarted⟩, rfl⟩ | ⟨_, rfl⟩
  · exact attention (hwell.submitted hash hstate).2 (by simp [hstate]) (by simp [hstate])
  · exact attention hstarted (by simp [hstate]) (by simp [hstate])
  · exact .refl hwell hjust

theorem Kept.trans {s₁ s₂ s₃ : Settlement} (h₁₂ : Kept K s₁ s₂) (h₂₃ : Kept K s₂ s₃) :
    Kept K s₁ s₃ :=
  ⟨h₂₃.wellFormed, h₁₂.advances.trans h₂₃.advances, h₂₃.justified⟩

end Kept

end Settlement

end CashMesh.StellarSettlement
