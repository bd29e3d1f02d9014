import CashMesh.Acquirer.RecoveryHistory
import CashMesh.Acquirer.RecoveryWorker
import CashMesh.Lib.Permit
/-!
# The attempts of the workers

A lease is the permit of one attempt. Workers come and go, lose their leases and their answers, but
each calls the coordinator once for the lease that it has claimed, so that the calls for a payment are
at most as many as its leases, and those that are numbered up to the bound are at most as many as the
bound says.
-/

namespace CashMesh.Acquirer

open CashMesh.Lib

/-! ### The outcome of an attempt -/

section Outcomes

variable {policy : RecoveryWorkerPolicy} {lease : CashuStellarMeltRecoveryLease}
variable {recordedAt : Nat} {outcome : CashuStellarMeltRecoveryLeaseOutcome}

theorem policyBounds_default :
    PolicyBounds defaultRecoveryAttemptTimeoutMs defaultRecoveryLeaseSeconds
      defaultRecoveryMaxAttempts defaultRecoveryRetryBaseSeconds
      defaultRecoveryRetryMaxSeconds := by
  simp only [PolicyBounds, defaultRecoveryAttemptTimeoutMs, defaultRecoveryLeaseSeconds,
    defaultRecoveryMaxAttempts, defaultRecoveryRetryBaseSeconds, defaultRecoveryRetryMaxSeconds,
    maxAttemptTimeoutMs, maxLeaseSeconds, maxWorkerRecoveryAttempts, maxRetrySeconds]
  omega

/-- Options that are left out are valid. -/
theorem validatePolicy_default (workerId : Identifier) :
    ∃ policy, validatePolicy ⟨none, none, none, none, none, workerId⟩ = .ok policy := by
  simp only [validatePolicy, Option.getD_none, dif_pos policyBounds_default]
  exact ⟨_, rfl⟩

theorem RecoveryWorkerPolicy.maxAttempts_le (policy : RecoveryWorkerPolicy) :
    policy.maxAttempts ≤ maxWorkerRecoveryAttempts :=
  policy.bounds.2.2.2.1.2

theorem RecoveryWorkerPolicy.base_bounds (policy : RecoveryWorkerPolicy) :
    1 ≤ policy.retryBaseSeconds ∧ policy.retryBaseSeconds ≤ maxRetrySeconds :=
  policy.bounds.2.2.2.2.1

theorem RecoveryWorkerPolicy.max_bounds (policy : RecoveryWorkerPolicy) :
    policy.retryBaseSeconds ≤ policy.retryMaxSeconds ∧
      policy.retryMaxSeconds ≤ maxRetrySeconds :=
  policy.bounds.2.2.2.2.2

theorem retryDelay_pos (policy : RecoveryWorkerPolicy) (attemptNumber : Nat) :
    0 < retryDelay policy attemptNumber := by
  have hbase := policy.base_bounds
  have hmax := policy.max_bounds
  have hpower : 0 < 2 ^ (attemptNumber - 1) := Nat.two_pow_pos _
  have hproduct : 0 < policy.retryBaseSeconds * 2 ^ (attemptNumber - 1) :=
    Nat.mul_pos (by omega) hpower
  rw [retryDelay, Nat.lt_min]
  omega

theorem retryDelay_le (policy : RecoveryWorkerPolicy) (attemptNumber : Nat) :
    retryDelay policy attemptNumber ≤ maxRetrySeconds :=
  Nat.le_trans (Nat.min_le_right _ _) policy.max_bounds.2

theorem retryDelay_mono (policy : RecoveryWorkerPolicy) {attemptNumber later : Nat}
    (h : attemptNumber ≤ later) : retryDelay policy attemptNumber ≤ retryDelay policy later := by
  have hpower : 2 ^ (attemptNumber - 1) ≤ 2 ^ (later - 1) :=
    Nat.pow_le_pow_right (by omega) (by omega)
  have hproduct : policy.retryBaseSeconds * 2 ^ (attemptNumber - 1) ≤
      policy.retryBaseSeconds * 2 ^ (later - 1) := Nat.mul_le_mul_left _ hpower
  simp only [retryDelay]
  omega

/-- The product of an attempt that can still be retried is a safe integer, so that it is exact. -/
theorem retryProduct_le (policy : RecoveryWorkerPolicy) {attemptNumber : Nat}
    (h : attemptNumber < policy.maxAttempts) :
    policy.retryBaseSeconds * 2 ^ (attemptNumber - 1) ≤ maxSafeInteger := by
  have hattempts : policy.maxAttempts ≤ 32 := policy.maxAttempts_le
  have hpower : 2 ^ (attemptNumber - 1) ≤ 2 ^ 31 :=
    Nat.pow_le_pow_right (by omega) (by omega)
  calc policy.retryBaseSeconds * 2 ^ (attemptNumber - 1)
      ≤ 3600 * 2 ^ 31 := Nat.mul_le_mul policy.base_bounds.2 hpower
    _ ≤ maxSafeInteger := by decide

/-- The answers of the coordinator after which an attempt is made again, each with its reason. -/
inductive Retryable (paymentId : PaymentId) :
    Except RecoverFailure CashuStellarMeltRecoveryResult → RecoveryRetryReason → Prop
  | pending : Retryable paymentId (.ok ⟨paymentId, .pending⟩) .nonterminalEvidence
  | unknown {reason} (hreason : reason ≠ .operatorResponseInvalid) :
      Retryable paymentId (.ok ⟨paymentId, .needsAttention reason⟩) .operatorStateUnknown
  | aborted : Retryable paymentId (.error (.coordinator .requestAborted)) .workerAborted
  | storage : Retryable paymentId (.error (.coordinator .storageUnavailable)) .storageUnavailable
  | other : Retryable paymentId (.error .other) .storageUnavailable

/-- The answers that no further attempt can mend, each with its reason. -/
inductive Unretryable (paymentId : PaymentId) :
    Except RecoverFailure CashuStellarMeltRecoveryResult → RecoveryAttentionReason → Prop
  | otherPayment {result} (hpayment : result.paymentId ≠ paymentId) :
      Unretryable paymentId (.ok result) .evidenceInvalid
  | response :
      Unretryable paymentId (.ok ⟨paymentId, .needsAttention .operatorResponseInvalid⟩)
        .operatorResponseInvalid
  | configuration {code}
      (hcode : code ∈ [.clockUnavailable, .invalidConfiguration, .operatorNotConfigured]) :
      Unretryable paymentId (.error (.coordinator code)) .recoveryConfigurationInvalid
  | evidence {code}
      (hcode : code ∈ [.effectNotRecoverable, .evidenceInvalid, .invalidRequest,
        .quoteEvidenceMissing, .reservationNotFound]) :
      Unretryable paymentId (.error (.coordinator code)) .evidenceInvalid

/-- What an attempt comes to: the end that the coordinator answers, another attempt after the delay
while there is one left, or attention. -/
inductive AttemptOutcome (policy : RecoveryWorkerPolicy) (lease : CashuStellarMeltRecoveryLease)
    (recordedAt : UnixTimestamp) (answer : Except RecoverFailure CashuStellarMeltRecoveryResult) :
    CashuStellarMeltRecoveryLeaseOutcome → Prop
  | accepted (hanswer : answer = .ok ⟨lease.paymentId, .accepted⟩) :
      AttemptOutcome policy lease recordedAt answer (.accepted recordedAt)
  | released (hanswer : answer = .ok ⟨lease.paymentId, .released⟩) :
      AttemptOutcome policy lease recordedAt answer (.released recordedAt)
  | retry {reason} (hretry : Retryable lease.paymentId answer reason)
      (hleft : lease.attemptNumber < policy.maxAttempts) :
      AttemptOutcome policy lease recordedAt answer (.retryScheduled reason recordedAt
        (recordedAt + min (policy.retryBaseSeconds * 2 ^ (lease.attemptNumber - 1))
          policy.retryMaxSeconds))
  | exhausted {reason} (hretry : Retryable lease.paymentId answer reason)
      (hspent : policy.maxAttempts ≤ lease.attemptNumber) :
      AttemptOutcome policy lease recordedAt answer (.attentionRequired .retryExhausted recordedAt)
  | attention {reason} (hfinal : Unretryable lease.paymentId answer reason) :
      AttemptOutcome policy lease recordedAt answer (.attentionRequired reason recordedAt)

variable {answer : Except RecoverFailure CashuStellarMeltRecoveryResult}

theorem retryOrExhaust_of_lt {reason : RecoveryRetryReason}
    (hclock : recordedAt ≤ maxSafeInteger - maxRetrySeconds)
    (hleft : lease.attemptNumber < policy.maxAttempts) :
    retryOrExhaust policy lease recordedAt reason = .ok (.retryScheduled reason recordedAt
      (recordedAt + min (policy.retryBaseSeconds * 2 ^ (lease.attemptNumber - 1))
        policy.retryMaxSeconds)) := by
  have hdelay := retryDelay_le policy lease.attemptNumber
  have hsafe : recordedAt + retryDelay policy lease.attemptNumber ≤ maxSafeInteger := by
    have hroom : maxRetrySeconds ≤ maxSafeInteger := by decide
    omega
  simp only [retryOrExhaust, if_neg (Nat.not_le.mpr hleft), addSeconds]
  rw [ensure_of hsafe]
  rfl

theorem retryOrExhaust_of_le {reason : RecoveryRetryReason}
    (hspent : policy.maxAttempts ≤ lease.attemptNumber) :
    retryOrExhaust policy lease recordedAt reason =
      .ok (.attentionRequired .retryExhausted recordedAt) :=
  if_pos hspent

/-- Whatever the coordinator answers, an attempt comes to one of these outcomes. -/
theorem exists_attemptOutcome (policy : RecoveryWorkerPolicy) (lease : CashuStellarMeltRecoveryLease)
    (recordedAt : UnixTimestamp) (answer : Except RecoverFailure CashuStellarMeltRecoveryResult) :
    ∃ outcome, AttemptOutcome policy lease recordedAt answer outcome := by
  have hretried : ∀ {reason}, Retryable lease.paymentId answer reason →
      ∃ outcome, AttemptOutcome policy lease recordedAt answer outcome := by
    intro reason hretry
    rcases Nat.lt_or_ge lease.attemptNumber policy.maxAttempts with hleft | hspent
    · exact ⟨_, .retry hretry hleft⟩
    · exact ⟨_, .exhausted hretry hspent⟩
  rcases answer with failure | ⟨paymentId, state⟩
  · cases failure with
    | other => exact hretried .other
    | coordinator code =>
        cases code with
        | requestAborted => exact hretried .aborted
        | storageUnavailable => exact hretried .storage
        | clockUnavailable | invalidConfiguration | operatorNotConfigured =>
            exact ⟨_, .attention (.configuration (by decide))⟩
        | _ => exact ⟨_, .attention (.evidence (by decide))⟩
  · by_cases hpayment : paymentId = lease.paymentId
    · obtain rfl := hpayment
      cases state with
      | accepted => exact ⟨_, .accepted rfl⟩
      | released => exact ⟨_, .released rfl⟩
      | pending => exact hretried .pending
      | needsAttention reason =>
          by_cases hreason : reason = .operatorResponseInvalid
          · obtain rfl := hreason
            exact ⟨_, .attention .response⟩
          · exact hretried (.unknown hreason)
    · exact ⟨_, .attention (.otherPayment hpayment)⟩

theorem AttemptOutcome.selected (hclock : recordedAt ≤ maxSafeInteger - maxRetrySeconds)
    (h : AttemptOutcome policy lease recordedAt answer outcome) :
    selectOutcome policy lease recordedAt answer = .ok outcome := by
  have hretried : ∀ {reason}, Retryable lease.paymentId answer reason →
      selectOutcome policy lease recordedAt answer = retryOrExhaust policy lease recordedAt reason := by
    intro reason hretry
    cases hretry with
    | pending | aborted | storage | other => simp [selectOutcome]
    | @unknown reason hreason => cases reason <;> simp_all [selectOutcome]
  cases h with
  | accepted hanswer =>
      rw [hanswer]
      simp [selectOutcome]
  | released hanswer =>
      rw [hanswer]
      simp [selectOutcome]
  | retry hretry hleft => rw [hretried hretry, retryOrExhaust_of_lt hclock hleft]
  | exhausted hretry hspent => rw [hretried hretry, retryOrExhaust_of_le hspent]
  | attention hfinal =>
      cases hfinal with
      | otherPayment hpayment => simp [selectOutcome, hpayment]
      | response => simp [selectOutcome]
      | @configuration code hcode => cases code <;> first | rfl | exact absurd hcode (by decide)
      | @evidence code hcode => cases code <;> first | rfl | exact absurd hcode (by decide)

/-- The outcome that a worker selects is the one that its attempt comes to. -/
theorem selectOutcome_eq_ok (hclock : recordedAt ≤ maxSafeInteger - maxRetrySeconds) :
    selectOutcome policy lease recordedAt answer = .ok outcome ↔
      AttemptOutcome policy lease recordedAt answer outcome := by
  constructor
  · intro hselected
    obtain ⟨other, hother⟩ := exists_attemptOutcome policy lease recordedAt answer
    rw [hother.selected hclock] at hselected
    exact Except.ok.inj hselected ▸ hother
  · exact fun h => h.selected hclock

theorem AttemptOutcome.recorded (h : AttemptOutcome policy lease recordedAt answer outcome) :
    outcome.recordedAt = recordedAt := by
  cases h <;> rfl

theorem AttemptOutcome.next (h : AttemptOutcome policy lease recordedAt answer outcome)
    {nextAttemptAt : Nat} (hnext : nextAttemptAt ∈ outcome.nextAttemptAt) :
    lease.attemptNumber < policy.maxAttempts ∧
      nextAttemptAt = recordedAt + retryDelay policy lease.attemptNumber := by
  cases h with
  | retry hretry hleft => exact ⟨hleft, (Option.some.inj hnext).symm⟩
  | accepted | released | exhausted | attention => cases hnext

theorem AttemptOutcome.next_bounds (h : AttemptOutcome policy lease recordedAt answer outcome)
    (hclock : recordedAt ≤ maxSafeInteger - maxRetrySeconds) {nextAttemptAt : Nat}
    (hnext : nextAttemptAt ∈ outcome.nextAttemptAt) :
    recordedAt < nextAttemptAt ∧ nextAttemptAt ≤ maxSafeInteger := by
  obtain ⟨-, rfl⟩ := h.next hnext
  have hpos := retryDelay_pos policy lease.attemptNumber
  have hle := retryDelay_le policy lease.attemptNumber
  have hroom : maxRetrySeconds ≤ maxSafeInteger := by decide
  omega

theorem AttemptOutcome.validated (h : AttemptOutcome policy lease recordedAt answer outcome)
    (hclock : recordedAt ≤ maxSafeInteger - maxRetrySeconds) :
    validateOutcome ⟨lease.leaseToken, outcome, lease.paymentId⟩ = .ok () := by
  apply ensure_of
  rw [h.recorded]
  refine ⟨Nat.le_trans hclock (Nat.sub_le _ _), ?_⟩
  intro nextAttemptAt hnext
  exact (h.next_bounds hclock hnext).symm

theorem checks_of_validateOutcome {input : RecordOutcomeInput}
    (h : validateOutcome input = .ok ()) : input.row.Checks := by
  obtain ⟨hrecorded, hnext⟩ := ensure_eq_ok.mp h
  obtain ⟨leaseToken, outcome, paymentId⟩ := input
  refine ⟨hrecorded, fun nextAttemptAt hmem => (hnext nextAttemptAt hmem).symm, ?_⟩
  cases outcome with
  | accepted recordedAt => exact .inl ⟨.inl rfl, rfl, rfl⟩
  | released recordedAt => exact .inl ⟨.inr rfl, rfl, rfl⟩
  | retryScheduled reason recordedAt nextAttemptAt =>
      refine .inr (.inl ⟨rfl, ?_, rfl⟩)
      rintro _ ⟨⟩
      cases reason <;> simp
  | attentionRequired reason recordedAt =>
      refine .inr (.inr ⟨rfl, ?_, rfl⟩)
      rintro _ ⟨⟩
      cases reason <;> simp

end Outcomes

/-! ### The effects of a run -/

namespace RecoveryWorker

/-- The effects that neither write a row nor call the coordinator. -/
def Reads : WorkerEffect → Prop
  | .readClock | .makeLeaseToken | .recovered _ | .findByPaymentId _ => True
  | .claimNext _ | .recover _ | .recordOutcome _ => False

theorem readClock_uses : readClock.Uses Reads := by
  refine ⟨trivial, ?_⟩
  rintro (_ | timestamp)
  · trivial
  · show (ite _ _ _ : WorkerProcess UnixTimestamp).Uses Reads
    split <;> trivial

theorem makeLeaseToken_uses : makeLeaseToken.Uses Reads := by
  refine ⟨trivial, ?_⟩
  rintro (_ | leaseToken) <;> trivial

theorem readRecordTime_uses (lease : CashuStellarMeltRecoveryLease) :
    (readRecordTime lease).Uses Reads := by
  apply Process.uses_bind readClock_uses
  intro recordedAt
  split <;> trivial

theorem loadConcurrentTerminal_uses (paymentId : PaymentId) :
    (loadConcurrentTerminal paymentId).Uses Reads := by
  refine ⟨trivial, ?_⟩
  rintro (error | job) <;> trivial

theorem persistOutcome_next {lease : CashuStellarMeltRecoveryLease}
    {outcome : CashuStellarMeltRecoveryLeaseOutcome} :
    ∃ next, persistOutcome lease outcome = .ask (.recordOutcome {
        leaseToken := lease.leaseToken
        outcome
        paymentId := lease.paymentId }) next ∧
      ∀ answer, (next answer).Uses Reads := by
  refine ⟨_, rfl, ?_⟩
  rintro (error | result)
  · show (ite _ _ _ : WorkerProcess RecoveryWorkerResult).Uses Reads
    split
    · apply Process.uses_bind (loadConcurrentTerminal_uses lease.paymentId)
      rintro (_ | terminal) <;> trivial
    · trivial
  · trivial

end RecoveryWorker

/-! ### A lease is the permit of one call -/

/-- Claiming a lease that is numbered up to the bound permits one call for its payment. -/
def recoverPermits (maxAttempts : Nat) (paymentId : PaymentId) :
    Permits WorkerEffect WorkerAnswer where
  spends
    | .recover called => if called = paymentId then 1 else 0
    | _ => 0
  grants
    | .claimNext _, .ok (some lease) =>
        if lease.paymentId = paymentId ∧ lease.attemptNumber ≤ maxAttempts then 1 else 0
    | _, _ => 0

section Permitted

open RecoveryWorker

variable {maxAttempts held : Nat} {paymentId : PaymentId} {policy : RecoveryWorkerPolicy}
variable {lease : CashuStellarMeltRecoveryLease}

theorem spends_of_reads {effect : WorkerEffect} (h : Reads effect) :
    (recoverPermits maxAttempts paymentId).spends effect = 0 := by
  cases effect <;> first | rfl | exact absurd h id

theorem persistOutcome_uses (outcome : CashuStellarMeltRecoveryLeaseOutcome) :
    (persistOutcome lease outcome).Uses fun effect =>
      (recoverPermits maxAttempts paymentId).spends effect = 0 := by
  obtain ⟨next, hpersist, hnext⟩ := @persistOutcome_next lease outcome
  rw [hpersist]
  exact ⟨rfl, fun answer => (hnext answer).mono fun _ => spends_of_reads⟩

theorem attempt_thrifty (hpolicy : policy.maxAttempts = maxAttempts)
    (hheld : lease.paymentId = paymentId ∧ lease.attemptNumber ≤ maxAttempts → 1 ≤ held) :
    Thrifty (recoverPermits maxAttempts paymentId) (fun _ _ => True) (attempt policy lease)
      held := by
  have hfree : ∀ {α : Type} {p : WorkerProcess α} {held : Nat},
      (p.Uses fun effect => (recoverPermits maxAttempts paymentId).spends effect = 0) →
        Thrifty (recoverPermits maxAttempts paymentId) (fun _ _ => True) p held :=
    fun huses => thrifty_mono (fun _ _ _ => trivial) (thrifty_of_uses huses)
  have hrecord : (readRecordTime lease).Uses fun effect =>
      (recoverPermits maxAttempts paymentId).spends effect = 0 :=
    (readRecordTime_uses lease).mono fun _ => spends_of_reads
  unfold attempt
  split
  · apply hfree
    exact Process.uses_bind hrecord fun recordedAt => persistOutcome_uses _
  · case isFalse hnumber =>
    refine ⟨?_, fun _ => hfree ⟨rfl, fun answer => ?_⟩⟩
    · by_cases hpayment : lease.paymentId = paymentId
      · simpa [recoverPermits, hpayment] using hheld ⟨hpayment, by omega⟩
      · simp [recoverPermits, hpayment]
    · apply Process.uses_bind hrecord
      intro recordedAt
      apply Process.uses_bind (Process.uses_ofExcept _)
      intro outcome
      exact persistOutcome_uses outcome

/-- A run calls the coordinator only for the lease that it has claimed, and once. -/
theorem runOnce_thrifty (hpolicy : policy.maxAttempts = maxAttempts) (aborted : Bool) :
    Thrifty (recoverPermits maxAttempts paymentId) (fun _ _ => True) (runOnce policy aborted)
      0 := by
  have hreads : ∀ {α : Type} {p : WorkerProcess α} {held : Nat}, p.Uses Reads →
      Thrifty (recoverPermits maxAttempts paymentId) (fun _ held' => held ≤ held') p held :=
    fun huses => thrifty_of_uses (huses.mono fun _ => spends_of_reads)
  unfold runOnce
  split
  · trivial
  · apply thrifty_bind
    apply thrifty_mono ?_ (hreads readClock_uses)
    intro claimedAt held _
    apply thrifty_bind
    apply thrifty_mono ?_ (hreads (Process.uses_ofExcept _))
    intro expiresAt held _
    apply thrifty_bind
    apply thrifty_mono ?_ (hreads makeLeaseToken_uses)
    intro leaseToken held _
    refine ⟨Nat.zero_le _, ?_⟩
    rintro (error | _ | lease)
    · trivial
    · trivial
    · apply attempt_thrifty hpolicy
      intro hlease
      simp [recoverPermits, hlease]

end Permitted

/-! ### The shared rows -/

section Shared

variable {db db' : Db} {maxAttempts : Nat} {paymentId : PaymentId}

theorem leases_of_change (h : Change db db') :
    ∃ rows, db.cashuStellarMeltRecoveryLeases.Appends rows db'.cashuStellarMeltRecoveryLeases := by
  cases h
  case leaseClaimed row leases _ _ hleases => exact ⟨[row], hleases⟩
  case paymentAccepted hdb _ _ _ =>
    subst hdb
    exact ⟨[], Table.Appends.refl _⟩
  all_goals exact ⟨[], Table.Appends.refl _⟩

theorem leases_of_step (h : Step db db') :
    ∃ rows, db.cashuStellarMeltRecoveryLeases.Appends rows db'.cashuStellarMeltRecoveryLeases := by
  rcases step_cases h with rfl | hchange
  · exact ⟨[], Table.Appends.refl _⟩
  · exact leases_of_change hchange

theorem Answers.committed {α : Type} {result : Except RecoveryJobError (α × Db)}
    {w w' : RecoveryWorld} {answer : Except RecoveryJobError α} (h : Answers result w answer w') :
    w' = w ∨ ∃ committed, result = .ok (committed, w'.db) ∧ w'.recovered = w.recovered := by
  cases h with
  | ok hresult => exact .inr ⟨_, hresult, rfl⟩
  | lost hresult => exact .inr ⟨_, hresult, rfl⟩
  | error => exact .inl rfl
  | unavailable => exact .inl rfl

theorem RecoveryWorld.Moves.step {w w' : RecoveryWorld} (h : w.Moves w') : Step w.db w'.db := by
  cases h with
  | other _ _ hrun => exact ⟨_, hrun⟩

theorem RecoveryWorld.Moves.outcomes {w w' : RecoveryWorld} (h : w.Moves w') :
    w'.db.cashuStellarMeltRecoveryOutcomes = w.db.cashuStellarMeltRecoveryOutcomes := by
  cases h with
  | other _ hrecord hrun => exact outcomes_of_run hrecord hrun

theorem RecoveryWorld.Moves.recovered {w w' : RecoveryWorld} (h : w.Moves w') :
    w'.recovered = w.recovered := by
  cases h
  rfl

/-! ### The permits that were granted -/

/-- The leases of a payment that are numbered up to the bound. -/
def permitted (maxAttempts : Nat) (paymentId : PaymentId) (db : Db) : List RecoveryLeaseRow :=
  db.cashuStellarMeltRecoveryLeases.select fun lease =>
    lease.paymentId = paymentId ∧ lease.attemptNumber ≤ maxAttempts

theorem permitted_of_appends {rows : List RecoveryLeaseRow}
    (h : db.cashuStellarMeltRecoveryLeases.Appends rows db'.cashuStellarMeltRecoveryLeases) :
    permitted maxAttempts paymentId db' = permitted maxAttempts paymentId db ++
      rows.filter fun lease => lease.paymentId = paymentId ∧ lease.attemptNumber ≤ maxAttempts :=
  h.select

theorem permitted_le_of_step (h : Step db db') :
    (permitted maxAttempts paymentId db).length ≤ (permitted maxAttempts paymentId db').length := by
  obtain ⟨rows, hrows⟩ := leases_of_step h
  rw [permitted_of_appends hrows, List.length_append]
  omega

theorem length_permitted_le (h : JobsSound db) :
    (permitted maxAttempts paymentId db).length ≤ maxAttempts := by
  have hnodup : ((permitted maxAttempts paymentId db).map (·.attemptNumber)).Nodup := by
    rw [List.Nodup, List.pairwise_map]
    have hunique : (permitted maxAttempts paymentId db).Pairwise fun row row' =>
        ¬Collide row row' :=
      db.cashuStellarMeltRecoveryLeases.unique.filter _
    refine hunique.imp_of_mem ?_
    intro row row' hrow hrow' hnot hnumber
    obtain ⟨-, hpayment, -⟩ := Table.mem_select.mp hrow
    obtain ⟨-, hpayment', -⟩ := Table.mem_select.mp hrow'
    exact hnot (.inr ⟨hpayment.trans hpayment'.symm, hnumber⟩)
  have hsubset : (permitted maxAttempts paymentId db).map (·.attemptNumber) ⊆
      List.range' 1 maxAttempts := by
    intro number hnumber
    obtain ⟨row, hrow, rfl⟩ := List.mem_map.mp hnumber
    obtain ⟨hmem, -, hbound⟩ := Table.mem_select.mp hrow
    obtain ⟨job, hjob, hpayment⟩ := h.lease row hmem
    have hchecks : row.Checks := by
      apply (h.history job hjob).leases (row, _)
      exact List.mem_map.mpr ⟨row, mem_leasesOf.mpr ⟨hmem, hpayment.symm⟩, rfl⟩
    have hpositive : 0 < row.attemptNumber := hchecks.1
    rw [List.mem_range'_1]
    omega
  have hlength := (List.subperm_of_subset hnodup hsubset).length_le
  rwa [List.length_map, List.length_range'] at hlength

/-- The calls that were made and the permits that were granted. -/
theorem recoverAccounts (maxAttempts : Nat) (paymentId : PaymentId) :
    Accounts (recoverPermits maxAttempts paymentId) workerPerforms RecoveryWorld.Moves
      (fun w => w.recovered.count paymentId)
      (fun w => (permitted maxAttempts paymentId w.db).length) where
  effect := by
    intro effect w answer w' h
    cases effect with
    | readClock => subst h; exact ⟨rfl, Nat.le_refl _⟩
    | makeLeaseToken => subst h; exact ⟨rfl, Nat.le_refl _⟩
    | recovered called => subst h; exact ⟨rfl, Nat.le_refl _⟩
    | findByPaymentId called =>
        obtain ⟨-, rfl⟩ := h
        exact ⟨rfl, Nat.le_refl _⟩
    | recover called =>
        obtain rfl : w' = { w with recovered := called :: w.recovered } := h
        refine ⟨?_, Nat.le_refl _⟩
        dsimp only [recoverPermits]
        rw [List.count_cons]
        simp only [beq_iff_eq]
    | recordOutcome input =>
        rcases Answers.committed h with rfl | ⟨result, hresult, hrecovered⟩
        · exact ⟨rfl, Nat.le_refl _⟩
        · have hstep : Step w.db w'.db :=
            ⟨.recordOutcome input, committed_eq_some.mpr ⟨result, hresult⟩⟩
          exact ⟨congrArg _ hrecovered, permitted_le_of_step hstep⟩
    | claimNext input =>
        obtain ⟨candidate, h⟩ := h
        have hkept : ∀ {w' : RecoveryWorld} {committed},
            claimNext w.db candidate input = .ok (committed, w'.db) →
              (permitted maxAttempts paymentId w.db).length ≤
                (permitted maxAttempts paymentId w'.db).length := by
          intro w' committed hresult
          exact permitted_le_of_step
            ⟨.claimNext candidate input, committed_eq_some.mpr ⟨committed, hresult⟩⟩
        cases h with
        | @ok answer db hresult =>
            refine ⟨rfl, ?_⟩
            rcases claimNext_ok hresult with
              ⟨rfl, rfl⟩ | ⟨row, leases, rfl, -, -, hleases, hdb⟩
            · exact Nat.le_refl _
            · have happends : w.db.cashuStellarMeltRecoveryLeases.Appends [row]
                  db.cashuStellarMeltRecoveryLeases := by
                rw [hdb]
                exact hleases
              rw [permitted_of_appends happends]
              by_cases hpermitted : row.paymentId = paymentId ∧ row.attemptNumber ≤ maxAttempts
              · simp [recoverPermits, hpermitted]
              · simp [recoverPermits, hpermitted]
        | lost hresult => exact ⟨rfl, @hkept { w with db := _ } _ hresult⟩
        | error => exact ⟨rfl, Nat.le_refl _⟩
        | unavailable => exact ⟨rfl, Nat.le_refl _⟩
  world := by
    intro w w' h
    exact ⟨congrArg _ h.recovered, permitted_le_of_step h.step⟩

/-! ### Leases beyond the bound -/

/-- A lease that is numbered beyond the bound has no outcome but that the retries are exhausted. -/
def LateExhausted (maxAttempts : Nat) (db : Db) : Prop :=
  ∀ lease ∈ db.cashuStellarMeltRecoveryLeases, maxAttempts < lease.attemptNumber →
    ∀ outcome ∈ db.cashuStellarMeltRecoveryOutcomes, outcome.leaseToken = lease.leaseToken →
      outcome.outcomeKind = .attentionRequired ∧
        outcome.reason = some (.attention .retryExhausted)

/-- The rows are those of a run of the acquirer, late leases are exhausted, and no lease is lost. -/
def recoveryDiscipline (maxAttempts : Nat) : Discipline RecoveryWorld where
  inv w := Reachable w.db ∧ LateExhausted maxAttempts w.db
  grows w w' := ∀ lease ∈ w.db.cashuStellarMeltRecoveryLeases,
    lease ∈ w'.db.cashuStellarMeltRecoveryLeases
  refl _ _ hlease := hlease
  trans h h' lease hlease := h' lease (h lease hlease)

theorem LateExhausted.of_outcomes (h : LateExhausted maxAttempts db) (hleased : OutcomesLeased db)
    {rows : List RecoveryLeaseRow}
    (hleases : db.cashuStellarMeltRecoveryLeases.Appends rows db'.cashuStellarMeltRecoveryLeases)
    (houtcomes : db'.cashuStellarMeltRecoveryOutcomes = db.cashuStellarMeltRecoveryOutcomes) :
    LateExhausted maxAttempts db' := by
  intro lease hlease hlate outcome houtcome htoken
  rw [houtcomes] at houtcome
  obtain ⟨held, hheld, hsame, -⟩ := hleased outcome houtcome
  have heq : held = lease :=
    Table.eq_of_collide (hleases.mem_of_mem hheld) hlease (.inl (hsame.trans htoken))
  exact h lease (heq ▸ hheld) hlate outcome houtcome htoken

theorem keeps_of_step {w w' : RecoveryWorld} (hinv : (recoveryDiscipline maxAttempts).inv w)
    (hstep : Step w.db w'.db)
    (houtcomes : w'.db.cashuStellarMeltRecoveryOutcomes = w.db.cashuStellarMeltRecoveryOutcomes) :
    (recoveryDiscipline maxAttempts).Keeps w w' := by
  obtain ⟨hreach, hlate⟩ := hinv
  obtain ⟨rows, hleases⟩ := leases_of_step hstep
  have hleased : OutcomesLeased w.db := (jobsSound_of_reachable hreach).outcome
  exact ⟨⟨hreach.tail hstep, hlate.of_outcomes hleased hleases houtcomes⟩,
    fun lease hlease => hleases.mem_of_mem hlease⟩

theorem keeps_of_claim {w w' : RecoveryWorld} {candidate : Option PaymentId} {input : ClaimInput}
    {answer : Except RecoveryJobError (Option CashuStellarMeltRecoveryLease)}
    (hinv : (recoveryDiscipline maxAttempts).inv w)
    (h : Answers (claimNext w.db candidate input) w answer w') :
    (recoveryDiscipline maxAttempts).Keeps w w' := by
  rcases h.committed with rfl | ⟨committed, hresult, -⟩
  · exact Discipline.keeps_self _ hinv
  · refine keeps_of_step hinv
      ⟨.claimNext candidate input, committed_eq_some.mpr ⟨committed, hresult⟩⟩ ?_
    rcases claimNext_ok hresult with ⟨-, hdb⟩ | ⟨row, leases, -, -, -, -, hdb⟩
    · rw [hdb]
    · rw [hdb]

theorem lease_of_claim {w w' : RecoveryWorld} {candidate : Option PaymentId} {input : ClaimInput}
    {lease : CashuStellarMeltRecoveryLease}
    (h : Answers (claimNext w.db candidate input) w (.ok (some lease)) w') :
    lease ∈ w'.db.cashuStellarMeltRecoveryLeases := by
  cases h with
  | @ok _ db hresult =>
      rcases claimNext_ok hresult with ⟨hnone, -⟩ | ⟨row, leases, hrow, -, -, hleases, rfl⟩
      · cases hnone
      · obtain rfl := Option.some.inj hrow
        exact hleases.mem.mpr (.inr List.mem_cons_self)

/-- Recording an outcome for a lease keeps the discipline when a late lease is exhausted by it. -/
theorem keeps_of_record {w w' : RecoveryWorld} {lease : CashuStellarMeltRecoveryLease}
    {outcome : CashuStellarMeltRecoveryLeaseOutcome}
    {answer : Except RecoveryJobError RecordOutcomeResult}
    (hinv : (recoveryDiscipline maxAttempts).inv w)
    (hlease : lease ∈ w.db.cashuStellarMeltRecoveryLeases)
    (hexhausted : maxAttempts < lease.attemptNumber →
      ∃ recordedAt, outcome = .attentionRequired .retryExhausted recordedAt)
    (h : Answers (recordOutcome w.db ⟨lease.leaseToken, outcome, lease.paymentId⟩) w answer w') :
    (recoveryDiscipline maxAttempts).Keeps w w' := by
  obtain ⟨hreach, hlate⟩ := hinv
  rcases h.committed with rfl | ⟨committed, hresult, -⟩
  · exact Discipline.keeps_self _ ⟨hreach, hlate⟩
  · have hstep : Step w.db w'.db :=
      ⟨.recordOutcome _, committed_eq_some.mpr ⟨committed, hresult⟩⟩
    obtain ⟨rows, hleases⟩ := leases_of_step hstep
    refine ⟨⟨hreach.tail hstep, ?_⟩, fun lease hlease => hleases.mem_of_mem hlease⟩
    rcases recordOutcome_ok hresult with hdb | ⟨outcomes, -, -, houtcomes, hdb⟩
    · rw [hdb]
      exact hlate
    · rw [hdb]
      intro other hother hnumber row hrow htoken
      rcases houtcomes.mem.mp hrow with hold | hnew
      · exact hlate other hother hnumber row hold htoken
      · rw [List.mem_singleton.mp hnew] at htoken ⊢
        have hsame : lease = other := Table.eq_of_collide hlease hother (.inl htoken)
        obtain ⟨recordedAt, rfl⟩ := hexhausted (hsame ▸ hnumber)
        exact ⟨rfl, rfl⟩

section Discipline

open RecoveryWorker

variable {w : RecoveryWorld} {policy : RecoveryWorkerPolicy}
variable {lease : CashuStellarMeltRecoveryLease}

theorem keeps_of_reads {effect : WorkerEffect} {w w' : RecoveryWorld} {answer : WorkerAnswer effect}
    (hreads : Reads effect) (hinv : (recoveryDiscipline maxAttempts).inv w)
    (h : workerPerforms effect w answer w') : (recoveryDiscipline maxAttempts).Keeps w w' := by
  have hsame : w' = w := by
    cases effect with
    | readClock => exact h
    | makeLeaseToken => exact h
    | recovered called => exact h
    | findByPaymentId called => exact h.2
    | claimNext | recover | recordOutcome => exact absurd hreads id
  rw [hsame]
  exact Discipline.keeps_self _ hinv

theorem safe_of_reads {α : Type} {p : WorkerProcess α} (hp : p.Uses Reads) :
    Safe workerPerforms (recoveryDiscipline maxAttempts)
      (fun _ w' => (recoveryDiscipline maxAttempts).grows w w') (fun _ _ => True) p w :=
  safe_mono (fun _ _ h => h) (fun _ _ _ => trivial)
    (safe_of_uses (fun _ _ _ _ hreads hinv => keeps_of_reads hreads hinv) hp)

theorem persistOutcome_safe {outcome : CashuStellarMeltRecoveryLeaseOutcome}
    (hlease : lease ∈ w.db.cashuStellarMeltRecoveryLeases)
    (hexhausted : maxAttempts < lease.attemptNumber →
      ∃ recordedAt, outcome = .attentionRequired .retryExhausted recordedAt) :
    Safe workerPerforms (recoveryDiscipline maxAttempts) (fun _ _ => True) (fun _ _ => True)
      (persistOutcome lease outcome) w := by
  obtain ⟨next, hpersist, hnext⟩ := @persistOutcome_next lease outcome
  rw [hpersist]
  intro w₁ hinv hgrow answer w₂ hperform
  refine ⟨keeps_of_record hinv (hgrow lease hlease) hexhausted hperform, ?_⟩
  exact safe_mono (fun _ _ _ => trivial) (fun _ _ _ => trivial) (safe_of_reads (hnext answer))

theorem attempt_safe (hpolicy : policy.maxAttempts = maxAttempts)
    (hlease : lease ∈ w.db.cashuStellarMeltRecoveryLeases) :
    Safe workerPerforms (recoveryDiscipline maxAttempts) (fun _ _ => True) (fun _ _ => True)
      (attempt policy lease) w := by
  unfold attempt
  split
  · apply safe_bind
    apply safe_mono ?_ (fun _ _ h => h) (safe_of_reads (readRecordTime_uses lease))
    intro recordedAt w₁ hgrow
    exact persistOutcome_safe (hgrow lease hlease) fun _ => ⟨recordedAt, rfl⟩
  · case isFalse hnumber =>
    intro w₁ hinv hgrow _ w₂ hperform
    obtain rfl : w₂ = { w₁ with recovered := lease.paymentId :: w₁.recovered } := hperform
    refine ⟨⟨hinv, fun _ hkept => hkept⟩, ?_⟩
    intro w₃ hinv₃ hgrow₃ answer w₄ hperform₄
    obtain rfl : w₄ = w₃ := hperform₄
    refine ⟨Discipline.keeps_self _ hinv₃, ?_⟩
    show Safe _ _ _ _ (readRecordTime lease >>= _) _
    apply safe_bind
    apply safe_mono ?_ (fun _ _ h => h) (safe_of_reads (readRecordTime_uses lease))
    intro recordedAt w₅ hgrow₅
    apply safe_bind
    apply safe_mono ?_ (fun _ _ h => h) (safe_of_reads (Process.uses_ofExcept _))
    intro outcome w₆ hgrow₆
    apply persistOutcome_safe
    · exact hgrow₆ lease (hgrow₅ lease (hgrow₃ lease (hgrow lease hlease)))
    · intro hlate
      omega

theorem runOnce_safe (hpolicy : policy.maxAttempts = maxAttempts) (aborted : Bool) :
    Safe workerPerforms (recoveryDiscipline maxAttempts) (fun _ _ => True) (fun _ _ => True)
      (runOnce policy aborted) w := by
  unfold runOnce
  split
  · trivial
  · apply safe_bind
    apply safe_mono ?_ (fun _ _ h => h) (safe_of_reads readClock_uses)
    intro claimedAt w₁ _
    apply safe_bind
    apply safe_mono ?_ (fun _ _ h => h) (safe_of_reads (Process.uses_ofExcept _))
    intro expiresAt w₂ _
    apply safe_bind
    apply safe_mono ?_ (fun _ _ h => h) (safe_of_reads makeLeaseToken_uses)
    intro leaseToken w₃ _ w₄ hinv _ answer w₅ hperform
    obtain ⟨candidate, hclaim⟩ := hperform
    refine ⟨keeps_of_claim hinv hclaim, ?_⟩
    rcases answer with error | _ | lease
    · trivial
    · trivial
    · exact attempt_safe hpolicy (lease_of_claim hclaim)

end Discipline

end Shared

/-! ### Every run -/

/-- In every run the rows are those of a run of the acquirer, and late leases are exhausted. -/
theorem recoveryDiscipline_of_reachable {maxAttempts : Nat}
    {c : Pool RecoveryWorld (WorkerProcess RecoveryWorkerResult)}
    (hreach : RecoveryReachable maxAttempts c) :
    (recoveryDiscipline maxAttempts).inv c.shared := by
  have hempty : Pool.Sound workerPerforms (recoveryDiscipline maxAttempts) (fun _ _ => True)
      (fun _ _ => True)
      (⟨⟨Db.empty, []⟩, []⟩ : Pool RecoveryWorld (WorkerProcess RecoveryWorkerResult)) := by
    refine ⟨⟨.refl, ?_⟩, ?_⟩
    · intro lease hlease
      exact absurd hlease List.not_mem_nil
    · intro p hp
      exact absurd hp List.not_mem_nil
  refine (Pool.sound_of_run (fun _ _ _ h _ => h) (fun _ _ _ h _ => h) ?_ ?_ hempty hreach).1.inv
  · rintro p w ⟨policy, aborted, hpolicy, rfl⟩ -
    exact runOnce_safe hpolicy aborted
  · intro w w' hinv hworld
    exact keeps_of_step hinv hworld.step hworld.outcomes

/-- In every run the coordinator is called for a payment at most as often as the bound says. -/
theorem count_recovered_le {maxAttempts : Nat}
    {c : Pool RecoveryWorld (WorkerProcess RecoveryWorkerResult)}
    (hreach : RecoveryReachable maxAttempts c) (paymentId : PaymentId) :
    c.shared.recovered.count paymentId ≤ maxAttempts := by
  have hbalanced := Pool.balanced_of_run (recoverAccounts maxAttempts paymentId)
    (by
      rintro p ⟨policy, aborted, hpolicy, rfl⟩
      exact runOnce_thrifty hpolicy aborted)
    ⟨[], rfl, by simp, by simp⟩ hreach
  calc c.shared.recovered.count paymentId
      ≤ (permitted maxAttempts paymentId c.shared.db).length := hbalanced.spent_le
    _ ≤ maxAttempts :=
        length_permitted_le (jobsSound_of_reachable (recoveryDiscipline_of_reachable hreach).1)

/-- The attempts are bounded: in every run of workers with the bound, whichever crash, lose their
leases or fail, the coordinator is called for a payment at most as often as the bound says, and a lease
beyond the bound records nothing but that the retries are exhausted. Whatever the coordinator answers,
the outcome that a worker selects is the one that the attempt comes to, another attempt exactly after a
retryable answer while there is one left; it passes the checks of the repository and of the table, and
its next attempt comes after the record, at a safe time and after a delay that doubles up to its
maximum. -/
theorem recovery_attempts_bounded {maxAttempts : Nat}
    {c : Pool RecoveryWorld (WorkerProcess RecoveryWorkerResult)}
    (hreach : RecoveryReachable maxAttempts c) :
    (∀ paymentId, c.shared.recovered.count paymentId ≤ maxAttempts) ∧
      (∀ lease ∈ c.shared.db.cashuStellarMeltRecoveryLeases, maxAttempts < lease.attemptNumber →
        ∀ outcome ∈ c.shared.db.cashuStellarMeltRecoveryOutcomes,
          outcome.leaseToken = lease.leaseToken →
            outcome.outcomeKind = .attentionRequired ∧
              outcome.reason = some (.attention .retryExhausted)) ∧
      (∀ (policy : RecoveryWorkerPolicy) (lease : CashuStellarMeltRecoveryLease)
          (recordedAt : UnixTimestamp)
          (answer : Except RecoverFailure CashuStellarMeltRecoveryResult),
        recordedAt ≤ maxSafeInteger - maxRetrySeconds →
          ∃ outcome, selectOutcome policy lease recordedAt answer = .ok outcome ∧
            (∀ other, AttemptOutcome policy lease recordedAt answer other ↔ other = outcome) ∧
            validateOutcome ⟨lease.leaseToken, outcome, lease.paymentId⟩ = .ok () ∧
            (RecordOutcomeInput.row ⟨lease.leaseToken, outcome, lease.paymentId⟩).Checks ∧
            ∀ nextAttemptAt ∈ outcome.nextAttemptAt,
              nextAttemptAt = recordedAt + min
                  (policy.retryBaseSeconds * 2 ^ (lease.attemptNumber - 1))
                  policy.retryMaxSeconds ∧
                policy.retryBaseSeconds * 2 ^ (lease.attemptNumber - 1) ≤ maxSafeInteger ∧
                recordedAt < nextAttemptAt ∧ nextAttemptAt ≤ maxSafeInteger) ∧
      ∀ (policy : RecoveryWorkerPolicy) (attemptNumber later : Nat), attemptNumber ≤ later →
        min (policy.retryBaseSeconds * 2 ^ (attemptNumber - 1)) policy.retryMaxSeconds ≤
          min (policy.retryBaseSeconds * 2 ^ (later - 1)) policy.retryMaxSeconds := by
  refine ⟨count_recovered_le hreach, (recoveryDiscipline_of_reachable hreach).2, ?_,
    fun policy _ _ hle => retryDelay_mono policy hle⟩
  intro policy lease recordedAt answer hclock
  obtain ⟨outcome, houtcome⟩ := exists_attemptOutcome policy lease recordedAt answer
  have hselected := houtcome.selected hclock
  have hvalid := houtcome.validated hclock
  refine ⟨outcome, hselected, ?_, hvalid, checks_of_validateOutcome hvalid, ?_⟩
  · intro other
    rw [← selectOutcome_eq_ok hclock, hselected, Except.ok.injEq]
    exact eq_comm
  · intro nextAttemptAt hnext
    obtain ⟨hretried, htime⟩ := houtcome.next hnext
    exact ⟨htime, retryProduct_le policy hretried, houtcome.next_bounds hclock hnext⟩

namespace Sample

/-- The defaults. -/
def recoveryPolicy : RecoveryWorkerPolicy where
  attemptTimeoutMs := defaultRecoveryAttemptTimeoutMs
  leaseDurationSeconds := defaultRecoveryLeaseSeconds
  maxAttempts := defaultRecoveryMaxAttempts
  retryBaseSeconds := defaultRecoveryRetryBaseSeconds
  retryMaxSeconds := defaultRecoveryRetryMaxSeconds
  workerId := ⟨"recovery-worker", by decide⟩
  bounds := policyBounds_default

/-- The claim that a run with the defaults makes at 1075. -/
def recoveryClaim : ClaimInput where
  claimedAt := 1075
  expiresAt := 1165
  leaseToken := ⟨"recovery-lease", by decide⟩
  workerId := recoveryPolicy.workerId

end Sample

/-- Operations other than those of the workers reach what they reach without workers. -/
theorem recoveryReachable_foldl {maxAttempts : Nat} {db : Db} (operations : List Operation)
    (hothers : ∀ operation ∈ operations, (∀ candidate input, operation ≠ .claimNext candidate input) ∧
      ∀ input, operation ≠ .recordOutcome input)
    (hreach : RecoveryReachable maxAttempts ⟨⟨db, []⟩, []⟩) :
    RecoveryReachable maxAttempts ⟨⟨operations.foldl Operation.perform db, []⟩, []⟩ := by
  induction operations generalizing db with
  | nil => exact hreach
  | cons operation operations ih =>
      obtain ⟨hclaim, hrecord⟩ := hothers operation List.mem_cons_self
      apply ih fun other hother => hothers other (List.mem_cons_of_mem _ hother)
      unfold Operation.perform
      cases hrun : operation.run db with
      | none => exact hreach
      | some db' => exact hreach.tail (.world (.other hclaim hrecord hrun))

theorem RecoveryReachable.effect {maxAttempts : Nat} {w w' : RecoveryWorld} {effect : WorkerEffect}
    {next : WorkerAnswer effect → WorkerProcess RecoveryWorkerResult} {answer : WorkerAnswer effect}
    (hreach : RecoveryReachable maxAttempts ⟨w, [.ask effect next]⟩)
    (hperform : workerPerforms effect w answer w') :
    RecoveryReachable maxAttempts ⟨w', [next answer]⟩ :=
  hreach.tail (@Pool.Step.effect _ _ _ _ _ _ _ _ w w' [] [] effect next answer hperform)

set_option maxRecDepth 10000 in
theorem recovery_attempts_bounded_claimed :
    ∃ c, RecoveryReachable 6 c ∧ c.shared.recovered = [Sample.paymentId] ∧
      c.shared.recovered.count Sample.paymentId ≤ 6 := by
  have hdispatched : RecoveryReachable 6 ⟨⟨Sample.after [], []⟩, []⟩ := by
    apply recoveryReachable_foldl _ ?_ .refl
    simp [Sample.intake, Sample.startEffect]
  have hclaimed : ∃ lease db, claimNext (Sample.after []) (some Sample.paymentId)
      Sample.recoveryClaim = .ok (some lease, db) ∧ lease.attemptNumber = 1 ∧
        lease.paymentId = Sample.paymentId := by
    have hanswer : ((claimNext (Sample.after []) (some Sample.paymentId)
        Sample.recoveryClaim).toOption.bind Prod.fst).map
          (fun lease => (lease.attemptNumber, lease.paymentId)) = some (1, Sample.paymentId) := by
      decide +kernel
    obtain ⟨lease, hlease, hpair⟩ := Option.map_eq_some_iff.mp hanswer
    obtain ⟨hnumber, hpayment⟩ := Prod.mk.inj hpair
    cases hresult : claimNext (Sample.after []) (some Sample.paymentId) Sample.recoveryClaim with
    | error error =>
        rw [hresult] at hlease
        cases hlease
    | ok result =>
        obtain ⟨claimed, db⟩ := result
        rw [hresult] at hlease
        obtain rfl : claimed = some lease := hlease
        exact ⟨lease, db, rfl, hnumber, hpayment⟩
  obtain ⟨lease, db, hresult, hnumber, hpayment⟩ := hclaimed
  have hstarted : RecoveryReachable 6
      ⟨⟨Sample.after [], []⟩, [RecoveryWorker.runOnce Sample.recoveryPolicy false]⟩ :=
    hdispatched.tail (.start ⟨Sample.recoveryPolicy, false, rfl, rfl⟩)
  have hclock := hstarted.effect (show workerPerforms .readClock _ (some 1075) _ from rfl)
  have htoken := RecoveryReachable.effect hclock
    (show workerPerforms .makeLeaseToken _ (some Sample.recoveryClaim.leaseToken) _ from rfl)
  have hlease := RecoveryReachable.effect htoken
    (show workerPerforms (.claimNext Sample.recoveryClaim) _ (.ok (some lease)) _ from
      ⟨some Sample.paymentId, .ok hresult⟩)
  have hcalled : ∃ running, RecoveryReachable 6 ⟨⟨db, [Sample.paymentId]⟩, running⟩ := by
    have hlate : ¬Sample.recoveryPolicy.maxAttempts < lease.attemptNumber := by
      rw [hnumber]
      decide
    have hattempt : RecoveryReachable 6
        ⟨⟨db, []⟩, [RecoveryWorker.attempt Sample.recoveryPolicy lease]⟩ := hlease
    unfold RecoveryWorker.attempt at hattempt
    rw [if_neg hlate] at hattempt
    have hrecover := RecoveryReachable.effect hattempt
      (show workerPerforms (.recover lease.paymentId) _ () _ from rfl)
    rw [hpayment] at hrecover
    exact ⟨_, hrecover⟩
  obtain ⟨running, hreach⟩ := hcalled
  exact ⟨_, hreach, rfl, (recovery_attempts_bounded hreach).1 Sample.paymentId⟩

end CashMesh.Acquirer
