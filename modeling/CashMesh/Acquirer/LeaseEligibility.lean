import CashMesh.Acquirer.RecoveryHistory
import CashMesh.Lib.ThreeValued
/-!
# Eligibility of a recovery job, read twice

The queries of `claimNext` and the trigger of the leases each decide whether the next attempt of a job
may begin: the queries by one condition over joined rows, the trigger by the branches of a procedure
over records whose columns are null when no row was found. Both are written here condition by
condition, in the logic of three values, and agree on every history.
-/

namespace CashMesh.Acquirer

open CashMesh.Lib

/-! ### The queries -/

/-- `state IN (…)` -/
def lifecycleIn (state : Option LifecycleEventState) (states : List LifecycleEventState) : Truth :=
  .compare (· ∈ ·) state (some states)

/-- A job with the rows that the queries join to it, which may be missing. -/
structure JobJoin where
  job : RecoveryJobRow
  latestLease : Option RecoveryLeaseRow
  latestOutcome : Option RecoveryOutcomeRow
  lifecycleState : Option LifecycleEventState

/-- The outcome of the latest lease. -/
def Db.latestOutcome (db : Db) (paymentId : PaymentId) : Option RecoveryOutcomeRow :=
  (db.latestLease paymentId).bind fun lease => db.recoveryOutcome lease.leaseToken

def Db.jobJoin (db : Db) (job : RecoveryJobRow) : JobJoin where
  job := job
  latestLease := db.latestLease job.paymentId
  latestOutcome := db.latestOutcome job.paymentId
  lifecycleState := db.latestState job.paymentId

/-- The condition of both queries. -/
def JobJoin.eligible (row : JobJoin) (claimedAt : UnixTimestamp) : Truth :=
  (lifecycleIn row.lifecycleState [.dispatchStarted, .pending, .needsAttention]).and <|
    ((Truth.isNull (row.latestLease.map (·.leaseToken))).and <|
      .compare (· ≤ ·) (some row.job.initialAttemptAt) (some claimedAt)).or <|
    ((Truth.isNotNull (row.latestLease.map (·.leaseToken))).and <|
      (Truth.isNull (row.latestOutcome.map (·.leaseToken))).and <|
      .compare (· ≤ ·) (row.latestLease.map (·.expiresAt)) (some claimedAt)).or <|
    (Truth.compare (· = ·) (row.latestOutcome.map (·.outcomeKind)) (some .retryScheduled)).and <|
      .compare (· ≤ ·) (row.latestOutcome.bind (·.nextAttemptAt)) (some claimedAt)

/-- The jobs that the candidate query selects from. -/
def Db.candidates (db : Db) (claimedAt : UnixTimestamp) : List RecoveryJobRow :=
  db.cashuStellarMeltRecoveryJobs.select fun job => ((db.jobJoin job).eligible claimedAt).Holds

/-- A row of the eligibility query. -/
structure EligibilityRow where
  attemptNumber : Nat
  isEligible : Truth
deriving DecidableEq

/-- The eligibility query, over the job that is locked. -/
def Db.eligibility (db : Db) (paymentId : PaymentId) (claimedAt : UnixTimestamp) :
    Option EligibilityRow :=
  (db.recoveryJob paymentId).map fun job =>
    let row := db.jobJoin job
    ⟨(row.latestLease.map (·.attemptNumber)).getD 0 + 1, row.eligible claimedAt⟩

/-- `claimNext` goes on to lease this attempt. -/
def Db.SelectsAttempt (db : Db) (paymentId : PaymentId) (claimedAt : UnixTimestamp)
    (attemptNumber : Nat) : Prop :=
  ∃ row ∈ db.eligibility paymentId claimedAt,
    row.isEligible.Holds ∧ 1 ≤ row.attemptNumber ∧ row.attemptNumber = attemptNumber

/-! ### The trigger -/

/-- `eligible_at`, or an error where the trigger raises on the way to it. -/
def triggerEligibleAt (jobRecord : Option RecoveryJobRow) (latestLease : Option RecoveryLeaseRow)
    (latestOutcome : Option RecoveryOutcomeRow) (new : RecoveryLeaseRow) :
    Except DbError (Option UnixTimestamp) :=
  if (Truth.isNull (latestLease.map (·.leaseToken))).Holds then
    if (Truth.compare (· ≠ ·) (some new.attemptNumber) (some 1)).Holds then
      throw .checkViolation
    else
      return jobRecord.map (·.initialAttemptAt)
  else if (Truth.compare (· ≠ ·) (some new.attemptNumber)
      (latestLease.map (·.attemptNumber + 1))).Holds then
    throw .checkViolation
  else if (Truth.isNull (latestOutcome.map (·.leaseToken))).Holds then
    return latestLease.map (·.expiresAt)
  else if (Truth.compare (· = ·) (latestOutcome.map (·.outcomeKind))
      (some .retryScheduled)).Holds then
    return latestOutcome.bind (·.nextAttemptAt)
  else
    throw .objectNotInPrerequisiteState

/-- The first condition on which the trigger raises: the job is not active. -/
def jobInactive (jobRecord : Option RecoveryJobRow) (lifecycleState : Option LifecycleEventState) :
    Truth :=
  (Truth.isNull (jobRecord.map (·.paymentId))).or <|
  (Truth.isNull lifecycleState).or <|
  lifecycleIn lifecycleState [.consumed, .released]

/-- The last one: the lease is not yet eligible. -/
def leaseEarly (eligibleAt : Option UnixTimestamp) (new : RecoveryLeaseRow) : Truth :=
  (Truth.isNull eligibleAt).or <|
  .compare (· < ·) (some new.claimedAt) eligibleAt

/-- `cashmesh_validate_stellar_melt_recovery_lease`. -/
def validateRecoveryLease (db : Db) (new : RecoveryLeaseRow) : Except DbError Unit :=
  let jobRecord := db.recoveryJob new.paymentId
  if (jobInactive jobRecord (db.latestState new.paymentId)).Holds then
    throw .objectNotInPrerequisiteState
  else do
    let eligibleAt ← triggerEligibleAt jobRecord (db.latestLease new.paymentId)
      (db.latestOutcome new.paymentId) new
    if (leaseEarly eligibleAt new).Holds then
      throw .objectNotInPrerequisiteState
    else
      return ()

/-! ### The two readings -/

variable {db : Db}

theorem holds_isNull {α : Type} {value : Option α} : (Truth.isNull value).Holds ↔ value = none := by
  rw [Truth.isNull, Truth.holds_of, Option.isNone_iff_eq_none]

theorem holds_lifecycleIn {state : Option LifecycleEventState} {states : List LifecycleEventState} :
    (lifecycleIn state states).Holds ↔ ∃ s ∈ state, s ∈ states := by
  simp [lifecycleIn]

theorem active_iff_mem {state : LifecycleEventState} :
    state.toReservationState.Active ↔
      state ∈ [LifecycleEventState.dispatchStarted, .pending, .needsAttention] := by
  cases state <;> decide

theorem terminal_iff_mem {state : LifecycleEventState} :
    state.toReservationState.Terminal ↔ state ∈ [LifecycleEventState.consumed, .released] := by
  cases state <;> decide

theorem active_iff_not_terminal {state : LifecycleEventState} :
    state.toReservationState.Active ↔ ¬state.toReservationState.Terminal := by
  cases state <;> decide

/-- The next lease of the job may begin at the time, by the latest lease and its outcome. -/
def DueAt (job : RecoveryJobRow) (latestLease : Option RecoveryLeaseRow)
    (latestOutcome : Option RecoveryOutcomeRow) (claimedAt : UnixTimestamp) : Prop :=
  ∃ time, eligibleAt job latestLease latestOutcome = some (some time) ∧ time ≤ claimedAt

/-- What the queries select by is that the job is active and due. -/
theorem eligible_holds {job : RecoveryJobRow} {claimedAt : UnixTimestamp} :
    ((db.jobJoin job).eligible claimedAt).Holds ↔
      (∃ state ∈ db.latestState job.paymentId, state.toReservationState.Active) ∧
        DueAt job (db.latestLease job.paymentId) (db.latestOutcome job.paymentId) claimedAt := by
  simp only [JobJoin.eligible, Truth.holds_and, holds_lifecycleIn, Db.jobJoin, active_iff_mem]
  apply and_congr_right
  intro _
  simp only [Truth.holds_or, Truth.holds_and, holds_isNull, Truth.holds_isNotNull,
    Truth.holds_compare, Option.map_eq_none_iff, Option.isSome_map]
  cases hlease : db.latestLease job.paymentId with
  | none =>
      have houtcome : db.latestOutcome job.paymentId = none := by rw [Db.latestOutcome, hlease]; rfl
      simp [DueAt, eligibleAt, houtcome]
  | some lease =>
      cases houtcome : db.latestOutcome job.paymentId with
      | none => simp [DueAt, eligibleAt]
      | some outcome =>
          by_cases hretry : outcome.outcomeKind = .retryScheduled
          · simp [DueAt, eligibleAt, hretry]
          · have hother := Ne.symm hretry
            simp [DueAt, eligibleAt, hretry, hother]

theorem triggerEligibleAt_eq_ok {job : RecoveryJobRow} {new : RecoveryLeaseRow}
    {latestLease : Option RecoveryLeaseRow} {latestOutcome : Option RecoveryOutcomeRow}
    {time : Option UnixTimestamp} :
    triggerEligibleAt (some job) latestLease latestOutcome new = .ok time ↔
      new.attemptNumber = nextAttemptNumber latestLease ∧
        eligibleAt job latestLease latestOutcome = some time := by
  cases latestLease with
  | none =>
      by_cases hnumber : new.attemptNumber = 1
      · simp [triggerEligibleAt, holds_isNull, nextAttemptNumber, eligibleAt, hnumber, pure_eq_ok]
      · simp [triggerEligibleAt, holds_isNull, nextAttemptNumber, eligibleAt, hnumber]
  | some lease =>
      by_cases hnumber : new.attemptNumber = lease.attemptNumber + 1
      · cases latestOutcome with
        | none =>
            simp [triggerEligibleAt, holds_isNull, nextAttemptNumber, eligibleAt, hnumber, pure_eq_ok]
        | some outcome =>
            by_cases hretry : outcome.outcomeKind = .retryScheduled
            · simp [triggerEligibleAt, holds_isNull, nextAttemptNumber, eligibleAt, hnumber, hretry,
                pure_eq_ok]
            · have hother := Ne.symm hretry
              simp [triggerEligibleAt, holds_isNull, nextAttemptNumber, eligibleAt, hnumber, hretry,
                hother]
      · simp [triggerEligibleAt, holds_isNull, nextAttemptNumber, hnumber]

theorem not_jobInactive {jobRecord : Option RecoveryJobRow} {state : Option LifecycleEventState} :
    ¬(jobInactive jobRecord state).Holds ↔
      (∃ job, jobRecord = some job) ∧ ∃ s ∈ state, ¬s.toReservationState.Terminal := by
  simp only [jobInactive, Truth.holds_or, holds_isNull, holds_lifecycleIn, Option.map_eq_none_iff,
    ← terminal_iff_mem]
  cases jobRecord with
  | none => simp
  | some job =>
      cases state with
      | none => simp
      | some s => simp

theorem not_leaseEarly {eligibleAt : Option UnixTimestamp} {new : RecoveryLeaseRow} :
    ¬(leaseEarly eligibleAt new).Holds ↔ ∃ time, eligibleAt = some time ∧ time ≤ new.claimedAt := by
  simp only [leaseEarly, Truth.holds_or, holds_isNull, Truth.holds_compare]
  cases eligibleAt with
  | none => simp
  | some time => simp

/-- What the trigger accepts is the next lease of a job that is not terminal and is due. -/
theorem validateRecoveryLease_eq_ok {new : RecoveryLeaseRow} :
    validateRecoveryLease db new = .ok () ↔
      ∃ job ∈ db.recoveryJob new.paymentId,
        (∃ state ∈ db.latestState new.paymentId, ¬state.toReservationState.Terminal) ∧
          new.attemptNumber = nextAttemptNumber (db.latestLease new.paymentId) ∧
          DueAt job (db.latestLease new.paymentId) (db.latestOutcome new.paymentId) new.claimedAt := by
  constructor
  · intro h
    by_cases hactive : (jobInactive (db.recoveryJob new.paymentId)
        (db.latestState new.paymentId)).Holds
    · rw [validateRecoveryLease, if_pos hactive] at h
      cases h
    · rw [validateRecoveryLease, if_neg hactive, bind_eq_ok] at h
      obtain ⟨⟨job, hjob⟩, hstate⟩ := not_jobInactive.mp hactive
      obtain ⟨time, htime, h⟩ := h
      rw [hjob, triggerEligibleAt_eq_ok] at htime
      by_cases hearly : (leaseEarly time new).Holds
      · rw [if_pos hearly] at h
        cases h
      · obtain ⟨due, rfl, hle⟩ := not_leaseEarly.mp hearly
        exact ⟨job, hjob, hstate, htime.1, due, htime.2, hle⟩
  · intro h
    obtain ⟨job, hjob, hstate, hnumber, due, htime, hle⟩ := h
    have hactive := not_jobInactive.mpr ⟨⟨job, hjob⟩, hstate⟩
    have hearly := not_leaseEarly.mpr ⟨due, rfl, hle⟩
    rw [validateRecoveryLease, if_neg hactive, bind_eq_ok]
    refine ⟨some due, ?_, by rw [if_neg hearly]; rfl⟩
    rw [show db.recoveryJob new.paymentId = some job from hjob, triggerEligibleAt_eq_ok]
    exact ⟨hnumber, htime⟩

theorem insertRecoveryLease_eq (s : Session) (row : RecoveryLeaseRow) :
    (∃ s', insertRecoveryLease s row = .ok s') ↔
      validateRecoveryLease s.db row = .ok () ∧ row.Checks ∧
        ∃ table, insertRow s.db.cashuStellarMeltRecoveryLeases row .cashuStellarMeltRecoveryLeases =
          .ok table := by
  rw [validateRecoveryLease_eq_ok]
  simp only [insertRecoveryLease, bind_eq_ok, orFail_eq_ok, ensure_eq_ok, exists_unit, pure_eq_ok,
    Except.ok.injEq]
  constructor
  · intro h
    obtain ⟨s', job, hjob, hstate, hnumber, time, htime, ⟨at', hat, hle⟩, hchecks, table, htable, -⟩ := h
    obtain rfl := Option.mem_def.mp hat
    exact ⟨⟨job, hjob, hstate, hnumber, at', htime, hle⟩, hchecks, table, htable⟩
  · intro h
    obtain ⟨⟨job, hjob, hstate, hnumber, time, htime, hle⟩, hchecks, table, htable⟩ := h
    exact ⟨_, job, hjob, hstate, hnumber, some time, htime, ⟨time, rfl, hle⟩, hchecks, table, htable,
      rfl⟩

/-! ### Agreement -/

theorem selectsAttempt_iff {paymentId : PaymentId} {claimedAt : UnixTimestamp} {n : Nat} :
    db.SelectsAttempt paymentId claimedAt n ↔
      ∃ job ∈ db.recoveryJob paymentId,
        (∃ state ∈ db.latestState paymentId, state.toReservationState.Active) ∧
          n = nextAttemptNumber (db.latestLease paymentId) ∧
          DueAt job (db.latestLease paymentId) (db.latestOutcome paymentId) claimedAt := by
  have hnumber : ((db.latestLease paymentId).map (·.attemptNumber)).getD 0 + 1 =
      nextAttemptNumber (db.latestLease paymentId) := by
    cases db.latestLease paymentId with
    | none => rfl
    | some lease => rfl
  constructor
  · intro h
    obtain ⟨row, hrow, heligible, -, rfl⟩ := h
    obtain ⟨job, hjob, rfl⟩ := Option.map_eq_some_iff.mp hrow
    obtain ⟨-, rfl⟩ := Table.find_some hjob
    obtain ⟨hactive, hdue⟩ := eligible_holds.mp heligible
    exact ⟨job, hjob, hactive, hnumber, hdue⟩
  · intro h
    obtain ⟨job, hjob, hactive, rfl, hdue⟩ := h
    obtain ⟨-, rfl⟩ := Table.find_some hjob
    refine ⟨_, Option.map_eq_some_iff.mpr ⟨job, hjob, rfl⟩, eligible_holds.mpr ⟨hactive, hdue⟩, ?_,
      hnumber⟩
    exact Nat.le_add_left 1 _

theorem isEligible_iff {job : RecoveryJobRow} {claimedAt : UnixTimestamp} :
    IsEligible db job claimedAt ↔ ((db.jobJoin job).eligible claimedAt).Holds := by
  rw [eligible_holds]
  simp only [IsEligible]
  apply and_congr_right
  intro _
  cases hlease : db.latestLease job.paymentId with
  | none =>
      simp [DueAt, eligibleAt]
  | some lease =>
      have hread : db.latestOutcome job.paymentId = db.recoveryOutcome lease.leaseToken := by
        rw [Db.latestOutcome, hlease]
        rfl
      rw [hread]
      cases houtcome : db.recoveryOutcome lease.leaseToken with
      | none => simp [DueAt, eligibleAt, houtcome]
      | some outcome =>
          by_cases hretry : outcome.outcomeKind = .retryScheduled
          · simp [DueAt, eligibleAt, houtcome, hretry]
          · simp [DueAt, eligibleAt, houtcome, hretry]

/-- The row of a lease that is claimed. -/
def ClaimInput.leaseRow (input : ClaimInput) (paymentId : PaymentId) (n : Nat) : RecoveryLeaseRow where
  leaseToken := input.leaseToken
  paymentId := paymentId
  attemptNumber := n
  workerId := input.workerId
  claimedAt := input.claimedAt
  expiresAt := input.expiresAt

theorem trigger_iff_selectsAttempt {input : ClaimInput} {paymentId : PaymentId} {n : Nat} :
    validateRecoveryLease db (input.leaseRow paymentId n) = .ok () ↔
      db.SelectsAttempt paymentId input.claimedAt n := by
  rw [validateRecoveryLease_eq_ok, selectsAttempt_iff]
  simp only [ClaimInput.leaseRow, active_iff_not_terminal]

/-- A claim inserts the next lease when the trigger lets it through, the number is within its bound and
the token is new. -/
theorem claimNext_iff_trigger {input : ClaimInput} (hclaim : validateClaim input = .ok ())
    {paymentId : PaymentId} {n : Nat} (hn : n ≤ maxRecoveryAttempts)
    (hfresh : ∀ lease ∈ db.cashuStellarMeltRecoveryLeases, lease.leaseToken ≠ input.leaseToken) :
    (∃ db', claimNext db (some paymentId) input = .ok (some (input.leaseRow paymentId n), db')) ↔
      validateRecoveryLease db (input.leaseRow paymentId n) = .ok () := by
  constructor
  · intro h
    obtain ⟨db', h⟩ := h
    rcases claimNext_ok h with ⟨hnone, -⟩ | ⟨row, leases, hrow, -, hadmitted, -, -⟩
    · cases hnone
    · obtain rfl := Option.some.inj hrow
      obtain ⟨job, hjob, hdue⟩ := hadmitted.job
      exact validateRecoveryLease_eq_ok.mpr
        ⟨job, hjob, hadmitted.active, hadmitted.attemptNumber, hdue⟩
  · intro h
    obtain ⟨job, hjob, hactive, hnumber, hdue⟩ :=
      selectsAttempt_iff.mp (trigger_iff_selectsAttempt.mp h)
    obtain ⟨-, hpayment⟩ := Table.find_some hjob
    have heligible : IsEligible db job input.claimedAt := by
      rw [isEligible_iff, eligible_holds, hpayment]
      exact ⟨hactive, hdue⟩
    obtain ⟨hclaimed, hexpires, hlt, hlength⟩ := ensure_eq_ok.mp hclaim
    have hfirst : 1 ≤ n := by
      rw [hnumber]
      cases db.latestLease paymentId with
      | none => exact Nat.le_refl 1
      | some lease => exact Nat.le_add_left 1 _
    have hchecks : (input.leaseRow paymentId n).Checks :=
      ⟨hfirst, hn, hclaimed, hlt, hexpires, hlength⟩
    have hadmitted : LeaseAdmitted db (input.leaseRow paymentId n) := by
      obtain ⟨found, hfound, hstate, hnumber, hdue⟩ := validateRecoveryLease_eq_ok.mp h
      exact ⟨⟨found, hfound, hdue⟩, hstate, hnumber, hchecks⟩
    have hnew : ∀ old ∈ db.cashuStellarMeltRecoveryLeases,
        ¬UniqueKeys.Collide old (input.leaseRow paymentId n) := by
      intro old hold hcollide
      rcases hcollide with htoken | ⟨hsame, hsameNumber⟩
      · exact hfresh old hold htoken
      · have hsmaller := hadmitted.number_lt hold hsame
        omega
    obtain ⟨leases, hinsert, -⟩ := Table.insert_of_not_collide hnew
    obtain ⟨s, hs⟩ := (insertRecoveryLease_eq ⟨db, []⟩ _).mpr
      ⟨h, hchecks, leases, by rw [insertRow, hinsert]; rfl⟩
    obtain ⟨-, stored, -, rfl⟩ := insertRecoveryLease_ok hs
    have hmapped : mapLease (input.leaseRow paymentId n) = .ok (input.leaseRow paymentId n) := by
      simp only [mapLease, bind_eq_ok, ensure_eq_ok, exists_unit, pure_eq_ok]
      exact ⟨⟨hclaimed, hexpires, hfirst, hn, hlt, hlength⟩, trivial⟩
    have hrow : (⟨input.leaseToken, job.paymentId, nextAttemptNumber (db.latestLease job.paymentId),
        input.workerId, input.claimedAt, input.expiresAt⟩ : RecoveryLeaseRow) =
          input.leaseRow paymentId n := by
      rw [hpayment, ← hnumber]
      rfl
    refine ⟨{ db with cashuStellarMeltRecoveryLeases := stored }, ?_⟩
    simp only [claimNext, bind_eq_ok]
    refine ⟨(), hclaim, ?_⟩
    rw [show (some paymentId).bind db.recoveryJob = some job from hjob]
    simp only [if_pos heligible, hrow, bind_eq_ok, recoveryStatement_eq_ok, Session.commit_eq_ok]
    exact ⟨_, hs, _, hmapped, _, ⟨by simp [Session.next], rfl⟩, rfl⟩

/-- On every history the queries of `claimNext` select a job with its next attempt exactly when the
trigger accepts the lease of that attempt at the time of the claim; the two queries select the same
jobs, and a claim with a new token then inserts the lease. -/
theorem lease_eligibility (db : Db) (paymentId : PaymentId) {input : ClaimInput}
    (hclaim : validateClaim input = .ok ()) :
    (∀ n, db.SelectsAttempt paymentId input.claimedAt n ↔
        validateRecoveryLease db (input.leaseRow paymentId n) = .ok ()) ∧
      ((∃ job ∈ db.candidates input.claimedAt, job.paymentId = paymentId) ↔
        ∃ n, db.SelectsAttempt paymentId input.claimedAt n) ∧
      ((∀ lease ∈ db.cashuStellarMeltRecoveryLeases, lease.leaseToken ≠ input.leaseToken) →
        ∀ n ≤ maxRecoveryAttempts,
          ((∃ db', claimNext db (some paymentId) input =
              .ok (some (input.leaseRow paymentId n), db')) ↔
            validateRecoveryLease db (input.leaseRow paymentId n) = .ok ())) := by
  refine ⟨fun n => trigger_iff_selectsAttempt.symm, ?_,
    fun hfresh n hn => claimNext_iff_trigger hclaim hn hfresh⟩
  simp only [selectsAttempt_iff, Db.candidates, Table.mem_select, eligible_holds]
  constructor
  · intro h
    obtain ⟨job, ⟨hjob, hactive, hdue⟩, rfl⟩ := h
    obtain ⟨found, hfound⟩ : ∃ found, db.recoveryJob job.paymentId = some found := by
      apply Option.ne_none_iff_exists'.mp
      intro hnone
      exact Table.find_none.mp hnone job hjob rfl
    obtain ⟨hmem, hsame⟩ := Table.find_some hfound
    obtain rfl : found = job := Table.eq_of_collide hmem hjob (.inl hsame)
    exact ⟨_, found, hfound, hactive, rfl, hdue⟩
  · intro h
    obtain ⟨n, job, hjob, hactive, -, hdue⟩ := h
    obtain ⟨hmem, rfl⟩ := Table.find_some hjob
    exact ⟨job, ⟨hmem, hactive, hdue⟩, rfl⟩

/-- The claim of the second attempt, at the time of the retry. -/
def Sample.retryClaim : ClaimInput where
  claimedAt := 1200
  expiresAt := 1290
  leaseToken := ⟨"lease-2", by decide⟩
  workerId := ⟨"worker-2", by decide⟩

set_option maxRecDepth 10000 in
theorem lease_eligibility_retried :
    Sample.retried.SelectsAttempt Sample.paymentId 1200 2 ∧
      ¬Sample.retried.SelectsAttempt Sample.paymentId 1200 3 := by
  have hclaim : validateClaim Sample.retryClaim = .ok () := by decide
  obtain ⟨hselects, -⟩ := lease_eligibility Sample.retried Sample.paymentId hclaim
  have hsecond : (validateRecoveryLease Sample.retried
      (Sample.retryClaim.leaseRow Sample.paymentId 2)).isOk = true := by decide +kernel
  have hthird : (validateRecoveryLease Sample.retried
      (Sample.retryClaim.leaseRow Sample.paymentId 3)).isOk = false := by decide +kernel
  constructor
  · apply (hselects 2).mpr
    cases hresult : validateRecoveryLease Sample.retried
        (Sample.retryClaim.leaseRow Sample.paymentId 2) with
    | ok accepted => rfl
    | error error =>
        rw [hresult] at hsecond
        cases hsecond
  · intro h
    rw [(hselects 3).mp h] at hthird
    cases hthird

end CashMesh.Acquirer
