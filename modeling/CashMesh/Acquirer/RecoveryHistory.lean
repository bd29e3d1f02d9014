import CashMesh.Acquirer.Events
import CashMesh.Lib.Fencing
/-!
# The history of a recovery job

The leases of a job are fenced attempts: each is claimed when the one before it has expired without an
outcome or has asked for a retry, and an outcome is recorded for the latest lease only. The repository
reads every history back that its own operations can write.
-/

namespace CashMesh.Acquirer

open CashMesh.Lib

variable {db db' : Db}

/-- A lease with its outcome, if it has one. -/
abbrev AttemptRow := RecoveryLeaseRow × Option RecoveryOutcomeRow

/-- When the attempt after one may be claimed: when its lease expires, or when its outcome says. -/
def claimableAt (row : AttemptRow) : Option UnixTimestamp :=
  match row.2 with
  | none => some row.1.expiresAt
  | some outcome =>
      if outcome.outcomeKind = .retryScheduled then outcome.nextAttemptAt else none

/-- How the attempts of a recovery job are fenced. -/
def recoveryFencing : Fencing AttemptRow where
  number row := row.1.attemptNumber
  claimedAt row := row.1.claimedAt
  claimableAt

/-- An outcome as `recordOutcome` writes it, within its lease. -/
def RecordedWithin (lease : RecoveryLeaseRow) (outcome : RecoveryOutcomeRow) : Prop :=
  (∃ input, validateOutcome input = .ok () ∧ outcome = input.row) ∧
    lease.claimedAt ≤ outcome.recordedAt ∧ outcome.recordedAt ≤ lease.expiresAt

/-- The attempts of a job that becomes due at `initialAttemptAt`. -/
structure LeaseHistory (initialAttemptAt : UnixTimestamp) (rows : List AttemptRow) : Prop where
  fenced : recoveryFencing.History initialAttemptAt rows
  leases : ∀ row ∈ rows, row.1.Checks
  outcomes : ∀ row ∈ rows, ∀ outcome ∈ row.2, RecordedWithin row.1 outcome

/-! ### Reading a history -/

/-- The attempt that the repository maps a row to. -/
def AttemptRow.attempt (row : AttemptRow) : CashuStellarMeltRecoveryAttempt where
  lease := row.1
  outcome := row.2.bind fun outcome => (mapOutcome outcome).toOption

theorem mapLease_of_checks {row : RecoveryLeaseRow} (h : row.Checks) : mapLease row = .ok row := by
  obtain ⟨hpositive, hbound, hclaimed, hexpires, hsafe, hlength⟩ := h
  rw [mapLease, ensure_of ⟨hclaimed, hsafe, hpositive, hbound, hexpires, hlength⟩]
  rfl

theorem mapOutcome_row {input : RecordOutcomeInput} (h : validateOutcome input = .ok ()) :
    mapOutcome input.row = .ok input.outcome := by
  rw [validateOutcome, ensure_eq_ok] at h
  obtain ⟨hrecorded, hnext⟩ := h
  obtain ⟨leaseToken, outcome, paymentId⟩ := input
  simp only [mapOutcome, bind_eq_ok, ensure_eq_ok, exists_unit]
  cases outcome with
  | accepted => exact ⟨hrecorded, rfl⟩
  | released => exact ⟨hrecorded, rfl⟩
  | attentionRequired => exact ⟨hrecorded, rfl⟩
  | retryScheduled reason recordedAt nextAttemptAt =>
      exact ⟨hrecorded, bind_eq_ok.mpr ⟨(), ensure_of (hnext nextAttemptAt rfl), rfl⟩⟩

theorem mapStoredOutcome_eq {row : AttemptRow} (h : ∀ outcome ∈ row.2, RecordedWithin row.1 outcome) :
    mapStoredOutcome row.2 = .ok row.attempt.outcome := by
  obtain ⟨lease, outcome⟩ := row
  cases outcome with
  | none => rfl
  | some outcome =>
      obtain ⟨⟨input, hinput, rfl⟩, -⟩ := h outcome rfl
      rw [mapStoredOutcome, mapOutcome_row hinput]
      simp [AttemptRow.attempt, mapOutcome_row hinput, Except.toOption]

theorem nextEligibleAt_eq {row : AttemptRow} {eligibleAt : UnixTimestamp} {isLast : Bool}
    (h : ∀ outcome ∈ row.2, RecordedWithin row.1 outcome)
    (hlast : claimableAt row = none → isLast = true) :
    nextEligibleAt row.1 row.attempt.outcome eligibleAt isLast =
      .ok ((claimableAt row).getD eligibleAt) := by
  obtain ⟨lease, outcome⟩ := row
  cases outcome with
  | none => rfl
  | some outcome =>
      obtain ⟨⟨input, hinput, rfl⟩, hwithin⟩ := h outcome rfl
      have hmapped : (AttemptRow.attempt (lease, some input.row)).outcome = some input.outcome := by
        simp [AttemptRow.attempt, mapOutcome_row hinput, Except.toOption]
      obtain ⟨leaseToken, outcome, paymentId⟩ := input
      rw [hmapped]
      simp only [nextEligibleAt, bind_eq_ok, ensure_eq_ok, exists_unit]
      cases outcome with
      | retryScheduled => exact ⟨hwithin, rfl⟩
      | accepted => exact ⟨hwithin, bind_eq_ok.mpr ⟨(), ensure_of (hlast rfl), rfl⟩⟩
      | released => exact ⟨hwithin, bind_eq_ok.mpr ⟨(), ensure_of (hlast rfl), rfl⟩⟩
      | attentionRequired => exact ⟨hwithin, bind_eq_ok.mpr ⟨(), ensure_of (hlast rfl), rfl⟩⟩

/-- The reader accepts the rest of a fenced history from any position on. -/
theorem mapAttemptsFrom_eq {rows : List AttemptRow} {position : Nat} {eligibleAt : UnixTimestamp}
    (hnumbers : rows.map (·.1.attemptNumber) = List.range' (position + 1) rows.length)
    (hfirst : ∀ row ∈ rows.head?, eligibleAt ≤ row.1.claimedAt)
    (hlater : rows.IsChain recoveryFencing.Follows) (hleases : ∀ row ∈ rows, row.1.Checks)
    (houtcomes : ∀ row ∈ rows, ∀ outcome ∈ row.2, RecordedWithin row.1 outcome) :
    mapAttemptsFrom position eligibleAt rows = .ok (rows.map AttemptRow.attempt) := by
  induction rows generalizing position eligibleAt with
  | nil => rfl
  | cons row rest ih =>
      rw [List.map_cons, List.length_cons, List.range'_succ, List.cons.injEq] at hnumbers
      obtain ⟨hnumber, hnumbers⟩ := hnumbers
      obtain ⟨hnext, hlater⟩ := List.isChain_cons.mp hlater
      have hrow := houtcomes row List.mem_cons_self
      have hlast : claimableAt row = none → rest.isEmpty = true := by
        intro hnone
        cases rest with
        | nil => rfl
        | cons next rest =>
            obtain ⟨time, htime, -⟩ := hnext next rfl
            rw [show claimableAt row = some time from htime] at hnone
            cases hnone
      have hhead : ∀ next ∈ rest.head?, (claimableAt row).getD eligibleAt ≤ next.1.claimedAt := by
        intro next hmem
        obtain ⟨time, htime, hle⟩ := hnext next hmem
        rw [show claimableAt row = some time from htime]
        exact hle
      have hrest := ih hnumbers hhead hlater
        (fun next hmem => hleases next (List.mem_cons_of_mem _ hmem))
        (fun next hmem => houtcomes next (List.mem_cons_of_mem _ hmem))
      rw [mapAttemptsFrom, mapLease_of_checks (hleases row List.mem_cons_self), ok_bind,
        ensure_of ⟨hnumber, hfirst row rfl⟩, ok_bind, mapStoredOutcome_eq hrow, ok_bind,
        nextEligibleAt_eq hrow hlast, ok_bind, hrest]
      rfl

theorem mapAttempts_of_history {initialAttemptAt : UnixTimestamp} {rows : List AttemptRow}
    (h : LeaseHistory initialAttemptAt rows) :
    mapAttempts initialAttemptAt rows = .ok (rows.map AttemptRow.attempt) :=
  mapAttemptsFrom_eq (by rw [Nat.zero_add]; exact h.fenced.numbers) h.fenced.first h.fenced.later
    h.leases h.outcomes

/-! ### The invariant -/

/-- Every outcome belongs to a lease of its payment. -/
def OutcomesLeased (db : Db) : Prop :=
  ∀ outcome ∈ db.cashuStellarMeltRecoveryOutcomes,
    ∃ lease ∈ db.cashuStellarMeltRecoveryLeases,
      lease.leaseToken = outcome.leaseToken ∧ lease.paymentId = outcome.paymentId

/-- Every job has its melt effect, a lifecycle, and a fenced history, and every outcome has its lease
and, when it is terminal, the lifecycle state it reports. -/
structure JobsSound (db : Db) : Prop where
  effect : ∀ job ∈ db.cashuStellarMeltRecoveryJobs, ∃ effect ∈ db.cashuOperatorEffects,
    effect.effectId = job.effectId ∧ effect.paymentId = job.paymentId ∧
      effect.effectKind = .melt ∧ effect.startedAt ≤ maxSafeInteger ∧
      job.initialAttemptAt = initialRecoveryAttemptAt effect.startedAt
  event : ∀ job ∈ db.cashuStellarMeltRecoveryJobs,
    ∃ event ∈ db.cashuProofReservationEvents, event.paymentId = job.paymentId
  history : ∀ job ∈ db.cashuStellarMeltRecoveryJobs,
    LeaseHistory job.initialAttemptAt (db.attemptRowsOf job.paymentId)
  lease : ∀ lease ∈ db.cashuStellarMeltRecoveryLeases,
    ∃ job ∈ db.cashuStellarMeltRecoveryJobs, job.paymentId = lease.paymentId
  outcome : OutcomesLeased db
  accepted : ∀ outcome ∈ db.cashuStellarMeltRecoveryOutcomes, outcome.outcomeKind = .accepted →
    db.latestState outcome.paymentId = some .consumed
  released : ∀ outcome ∈ db.cashuStellarMeltRecoveryOutcomes, outcome.outcomeKind = .released →
    db.latestState outcome.paymentId = some .released

theorem jobsSound_empty : JobsSound Db.empty := by
  constructor <;> simp [Db.empty, OutcomesLeased]

theorem attemptRowsOf_congr
    (hleases : db'.cashuStellarMeltRecoveryLeases = db.cashuStellarMeltRecoveryLeases)
    (houtcomes : db'.cashuStellarMeltRecoveryOutcomes = db.cashuStellarMeltRecoveryOutcomes)
    (paymentId : PaymentId) : db'.attemptRowsOf paymentId = db.attemptRowsOf paymentId := by
  rw [Db.attemptRowsOf, Db.attemptRowsOf, Db.leasesOf, Db.leasesOf, hleases, houtcomes]

theorem JobsSound.keep (h : JobsSound db) (hchange : Change db db')
    (hjobs : db'.cashuStellarMeltRecoveryJobs = db.cashuStellarMeltRecoveryJobs)
    (hleases : db'.cashuStellarMeltRecoveryLeases = db.cashuStellarMeltRecoveryLeases)
    (houtcomes : db'.cashuStellarMeltRecoveryOutcomes = db.cashuStellarMeltRecoveryOutcomes)
    (heffects : ∀ effect ∈ db.cashuOperatorEffects, effect ∈ db'.cashuOperatorEffects) :
    JobsSound db' where
  effect job hjob := by
    obtain ⟨effect, heffect, hfits⟩ := h.effect job (hjobs ▸ hjob)
    exact ⟨effect, heffects effect heffect, hfits⟩
  event job hjob := by
    obtain ⟨event, hevent, hpayment⟩ := h.event job (hjobs ▸ hjob)
    exact ⟨event, event_of_change hchange hevent, hpayment⟩
  history job hjob := by
    rw [attemptRowsOf_congr hleases houtcomes]
    exact h.history job (hjobs ▸ hjob)
  lease := by
    rw [hleases, hjobs]
    exact h.lease
  outcome := by
    rw [OutcomesLeased, houtcomes, hleases]
    exact h.outcome
  accepted outcome houtcome hkind :=
    latestState_of_terminal hchange (h.accepted outcome (houtcomes ▸ houtcome) hkind) (.inl rfl)
  released outcome houtcome hkind :=
    latestState_of_terminal hchange (h.released outcome (houtcomes ▸ houtcome) hkind) (.inr rfl)

/-! ### Scheduling a job -/

theorem attemptRowsOf_eq_nil (h : JobsSound db) {paymentId : PaymentId}
    (hnone : ∀ job ∈ db.cashuStellarMeltRecoveryJobs, job.paymentId ≠ paymentId) :
    db.attemptRowsOf paymentId = [] := by
  have hselect : (db.cashuStellarMeltRecoveryLeases.select fun row => row.paymentId = paymentId) =
      [] := by
    rw [List.eq_nil_iff_forall_not_mem]
    intro lease hlease
    obtain ⟨hmem, hpayment⟩ := Table.mem_select.mp hlease
    obtain ⟨job, hjob, hsame⟩ := h.lease lease hmem
    exact hnone job hjob (hsame.trans hpayment)
  rw [Db.attemptRowsOf, Db.leasesOf, hselect]
  rfl

theorem JobsSound.schedule (h : JobsSound db) (hchange : Change db db') {row : OperatorEffectRow}
    (hstarted : row.startedAt ≤ maxSafeInteger)
    (heffects : db.cashuOperatorEffects.Appends [row] db'.cashuOperatorEffects)
    (hjobs : db.cashuStellarMeltRecoveryJobs.Appends row.jobs db'.cashuStellarMeltRecoveryJobs)
    (hevent : ∃ event ∈ db'.cashuProofReservationEvents, event.paymentId = row.paymentId)
    (hleases : db'.cashuStellarMeltRecoveryLeases = db.cashuStellarMeltRecoveryLeases)
    (houtcomes : db'.cashuStellarMeltRecoveryOutcomes = db.cashuStellarMeltRecoveryOutcomes) :
    JobsSound db' := by
  have hnew : ∀ job ∈ row.jobs, row.effectKind = .melt ∧ job.paymentId = row.paymentId ∧
      job.effectId = row.effectId ∧
      job.initialAttemptAt = initialRecoveryAttemptAt row.startedAt := by
    intro job hjob
    unfold OperatorEffectRow.jobs at hjob
    split at hjob
    · case isTrue hmelt =>
      rw [List.mem_singleton] at hjob
      subst hjob
      exact ⟨hmelt, rfl, rfl, rfl⟩
    · cases hjob
  constructor
  case effect =>
    intro job hjob
    rcases hjobs.mem.mp hjob with hold | hnewJob
    · obtain ⟨effect, heffect, hfits⟩ := h.effect job hold
      exact ⟨effect, heffects.mem_of_mem heffect, hfits⟩
    · obtain ⟨hmelt, hpayment, heffectId, hinitial⟩ := hnew job hnewJob
      exact ⟨row, heffects.mem.mpr (.inr List.mem_cons_self), heffectId.symm, hpayment.symm, hmelt,
        hstarted, hinitial⟩
  case event =>
    intro job hjob
    rcases hjobs.mem.mp hjob with hold | hnewJob
    · obtain ⟨event, hevent, hpayment⟩ := h.event job hold
      exact ⟨event, event_of_change hchange hevent, hpayment⟩
    · rw [(hnew job hnewJob).2.1]
      exact hevent
  case history =>
    intro job hjob
    rw [attemptRowsOf_congr hleases houtcomes]
    rcases hjobs.mem.mp hjob with hold | hnewJob
    · exact h.history job hold
    · have hnone : ∀ old ∈ db.cashuStellarMeltRecoveryJobs, old.paymentId ≠ job.paymentId :=
        fun old hold hsame => hjobs.not_collide hold hnewJob (.inl hsame)
      rw [attemptRowsOf_eq_nil h hnone]
      exact ⟨.nil, by simp, by simp⟩
  case lease =>
    rw [hleases]
    intro lease hlease
    obtain ⟨job, hjob, hpayment⟩ := h.lease lease hlease
    exact ⟨job, hjobs.mem_of_mem hjob, hpayment⟩
  case outcome =>
    rw [OutcomesLeased, houtcomes, hleases]
    exact h.outcome
  case accepted =>
    intro outcome houtcome hkind
    exact latestState_of_terminal hchange (h.accepted outcome (houtcomes ▸ houtcome) hkind)
      (.inl rfl)
  case released =>
    intro outcome houtcome hkind
    exact latestState_of_terminal hchange (h.released outcome (houtcomes ▸ houtcome) hkind)
      (.inr rfl)

/-! ### Claiming a lease -/

/-- The outcome of a lease is found by its token alone. -/
theorem outcome_of_lease (h : OutcomesLeased db) {lease : RecoveryLeaseRow}
    (hlease : lease ∈ db.cashuStellarMeltRecoveryLeases) :
    (db.cashuStellarMeltRecoveryOutcomes.find fun outcome =>
      outcome.leaseToken = lease.leaseToken ∧ outcome.paymentId = lease.paymentId) =
      db.recoveryOutcome lease.leaseToken := by
  rw [Db.recoveryOutcome, Table.find, Table.find, Table.select, Table.select]
  congr 1
  apply List.filter_congr
  intro outcome houtcome
  have hpayment : outcome.leaseToken = lease.leaseToken → outcome.paymentId = lease.paymentId := by
    intro htoken
    obtain ⟨other, hother, hsame, hpaid⟩ := h outcome houtcome
    have hcollide : other = lease := Table.eq_of_collide hother hlease (.inl (hsame.trans htoken))
    rw [← hpaid, hcollide]
  by_cases htoken : outcome.leaseToken = lease.leaseToken
  · simp [htoken, hpayment htoken]
  · simp [htoken]

theorem mem_leasesOf {paymentId : PaymentId} {lease : RecoveryLeaseRow} :
    lease ∈ db.leasesOf paymentId ↔
      lease ∈ db.cashuStellarMeltRecoveryLeases ∧ lease.paymentId = paymentId := by
  rw [Db.leasesOf, mem_orderBy, Table.mem_select]

theorem attemptRowsOf_eq (h : OutcomesLeased db) (paymentId : PaymentId) :
    db.attemptRowsOf paymentId =
      (db.leasesOf paymentId).map fun lease => (lease, db.recoveryOutcome lease.leaseToken) := by
  apply List.map_congr_left
  intro lease hlease
  rw [outcome_of_lease h (mem_leasesOf.mp hlease).1]

theorem latestLease_eq {paymentId : PaymentId} :
    db.latestLease paymentId = (db.leasesOf paymentId).getLast? :=
  rfl

/-- The time at which the trigger lets the next lease be claimed is the one of the history. -/
theorem eligibleAt_eq (h : JobsSound db) {job : RecoveryJobRow} {time : UnixTimestamp}
    (heligible : eligibleAt job (db.latestLease job.paymentId)
        ((db.latestLease job.paymentId).bind fun lease => db.recoveryOutcome lease.leaseToken) =
      some (some time)) :
    recoveryFencing.eligibleAt job.initialAttemptAt (db.attemptRowsOf job.paymentId) =
      some time := by
  rw [Fencing.eligibleAt, attemptRowsOf_eq h.outcome, List.getLast?_map, ← latestLease_eq]
  cases hlatest : db.latestLease job.paymentId with
  | none =>
      rw [hlatest] at heligible
      simpa [eligibleAt] using heligible
  | some lease =>
      rw [hlatest, Option.bind_some] at heligible
      simp only [Option.map_some, recoveryFencing, claimableAt]
      cases houtcome : db.recoveryOutcome lease.leaseToken with
      | none =>
          rw [houtcome] at heligible
          simpa [eligibleAt] using heligible
      | some outcome =>
          rw [houtcome] at heligible
          by_cases hretry : outcome.outcomeKind = .retryScheduled
          · simpa [eligibleAt, hretry] using heligible
          · simp [eligibleAt, hretry] at heligible

theorem length_attemptRowsOf (paymentId : PaymentId) :
    (db.attemptRowsOf paymentId).length = (db.leasesOf paymentId).length :=
  List.length_map ..

theorem nextAttemptNumber_eq {job : RecoveryJobRow}
    (h : LeaseHistory job.initialAttemptAt (db.attemptRowsOf job.paymentId)) :
    nextAttemptNumber (db.latestLease job.paymentId) =
      (db.attemptRowsOf job.paymentId).length + 1 := by
  rw [length_attemptRowsOf, latestLease_eq]
  rcases List.eq_nil_or_concat (db.leasesOf job.paymentId) with hnil | ⟨before, last, hconcat⟩
  · rw [hnil]
    rfl
  · have hrows : db.attemptRowsOf job.paymentId =
        (before.map fun lease => (lease, db.cashuStellarMeltRecoveryOutcomes.find fun outcome =>
          outcome.leaseToken = lease.leaseToken ∧ outcome.paymentId = lease.paymentId)) ++
        [(last, db.cashuStellarMeltRecoveryOutcomes.find fun outcome =>
          outcome.leaseToken = last.leaseToken ∧ outcome.paymentId = last.paymentId)] := by
      rw [Db.attemptRowsOf, hconcat, List.concat_eq_append, List.map_append, List.map_singleton]
    have hfenced := h.fenced
    rw [hrows] at hfenced
    have hnumber : last.attemptNumber = before.length + 1 := by
      have hlast := hfenced.number_last
      rwa [List.length_map] at hlast
    rw [hconcat, List.concat_eq_append, List.getLast?_concat, List.length_append,
      List.length_singleton, nextAttemptNumber, hnumber]

theorem LeaseAdmitted.number_lt {row lease : RecoveryLeaseRow} (h : LeaseAdmitted db row)
    (hlease : lease ∈ db.cashuStellarMeltRecoveryLeases)
    (hpayment : lease.paymentId = row.paymentId) : lease.attemptNumber < row.attemptNumber := by
  have hmem : lease ∈
      db.cashuStellarMeltRecoveryLeases.select fun lease => lease.paymentId = row.paymentId :=
    Table.mem_select.mpr ⟨hlease, hpayment⟩
  obtain ⟨last, hlast⟩ := exists_latest_of_mem (·.attemptNumber) hmem
  have hle : lease.attemptNumber ≤ last.attemptNumber := le_latest hlast hmem
  have hnumber := h.attemptNumber
  rw [Db.latestLease, hlast, nextAttemptNumber] at hnumber
  omega

theorem leasesOf_append_self {row : RecoveryLeaseRow} (hadmitted : LeaseAdmitted db row)
    (hleases : db.cashuStellarMeltRecoveryLeases.Appends [row]
      db'.cashuStellarMeltRecoveryLeases) :
    db'.leasesOf row.paymentId = db.leasesOf row.paymentId ++ [row] := by
  rw [Db.leasesOf, Db.leasesOf, hleases.select]
  have hfilter : [row].filter (fun lease => lease.paymentId = row.paymentId) = [row] := by simp
  rw [hfilter]
  apply orderBy_append_of_le
  intro lease hlease
  obtain ⟨hmem, hpayment⟩ := Table.mem_select.mp hlease
  exact (hadmitted.number_lt hmem hpayment).le

theorem attemptRowsOf_claim_self (h : JobsSound db) {row : RecoveryLeaseRow}
    (hadmitted : LeaseAdmitted db row)
    (hleases : db.cashuStellarMeltRecoveryLeases.Appends [row] db'.cashuStellarMeltRecoveryLeases)
    (houtcomes : db'.cashuStellarMeltRecoveryOutcomes = db.cashuStellarMeltRecoveryOutcomes) :
    db'.attemptRowsOf row.paymentId = db.attemptRowsOf row.paymentId ++ [(row, none)] := by
  have hfind : (db.cashuStellarMeltRecoveryOutcomes.find fun outcome =>
      outcome.leaseToken = row.leaseToken ∧ outcome.paymentId = row.paymentId) = none := by
    rw [Table.find_none]
    rintro outcome houtcome ⟨htoken, -⟩
    obtain ⟨lease, hlease, hsame, -⟩ := h.outcome outcome houtcome
    exact hleases.not_collide hlease List.mem_cons_self (.inl (hsame.trans htoken))
  rw [Db.attemptRowsOf, leasesOf_append_self hadmitted hleases, houtcomes, List.map_append,
    List.map_singleton, hfind]
  rfl

theorem attemptRowsOf_claim_of_ne {row : RecoveryLeaseRow} {paymentId : PaymentId}
    (hne : row.paymentId ≠ paymentId)
    (hleases : db.cashuStellarMeltRecoveryLeases.Appends [row] db'.cashuStellarMeltRecoveryLeases)
    (houtcomes : db'.cashuStellarMeltRecoveryOutcomes = db.cashuStellarMeltRecoveryOutcomes) :
    db'.attemptRowsOf paymentId = db.attemptRowsOf paymentId := by
  rw [Db.attemptRowsOf, Db.attemptRowsOf, Db.leasesOf, Db.leasesOf, houtcomes,
    hleases.select_of_not (by simpa using hne)]

/-- An admitted lease continues the history of its job. -/
theorem LeaseHistory.claim (h : JobsSound db) {row : RecoveryLeaseRow} {job : RecoveryJobRow}
    (hadmitted : LeaseAdmitted db row) (hjob : job ∈ db.cashuStellarMeltRecoveryJobs)
    (hpayment : job.paymentId = row.paymentId) :
    LeaseHistory job.initialAttemptAt (db.attemptRowsOf row.paymentId ++ [(row, none)]) := by
  have hhistory := h.history job hjob
  obtain ⟨found, hfound, time, heligible, hle⟩ := hadmitted.job
  obtain ⟨hfoundMem, hfoundPayment⟩ := Table.find_some hfound
  obtain rfl : found = job :=
    Table.eq_of_collide hfoundMem hjob (.inl (hfoundPayment.trans hpayment.symm))
  rw [← hpayment] at heligible ⊢
  have hnumber : row.attemptNumber = (db.attemptRowsOf found.paymentId).length + 1 := by
    rw [hadmitted.attemptNumber, ← hpayment, nextAttemptNumber_eq hhistory]
  refine ⟨hhistory.fenced.claim (eligibleAt_eq h heligible) hle hnumber, ?_, ?_⟩
  · intro other hother
    rcases List.mem_append.mp hother with hold | hnew
    · exact hhistory.leases other hold
    · rw [List.mem_singleton.mp hnew]
      exact hadmitted.checks
  · intro other hother outcome houtcome
    rcases List.mem_append.mp hother with hold | hnew
    · exact hhistory.outcomes other hold outcome houtcome
    · rw [List.mem_singleton.mp hnew] at houtcome
      cases houtcome

theorem JobsSound.claim (h : JobsSound db) (hchange : Change db db') {row : RecoveryLeaseRow}
    (hadmitted : LeaseAdmitted db row)
    (hleases : db.cashuStellarMeltRecoveryLeases.Appends [row] db'.cashuStellarMeltRecoveryLeases)
    (hjobs : db'.cashuStellarMeltRecoveryJobs = db.cashuStellarMeltRecoveryJobs)
    (houtcomes : db'.cashuStellarMeltRecoveryOutcomes = db.cashuStellarMeltRecoveryOutcomes)
    (heffects : db'.cashuOperatorEffects = db.cashuOperatorEffects) : JobsSound db' := by
  constructor
  case effect =>
    rw [hjobs, heffects]
    exact h.effect
  case event =>
    intro job hjob
    obtain ⟨event, hevent, hpayment⟩ := h.event job (hjobs ▸ hjob)
    exact ⟨event, event_of_change hchange hevent, hpayment⟩
  case history =>
    intro job hjob
    rw [hjobs] at hjob
    by_cases hpayment : job.paymentId = row.paymentId
    · rw [hpayment, attemptRowsOf_claim_self h hadmitted hleases houtcomes]
      exact .claim h hadmitted hjob hpayment
    · rw [attemptRowsOf_claim_of_ne (Ne.symm hpayment) hleases houtcomes]
      exact h.history job hjob
  case lease =>
    intro lease hlease
    rw [hjobs]
    rcases hleases.mem.mp hlease with hold | hnew
    · exact h.lease lease hold
    · rw [List.mem_singleton.mp hnew]
      obtain ⟨job, hjob, -⟩ := hadmitted.job
      exact ⟨job, Table.find_some hjob⟩
  case outcome =>
    intro outcome houtcome
    obtain ⟨lease, hlease, hsame⟩ := h.outcome outcome (houtcomes ▸ houtcome)
    exact ⟨lease, hleases.mem_of_mem hlease, hsame⟩
  case accepted =>
    intro outcome houtcome hkind
    exact latestState_of_terminal hchange (h.accepted outcome (houtcomes ▸ houtcome) hkind)
      (.inl rfl)
  case released =>
    intro outcome houtcome hkind
    exact latestState_of_terminal hchange (h.released outcome (houtcomes ▸ houtcome) hkind)
      (.inr rfl)

/-! ### Recording an outcome -/

theorem recoveryOutcome_of_ne {row : RecoveryOutcomeRow} {leaseToken : Identifier}
    (hne : row.leaseToken ≠ leaseToken)
    (houtcomes : db.cashuStellarMeltRecoveryOutcomes.Appends [row]
      db'.cashuStellarMeltRecoveryOutcomes) :
    db'.recoveryOutcome leaseToken = db.recoveryOutcome leaseToken := by
  rw [Db.recoveryOutcome, Db.recoveryOutcome, houtcomes.find_of_not (by simpa using hne)]

theorem recoveryOutcome_self {row : RecoveryOutcomeRow} {outcomes : Table RecoveryOutcomeRow}
    (houtcomes : db.cashuStellarMeltRecoveryOutcomes.Appends [row] outcomes) :
    db.recoveryOutcome row.leaseToken = none ∧
      (outcomes.find fun outcome => outcome.leaseToken = row.leaseToken) = some row := by
  have hnone : (db.cashuStellarMeltRecoveryOutcomes.select fun outcome =>
      outcome.leaseToken = row.leaseToken) = [] := by
    rw [List.eq_nil_iff_forall_not_mem]
    intro outcome houtcome
    obtain ⟨hmem, htoken⟩ := Table.mem_select.mp houtcome
    exact houtcomes.not_collide hmem List.mem_cons_self htoken
  rw [Db.recoveryOutcome, Table.find, Table.find, houtcomes.select, hnone]
  simp

theorem pairwise_leasesOf (db : Db) (paymentId : PaymentId) :
    (db.leasesOf paymentId).Pairwise fun lease lease' => lease.leaseToken ≠ lease'.leaseToken :=
  (pairwise_orderBy_select _ _).imp fun hnot htoken => hnot (.inl htoken)

/-- An admitted outcome completes the last attempt of its payment. -/
theorem attemptRowsOf_record_self (h : OutcomesLeased db) (h' : OutcomesLeased db')
    {row : RecoveryOutcomeRow} {lease : RecoveryLeaseRow}
    (hlatest : db.latestLease row.paymentId = some lease)
    (htoken : lease.leaseToken = row.leaseToken)
    (hleases : db'.cashuStellarMeltRecoveryLeases = db.cashuStellarMeltRecoveryLeases)
    (houtcomes : db.cashuStellarMeltRecoveryOutcomes.Appends [row]
      db'.cashuStellarMeltRecoveryOutcomes) :
    ∃ before, db.attemptRowsOf row.paymentId = before ++ [(lease, none)] ∧
      db'.attemptRowsOf row.paymentId = before ++ [(lease, some row)] := by
  obtain ⟨before, hbefore⟩ := List.getLast?_eq_some_iff.mp hlatest
  obtain ⟨hnone, hsome⟩ := recoveryOutcome_self houtcomes
  have hsame : db'.leasesOf row.paymentId = before ++ [lease] := by
    rw [Db.leasesOf, hleases]
    exact hbefore
  have hbefore : db.leasesOf row.paymentId = before ++ [lease] := hbefore
  have hothers : ∀ other ∈ before, row.leaseToken ≠ other.leaseToken := by
    have hpairwise := pairwise_leasesOf db row.paymentId
    rw [hbefore] at hpairwise
    intro other hother
    rw [← htoken]
    exact ((List.pairwise_append.mp hpairwise).2.2 other hother lease (by simp)).symm
  refine ⟨before.map fun lease => (lease, db.recoveryOutcome lease.leaseToken), ?_, ?_⟩
  · rw [attemptRowsOf_eq h, hbefore, List.map_append, List.map_singleton, htoken, hnone]
  · rw [attemptRowsOf_eq h', hsame, List.map_append, List.map_singleton, htoken,
      Db.recoveryOutcome, hsome]
    congr 1
    apply List.map_congr_left
    intro other hother
    rw [recoveryOutcome_of_ne (hothers other hother) houtcomes]

theorem attemptRowsOf_record_of_ne (h : OutcomesLeased db) (h' : OutcomesLeased db')
    {row : RecoveryOutcomeRow} {paymentId : PaymentId} (hne : row.paymentId ≠ paymentId)
    (hleases : db'.cashuStellarMeltRecoveryLeases = db.cashuStellarMeltRecoveryLeases)
    (houtcomes : db.cashuStellarMeltRecoveryOutcomes.Appends [row]
      db'.cashuStellarMeltRecoveryOutcomes) :
    db'.attemptRowsOf paymentId = db.attemptRowsOf paymentId := by
  rw [attemptRowsOf_eq h, attemptRowsOf_eq h', Db.leasesOf, hleases]
  apply List.map_congr_left
  intro lease hlease
  obtain ⟨hmem, hpayment⟩ := mem_leasesOf.mp hlease
  have htoken : row.leaseToken ≠ lease.leaseToken := by
    intro htoken
    obtain ⟨other, hother, hsame, hpaid⟩ :=
      h' row (houtcomes.mem.mpr (.inr List.mem_cons_self))
    rw [hleases] at hother
    have hcollide : other = lease := Table.eq_of_collide hother hmem (.inl (hsame.trans htoken))
    exact hne (by rw [← hpaid, hcollide, hpayment])
  rw [recoveryOutcome_of_ne htoken houtcomes]

theorem LeaseHistory.record {initialAttemptAt : UnixTimestamp} {before : List AttemptRow}
    {lease : RecoveryLeaseRow} {input : RecordOutcomeInput}
    (h : LeaseHistory initialAttemptAt (before ++ [(lease, none)]))
    (hvalid : validateOutcome input = .ok ())
    (hwithin : lease.claimedAt ≤ input.row.recordedAt ∧ input.row.recordedAt ≤ lease.expiresAt) :
    LeaseHistory initialAttemptAt (before ++ [(lease, some input.row)]) where
  fenced := h.fenced.replaceLast rfl rfl
  leases row hrow := by
    rcases List.mem_append.mp hrow with hold | hlast
    · exact h.leases row (List.mem_append_left _ hold)
    · rw [List.mem_singleton.mp hlast]
      exact h.leases (lease, none) (by simp)
  outcomes row hrow outcome houtcome := by
    rcases List.mem_append.mp hrow with hold | hlast
    · exact h.outcomes row (List.mem_append_left _ hold) outcome houtcome
    · rw [List.mem_singleton.mp hlast] at houtcome ⊢
      cases houtcome
      exact ⟨⟨input, hvalid, rfl⟩, hwithin⟩

theorem JobsSound.record (h : JobsSound db) {input : RecordOutcomeInput}
    (hvalid : validateOutcome input = .ok ()) (hadmitted : OutcomeAdmitted db input.row)
    (houtcomes : db.cashuStellarMeltRecoveryOutcomes.Appends [input.row]
      db'.cashuStellarMeltRecoveryOutcomes)
    (hjobs : db'.cashuStellarMeltRecoveryJobs = db.cashuStellarMeltRecoveryJobs)
    (hleases : db'.cashuStellarMeltRecoveryLeases = db.cashuStellarMeltRecoveryLeases)
    (heffects : db'.cashuOperatorEffects = db.cashuOperatorEffects)
    (hevents : db'.cashuProofReservationEvents = db.cashuProofReservationEvents) :
    JobsSound db' := by
  obtain ⟨lease, hlatest, htoken, hwithin⟩ := hadmitted.current
  have hlatestMem := mem_leasesOf.mp (List.mem_of_getLast? (latestLease_eq.symm.trans hlatest))
  have hleased : OutcomesLeased db' := by
    intro outcome houtcome
    rw [hleases]
    rcases houtcomes.mem.mp houtcome with hold | hnew
    · exact h.outcome outcome hold
    · rw [List.mem_singleton.mp hnew]
      exact ⟨lease, hlatestMem.1, htoken, hlatestMem.2⟩
  have hstate : ∀ paymentId, db'.latestState paymentId = db.latestState paymentId := by
    intro paymentId
    rw [Db.latestState, Db.latestState, Db.latestEvent, Db.latestEvent, hevents]
  constructor
  case effect =>
    rw [hjobs, heffects]
    exact h.effect
  case event =>
    rw [hjobs, hevents]
    exact h.event
  case history =>
    intro job hjob
    rw [hjobs] at hjob
    by_cases hpayment : job.paymentId = input.row.paymentId
    · obtain ⟨before, hbefore, hafter⟩ :=
        attemptRowsOf_record_self h.outcome hleased hlatest htoken hleases houtcomes
      have hhistory := h.history job hjob
      rw [hpayment, hbefore] at hhistory
      rw [hpayment, hafter]
      exact hhistory.record hvalid hwithin
    · rw [attemptRowsOf_record_of_ne h.outcome hleased (Ne.symm hpayment) hleases houtcomes]
      exact h.history job hjob
  case lease =>
    rw [hleases, hjobs]
    exact h.lease
  case outcome => exact hleased
  case accepted =>
    intro outcome houtcome hkind
    rw [hstate]
    rcases houtcomes.mem.mp houtcome with hold | hnew
    · exact h.accepted outcome hold hkind
    · rw [List.mem_singleton.mp hnew] at hkind ⊢
      exact hadmitted.lifecycle.1 hkind
  case released =>
    intro outcome houtcome hkind
    rw [hstate]
    rcases houtcomes.mem.mp houtcome with hold | hnew
    · exact h.released outcome hold hkind
    · rw [List.mem_singleton.mp hnew] at hkind ⊢
      exact hadmitted.lifecycle.2.1 hkind

/-! ### Every history -/

theorem jobsSound_of_change (h : JobsSound db) (hchange : Change db db') : JobsSound db' := by
  have hcopy := hchange
  cases hchange
  case effectStarted hstartable heffects _ hjobs _ hevents _ =>
    refine h.schedule hcopy ?_ heffects hjobs ?_ rfl rfl
    · have hvalid := hstartable.valid
      rw [validateStartEffect, ensure_eq_ok] at hvalid
      exact hvalid.1
    · refine ⟨_, hevents.mem.mpr (.inr List.mem_cons_self), ?_⟩
      exact (paymentId_of_loadReservation hstartable.loaded).symm
  case leaseClaimed hadmitted hleases =>
    exact h.claim hcopy hadmitted hleases rfl rfl rfl
  case outcomeRecorded hvalid hadmitted houtcomes =>
    exact h.record hvalid hadmitted houtcomes rfl rfl rfl rfl
  case paymentAccepted hdb _ _ _ =>
    subst hdb
    exact h.keep hcopy rfl rfl rfl fun _ heffect => heffect
  all_goals exact h.keep hcopy rfl rfl rfl fun _ heffect => heffect

theorem jobsSound_of_reachable (h : Reachable db) : JobsSound db :=
  reachable_of_change jobsSound_empty (fun _ _ _ hsound hchange =>
    jobsSound_of_change hsound hchange) h

/-! ### Reading a job back -/

theorem outcome_of_attemptRows {paymentId : PaymentId} {row : AttemptRow}
    (hrow : row ∈ db.attemptRowsOf paymentId) {outcome : RecoveryOutcomeRow}
    (houtcome : row.2 = some outcome) :
    outcome ∈ db.cashuStellarMeltRecoveryOutcomes ∧ outcome.paymentId = paymentId := by
  obtain ⟨lease, hlease, rfl⟩ := List.mem_map.mp hrow
  obtain ⟨hmem, -, hpayment⟩ := Table.find_some houtcome
  exact ⟨hmem, hpayment.trans (mem_leasesOf.mp hlease).2⟩

/-- A terminal outcome that the reader has mapped agrees with the lifecycle. -/
theorem kind_of_attempt (h : JobsSound db) {job : RecoveryJobRow}
    (hjob : job ∈ db.cashuStellarMeltRecoveryJobs) {row : AttemptRow}
    (hrow : row ∈ db.attemptRowsOf job.paymentId) {outcome : CashuStellarMeltRecoveryLeaseOutcome}
    (houtcome : row.attempt.outcome = some outcome) :
    (outcome.kind = .accepted → db.latestState job.paymentId = some .consumed) ∧
      (outcome.kind = .released → db.latestState job.paymentId = some .released) := by
  obtain ⟨stored, hstored, hmapped⟩ := Option.bind_eq_some_iff.mp houtcome
  obtain ⟨hmem, hpayment⟩ := outcome_of_attemptRows hrow hstored
  obtain ⟨⟨input, hinput, rfl⟩, -⟩ := (h.history job hjob).outcomes row hrow stored hstored
  rw [mapOutcome_row hinput] at hmapped
  cases hmapped
  rw [← hpayment]
  exact ⟨h.accepted _ hmem, h.released _ hmem⟩

theorem completedJobState_ok (h : JobsSound db) {job : RecoveryJobRow}
    (hjob : job ∈ db.cashuStellarMeltRecoveryJobs) {completedAt : UnixTimestamp}
    {terminalState : RecoveryTerminalState}
    (hstate : db.latestState job.paymentId =
      some (match terminalState with
        | .accepted => .consumed
        | .released => .released)) :
    ∃ state, completedJobState
      ((db.attemptRowsOf job.paymentId).map AttemptRow.attempt).getLast? completedAt
      terminalState = .ok state := by
  refine ⟨.completed completedAt terminalState, ?_⟩
  simp only [completedJobState, bind_eq_ok, ensure_eq_ok, exists_unit]
  refine ⟨?_, rfl⟩
  intro outcome houtcome hkind
  obtain ⟨attempt, hattempt, hmapped⟩ := Option.bind_eq_some_iff.mp houtcome
  rw [List.getLast?_map] at hattempt
  obtain ⟨row, hrow, rfl⟩ := Option.map_eq_some_iff.mp hattempt
  obtain ⟨haccepted, hreleased⟩ :=
    kind_of_attempt h hjob (List.mem_of_getLast? hrow) hmapped
  rcases hkind with hkind | hkind
  · rw [haccepted hkind] at hstate
    cases terminalState with
    | accepted => exact hkind
    | released => cases hstate
  · rw [hreleased hkind] at hstate
    cases terminalState with
    | accepted => cases hstate
    | released => exact hkind

theorem activeJobState_ok (h : JobsSound db) {job : RecoveryJobRow}
    (hjob : job ∈ db.cashuStellarMeltRecoveryJobs) {initialAttemptAt : UnixTimestamp}
    (hconsumed : db.latestState job.paymentId ≠ some .consumed)
    (hreleased : db.latestState job.paymentId ≠ some .released) :
    ∃ state, activeJobState
      ((db.attemptRowsOf job.paymentId).map AttemptRow.attempt).getLast? initialAttemptAt =
        .ok state := by
  rw [List.getLast?_map]
  cases hlast : (db.attemptRowsOf job.paymentId).getLast? with
  | none => exact ⟨_, rfl⟩
  | some row =>
      have hkind : ∀ outcome, (AttemptRow.attempt row).outcome = some outcome → _ :=
        fun outcome => kind_of_attempt h hjob (List.mem_of_getLast? hlast)
      rw [Option.map_some]
      revert hkind
      obtain ⟨lease, outcome⟩ := AttemptRow.attempt row
      intro hkind
      cases outcome with
      | none => exact ⟨_, rfl⟩
      | some outcome =>
          cases outcome with
          | retryScheduled => exact ⟨_, rfl⟩
          | attentionRequired => exact ⟨_, rfl⟩
          | accepted => exact absurd ((hkind _ rfl).1 rfl) hconsumed
          | released => exact absurd ((hkind _ rfl).2 rfl) hreleased

/-- The repository reads every job back, with exactly the attempts that are stored. -/
theorem findJob_of_sound (h : JobsSound db) {job : RecoveryJobRow}
    (hjob : job ∈ db.cashuStellarMeltRecoveryJobs) :
    ∃ mapped, findJob db job.paymentId = .ok (some mapped) ∧
      mapped.attempts = (db.attemptRowsOf job.paymentId).map AttemptRow.attempt ∧
      mapped.effectId = job.effectId ∧ mapped.initialAttemptAt = job.initialAttemptAt ∧
      mapped.paymentId = job.paymentId := by
  obtain ⟨effect, heffect, heffectId, hpayment, hmelt, hstarted, hinitial⟩ := h.effect job hjob
  obtain ⟨event, hevent, heventPayment⟩ := h.event job hjob
  have hfoundJob : db.recoveryJob job.paymentId = some job :=
    Table.find_of_mem hjob rfl fun other hother => .inl hother
  have hfoundEffect : db.effect job.effectId job.paymentId = some effect :=
    Table.find_of_mem heffect ⟨heffectId, hpayment⟩ fun other hother =>
      .inl (hother.1.trans heffectId.symm)
  obtain ⟨latest, hlatest⟩ := Option.isSome_iff_exists.mp (latestEvent_isSome_of_mem hevent)
  rw [heventPayment] at hlatest
  have hstate : db.latestState job.paymentId = some latest.state := by
    rw [Db.latestState, hlatest]
    rfl
  have hjobState : ∃ state, jobState latest
      ((db.attemptRowsOf job.paymentId).map AttemptRow.attempt).getLast? job.initialAttemptAt =
        .ok state := by
    unfold jobState
    cases hkind : latest.state with
    | consumed => exact completedJobState_ok h hjob (by rw [hstate, hkind])
    | released => exact completedJobState_ok h hjob (by rw [hstate, hkind])
    | dispatchStarted =>
        exact activeJobState_ok h hjob (by simp [hstate, hkind]) (by simp [hstate, hkind])
    | pending =>
        exact activeJobState_ok h hjob (by simp [hstate, hkind]) (by simp [hstate, hkind])
    | needsAttention =>
        exact activeJobState_ok h hjob (by simp [hstate, hkind]) (by simp [hstate, hkind])
  obtain ⟨state, hjobState⟩ := hjobState
  have hmapped : ∃ mapped, mapJob job effect (some latest) (db.attemptRowsOf job.paymentId) =
      .ok mapped ∧ mapped.attempts = (db.attemptRowsOf job.paymentId).map AttemptRow.attempt ∧
        mapped.effectId = job.effectId ∧ mapped.initialAttemptAt = job.initialAttemptAt ∧
        mapped.paymentId = job.paymentId := by
    rw [mapJob, ensure_of ⟨hstarted, hmelt, hinitial⟩, mapAttempts_of_history (h.history job hjob)]
    simp only [ok_bind, orFail]
    rw [hjobState]
    exact ⟨_, rfl, rfl, rfl, rfl, rfl⟩
  obtain ⟨mapped, hmapped, hread⟩ := hmapped
  refine ⟨mapped, ?_, hread⟩
  simp only [findJob, hfoundJob, hfoundEffect, hlatest, Option.bind_eq_bind, Option.bind_some,
    Option.pure_def]
  rw [hmapped]
  rfl

/-! ### Fencing -/

/-- Why a lease may be claimed: its payment is under way, every outcome of its job asks for a retry,
and the job is due. -/
structure ClaimJustified (db : Db) (lease : RecoveryLeaseRow) : Prop where
  due : ∃ job ∈ db.cashuStellarMeltRecoveryJobs, job.paymentId = lease.paymentId ∧
    ∃ time, recoveryFencing.eligibleAt job.initialAttemptAt (db.attemptRowsOf lease.paymentId) =
      some time ∧ time ≤ lease.claimedAt
  number : lease.attemptNumber = (db.leasesOf lease.paymentId).length + 1
  active : ∃ state ∈ db.latestState lease.paymentId, state.toReservationState.Active
  retried : ∀ row ∈ db.attemptRowsOf lease.paymentId, ∀ outcome ∈ row.2,
    outcome.outcomeKind = .retryScheduled

/-- Why an outcome may be recorded: its lease is the latest one of the payment and holds its time. -/
structure RecordJustified (db : Db) (outcome : RecoveryOutcomeRow) : Prop where
  latest : ∃ lease, db.latestLease outcome.paymentId = some lease ∧
    lease.leaseToken = outcome.leaseToken ∧ lease.claimedAt ≤ outcome.recordedAt ∧
      outcome.recordedAt ≤ lease.expiresAt
  first : db.recoveryOutcome outcome.leaseToken = none

theorem retryScheduled_of_claimable {row : AttemptRow} (h : (claimableAt row).isSome)
    {outcome : RecoveryOutcomeRow} (houtcome : row.2 = some outcome) :
    outcome.outcomeKind = .retryScheduled := by
  rw [claimableAt, houtcome] at h
  by_contra hkind
  simp [hkind] at h

theorem LeaseAdmitted.justified (h : JobsSound db) {row : RecoveryLeaseRow}
    (hadmitted : LeaseAdmitted db row)
    (hactive : ∃ state ∈ db.latestState row.paymentId, state.toReservationState.Active) :
    ClaimJustified db row := by
  obtain ⟨job, hfound, time, heligible, hle⟩ := hadmitted.job
  obtain ⟨hjob, hpayment⟩ := Table.find_some hfound
  have hhistory := h.history job hjob
  have htime : recoveryFencing.eligibleAt job.initialAttemptAt (db.attemptRowsOf job.paymentId) =
      some time := eligibleAt_eq h (by rw [hpayment]; exact heligible)
  rw [hpayment] at hhistory htime
  refine ⟨⟨job, hjob, hpayment, time, htime, hle⟩, ?_, hactive, ?_⟩
  · have hnumber := nextAttemptNumber_eq (h.history job hjob)
    rw [hpayment, length_attemptRowsOf] at hnumber
    rw [hadmitted.attemptNumber, hnumber]
  · intro other hother outcome houtcome
    refine retryScheduled_of_claimable ?_ houtcome
    rcases List.eq_nil_or_concat (db.attemptRowsOf row.paymentId) with hnil | ⟨before, last, hrows⟩
    · rw [hnil] at hother
      cases hother
    · rw [List.concat_eq_append] at hrows
      rw [hrows] at hother
      rw [Fencing.eligibleAt, hrows, List.getLast?_concat] at htime
      have hfenced := hhistory.fenced
      rw [hrows] at hfenced
      rcases List.mem_append.mp hother with hbefore | hlast
      · exact hfenced.claimable_of_mem hbefore
      · rw [List.mem_singleton.mp hlast]
        exact Option.isSome_iff_exists.mpr ⟨time, htime⟩

/-- Recovery is fenced: over every run of the acquirer, the leases of a job are numbered from one
without gaps and claimed when the history before them allows it, an outcome is recorded once and only
for the latest lease within its time, no lease follows an outcome that asks for no retry or a terminal
lifecycle, and the repository reads every stored history back as it is stored. -/
theorem recovery_history_sound {db : Db} (hreach : Reachable db) :
    (∀ job ∈ db.cashuStellarMeltRecoveryJobs,
      LeaseHistory job.initialAttemptAt (db.attemptRowsOf job.paymentId) ∧
        mapAttempts job.initialAttemptAt (db.attemptRowsOf job.paymentId) =
          .ok ((db.attemptRowsOf job.paymentId).map AttemptRow.attempt) ∧
        ∃ mapped, findJob db job.paymentId = .ok (some mapped) ∧
          mapped.attempts = (db.attemptRowsOf job.paymentId).map AttemptRow.attempt ∧
          mapped.effectId = job.effectId ∧ mapped.initialAttemptAt = job.initialAttemptAt ∧
          mapped.paymentId = job.paymentId) ∧
      (∀ outcome ∈ db.cashuStellarMeltRecoveryOutcomes,
        ∀ other ∈ db.cashuStellarMeltRecoveryOutcomes,
          outcome.leaseToken = other.leaseToken → outcome = other) ∧
      ∀ db', Step db db' →
        (∀ lease ∈ db'.cashuStellarMeltRecoveryLeases,
          lease ∉ db.cashuStellarMeltRecoveryLeases → ClaimJustified db lease) ∧
          ∀ outcome ∈ db'.cashuStellarMeltRecoveryOutcomes,
            outcome ∉ db.cashuStellarMeltRecoveryOutcomes → RecordJustified db outcome := by
  have hsound := jobsSound_of_reachable hreach
  refine ⟨?_, ?_, ?_⟩
  · intro job hjob
    exact ⟨hsound.history job hjob, mapAttempts_of_history (hsound.history job hjob),
      findJob_of_sound hsound hjob⟩
  · intro outcome houtcome other hother htoken
    exact Table.eq_of_collide houtcome hother htoken
  · intro db' hstep
    rcases step_cases hstep with rfl | hchange
    · exact ⟨fun lease hlease hnew => absurd hlease hnew,
        fun outcome houtcome hnew => absurd houtcome hnew⟩
    · cases hchange
      case leaseClaimed hactive hadmitted hleases =>
        refine ⟨?_, fun outcome houtcome hnew => absurd houtcome hnew⟩
        intro lease hlease hnew
        rcases hleases.mem.mp hlease with hold | hsame
        · exact absurd hold hnew
        · rw [List.mem_singleton.mp hsame]
          exact hadmitted.justified hsound hactive
      case outcomeRecorded hvalid hadmitted houtcomes =>
        refine ⟨fun lease hlease hnew => absurd hlease hnew, ?_⟩
        intro outcome houtcome hnew
        rcases houtcomes.mem.mp houtcome with hold | hsame
        · exact absurd hold hnew
        · rw [List.mem_singleton.mp hsame]
          exact ⟨hadmitted.current, (recoveryOutcome_self houtcomes).1⟩
      case paymentAccepted hdb _ _ _ =>
        subst hdb
        exact ⟨fun lease hlease hnew => absurd hlease hnew,
          fun outcome houtcome hnew => absurd houtcome hnew⟩
      all_goals
        exact ⟨fun lease hlease hnew => absurd hlease hnew,
          fun outcome houtcome hnew => absurd houtcome hnew⟩

/-- The dispatched payment with a lease whose outcome asks for a retry. -/
def Sample.retried : Db :=
  Sample.after [
    .claimNext (some Sample.paymentId)
      ⟨1070, 1100, ⟨"lease-1", by decide⟩, ⟨"worker-1", by decide⟩⟩,
    .recordOutcome {
      leaseToken := ⟨"lease-1", by decide⟩
      outcome := .retryScheduled .nonterminalEvidence 1080 1200
      paymentId := Sample.paymentId }]

set_option maxRecDepth 10000 in
theorem recovery_history_sound_retried :
    (Sample.retried.attemptRowsOf Sample.paymentId).length = 1 ∧
      ∀ job ∈ Sample.retried.cashuStellarMeltRecoveryJobs,
        LeaseHistory job.initialAttemptAt (Sample.retried.attemptRowsOf job.paymentId) :=
  ⟨by decide +kernel, fun job hjob =>
    ((recovery_history_sound (Sample.reachable_after _)).1 job hjob).1⟩

end CashMesh.Acquirer
