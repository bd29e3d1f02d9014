import CashMesh.Acquirer.Observations
/-!
# The states of the reserved proofs

What was observed of the proofs of a payment, in whatever order it came. No proof that was seen spent
is seen unspent or pending at a later time, and the repository and the deferred trigger draw the same
line: a snapshot that fits its reservation and its time is refused by the one exactly when it is
refused by the other.
-/

namespace CashMesh.Acquirer

open CashMesh.Lib

variable {db db' : Db}

/-! ### Writing a snapshot -/

/-- The statements with which `persistObservation` writes a snapshot. -/
def insertSnapshot (s : Session) (observation : PersistProofStateInput) :
    Except ProofStateError Session := do
  let s ← proofStateStatement
    (insertProofStateObservation s (proofStateObservationRow observation))
  observation.snapshot.states.zipIdx.foldlM
    (fun s state =>
      proofStateStatement (insertProofStateEntry s (proofStateEntryRow observation state))) s

/-- A snapshot that the database can take: it is a snapshot, it is of the reserved proofs of a payment
that is not settled, and the payment has none of its time. -/
structure SnapshotInsertable (db : Db) (observation : PersistProofStateInput)
    (reservation : ReservationEvidence) : Prop where
  snapshot : ∃ input, createCashuProofStateSnapshot input = some observation.snapshot
  evidence : loadReservationEvidence db observation.paymentId = .ok (some reservation)
  bound : assertObservationReservationBinding observation reservation = .ok ()
  active : ∀ state ∈ db.latestState observation.paymentId, ¬state.toReservationState.Terminal
  fresh : ∀ row ∈ db.cashuProofStateObservations, row.paymentId = observation.paymentId →
    row.observedAt ≠ observation.snapshot.observedAt

/-- The fingerprint of a stored snapshot names its payment and its time. -/
def FingerprintsFit (db : Db) : Prop :=
  ∀ row ∈ db.cashuProofStateObservations,
    row.snapshotFingerprint.paymentId = row.paymentId ∧
      row.snapshotFingerprint.observedAt = row.observedAt

theorem fingerprintsFit_of_change (h : FingerprintsFit db) (hchange : Change db db') :
    FingerprintsFit db' := by
  cases hchange
  case proofStateObserved hobservations hentries =>
    intro row hrow
    rcases hobservations.mem.mp hrow with hold | hnew
    · exact h row hold
    · rw [List.mem_singleton.mp hnew]
      exact ⟨rfl, rfl⟩
  case paymentAccepted hdb _ _ _ =>
    subst hdb
    exact h
  all_goals exact h

theorem fingerprintsFit_of_reachable (h : Reachable db) : FingerprintsFit db :=
  reachable_of_change (by simp [FingerprintsFit, Db.empty])
    (fun _ _ _ hfit hchange => fingerprintsFit_of_change hfit hchange) h

theorem snapshot_checked {input snapshot : CashuProofStateSnapshot}
    (h : createCashuProofStateSnapshot input = some snapshot) :
    snapshot.observedAt ≤ maxSafeInteger ∧
      snapshot.states.length ≤ maxCashuProofStatesPerSnapshot ∧
      (snapshot.states.map (·.y)).Nodup := by
  unfold createCashuProofStateSnapshot at h
  split at h
  · case isTrue hchecks =>
    obtain ⟨htime, -, hlength, hnodup⟩ := hchecks
    cases h
    have hperm := List.perm_insertionSort
      (fun left right : CashuProofStateEntry => left.y.val ≤ right.y.val) input.states
    refine ⟨htime, ?_, ?_⟩
    · show (List.insertionSort _ input.states).length ≤ _
      rw [hperm.length_eq]
      exact hlength
    · show ((List.insertionSort _ input.states).map _).Nodup
      rw [(hperm.map _).nodup_iff]
      exact hnodup
  · cases h

section Insert

variable {observation : PersistProofStateInput} {reservation : ReservationEvidence}

theorem SnapshotInsertable.reservationRow (h : SnapshotInsertable db observation reservation) :
    ∃ row, db.reservation observation.paymentId = some row ∧
      row.operatorId = observation.operatorId ∧ row.mintUrl = observation.snapshot.mintUrl ∧
      row.unit = observation.unit ∧ row.reservedAt ≤ observation.snapshot.observedAt ∧
      db.reservedProofsOf observation.paymentId ≠ [] ∧
      observation.snapshot.states.map (·.y) =
        (db.reservedProofsOf observation.paymentId).map (·.proofY) := by
  have hevidence := h.evidence
  have hbound := h.bound
  unfold loadReservationEvidence at hevidence
  split at hevidence
  · cases hevidence
  · case h_2 row hrow =>
    simp only [bind_eq_ok, ensure_eq_ok, exists_unit, pure_eq_ok, Except.ok.injEq,
      Option.some.injEq] at hevidence
    obtain ⟨⟨hproofs, -⟩, rfl⟩ := hevidence
    simp only [assertObservationReservationBinding, bind_eq_ok, ensure_eq_ok, exists_unit] at hbound
    obtain ⟨⟨hoperator, hmint, hunit⟩, hreserved, hys⟩ := hbound
    exact ⟨row, hrow, hoperator.symm, hmint.symm, hunit.symm, hreserved, hproofs, hys⟩

/-- The row of a new snapshot collides with no other. -/
theorem SnapshotInsertable.insert_observation (hfit : FingerprintsFit db)
    (h : SnapshotInsertable db observation reservation) :
    ∃ observations, insertProofStateObservation ⟨db, []⟩ (proofStateObservationRow observation) =
        .ok ⟨{ db with cashuProofStateObservations := observations },
          [.proofStateObservation observation.fingerprint]⟩ ∧
      db.cashuProofStateObservations.Appends [proofStateObservationRow observation]
        observations := by
  obtain ⟨row, hrow, hoperator, hmint, hunit, -⟩ := h.reservationRow
  obtain ⟨input, hinput⟩ := h.snapshot
  have hnew : ∀ old ∈ db.cashuProofStateObservations,
      ¬Collide old (proofStateObservationRow observation) := by
    intro old hold hcollide
    apply h.fresh old hold
    · rcases hcollide with hsame | ⟨hsame, -⟩
      · rw [← (hfit old hold).1, hsame]
        rfl
      · exact hsame
    · rcases hcollide with hsame | ⟨-, hsame⟩
      · rw [← (hfit old hold).2, hsame]
        rfl
      · exact hsame
  obtain ⟨observations, hinsert, hrows⟩ := Table.insert_of_not_collide hnew
  refine ⟨observations, ?_, hrows⟩
  simp only [insertProofStateObservation, guardObservationAppend, insertRow, bind_eq_ok,
    ensure_eq_ok, exists_unit, orFail_eq_ok]
  refine ⟨⟨?_, h.active⟩, (snapshot_checked hinput).1, observations, hinsert, ?_, rfl⟩
  · rw [show (proofStateObservationRow observation).paymentId = observation.paymentId from rfl, hrow]
    rfl
  · exact ⟨row, (Table.find_some hrow).1, (Table.find_some hrow).2, hoperator, hmint, hunit⟩

theorem pairwise_not_collide (hnodup : (observation.snapshot.states.map (·.y)).Nodup) :
    (proofStateEntryRows observation).Pairwise fun row next => ¬Collide row next := by
  have hpositions : observation.snapshot.states.zipIdx.Pairwise fun state next =>
      state.2 ≠ next.2 := by
    apply List.pairwise_map.mp
    rw [List.zipIdx_map_snd]
    exact List.nodup_range'
  have hys : observation.snapshot.states.zipIdx.Pairwise fun state next =>
      state.1.y ≠ next.1.y := by
    rw [← List.zipIdx_map_fst 0 observation.snapshot.states, List.map_map] at hnodup
    exact List.pairwise_map.mp hnodup
  rw [proofStateEntryRows, List.pairwise_map]
  refine (hpositions.and hys).imp ?_
  rintro state next ⟨hposition, hy⟩ ⟨-, hsame | hsame⟩
  · exact hposition hsame
  · exact hy hsame

/-- The rows while the states of a snapshot are written: the states that are left are of it, and their
rows collide with no entry and not with each other. -/
def StatesLeft (db : Db) (observations : Table ProofStateObservationRow)
    (observation : PersistProofStateInput) (states : List (CashuProofStateEntry × Nat))
    (s : Session) : Prop :=
  ∃ entries,
    s = ⟨{ db with
        cashuProofStateObservations := observations
        cashuProofStateObservationEntries := entries },
      [.proofStateObservation observation.fingerprint]⟩ ∧
    (∀ entry ∈ entries, ∀ state ∈ states, ¬Collide entry (proofStateEntryRow observation state)) ∧
    ((states.map (proofStateEntryRow observation)).Pairwise fun row next => ¬Collide row next) ∧
    ∀ state ∈ states, state ∈ observation.snapshot.states.zipIdx

theorem SnapshotInsertable.insert_state (h : SnapshotInsertable db observation reservation)
    {observations : Table ProofStateObservationRow}
    (hobservations : db.cashuProofStateObservations.Appends
      [proofStateObservationRow observation] observations) {state : CashuProofStateEntry × Nat}
    {states : List (CashuProofStateEntry × Nat)} {s : Session}
    (hleft : StatesLeft db observations observation (state :: states) s) :
    ∃ s', proofStateStatement (insertProofStateEntry s (proofStateEntryRow observation state)) =
        .ok s' ∧ StatesLeft db observations observation states s' := by
  obtain ⟨row, hrow, -, -, -, -, -, hys⟩ := h.reservationRow
  obtain ⟨input, hinput⟩ := h.snapshot
  obtain ⟨-, hlength, -⟩ := snapshot_checked hinput
  obtain ⟨entries, rfl, hcollide, hpairwise, hmem⟩ := hleft
  rw [List.map_cons, List.pairwise_cons] at hpairwise
  obtain ⟨hfirst, hrest⟩ := hpairwise
  obtain ⟨entries', hinsert, hrows⟩ := Table.insert_of_not_collide fun entry hentry =>
    hcollide entry hentry state List.mem_cons_self
  have hstate := hmem state List.mem_cons_self
  refine ⟨_, ?_, entries', rfl, ?_, hrest, ?_⟩
  · simp only [proofStateStatement_eq_ok, insertProofStateEntry, insertRow, bind_eq_ok,
      ensure_eq_ok, exists_unit, orFail_eq_ok]
    refine ⟨?_, entries', hinsert, ⟨?_, ?_⟩, rfl⟩
    · have hposition : state.2 < observation.snapshot.states.length := by
        simpa using List.snd_lt_of_mem_zipIdx hstate
      exact hposition.trans_le hlength
    · exact ⟨_, hobservations.mem.mpr (.inr List.mem_cons_self), rfl, rfl⟩
    · have hy : state.1.y ∈ (db.reservedProofsOf observation.paymentId).map (·.proofY) := by
        rw [← hys]
        exact List.mem_map_of_mem (List.fst_mem_of_mem_zipIdx hstate)
      obtain ⟨proof, hproof, hsame⟩ := List.mem_map.mp hy
      obtain ⟨hproofMem, hpayment⟩ := Table.mem_select.mp (mem_orderBy.mp hproof)
      exact ⟨proof, hproofMem, hpayment, hsame⟩
  · intro entry hentry other hother
    rw [Table.mem_def, hrows, List.mem_append] at hentry
    rcases hentry with hentry | hentry
    · exact hcollide entry hentry other (List.mem_cons_of_mem _ hother)
    · rw [List.mem_singleton.mp hentry]
      exact hfirst _ (List.mem_map_of_mem hother)
  · exact fun other hother => hmem other (List.mem_cons_of_mem _ hother)

/-- The statements of a new snapshot succeed, and what they leave to the commit is its trigger. -/
theorem SnapshotInsertable.insert (hfit : FingerprintsFit db) (hsound : SnapshotsSound db)
    (h : SnapshotInsertable db observation reservation) :
    ∃ observations entries, insertSnapshot ⟨db, []⟩ observation =
        .ok ⟨{ db with
            cashuProofStateObservations := observations
            cashuProofStateObservationEntries := entries },
          [.proofStateObservation observation.fingerprint]⟩ ∧
      db.cashuProofStateObservations.Appends [proofStateObservationRow observation]
        observations ∧
      db.cashuProofStateObservationEntries.Appends (proofStateEntryRows observation) entries := by
  obtain ⟨observations, hobservation, hobservations⟩ := h.insert_observation hfit
  obtain ⟨input, hinput⟩ := h.snapshot
  have hold : ∀ entry ∈ db.cashuProofStateObservationEntries,
      entry.snapshotFingerprint ≠ observation.fingerprint := by
    intro entry hentry hsame
    obtain ⟨snapshot, hsnapshot, hfingerprint, -⟩ := hsound.observed entry hentry
    exact hobservations.not_collide hsnapshot List.mem_cons_self (.inl (hfingerprint.trans hsame))
  have hleft : StatesLeft db observations observation observation.snapshot.states.zipIdx
      ⟨{ db with cashuProofStateObservations := observations },
        [.proofStateObservation observation.fingerprint]⟩ :=
    ⟨db.cashuProofStateObservationEntries, rfl,
      fun entry hentry state _ hcollide => hold entry hentry hcollide.1,
      pairwise_not_collide (snapshot_checked hinput).2.2, fun _ hstate => hstate⟩
  obtain ⟨s, hstates, entries, rfl, -⟩ :=
    foldlM_exists_ok (motive := StatesLeft db observations observation)
      (fun _ _ _ hleft => h.insert_state hobservations hleft) hleft
  obtain ⟨appended, hentries, hdb⟩ := insertProofStateEntries_ok hstates
  obtain rfl : entries = appended := congrArg Db.cashuProofStateObservationEntries hdb
  refine ⟨observations, entries, ?_, hobservations, hentries⟩
  simp only [insertSnapshot, bind_eq_ok, proofStateStatement_eq_ok]
  exact ⟨_, hobservation, hstates⟩

/-- The trigger looks for the contradictions that the repository looks for. -/
theorem SnapshotsSound.noRegression_iff (hsound : SnapshotsSound db) {observations entries}
    (hobservations : db.cashuProofStateObservations.Appends
      [proofStateObservationRow observation] observations)
    (hentries : db.cashuProofStateObservationEntries.Appends (proofStateEntryRows observation)
      entries) {db' : Db} (hdb : db' = { db with
        cashuProofStateObservations := observations
        cashuProofStateObservationEntries := entries }) :
    (∀ entry ∈ db'.proofStateEntriesOf observation.fingerprint,
      ∀ other ∈ db'.proofStateObservationsOf observation.paymentId,
        other.snapshotFingerprint ≠ observation.fingerprint →
          ∀ otherEntry ∈ db'.proofStateEntriesOf other.snapshotFingerprint,
            ¬SpentRegression other.observedAt observation.snapshot.observedAt otherEntry entry ∧
              ¬SpentRegression observation.snapshot.observedAt other.observedAt entry
                otherEntry) ↔
      assertProposedTransition db observation = .ok () := by
  have hnew : db'.proofStateEntriesOf observation.fingerprint = proofStateEntryRows observation := by
    rw [hdb]
    exact hsound.entries_of_observed hobservations hentries
  have hold : ∀ other ∈ db.cashuProofStateObservations,
      db'.proofStateEntriesOf other.snapshotFingerprint =
        db.proofStateEntriesOf other.snapshotFingerprint := by
    rw [hdb]
    exact fun other hother => proofStateEntriesOf_of_observed hobservations hentries hother
  have hmem : ∀ other, other ∈ db'.proofStateObservationsOf observation.paymentId ↔
      (other ∈ db.cashuProofStateObservations ∨ other = proofStateObservationRow observation) ∧
        other.paymentId = observation.paymentId := by
    intro other
    rw [hdb, Db.proofStateObservationsOf, mem_orderBy, Table.mem_select, hobservations.mem,
      List.mem_singleton]
  rw [assertProposedTransition, ensure_eq_ok, hnew]
  constructor
  · intro h other hother otherEntry hotherEntry state hstate hy
    obtain ⟨hotherMem, hpayment⟩ := Table.mem_select.mp (mem_orderBy.mp hother)
    rw [← List.zipIdx_map_fst 0 observation.snapshot.states] at hstate
    obtain ⟨⟨state, position⟩, hposition, rfl⟩ := List.mem_map.mp hstate
    have hentry : proofStateEntryRow observation (state, position) ∈
        proofStateEntryRows observation := List.mem_map_of_mem hposition
    have hne : other.snapshotFingerprint ≠ observation.fingerprint := fun hsame =>
      hobservations.not_collide hotherMem List.mem_cons_self (.inl hsame)
    obtain ⟨hbefore, hafter⟩ := h _ hentry other ((hmem other).mpr ⟨.inl hotherMem, hpayment⟩) hne
      otherEntry (by rw [hold other hotherMem]; exact hotherEntry)
    constructor
    · rintro ⟨htime, hspent, hnot⟩
      exact hbefore ⟨htime, hy.symm, hspent, hnot⟩
    · rintro ⟨htime, hnot, hspent⟩
      exact hafter ⟨htime, hy, hspent, hnot⟩
  · intro h entry hentry other hother hne otherEntry hotherEntry
    obtain ⟨⟨state, position⟩, hstate, rfl⟩ := List.mem_map.mp hentry
    obtain ⟨hotherMem | rfl, hpayment⟩ := (hmem other).mp hother
    · rw [hold other hotherMem] at hotherEntry
      have hproposed := h other (mem_orderBy.mpr (Table.mem_select.mpr ⟨hotherMem, hpayment⟩))
        otherEntry hotherEntry state (List.fst_mem_of_mem_zipIdx hstate)
      constructor
      · rintro ⟨htime, hproof, hspent, hnot⟩
        exact (hproposed hproof.symm).1 ⟨htime, hspent, hnot⟩
      · rintro ⟨htime, hproof, hspent, hnot⟩
        exact (hproposed hproof).2 ⟨htime, hnot, hspent⟩
    · exact absurd rfl hne

/-- The trigger finds the new snapshot and its reservation, and of what it requires only the history
is left to check. -/
theorem SnapshotInsertable.satisfies_iff (hsound : SnapshotsSound db)
    (h : SnapshotInsertable db observation reservation) {observations entries}
    (hobservations : db.cashuProofStateObservations.Appends
      [proofStateObservationRow observation] observations)
    (hentries : db.cashuProofStateObservationEntries.Appends (proofStateEntryRows observation)
      entries) {db' : Db} (hdb : db' = { db with
        cashuProofStateObservations := observations
        cashuProofStateObservationEntries := entries }) :
    db'.Satisfies (.proofStateObservation observation.fingerprint) ↔
      assertProposedTransition db observation = .ok () := by
  obtain ⟨row, hrow, hoperator, hmint, hunit, hreserved, hproofs, hys⟩ := h.reservationRow
  have hfind : db'.cashuProofStateObservations.find
      (fun row => row.snapshotFingerprint = observation.fingerprint) =
        some (proofStateObservationRow observation) := by
    rw [hdb]
    exact Table.find_of_mem (hobservations.mem.mpr (.inr List.mem_cons_self)) rfl
      fun _ hsame => .inl hsame
  have hfound : db'.reservation observation.paymentId = some row := by
    rw [hdb]
    exact hrow
  have hreservedProofs : db'.reservedProofsOf observation.paymentId =
      db.reservedProofsOf observation.paymentId := by
    rw [hdb]
    rfl
  have hnew : db'.proofStateEntriesOf observation.fingerprint = proofStateEntryRows observation := by
    rw [hdb]
    exact hsound.entries_of_observed hobservations hentries
  have hlength : (proofStateEntryRows observation).length =
      (db.reservedProofsOf observation.paymentId).length := by
    rw [← List.length_map (·.proofY), map_proofStateEntryRows, hys, List.length_map]
  have hstates : observation.snapshot.states ≠ [] := by
    intro hnil
    rw [hnil, List.map_nil] at hys
    exact hproofs (List.map_eq_nil_iff.mp hys.symm)
  rw [← hsound.noRegression_iff hobservations hentries hdb]
  constructor
  · intro hsatisfies
    obtain ⟨other, -, hvalid⟩ := hsatisfies _ hfind
    exact hvalid.noRegression
  · intro hregression found hfoundRow
    obtain rfl := Option.some.inj (hfind.symm.trans hfoundRow)
    refine ⟨row, hfound, ?_⟩
    constructor
    case operatorId => exact hoperator
    case mintUrl => exact hmint
    case unit => exact hunit
    case reserved => exact hreserved
    case noRegression => exact hregression
    all_goals rw [show (proofStateObservationRow observation).snapshotFingerprint =
      observation.fingerprint from rfl, hnew]
    case entries =>
      rw [proofStateEntryRows, ne_eq, List.map_eq_nil_iff, List.zipIdx_eq_nil_iff]
      exact hstates
    case count =>
      rw [hlength, ← hreservedProofs]
      rfl
    case firstPosition =>
      obtain ⟨state, states, hcons⟩ := List.exists_cons_of_ne_nil hstates
      simp [proofStateEntryRows, hcons, proofStateEntryRow]
    case lastPosition =>
      have hpositions : (proofStateEntryRows observation).map (·.position) =
          List.range' 0 observation.snapshot.states.length := by
        rw [proofStateEntryRows, List.map_map, ← List.zipIdx_map_snd]
        rfl
      rw [← List.getLast?_map, hpositions, proofStateEntryRows, List.length_map,
        List.length_zipIdx, List.getLast?_range']
      simp [hstates]
    case proofs =>
      intro proof hproof
      have hy : proof.proofY ∈ (proofStateEntryRows observation).map (·.proofY) := by
        rw [map_proofStateEntryRows, hys, ← hreservedProofs]
        exact List.mem_map_of_mem hproof
      obtain ⟨entry, hentry, hsame⟩ := List.mem_map.mp hy
      obtain ⟨state, -, rfl⟩ := List.mem_map.mp hentry
      exact ⟨_, hentry, rfl, hsame⟩

end Insert

/-! ### Every run -/

/-- Over every run of the acquirer, a proof that was seen spent is spent at every later time at which
it was seen; and a snapshot that fits its reservation and its time is written, and committed exactly
when the repository finds no contradiction to it. -/
theorem proof_states_sound {db : Db} (hreach : Reachable db) :
    (∀ earlier ∈ db.cashuProofStateObservations, ∀ later ∈ db.cashuProofStateObservations,
      later.paymentId = earlier.paymentId → earlier.observedAt < later.observedAt →
        ∀ entry ∈ db.proofStateEntriesOf earlier.snapshotFingerprint, entry.state = .spent →
          ∀ laterEntry ∈ db.proofStateEntriesOf later.snapshotFingerprint,
            laterEntry.proofY = entry.proofY → laterEntry.state = .spent) ∧
    ∀ observation reservation, SnapshotInsertable db observation reservation →
      ∃ s, insertSnapshot ⟨db, []⟩ observation = .ok s ∧
        (assertProposedTransition db observation = .ok () ↔ ∃ db', s.commit = .ok db') := by
  have hsound := snapshotsSound_of_reachable hreach
  constructor
  · intro earlier hearlier later hlater hpayment htime entry hentry hspent laterEntry hlaterEntry
      hproof
    by_contra hnot
    exact hsound.spent earlier hearlier later hlater hpayment entry hentry laterEntry hlaterEntry
      ⟨htime, hproof.symm, hspent, hnot⟩
  · intro observation reservation hinsertable
    obtain ⟨observations, entries, hinsert, hobservations, hentries⟩ :=
      hinsertable.insert (fingerprintsFit_of_reachable hreach) hsound
    refine ⟨_, hinsert, ?_⟩
    rw [← hinsertable.satisfies_iff hsound hobservations hentries rfl]
    simp [Session.commit_eq_ok]

/-- The dispatched payment whose proof was seen spent, and unspent at an earlier time after that. -/
def Sample.seenSpent : Db :=
  Sample.after [Sample.observeProof .spent 1015, Sample.observeProof .unspent 1011]

/-- A snapshot that takes the spent proof back. -/
def Sample.takenBack : PersistProofStateInput where
  operatorId := Sample.operatorId
  paymentId := Sample.paymentId
  snapshot := ⟨Sample.mintUrl, 1020, [⟨.unspent, Sample.proofY⟩]⟩
  unit := cashuStellarUnit

set_option maxRecDepth 10000 in
theorem proof_states_sound_seenSpent :
    ((∃ row ∈ Sample.seenSpent.cashuProofStateObservations, row.observedAt = 1011) ∧
      ∀ earlier ∈ Sample.seenSpent.cashuProofStateObservations,
        ∀ later ∈ Sample.seenSpent.cashuProofStateObservations,
          later.paymentId = earlier.paymentId → earlier.observedAt < later.observedAt →
            ∀ entry ∈ Sample.seenSpent.proofStateEntriesOf earlier.snapshotFingerprint,
              entry.state = .spent →
                ∀ laterEntry ∈ Sample.seenSpent.proofStateEntriesOf later.snapshotFingerprint,
                  laterEntry.proofY = entry.proofY → laterEntry.state = .spent) ∧
    ∃ s, insertSnapshot ⟨Sample.seenSpent, []⟩ Sample.takenBack = .ok s ∧
      (assertProposedTransition Sample.seenSpent Sample.takenBack = .ok () ↔
        ∃ db', s.commit = .ok db') := by
  have hreach : Reachable Sample.seenSpent := Sample.reachable_after _
  refine ⟨⟨by decide +kernel, (proof_states_sound hreach).1⟩, ?_⟩
  have hinsertable : SnapshotInsertable Sample.seenSpent Sample.takenBack
      { mintUrl := Sample.mintUrl
        operatorId := Sample.operatorId
        paymentId := Sample.paymentId
        proofYs := [Sample.proofY]
        reservedAt := 1002
        unit := cashuStellarUnit } := by
    constructor
    case snapshot => exact ⟨Sample.takenBack.snapshot, by decide +kernel⟩
    all_goals decide +kernel
  exact (proof_states_sound hreach).2 _ _ hinsertable

end CashMesh.Acquirer
