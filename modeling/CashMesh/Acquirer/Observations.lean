import CashMesh.Acquirer.Accounting
/-!
# The stored evidence

What was observed of the quote and of the proofs of a payment, over every run. An observation belongs
to the one attempt of its payment and is never unpaid or pending after a paid one; a snapshot covers
exactly the reserved proofs of its payment, and no proof that one has seen spent is unspent or pending
in a later one.
-/

namespace CashMesh.Acquirer

open CashMesh.Lib

variable {db db' : Db}

/-! ### Quotes -/

/-- The observations of the quotes belong together, and none takes a payment back. -/
structure QuotesSound (db : Db) : Prop where
  attempted : ∀ quote ∈ db.cashuStellarMeltQuoteObservations,
    ∃ attempt ∈ db.cashuStellarMeltQuoteAttempts,
      attempt.attemptId = quote.attemptId ∧ attempt.paymentId = quote.paymentId
  outcome : ∀ quote ∈ db.cashuStellarMeltQuoteObservations, (db.outcomeOf quote.attemptId).isSome
  paid : ∀ quote ∈ db.cashuStellarMeltQuoteObservations,
    ∀ later ∈ db.cashuStellarMeltQuoteObservations, later.paymentId = quote.paymentId →
      quote.observedAt < later.observedAt → quote.state = .paid → later.state = .paid

theorem quotesSound_empty : QuotesSound Db.empty := by
  constructor <;> simp [Db.empty]

theorem QuotesSound.keep (h : QuotesSound db)
    (hattempts : ∀ attempt ∈ db.cashuStellarMeltQuoteAttempts,
      attempt ∈ db'.cashuStellarMeltQuoteAttempts)
    (houtcomes : ∀ attemptId outcome, db.outcomeOf attemptId = some outcome →
      db'.outcomeOf attemptId = some outcome)
    (hobservations : db'.cashuStellarMeltQuoteObservations = db.cashuStellarMeltQuoteObservations) :
    QuotesSound db' where
  attempted := by
    rw [hobservations]
    intro quote hquote
    obtain ⟨attempt, hattempt, hsame⟩ := h.attempted quote hquote
    exact ⟨attempt, hattempts attempt hattempt, hsame⟩
  outcome := by
    rw [hobservations]
    intro quote hquote
    obtain ⟨outcome, houtcome⟩ := Option.isSome_iff_exists.mp (h.outcome quote hquote)
    rw [houtcomes _ outcome houtcome]
    rfl
  paid := by
    rw [hobservations]
    exact h.paid

/-- An observation of an attempt with an outcome, later than every other one of the attempt. -/
structure NextQuote (db : Db) (row : MeltQuoteObservationRow) : Prop where
  attempted : ∃ attempt ∈ db.cashuStellarMeltQuoteAttempts,
    attempt.attemptId = row.attemptId ∧ attempt.paymentId = row.paymentId
  later : ∀ quote ∈ db.cashuStellarMeltQuoteObservations, quote.attemptId = row.attemptId →
    quote.observedAt < row.observedAt ∧ (quote.state = .paid → row.state = .paid)

theorem QuotesSound.attemptId_eq (h : QuotesSound db) {row quote : MeltQuoteObservationRow}
    (hnext : NextQuote db row) (hquote : quote ∈ db.cashuStellarMeltQuoteObservations)
    (hpayment : quote.paymentId = row.paymentId) : quote.attemptId = row.attemptId := by
  obtain ⟨attempt, hattempt, hattemptId, hattemptPayment⟩ := h.attempted quote hquote
  obtain ⟨next, hnextMem, hnextId, hnextPayment⟩ := hnext.attempted
  have hsame : attempt = next := Table.eq_of_collide hattempt hnextMem
    (.inr (.inr (hattemptPayment.trans (hpayment.trans hnextPayment.symm))))
  rw [← hattemptId, hsame, hnextId]

theorem QuotesSound.observe (h : QuotesSound db) {row : MeltQuoteObservationRow}
    (hnext : NextQuote db row)
    (hattempts : db'.cashuStellarMeltQuoteAttempts = db.cashuStellarMeltQuoteAttempts)
    (houtcomes : ∀ attemptId outcome, db.outcomeOf attemptId = some outcome →
      db'.outcomeOf attemptId = some outcome)
    (houtcome : (db'.outcomeOf row.attemptId).isSome)
    (hobservations : db.cashuStellarMeltQuoteObservations.Appends [row]
      db'.cashuStellarMeltQuoteObservations) : QuotesSound db' where
  attempted := by
    rw [hattempts]
    intro quote hquote
    rcases hobservations.mem.mp hquote with hold | hnew
    · exact h.attempted quote hold
    · rw [List.mem_singleton.mp hnew]
      exact hnext.attempted
  outcome := by
    intro quote hquote
    rcases hobservations.mem.mp hquote with hold | hnew
    · obtain ⟨outcome, hstored⟩ := Option.isSome_iff_exists.mp (h.outcome quote hold)
      rw [houtcomes _ outcome hstored]
      rfl
    · rw [List.mem_singleton.mp hnew]
      exact houtcome
  paid := by
    intro quote hquote later hlater hpayment htime hpaid
    rcases hobservations.mem.mp hlater with hlaterOld | hlaterNew
    · rcases hobservations.mem.mp hquote with hquoteOld | hquoteNew
      · exact h.paid quote hquoteOld later hlaterOld hpayment htime hpaid
      · rw [List.mem_singleton.mp hquoteNew] at hpayment htime
        have hbefore := (hnext.later later hlaterOld (h.attemptId_eq hnext hlaterOld hpayment)).1
        exact absurd htime hbefore.asymm
    · rw [List.mem_singleton.mp hlaterNew] at hpayment htime ⊢
      rcases hobservations.mem.mp hquote with hquoteOld | hquoteNew
      · exact (hnext.later quote hquoteOld
          (h.attemptId_eq hnext hquoteOld hpayment.symm)).2 hpaid
      · rw [List.mem_singleton.mp hquoteNew] at hpaid
        exact hpaid

/-- An observation that follows the latest one of its attempt follows them all. -/
theorem QuotesSound.next (h : QuotesSound db) {attempt : StoredCashuStellarMeltQuoteAttempt}
    {attemptRow : MeltQuoteAttemptRow} {quote : CashuStellarMeltQuote}
    (hobservable : QuoteObservable db attempt attemptRow quote) :
    NextQuote db (quoteObservationRow attempt quote) where
  attempted := by
    obtain ⟨hid, hpayment⟩ := mapAttemptBase_ok hobservable.mapped
    exact ⟨attemptRow, (Table.find_some hobservable.row).1, hid.symm, hpayment.symm⟩
  later := by
    obtain ⟨latest, hlatest, htime, hpaid⟩ := hobservable.latest
    obtain ⟨hlatestMem, hlatestAttempt⟩ := Table.mem_select.mp (mem_of_latest hlatest)
    intro old hold hsame
    have hle : old.observedAt ≤ latest.observedAt :=
      le_latest hlatest (Table.mem_select.mpr ⟨hold, hsame⟩)
    refine ⟨hle.trans_lt htime, fun hstate => hpaid ?_⟩
    rcases hle.lt_or_eq with hlt | heq
    · obtain ⟨first, hfirst, hfirstId, hfirstPayment⟩ := h.attempted old hold
      obtain ⟨second, hsecond, hsecondId, hsecondPayment⟩ := h.attempted latest hlatestMem
      have hattempts : first = second := Table.eq_of_collide hfirst hsecond
        (.inl (hfirstId.trans (hsame.trans (hlatestAttempt.symm.trans hsecondId.symm))))
      have hpayment : latest.paymentId = old.paymentId := by
        rw [← hsecondPayment, ← hattempts, hfirstPayment]
      exact h.paid old hold latest hlatestMem hpayment hlt hstate
    · obtain rfl : old = latest := Table.eq_of_collide hold hlatestMem
        (.inr ⟨hsame.trans hlatestAttempt.symm, heq⟩)
      exact hstate

theorem QuotesSound.nextOfFirst (h : QuotesSound db) {attempt : StoredCashuStellarMeltQuoteAttempt}
    {attemptRow : MeltQuoteAttemptRow} {quote : CashuStellarMeltQuote}
    (hrow : db.attemptOf attempt.paymentId = some attemptRow)
    (hattempt : mapAttemptBase attemptRow = .ok attempt)
    (hnone : db.outcomeOf attempt.attemptId = none) :
    NextQuote db (quoteObservationRow attempt quote) where
  attempted := by
    obtain ⟨hid, hpayment⟩ := mapAttemptBase_ok hattempt
    exact ⟨attemptRow, (Table.find_some hrow).1, hid.symm, hpayment.symm⟩
  later := by
    intro old hold hsame
    have hsome := h.outcome old hold
    rw [hsame, show (quoteObservationRow attempt quote).attemptId = attempt.attemptId from rfl,
      hnone] at hsome
    cases hsome

theorem quotesSound_of_change (h : QuotesSound db) (hchange : Change db db') :
    QuotesSound db' := by
  cases hchange
  case quoteBegun hattempts =>
    exact h.keep (fun _ => hattempts.mem_of_mem) (fun _ _ houtcome => houtcome) rfl
  case outcomeAmbiguous hnone houtcomes =>
    exact h.keep (fun _ hattempt => hattempt) (fun _ _ => houtcomes.find_of_some) rfl
  case quoteRecorded attempt attemptRow quote row result outcomes observations hrow hattempt hactive
      hnone hpayment hattemptId houtcomes hunpaid hobservations hresult =>
    refine h.observe (h.nextOfFirst hrow hattempt hnone) rfl (fun _ _ => houtcomes.find_of_some) ?_ hobservations
    have hfind : outcomes.find (fun outcome => outcome.attemptId = attempt.attemptId) = some row :=
      Table.find_of_mem (houtcomes.mem.mpr (.inr List.mem_cons_self)) hattemptId
        fun other hother => .inl (hother.trans hattemptId.symm)
    exact Option.isSome_iff_exists.mpr ⟨row, hfind⟩
  case quoteObserved hobservable _ hobservations hresult =>
    refine h.observe (h.next hobservable) rfl (fun _ _ houtcome => houtcome) ?_ hobservations
    obtain ⟨latest, hlatest, -⟩ := hobservable.latest
    obtain ⟨hmem, hsame⟩ := Table.mem_select.mp (mem_of_latest hlatest)
    have hsome := h.outcome latest hmem
    rw [hsame] at hsome
    exact hsome
  case paymentAccepted hdb _ _ _ =>
    subst hdb
    exact h.keep (fun _ hattempt => hattempt) (fun _ _ houtcome => houtcome) rfl
  all_goals exact h.keep (fun _ hattempt => hattempt) (fun _ _ houtcome => houtcome) rfl

theorem quotesSound_of_reachable (h : Reachable db) : QuotesSound db :=
  reachable_of_change quotesSound_empty (fun _ _ _ hsound hchange =>
    quotesSound_of_change hsound hchange) h

/-! ### Snapshots -/

/-- The snapshot is of exactly the reserved proofs of its payment. -/
def CoversReserved (db : Db) (snapshot : ProofStateObservationRow) : Prop :=
  (db.proofStateEntriesOf snapshot.snapshotFingerprint).map (·.proofY) =
    (db.reservedProofsOf snapshot.paymentId).map (·.proofY)

/-- The snapshots are of the proofs of their payments, and none takes a spent proof back. -/
structure SnapshotsSound (db : Db) : Prop where
  observed : ∀ entry ∈ db.cashuProofStateObservationEntries,
    ∃ snapshot ∈ db.cashuProofStateObservations,
      snapshot.snapshotFingerprint = entry.snapshotFingerprint ∧
        snapshot.paymentId = entry.paymentId
  reserved : ∀ snapshot ∈ db.cashuProofStateObservations,
    (db.reservation snapshot.paymentId).isSome
  covered : ∀ snapshot ∈ db.cashuProofStateObservations, CoversReserved db snapshot
  spent : ∀ earlier ∈ db.cashuProofStateObservations,
    ∀ later ∈ db.cashuProofStateObservations, later.paymentId = earlier.paymentId →
      ∀ entry ∈ db.proofStateEntriesOf earlier.snapshotFingerprint,
        ∀ laterEntry ∈ db.proofStateEntriesOf later.snapshotFingerprint,
          ¬SpentRegression earlier.observedAt later.observedAt entry laterEntry

theorem snapshotsSound_empty : SnapshotsSound Db.empty := by
  constructor <;> simp [Db.empty]

theorem SnapshotsSound.keep (h : SnapshotsSound db)
    (hobservations : db'.cashuProofStateObservations = db.cashuProofStateObservations)
    (hentries : db'.cashuProofStateObservationEntries = db.cashuProofStateObservationEntries)
    (hreservations : ∀ paymentId reservation, db.reservation paymentId = some reservation →
      db'.reservation paymentId = some reservation ∧
        db'.reservedProofsOf paymentId = db.reservedProofsOf paymentId) :
    SnapshotsSound db' := by
  have hentriesOf : db'.proofStateEntriesOf = db.proofStateEntriesOf := by
    funext fingerprint
    rw [Db.proofStateEntriesOf, Db.proofStateEntriesOf, hentries]
  constructor
  case observed =>
    rw [hobservations, hentries]
    exact h.observed
  case reserved =>
    rw [hobservations]
    intro snapshot hsnapshot
    obtain ⟨reservation, hreservation⟩ :=
      Option.isSome_iff_exists.mp (h.reserved snapshot hsnapshot)
    rw [(hreservations _ reservation hreservation).1]
    rfl
  case covered =>
    rw [hobservations]
    intro snapshot hsnapshot
    obtain ⟨reservation, hreservation⟩ :=
      Option.isSome_iff_exists.mp (h.reserved snapshot hsnapshot)
    rw [CoversReserved, hentriesOf, (hreservations _ reservation hreservation).2]
    exact h.covered snapshot hsnapshot
  case spent =>
    rw [hobservations, hentriesOf]
    exact h.spent

section Observe

variable {observation : PersistProofStateInput} {reservation : ReservationEvidence}
  {observations : Table ProofStateObservationRow} {entries : Table ProofStateEntryRow}

theorem loadReservationEvidence_ok {paymentId : PaymentId}
    (h : loadReservationEvidence db paymentId = .ok (some reservation)) :
    (db.reservation paymentId).isSome ∧
      reservation.proofYs = (db.reservedProofsOf paymentId).map (·.proofY) := by
  unfold loadReservationEvidence at h
  split at h
  · cases h
  · case h_2 row hrow =>
    simp only [bind_eq_ok, ensure_eq_ok, exists_unit, pure_eq_ok, Except.ok.injEq,
      Option.some.injEq] at h
    obtain ⟨-, rfl⟩ := h
    exact ⟨by rw [hrow]; rfl, rfl⟩

theorem pairwise_proofStateEntryRows (observation : PersistProofStateInput) :
    (proofStateEntryRows observation).Pairwise fun row row' => row.position ≤ row'.position := by
  rw [proofStateEntryRows, List.pairwise_map]
  have hpositions : (observation.snapshot.states.zipIdx.map Prod.snd).Pairwise (· ≤ ·) := by
    rw [List.zipIdx_map_snd]
    apply List.Pairwise.imp (fun h => Nat.le_of_lt h)
    exact List.pairwise_lt_range'
  exact List.pairwise_map.mp hpositions

theorem SnapshotsSound.entries_of_observed (h : SnapshotsSound db)
    (hobservations : db.cashuProofStateObservations.Appends
      [proofStateObservationRow observation] observations)
    (hentries : db.cashuProofStateObservationEntries.Appends (proofStateEntryRows observation)
      entries) :
    orderBy (·.position) (entries.select fun row =>
        row.snapshotFingerprint = observation.fingerprint) = proofStateEntryRows observation := by
  have hold : (db.cashuProofStateObservationEntries.select fun row =>
      row.snapshotFingerprint = observation.fingerprint) = [] := by
    rw [List.eq_nil_iff_forall_not_mem]
    intro entry hentry
    obtain ⟨hmem, hsame⟩ := Table.mem_select.mp hentry
    obtain ⟨snapshot, hsnapshot, hfingerprint, -⟩ := h.observed entry hmem
    exact hobservations.not_collide hsnapshot List.mem_cons_self (.inl (hfingerprint.trans hsame))
  have hnew : (proofStateEntryRows observation).filter
      (fun row => row.snapshotFingerprint = observation.fingerprint) =
        proofStateEntryRows observation := by
    rw [List.filter_eq_self]
    intro row hrow
    obtain ⟨state, -, rfl⟩ := List.mem_map.mp hrow
    simp [proofStateEntryRow]
  rw [hentries.select, hold, hnew, List.nil_append]
  exact orderBy_of_pairwise (pairwise_proofStateEntryRows observation)

theorem map_proofStateEntryRows (observation : PersistProofStateInput) :
    (proofStateEntryRows observation).map (·.proofY) = observation.snapshot.states.map (·.y) := by
  rw [proofStateEntryRows, List.map_map]
  conv_rhs => rw [← List.zipIdx_map_fst 0 observation.snapshot.states, List.map_map]
  rfl

theorem SnapshotsSound.observe (h : SnapshotsSound db)
    (hevidence : loadReservationEvidence db observation.paymentId = .ok (some reservation))
    (hbinding : assertObservationReservationBinding observation reservation = .ok ())
    (hproposed : assertProposedTransition db observation = .ok ())
    (hobservations : db.cashuProofStateObservations.Appends
      [proofStateObservationRow observation] observations)
    (hentries : db.cashuProofStateObservationEntries.Appends (proofStateEntryRows observation)
      entries) :
    SnapshotsSound { db with
      cashuProofStateObservations := observations
      cashuProofStateObservationEntries := entries } := by
  obtain ⟨hreserved, hproofYs⟩ := loadReservationEvidence_ok hevidence
  simp only [assertObservationReservationBinding, bind_eq_ok, ensure_eq_ok, exists_unit] at hbinding
  obtain ⟨-, -, hstates⟩ := hbinding
  rw [assertProposedTransition, ensure_eq_ok] at hproposed
  have hnewEntries := h.entries_of_observed hobservations hentries
  have holdEntries : ∀ old ∈ db.cashuProofStateObservations,
      orderBy (·.position) (entries.select fun row =>
        row.snapshotFingerprint = old.snapshotFingerprint) =
      db.proofStateEntriesOf old.snapshotFingerprint :=
    fun old hold => proofStateEntriesOf_of_observed hobservations hentries hold
  have hagree : ∀ old ∈ db.cashuProofStateObservations, old.paymentId = observation.paymentId →
      ∀ entry ∈ db.proofStateEntriesOf old.snapshotFingerprint,
        ∀ newEntry ∈ proofStateEntryRows observation,
          ¬SpentRegression old.observedAt observation.snapshot.observedAt entry newEntry ∧
            ¬SpentRegression observation.snapshot.observedAt old.observedAt newEntry entry := by
    intro old hold hpayment entry hentry newEntry hnewEntry
    obtain ⟨⟨state, position⟩, hstate, rfl⟩ := List.mem_map.mp hnewEntry
    have hmem : state ∈ observation.snapshot.states := List.fst_mem_of_mem_zipIdx hstate
    have holdMem : old ∈ db.proofStateObservationsOf observation.paymentId :=
      mem_orderBy.mpr (Table.mem_select.mpr ⟨hold, hpayment⟩)
    constructor
    · rintro ⟨htime, hproof, hspent, hnot⟩
      exact (hproposed old holdMem entry hentry state hmem hproof.symm).1 ⟨htime, hspent, hnot⟩
    · rintro ⟨htime, hproof, hspent, hnot⟩
      exact (hproposed old holdMem entry hentry state hmem hproof).2 ⟨htime, hnot, hspent⟩
  constructor
  case observed =>
    intro entry hentry
    rcases hentries.mem.mp hentry with hold | hnew
    · obtain ⟨snapshot, hsnapshot, hsame⟩ := h.observed entry hold
      exact ⟨snapshot, hobservations.mem_of_mem hsnapshot, hsame⟩
    · obtain ⟨state, -, rfl⟩ := List.mem_map.mp hnew
      exact ⟨_, hobservations.mem.mpr (.inr List.mem_cons_self), rfl, rfl⟩
  case reserved =>
    intro snapshot hsnapshot
    rcases hobservations.mem.mp hsnapshot with hold | hnew
    · exact h.reserved snapshot hold
    · rw [List.mem_singleton.mp hnew]
      exact hreserved
  case covered =>
    intro snapshot hsnapshot
    rcases hobservations.mem.mp hsnapshot with hold | hnew
    · show (orderBy _ (entries.select _)).map _ = _
      rw [holdEntries snapshot hold]
      exact h.covered snapshot hold
    · rw [List.mem_singleton.mp hnew]
      show (orderBy _ (entries.select _)).map _ = _
      rw [show (proofStateObservationRow observation).snapshotFingerprint =
        observation.fingerprint from rfl, hnewEntries, map_proofStateEntryRows, hstates, hproofYs]
      rfl
  case spent =>
    intro earlier hearlier later hlater hpayment entry hentry laterEntry hlaterEntry
    change entry ∈ orderBy _ (entries.select _) at hentry
    change laterEntry ∈ orderBy _ (entries.select _) at hlaterEntry
    rcases hobservations.mem.mp hearlier with hearlierOld | hearlierNew
    · rw [holdEntries earlier hearlierOld] at hentry
      rcases hobservations.mem.mp hlater with hlaterOld | hlaterNew
      · rw [holdEntries later hlaterOld] at hlaterEntry
        exact h.spent earlier hearlierOld later hlaterOld hpayment entry hentry laterEntry
          hlaterEntry
      · cases List.mem_singleton.mp hlaterNew
        rw [show (proofStateObservationRow observation).snapshotFingerprint =
          observation.fingerprint from rfl, hnewEntries] at hlaterEntry
        exact (hagree earlier hearlierOld hpayment.symm entry hentry laterEntry hlaterEntry).1
    · cases List.mem_singleton.mp hearlierNew
      rw [show (proofStateObservationRow observation).snapshotFingerprint =
        observation.fingerprint from rfl, hnewEntries] at hentry
      rcases hobservations.mem.mp hlater with hlaterOld | hlaterNew
      · rw [holdEntries later hlaterOld] at hlaterEntry
        exact (hagree later hlaterOld hpayment laterEntry hlaterEntry entry hentry).2
      · cases List.mem_singleton.mp hlaterNew
        rintro ⟨htime, -⟩
        exact absurd htime (lt_irrefl _)

end Observe

theorem snapshotsSound_of_change (h : SnapshotsSound db) (hchange : Change db db') :
    SnapshotsSound db' := by
  cases hchange
  case reserved reservation reservations proofs claims hcreated hnew hroute hreservations hproofs
      hclaims =>
    refine h.keep rfl rfl fun paymentId old hold => ⟨hreservations.find_of_some hold, ?_⟩
    show orderBy _ (proofs.select _) = _
    rw [hproofs.select_of_not]
    · rfl
    · intro row hrow hsame
      obtain ⟨pair, -, rfl⟩ := List.mem_map.mp hrow
      rw [show reservation.paymentId = paymentId from hsame, hold] at hnew
      cases hnew
  case proofStateObserved hsnapshot hevidence hactive hproposed hobservations hentries =>
    obtain ⟨reservation, hevidence, hbinding⟩ := hevidence
    exact h.observe hevidence hbinding hproposed hobservations hentries
  case paymentAccepted hdb _ _ _ =>
    subst hdb
    exact h.keep rfl rfl fun _ _ hreservation => ⟨hreservation, rfl⟩
  all_goals exact h.keep rfl rfl fun _ _ hreservation => ⟨hreservation, rfl⟩

theorem snapshotsSound_of_reachable (h : Reachable db) : SnapshotsSound db :=
  reachable_of_change snapshotsSound_empty (fun _ _ _ hsound hchange =>
    snapshotsSound_of_change hsound hchange) h

/-! ### What a change adds to the evidence -/

/-- Every change keeps the quote observations or appends one of a payment that is not settled. -/
theorem quotes_of_change (h : Change db db') :
    db'.cashuStellarMeltQuoteObservations = db.cashuStellarMeltQuoteObservations ∨
      ∃ row, (∀ state ∈ db.latestState row.paymentId, ¬state.toReservationState.Terminal) ∧
        db.cashuStellarMeltQuoteObservations.Appends [row]
          db'.cashuStellarMeltQuoteObservations := by
  cases h
  case quoteRecorded hactive _ _ _ _ _ hobservations _ => exact .inr ⟨_, hactive, hobservations⟩
  case quoteObserved hobservable _ hobservations _ =>
    exact .inr ⟨_, hobservable.active, hobservations⟩
  case paymentAccepted hdb _ _ _ =>
    rw [hdb]
    exact .inl rfl
  all_goals exact .inl rfl

/-- Every change keeps the snapshots or appends one of a payment that is not settled. -/
theorem snapshots_of_change (h : Change db db') :
    (db'.cashuProofStateObservations = db.cashuProofStateObservations ∧
        db'.cashuProofStateObservationEntries = db.cashuProofStateObservationEntries) ∨
      ∃ observation : PersistProofStateInput,
        (∀ state ∈ db.latestState observation.paymentId, ¬state.toReservationState.Terminal) ∧
        db.cashuProofStateObservations.Appends [proofStateObservationRow observation]
          db'.cashuProofStateObservations ∧
        db.cashuProofStateObservationEntries.Appends (proofStateEntryRows observation)
          db'.cashuProofStateObservationEntries := by
  cases h
  case proofStateObserved hactive _ hobservations hentries =>
    exact .inr ⟨_, hactive, hobservations, hentries⟩
  case paymentAccepted hdb _ _ _ =>
    rw [hdb]
    exact .inl ⟨rfl, rfl⟩
  all_goals exact .inl ⟨rfl, rfl⟩

theorem quote_of_change (h : Change db db') {quote : MeltQuoteObservationRow}
    (hquote : quote ∈ db.cashuStellarMeltQuoteObservations) :
    quote ∈ db'.cashuStellarMeltQuoteObservations := by
  rcases quotes_of_change h with hsame | ⟨row, -, hobservations⟩
  · rwa [hsame]
  · exact hobservations.mem_of_mem hquote

theorem snapshot_of_change (h : Change db db') {snapshot : ProofStateObservationRow}
    (hsnapshot : snapshot ∈ db.cashuProofStateObservations) :
    snapshot ∈ db'.cashuProofStateObservations ∧
      db'.proofStateEntriesOf snapshot.snapshotFingerprint =
        db.proofStateEntriesOf snapshot.snapshotFingerprint := by
  rcases snapshots_of_change h with ⟨hsame, hentries⟩ | ⟨observation, -, hobservations, hentries⟩
  · rw [hsame, Db.proofStateEntriesOf, Db.proofStateEntriesOf, hentries]
    exact ⟨hsnapshot, rfl⟩
  · exact ⟨hobservations.mem_of_mem hsnapshot,
      proofStateEntriesOf_of_observed hobservations hentries hsnapshot⟩

/-- Nothing is observed of a payment that is settled. -/
theorem evidence_of_terminal (h : Change db db') {paymentId : PaymentId}
    {state : LifecycleEventState} (hstate : db.latestState paymentId = some state)
    (hterminal : state.toReservationState.Terminal) :
    (db'.cashuStellarMeltQuoteObservations.select fun row => row.paymentId = paymentId) =
        (db.cashuStellarMeltQuoteObservations.select fun row => row.paymentId = paymentId) ∧
      (db'.cashuProofStateObservations.select fun row => row.paymentId = paymentId) =
        (db.cashuProofStateObservations.select fun row => row.paymentId = paymentId) := by
  constructor
  · rcases quotes_of_change h with hsame | ⟨row, hactive, hobservations⟩
    · rw [hsame]
    · apply hobservations.select_of_not
      intro other hother hpayment
      rw [List.mem_singleton.mp hother] at hpayment
      exact hactive state (by rw [hpayment, hstate]; rfl) hterminal
  · rcases snapshots_of_change h with ⟨hsame, -⟩ | ⟨observation, hactive, hobservations, -⟩
    · rw [hsame]
    · apply hobservations.select_of_not
      intro other hother hpayment
      rw [List.mem_singleton.mp hother] at hpayment
      exact hactive state (by rw [show observation.paymentId = paymentId from hpayment, hstate]; rfl)
        hterminal

end CashMesh.Acquirer
