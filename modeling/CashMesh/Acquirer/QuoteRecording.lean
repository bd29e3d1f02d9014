import CashMesh.Acquirer.QuoteClient
import CashMesh.Acquirer.Quotes
/-!
# Recording a created quote

The quote that the client makes of the mint's answer, given to the repository that keeps it. Three
times over the code says which new quote is usable: the client counts the time to live from its own
clock before the request, the repository and the trigger count it from the start of the attempt. Here
the conditions under which the repository takes a created quote are worked out, over every run.
-/

namespace CashMesh.Acquirer

open CashMesh.Lib
open CashMesh.StellarSettlement (UrlRecord)

variable {db db' : Db}

/-! ### Payments with an attempt -/

/-- A payment with an attempt is reserved, and its proofs are in custody until its first event. -/
structure AttemptsHeld (db : Db) : Prop where
  custodyReserved : ∀ custody ∈ db.cashuBearerProofCustody, (db.reservation custody.paymentId).isSome
  reserved : ∀ attempt ∈ db.cashuStellarMeltQuoteAttempts,
    (db.reservation attempt.paymentId).isSome
  inCustody : ∀ attempt ∈ db.cashuStellarMeltQuoteAttempts, db.eventsOf attempt.paymentId = [] →
    (db.custodyOf attempt.paymentId).isSome

theorem AttemptsHeld.keep (h : AttemptsHeld db)
    (hcustody : ∀ custody ∈ db'.cashuBearerProofCustody, custody ∈ db.cashuBearerProofCustody)
    (hreservations : ∀ paymentId, (db.reservation paymentId).isSome →
      (db'.reservation paymentId).isSome)
    (hattempts : db'.cashuStellarMeltQuoteAttempts = db.cashuStellarMeltQuoteAttempts)
    (hheld : ∀ paymentId, db'.eventsOf paymentId = [] →
      db.eventsOf paymentId = [] ∧ db'.custodyOf paymentId = db.custodyOf paymentId) :
    AttemptsHeld db' where
  custodyReserved := fun custody hmem =>
    hreservations _ (h.custodyReserved custody (hcustody custody hmem))
  reserved := by
    rw [hattempts]
    exact fun attempt hmem => hreservations _ (h.reserved attempt hmem)
  inCustody := by
    rw [hattempts]
    intro attempt hmem hevents
    obtain ⟨hbefore, hsame⟩ := hheld attempt.paymentId hevents
    rw [hsame]
    exact h.inCustody attempt hmem hbefore

theorem AttemptsHeld.event (h : AttemptsHeld db) {row : LifecycleEventRow} {events}
    (hevents : db.cashuProofReservationEvents.Appends [row] events) :
    AttemptsHeld (db.afterEvent row events) := by
  apply h.keep
  case hcustody =>
    intro custody hmem
    have hafter : custody ∈ custodyAfter db row := hmem
    unfold custodyAfter at hafter
    split at hafter
    · exact (Table.mem_delete.mp hafter).1
    · exact hafter
  case hreservations => exact fun _ h => h
  case hattempts => rfl
  case hheld =>
    intro paymentId hnone
    have hselect : events.select (fun event => event.paymentId = paymentId) = [] := by
      have hlength := congrArg List.length hnone
      exact List.length_eq_zero_iff.mp (by rwa [Db.eventsOf, length_orderBy] at hlength)
    rw [hevents.select, List.append_eq_nil_iff] at hselect
    obtain ⟨hold, hnew⟩ := hselect
    have hother : row.paymentId ≠ paymentId := by
      intro hsame
      simp [hsame] at hnew
    refine ⟨by rw [Db.eventsOf, hold]; rfl, ?_⟩
    show (custodyAfter db row).find _ = _
    unfold custodyAfter
    split
    · rw [Table.find, Table.select_delete_of_imp_not]
      · rfl
      · intro custody hcustody hdeleted
        exact hother (hdeleted.symm.trans hcustody)
    · rfl

theorem attemptsHeld_of_change (h : AttemptsHeld db) (hchange : Change db db') :
    AttemptsHeld db' := by
  cases hchange
  case reserved hreservations _ _ =>
    apply h.keep
    case hcustody => exact fun _ hmem => hmem
    case hreservations =>
      intro paymentId hsome
      obtain ⟨reservation, hreservation⟩ := Option.isSome_iff_exists.mp hsome
      exact Option.isSome_iff_exists.mpr ⟨reservation, hreservations.find_of_some hreservation⟩
    case hattempts => rfl
    case hheld => exact fun _ hnone => ⟨hnone, rfl⟩
  case custodyStored row custody hnoEvent hbundle hcustody =>
    constructor
    case custodyReserved =>
      intro stored hmem
      rcases hcustody.mem.mp hmem with hold | hnew
      · exact h.custodyReserved stored hold
      · obtain ⟨reservation, hreservation, -⟩ := hbundle
        rw [List.mem_singleton.mp hnew]
        exact Option.isSome_iff_exists.mpr ⟨reservation, hreservation⟩
    case reserved => exact h.reserved
    case inCustody =>
      intro attempt hmem hevents
      obtain ⟨stored, hstored⟩ := Option.isSome_iff_exists.mp (h.inCustody attempt hmem hevents)
      exact Option.isSome_iff_exists.mpr ⟨stored, hcustody.find_of_some hstored⟩
  case quoteBegun row result attempts hheld hresult hattempts =>
    constructor
    case custodyReserved => exact h.custodyReserved
    case reserved =>
      intro attempt hmem
      rcases hattempts.mem.mp hmem with hold | hnew
      · exact h.reserved attempt hold
      · rw [List.mem_singleton.mp hnew]
        obtain ⟨custody, hcustody⟩ := Option.isSome_iff_exists.mp hheld
        obtain ⟨hstored, hpayment⟩ := Table.find_some hcustody
        rw [← hpayment]
        exact h.custodyReserved custody hstored
    case inCustody =>
      intro attempt hmem hevents
      rcases hattempts.mem.mp hmem with hold | hnew
      · exact h.inCustody attempt hold hevents
      · rw [List.mem_singleton.mp hnew]
        exact hheld
  case effectStarted scope input lifecycle effects claims jobs events hstartable heffects hclaims hjobs
      hadmitted hevents hafter =>
    have hbefore : AttemptsHeld (db.withEffect effects claims jobs) :=
      h.keep (fun _ hmem => hmem) (fun _ hsome => hsome) rfl fun _ hnone => ⟨hnone, rfl⟩
    exact hbefore.event hevents
  case eventAppended hevents hafter => exact h.event hevents
  case paymentAccepted journals postings invoices events hacceptable hcurrent hfollows hjournals
      hpostings hpayable hinvoices hadmitted hevents hdb hafter haccounted hbalanced =>
    subst hdb
    have hbefore : AttemptsHeld (db.withAccounting journals postings invoices) :=
      h.keep (fun _ hmem => hmem) (fun _ hsome => hsome) rfl fun _ hnone => ⟨hnone, rfl⟩
    exact hbefore.event hevents
  all_goals
    exact h.keep (fun _ hmem => hmem) (fun _ hsome => hsome) rfl fun _ hnone => ⟨hnone, rfl⟩

theorem attemptsHeld_of_reachable (h : Reachable db) : AttemptsHeld db :=
  reachable_of_change ⟨by simp [Db.empty], by simp [Db.empty], by simp [Db.empty]⟩
    (fun _ _ _ hheld hchange => attemptsHeld_of_change hheld hchange) h

/-! ### The attempt that is locked -/

theorem lockReservation_of_held (hheld : AttemptsHeld db) {row : MeltQuoteAttemptRow}
    (hrow : row ∈ db.cashuStellarMeltQuoteAttempts) : lockReservation db row.paymentId = .ok () :=
  ensure_of (hheld.reserved row hrow)

theorem lockAttempt_of_mem {row : MeltQuoteAttemptRow}
    (hrow : row ∈ db.cashuStellarMeltQuoteAttempts) :
    lockAttempt db row.attemptId row.paymentId = .ok row := by
  have hselect : conflictingAttempts db row.attemptId row.paymentId = [row] := by
    apply Table.select_eq_singleton hrow (.inl rfl)
    intro other hother
    exact hother.imp_right Or.inr
  rw [lockAttempt, hselect]
  show (ensure _ _ >>= fun _ => pure row) = _
  rw [ensure_of ⟨rfl, rfl⟩]
  rfl

/-- What a row stores of its attempt. -/
structure StoresAttempt (row : MeltQuoteAttemptRow) (attempt : StoredCashuStellarMeltQuoteAttempt) :
    Prop where
  attemptFingerprint : attempt.attemptFingerprint = row.attemptFingerprint
  attemptId : attempt.attemptId = row.attemptId
  mintUrl : attempt.mintUrl = row.mintUrl
  paymentId : attempt.paymentId = row.paymentId
  amount : attempt.request.amount = row.amount
  request : attempt.request.request = row.request
  startedAt : attempt.startedAt = row.startedAt

theorem storesAttempt_of_record {row : MeltQuoteAttemptRow}
    {attempt : StoredCashuStellarMeltQuoteAttempt}
    (h : mapCashuStellarMeltQuoteAttemptRecord row = .ok attempt) : StoresAttempt row attempt := by
  simp only [mapCashuStellarMeltQuoteAttemptRecord, bind_eq_ok, ensure_eq_ok, exists_unit,
    orFail_eq_ok, pure_eq_ok, Except.ok.injEq] at h
  obtain ⟨request, hrequest, -, rfl⟩ := h
  unfold createCashuStellarMeltQuoteRequest at hrequest
  split at hrequest
  · obtain rfl := Option.some.inj hrequest
    exact ⟨rfl, rfl, rfl, rfl, rfl, rfl, rfl⟩
  · cases hrequest

theorem base_of_reachable (hreach : Reachable db) {row : MeltQuoteAttemptRow}
    (hrow : row ∈ db.cashuStellarMeltQuoteAttempts) :
    ∃ attempt, mapAttemptBase row = .ok attempt ∧ StoresAttempt row attempt := by
  obtain ⟨result, hresult⟩ := (quotesReadable_of_reachable hreach).mapped row hrow
  simp only [mapAttempt, bind_eq_ok] at hresult
  obtain ⟨attempt, hattempt, -⟩ := hresult
  exact ⟨attempt, hattempt, storesAttempt_of_record (mapError_eq_ok.mp hattempt)⟩

/-! ### Fingerprints -/

/-- The attempt that the fingerprint of an outcome names. -/
def MeltQuoteOutcomeFingerprint.attempt : MeltQuoteOutcomeFingerprint → MeltQuoteAttemptFingerprint
  | .ambiguous attempt _ _ => attempt
  | .quoted attempt _ _ _ _ _ _ _ => attempt

theorem outcomeFingerprint_attempt {row : MeltQuoteAttemptRow} {outcome : MeltQuoteOutcomeRow}
    {result : CashuStellarMeltQuoteAttempt} (h : mapAttempt db row = .ok result)
    (houtcome : db.outcomeOf row.attemptId = some outcome) :
    outcome.outcomeFingerprint.attempt = row.attemptFingerprint := by
  simp only [mapAttempt, bind_eq_ok] at h
  obtain ⟨attempt, hattempt, h⟩ := h
  rw [(mapAttemptBase_ok hattempt).1, houtcome] at h
  have hstored := (storesAttempt_of_record (mapError_eq_ok.mp hattempt)).attemptFingerprint
  simp only [bind_eq_ok, ensure_eq_ok, exists_unit] at h
  obtain ⟨-, h⟩ := h
  split at h
  · simp only [bind_eq_ok, orFail_eq_ok, ensure_eq_ok, exists_unit, pure_eq_ok,
      Except.ok.injEq] at h
    obtain ⟨reason, -, ⟨-, -, -, -, -, hfingerprint⟩, -⟩ := h
    rw [hfingerprint]
    exact hstored
  · simp only [bind_eq_ok, mapError_eq_ok, mapCashuStellarMeltQuotedEvidenceRecord, ensure_eq_ok,
      exists_unit, orFail_eq_ok] at h
    obtain ⟨evidence, ⟨stored, hrecord, -, expiry, -, feeReserve, -, quotes, -, first, -,
      ⟨-, -, -, -, -, hfingerprint⟩, -⟩, -⟩ := h
    rw [← hfingerprint]
    exact (storesAttempt_of_record hrecord).attemptFingerprint

theorem attemptId_of_outcome (hreach : Reachable db) {row : MeltQuoteAttemptRow}
    (hrow : row ∈ db.cashuStellarMeltQuoteAttempts) {outcome : MeltQuoteOutcomeRow}
    (houtcome : outcome ∈ db.cashuStellarMeltQuoteOutcomes)
    (hsame : outcome.outcomeFingerprint.attempt = row.attemptFingerprint ∨
      outcome.paymentId = row.paymentId) : outcome.attemptId = row.attemptId := by
  have hreadable := quotesReadable_of_reachable hreach
  obtain ⟨other, hother, hattemptId, hpayment⟩ := hreadable.attempted outcome houtcome
  obtain ⟨result, hresult⟩ := hreadable.mapped other hother
  have hfound : db.outcomeOf other.attemptId = some outcome := by
    rw [hattemptId]
    exact outcomeOf_of_mem houtcome
  have hattempts : other = row := by
    apply Table.eq_of_collide hother hrow
    rcases hsame with hfingerprint | hpaymentId
    · exact .inr (.inl ((outcomeFingerprint_attempt hresult hfound).symm.trans hfingerprint))
    · exact .inr (.inr (hpayment.trans hpaymentId))
  rw [← hattemptId, hattempts]

theorem snapshotFingerprint_attemptId (hreach : Reachable db) {row : MeltQuoteObservationRow}
    (hrow : row ∈ db.cashuStellarMeltQuoteObservations) :
    row.snapshotFingerprint.attemptId = row.attemptId := by
  obtain ⟨attempt, hattempt, hattemptId, -⟩ := (quotesSound_of_reachable hreach).attempted row hrow
  obtain ⟨result, hresult⟩ := (quotesReadable_of_reachable hreach).mapped attempt hattempt
  have hmem : row ∈ db.quoteObservationsOf attempt.attemptId :=
    mem_orderBy.mpr (Table.mem_select.mpr ⟨hrow, hattemptId.symm⟩)
  obtain ⟨hquoted, hother⟩ := isQuoted_of_mapAttempt hresult
  by_cases hkind : result.IsQuoted
  · obtain ⟨outcome, houtcome, hkind⟩ := hquoted hkind
    obtain ⟨evidence, hevidence⟩ := mapAttempt_quoted hresult houtcome hkind
    simp only [mapCashuStellarMeltQuotedEvidenceRecord, bind_eq_ok, ensure_eq_ok, exists_unit,
      orFail_eq_ok] at hevidence
    obtain ⟨stored, hstored, -, expiry, -, feeReserve, -, quotes, hquotes, -⟩ := hevidence
    obtain ⟨quote, -, hquote⟩ := exists_of_forall₂ (mapM_eq_ok.mp hquotes).flip hmem
    simp only [mapCashuStellarMeltQuoteObservationRecord, bind_eq_ok, ensure_eq_ok, exists_unit,
      orFail_eq_ok] at hquote
    obtain ⟨-, created, -, hfingerprint, -⟩ := hquote
    rw [← hfingerprint, ← hattemptId]
    exact (storesAttempt_of_record hstored).attemptId
  · rw [(hother hkind).1] at hmem
    cases hmem

/-! ### Recording -/

/-- The outcome of an attempt that was answered with a quote. -/
def quotedOutcomeRow (attempt : StoredCashuStellarMeltQuoteAttempt) (quote : CashuStellarMeltQuote) :
    MeltQuoteOutcomeRow where
  attemptId := attempt.attemptId
  outcomeFingerprint := createCashuStellarMeltQuotedOutcomeFingerprint attempt quote
  paymentId := attempt.paymentId
  mintUrl := attempt.mintUrl
  outcomeKind := .quoted
  ambiguityReason := none
  quoteId := some quote.quoteId
  feeReserve := some quote.feeReserve
  expiry := some quote.expiry
  recordedAt := quote.observedAt

/-- A new quote of an attempt of which nothing has come yet, on a payment before its dispatch, that no
other payment holds. -/
structure NewQuote (db : Db) (row : MeltQuoteAttemptRow) (quote : CashuStellarMeltQuote) : Prop where
  valid : createCashuStellarMeltQuote quote = some quote
  mintUrl : quote.mintUrl = row.mintUrl
  amount : quote.amount = row.amount
  request : quote.request = row.request
  unpaid : quote.state = .unpaid
  started : row.startedAt ≤ quote.observedAt
  unexpired : quote.observedAt < quote.expiry
  noEffect : db.effectsOf row.paymentId = []
  noEvent : db.eventsOf row.paymentId = []
  noOutcome : db.outcomeOf row.attemptId = none
  free : ∀ outcome ∈ db.cashuStellarMeltQuoteOutcomes, outcome.paymentId ≠ row.paymentId →
    outcome.mintUrl = row.mintUrl → outcome.quoteId ≠ some quote.quoteId

/-- The rows with an outcome and its first observation. -/
abbrev Db.withQuote (db : Db) (outcomes : Table MeltQuoteOutcomeRow)
    (observations : Table MeltQuoteObservationRow) : Db :=
  { db with
    cashuStellarMeltQuoteOutcomes := outcomes
    cashuStellarMeltQuoteObservations := observations }

section Recording

variable {row : MeltQuoteAttemptRow} {quote : CashuStellarMeltQuote}
  {attempt : StoredCashuStellarMeltQuoteAttempt}

theorem bounds_of_valid (hvalid : createCashuStellarMeltQuote quote = some quote) :
    (minCashuStellarMeltAmount ≤ quote.amount ∧ quote.amount ≤ maxCashuStellarMeltAmount) ∧
      quote.amount + quote.feeReserve ≤ maxSafeInteger ∧ quote.observedAt ≤ maxSafeInteger ∧
      quote.expiry ≤ maxSafeInteger ∧ uuidV7Pattern quote.quoteId.val = true := by
  unfold createCashuStellarMeltQuote at hvalid
  split at hvalid
  · case isTrue h =>
    obtain ⟨hrequest, htotal, hobserved, hexpiry, hquoteId⟩ := h
    refine ⟨?_, htotal, hobserved, hexpiry, hquoteId⟩
    unfold createCashuStellarMeltQuoteRequest at hrequest
    split at hrequest
    · case isTrue hrange => exact hrange
    · cases hrequest
  · cases hvalid

/-- The trigger of the outcomes takes a new quote exactly when it expires in time. -/
theorem validQuoteOutcome_iff_expiry (hreach : Reachable db)
    (hrow : row ∈ db.cashuStellarMeltQuoteAttempts) (hstores : StoresAttempt row attempt)
    (hnew : NewQuote db row quote) :
    ValidQuoteOutcome db (quotedOutcomeRow attempt quote) row ↔
      quote.expiry ≤ row.startedAt + maxCashuStellarMeltQuoteTtlSeconds := by
  constructor
  · intro h
    exact (h.terms rfl).1 quote.expiry rfl
  · intro hexpiry
    obtain ⟨-, htotal, -⟩ := bounds_of_valid hnew.valid
    constructor
    case started => exact hnew.started
    case noEffect =>
      show db.effectsOf attempt.paymentId = []
      rw [hstores.paymentId]
      exact hnew.noEffect
    case noEvent =>
      show db.eventsOf attempt.paymentId = []
      rw [hstores.paymentId]
      exact hnew.noEvent
    case inCustody =>
      show (db.custodyOf attempt.paymentId).isSome
      rw [hstores.paymentId]
      exact (attemptsHeld_of_reachable hreach).inCustody row hrow hnew.noEvent
    case terms =>
      intro _
      constructor
      · intro expiry hmem
        obtain rfl := Option.some.inj hmem
        exact hexpiry
      · intro feeReserve hmem
        obtain rfl := Option.some.inj hmem
        rw [← hnew.amount]
        exact Nat.le_sub_of_add_le (by rwa [Nat.add_comm])

theorem insertQuoteOutcome_of_new (hreach : Reachable db)
    (hrow : row ∈ db.cashuStellarMeltQuoteAttempts) (hstores : StoresAttempt row attempt)
    (hnew : NewQuote db row quote)
    (hexpiry : quote.expiry ≤ row.startedAt + maxCashuStellarMeltQuoteTtlSeconds) :
    ∃ outcomes, db.cashuStellarMeltQuoteOutcomes.Appends [quotedOutcomeRow attempt quote] outcomes ∧
      insertQuoteOutcome ⟨db, []⟩ (quotedOutcomeRow attempt quote) =
        .ok ⟨{ db with cashuStellarMeltQuoteOutcomes := outcomes },
          [.quoteObservation attempt.attemptId]⟩ := by
  obtain ⟨-, -, hobserved, hsafe, hquoteId⟩ := bounds_of_valid hnew.valid
  obtain ⟨-, htotal, -⟩ := bounds_of_valid hnew.valid
  have hfound : db.attempt attempt.attemptId = some row := by
    rw [hstores.attemptId]
    exact Table.find_of_mem hrow rfl fun _ hsame => .inl hsame
  have hvalid := (validQuoteOutcome_iff_expiry hreach hrow hstores hnew).mpr hexpiry
  have hchecks : (quotedOutcomeRow attempt quote).Checks := by
    refine ⟨?_, hobserved, .inr ⟨rfl, rfl, rfl, ?_, ?_⟩⟩
    · intro other hother
      obtain rfl := Option.some.inj hother
      exact hquoteId
    · intro feeReserve hmem
      obtain rfl := Option.some.inj hmem
      exact (Nat.le_add_left _ _).trans htotal
    · intro expiry hmem
      obtain rfl := Option.some.inj hmem
      exact ⟨hnew.unexpired, hsafe⟩
  have hnotMine : ∀ outcome ∈ db.cashuStellarMeltQuoteOutcomes,
      outcome.attemptId ≠ row.attemptId :=
    fun outcome hmem => Table.find_none.mp hnew.noOutcome outcome hmem
  have hdistinct : ∀ old ∈ db.cashuStellarMeltQuoteOutcomes,
      ¬Collide old (quotedOutcomeRow attempt quote) := by
    intro old hold hcollide
    rcases hcollide with hid | hfingerprint | ⟨-, -, hmint, -, hsame⟩
    · exact hnotMine old hold (hid.trans hstores.attemptId)
    · apply hnotMine old hold
      apply attemptId_of_outcome hreach hrow hold
      rw [hfingerprint, ← hstores.attemptFingerprint]
      exact .inl rfl
    · have hpayment : old.paymentId = row.paymentId := by
        by_contra hother
        exact hnew.free old hold hother (hmint.trans hstores.mintUrl) hsame
      exact hnotMine old hold (attemptId_of_outcome hreach hrow hold (.inr hpayment))
  have hforeign : ∃ stored ∈ db.cashuStellarMeltQuoteAttempts,
      stored.attemptId = attempt.attemptId ∧ stored.paymentId = attempt.paymentId ∧
        stored.mintUrl = attempt.mintUrl :=
    ⟨row, hrow, hstores.attemptId.symm, hstores.paymentId.symm, hstores.mintUrl.symm⟩
  obtain ⟨outcomes, hinsert, hrows⟩ := Table.insert_of_not_collide hdistinct
  refine ⟨outcomes, hrows, ?_⟩
  simp only [insertQuoteOutcome, insertRow, bind_eq_ok, ensure_eq_ok, exists_unit, orFail_eq_ok,
    pure_eq_ok, Except.ok.injEq]
  exact ⟨⟨row, hfound, hvalid⟩, hchecks, outcomes, hinsert, hforeign, rfl⟩

theorem insertQuoteOutcome_iff_expiry (hreach : Reachable db)
    (hrow : row ∈ db.cashuStellarMeltQuoteAttempts) (hstores : StoresAttempt row attempt)
    (hnew : NewQuote db row quote) :
    (∃ s, insertQuoteOutcome ⟨db, []⟩ (quotedOutcomeRow attempt quote) = .ok s) ↔
      quote.expiry ≤ row.startedAt + maxCashuStellarMeltQuoteTtlSeconds := by
  constructor
  · intro h
    obtain ⟨s, hinsert⟩ := h
    obtain ⟨⟨stored, hstored, hadmitted⟩, -⟩ := insertQuoteOutcome_ok hinsert
    have hfound : db.attempt attempt.attemptId = some row := by
      rw [hstores.attemptId]
      exact Table.find_of_mem hrow rfl fun _ hsame => .inl hsame
    obtain rfl : row = stored := Option.some.inj (hfound.symm.trans hstored)
    exact (validQuoteOutcome_iff_expiry hreach hrow hstores hnew).mp hadmitted
  · intro hexpiry
    obtain ⟨outcomes, -, hinsert⟩ := insertQuoteOutcome_of_new hreach hrow hstores hnew hexpiry
    exact ⟨_, hinsert⟩

theorem no_observation (hreach : Reachable db) (hnew : NewQuote db row quote) :
    ∀ observation ∈ db.cashuStellarMeltQuoteObservations,
      observation.attemptId ≠ row.attemptId := by
  intro observation hmem hsame
  have hsome := (quotesSound_of_reachable hreach).outcome observation hmem
  rw [hsame, hnew.noOutcome] at hsome
  cases hsome

/-- The first observation of a new quote is inserted after its outcome. -/
theorem insertQuoteObservation_of_new (hreach : Reachable db)
    (hrow : row ∈ db.cashuStellarMeltQuoteAttempts) (hstores : StoresAttempt row attempt)
    (hnew : NewQuote db row quote) {outcomes} (deferred : List DeferredCheck)
    (houtcomes : db.cashuStellarMeltQuoteOutcomes.Appends [quotedOutcomeRow attempt quote] outcomes) :
    ∃ observations,
      db.cashuStellarMeltQuoteObservations.Appends [quoteObservationRow attempt quote] observations ∧
      insertQuoteObservation ⟨{ db with cashuStellarMeltQuoteOutcomes := outcomes }, deferred⟩
          (quoteObservationRow attempt quote) =
        .ok ⟨db.withQuote outcomes observations,
          deferred ++ [.quoteObservation attempt.attemptId]⟩ := by
  obtain ⟨-, -, hobserved, -, hquoteId⟩ := bounds_of_valid hnew.valid
  have hnone := no_observation hreach hnew
  have hguard : guardObservationAppend ⟨{ db with cashuStellarMeltQuoteOutcomes := outcomes }, deferred⟩
      attempt.paymentId = .ok () := by
    simp only [guardObservationAppend, bind_eq_ok, ensure_eq_ok, exists_unit]
    rw [hstores.paymentId]
    refine ⟨(attemptsHeld_of_reachable hreach).reserved row hrow, ?_⟩
    have hlatest : db.latestState row.paymentId = none := by
      apply latestState_of_no_event
      intro event hevent hpayment
      have hmem : event ∈ db.eventsOf row.paymentId :=
        mem_orderBy.mpr (Table.mem_select.mpr ⟨hevent, hpayment⟩)
      rw [hnew.noEvent] at hmem
      cases hmem
    intro state hstate
    have hsome : db.latestState row.paymentId = some state := hstate
    rw [hlatest] at hsome
    cases hsome
  have hlatest : db.latestQuoteObservation attempt.attemptId = none := by
    rw [Db.latestQuoteObservation, latest_eq_none, List.eq_nil_iff_forall_not_mem]
    intro observation hmem
    obtain ⟨hstored, hsame⟩ := Table.mem_select.mp hmem
    exact hnone observation hstored (hsame.trans hstores.attemptId)
  have hfound : outcomes.find (fun outcome => outcome.attemptId = attempt.attemptId) =
      some (quotedOutcomeRow attempt quote) :=
    Table.find_of_mem (houtcomes.mem.mpr (.inr List.mem_cons_self)) rfl fun _ hsame => .inl hsame
  have hvalid : ValidQuoteObservation { db with cashuStellarMeltQuoteOutcomes := outcomes }
      (quoteObservationRow attempt quote) (quotedOutcomeRow attempt quote) := by
    constructor
    case quoted => rfl
    case paymentId => rfl
    case mintUrl => rfl
    case quoteId =>
      intro quoteId hmem
      exact (Option.some.inj hmem).symm
    case recorded => exact Nat.le_refl _
    case first => exact fun _ => ⟨rfl, hnew.unpaid⟩
    case later =>
      intro latest hmem
      have hsome : db.latestQuoteObservation attempt.attemptId = some latest := hmem
      rw [hlatest] at hsome
      cases hsome
  have hdistinct : ∀ old ∈ db.cashuStellarMeltQuoteObservations,
      ¬Collide old (quoteObservationRow attempt quote) := by
    intro old hold hcollide
    apply hnone old hold
    rcases hcollide with hfingerprint | ⟨hid, -⟩
    · rw [← snapshotFingerprint_attemptId hreach hold, hfingerprint]
      exact hstores.attemptId
    · exact hid.trans hstores.attemptId
  obtain ⟨observations, hinsert, hrows⟩ := Table.insert_of_not_collide hdistinct
  refine ⟨observations, hrows, ?_⟩
  simp only [insertQuoteObservation, insertRow, bind_eq_ok, ensure_eq_ok, exists_unit, orFail_eq_ok,
    pure_eq_ok, Except.ok.injEq]
  exact ⟨hguard, ⟨_, hfound, hvalid⟩, ⟨hquoteId, hobserved⟩, observations, hinsert,
    ⟨_, houtcomes.mem.mpr (.inr List.mem_cons_self), rfl, rfl, rfl, rfl⟩, rfl⟩

/-- The rows of a recorded quote are read back. -/
theorem mapAttempt_of_new (hbase : mapAttemptBase row = .ok attempt)
    (hstores : StoresAttempt row attempt) (hnew : NewQuote db row quote)
    (hexpiry : quote.expiry ≤ row.startedAt + maxCashuStellarMeltQuoteTtlSeconds)
    (houtcome : db'.outcomeOf attempt.attemptId = some (quotedOutcomeRow attempt quote))
    (hobservations : db'.quoteObservationsOf attempt.attemptId = [quoteObservationRow attempt quote]) :
    mapAttempt db' row = .ok (.quoted attempt quote [quote]) := by
  have hrecord : mapCashuStellarMeltQuoteAttemptRecord row = .ok attempt := mapError_eq_ok.mp hbase
  have hquote : mapCashuStellarMeltQuoteObservationRecord attempt (quotedOutcomeRow attempt quote)
      (quoteObservationRow attempt quote) quote.expiry quote.feeReserve = .ok quote := by
    have hsame : ({
        amount := attempt.request.amount
        expiry := quote.expiry
        feeReserve := quote.feeReserve
        mintUrl := attempt.mintUrl
        observedAt := quote.observedAt
        quoteId := quote.quoteId
        request := attempt.request.request
        state := quote.state } : CashuStellarMeltQuote) = quote := by
      rw [hstores.amount, hstores.mintUrl, hstores.request, ← hnew.amount, ← hnew.mintUrl,
        ← hnew.request]
    simp only [mapCashuStellarMeltQuoteObservationRecord, bind_eq_ok, ensure_eq_ok, exists_unit,
      orFail_eq_ok, pure_eq_ok, Except.ok.injEq]
    exact ⟨⟨rfl, rfl, rfl, rfl⟩, quote, (congrArg _ hsame).trans hnew.valid, rfl, rfl⟩
  have hevidence : mapCashuStellarMeltQuotedEvidenceRecord row (quotedOutcomeRow attempt quote)
      [quoteObservationRow attempt quote] = .ok ⟨attempt, [quote], quote.observedAt⟩ := by
    simp only [mapCashuStellarMeltQuotedEvidenceRecord, bind_eq_ok, ensure_eq_ok, exists_unit,
      orFail_eq_ok, pure_eq_ok, Except.ok.injEq]
    refine ⟨attempt, hrecord, ⟨rfl, rfl, rfl, rfl, rfl, rfl⟩, quote.expiry, rfl, quote.feeReserve, rfl,
      [quote], ?_, quote, rfl, ⟨rfl, hnew.unpaid, ?_, hnew.unexpired, ?_, rfl⟩, List.IsChain.singleton _,
      rfl⟩
    · simp only [List.mapM_cons, List.mapM_nil, hquote, ok_bind, pure_eq_ok]
    · rw [hstores.startedAt]
      exact hnew.started
    · rw [hstores.startedAt]
      exact hexpiry
  simp only [mapAttempt, bind_eq_ok]
  refine ⟨attempt, hbase, ?_⟩
  rw [houtcome, hobservations]
  simp only [bind_eq_ok, ensure_eq_ok, exists_unit]
  refine ⟨⟨rfl, rfl, rfl⟩, ?_⟩
  simp only [quotedOutcomeRow, bind_eq_ok, mapError_eq_ok, orFail_eq_ok, pure_eq_ok, Except.ok.injEq]
  exact ⟨_, hevidence, quote, rfl, rfl⟩

/-- A new quote is recorded exactly when it expires in time from the start of its attempt. -/
theorem recordQuote_of_new (hreach : Reachable db) (hrow : row ∈ db.cashuStellarMeltQuoteAttempts)
    (hnew : NewQuote db row quote) :
    (∃ result, recordQuote db ⟨row.attemptId, row.paymentId, quote⟩ = .ok result) ↔
      quote.expiry ≤ row.startedAt + maxCashuStellarMeltQuoteTtlSeconds := by
  obtain ⟨attempt, hbase, hstores⟩ := base_of_reachable hreach hrow
  have hheld := attemptsHeld_of_reachable hreach
  have hlock := lockReservation_of_held hheld hrow
  constructor
  · intro h
    obtain ⟨result, h⟩ := h
    simp only [recordQuote, bind_eq_ok, orFail_eq_ok, exists_unit] at h
    obtain ⟨created, hcreated, -, locked, hlocked, stored, hstored, hinitial, -⟩ := h
    obtain rfl : row = locked := Except.ok.inj ((lockAttempt_of_mem hrow).symm.trans hlocked)
    obtain rfl : attempt = stored := Except.ok.inj (hbase.symm.trans hstored)
    obtain rfl : quote = created := Option.some.inj (hnew.valid.symm.trans hcreated)
    simp only [assertInitialQuote, bind_eq_ok, ensure_eq_ok, exists_unit] at hinitial
    rw [← hstores.startedAt]
    exact hinitial.2.2.2.2
  · intro hexpiry
    obtain ⟨outcomes, houtcomes, hinsertOutcome⟩ :=
      insertQuoteOutcome_of_new hreach hrow hstores hnew hexpiry
    obtain ⟨observations, hobservations, hinsertObservation⟩ :=
      insertQuoteObservation_of_new hreach hrow hstores hnew [.quoteObservation attempt.attemptId]
        houtcomes
    have houtcome : outcomes.find (fun outcome => outcome.attemptId = attempt.attemptId) =
        some (quotedOutcomeRow attempt quote) :=
      Table.find_of_mem (houtcomes.mem.mpr (.inr List.mem_cons_self)) rfl fun _ hsame => .inl hsame
    have hobserved : orderBy (·.observedAt)
        (observations.select fun observation => observation.attemptId = attempt.attemptId) =
          [quoteObservationRow attempt quote] := by
      have hnone : db.cashuStellarMeltQuoteObservations.select
          (fun observation => observation.attemptId = attempt.attemptId) = [] := by
        rw [List.eq_nil_iff_forall_not_mem]
        intro observation hmem
        obtain ⟨hstored, hsame⟩ := Table.mem_select.mp hmem
        exact no_observation hreach hnew observation hstored (hsame.trans hstores.attemptId)
      rw [hobservations.select, hnone]
      simp [quoteObservationRow, orderBy]
    have hmapped : mapAttempt (db.withQuote outcomes observations) row =
        .ok (.quoted attempt quote [quote]) :=
      mapAttempt_of_new hbase hstores hnew hexpiry houtcome hobserved
    have hterms : assertInitialQuote attempt quote = .ok () := by
      simp only [assertInitialQuote, assertMatchingTerms, bind_eq_ok, ensure_eq_ok, exists_unit]
      rw [hstores.mintUrl, hstores.amount, hstores.request, hstores.startedAt]
      exact ⟨⟨hnew.mintUrl, hnew.amount, hnew.request⟩, hnew.unpaid, hnew.started, hnew.unexpired,
        hexpiry⟩
    have hwritable : assertOutcomeWritable db attempt.paymentId = .ok () := by
      rw [hstores.paymentId]
      exact ensure_of ⟨hheld.inCustody row hrow hnew.noEvent, hnew.noEffect, hnew.noEvent⟩
    have hnone : db.outcomeOf attempt.attemptId = none := by
      rw [hstores.attemptId]
      exact hnew.noOutcome
    have hinitial : (db.withQuote outcomes observations).Satisfies
        (.quoteObservation attempt.attemptId) := by
      intro outcome hmem
      obtain rfl := Option.some.inj (houtcome.symm.trans hmem)
      constructor
      · intro hkind
        cases hkind
      · intro _
        refine ⟨quoteObservationRow attempt quote, ?_, rfl, hnew.unpaid⟩
        exact congrArg List.head? hobserved
    refine ⟨(⟨.quoted attempt quote [quote], false⟩, db.withQuote outcomes observations), ?_⟩
    simp only [recordQuote, bind_eq_ok, orFail_eq_ok, exists_unit]
    refine ⟨quote, hnew.valid, hlock, row, lockAttempt_of_mem hrow, attempt, hbase, hterms, ?_⟩
    rw [hnone]
    simp only [bind_eq_ok, exists_unit, quoteStatement_eq_ok, pure_eq_ok, Except.ok.injEq,
      Session.commit_eq_ok]
    refine ⟨hwritable, _, hinsertOutcome, _, hinsertObservation, _, hmapped, _, ⟨?_, rfl⟩, rfl⟩
    intro check hmem
    have hcheck : check = .quoteObservation attempt.attemptId := by simpa using hmem
    rw [hcheck]
    exact hinitial

end Recording

/-! ### Quotes that the client has created -/

theorem sep7PaymentRequest_eq {request other : Sep7PaymentRequest} (huri : request.uri = other.uri)
    (hdestination : request.destination = other.destination) : request = other := by
  cases request
  cases other
  cases huri
  cases hdestination
  rfl

/-- The mint has answered with an expiry within the time to live from a start. -/
def AnswersWithin (response : Except CashuStellarMeltQuoteClientError JsonValue)
    (start : UnixTimestamp) : Prop :=
  ∃ value expiry, response = .ok value ∧ value.expiry = some expiry ∧
    expiry ≤ start + maxCashuStellarMeltQuoteTtlSeconds

/-- A quote that the client has created for an attempt, since its start and while nothing has come of it
on a payment before its dispatch, is recorded by the repository exactly when the expiry that the mint has
answered with is within the time to live from the start of the attempt; and exactly then the trigger and
the constraints of the outcomes take it. -/
theorem recordQuote_of_created {db : Db} (hreach : Reachable db) {row : MeltQuoteAttemptRow}
    (hrow : row ∈ db.cashuStellarMeltQuoteAttempts)
    (hactive : db.effectsOf row.paymentId = [] ∧ db.eventsOf row.paymentId = [] ∧
      db.outcomeOf row.attemptId = none)
    {parseUrl : String → Option UrlRecord}
    (hrequest : searchParameter parseUrl row.request.uri "destination" =
      some row.request.destination.val)
    {clock : Nat × Nat} (hclock : row.startedAt ≤ clock.1)
    {response : Except CashuStellarMeltQuoteClientError JsonValue} {quote : CashuStellarMeltQuote}
    (hcreated : createQuote parseUrl row.mintUrl ⟨row.amount, row.request.uri⟩ clock response =
      .ok quote)
    (hfree : ∀ outcome ∈ db.cashuStellarMeltQuoteOutcomes, outcome.paymentId ≠ row.paymentId →
      outcome.mintUrl = row.mintUrl → outcome.quoteId ≠ some quote.quoteId) :
    ((∃ result, recordQuote db ⟨row.attemptId, row.paymentId, quote⟩ = .ok result) ↔
      AnswersWithin response row.startedAt) ∧
    ∃ attempt, mapAttemptBase row = .ok attempt ∧
      ((∃ s, insertQuoteOutcome ⟨db, []⟩ (quotedOutcomeRow attempt quote) = .ok s) ↔
        AnswersWithin response row.startedAt) := by
  obtain ⟨⟨hmint, hamount, huri, hdestination, hunpaid⟩, ⟨hstarted, hopen⟩, hvalid, value, rfl,
    hexpiry⟩ := createQuote_eq_ok hcreated
  have hsame : quote.request = row.request := by
    rw [hrequest, Option.getD_some] at hdestination
    exact sep7PaymentRequest_eq huri (Subtype.ext hdestination)
  have hnew : NewQuote db row quote := {
    valid := hvalid
    mintUrl := hmint
    amount := hamount
    request := hsame
    unpaid := hunpaid
    started := Nat.le_trans hclock hstarted
    unexpired := hopen
    noEffect := hactive.1
    noEvent := hactive.2.1
    noOutcome := hactive.2.2
    free := hfree }
  have hwithin : AnswersWithin (.ok value) row.startedAt ↔
      quote.expiry ≤ row.startedAt + maxCashuStellarMeltQuoteTtlSeconds := by
    constructor
    · intro h
      obtain ⟨other, expiry, hother, hfound, hle⟩ := h
      rw [← Except.ok.inj hother, hexpiry] at hfound
      rw [Option.some.inj hfound]
      exact hle
    · intro hle
      exact ⟨value, quote.expiry, rfl, hexpiry, hle⟩
  rw [hwithin]
  refine ⟨recordQuote_of_new hreach hrow hnew, ?_⟩
  obtain ⟨attempt, hbase, hstores⟩ := base_of_reachable hreach hrow
  exact ⟨attempt, hbase, insertQuoteOutcome_iff_expiry hreach hrow hstores hnew⟩

/-! ### A quote that is asked for a second after its attempt has begun -/

namespace QuoteSample

def requestText : List Char :=
  "web+stellar:pay?destination=".toList ++ Sample.destination.val.toList ++ "&amount=1.00".toList ++
    "&asset_code=USDC&asset_issuer=".toList ++ cashuStellarTestnetUsdcIssuer.toList ++
    "&network_passphrase=Test+SDF+Network+%3B+September+2015".toList

theorem request_eq : Sample.request = ⟨.ofList requestText, Sample.destination⟩ := by
  decide +kernel

def parseUrl (text : String) : Option UrlRecord :=
  if text.toList = requestText then
    some {
      scheme := "web+stellar"
      username := ""
      password := ""
      host := none
      path := "pay"
      queryPairs := [("destination", Sample.destination.val), ("amount", "1.00"), ("asset_code", "USDC"),
        ("asset_issuer", cashuStellarTestnetUsdcIssuer),
        ("network_passphrase", cashuStellarTestnetNetworkPassphrase)]
      fragment := none }
  else none

/-- The rows after the operations of the intake up to the beginning of the attempt at 1004. -/
def begun : Db :=
  (Sample.intake.take 5).foldl Operation.perform Db.empty

theorem reachable_begun : Reachable begun :=
  run_foldl _ _

/-- The answer of the mint with an expiry. -/
def answer (expiry : Nat) : JsonValue :=
  .object [("quote", .string Sample.quoteId.val), ("amount", .natural 100), ("unit", .string "usdc"),
    ("method", .string "stellar"), ("request", .string Sample.request.uri), ("fee_reserve", .natural 0),
    ("state", .string "UNPAID"), ("expiry", .natural expiry)]

def quote (expiry : Nat) : CashuStellarMeltQuote where
  amount := 100
  expiry
  feeReserve := 0
  mintUrl := Sample.mintUrl
  observedAt := 1006
  quoteId := Sample.quoteId
  request := Sample.request
  state := .unpaid

theorem begun_active : ∃ row ∈ begun.cashuStellarMeltQuoteAttempts,
    row.attemptId = Sample.attemptId ∧ row.paymentId = Sample.paymentId ∧
      row.mintUrl = Sample.mintUrl ∧ row.amount = 100 ∧ row.request = Sample.request ∧ row.startedAt = 1004 := by
  decide +kernel

theorem created_inTime : createQuote parseUrl Sample.mintUrl ⟨100, Sample.request.uri⟩ (1005, 1006)
    (.ok (answer 1904)) = .ok (quote 1904) := by
  simp only [createQuote, parseCashuStellarMeltQuoteResponse, createCashuStellarMeltQuoteV1,
    createCashuStellarMeltQuoteRequestV1, validateSep7PaymentRequest, utf16Length,
    containsRawControlOrWhitespace, searchParameter, parseUrl, request_eq, answer, quote,
    String.toList_ofList]
  decide +kernel

theorem created_late : createQuote parseUrl Sample.mintUrl ⟨100, Sample.request.uri⟩ (1005, 1006)
    (.ok (answer 1905)) = .ok (quote 1905) := by
  simp only [createQuote, parseCashuStellarMeltQuoteResponse, createCashuStellarMeltQuoteV1,
    createCashuStellarMeltQuoteRequestV1, validateSep7PaymentRequest, utf16Length,
    containsRawControlOrWhitespace, searchParameter, parseUrl, request_eq, answer, quote,
    String.toList_ofList]
  decide +kernel

theorem request_destination : searchParameter parseUrl Sample.request.uri "destination" = some Sample.destination.val := by
  simp only [searchParameter, parseUrl, request_eq, String.toList_ofList]
  decide +kernel

theorem begun_before : begun.effectsOf Sample.paymentId = [] ∧ begun.eventsOf Sample.paymentId = [] ∧
    begun.outcomeOf Sample.attemptId = none := by
  decide +kernel

theorem begun_outcomes : begun.cashuStellarMeltQuoteOutcomes = ∅ := by
  decide +kernel

end QuoteSample

theorem recordQuote_of_created_inTime :
    ∃ result, recordQuote QuoteSample.begun
      ⟨Sample.attemptId, Sample.paymentId, QuoteSample.quote 1904⟩ = .ok result := by
  obtain ⟨row, hrow, hattempt, hpayment, hmint, hamount, hrequest, hstarted⟩ := QuoteSample.begun_active
  have hactive : QuoteSample.begun.effectsOf row.paymentId = [] ∧
      QuoteSample.begun.eventsOf row.paymentId = [] ∧
      QuoteSample.begun.outcomeOf row.attemptId = none := by
    rw [hattempt, hpayment]
    exact QuoteSample.begun_before
  have hread : searchParameter QuoteSample.parseUrl row.request.uri "destination" =
      some row.request.destination.val := by
    rw [hrequest]
    exact QuoteSample.request_destination
  have hcreated : createQuote QuoteSample.parseUrl row.mintUrl ⟨row.amount, row.request.uri⟩ (1005, 1006)
      (.ok (QuoteSample.answer 1904)) = .ok (QuoteSample.quote 1904) := by
    rw [hmint, hamount, hrequest]
    exact QuoteSample.created_inTime
  have hfree : ∀ outcome ∈ QuoteSample.begun.cashuStellarMeltQuoteOutcomes,
      outcome.paymentId ≠ row.paymentId → outcome.mintUrl = row.mintUrl →
      outcome.quoteId ≠ some (QuoteSample.quote 1904).quoteId := by
    rw [QuoteSample.begun_outcomes]
    exact fun _ hmem => absurd hmem Table.not_mem_empty
  rw [← hattempt, ← hpayment]
  apply (recordQuote_of_created QuoteSample.reachable_begun hrow hactive hread
    (by rw [hstarted]; decide) hcreated hfree).1.mpr
  exact ⟨QuoteSample.answer 1904, 1904, rfl, rfl, by rw [hstarted]; decide⟩

/-- A mint that answers with an expiry 900 seconds after the request gives a quote that the client
creates and that neither the repository nor the trigger takes. -/
theorem recordQuote_refuses_created :
    Reachable QuoteSample.begun ∧
    createQuote QuoteSample.parseUrl Sample.mintUrl ⟨100, Sample.request.uri⟩ (1005, 1006)
      (.ok (QuoteSample.answer 1905)) = .ok (QuoteSample.quote 1905) ∧
    ∃ row ∈ QuoteSample.begun.cashuStellarMeltQuoteAttempts, row.attemptId = Sample.attemptId ∧
      row.paymentId = Sample.paymentId ∧ row.mintUrl = Sample.mintUrl ∧ row.amount = 100 ∧
      row.request = Sample.request ∧ row.startedAt = 1004 ∧
      QuoteSample.begun.effectsOf row.paymentId = [] ∧ QuoteSample.begun.eventsOf row.paymentId = [] ∧
      QuoteSample.begun.cashuStellarMeltQuoteOutcomes = ∅ ∧
      (∀ result, recordQuote QuoteSample.begun
        ⟨row.attemptId, row.paymentId, QuoteSample.quote 1905⟩ ≠ .ok result) ∧
      ∀ attempt, mapAttemptBase row = .ok attempt → ∀ s,
        insertQuoteOutcome ⟨QuoteSample.begun, []⟩ (quotedOutcomeRow attempt (QuoteSample.quote 1905)) ≠
          .ok s := by
  refine ⟨QuoteSample.reachable_begun, QuoteSample.created_late, ?_⟩
  obtain ⟨row, hrow, hattempt, hpayment, hmint, hamount, hrequest, hstarted⟩ := QuoteSample.begun_active
  obtain ⟨heffects, hevents, houtcome⟩ := QuoteSample.begun_before
  rw [← hpayment] at heffects hevents
  rw [← hattempt] at houtcome
  have hnew : NewQuote QuoteSample.begun row (QuoteSample.quote 1905) := {
    valid := (createQuote_eq_ok QuoteSample.created_late).2.2.1
    mintUrl := hmint.symm
    amount := hamount.symm
    request := hrequest.symm
    unpaid := rfl
    started := by rw [hstarted]; decide
    unexpired := by decide
    noEffect := heffects
    noEvent := hevents
    noOutcome := houtcome
    free := by
      rw [QuoteSample.begun_outcomes]
      exact fun _ hmem => absurd hmem Table.not_mem_empty }
  have hlate : ¬ (QuoteSample.quote 1905).expiry ≤ row.startedAt + maxCashuStellarMeltQuoteTtlSeconds := by
    rw [hstarted]
    decide
  refine ⟨row, hrow, hattempt, hpayment, hmint, hamount, hrequest, hstarted, heffects, hevents,
    QuoteSample.begun_outcomes, ?_, ?_⟩
  · intro result hrecorded
    exact hlate ((recordQuote_of_new QuoteSample.reachable_begun hrow hnew).mp ⟨result, hrecorded⟩)
  · intro attempt hbase s hinsert
    obtain ⟨stored, hstored, hstores⟩ := base_of_reachable QuoteSample.reachable_begun hrow
    obtain rfl : attempt = stored := Except.ok.inj (hbase.symm.trans hstored)
    have hinserted := (insertQuoteOutcome_iff_expiry QuoteSample.reachable_begun hrow hstores hnew).mp
      ⟨s, hinsert⟩
    exact hlate hinserted

end CashMesh.Acquirer
