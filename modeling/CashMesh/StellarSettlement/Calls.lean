import CashMesh.StellarSettlement.System
/-!
# Every call keeps the discipline

What each await point of a call establishes and what the call may still rely on afterwards. The only
local facts a call carries over an await are that the journal holds its prepared payout, that the
dispatch mark is set, and what the rail has answered; all three outlive anything others do.
-/

namespace CashMesh.StellarSettlement

open CashMesh.Lib World

variable {rail : Rail} {α : Type} {w : World} {quoteId : QuoteReference}

/-- A call that keeps the discipline from `w` on and returns only results that satisfy `Q`. -/
abbrev SafeCall (rail : Rail) (Q : α → World → Prop) (call : Call α) (w : World) : Prop :=
  Safe (performs rail) (discipline rail) Q (fun _ _ => True) call w

theorem safeCall_ofExcept {Q : α → World → Prop} {result : Except CdkPaymentError α}
    (h : ∀ a, result = .ok a → Q a w) : SafeCall rail Q (.ofExcept result) w := by
  cases result with
  | ok a => exact h a rfl
  | error error => exact trivial

/-! ### Effects -/

theorem safe_requireMeltQuote {Q : MeltQuoteRecord → World → Prop}
    (h : ∀ record w₁, w₁.Inv rail → w.Grows w₁ → w₁.store.meltQuote quoteId = some record →
      Q record w₁) :
    SafeCall rail Q (requireMeltQuote quoteId) w := by
  intro w₁ hinv hgrow answer w₂ hperform
  obtain ⟨hanswer, rfl⟩ := hperform
  refine ⟨(discipline rail).keeps_self hinv, ?_⟩
  rcases hanswer with rfl | rfl
  · cases hrecord : w₂.store.meltQuote quoteId with
    | none => exact trivial
    | some record => exact h record w₂ hinv hgrow hrecord
  · exact trivial

theorem safe_observe {transactionHash : TransactionHash} {Q : PayoutObservation → World → Prop}
    (h : ∀ observation w₁, w.Grows w₁ → (rail.honest → w₁.ObservationHolds (.ok observation)) →
      Q observation w₁) :
    SafeCall rail Q (observe transactionHash) w := by
  intro w₁ hinv hgrow answer w₂ hperform
  obtain ⟨hanswer, rfl⟩ := hperform
  refine ⟨(discipline rail).keeps_self hinv, ?_⟩
  exact safeCall_ofExcept fun observation hok => by
    rw [mapError_eq_ok] at hok
    exact h observation w₂ hgrow (hok ▸ hanswer)

/-- An update is safe when the transition turns every record it may find into one it can become. -/
theorem safe_updateSettlement {operation : Settlement → Except SettlementError Settlement}
    {Q : Unit → World → Prop}
    (hkept : ∀ w₁ record settlement, w₁.Inv rail → w.Grows w₁ →
      w₁.store.meltQuote quoteId = some record → operation record.settlement = .ok settlement →
      record.settlement.Kept (w₁.knowledge rail) settlement)
    (hdone : ∀ (w₂ : World) (record : MeltQuoteRecord) (settlement : Settlement),
      w₂.store.meltQuote quoteId = some { record with settlement } →
      operation record.settlement = .ok settlement → w.Grows w₂ → Q () w₂) :
    SafeCall rail Q (updateSettlement quoteId operation) w := by
  intro w₁ hinv hgrow answer w₂ hperform
  rcases hperform with ⟨store, hupdate, rfl, rfl⟩ | ⟨error, -, rfl, rfl⟩
  · obtain ⟨record, settlement, hrecord, hoperation, hstore⟩ :=
      PersistentState.updateSettlement_ok hupdate
    have hkeeps := keeps_record hinv hrecord
      (hkept w₁ record settlement hinv hgrow hrecord hoperation) hstore
    refine ⟨hkeeps, hdone _ record settlement ?_ hoperation (hgrow.trans hkeeps.2)⟩
    rw [PersistentState.meltQuote, hstore, Finmap.lookup_insert]
  · exact ⟨(discipline rail).keeps_self hinv, trivial⟩

theorem safe_update {operation : Settlement → Except SettlementError Settlement}
    (hkept : ∀ w₁ s s', s.WellFormed → s.Justified (w₁.knowledge rail) → w.Grows w₁ →
      (∃ record, w₁.store.meltQuote quoteId = some record ∧ record.settlement = s) →
      operation s = .ok s' → s.Kept (w₁.knowledge rail) s') :
    SafeCall rail (fun _ _ => True) (updateSettlement quoteId operation) w :=
  safe_updateSettlement
    (fun w₁ record settlement hinv hgrow hrecord hoperation =>
      hkept w₁ record.settlement settlement (hinv.wellFormed quoteId record hrecord)
        (hinv.justified quoteId record hrecord) hgrow ⟨record, hrecord, rfl⟩ hoperation)
    (fun _ _ _ _ _ _ => trivial)

/-! ### The updates of an observation -/

section Kept

variable {K : Settlement.Knowledge} {s s' : Settlement} {hash : TransactionHash}

theorem kept_startIfReserved (hwell : s.WellFormed) (hjust : s.Justified K)
    (h : startIfReserved s = .ok s') : s.Kept K s' := by
  unfold startIfReserved at h
  split at h
  · exact .recordDispatchStarted h
  · obtain rfl := Except.ok.inj h
    exact .refl hwell hjust

theorem kept_recordPending (hwell : s.WellFormed) (hjust : s.Justified K)
    (h : recordPending hash s = .ok s') : s.Kept K s' := by
  obtain ⟨s₁, hfirst, hsecond⟩ := bind_eq_ok.mp h
  have hkept₁ : s.Kept K s₁ := kept_startIfReserved hwell hjust hfirst
  exact hkept₁.trans (.recordSubmission hkept₁.wellFormed hkept₁.justified hsecond)

theorem kept_submitIfOpen (hwell : s.WellFormed) (hjust : s.Justified K)
    (h : submitIfOpen hash s = .ok s') : s.Kept K s' := by
  unfold submitIfOpen at h
  split at h
  · obtain ⟨s₁, hdispatch, hsubmission⟩ := bind_eq_ok.mp h
    have hkept₁ : s.Kept K s₁ := .recordDispatchStarted hdispatch
    exact hkept₁.trans (.recordSubmission hkept₁.wellFormed hkept₁.justified hsubmission)
  · exact .recordSubmission hwell hjust h
  · obtain rfl := Except.ok.inj h
    exact .refl hwell hjust

theorem kept_recordConfirmed (hwell : s.WellFormed) (hjust : s.Justified K)
    (hlanded : K.landed hash) (h : recordConfirmed hash s = .ok s') : s.Kept K s' := by
  obtain ⟨s₁, hfirst, hsecond⟩ := bind_eq_ok.mp h
  have hkept₁ : s.Kept K s₁ := kept_submitIfOpen hwell hjust hfirst
  exact hkept₁.trans (.confirmPaid hkept₁.wellFormed hkept₁.justified hlanded hsecond)

theorem kept_recordSubmittedAndConfirmed (hwell : s.WellFormed) (hjust : s.Justified K)
    (hlanded : K.landed hash) (h : recordSubmittedAndConfirmed hash s = .ok s') :
    s.Kept K s' := by
  obtain ⟨s₁, hfirst, hsecond⟩ := bind_eq_ok.mp h
  have hkept₁ : s.Kept K s₁ := .recordSubmission hwell hjust hfirst
  exact hkept₁.trans (.confirmPaid hkept₁.wellFormed hkept₁.justified hlanded hsecond)

end Kept

theorem safe_applyObservation {observation : PayoutObservation}
    (hholds : rail.honest → w.ObservationHolds (.ok observation)) :
    SafeCall rail (fun _ _ => True) (applyObservation quoteId observation) w := by
  cases observation with
  | notFound => exact trivial
  | pending hash =>
      exact safe_update fun _ _ _ hwell hjust _ _ h => kept_recordPending hwell hjust h
  | confirmed hash =>
      refine safe_update fun w₁ _ _ hwell hjust hgrow _ h => ?_
      exact kept_recordConfirmed hwell hjust (fun hhonest => hgrow.landed (hholds hhonest)) h
  | provablyFailed hash reason =>
      refine safe_update fun w₁ _ _ hwell hjust hgrow _ h => ?_
      exact .recordObservedFailure hwell hjust (fun hhonest => hgrow.dead (hholds hhonest)) h

theorem safe_reconcileSettlement :
    SafeCall rail (fun _ _ => True) (reconcileSettlement quoteId) w := by
  refine safe_bind (safe_requireMeltQuote fun record w₁ _ _ _ => ?_)
  cases record.settlement.preparedTransaction with
  | none => exact trivial
  | some prepared =>
      exact safe_bind (safe_observe fun observation w₂ _ hholds => safe_applyObservation hholds)

/-! ### Preparing and dispatching -/

theorem safe_prepareSettlement {record : MeltQuoteRecord} :
    SafeCall rail (fun _ _ => True) (prepareSettlement quoteId record) w := by
  unfold prepareSettlement
  cases record.settlement.preparedTransaction with
  | some prepared => exact trivial
  | none =>
      intro w₁ hinv hgrow answer w₂ hperform
      obtain rfl : w₂ = w₁ := hperform
      refine ⟨(discipline rail).keeps_self hinv, ?_⟩
      cases answer with
      | ok prepared =>
          exact safe_update fun _ _ _ hwell hjust _ _ h =>
            .recordPreparedTransaction hwell hjust h
      | error error => exact safe_update fun _ _ _ _ _ _ _ h => .recordProvableFailure h

theorem preparedPayout_ok {settlement : Settlement} {payout : PreparedPayout}
    (h : preparedPayout settlement = .ok payout) :
    ∃ prepared, settlement.preparedTransaction = some prepared ∧
      prepared.transactionHash = payout.transactionHash ∧
      prepared.signedEnvelope = payout.signedEnvelope := by
  simp only [preparedPayout, bind_eq_ok, orFail_eq_ok, mapError_eq_ok, PreparedPayout.new,
    ensure_eq_ok, exists_unit, TransactionHash.new_value, Except.ok.injEq, exists_eq_left'] at h
  obtain ⟨prepared, hprepared, -, rfl⟩ := h
  exact ⟨prepared, hprepared, rfl, rfl⟩

theorem safe_recordSubmitResult {payout : PreparedPayout}
    {answer : Except ExternalError SubmitResult} (hholds : w.Holds quoteId payout)
    (hanswer : rail.honest → w.SubmitResultHolds payout answer) :
    SafeCall rail (fun _ _ => True) (recordSubmitResult quoteId payout answer) w := by
  cases answer with
  | error error =>
      refine safe_bind (safe_mono (fun _ _ _ => trivial) (fun _ _ h => h)
        (safe_update fun _ _ _ hwell hjust _ _ h => ?_))
      exact .requireAttention hwell hjust h
  | ok result =>
      cases result with
      | accepted =>
          exact safe_update fun _ _ _ hwell hjust _ _ h => .recordSubmission hwell hjust h
      | confirmed =>
          refine safe_update fun _ _ _ hwell hjust hgrow _ h => ?_
          exact kept_recordSubmittedAndConfirmed hwell hjust
            (fun hhonest => hgrow.landed (hanswer hhonest)) h
      | provablyRejected reason =>
          refine safe_update fun w₁ s _ _ _ hgrow hrecord h => ?_
          refine .recordDispatchRejected (fun prepared hprepared hhonest => ?_) h
          obtain ⟨record, hrecord, rfl⟩ := hrecord
          obtain ⟨record', prepared', hrecord', hprepared', hhash, -⟩ := hholds.grows hgrow
          rw [hrecord] at hrecord'
          obtain rfl := Option.some.inj hrecord'
          rw [hprepared] at hprepared'
          obtain rfl := Option.some.inj hprepared'
          exact hhash ▸ hgrow.dead (hanswer hhonest)
      | ambiguous reason =>
          exact safe_update fun _ _ _ hwell hjust _ _ h => .requireAttention hwell hjust h

theorem dispatched_of_recordDispatchStarted {payout : PreparedPayout} {record : MeltQuoteRecord}
    {settlement : Settlement} (hholds : w.Holds quoteId payout)
    (hrecord : w.store.meltQuote quoteId = some { record with settlement })
    (h : record.settlement.recordDispatchStarted = .ok settlement) :
    w.Dispatched quoteId payout := by
  obtain ⟨-, prepared, -, rfl⟩ := Settlement.recordDispatchStarted_ok h
  obtain ⟨record', prepared', hrecord', hprepared', hhash, henvelope⟩ := hholds
  obtain rfl := Option.some.inj (hrecord.symm.trans hrecord')
  obtain rfl := Option.some.inj hprepared'
  exact ⟨_, _, hrecord, rfl, hhash, henvelope, rfl⟩

theorem safe_dispatchPrepared {payout : PreparedPayout} (hholds : w.Holds quoteId payout) :
    SafeCall rail (fun _ _ => True) (dispatchPrepared quoteId payout) w := by
  refine safe_bind (safe_updateSettlement (fun _ _ _ _ _ _ h => .recordDispatchStarted h) ?_)
  intro w₁ record settlement hrecord hstarted hgrow
  have hdispatched : w₁.Dispatched quoteId payout :=
    dispatched_of_recordDispatchStarted (hholds.grows hgrow) hrecord hstarted
  -- the request leaves: the journal already holds the payout and the dispatch mark
  intro w₂ hinv₂ hgrow₂ _ w₃ hsubmit
  obtain rfl : w₃ = _ := hsubmit
  have hgrow₃ : w₂.Grows { w₂ with submissions := ⟨quoteId, payout⟩ :: w₂.submissions } :=
    ⟨(Grows.refl w₂).records, List.subset_cons_self _ _, List.Subset.refl _, List.Subset.refl _⟩
  have hdispatched₂ : w₂.Dispatched quoteId payout := hdispatched.grows hgrow₂
  refine ⟨⟨⟨hinv₂.named, hinv₂.wellFormed, hinv₂.justified, ?_, ?_, hinv₂.apart⟩, hgrow₃⟩, ?_⟩
  · intro submission hsubmission
    rcases List.mem_cons.mp hsubmission with rfl | hsubmission
    · exact hdispatched₂.grows hgrow₃
    · exact (hinv₂.dispatched submission hsubmission).grows hgrow₃
  · intro hash hhash
    obtain ⟨submission, hsubmission, hsame⟩ := hinv₂.landed hash hhash
    exact ⟨submission, List.mem_cons_of_mem _ hsubmission, hsame⟩
  -- and its answer arrives
  intro w₄ hinv₄ hgrow₄ answer w₅ hanswer
  obtain ⟨hanswer, rfl⟩ := hanswer
  exact ⟨(discipline rail).keeps_self hinv₄, safe_recordSubmitResult
    (hdispatched₂.holds.grows (hgrow₃.trans hgrow₄)) hanswer⟩

/-! ### Responses -/

variable {QuoteId : Type} {processor : Processor QuoteId}

/-- A response speaks of the quote, and a final status is the final state of its record. -/
def ResponseHolds (processor : Processor QuoteId) (quoteId : QuoteReference)
    (response : MakePaymentResponse QuoteId) (w : World) : Prop :=
  (∃ id, cdkQuoteId processor quoteId = .ok id ∧ response.paymentLookupId = .quoteId id) ∧
    ∃ record, w.store.meltQuote quoteId = some record ∧
      (response.status = .paid → ∃ hash, record.settlement.state = .paid hash ∧
        response.paymentProof = some hash.value) ∧
      (response.status = .failed → ∃ reason, record.settlement.state = .failed reason)

theorem ResponseHolds.grows {response : MakePaymentResponse QuoteId} {w' : World}
    (h : ResponseHolds processor quoteId response w) (hgrow : w.Grows w') :
    ResponseHolds processor quoteId response w' := by
  obtain ⟨hname, record, hrecord, hpaid, hfailed⟩ := h
  obtain ⟨record', hrecord', hadvances⟩ := hgrow.records quoteId record hrecord
  refine ⟨hname, record', hrecord', fun hstatus => ?_, fun hstatus => ?_⟩
  · obtain ⟨hash, hstate, hproof⟩ := hpaid hstatus
    exact ⟨hash, by rw [hadvances.paid hash hstate, hstate], hproof⟩
  · obtain ⟨reason, hstate⟩ := hfailed hstatus
    exact ⟨reason, by rw [hadvances.failed reason hstate, hstate]⟩

theorem responseHolds_makeResponse {record : MeltQuoteRecord}
    {response : MakePaymentResponse QuoteId} (hinv : w.Inv rail)
    (hrecord : w.store.meltQuote quoteId = some record)
    (h : makeResponse processor record = .ok response) :
    ResponseHolds processor quoteId response w := by
  simp only [makeResponse, bind_eq_ok, Except.ok.injEq] at h
  obtain ⟨id, hid, rfl⟩ := h
  rw [hinv.named quoteId record hrecord] at hid
  refine ⟨⟨id, hid, rfl⟩, record, hrecord, fun hstatus => ?_, fun hstatus => ?_⟩
  · cases hstate : record.settlement.state with
    | paid hash => exact ⟨hash, rfl, by simp⟩
    | unpaid => simp [hstate, cdkMeltState] at hstatus
    | proofsReserved => simp [hstate, cdkMeltState] at hstatus
    | submitted hash => simp [hstate, cdkMeltState] at hstatus
    | failed reason => simp [hstate, cdkMeltState] at hstatus
    | needsAttention reason => simp [hstate, cdkMeltState] at hstatus
  · cases hstate : record.settlement.state with
    | failed reason => exact ⟨reason, rfl⟩
    | unpaid => simp [hstate, cdkMeltState] at hstatus
    | proofsReserved => simp [hstate, cdkMeltState] at hstatus
    | submitted hash => simp [hstate, cdkMeltState] at hstatus
    | paid hash => simp [hstate, cdkMeltState] at hstatus
    | needsAttention reason => simp [hstate, cdkMeltState] at hstatus

theorem safe_respond :
    SafeCall rail (ResponseHolds processor quoteId) (respond processor quoteId) w :=
  safe_bind (safe_requireMeltQuote fun _ _ hinv _ hrecord =>
    safeCall_ofExcept fun _ => responseHolds_makeResponse hinv hrecord)

/-! ### The calls -/

theorem safe_driveReserved {record : MeltQuoteRecord} :
    SafeCall rail (ResponseHolds processor quoteId) (driveReserved processor quoteId record) w := by
  refine safe_bind (safe_mono (fun _ w₁ _ => ?_) (fun _ _ h => h) safe_prepareSettlement)
  refine safe_bind (safe_requireMeltQuote fun record w₂ hinv _ hrecord => ?_)
  cases record.settlement.state with
  | failed reason => exact safeCall_ofExcept fun _ => responseHolds_makeResponse hinv hrecord
  | _ =>
      refine safe_bind (safeCall_ofExcept fun payout hpayout => ?_)
      have hholds : w₂.Holds quoteId payout := by
        obtain ⟨prepared, hprepared, hhash, henvelope⟩ := preparedPayout_ok hpayout
        exact ⟨record, prepared, hrecord, hprepared, hhash, henvelope⟩
      refine safe_bind (safe_observe fun observation w₃ hgrow hobservation => ?_)
      cases observation with
      | notFound =>
          exact safe_bind (safe_mono (fun _ _ _ => safe_respond) (fun _ _ h => h)
            (safe_dispatchPrepared (hholds.grows hgrow)))
      | _ =>
          exact safe_bind (safe_mono (fun _ _ _ => safe_respond) (fun _ _ h => h)
            (safe_applyObservation hobservation))

theorem safe_reserveUnpaid {record : MeltQuoteRecord} (hinv : w.Inv rail)
    (hrecord : w.store.meltQuote quoteId = some record) :
    SafeCall rail (fun record' w₁ => w₁.Inv rail ∧ w₁.store.meltQuote quoteId = some record')
      (reserveUnpaid quoteId record) w := by
  unfold reserveUnpaid
  split
  · refine safe_bind (safe_mono (fun _ w₁ _ => ?_) (fun _ _ h => h)
      (safe_update fun _ _ _ hwell hjust _ _ h => .reserveProofs hwell hjust h))
    exact safe_requireMeltQuote fun record' w₂ hinv₂ _ hrecord' => ⟨hinv₂, hrecord'⟩
  · exact ⟨hinv, hrecord⟩

theorem safe_driveSettlement :
    SafeCall rail (ResponseHolds processor quoteId) (driveSettlement processor quoteId) w := by
  refine safe_bind (safe_requireMeltQuote fun record w₁ hinv _ hrecord => ?_)
  refine safe_bind (safe_mono ?_ (fun _ _ h => h) (safe_reserveUnpaid hinv hrecord))
  rintro record₂ w₂ ⟨hinv₂, hrecord₂⟩
  have reconciled : SafeCall rail (ResponseHolds processor quoteId)
      (do reconcileSettlement quoteId; respond processor quoteId) w₂ :=
    safe_bind (safe_mono (fun _ _ _ => safe_respond) (fun _ _ h => h) safe_reconcileSettlement)
  cases record₂.settlement.state with
  | paid hash => exact safeCall_ofExcept fun _ => responseHolds_makeResponse hinv₂ hrecord₂
  | failed reason => exact safeCall_ofExcept fun _ => responseHolds_makeResponse hinv₂ hrecord₂
  | submitted hash => exact reconciled
  | needsAttention reason => exact reconciled
  | unpaid => exact safe_driveReserved
  | proofsReserved => exact safe_driveReserved

/-- What a labelled response says, for the quote of its request. -/
def Answered (processor : Processor QuoteId)
    (answer : Request QuoteId × MakePaymentResponse QuoteId) (w : World) : Prop :=
  ∃ quoteId, answer.1.quoteReference processor = .ok quoteId ∧
    ResponseHolds processor quoteId answer.2 w

theorem safe_call (request : Request QuoteId) :
    SafeCall rail (Answered processor) (request.call processor) w := by
  cases request with
  | makePayment unit options =>
      refine safe_bind ?_
      refine safe_bind (safeCall_ofExcept fun _ _ => ?_)
      cases options with
      | other => exact trivial
      | custom options =>
          refine safe_bind (safeCall_ofExcept fun _ _ => ?_)
          refine safe_bind (safeCall_ofExcept fun quoteId hquoteId => ?_)
          refine safe_bind (safeCall_ofExcept fun requested _ => ?_)
          refine safe_bind (safe_requireMeltQuote fun stored _ _ _ _ => ?_)
          refine safe_bind (safeCall_ofExcept fun _ _ => ?_)
          refine safe_bind (safeCall_ofExcept fun _ _ => ?_)
          exact safe_mono (fun _ _ h => ⟨quoteId, hquoteId, h⟩) (fun _ _ h => h)
            safe_driveSettlement
  | checkOutgoingPayment identifier =>
      refine safe_bind ?_
      refine safe_bind (safeCall_ofExcept fun quoteId hquoteId => ?_)
      refine safe_bind (safe_requireMeltQuote fun quote _ _ _ _ => ?_)
      split
      · refine safe_bind (safe_mono (fun _ _ _ => ?_) (fun _ _ h => h) safe_reconcileSettlement)
        exact safe_mono (fun _ _ h => ⟨quoteId, hquoteId, h⟩) (fun _ _ h => h) safe_respond
      · exact safe_mono (fun _ _ h => ⟨quoteId, hquoteId, h⟩) (fun _ _ h => h) safe_respond

/-! ### The system -/

variable {c c' : System QuoteId}

/-- What holds of every reachable system: the invariant of its world, and every call in flight is
safe. -/
abbrev SoundSystem (rail : Rail) (processor : Processor QuoteId) (c : System QuoteId) : Prop :=
  Pool.Sound (performs rail) (discipline rail) (Answered processor) (fun _ _ => True) c

theorem stable_answered : (discipline rail).Stable (Answered processor) := by
  rintro answer w₁ w₂ ⟨quoteId, hquoteId, hholds⟩ hgrow
  exact ⟨quoteId, hquoteId, hholds.grows hgrow⟩

/-- Along any run the system stays sound and its world moves forward. -/
theorem sound_of_run (hsound : SoundSystem rail processor c)
    (hrun : Relation.ReflTransGen (Step rail processor) c c') :
    SoundSystem rail processor c' ∧ c.shared.Grows c'.shared := by
  refine Pool.sound_of_run stable_answered (fun _ _ _ h _ => h) ?_ ?_ hsound hrun
  · rintro call w ⟨request, rfl⟩ _
    exact safe_call request
  · exact fun w w' hinv hmove => Moves.keeps hinv hmove

theorem sound_of_reachable (hreach : Reachable rail processor c) : SoundSystem rail processor c := by
  have hinit : SoundSystem rail processor ⟨initial, []⟩ := ⟨inv_initial, by simp⟩
  exact (sound_of_run hinit hreach).1

end CashMesh.StellarSettlement
