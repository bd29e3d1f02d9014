import CashMesh.StellarSettlement.Calls
/-!
# One payout per quote, and what a final state means

Two results over every run of the system, with calls interleaved and lost in any way. Whatever the
rail answers, a quote is submitted with one transaction only, and the journal held that transaction
and its dispatch mark before the first submission left. When the rail keeps its word, a failed quote
is one whose transaction never lands for it and a paid one is one whose transaction landed.
-/

namespace CashMesh.StellarSettlement

open CashMesh.Lib World

variable {QuoteId : Type} {rail : Rail} {processor : Processor QuoteId} {c c' : System QuoteId}

/-! ### A run

An honest rail prepares one transaction for two quotes. Of two calls for the first quote one stores the
transaction and is lost, and the other, whose own preparation fails, records a failure before any
dispatch. A call for the second quote then submits the transaction and learns that it landed. -/

theorem nonblank_firstQuote : isBlank "quote-one" = false := by
  decide

theorem nonblank_secondQuote : isBlank "quote-two" = false := by
  decide

def firstQuote : QuoteReference := ⟨"quote-one", nonblank_firstQuote⟩

def secondQuote : QuoteReference := ⟨"quote-two", nonblank_secondQuote⟩

theorem firstQuote_ne_secondQuote : firstQuote ≠ secondQuote := by
  decide

def sampleHash : TransactionHash :=
  ⟨"1111111111111111111111111111111111111111111111111111111111111111",
    ⟨by decide, by decide, by decide⟩⟩

def samplePayout : PreparedPayout := { transactionHash := sampleHash, signedEnvelope := "envelope" }

def samplePayment : Sep7Payment :=
  { destination := ⟨"GATTMQEODSDX45WZK2JFIYETXWYCU5GRJ5I3Z7P2UDYD6YFVONDM4CX4"⟩
    amount := ⟨500, by decide⟩
    assetCode := "USDC"
    assetIssuer := ⟨"GBBD47IF6LWK7P7MDEVSCWR7DPUWV3NY3DTQEVFL4NAT4AQH3ZLLFLA5"⟩
    networkPassphrase := "Test SDF Network ; September 2015"
    memo := none
    memoType := none }

def sampleProcessor : Processor String :=
  { quoteIdText := id, parseQuoteId := some, parsePaymentRequest := fun _ => .ok samplePayment }

def sampleRail : Rail := { honest := True }

def sampleRequest (quoteId : String) : Request String :=
  .makePayment .usdc (.custom { method := "stellar", quoteId, request := "", amount := none })

def sampleRecord (quoteId : QuoteReference) (state : SettlementState)
    (prepared : Option PreparedTransaction) : MeltQuoteRecord :=
  { quoteId
    payment := samplePayment
    settlement :=
      { id := ⟨quoteId.value, quoteId.nonblank⟩, state, preparedTransaction := prepared } }

def samplePrepared (started : Bool) : Option PreparedTransaction :=
  some { transactionHash := sampleHash, signedEnvelope := "envelope", dispatchStarted := started }

def sampleStore (first second : MeltQuoteRecord) : PersistentState :=
  { PersistentState.default with
    meltQuotes := (Finmap.insert firstQuote first ∅).insert secondQuote second }

private theorem lookup_first (first second : MeltQuoteRecord) :
    (sampleStore first second).meltQuotes.lookup firstQuote = some first := by
  rw [sampleStore, Finmap.lookup_insert_of_ne _ firstQuote_ne_secondQuote, Finmap.lookup_insert]

private theorem lookup_second (first second : MeltQuoteRecord) :
    (sampleStore first second).meltQuotes.lookup secondQuote = some second :=
  Finmap.lookup_insert _

private theorem update_first {first second : MeltQuoteRecord} {settlement : Settlement}
    {operation : Settlement → Except SettlementError Settlement}
    (h : operation first.settlement = .ok settlement) :
    (sampleStore first second).updateSettlement firstQuote operation =
      .ok (sampleStore { first with settlement } second) := by
  have hinsert : (sampleStore first second).meltQuotes.insert firstQuote { first with settlement } =
      (sampleStore { first with settlement } second).meltQuotes := by
    rw [sampleStore, sampleStore, Finmap.insert_insert_of_ne _ firstQuote_ne_secondQuote.symm,
      Finmap.insert_insert]
  simp only [PersistentState.updateSettlement, lookup_first, orFail, ok_bind, h, Except.mapError,
    hinsert]
  rfl

private theorem update_second {first second : MeltQuoteRecord} {settlement : Settlement}
    {operation : Settlement → Except SettlementError Settlement}
    (h : operation second.settlement = .ok settlement) :
    (sampleStore first second).updateSettlement secondQuote operation =
      .ok (sampleStore first { second with settlement }) := by
  have hinsert : (sampleStore first second).meltQuotes.insert secondQuote { second with settlement } =
      (sampleStore first { second with settlement }).meltQuotes := by
    rw [sampleStore, sampleStore, Finmap.insert_insert]
  simp only [PersistentState.updateSettlement, lookup_second, orFail, ok_bind, h, Except.mapError,
    hinsert]
  rfl

def sampleWorld (first second : MeltQuoteRecord) (submissions : List Submission)
    (landed : List TransactionHash) : World :=
  { store := sampleStore first second, submissions, landed, dead := [] }

abbrev SampleRun : System String → System String → Prop :=
  Relation.ReflTransGen (Step sampleRail sampleProcessor)

abbrev SampleCall := Call (Request String × MakePaymentResponse String)

section Run

variable {first second : MeltQuoteRecord} {submissions : List Submission}
  {landed : List TransactionHash} {others : List SampleCall}

private theorem sample_performs {effect : Effect} {w w' : World} {answer : Answer effect}
    {next : Answer effect → SampleCall} (h : performs sampleRail effect w answer w') :
    SampleRun ⟨w, .ask effect next :: others⟩ ⟨w', next answer :: others⟩ :=
  .single (@Pool.Step.effect _ _ _ _ _ _ _ _ w w' [] others effect next answer h)

private theorem sample_starts {w : World} (quoteId : String) :
    SampleRun ⟨w, others⟩ ⟨w, (sampleRequest quoteId).call sampleProcessor :: others⟩ :=
  .single (.start ⟨sampleRequest quoteId, rfl⟩)

private theorem reads_first {next : Except StoreError (Option MeltQuoteRecord) → SampleCall} :
    SampleRun ⟨sampleWorld first second submissions landed, .ask (.meltQuote firstQuote) next :: others⟩
      ⟨sampleWorld first second submissions landed, next (.ok (some first)) :: others⟩ :=
  sample_performs ⟨.inl (congrArg Except.ok (lookup_first first second).symm), rfl⟩

private theorem reads_second {next : Except StoreError (Option MeltQuoteRecord) → SampleCall} :
    SampleRun ⟨sampleWorld first second submissions landed, .ask (.meltQuote secondQuote) next :: others⟩
      ⟨sampleWorld first second submissions landed, next (.ok (some second)) :: others⟩ :=
  sample_performs ⟨.inl (congrArg Except.ok (lookup_second first second).symm), rfl⟩

private theorem updates_first (settlement : Settlement)
    {operation : Settlement → Except SettlementError Settlement}
    {next : Except StoreError Unit → SampleCall} (h : operation first.settlement = .ok settlement) :
    SampleRun
      ⟨sampleWorld first second submissions landed,
        .ask (.updateSettlement firstQuote operation) next :: others⟩
      ⟨sampleWorld { first with settlement } second submissions landed, next (.ok ()) :: others⟩ :=
  sample_performs (.inl ⟨_, update_first h, rfl, rfl⟩)

private theorem updates_second (settlement : Settlement)
    {operation : Settlement → Except SettlementError Settlement}
    {next : Except StoreError Unit → SampleCall} (h : operation second.settlement = .ok settlement) :
    SampleRun
      ⟨sampleWorld first second submissions landed,
        .ask (.updateSettlement secondQuote operation) next :: others⟩
      ⟨sampleWorld first { second with settlement } submissions landed, next (.ok ()) :: others⟩ :=
  sample_performs (.inl ⟨_, update_second h, rfl, rfl⟩)

private theorem sample_prepares {w : World} {intent : PayoutIntent}
    (answer : Except ExternalError PreparedPayout)
    {next : Except ExternalError PreparedPayout → SampleCall} :
    SampleRun ⟨w, .ask (.prepare intent) next :: others⟩ ⟨w, next answer :: others⟩ :=
  sample_performs rfl

private theorem sample_observes {w : World} {hash : TransactionHash}
    {next : Except ExternalError PayoutObservation → SampleCall} :
    SampleRun ⟨w, .ask (.observe hash) next :: others⟩ ⟨w, next (.ok .notFound) :: others⟩ :=
  sample_performs ⟨fun _ => trivial, rfl⟩

/-- The payout is submitted, lands, and only then the answer arrives. -/
private theorem sample_submits {next : Unit → SampleCall}
    {next' : Except ExternalError SubmitResult → SampleCall}
    (hnext : next () = .ask (.submitted samplePayout) next') :
    SampleRun ⟨sampleWorld first second [] [], .ask (.submit secondQuote samplePayout) next :: others⟩
      ⟨sampleWorld first second [⟨secondQuote, samplePayout⟩] [sampleHash],
        next' (.ok .confirmed) :: others⟩ := by
  refine .trans (@sample_performs _ _ _ _ () _ rfl) ?_
  rw [hnext]
  refine .trans (.single (.world (@Moves.lands _ ⟨secondQuote, samplePayout⟩ ?_ ?_))) ?_
  · exact List.mem_cons_self
  · exact List.not_mem_nil
  · exact sample_performs ⟨fun _ => List.mem_cons_self, rfl⟩

end Run

def sampleBothQuoted : System String :=
  ⟨sampleWorld (sampleRecord firstQuote .unpaid none) (sampleRecord secondQuote .unpaid none) [] [], []⟩

theorem reachable_sampleBothQuoted : Reachable sampleRail sampleProcessor sampleBothQuoted := by
  refine .tail (.single (.world (@Moves.quoted _ firstQuote samplePayment
    (sampleRecord firstQuote .unpaid none) _ rfl rfl))) ?_
  exact .world (@Moves.quoted _ secondQuote samplePayment
    (sampleRecord secondQuote .unpaid none) _ rfl rfl)

def sampleResponse (quoteId : String) (proof : Option String) (status : MeltQuoteState)
    (totalSpent : UInt64) : Request String × MakePaymentResponse String :=
  (sampleRequest quoteId,
    { paymentLookupId := .quoteId quoteId
      paymentProof := proof
      status
      totalSpent := ⟨totalSpent, .usdc⟩ })

/-- The first quote has failed with the transaction that it prepared and never dispatched. -/
def sampleFailed : System String :=
  ⟨sampleWorld (sampleRecord firstQuote (.failed "payout preparation failed") (samplePrepared false))
      (sampleRecord secondQuote .unpaid none) [] [],
    [.done (sampleResponse "quote-one" none .failed 0)]⟩

theorem run_sampleFailed : SampleRun sampleBothQuoted sampleFailed := by
  -- the call that will fail waits for its preparation
  refine .trans (sample_starts "quote-one") ?_
  refine .trans reads_first ?_
  refine .trans reads_first ?_
  refine .trans (updates_first (sampleRecord firstQuote .proofsReserved none).settlement rfl) ?_
  refine .trans reads_first ?_
  -- the other one stores what it has prepared, and is lost
  refine .trans (sample_starts "quote-one") ?_
  refine .trans reads_first ?_
  refine .trans reads_first ?_
  refine .trans (sample_prepares (.ok samplePayout)) ?_
  refine .trans (updates_first
    (sampleRecord firstQuote .proofsReserved (samplePrepared false)).settlement rfl) ?_
  refine .trans (.single (.lose (.cons _ (List.Sublist.refl _)))) ?_
  -- the preparation of the first one fails
  refine .trans (sample_prepares (.error ⟨"rail"⟩)) ?_
  refine .trans (updates_first (sampleRecord firstQuote (.failed "payout preparation failed")
    (samplePrepared false)).settlement rfl) ?_
  exact reads_first

/-- The second quote is paid with the same transaction. -/
def samplePaid : System String :=
  ⟨sampleWorld (sampleRecord firstQuote (.failed "payout preparation failed") (samplePrepared false))
      (sampleRecord secondQuote (.paid sampleHash) (samplePrepared true))
      [⟨secondQuote, samplePayout⟩] [sampleHash],
    [.done (sampleResponse "quote-two" (some sampleHash.value) .paid 500),
      .done (sampleResponse "quote-one" none .failed 0)]⟩

theorem run_samplePaid : SampleRun sampleFailed samplePaid := by
  refine .trans (sample_starts "quote-two") ?_
  refine .trans reads_second ?_
  refine .trans reads_second ?_
  refine .trans (updates_second (sampleRecord secondQuote .proofsReserved none).settlement rfl) ?_
  refine .trans reads_second ?_
  refine .trans (sample_prepares (.ok samplePayout)) ?_
  refine .trans (updates_second
    (sampleRecord secondQuote .proofsReserved (samplePrepared false)).settlement rfl) ?_
  refine .trans reads_second ?_
  refine .trans sample_observes ?_
  refine .trans (updates_second
    (sampleRecord secondQuote .proofsReserved (samplePrepared true)).settlement rfl) ?_
  refine .trans (sample_submits rfl) ?_
  refine .trans (updates_second
    (sampleRecord secondQuote (.paid sampleHash) (samplePrepared true)).settlement rfl) ?_
  exact reads_second

theorem reachable_samplePaid : Reachable sampleRail sampleProcessor samplePaid :=
  (reachable_sampleBothQuoted.trans run_sampleFailed).trans run_samplePaid

/-! ### One payout per quote -/

theorem holds_unique {w : World} {quoteId : QuoteReference} {payout payout' : PreparedPayout}
    (h : w.Holds quoteId payout) (h' : w.Holds quoteId payout') : payout = payout' := by
  obtain ⟨record, prepared, hrecord, hprepared, hhash, henvelope⟩ := h
  obtain ⟨record', prepared', hrecord', hprepared', hhash', henvelope'⟩ := h'
  obtain rfl := Option.some.inj (hrecord.symm.trans hrecord')
  obtain rfl := Option.some.inj (hprepared.symm.trans hprepared')
  cases payout
  cases payout'
  simp_all

theorem submissions_of_performs {effect : Effect} {w w' : World} {answer : Answer effect}
    (h : performs rail effect w answer w') :
    w'.submissions = w.submissions ∨
      ∃ submission, w'.submissions = submission :: w.submissions ∧ w'.store = w.store := by
  cases effect with
  | meltQuote quoteId =>
      obtain ⟨-, rfl⟩ := h
      exact .inl rfl
  | updateSettlement quoteId operation =>
      rcases h with ⟨store, -, -, rfl⟩ | ⟨error, -, -, rfl⟩
      · exact .inl rfl
      · exact .inl rfl
  | prepare intent =>
      obtain ⟨-, rfl⟩ := h
      exact .inl rfl
  | observe hash =>
      obtain ⟨-, rfl⟩ := h
      exact .inl rfl
  | submit quoteId payout =>
      obtain rfl : w' = _ := h
      exact .inr ⟨⟨quoteId, payout⟩, rfl, rfl⟩
  | submitted payout =>
      obtain ⟨-, rfl⟩ := h
      exact .inl rfl

theorem submissions_of_step (hstep : Step rail processor c c') :
    c'.shared.submissions = c.shared.submissions ∨
      ∃ submission, c'.shared.submissions = submission :: c.shared.submissions ∧
        c'.shared.store = c.shared.store := by
  cases hstep with
  | start _ => exact .inl rfl
  | effect hperform => exact submissions_of_performs hperform
  | world hmove =>
      cases hmove with
      | quoted _ _ => exact .inl rfl
      | deposited _ => exact .inl rfl
      | lands _ _ => exact .inl rfl
      | dies _ => exact .inl rfl
  | lose _ => exact .inl rfl

/-- What the journal says of dispatch depends on the journal alone. -/
theorem dispatched_congr {w w' : World} (hstore : w'.store = w.store) {quoteId : QuoteReference}
    {payout : PreparedPayout} (h : w'.Dispatched quoteId payout) : w.Dispatched quoteId payout := by
  simpa only [World.Dispatched, hstore] using h

/-- A submission leaves only after the journal holds its payout and the dispatch mark. -/
theorem dispatched_before_submission (hsound : SoundSystem rail processor c)
    (hstep : Step rail processor c c') :
    c'.shared.submissions = c.shared.submissions ∨
      ∃ submission, c'.shared.submissions = submission :: c.shared.submissions ∧
        c.shared.Dispatched submission.quoteId submission.payout := by
  rcases submissions_of_step hstep with hsame | ⟨submission, hsubmission, hstore⟩
  · exact .inl hsame
  · have hsound' := (sound_of_run hsound (.single hstep)).1
    have hdispatched := hsound'.inv.dispatched submission (by simp [hsubmission])
    exact .inr ⟨submission, hsubmission, dispatched_congr hstore hdispatched⟩

/-- Every submission of a quote, in every run with any answers of the rail, carries one and the same
payout. The journal held it with the dispatch mark before the first of them left, and never holds
another. -/
theorem one_payout_per_quote (hreach : Reachable rail processor c)
    (hrun : Relation.ReflTransGen (Step rail processor) c c') :
    (∀ submission ∈ c'.shared.submissions, ∀ submission' ∈ c'.shared.submissions,
        submission.quoteId = submission'.quoteId → submission.payout = submission'.payout) ∧
      (∀ submission ∈ c'.shared.submissions,
        c'.shared.Dispatched submission.quoteId submission.payout) ∧
      (∀ c'', Step rail processor c' c'' →
        c''.shared.submissions = c'.shared.submissions ∨
          ∃ submission, c''.shared.submissions = submission :: c'.shared.submissions ∧
            c'.shared.Dispatched submission.quoteId submission.payout) ∧
      (∀ quoteId payout payout', c.shared.Holds quoteId payout →
        c'.shared.Holds quoteId payout' → payout' = payout) := by
  have hsound : SoundSystem rail processor c := sound_of_reachable hreach
  obtain ⟨hsound', hgrow⟩ := sound_of_run hsound hrun
  refine ⟨?_, hsound'.inv.dispatched, fun c'' => dispatched_before_submission hsound', ?_⟩
  · intro submission hmem submission' hmem' hquote
    have hholds := (hsound'.inv.dispatched submission hmem).holds
    have hholds' := (hsound'.inv.dispatched submission' hmem').holds
    exact holds_unique hholds (hquote ▸ hholds')
  · exact fun quoteId payout payout' hholds hholds' =>
      holds_unique hholds' (hholds.grows hgrow)

/-- In the sample run the journal held the submitted payout, marked as dispatched. -/
theorem one_payout_per_quote_samplePaid : samplePaid.shared.Dispatched secondQuote samplePayout :=
  (one_payout_per_quote (reachable_sampleBothQuoted.trans run_sampleFailed) run_samplePaid).2.1
    ⟨secondQuote, samplePayout⟩ List.mem_cons_self

/-! ### What a final state means -/

/-- The transaction never lands for the quote. Where it lands in a continuation of the run, the quote
has never dispatched it, and another quote holds and has dispatched a payout with the same hash. -/
def NeverLandsFor (rail : Rail) (processor : Processor QuoteId) (c : System QuoteId)
    (quoteId : QuoteReference) (prepared : PreparedTransaction) : Prop :=
  ∀ c', Relation.ReflTransGen (Step rail processor) c c' →
    prepared.transactionHash ∈ c'.shared.landed →
      prepared.dispatchStarted = false ∧ ∃ other payout, other ≠ quoteId ∧
        payout.transactionHash = prepared.transactionHash ∧ c'.shared.Dispatched other payout

/-- Final records stay as they are. -/
theorem final_of_run (hsound : SoundSystem rail processor c)
    (hrun : Relation.ReflTransGen (Step rail processor) c c') {quoteId : QuoteReference}
    {record : MeltQuoteRecord} (hrecord : c.shared.store.meltQuote quoteId = some record)
    (hfinal : (∃ hash, record.settlement.state = .paid hash) ∨
      ∃ reason, record.settlement.state = .failed reason) :
    ∃ record', c'.shared.store.meltQuote quoteId = some record' ∧
      record'.settlement = record.settlement := by
  obtain ⟨record', hrecord', hadvances⟩ := (sound_of_run hsound hrun).2.records quoteId record hrecord
  refine ⟨record', hrecord', ?_⟩
  rcases hfinal with ⟨hash, hstate⟩ | ⟨reason, hstate⟩
  · exact hadvances.paid hash hstate
  · exact hadvances.failed reason hstate

/-- A failed record whose transaction has landed never dispatched it: the transaction would have been
known to be dead when the record failed. So another quote has submitted it. -/
theorem elsewhere_of_failed {w : World} (hinv : w.Inv rail) (hhonest : rail.honest)
    {quoteId : QuoteReference} {record : MeltQuoteRecord} {reason : String}
    {prepared : PreparedTransaction} (hrecord : w.store.meltQuote quoteId = some record)
    (hstate : record.settlement.state = .failed reason)
    (hprepared : record.settlement.preparedTransaction = some prepared)
    (hlanded : prepared.transactionHash ∈ w.landed) :
    prepared.dispatchStarted = false ∧ ∃ other payout, other ≠ quoteId ∧
      payout.transactionHash = prepared.transactionHash ∧ w.Dispatched other payout := by
  have hundispatched : prepared.dispatchStarted = false := by
    by_contra hstarted
    have hdead := (hinv.justified _ _ hrecord).failed reason prepared hstate hprepared
      (Bool.not_eq_false _ ▸ hstarted) hhonest
    exact hinv.apart _ hdead hlanded
  obtain ⟨submission, hsubmission, hhash⟩ := hinv.landed _ hlanded
  have hdispatched := hinv.dispatched submission hsubmission
  refine ⟨hundispatched, submission.quoteId, submission.payout, ?_, hhash, hdispatched⟩
  intro hquote
  obtain ⟨record', prepared', hrecord', hprepared', -, -, hstarted⟩ := hdispatched
  rw [hquote, hrecord] at hrecord'
  obtain rfl := Option.some.inj hrecord'
  obtain rfl := Option.some.inj (hprepared.symm.trans hprepared')
  rw [hundispatched] at hstarted
  cases hstarted

theorem neverLandsFor_of_failed (hsound : SoundSystem rail processor c) (hhonest : rail.honest)
    {quoteId : QuoteReference} {record : MeltQuoteRecord} {reason : String}
    {prepared : PreparedTransaction} (hrecord : c.shared.store.meltQuote quoteId = some record)
    (hstate : record.settlement.state = .failed reason)
    (hprepared : record.settlement.preparedTransaction = some prepared) :
    NeverLandsFor rail processor c quoteId prepared := by
  intro c' hrun
  obtain ⟨record', hrecord', hsame⟩ := final_of_run hsound hrun hrecord (.inr ⟨reason, hstate⟩)
  exact elsewhere_of_failed (sound_of_run hsound hrun).1.inv hhonest hrecord'
    (hsame ▸ hstate) (hsame ▸ hprepared)

theorem landed_of_paid {w : World} (hinv : w.Inv rail) (hhonest : rail.honest)
    {quoteId : QuoteReference} {record : MeltQuoteRecord} {hash : TransactionHash}
    (hrecord : w.store.meltQuote quoteId = some record)
    (hstate : record.settlement.state = .paid hash) :
    hash ∈ w.landed ∧ record.settlement.preparedHash = some hash :=
  ⟨(hinv.justified _ _ hrecord).paid hash hstate hhonest,
    ((hinv.wellFormed _ _ hrecord).paid hash hstate).1⟩

/-- With an honest rail, a failed quote is one whose prepared transaction never lands for it and a
paid quote is one whose prepared transaction landed, the record of every later state says what was
dispatched, final records are never left, and a response with a final status is as sound. -/
theorem outcomes_sound (hhonest : rail.honest) (hreach : Reachable rail processor c) :
    (∀ quoteId record, c.shared.store.meltQuote quoteId = some record →
      (∀ reason prepared, record.settlement.state = .failed reason →
        record.settlement.preparedTransaction = some prepared →
          NeverLandsFor rail processor c quoteId prepared) ∧
      (∀ hash, record.settlement.state = .paid hash → hash ∈ c.shared.landed) ∧
      (∀ hash, record.settlement.state = .submitted hash ∨ record.settlement.state = .paid hash →
        record.settlement.preparedHash = some hash ∧ record.settlement.dispatchStarted = true) ∧
      (∀ reason, record.settlement.state = .needsAttention reason →
        record.settlement.dispatchStarted = true) ∧
      (∀ c', Relation.ReflTransGen (Step rail processor) c c' →
        ((∃ hash, record.settlement.state = .paid hash) ∨
          ∃ reason, record.settlement.state = .failed reason) →
        ∃ record', c'.shared.store.meltQuote quoteId = some record' ∧
          record'.settlement = record.settlement)) ∧
    (∀ request response, .done (request, response) ∈ c.running →
      ∃ quoteId record, request.quoteReference processor = .ok quoteId ∧
        c.shared.store.meltQuote quoteId = some record ∧
        (response.status = .paid → ∃ hash, record.settlement.preparedHash = some hash ∧
          hash ∈ c.shared.landed ∧ response.paymentProof = some hash.value) ∧
        (response.status = .failed → ∀ prepared,
          record.settlement.preparedTransaction = some prepared →
            NeverLandsFor rail processor c quoteId prepared)) := by
  have hsound : SoundSystem rail processor c := sound_of_reachable hreach
  refine ⟨fun quoteId record hrecord => ⟨?_, ?_, ?_, ?_, ?_⟩, ?_⟩
  · exact fun reason prepared hstate hprepared =>
      neverLandsFor_of_failed hsound hhonest hrecord hstate hprepared
  · exact fun hash hstate => (landed_of_paid hsound.inv hhonest hrecord hstate).1
  · rintro hash (hstate | hstate)
    · exact (hsound.inv.wellFormed _ _ hrecord).submitted hash hstate
    · exact (hsound.inv.wellFormed _ _ hrecord).paid hash hstate
  · exact (hsound.inv.wellFormed _ _ hrecord).needsAttention
  · exact fun c' hrun hfinal => final_of_run hsound hrun hrecord hfinal
  · intro request response hdone
    obtain ⟨quoteId, hquoteId, -, record, hrecord, hpaid, hfailed⟩ := hsound.safe _ hdone
    refine ⟨quoteId, record, hquoteId, hrecord, fun hstatus => ?_, fun hstatus prepared hprepared => ?_⟩
    · obtain ⟨hash, hstate, hproof⟩ := hpaid hstatus
      obtain ⟨hlanded, hprepared⟩ := landed_of_paid hsound.inv hhonest hrecord hstate
      exact ⟨hash, hprepared, hlanded, hproof⟩
    · obtain ⟨reason, hstate⟩ := hfailed hstatus
      exact neverLandsFor_of_failed hsound hhonest hrecord hstate hprepared

/-- In the sample run the second quote is paid and its transaction landed. -/
theorem outcomes_sound_samplePaid : sampleHash ∈ samplePaid.shared.landed :=
  ((@outcomes_sound _ sampleRail _ _ trivial reachable_samplePaid).1 secondQuote
    (sampleRecord secondQuote (.paid sampleHash) (samplePrepared true))
    (Finmap.lookup_insert _)).2.1 sampleHash rfl

/-- A rail that prepares one transaction for two quotes lets it land for the one, after the other has
failed with it. -/
theorem failed_quote_landed :
    Reachable sampleRail sampleProcessor samplePaid ∧ sampleRail.honest ∧
      ∃ record prepared, samplePaid.shared.store.meltQuote firstQuote = some record ∧
        record.settlement.state = .failed "payout preparation failed" ∧
        record.settlement.preparedTransaction = some prepared ∧
        prepared.transactionHash ∈ samplePaid.shared.landed :=
  ⟨reachable_samplePaid, trivial, _, _, lookup_first _ _, rfl, rfl, List.mem_cons_self⟩

end CashMesh.StellarSettlement
