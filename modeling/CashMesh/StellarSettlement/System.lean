import CashMesh.StellarSettlement.Processor
/-!
# The settlement system

Any number of calls of the mint run over one durable store and one payout rail. The world holds the
journal and, beside it, what the network knows: the submissions that left the processor, the
transactions that have landed and those that can never land.

A transaction lands only after it was submitted, and none that can never land does. Whether the
rail's answers are to be believed is a parameter, so that one development covers a rail that answers
anything and a rail that keeps its word.
-/

namespace CashMesh.StellarSettlement

open CashMesh.Lib

/-- A payout that left the processor on behalf of a quote. -/
structure Submission where
  quoteId : QuoteReference
  payout : PreparedPayout
  deriving DecidableEq

structure World where
  store : PersistentState
  submissions : List Submission
  landed : List TransactionHash
  dead : List TransactionHash

/-- What is assumed of the rail: whether it keeps its word. -/
structure Rail where
  honest : Prop

namespace World

/-- A processor with an empty journal, before any submission. -/
def initial : World :=
  { store := .default, submissions := [], landed := [], dead := [] }

/-- An honest observation: confirmed only once landed, failed only when it can never land. -/
def ObservationHolds (w : World) : Except ExternalError PayoutObservation → Prop
  | .ok (.confirmed transactionHash) => transactionHash ∈ w.landed
  | .ok (.provablyFailed transactionHash _) => transactionHash ∈ w.dead
  | _ => True

/-- An honest answer to a submission, in the same sense. -/
def SubmitResultHolds (w : World) (payout : PreparedPayout) :
    Except ExternalError SubmitResult → Prop
  | .ok .confirmed => payout.transactionHash ∈ w.landed
  | .ok (.provablyRejected _) => payout.transactionHash ∈ w.dead
  | _ => True

/-- What the network and the other operations of the store do by themselves. -/
inductive Moves : World → World → Prop
  | quoted {w quoteId payment quote store} (hnew : MeltQuoteRecord.new quoteId payment = .ok quote)
      (hinsert : PersistentState.insertMeltQuote quote w.store = .ok store) :
      Moves w { w with store := store }
  | deposited {w : World} {store} (hsame : store.meltQuotes = w.store.meltQuotes) :
      Moves w { w with store := store }
  | lands {w : World} {submission} (hsubmitted : submission ∈ w.submissions)
      (halive : submission.payout.transactionHash ∉ w.dead) :
      Moves w { w with landed := submission.payout.transactionHash :: w.landed }
  | dies {w : World} {transactionHash} (hopen : transactionHash ∉ w.landed) :
      Moves w { w with dead := transactionHash :: w.dead }

end World

/-- The update did not reach the journal. -/
def StoreError.isUnsaved : StoreError → Bool
  | .io _ => true
  | .json _ => true
  | .poisoned => true
  | _ => false

/-- One effect of a call, its answer and the world after it. An update that fails leaves the world
as it was, whether the transition was refused or the journal could not be written. -/
def performs (rail : Rail) : (effect : Effect) → World → Answer effect → World → Prop
  | .meltQuote quoteId, w, answer, w' =>
      (answer = .ok (w.store.meltQuote quoteId) ∨ answer = .error .poisoned) ∧ w' = w
  | .updateSettlement quoteId operation, w, answer, w' =>
      (∃ store, w.store.updateSettlement quoteId operation = .ok store ∧ answer = .ok () ∧
          w' = { w with store := store }) ∨
        (∃ error, (w.store.updateSettlement quoteId operation = .error error ∨
            error.isUnsaved = true) ∧ answer = .error error ∧ w' = w)
  | .prepare _, w, _, w' => w' = w
  | .observe _, w, answer, w' => (rail.honest → w.ObservationHolds answer) ∧ w' = w
  | .submit quoteId payout, w, _, w' =>
      w' = { w with submissions := ⟨quoteId, payout⟩ :: w.submissions }
  | .submitted payout, w, answer, w' => (rail.honest → w.SubmitResultHolds payout answer) ∧ w' = w

/-! ### Requests and runs -/

inductive Request (QuoteId : Type) where
  | makePayment (unit : CurrencyUnit) (options : OutgoingPaymentOptions QuoteId)
  | checkOutgoingPayment (paymentIdentifier : PaymentIdentifier QuoteId)

variable {QuoteId : Type}

/-- The quote a request is about. -/
def Request.quoteReference (processor : Processor QuoteId) :
    Request QuoteId → Except CdkPaymentError QuoteReference
  | .makePayment _ (.custom options) => StellarSettlement.quoteReference processor options.quoteId
  | .makePayment _ .other => .error .unsupportedPaymentOption
  | .checkOutgoingPayment identifier => paymentQuoteReference processor identifier

/-- The call that answers a request, its response labelled with the request. -/
def Request.call (processor : Processor QuoteId) (request : Request QuoteId) :
    Call (Request QuoteId × MakePaymentResponse QuoteId) := do
  let response ← match request with
    | .makePayment unit options => StellarSettlement.makePayment processor unit options
    | .checkOutgoingPayment identifier => StellarSettlement.checkOutgoingPayment processor identifier
  pure (request, response)

/-- The processor with the calls in flight on it. -/
abbrev System (QuoteId : Type) :=
  Pool World (Call (Request QuoteId × MakePaymentResponse QuoteId))

/-- One step of the system, any request being allowed to arrive at any time. -/
abbrev Step (rail : Rail) (processor : Processor QuoteId) : System QuoteId → System QuoteId → Prop :=
  Pool.Step (performs rail) World.Moves fun call => ∃ request, call = Request.call processor request

/-- Runs of the system from an empty journal. -/
def Reachable (rail : Rail) (processor : Processor QuoteId) : System QuoteId → Prop :=
  Relation.ReflTransGen (Step rail processor) ⟨.initial, []⟩

/-! ### The discipline -/

namespace World

/-- The knowledge of the world about transactions, as far as the rail is honest. -/
def knowledge (rail : Rail) (w : World) : Settlement.Knowledge where
  landed transactionHash := rail.honest → transactionHash ∈ w.landed
  dead transactionHash := rail.honest → transactionHash ∈ w.dead

/-- The journal holds the payout as the prepared transaction of the quote. -/
def Holds (quoteId : QuoteReference) (payout : PreparedPayout) (w : World) : Prop :=
  ∃ record prepared, w.store.meltQuote quoteId = some record ∧
    record.settlement.preparedTransaction = some prepared ∧
    prepared.transactionHash = payout.transactionHash ∧
    prepared.signedEnvelope = payout.signedEnvelope

/-- The journal holds the payout and the mark that its dispatch began. -/
def Dispatched (quoteId : QuoteReference) (payout : PreparedPayout) (w : World) : Prop :=
  ∃ record prepared, w.store.meltQuote quoteId = some record ∧
    record.settlement.preparedTransaction = some prepared ∧
    prepared.transactionHash = payout.transactionHash ∧
    prepared.signedEnvelope = payout.signedEnvelope ∧ prepared.dispatchStarted = true

structure Inv (rail : Rail) (w : World) : Prop where
  named : ∀ quoteId record, w.store.meltQuote quoteId = some record → record.quoteId = quoteId
  wellFormed : ∀ quoteId record, w.store.meltQuote quoteId = some record →
    record.settlement.WellFormed
  justified : ∀ quoteId record, w.store.meltQuote quoteId = some record →
    record.settlement.Justified (w.knowledge rail)
  dispatched : ∀ submission ∈ w.submissions, w.Dispatched submission.quoteId submission.payout
  landed : ∀ transactionHash ∈ w.landed, ∃ submission ∈ w.submissions,
    submission.payout.transactionHash = transactionHash
  apart : ∀ transactionHash ∈ w.dead, transactionHash ∉ w.landed

structure Grows (w w' : World) : Prop where
  records : ∀ quoteId record, w.store.meltQuote quoteId = some record →
    ∃ record', w'.store.meltQuote quoteId = some record' ∧
      record.settlement.Advances record'.settlement
  submissions : w.submissions ⊆ w'.submissions
  landed : w.landed ⊆ w'.landed
  dead : w.dead ⊆ w'.dead

theorem Grows.refl (w : World) : w.Grows w :=
  ⟨fun _ record hrecord => ⟨record, hrecord, .refl _⟩, List.Subset.refl _, List.Subset.refl _,
    List.Subset.refl _⟩

theorem Grows.trans {w₁ w₂ w₃ : World} (h₁₂ : w₁.Grows w₂) (h₂₃ : w₂.Grows w₃) : w₁.Grows w₃ := by
  refine ⟨?_, List.Subset.trans h₁₂.submissions h₂₃.submissions,
    List.Subset.trans h₁₂.landed h₂₃.landed, List.Subset.trans h₁₂.dead h₂₃.dead⟩
  intro quoteId record hrecord
  obtain ⟨record₂, hrecord₂, hadvances₂⟩ := h₁₂.records quoteId record hrecord
  obtain ⟨record₃, hrecord₃, hadvances₃⟩ := h₂₃.records quoteId record₂ hrecord₂
  exact ⟨record₃, hrecord₃, hadvances₂.trans hadvances₃⟩

/-- The invariant of the world, and how every step moves it. -/
def discipline (rail : Rail) : Discipline World where
  inv := Inv rail
  grows := Grows
  refl := Grows.refl
  trans := Grows.trans

variable {rail : Rail} {w w' : World} {quoteId : QuoteReference} {payout : PreparedPayout}

theorem inv_initial : initial.Inv rail := by
  constructor <;> simp [initial, PersistentState.meltQuote, PersistentState.default]

theorem Holds.grows (h : w.Holds quoteId payout) (hgrow : w.Grows w') :
    w'.Holds quoteId payout := by
  obtain ⟨record, prepared, hrecord, hprepared, hhash, henvelope⟩ := h
  obtain ⟨record', hrecord', hadvances⟩ := hgrow.records quoteId record hrecord
  obtain ⟨prepared', hprepared', hhash', henvelope', -⟩ := hadvances.prepared prepared hprepared
  exact ⟨record', prepared', hrecord', hprepared', hhash'.trans hhash, henvelope'.trans henvelope⟩

theorem Dispatched.grows (h : w.Dispatched quoteId payout) (hgrow : w.Grows w') :
    w'.Dispatched quoteId payout := by
  obtain ⟨record, prepared, hrecord, hprepared, hhash, henvelope, hstarted⟩ := h
  obtain ⟨record', hrecord', hadvances⟩ := hgrow.records quoteId record hrecord
  obtain ⟨prepared', hprepared', hhash', henvelope', hstarted'⟩ :=
    hadvances.prepared prepared hprepared
  exact ⟨record', prepared', hrecord', hprepared', hhash'.trans hhash,
    henvelope'.trans henvelope, hstarted' hstarted⟩

theorem Dispatched.holds (h : w.Dispatched quoteId payout) : w.Holds quoteId payout := by
  obtain ⟨record, prepared, hrecord, hprepared, hhash, henvelope, -⟩ := h
  exact ⟨record, prepared, hrecord, hprepared, hhash, henvelope⟩

/-- A world that knows more, over the same records. -/
theorem justified_grows {s : Settlement} (h : s.Justified (w.knowledge rail))
    (hlanded : w.landed ⊆ w'.landed) (hdead : w.dead ⊆ w'.dead) :
    s.Justified (w'.knowledge rail) :=
  ⟨fun hash hpaid hhonest => hlanded (h.paid hash hpaid hhonest),
    fun reason prepared hfailed hprepared hstarted hhonest =>
      hdead (h.failed reason prepared hfailed hprepared hstarted hhonest)⟩

/-! ### What a change of the store keeps -/

theorem keeps_record (hinv : w.Inv rail) {record : MeltQuoteRecord} {settlement : Settlement}
    {store : PersistentState} (hrecord : w.store.meltQuote quoteId = some record)
    (hkept : record.settlement.Kept (w.knowledge rail) settlement)
    (hstore : store.meltQuotes = w.store.meltQuotes.insert quoteId { record with settlement }) :
    (discipline rail).Keeps w { w with store := store } := by
  have hself : store.meltQuote quoteId = some { record with settlement } := by
    rw [PersistentState.meltQuote, hstore, Finmap.lookup_insert]
  have hother : ∀ q, q ≠ quoteId → store.meltQuote q = w.store.meltQuote q := fun q hq => by
    rw [PersistentState.meltQuote, hstore, Finmap.lookup_insert_of_ne _ hq, PersistentState.meltQuote]
  have hgrow : w.Grows { w with store := store } := by
    refine ⟨?_, List.Subset.refl _, List.Subset.refl _, List.Subset.refl _⟩
    intro q existing hexisting
    by_cases hq : q = quoteId
    · subst hq
      rw [hrecord] at hexisting
      obtain rfl := Option.some.inj hexisting
      exact ⟨_, hself, hkept.advances⟩
    · exact ⟨existing, (hother q hq).trans hexisting, .refl _⟩
  refine ⟨⟨?_, ?_, ?_, ?_, hinv.landed, hinv.apart⟩, hgrow⟩
  · intro q existing hexisting
    by_cases hq : q = quoteId
    · subst hq
      obtain rfl := Option.some.inj (hself.symm.trans hexisting)
      exact hinv.named q record hrecord
    · exact hinv.named q existing ((hother q hq).symm.trans hexisting)
  · intro q existing hexisting
    by_cases hq : q = quoteId
    · subst hq
      obtain rfl := Option.some.inj (hself.symm.trans hexisting)
      exact hkept.wellFormed
    · exact hinv.wellFormed q existing ((hother q hq).symm.trans hexisting)
  · intro q existing hexisting
    by_cases hq : q = quoteId
    · subst hq
      obtain rfl := Option.some.inj (hself.symm.trans hexisting)
      exact hkept.justified
    · exact hinv.justified q existing ((hother q hq).symm.trans hexisting)
  · exact fun submission hsubmission => (hinv.dispatched submission hsubmission).grows hgrow

theorem keeps_inserted (hinv : w.Inv rail) {quote : MeltQuoteRecord} {store : PersistentState}
    {id : SettlementId} (hnew : quote.settlement = Settlement.new id)
    (hnone : w.store.meltQuote quote.quoteId = none)
    (hstore : store.meltQuotes = w.store.meltQuotes.insert quote.quoteId quote) :
    (discipline rail).Keeps w { w with store := store } := by
  have hself : store.meltQuote quote.quoteId = some quote := by
    rw [PersistentState.meltQuote, hstore, Finmap.lookup_insert]
  have hother : ∀ q, q ≠ quote.quoteId → store.meltQuote q = w.store.meltQuote q := fun q hq => by
    rw [PersistentState.meltQuote, hstore, Finmap.lookup_insert_of_ne _ hq, PersistentState.meltQuote]
  have hcases : ∀ q record, store.meltQuote q = some record →
      q = quote.quoteId ∧ record = quote ∨ w.store.meltQuote q = some record := by
    intro q record hrecord
    by_cases hq : q = quote.quoteId
    · subst hq
      exact .inl ⟨rfl, (Option.some.inj (hself.symm.trans hrecord)).symm⟩
    · exact .inr ((hother q hq).symm.trans hrecord)
  have hgrow : w.Grows { w with store := store } := by
    refine ⟨?_, List.Subset.refl _, List.Subset.refl _, List.Subset.refl _⟩
    intro q existing hexisting
    have hq : q ≠ quote.quoteId := by
      rintro rfl
      simp [hnone] at hexisting
    exact ⟨existing, (hother q hq).trans hexisting, .refl _⟩
  refine ⟨⟨?_, ?_, ?_, ?_, hinv.landed, hinv.apart⟩, hgrow⟩
  · intro q record hrecord
    rcases hcases q record hrecord with ⟨rfl, rfl⟩ | hold
    · rfl
    · exact hinv.named q record hold
  · intro q record hrecord
    rcases hcases q record hrecord with ⟨rfl, rfl⟩ | hold
    · rw [hnew]
      exact Settlement.wellFormed_new id
    · exact hinv.wellFormed q record hold
  · intro q record hrecord
    rcases hcases q record hrecord with ⟨rfl, rfl⟩ | hold
    · rw [hnew]
      exact Settlement.justified_new _ id
    · exact hinv.justified q record hold
  · exact fun submission hsubmission => (hinv.dispatched submission hsubmission).grows hgrow

theorem keeps_sameMeltQuotes (hinv : w.Inv rail) {store : PersistentState}
    (hsame : store.meltQuotes = w.store.meltQuotes) :
    (discipline rail).Keeps w { w with store := store } := by
  have hlookup : ∀ q, store.meltQuote q = w.store.meltQuote q := fun q => by
    rw [PersistentState.meltQuote, hsame, PersistentState.meltQuote]
  have hgrow : w.Grows { w with store := store } :=
    ⟨fun q record hrecord => ⟨record, (hlookup q).trans hrecord, .refl _⟩, List.Subset.refl _,
      List.Subset.refl _, List.Subset.refl _⟩
  refine ⟨⟨?_, ?_, ?_, ?_, hinv.landed, hinv.apart⟩, hgrow⟩
  · exact fun q record hrecord => hinv.named q record ((hlookup q).symm.trans hrecord)
  · exact fun q record hrecord => hinv.wellFormed q record ((hlookup q).symm.trans hrecord)
  · exact fun q record hrecord => hinv.justified q record ((hlookup q).symm.trans hrecord)
  · exact fun submission hsubmission => (hinv.dispatched submission hsubmission).grows hgrow

theorem Moves.keeps (hinv : w.Inv rail) (hmove : Moves w w') : (discipline rail).Keeps w w' := by
  cases hmove with
  | quoted hnew hinsert =>
      obtain ⟨-, id, hsettlement⟩ := PersistentState.new_ok hnew
      rcases PersistentState.insertMeltQuote_ok hinsert with rfl | ⟨hnone, hstore⟩
      · exact (discipline rail).keeps_self hinv
      · exact keeps_inserted hinv hsettlement hnone hstore
  | deposited hsame => exact keeps_sameMeltQuotes hinv hsame
  | @lands submission hsubmitted halive =>
      refine ⟨⟨hinv.named, hinv.wellFormed, ?_, hinv.dispatched, ?_, ?_⟩, ?_⟩
      · exact fun q record hrecord => justified_grows (hinv.justified q record hrecord)
          (List.subset_cons_self _ _) (List.Subset.refl _)
      · intro hash hhash
        rcases List.mem_cons.mp hhash with rfl | hhash
        · exact ⟨submission, hsubmitted, rfl⟩
        · exact hinv.landed hash hhash
      · intro hash hdead hlanded
        rcases List.mem_cons.mp hlanded with rfl | hlanded
        · exact halive hdead
        · exact hinv.apart hash hdead hlanded
      · exact ⟨(Grows.refl w).records, List.Subset.refl _, List.subset_cons_self _ _,
          List.Subset.refl _⟩
  | @dies hash hopen =>
      refine ⟨⟨hinv.named, hinv.wellFormed, ?_, hinv.dispatched, hinv.landed, ?_⟩, ?_⟩
      · exact fun q record hrecord => justified_grows (hinv.justified q record hrecord)
          (List.Subset.refl _) (List.subset_cons_self _ _)
      · intro other hdead
        rcases List.mem_cons.mp hdead with rfl | hdead
        · exact hopen
        · exact hinv.apart other hdead
      · exact ⟨(Grows.refl w).records, List.Subset.refl _, List.Subset.refl _,
          List.subset_cons_self _ _⟩

end World

end CashMesh.StellarSettlement
