import CashMesh.Acquirer.Evidence
import CashMesh.Acquirer.Intake
import CashMesh.Acquirer.LifecycleCommands
import CashMesh.Acquirer.RecoveryJobs
import Mathlib.Logic.Relation
/-!
# The acquirer's database as a system

The operations of the repositories, as steps of the committed rows. An operation is one transaction.
Those on a payment lock the row of its reservation, or of its recovery job, before they read what they
decide on, and the triggers lock the same rows; those on an invoice lock the invoice; and where two
payments meet, in a proof, a quote, an invoice claim or a journal, a unique key makes the later
transaction wait for the earlier one. So a run of the database is a sequence of whole operations. An
operation that fails leaves the rows as they were, and one whose commit is not answered leaves the rows
of one that is, so that a run has it as such a one.
-/

namespace CashMesh.Acquirer

open CashMesh.Lib

/-- The writing operations of the repositories with their inputs. -/
inductive Operation where
  | createOpenInvoice (input : CreateOpenInvoiceInput)
  | persistKeysetObservation (row : KeysetObservationRow)
  | reserve (input : ReserveInput)
  | storeCustody (paymentId : PaymentId) (bundle : CashuBearerProofBundle)
      (createdAt : UnixTimestamp)
  | beginQuote (input : BeginInput)
  | recordAmbiguous (input : AmbiguousInput)
  | recordQuote (input : QuoteInput)
  | observe (input : QuoteInput)
  | persistProofState (input : PersistProofStateInput)
  | startEffect (input : StartEffectInput)
  | recordPending (input : EventInput)
  | requireAttention (input : EventInput) (reason : CashuOperatorAttentionReason)
  | acceptPayment (input : AcceptPaymentInput)
  | release (input : ReleaseInput)
  | claimNext (candidate : Option PaymentId) (input : ClaimInput)
  | recordOutcome (input : RecordOutcomeInput)
deriving DecidableEq

/-- The rows that a transaction committed, none when it failed. -/
def committed {ε α : Type} (result : Except ε (α × Db)) : Option Db :=
  result.toOption.map (·.2)

@[simp] theorem committed_eq_some {ε α : Type} {result : Except ε (α × Db)} {db : Db} :
    committed result = some db ↔ ∃ answer, result = .ok (answer, db) := by
  cases result with
  | error error => simp [committed, Except.toOption]
  | ok pair =>
      obtain ⟨answer, db'⟩ := pair
      simp [committed, Except.toOption]

/-- The rows after an operation that the database accepts. -/
def Operation.run (db : Db) : Operation → Option Db
  | createOpenInvoice input => committed (Acquirer.createOpenInvoice db input)
  | persistKeysetObservation row => committed (Acquirer.persistKeysetObservation db row)
  | reserve input => committed (Acquirer.reserve db input)
  | storeCustody paymentId bundle createdAt =>
      committed (Acquirer.storeCustody db paymentId bundle createdAt)
  | beginQuote input => committed (Acquirer.beginQuote db input)
  | recordAmbiguous input => committed (Acquirer.recordAmbiguous db input)
  | recordQuote input => committed (Acquirer.recordQuote db input)
  | observe input => committed (Acquirer.observe db input)
  | persistProofState input => committed (Acquirer.persistProofState db input)
  | startEffect input => committed (Acquirer.startEffect db input)
  | recordPending input => committed (Acquirer.recordPending db input)
  | requireAttention input reason => committed (Acquirer.requireAttention db input reason)
  | acceptPayment input => committed (Acquirer.acceptPayment db input)
  | release input => committed (Acquirer.release db input)
  | claimNext candidate input => committed (Acquirer.claimNext db candidate input)
  | recordOutcome input => committed (Acquirer.recordOutcome db input)

/-- The rows after an operation, accepted or not. -/
def Operation.perform (db : Db) (operation : Operation) : Db :=
  (operation.run db).getD db

/-- One accepted operation. -/
def Step (db db' : Db) : Prop :=
  ∃ operation : Operation, operation.run db = some db'

/-- A run of accepted operations. -/
abbrev Run : Db → Db → Prop :=
  Relation.ReflTransGen Step

/-- The rows that some run of operations leaves. -/
def Reachable (db : Db) : Prop :=
  Run Db.empty db

theorem run_perform (db : Db) (operation : Operation) : Run db (operation.perform db) := by
  unfold Operation.perform
  cases hrun : operation.run db with
  | none => exact .refl
  | some db' => exact .single ⟨operation, hrun⟩

/-- A sequence of operations is a run, whichever of them fail. -/
theorem run_foldl (db : Db) (operations : List Operation) :
    Run db (operations.foldl Operation.perform db) := by
  induction operations generalizing db with
  | nil => exact .refl
  | cons operation operations ih => exact (run_perform db operation).trans (ih _)

/-- What the empty database has and every accepted operation keeps holds of every reachable one. -/
theorem reachable_induction {p : Db → Prop} (hempty : p Db.empty)
    (hstep : ∀ db db', Reachable db → p db → Step db db' → p db') {db : Db}
    (hreach : Reachable db) : p db := by
  induction hreach with
  | refl => exact hempty
  | tail hrun hlast ih => exact hstep _ _ hrun ih hlast

/-! ### A payment on its way

The operations that take a payment of one proof to the dispatch of its melt.
-/

namespace Sample

def mintUrl : MintUrl := "https://mint.example"
def operatorId : OperatorId := ⟨"operator-1", by decide⟩

theorem keysetId_valid : keysetIdPattern "00f85b2df41ecb7c" = true := by
  decide

def keysetId : KeysetId := ⟨"00f85b2df41ecb7c", keysetId_valid⟩
def paymentId : PaymentId := ⟨"payment-1", by decide⟩
def attemptId : CashuStellarMeltQuoteAttemptId := ⟨"attempt-1", by decide⟩

def destination : CashuStellarSettlementDestination :=
  ⟨"GATTMQEODSDX45WZK2JFIYETXWYCU5GRJ5I3Z7P2UDYD6YFVONDM4CX4", destination_valid⟩

def request : Sep7PaymentRequest where
  uri := "web+stellar:pay?destination=" ++ (destination.val ++ ("&amount=1.00&asset_code=USDC" ++
    ("&asset_issuer=GBBD47IF6LWK7P7MDEVSCWR7DPUWV3NY3DTQEVFL4NAT4AQH3ZLLFLA5" ++
    "&network_passphrase=Test+SDF+Network+%3B+September+2015")))
  destination

theorem proofY_valid : proofYPattern
    "02cd0b98332e8c3d8999c0695af4064f6d9244073fee66d475c2dffd4b7dad4831" = true := by
  decide

/-- The point of the secret of the proof. -/
def proofY : CashuProofY :=
  ⟨"02cd0b98332e8c3d8999c0695af4064f6d9244073fee66d475c2dffd4b7dad4831", proofY_valid⟩

def quoteId : CashuStellarMeltQuoteId :=
  ⟨"01890000-0000-7000-8000-000000000000", by decide⟩

def invoice : OpenInvoice where
  amount := 100
  createdAt := 1000
  expiresAt := 5000
  id := ⟨"invoice-1", by decide⟩
  merchantId := ⟨"merchant-1", by decide⟩

/-- The SHA-256 of the request for the invoice. -/
def requestFingerprint : String :=
  "dee826b9ea1228bd99217ddf517e4f5926cdccacbe75c1a337a12438d9d41380"

def cashuPaymentRequest : CashuPaymentRequest where
  amount := 100
  encodedRequest := {
    invoiceId := invoice.id
    amount := 100
    mintUrls := [mintUrl]
    transportUrl := "https://pay.example/" }
  expiresAt := 5000
  invoiceId := invoice.id
  issuedAt := 1000
  operators := [{
    mintUrl
    mode := .immediateConversion
    operatorId
    reason := .trustedOperator
    tier := .trusted }]
  transportUrl := "https://pay.example/"

def proof : CashuProofReference where
  amount := 100
  keysetId
  y := proofY

def bundle : CashuBearerProofBundle where
  invoiceId := invoice.id
  mintUrl
  unit := cashuStellarUnit
  proofReferences := [proof]
  inputs := [⟨100, keysetId, "first-secret",
    "03bbd265c14b48afac0f5e1d8922215170e85c31fa5c1e13f649130e201d05fa1a"⟩]

/-- The quote of the payment as it is observed at a time. -/
def quote (state : CashuStellarMeltQuoteState) (observedAt : UnixTimestamp) :
    CashuStellarMeltQuote where
  amount := 100
  expiry := 1500
  feeReserve := 0
  mintUrl
  observedAt
  quoteId
  request
  state

def coordinationKey : CoordinationKey where
  mintUrl
  paymentId
  quoteId

/-- The observation of the quote. -/
def observe (state : CashuStellarMeltQuoteState) (observedAt : UnixTimestamp) : Operation :=
  .observe ⟨attemptId, paymentId, quote state observedAt⟩

/-- The observation of the proof. -/
def observeProof (state : CashuProofStateValue) (observedAt : UnixTimestamp) : Operation :=
  .persistProofState {
    operatorId
    paymentId
    snapshot := ⟨mintUrl, observedAt, [⟨state, proofY⟩]⟩
    unit := cashuStellarUnit }

/-- The operations before the dispatch. -/
def intake : List Operation := [
  .createOpenInvoice {
    cashuPaymentRequest
    idempotencyKey := ⟨"key-1", by decide⟩
    invoice
    requestFingerprint
    settlementDestination := destination },
  .persistKeysetObservation
    ⟨operatorId, mintUrl, cashuStellarUnit, 1001, [⟨keysetId, cashuStellarUnit, 0, none, [100]⟩]⟩,
  .reserve {
    invoiceId := invoice.id
    keysetObservedAt := 1001
    mintUrl
    operatorId
    paymentId
    proofReferences := [proof]
    reservedAt := 1002
    unit := cashuStellarUnit },
  .storeCustody paymentId bundle 1003,
  .beginQuote ⟨attemptId, paymentId, 100, request, 1004⟩,
  .recordQuote ⟨attemptId, paymentId, quote .unpaid 1005⟩]

/-- The start of the melt. -/
def startEffect : Operation :=
  .startEffect {
    dispatchFingerprint := ⟨mintUrl, quoteId, bundle.inputs⟩
    effectId := .stellarMelt coordinationKey
    eventId := .stellarMeltStart coordinationKey
    paymentId
    startedAt := 1010
    terms := .melt quoteId 1500 }

/-- The acceptance of the payment on what was observed at 1011 and 1012. -/
def acceptPayment : Operation :=
  .acceptPayment {
    effectId := .stellarMelt coordinationKey
    eventId := .given ⟨"accepted-1", by decide⟩
    evidenceAt := 1011
    paymentId
    recordedAt := 1013
    feeAmount := 0
    journalEntryId := .given ⟨"journal-1", by decide⟩
    proofStateObservedAt := 1012 }

/-- The release of the reservation on what was observed at 1511 and 1512. -/
def release : Operation :=
  .release (.afterFailure {
    effectId := .stellarMelt coordinationKey
    eventId := .given ⟨"released-1", by decide⟩
    evidenceAt := 1511
    paymentId
    recordedAt := 1513
    evidenceKind := .meltUnpaidAfterExpiry
    proofStateObservedAt := 1512 })

/-- The rows after the dispatch and some more operations. -/
def after (operations : List Operation) : Db :=
  (intake ++ startEffect :: operations).foldl Operation.perform Db.empty

theorem reachable_after (operations : List Operation) : Reachable (after operations) :=
  run_foldl _ _

end Sample

end CashMesh.Acquirer
