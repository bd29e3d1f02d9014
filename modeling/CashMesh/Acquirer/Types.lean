import CashMesh.Acquirer.StellarDestination
import Mathlib.Algebra.Ring.Nat
import Mathlib.Data.List.Sort
/-!
# The data of the acquirer

The identifiers, amounts, quotes, proof references and lifecycle records that the repositories and
the coordinators of the acquirer exchange.

A validated string is a subtype of the strings with its pattern. A mint URL is a URL as
`normalizeCashuMintUrl` returns it. A SHA-256 fingerprint is kept as the record it hashes, so two
fingerprints are equal exactly when the records are; identifiers that a coordinator derives from such
a fingerprint are kept as their derivation. The schema versions, all of them 1, are left out.
-/

namespace CashMesh.Acquirer

/-! ### Identifiers and amounts -/

/-- `Number.MAX_SAFE_INTEGER`. -/
def maxSafeInteger : Nat := 9007199254740991

/-- Seconds, in the safe integers once `unixTimestamp` accepted them. -/
abbrev UnixTimestamp := Nat

/-- An amount in minor units, in the safe integers once `minorUnits` accepted it. -/
abbrev MinorUnitAmount := Nat

/-- `IDENTIFIER_PATTERN`: `^[A-Za-z0-9][A-Za-z0-9._:-]{0,127}$`. -/
def identifierPattern (text : String) : Bool :=
  match text.toList with
  | [] => false
  | first :: rest =>
      first.isAlphanum && rest.length ≤ 127 &&
        rest.all fun c => c.isAlphanum || c == '.' || c == '_' || c == ':' || c == '-'

/-- An identifier that `assertIdentifier` accepts. -/
abbrev Identifier := {text : String // identifierPattern text = true}

abbrev InvoiceId := Identifier
abbrev MerchantId := Identifier
abbrev OperatorId := Identifier
abbrev PaymentId := Identifier
abbrev CashuOperatorReference := Identifier
abbrev CashuStellarMeltQuoteAttemptId := Identifier

/-- A mint URL as `normalizeCashuMintUrl` returns it. -/
abbrev MintUrl := String

/-- A destination that `cashuStellarSettlementDestination` accepts. -/
abbrev CashuStellarSettlementDestination := {text : String // isValidStellarDestination text = true}

def isLowerHex (c : Char) : Bool :=
  c.isDigit || ('a' ≤ c && c ≤ 'f')

/-- `UNIT_PATTERN` within `MAX_UNIT_LENGTH`: `^[a-z0-9][a-z0-9._:-]*$`. -/
def unitPattern (text : String) : Bool :=
  match text.toList with
  | [] => false
  | first :: rest =>
      (first.isDigit || first.isLower) && rest.length ≤ 31 &&
        rest.all fun c =>
          c.isDigit || c.isLower || c == '.' || c == '_' || c == ':' || c == '-'

/-- A unit that `normalizeUnit` accepts. -/
abbrev CashuUnit := {text : String // unitPattern text = true}

/-- `CASHU_STELLAR_UNIT`, also the unit of every invoice. -/
def cashuStellarUnit : CashuUnit :=
  ⟨"usdc", by decide⟩

/-- `PROOF_Y_PATTERN`: `^(?:02|03)[0-9a-f]{64}$`. -/
def proofYPattern (text : String) : Bool :=
  match text.toList with
  | '0' :: sign :: rest =>
      (sign == '2' || sign == '3') && rest.length == 64 && rest.all isLowerHex
  | _ => false

/-- A compressed point that `cashuProofY` accepts. -/
abbrev CashuProofY := {text : String // proofYPattern text = true}

/-- `KEYSET_ID_PATTERN`: `^(?:00[0-9a-f]{14}|01[0-9a-f]{64})$`. -/
def keysetIdPattern (text : String) : Bool :=
  match text.toList with
  | '0' :: version :: rest =>
      rest.all isLowerHex &&
        ((version == '0' && rest.length == 14) || (version == '1' && rest.length == 64))
  | _ => false

abbrev KeysetId := {text : String // keysetIdPattern text = true}

/-- `UUID_V7_PATTERN`: `^[0-9a-f]{8}-[0-9a-f]{4}-7[0-9a-f]{3}-[89ab][0-9a-f]{3}-[0-9a-f]{12}$`. -/
def uuidV7Pattern (text : String) : Bool :=
  match text.toList.splitOn '-' with
  | [time, low, version, variant, node] =>
      [time, low, version, variant, node].all (fun part => part.all isLowerHex) &&
        time.length == 8 && low.length == 4 && version.length == 4 && variant.length == 4 &&
        node.length == 12 && version.head? == some '7' &&
        variant.head?.any fun c => c == '8' || c == '9' || c == 'a' || c == 'b'
  | _ => false

/-- A quote id; `createCashuStellarMeltQuoteV1` checks that it is a canonical UUIDv7. -/
abbrev CashuStellarMeltQuoteId := Identifier

/-! ### Melt quotes -/

/-- A payment request URI that `validateSep7PaymentRequest` accepts, with the destination that its
query names. -/
structure Sep7PaymentRequest where
  uri : String
  destination : CashuStellarSettlementDestination
deriving DecidableEq

/-- The request for a melt quote. Its method is `stellar` and its unit `usdc`. -/
structure CashuStellarMeltQuoteRequest where
  amount : MinorUnitAmount
  request : Sep7PaymentRequest
deriving DecidableEq

inductive CashuStellarMeltQuoteState where
  | unpaid
  | pending
  | paid
deriving DecidableEq

/-- One observation of a melt quote. -/
structure CashuStellarMeltQuote where
  amount : MinorUnitAmount
  expiry : UnixTimestamp
  feeReserve : MinorUnitAmount
  mintUrl : MintUrl
  observedAt : UnixTimestamp
  quoteId : CashuStellarMeltQuoteId
  request : Sep7PaymentRequest
  state : CashuStellarMeltQuoteState
deriving DecidableEq

def minCashuStellarMeltAmount : Nat := 1
def maxCashuStellarMeltAmount : Nat := 25000
def maxCashuStellarMeltQuoteTtlSeconds : Nat := 900

/-- The request of an amount in range, when `createCashuStellarMeltQuoteRequestV1` accepts it. -/
def createCashuStellarMeltQuoteRequest (amount : Nat) (request : Sep7PaymentRequest) :
    Option CashuStellarMeltQuoteRequest :=
  if minCashuStellarMeltAmount ≤ amount ∧ amount ≤ maxCashuStellarMeltAmount then
    some { amount, request }
  else
    none

/-- The quote of the given fields, when `createCashuStellarMeltQuoteV1` accepts them. -/
def createCashuStellarMeltQuote (input : CashuStellarMeltQuote) : Option CashuStellarMeltQuote :=
  if (createCashuStellarMeltQuoteRequest input.amount input.request).isSome ∧
      input.amount + input.feeReserve ≤ maxSafeInteger ∧
      input.observedAt ≤ maxSafeInteger ∧
      input.expiry ≤ maxSafeInteger ∧
      uuidV7Pattern input.quoteId.val = true then
    some input
  else
    none

/-! ### Proof references and proof states -/

structure CashuProofReference where
  amount : MinorUnitAmount
  keysetId : KeysetId
  y : CashuProofY
deriving DecidableEq

inductive CashuProofStateValue where
  | pending
  | spent
  | unspent
deriving DecidableEq

structure CashuProofStateEntry where
  state : CashuProofStateValue
  y : CashuProofY
deriving DecidableEq

/-- The states of a set of proofs at one time, in the order of their points. -/
structure CashuProofStateSnapshot where
  mintUrl : MintUrl
  observedAt : UnixTimestamp
  states : List CashuProofStateEntry
deriving DecidableEq

def maxCashuProofStatesPerSnapshot : Nat := 128

/-- `MAX_NUT18_PAYMENT_PROOFS`. -/
def maxNut18PaymentProofs : Nat := 128

/-- The snapshot in its canonical order, when `createCashuProofStateSnapshotV1` accepts it. -/
def createCashuProofStateSnapshot (input : CashuProofStateSnapshot) :
    Option CashuProofStateSnapshot :=
  if input.observedAt ≤ maxSafeInteger ∧ input.states ≠ [] ∧
      input.states.length ≤ maxCashuProofStatesPerSnapshot ∧
      (input.states.map (·.y)).Nodup then
    some { input with
      states := input.states.insertionSort fun left right => left.y.val ≤ right.y.val }
  else
    none

/-! ### Reservations -/

/-- The proofs of one payment, set aside for one invoice. -/
structure CashuProofReservation where
  grossAmount : MinorUnitAmount
  invoiceId : InvoiceId
  keysetObservedAt : UnixTimestamp
  mintUrl : MintUrl
  operatorId : OperatorId
  paymentId : PaymentId
  proofReferences : List CashuProofReference
  reservedAt : UnixTimestamp
  unit : CashuUnit
deriving DecidableEq

/-! ### The identifiers of the reservation lifecycle -/

/-- What a dispatch hashes into its identifiers under its domain. -/
structure CoordinationKey where
  mintUrl : MintUrl
  paymentId : PaymentId
  quoteId : CashuStellarMeltQuoteId
deriving DecidableEq

/-- The id of an operator effect: given by the caller, or derived by a dispatch. -/
inductive CashuOperatorEffectId where
  | given (id : Identifier)
  | stellarMelt (key : CoordinationKey)
deriving DecidableEq

/-- What a recovery hashes into its identifiers under its domain. -/
structure RecoveryKey where
  effectId : CashuOperatorEffectId
  mintUrl : MintUrl
  paymentId : PaymentId
  quoteId : CashuStellarMeltQuoteId
deriving DecidableEq

inductive CashuOperatorAttentionReason where
  | transportAmbiguous
  | operatorStateUnknown
  | operatorResponseInvalid
deriving DecidableEq

/-- What a recovery event reports: `pending` or `attention:` with its reason. -/
inductive RecoveryEventKind where
  | pending
  | attention (reason : CashuOperatorAttentionReason)
deriving DecidableEq

/-- The id of a lifecycle event: given by the caller, or derived by a coordinator. -/
inductive CashuReservationLifecycleEventId where
  | given (id : Identifier)
  | stellarMeltStart (key : CoordinationKey)
  | stellarMeltPending (key : CoordinationKey)
  | stellarMeltAttention (reason : CashuOperatorAttentionReason) (key : CoordinationKey)
  | stellarMeltRecoveryAccepted (key : RecoveryKey)
  | stellarMeltRecoveryReleased (key : RecoveryKey)
  | stellarMeltRecovery (evidenceAt : UnixTimestamp) (kind : RecoveryEventKind) (key : RecoveryKey)
deriving DecidableEq

/-- The id of a journal entry: given by the caller, or derived by a recovery. -/
inductive JournalEntryId where
  | given (id : Identifier)
  | stellarMeltPayment (key : RecoveryKey)
deriving DecidableEq

/-! ### Operator effects -/

/-- A proof as it is sent to the mint. -/
structure CashuBearerMeltInput where
  amount : MinorUnitAmount
  keysetId : KeysetId
  secret : String
  signature : String
deriving DecidableEq

/-- The request that spends the proofs: a `POST` to the melt endpoint of the mint, with the quote and
the inputs in its body. -/
structure CashuStellarMeltPost where
  mintUrl : MintUrl
  quoteId : CashuStellarMeltQuoteId
  inputs : List CashuBearerMeltInput
deriving DecidableEq

/-- The fingerprint of a dispatch is the hash of the request it sends. -/
abbrev CashuOperatorDispatchFingerprint := CashuStellarMeltPost

inductive CashuOperatorEffectKind where
  | swap
  | melt
deriving DecidableEq

/-- What the effect was started on: a melt names its quote and the quote's expiry. -/
inductive CashuOperatorEffectTerms where
  | swap
  | melt (operatorReference : CashuOperatorReference) (operatorReferenceExpiresAt : UnixTimestamp)
deriving DecidableEq

def CashuOperatorEffectTerms.kind : CashuOperatorEffectTerms → CashuOperatorEffectKind
  | swap => .swap
  | melt _ _ => .melt

def CashuOperatorEffectTerms.operatorReference :
    CashuOperatorEffectTerms → Option CashuOperatorReference
  | swap => none
  | melt operatorReference _ => some operatorReference

def CashuOperatorEffectTerms.operatorReferenceExpiresAt :
    CashuOperatorEffectTerms → Option UnixTimestamp
  | swap => none
  | melt _ operatorReferenceExpiresAt => some operatorReferenceExpiresAt

structure CashuOperatorEffect where
  dispatchFingerprint : CashuOperatorDispatchFingerprint
  effectId : CashuOperatorEffectId
  startedAt : UnixTimestamp
  terms : CashuOperatorEffectTerms
deriving DecidableEq

def CashuOperatorEffect.kind (effect : CashuOperatorEffect) : CashuOperatorEffectKind :=
  effect.terms.kind

/-! ### Lifecycle events -/

inductive CashuOperatorSuccessEvidence where
  | swapSucceeded
  | meltPaid
deriving DecidableEq

inductive CashuOperatorFailureEvidence where
  | swapRejected
  | meltUnpaidAfterExpiry
deriving DecidableEq

/-- The evidence kinds of the event table. -/
inductive EvidenceKind where
  | operatorPending
  | attention (reason : CashuOperatorAttentionReason)
  | success (evidence : CashuOperatorSuccessEvidence)
  | preDispatch
  | failure (evidence : CashuOperatorFailureEvidence)
deriving DecidableEq

namespace EvidenceKind

/-- The evidence `melt_paid`. -/
abbrev meltPaid : EvidenceKind := success .meltPaid

/-- The evidence `melt_unpaid_after_expiry`. -/
abbrev meltUnpaidAfterExpiry : EvidenceKind := failure .meltUnpaidAfterExpiry

end EvidenceKind

/-- The states that an event can bring about. -/
inductive LifecycleEventState where
  | dispatchStarted
  | pending
  | needsAttention
  | consumed
  | released
deriving DecidableEq

/-- The states of a reservation. -/
inductive CashuProofReservationState where
  | reserved
  | dispatchStarted
  | pending
  | needsAttention
  | consumed
  | released
deriving DecidableEq

/-- The state of a reservation after an event. -/
def LifecycleEventState.toReservationState : LifecycleEventState → CashuProofReservationState
  | dispatchStarted => .dispatchStarted
  | pending => .pending
  | needsAttention => .needsAttention
  | consumed => .consumed
  | released => .released

/-- The states `dispatch_started`, `pending` and `needs_attention`. -/
def CashuProofReservationState.Active (state : CashuProofReservationState) : Prop :=
  state = .dispatchStarted ∨ state = .pending ∨ state = .needsAttention

/-- The states `consumed` and `released`. -/
def CashuProofReservationState.Terminal (state : CashuProofReservationState) : Prop :=
  state = .consumed ∨ state = .released

instance : DecidablePred CashuProofReservationState.Active := fun _ =>
  inferInstanceAs (Decidable (_ ∨ _))

instance : DecidablePred CashuProofReservationState.Terminal := fun _ =>
  inferInstanceAs (Decidable (_ ∨ _))

/-- What `createObservationFingerprint` and `createProofStateFingerprint` hash. -/
structure ProofStateFingerprint where
  mintUrl : MintUrl
  observedAt : UnixTimestamp
  operatorId : OperatorId
  paymentId : PaymentId
  states : List CashuProofStateEntry
  unit : CashuUnit
deriving DecidableEq

/-- An event before it has its place in the history. -/
structure EventDraft where
  effectId : Option CashuOperatorEffectId
  eventId : CashuReservationLifecycleEventId
  evidenceAt : Option UnixTimestamp
  evidenceKind : Option EvidenceKind
  journalEntryId : Option JournalEntryId
  paymentId : PaymentId
  proofStateSnapshotFingerprint : Option ProofStateFingerprint
  recordedAt : UnixTimestamp
  state : LifecycleEventState
deriving DecidableEq

/-- What `createEventFingerprint` hashes. -/
structure EventFingerprint where
  draft : EventDraft
  sequence : Nat
deriving DecidableEq

structure LifecycleEventBase where
  eventId : CashuReservationLifecycleEventId
  recordedAt : UnixTimestamp
  sequence : Nat
deriving DecidableEq

/-- A lifecycle event as the repository returns it. -/
inductive CashuReservationLifecycleEvent where
  | dispatchStarted (base : LifecycleEventBase)
  | pending (base : LifecycleEventBase) (evidenceAt : UnixTimestamp)
  | needsAttention (base : LifecycleEventBase) (evidenceAt : UnixTimestamp)
      (reason : CashuOperatorAttentionReason)
  | consumed (base : LifecycleEventBase) (evidenceAt : UnixTimestamp)
      (evidence : CashuOperatorSuccessEvidence) (journalEntryId : JournalEntryId)
      (proofStateObservedAt : UnixTimestamp)
  | releasedPreDispatch (base : LifecycleEventBase)
  | releasedAfterFailure (base : LifecycleEventBase) (evidenceAt : UnixTimestamp)
      (evidence : CashuOperatorFailureEvidence) (proofStateObservedAt : UnixTimestamp)
deriving DecidableEq

namespace CashuReservationLifecycleEvent

def base : CashuReservationLifecycleEvent → LifecycleEventBase
  | dispatchStarted base => base
  | pending base _ => base
  | needsAttention base _ _ => base
  | consumed base _ _ _ _ => base
  | releasedPreDispatch base => base
  | releasedAfterFailure base _ _ _ => base

def state : CashuReservationLifecycleEvent → LifecycleEventState
  | dispatchStarted _ => .dispatchStarted
  | pending _ _ => .pending
  | needsAttention _ _ _ => .needsAttention
  | consumed _ _ _ _ _ => .consumed
  | releasedPreDispatch _ => .released
  | releasedAfterFailure _ _ _ _ => .released

def evidenceAt : CashuReservationLifecycleEvent → Option UnixTimestamp
  | dispatchStarted _ => none
  | pending _ evidenceAt => some evidenceAt
  | needsAttention _ evidenceAt _ => some evidenceAt
  | consumed _ evidenceAt _ _ _ => some evidenceAt
  | releasedPreDispatch _ => none
  | releasedAfterFailure _ evidenceAt _ _ => some evidenceAt

def evidenceKind : CashuReservationLifecycleEvent → Option EvidenceKind
  | dispatchStarted _ => none
  | pending _ _ => some .operatorPending
  | needsAttention _ _ reason => some (.attention reason)
  | consumed _ _ evidence _ _ => some (.success evidence)
  | releasedPreDispatch _ => some .preDispatch
  | releasedAfterFailure _ _ evidence _ => some (.failure evidence)

end CashuReservationLifecycleEvent

/-- The lifecycle of a reservation: its effect, its events in order, and the state they led to. -/
structure CashuProofReservationLifecycle where
  effect : Option CashuOperatorEffect
  events : List CashuReservationLifecycleEvent
  paymentId : PaymentId
  state : CashuProofReservationState
deriving DecidableEq

end CashMesh.Acquirer
