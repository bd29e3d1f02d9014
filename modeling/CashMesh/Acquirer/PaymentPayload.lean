import CashMesh.Acquirer.Schema
/-!
# Payment payloads

The payload of a payment, as the payer sends it, and its validation against a snapshot of the keysets
of its mint: the gross amount of its proofs, the input fee that the mint will ask for them, and the
references under which they are reserved.

What the Cashu library and the URL parser do is a parameter. A record that came out of JSON has its
types, so that of the checks of a value those on its contents remain; a number of it that is not a
natural one is refused by the checks and not modelled.
-/

namespace CashMesh.Acquirer

open CashMesh.Lib

/-! ### Text -/

/-- `length` of a string, in UTF-16 code units. -/
def utf16Length (text : String) : Nat :=
  (text.toList.map fun c => if c.toNat < 0x10000 then 1 else 2).sum

/-- The characters that `trim` removes. -/
def isTrimmedSpace (c : Char) : Bool :=
  [0x09, 0x0a, 0x0b, 0x0c, 0x0d, 0x20, 0xa0, 0x1680, 0x2028, 0x2029, 0x202f, 0x205f, 0x3000,
    0xfeff].contains c.toNat || (0x2000 ≤ c.toNat && c.toNat ≤ 0x200a)

/-- Whether `trim` leaves a text as it is. -/
def isTrimmed (text : String) : Bool :=
  !text.toList.head?.any isTrimmedSpace && !text.toList.getLast?.any isTrimmedSpace

/-- `toLowerCase`, whose other letters no pattern of the keys takes. -/
def toLowerCase (text : String) : String :=
  String.ofList (text.toList.map Char.toLower)

/-- `UNIT_PATTERN` of a payload and of a bundle: `^[A-Za-z0-9][A-Za-z0-9._:-]*$`. -/
def paymentUnitPattern (text : String) : Bool :=
  match text.toList with
  | [] => false
  | first :: rest =>
      first.isAlphanum &&
        rest.all fun c => c.isAlphanum || c == '.' || c == '_' || c == ':' || c == '-'

def maxUnitLength : Nat := 32

/-- A unit that `parseUnit` of the payload and `normalizeUnit` of the bundle accept. -/
def IsPaymentUnit (text : String) : Prop :=
  utf16Length text ≤ maxUnitLength ∧ isTrimmed text = true ∧ paymentUnitPattern text = true

instance : DecidablePred IsPaymentUnit := fun _ => inferInstanceAs (Decidable (_ ∧ _))

/-! ### The library -/

/-- The evidence of a proof that its mint has signed it. -/
structure CashuDleq where
  e : String
  s : String
  r : String
deriving DecidableEq

/-- A `Proof` of the Cashu library. -/
structure CashuProof where
  id : String
  amount : Nat
  secret : String
  C : String
  dleq : Option CashuDleq
  witness : Option String
deriving DecidableEq

/-- A `PaymentRequestPayload` of the Cashu library. -/
structure PaymentRequestPayload where
  id : Option String
  memo : Option String
  mint : String
  proofs : List CashuProof
  unit : String
deriving DecidableEq

/-- What is read of a parsed URL. -/
structure MintEndpoint where
  protocol : String
  username : String
  password : String
  search : String
  hash : String
  href : String
deriving DecidableEq

/-- A keyset of a snapshot. Its keys are public keys by their amounts. -/
structure CashuKeysetSnapshotEntry where
  active : Bool
  finalExpiry : Option UnixTimestamp
  id : KeysetId
  inputFeePpk : Nat
  keys : List (Nat × String)
  unit : CashuUnit
deriving DecidableEq

/-- The keyset has a key for an amount. -/
def CashuKeysetSnapshotEntry.HasKey (keyset : CashuKeysetSnapshotEntry) (amount : Nat) : Prop :=
  amount ∈ keyset.keys.map Prod.fst

instance (keyset : CashuKeysetSnapshotEntry) (amount : Nat) : Decidable (keyset.HasKey amount) :=
  inferInstanceAs (Decidable (_ ∈ _))

/-- The values of JSON, which the code distinguishes by their kinds only. -/
inductive JsonKind where
  | null
  | boolean
  | number
  | string
  | array (elements : List JsonKind)
  | object

/-- What the Cashu library, the URL parser and the JSON parser do. -/
structure CashuTs where
  decodePayload : String → Option PaymentRequestPayload
  /-- `pointToHex` of `hashToCurve` of a secret. -/
  hashToCurve : String → CashuProofY
  jsonParse : String → Option JsonKind
  /-- The mint URL of a text that the library takes. -/
  normalizeMintUrl : String → Option MintUrl
  parseUrl : String → Option MintEndpoint
  /-- Whether `pointFromHex` takes a text. -/
  pointFromHex : String → Bool
  verifyKeysetId : CashuKeysetSnapshotEntry → Bool
  /-- Whether `verifyProofsForReceive` with `requireDleq` takes the proofs under the keysets. -/
  verifyProofsForReceive : List CashuProof → List CashuKeysetSnapshotEntry → Bool

def maxCashuEndpointLength : Nat := 512

def normalizeCashuMintUrl (cashuTs : CashuTs) (value : String) : Option MintUrl :=
  if value ≠ "" ∧ utf16Length value ≤ maxCashuEndpointLength ∧ isTrimmed value = true then
    match cashuTs.parseUrl value with
    | none => none
    | some endpoint =>
        if endpoint.protocol = "https:" ∧ endpoint.username = "" ∧ endpoint.password = "" ∧
            endpoint.search = "" ∧ endpoint.hash = "" then
          cashuTs.normalizeMintUrl endpoint.href
        else
          none
  else
    none

/-! ### Keyset snapshots -/

/-- `CashuKeysetSnapshotErrorCode`. -/
inductive KeysetSnapshotErrorCode where
  | duplicateKeyset
  | emptyKeysetSet
  | invalidKeyset
  | invalidMint
  | invalidObservedAt
  | invalidSnapshot
  | keysetLimitExceeded
  | unsupportedKeysetVersion
deriving DecidableEq

/-- `CashuKeysetSnapshotError`. -/
structure KeysetSnapshotError where
  code : KeysetSnapshotErrorCode
  message : String
deriving DecidableEq

def invalidKeyset : KeysetSnapshotError :=
  ⟨.invalidKeyset, "Cashu keyset snapshot entry is invalid."⟩

structure CashuKeysetSnapshotEntryInput where
  active : Bool
  finalExpiry : Option Nat
  id : String
  inputFeePpk : Option Nat
  keys : List (String × String)
  unit : String
deriving DecidableEq

structure CreateCashuKeysetSnapshotInput where
  keysets : List CashuKeysetSnapshotEntryInput
  mintUrl : String
  observedAt : Nat
  schemaVersion : Option Nat
deriving DecidableEq

structure CashuKeysetSnapshot where
  keysets : List CashuKeysetSnapshotEntry
  mintUrl : MintUrl
  observedAt : UnixTimestamp
deriving DecidableEq

def cashuKeysetSnapshotSchemaVersion : Nat := 1
def maxCashuKeysetsPerSnapshot : Nat := 64
def maxCashuKeysPerKeyset : Nat := 256
def maxU64 : Nat := 18446744073709551615
def maxU64Digits : Nat := 20

/-- `KEY_AMOUNT_PATTERN`: `^[1-9][0-9]*$`. -/
def keyAmountPattern (text : String) : Bool :=
  match text.toList with
  | [] => false
  | first :: rest => first.isDigit && first != '0' && rest.all Char.isDigit

/-- `SECP_PUBLIC_KEY_PATTERN`: `^(?:02|03)[0-9a-f]{64}$`. -/
def secpPublicKeyPattern (text : String) : Bool :=
  proofYPattern text

/-- The ids of keyset versions that the profile does not support: `02` with 64 hexadecimal digits, or
twelve characters of base 64. -/
def unsupportedKeysetPattern (text : String) : Bool :=
  let base64 (c : Char) := c.isAlphanum || c == '+' || c == '_' || c == '/' || c == '-'
  match text.toList with
  | '0' :: '2' :: rest =>
      (rest.length == 64 && rest.all isLowerHex) || (rest.length == 10 && rest.all base64)
  | chars => chars.length == 12 && chars.all base64

/-- The number that a text of decimal digits writes. -/
def decimalValue (text : String) : Nat :=
  text.toList.foldl (fun value c => 10 * value + (c.toNat - '0'.toNat)) 0

def normalizeFinalExpiry : Option Nat → Except KeysetSnapshotError (Option UnixTimestamp)
  | none | some 0 => return none
  | some value => do
      ensure (value ≤ maxSafeInteger) invalidKeyset
      return some value

def normalizeKey (cashuTs : CashuTs) (entry : String × String) :
    Except KeysetSnapshotError (Nat × String) := do
  ensure
    (utf16Length entry.1 ≤ maxU64Digits ∧ keyAmountPattern entry.1 = true ∧
      decimalValue entry.1 ≤ maxU64 ∧ utf16Length entry.2 = 66)
    invalidKeyset
  let canonicalPublicKey := toLowerCase entry.2
  ensure (secpPublicKeyPattern canonicalPublicKey = true) invalidKeyset
  ensure (cashuTs.pointFromHex canonicalPublicKey = true) invalidKeyset
  return (decimalValue entry.1, canonicalPublicKey)

/-- The keys in the order of their amounts. -/
def normalizeKeys (cashuTs : CashuTs) (entries : List (String × String)) :
    Except KeysetSnapshotError (List (Nat × String)) := do
  ensure (entries ≠ [] ∧ entries.length ≤ maxCashuKeysPerKeyset) invalidKeyset
  let normalized ← entries.mapM (normalizeKey cashuTs)
  return normalized.insertionSort fun left right => left.1 ≤ right.1

/-- The id of a keyset of a supported version. -/
def normalizeKeysetId (id : String) : Except KeysetSnapshotError KeysetId :=
  if h : keysetIdPattern id = true then
    return ⟨id, h⟩
  else if unsupportedKeysetPattern id = true then
    throw ⟨.unsupportedKeysetVersion, "Cashu keyset version is not supported by this profile."⟩
  else
    throw invalidKeyset

def normalizeKeysetUnit (unit : String) : Except KeysetSnapshotError CashuUnit :=
  if h : unitPattern unit = true then
    return ⟨unit, h⟩
  else
    throw invalidKeyset

def normalizeKeyset (cashuTs : CashuTs) (input : CashuKeysetSnapshotEntryInput) :
    Except KeysetSnapshotError CashuKeysetSnapshotEntry := do
  let id ← normalizeKeysetId input.id
  let unit ← normalizeKeysetUnit input.unit
  let inputFeePpk := input.inputFeePpk.getD 0
  ensure (inputFeePpk ≤ maxSafeInteger) invalidKeyset
  let finalExpiry ← normalizeFinalExpiry input.finalExpiry
  let keys ← normalizeKeys cashuTs input.keys
  let keyset : CashuKeysetSnapshotEntry := {
    active := input.active
    finalExpiry
    id
    inputFeePpk
    keys
    unit }
  ensure (cashuTs.verifyKeysetId keyset = true) invalidKeyset
  return keyset

/-- One more keyset of a snapshot, whose id must be new. -/
def addKeyset (cashuTs : CashuTs) (keysets : List CashuKeysetSnapshotEntry)
    (entry : CashuKeysetSnapshotEntryInput) :
    Except KeysetSnapshotError (List CashuKeysetSnapshotEntry) := do
  let keyset ← normalizeKeyset cashuTs entry
  ensure (keyset.id ∉ keysets.map (·.id))
    ⟨.duplicateKeyset, "Cashu keyset snapshot contains a duplicate keyset."⟩
  return keysets ++ [keyset]

/-- The snapshot of the input, with its keysets in the order of their ids. -/
def createCashuKeysetSnapshot (cashuTs : CashuTs) (input : CreateCashuKeysetSnapshotInput) :
    Except KeysetSnapshotError CashuKeysetSnapshot := do
  ensure (∀ version ∈ input.schemaVersion, version = cashuKeysetSnapshotSchemaVersion)
    ⟨.invalidSnapshot, "Cashu keyset snapshot schema version is unsupported."⟩
  let mintUrl ← orFail (normalizeCashuMintUrl cashuTs input.mintUrl)
    ⟨.invalidMint, "Cashu keyset mint URL is invalid."⟩
  ensure (input.observedAt ≤ maxSafeInteger)
    ⟨.invalidObservedAt, "Cashu keyset observation time is invalid."⟩
  ensure (input.keysets ≠ [])
    ⟨.emptyKeysetSet, "Cashu keyset snapshot must contain at least one keyset."⟩
  ensure (input.keysets.length ≤ maxCashuKeysetsPerSnapshot)
    ⟨.keysetLimitExceeded, "Cashu keyset snapshot contains too many keysets."⟩
  let keysets ← input.keysets.foldlM (addKeyset cashuTs) []
  return {
    keysets := keysets.insertionSort fun left right => left.id.val ≤ right.id.val
    mintUrl
    observedAt := input.observedAt }

/-- The keyset that a map by ids has for an id. -/
def CashuKeysetSnapshot.keyset (snapshot : CashuKeysetSnapshot) (id : String) :
    Option CashuKeysetSnapshotEntry :=
  snapshot.keysets.find? fun keyset => keyset.id.val = id

/-! ### The envelope of a payload -/

/-- `CashuPaymentPayloadErrorCode`. -/
inductive PaymentPayloadErrorCode where
  | amountLimitExceeded
  | invalidInvoiceId
  | invalidMint
  | invalidPayload
  | invalidProof
  | invalidUnit
  | payloadTooLarge
  | proofLimitExceeded
deriving DecidableEq

/-- `CashuProofValidationErrorCode`. -/
inductive ProofValidationErrorCode where
  | duplicateProof
  | inputFeeExceedsAmount
  | invalidValidationTime
  | keysetExpired
  | keysetNotFound
  | keysetUnitMismatch
  | mintMismatch
  | proofIntegrityFailed
  | snapshotFromFuture
deriving DecidableEq

/-- What the validation of a payment throws. -/
inductive PaymentProofsError where
  | payload (code : PaymentPayloadErrorCode) (message : String)
  | snapshot (error : KeysetSnapshotError)
  | validation (code : ProofValidationErrorCode) (message : String)
deriving DecidableEq

structure CashuPaymentPayloadEnvelope where
  grossAmount : MinorUnitAmount
  invoiceId : InvoiceId
  mintUrl : MintUrl
  proofCount : Nat
  unit : String
deriving DecidableEq

def maxNut18PaymentPayloadBytes : Nat := 65536
def maxMemoLength : Nat := 512
def maxProofIdentifierLength : Nat := 128
def maxProofSecretLength : Nat := 4096
def maxProofSignatureLength : Nat := 192

def IsBoundedText (value : String) (maximumBytes : Nat) : Prop :=
  value ≠ "" ∧ value.utf8ByteSize ≤ maximumBytes

instance (value : String) (maximumBytes : Nat) : Decidable (IsBoundedText value maximumBytes) :=
  inferInstanceAs (Decidable (_ ∧ _))

def parseInvoiceId (value : Option String) : Except PaymentProofsError InvoiceId :=
  let text := value.getD ""
  if h : identifierPattern text = true then
    return ⟨text, h⟩
  else
    throw (.payload .invalidInvoiceId
      "Cashu payment payload has an invalid invoice identifier.")

def validateProofEnvelope (proof : CashuProof) : Except PaymentProofsError Unit :=
  ensure
    (IsBoundedText proof.id maxProofIdentifierLength ∧
      IsBoundedText proof.secret maxProofSecretLength ∧
      IsBoundedText proof.C maxProofSignatureLength)
    (.payload .invalidProof "Cashu payment proof fields are invalid.")

/-- The gross amount with one more proof. -/
def addGrossAmount (grossAmount : Nat) (proof : CashuProof) : Except PaymentProofsError Nat := do
  validateProofEnvelope proof
  ensure (proof.amount ≠ 0)
    (.payload .invalidProof "Cashu proofs must have positive amounts.")
  ensure (grossAmount + proof.amount ≤ maxSafeInteger)
    (.payload .amountLimitExceeded "Cashu payment amount exceeds CashMesh integer bounds.")
  return grossAmount + proof.amount

def decodePaymentPayload (cashuTs : CashuTs) (rawPayload : String) :
    Except PaymentProofsError (CashuPaymentPayloadEnvelope × PaymentRequestPayload) := do
  ensure (rawPayload ≠ "")
    (.payload .invalidPayload "Cashu payment payload must be JSON text.")
  ensure (rawPayload.utf8ByteSize ≤ maxNut18PaymentPayloadBytes)
    (.payload .payloadTooLarge "Cashu payment payload exceeds the transport limit.")
  let payload ← orFail (cashuTs.decodePayload rawPayload)
    (.payload .invalidPayload "Cashu payment payload is malformed.")
  let invoiceId ← parseInvoiceId payload.id
  let mintUrl ← orFail (normalizeCashuMintUrl cashuTs payload.mint)
    (.payload .invalidMint "Cashu payment mint URL is invalid.")
  ensure (IsPaymentUnit payload.unit)
    (.payload .invalidUnit "Cashu payment payload unit is invalid.")
  ensure (∀ memo ∈ payload.memo, memo.utf8ByteSize ≤ maxMemoLength)
    (.payload .invalidPayload "Cashu payment memo is too large.")
  ensure (payload.proofs.length ≤ maxNut18PaymentProofs)
    (.payload .proofLimitExceeded "Cashu payment payload contains too many proofs.")
  let grossAmount ← payload.proofs.foldlM addGrossAmount 0
  return ({
    grossAmount
    invoiceId
    mintUrl
    proofCount := payload.proofs.length
    unit := payload.unit }, payload)

/-! ### The proofs of a payload -/

structure ValidateCashuPaymentProofsInput where
  keysetSnapshot : CreateCashuKeysetSnapshotInput
  rawPayload : String
  validatedAt : Nat
deriving DecidableEq

structure ValidatedCashuPaymentProofs where
  envelope : CashuPaymentPayloadEnvelope
  inputFee : Nat
  keysetIds : List KeysetId
  keysetSnapshotObservedAt : UnixTimestamp
  netAmount : Nat
  proofReferences : List CashuProofReference
  validatedAt : UnixTimestamp
deriving DecidableEq

/-- What the loop over the proofs has seen. -/
structure InputFeeScan where
  proofSecrets : List String
  usedKeysetIds : List KeysetId
  inputFeePpk : Nat

def InputFeeScan.empty : InputFeeScan :=
  ⟨[], [], 0⟩

/-- One proof of the loop that adds up the input fee. -/
def scanProof (keysetSnapshot : CashuKeysetSnapshot) (unit : String) (validatedAt : UnixTimestamp)
    (scan : InputFeeScan) (proof : CashuProof) : Except PaymentProofsError InputFeeScan := do
  ensure (proof.secret ∉ scan.proofSecrets)
    (.validation .duplicateProof "Cashu payment contains a duplicate proof.")
  let keyset ← orFail (keysetSnapshot.keyset proof.id)
    (.validation .keysetNotFound "Cashu payment references an unknown keyset.")
  ensure (keyset.unit.val = unit)
    (.validation .keysetUnitMismatch "Cashu payment proof keyset uses a different unit.")
  ensure (∀ finalExpiry ∈ keyset.finalExpiry, validatedAt < finalExpiry)
    (.validation .keysetExpired "Cashu payment proof keyset has expired.")
  return {
    proofSecrets := proof.secret :: scan.proofSecrets
    usedKeysetIds := if keyset.id ∈ scan.usedKeysetIds then
        scan.usedKeysetIds
      else
        keyset.id :: scan.usedKeysetIds
    inputFeePpk := scan.inputFeePpk + keyset.inputFeePpk }

/-- `proof_integrity_failed`, which stands for every other error of the checks of the proofs. -/
def proofIntegrityFailed : PaymentProofsError :=
  .validation .proofIntegrityFailed "Cashu payment proof integrity validation failed."

def createCashuProofReference (amount : Nat) (keysetId : String) (y : CashuProofY) :
    Option CashuProofReference :=
  if h : amount ≤ maxSafeInteger ∧ 0 < amount ∧ keysetIdPattern keysetId = true then
    some {
      amount
      keysetId := ⟨keysetId, h.2.2⟩
      y }
  else
    none

/-- One more reference, whose point must be new. -/
def addProofReference (cashuTs : CashuTs) (proofReferences : List CashuProofReference)
    (proof : CashuProof) : Except PaymentProofsError (List CashuProofReference) := do
  let y := cashuTs.hashToCurve proof.secret
  ensure (y ∉ proofReferences.map (·.y))
    (.validation .duplicateProof "Cashu payment contains a duplicate proof.")
  let reference ← orFail (createCashuProofReference proof.amount proof.id y) proofIntegrityFailed
  return proofReferences ++ [reference]

/-- The fee of a sum of parts per thousand, rounded up. -/
def inputFeeOfPpk (feePpk : Nat) : Nat :=
  (feePpk + 999) / 1000

def validateCashuPaymentProofs (cashuTs : CashuTs) (input : ValidateCashuPaymentProofsInput) :
    Except PaymentProofsError ValidatedCashuPaymentProofs := do
  let (envelope, payload) ← decodePaymentPayload cashuTs input.rawPayload
  let keysetSnapshot ←
    (createCashuKeysetSnapshot cashuTs input.keysetSnapshot).mapError .snapshot
  ensure (input.validatedAt ≤ maxSafeInteger)
    (.validation .invalidValidationTime "Cashu proof validation time is invalid.")
  ensure (keysetSnapshot.observedAt ≤ input.validatedAt)
    (.validation .snapshotFromFuture
      "Cashu keyset snapshot was observed after the validation time.")
  ensure (keysetSnapshot.mintUrl = envelope.mintUrl)
    (.validation .mintMismatch "Cashu keyset snapshot does not match the payment mint.")
  let scan ← payload.proofs.foldlM
    (scanProof keysetSnapshot envelope.unit input.validatedAt) InputFeeScan.empty
  ensure (cashuTs.verifyProofsForReceive payload.proofs keysetSnapshot.keysets = true)
    proofIntegrityFailed
  let proofReferences ← payload.proofs.foldlM (addProofReference cashuTs) []
  let inputFee := inputFeeOfPpk scan.inputFeePpk
  ensure (inputFee ≤ envelope.grossAmount)
    (.validation .inputFeeExceedsAmount "Cashu payment input fee exceeds its gross amount.")
  return {
    envelope
    inputFee
    keysetIds := scan.usedKeysetIds.insertionSort fun left right => left.val ≤ right.val
    keysetSnapshotObservedAt := keysetSnapshot.observedAt
    netAmount := envelope.grossAmount - inputFee
    proofReferences := proofReferences.insertionSort fun left right => left.y.val ≤ right.y.val
    validatedAt := input.validatedAt }

end CashMesh.Acquirer
