import CashMesh.Acquirer.PaymentPayload
/-!
# Bearer proof bundles

The proofs of a payment with their secrets. A bundle is made once from the proofs of a payload, and
restored from the text that custody keeps of it. The text is canonical, so it is kept as the record it
writes, before anything in it is checked; its length is that of the text.
-/

namespace CashMesh.Acquirer

open CashMesh.Lib

/-! ### The text of a bundle -/

structure StoredCashuBearerProof where
  amount : MinorUnitAmount
  keysetId : KeysetId
  secret : String
  signature : String
  y : CashuProofY
deriving DecidableEq

structure StoredCashuBearerProofBundle where
  invoiceId : InvoiceId
  mintUrl : MintUrl
  proofs : List StoredCashuBearerProof
  unit : String
deriving DecidableEq

/-- A proof as the text writes it. -/
structure BearerProofText where
  amount : Nat
  keysetId : String
  secret : String
  signature : String
  y : String
deriving DecidableEq

/-- A bundle as the text writes it. -/
structure BundleText where
  invoiceId : String
  mintUrl : String
  proofs : List BearerProofText
  schemaVersion : Nat
  unit : String
deriving DecidableEq

def cashuBearerProofBundleSchemaVersion : Nat := 1
def maxCashuBearerProofBundleBytes : Nat := 65536
def maxProofSecretBytes : Nat := 4096
def maxBundleProofs : Nat := 128

def StoredCashuBearerProof.text (proof : StoredCashuBearerProof) : BearerProofText where
  amount := proof.amount
  keysetId := proof.keysetId.val
  secret := proof.secret
  signature := proof.signature
  y := proof.y.val

def encodeStoredBundle (bundle : StoredCashuBearerProofBundle) : BundleText where
  invoiceId := bundle.invoiceId.val
  mintUrl := bundle.mintUrl
  proofs := bundle.proofs.map (·.text)
  schemaVersion := cashuBearerProofBundleSchemaVersion
  unit := bundle.unit

/-- The bytes that a character takes in a string of JSON: the quote, the backslash and the control
characters are escaped. -/
def jsonCharBytes (c : Char) : Nat :=
  if c.toNat = 0x22 ∨ c.toNat = 0x5c ∨ c.toNat ∈ [0x08, 0x09, 0x0a, 0x0c, 0x0d] then
    2
  else if c.toNat < 0x20 then
    6
  else
    c.utf8Size

def jsonStringBytes (text : String) : Nat :=
  2 + (text.toList.map jsonCharBytes).sum

/-- The bytes of a proof: its five values, and 51 of names and punctuation. -/
def BearerProofText.byteLength (proof : BearerProofText) : Nat :=
  51 + (toString proof.amount).length + jsonStringBytes proof.keysetId +
    jsonStringBytes proof.secret + jsonStringBytes proof.signature + jsonStringBytes proof.y

/-- The bytes of a bundle: its values, the commas between its proofs, and 62 of names and
punctuation. -/
def BundleText.byteLength (text : BundleText) : Nat :=
  62 + jsonStringBytes text.invoiceId + jsonStringBytes text.mintUrl +
    (text.proofs.map (·.byteLength)).sum + (text.proofs.length - 1) +
    (toString text.schemaVersion).length + jsonStringBytes text.unit

/-! ### Bundles -/

/-- `CashuBearerProofBundleErrorCode`, but for a bundle that was destroyed. -/
inductive BundleErrorCode where
  | invalidBundle
  | unsupportedSpendingCondition
deriving DecidableEq

/-- `CashuBearerProofBundleError`. -/
structure BundleError where
  code : BundleErrorCode
  message : String
deriving DecidableEq

def invalidBundle : BundleError :=
  ⟨.invalidBundle, "Cashu bearer proof bundle is invalid."⟩

def unsupportedSpendingCondition : BundleError :=
  ⟨.unsupportedSpendingCondition,
    "Cashu bearer proof custody does not support spending conditions."⟩

/-- A `CashuBearerProofBundleV1`. -/
structure BearerProofBundle where
  invoiceId : InvoiceId
  mintUrl : MintUrl
  proofCount : Nat
  unit : String
  proofReferences : List CashuProofReference
  plaintext : BundleText
  initiallyValidated : Bool
deriving DecidableEq

/-- A proof as the bundle hands it out for a melt. -/
structure CashuBearerMeltInputText where
  C : String
  amount : Nat
  id : String
  secret : String
deriving DecidableEq

def BearerProofBundle.serializeForEncryption (bundle : BearerProofBundle) : BundleText :=
  bundle.plaintext

/-- The inputs that `withCashuBearerMeltInputsV1` hands out. -/
def BearerProofBundle.meltInputs (bundle : BearerProofBundle) : List CashuBearerMeltInputText :=
  bundle.plaintext.proofs.map fun proof =>
    { C := proof.signature
      amount := proof.amount
      id := proof.keysetId
      secret := proof.secret }

def StoredCashuBearerProof.reference (proof : StoredCashuBearerProof) : CashuProofReference where
  amount := proof.amount
  keysetId := proof.keysetId
  y := proof.y

def constructBundle (bundle : StoredCashuBearerProofBundle) (plaintext : BundleText)
    (initiallyValidated : Bool) : BearerProofBundle where
  invoiceId := bundle.invoiceId
  mintUrl := bundle.mintUrl
  proofCount := bundle.proofs.length
  unit := bundle.unit
  proofReferences := bundle.proofs.map (·.reference)
  plaintext
  initiallyValidated

def bundleFromStored (bundle : StoredCashuBearerProofBundle) (initiallyValidated : Bool) :
    Except BundleError BearerProofBundle := do
  let plaintext := encodeStoredBundle bundle
  ensure (plaintext.byteLength ≤ maxCashuBearerProofBundleBytes) invalidBundle
  return constructBundle bundle plaintext initiallyValidated

/-! ### The values of a proof -/

def isWellKnownSecret (cashuTs : CashuTs) (secret : String) : Bool :=
  match cashuTs.jsonParse secret with
  | some (.array [.string, .object]) => true
  | _ => false

def normalizeSecret (value : String) : Except BundleError String := do
  ensure (value ≠ "" ∧ value.utf8ByteSize ≤ maxProofSecretBytes) invalidBundle
  return value

def normalizeSignature (cashuTs : CashuTs) (value : String) : Except BundleError String := do
  let canonical := toLowerCase value
  ensure (secpPublicKeyPattern canonical = true) invalidBundle
  ensure (cashuTs.pointFromHex canonical = true) invalidBundle
  return canonical

/-! ### Making a bundle -/

structure CreateCashuBearerProofBundleInput where
  invoiceId : InvoiceId
  mintUrl : String
  proofReferences : List CashuProofReference
  proofs : List CashuProof
  unit : String
deriving DecidableEq

/-- The references that no proof has taken yet, and the proofs that have. -/
structure BundleScan where
  references : List CashuProofReference
  proofs : List StoredCashuBearerProof

/-- One more proof of a bundle, which takes the reference of its point. -/
def takeReference (cashuTs : CashuTs) (scan : BundleScan) (proof : CashuProof) :
    Except BundleError BundleScan := do
  ensure (proof.witness = none ∧ isWellKnownSecret cashuTs proof.secret = false)
    unsupportedSpendingCondition
  let secret ← normalizeSecret proof.secret
  let y := cashuTs.hashToCurve secret
  let reference ← orFail (scan.references.find? fun reference => reference.y = y) invalidBundle
  ensure (reference.amount = proof.amount ∧ reference.keysetId.val = proof.id) invalidBundle
  let signature ← normalizeSignature cashuTs proof.C
  return {
    references := scan.references.filter fun reference => reference.y ≠ y
    proofs := scan.proofs ++ [{
      amount := proof.amount
      keysetId := reference.keysetId
      secret
      signature
      y }] }

def createCashuBearerProofBundle (cashuTs : CashuTs) (input : CreateCashuBearerProofBundleInput) :
    Except BundleError BearerProofBundle := do
  ensure (input.proofs ≠ [] ∧ input.proofs.length = input.proofReferences.length) invalidBundle
  let mintUrl ← orFail (normalizeCashuMintUrl cashuTs input.mintUrl) invalidBundle
  ensure (IsPaymentUnit input.unit) invalidBundle
  ensure (input.proofReferences.map (·.y)).Nodup invalidBundle
  let scan ← input.proofs.foldlM (takeReference cashuTs) ⟨input.proofReferences, []⟩
  ensure (scan.references = []) invalidBundle
  bundleFromStored {
    invoiceId := input.invoiceId
    mintUrl
    proofs := scan.proofs.insertionSort fun left right => left.y.val ≤ right.y.val
    unit := input.unit } true

structure ValidatedCashuPaymentForCustody where
  bearerProofs : BearerProofBundle
  validation : ValidatedCashuPaymentProofs
deriving DecidableEq

/-- What `validateCashuPaymentProofsForCustodyV1` throws. -/
inductive CustodyValidationError where
  | proofs (error : PaymentProofsError)
  | bundle (error : BundleError)
deriving DecidableEq

def validateCashuPaymentProofsForCustody (cashuTs : CashuTs)
    (input : ValidateCashuPaymentProofsInput) :
    Except CustodyValidationError ValidatedCashuPaymentForCustody := do
  let validation ← (validateCashuPaymentProofs cashuTs input).mapError .proofs
  let (envelope, payload) ← (decodePaymentPayload cashuTs input.rawPayload).mapError .proofs
  let bearerProofs ← (createCashuBearerProofBundle cashuTs {
    invoiceId := envelope.invoiceId
    mintUrl := envelope.mintUrl
    proofReferences := validation.proofReferences
    proofs := payload.proofs
    unit := envelope.unit }).mapError .bundle
  return {
    bearerProofs
    validation }

/-! ### Restoring a bundle -/

instance : LawfulBEq CashuProofY :=
  inferInstance

/-- One proof of a text, whose point must be that of its secret and new. -/
def restoreProof (cashuTs : CashuTs) (proofs : List StoredCashuBearerProof)
    (proof : BearerProofText) : Except BundleError (List StoredCashuBearerProof) := do
  let secret ← normalizeSecret proof.secret
  ensure (isWellKnownSecret cashuTs secret = false) unsupportedSpendingCondition
  let y := cashuTs.hashToCurve secret
  let reference ← orFail (createCashuProofReference proof.amount proof.keysetId y) invalidBundle
  ensure (y.val = proof.y ∧ y ∉ proofs.map (·.y)) invalidBundle
  let signature ← normalizeSignature cashuTs proof.signature
  return proofs ++ [{
    amount := reference.amount
    keysetId := reference.keysetId
    secret
    signature
    y }]

def restoreInvoiceId (value : String) : Except BundleError InvoiceId :=
  if h : identifierPattern value = true then
    return ⟨value, h⟩
  else
    throw invalidBundle

def restoreCashuBearerProofBundle (cashuTs : CashuTs) (plaintext : BundleText) :
    Except BundleError BearerProofBundle := do
  ensure (plaintext.byteLength ≤ maxCashuBearerProofBundleBytes) invalidBundle
  ensure
    (plaintext.schemaVersion = cashuBearerProofBundleSchemaVersion ∧ plaintext.proofs ≠ [] ∧
      plaintext.proofs.length ≤ maxBundleProofs)
    invalidBundle
  let invoiceId ← restoreInvoiceId plaintext.invoiceId
  let mintUrl ← orFail (normalizeCashuMintUrl cashuTs plaintext.mintUrl) invalidBundle
  ensure (IsPaymentUnit plaintext.unit) invalidBundle
  let proofs ← plaintext.proofs.foldlM (restoreProof cashuTs) []
  ensure (∀ pair ∈ proofs.zip (proofs.drop 1), pair.1.y.val < pair.2.y.val) invalidBundle
  let bundle : StoredCashuBearerProofBundle := {
    invoiceId
    mintUrl
    proofs
    unit := plaintext.unit }
  let canonical := encodeStoredBundle bundle
  ensure (canonical = plaintext) invalidBundle
  return constructBundle bundle canonical false

end CashMesh.Acquirer
