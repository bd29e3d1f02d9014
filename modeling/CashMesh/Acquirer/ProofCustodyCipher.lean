import CashMesh.Acquirer.Types
import CashMesh.Lib.AuthenticatedEncryption
import CashMesh.Lib.FormUrlencoded
/-!
# The ciphers of the proof custody

The two ciphers that bearer proofs are kept under. The first takes its keys from a provider by their ids,
the second has a data key generated for each record, which the record holds wrapped. Both bind the record
to its key and to the custody it is for in the associated data. AES-256-GCM, SHA-256 and the providers
are parameters, and an answer of a provider that fails is an error without a value.
-/

namespace CashMesh.Acquirer

open CashMesh.Lib

abbrev Octets :=
  List UInt8

/-! ### Errors -/

inductive CashuProofCustodyCipherErrorCode where
  | encryptionFailed
  | integrityFailed
  | invalidCipherInput
  | keyUnavailable
deriving DecidableEq

structure CashuProofCustodyCipherError where
  code : CashuProofCustodyCipherErrorCode
  message : String
deriving DecidableEq

namespace CashuProofCustodyCipherError

def encryptionFailed : CashuProofCustodyCipherError :=
  ⟨.encryptionFailed, "Cashu bearer proof encryption failed."⟩

def integrityFailed : CashuProofCustodyCipherError :=
  ⟨.integrityFailed, "Cashu bearer proof ciphertext failed authentication."⟩

def invalidCipherInput : CashuProofCustodyCipherError :=
  ⟨.invalidCipherInput, "Cashu bearer proof cipher input is invalid."⟩

def keyUnavailable : CashuProofCustodyCipherError :=
  ⟨.keyUnavailable, "Cashu bearer proof encryption key is unavailable."⟩

end CashuProofCustodyCipherError

/-! ### Records -/

def cashuProofCustodyDataKeyBytes : Nat := 32
def cashuProofCustodyMaxWrappedDataKeyBytes : Nat := 16384
def cashuProofCustodyNonceBytes : Nat := 12
def cashuProofCustodyTagBytes : Nat := 16
def maxAadBytes : Nat := 4096
def maxCiphertextBytes : Nat := 65536

/-- A key object of the runtime. -/
inductive KeyObject where
  | secret (bytes : Octets)
  | asymmetric
deriving DecidableEq

/-- The size of a secret key, undefined for the others. -/
def KeyObject.symmetricKeySize : KeyObject → Option Nat
  | secret bytes => some bytes.length
  | asymmetric => none

structure CashuProofCustodyKey where
  key : KeyObject
  keyId : String
deriving DecidableEq

/-- A record of the algorithm `aes-256-gcm-v1`. -/
structure EncryptedCashuProofBundleV1 where
  authenticationTag : Octets
  ciphertext : Octets
  keyId : String
  nonce : Octets
deriving DecidableEq

/-- A record of the algorithm `aes-256-gcm-envelope-v2`. -/
structure EncryptedCashuProofBundleV2 where
  authenticationTag : Octets
  ciphertext : Octets
  dataKeyFingerprint : String
  keyId : String
  nonce : Octets
  wrappedDataKey : Octets
deriving DecidableEq

/-- A record, under the algorithm it names. -/
inductive EncryptedCashuProofBundle where
  | v1 (record : EncryptedCashuProofBundleV1)
  | v2 (record : EncryptedCashuProofBundleV2)
deriving DecidableEq

/-- AES-256-GCM with tags of 16 bytes. -/
abbrev Aes256Gcm :=
  Aead KeyObject Octets Octets Octets Octets Octets

def validateBytes (value : Octets) (minimum maximum : Nat) : Except CashuProofCustodyCipherError Unit :=
  ensure (minimum ≤ value.length ∧ value.length ≤ maximum) .invalidCipherInput

/-- `Buffer.from(text, "ascii")`: the low byte of each character. -/
def asciiBytes (text : String) : Octets :=
  text.toList.map fun c => UInt8.ofNat c.toNat

/-! ### The cipher with keys by their ids -/

/-- `validateKey`: the key as it was given. -/
def validateKey (value : CashuProofCustodyKey) :
    Except CashuProofCustodyCipherError CashuProofCustodyKey := do
  ensure (value.key.symmetricKeySize = some 32) .invalidCipherInput
  ensure (identifierPattern value.keyId = true) .invalidCipherInput
  return value

/-- `ENCRYPTION_CONTEXT` of the first version. -/
def encryptionContextV1 : Octets :=
  asciiBytes "cashmesh:cashu-proof-custody:v1" ++ [0]

def createBoundAadV1 (keyId : String) (aad : Octets) : Octets :=
  encryptionContextV1 ++ (asciiBytes keyId ++ 0 :: aad)

/-- `encrypt` of `Aes256GcmCashuProofCustodyCipher`. A provider that throws an error of the ciphers has it
passed on. -/
def encryptV1 (gcm : Aes256Gcm)
    (activeKey : Except (Option CashuProofCustodyCipherError) CashuProofCustodyKey)
    (randomBytes : Option Octets) (plaintext aad : Octets) :
    Except CashuProofCustodyCipherError EncryptedCashuProofBundleV1 := do
  validateBytes plaintext 1 maxCiphertextBytes
  validateBytes aad 1 maxAadBytes
  let active ← activeKey.mapError (·.getD .keyUnavailable)
  let key ← validateKey active
  let nonce ← orFail randomBytes .encryptionFailed
  ensure (nonce.length = cashuProofCustodyNonceBytes) .invalidCipherInput
  let (ciphertext, authenticationTag) :=
    gcm.encrypt key.key nonce (createBoundAadV1 key.keyId aad) plaintext
  return { authenticationTag, ciphertext, keyId := key.keyId, nonce }

def validateEncryptedRecordV1 (record : EncryptedCashuProofBundle) :
    Except CashuProofCustodyCipherError EncryptedCashuProofBundleV1 :=
  match record with
  | .v1 record => do
      ensure (identifierPattern record.keyId = true) .invalidCipherInput
      validateBytes record.nonce cashuProofCustodyNonceBytes cashuProofCustodyNonceBytes
      validateBytes record.authenticationTag cashuProofCustodyTagBytes cashuProofCustodyTagBytes
      validateBytes record.ciphertext 1 maxCiphertextBytes
      return record
  | .v2 _ => .error .invalidCipherInput

/-- `decrypt` of `Aes256GcmCashuProofCustodyCipher`. -/
def decryptV1 (gcm : Aes256Gcm) (findKey : String → Except Unit (Option CashuProofCustodyKey))
    (record : EncryptedCashuProofBundle) (aad : Octets) : Except CashuProofCustodyCipherError Octets := do
  let record ← validateEncryptedRecordV1 record
  validateBytes aad 1 maxAadBytes
  let found ← (findKey record.keyId).mapError fun _ => CashuProofCustodyCipherError.keyUnavailable
  let key ← orFail found .keyUnavailable
  let key ← (validateKey key).mapError fun _ => CashuProofCustodyCipherError.keyUnavailable
  ensure (key.keyId = record.keyId) .keyUnavailable
  orFail
    (gcm.decrypt key.key record.nonce (createBoundAadV1 record.keyId aad) record.ciphertext
      record.authenticationTag)
    .integrityFailed

/-! ### The cipher with wrapped data keys -/

/-- `createHash("sha256")`. -/
abbrev Sha256 :=
  Octets → Octets

structure GeneratedCashuProofCustodyDataKey where
  keyId : String
  plaintextDataKey : Octets
  wrappedDataKey : Octets
deriving DecidableEq

/-- `digest("hex")`, digit by digit. -/
def hexDigest (bytes : Octets) : String :=
  .ofList (bytes.flatMap fun byte =>
    [Nat.digitChar (byte.toNat / 16), Nat.digitChar (byte.toNat % 16)])

/-- `Buffer.from(text, "hex")`, which ends at the first pair that is none of digits. -/
def hexBytes : List Char → Octets
  | high :: low :: rest =>
      match hexDigitValue high, hexDigitValue low with
      | some h, some l => UInt8.ofNat (16 * h + l) :: hexBytes rest
      | _, _ => []
  | _ => []

/-- `FINGERPRINT_PATTERN`: `^[0-9a-f]{64}$`. -/
def dataKeyFingerprintPattern (text : String) : Bool :=
  text.toList.length == 64 && text.toList.all isLowerHex

/-- `containsBytes`: whether the candidate stands at some offset of the container. -/
def containsBytes (container candidate : Octets) : Bool :=
  decide (candidate.length ≤ container.length) &&
    (List.range (container.length - candidate.length + 1)).any fun offset =>
      candidate.isPrefixOf (container.drop offset)

def validateGeneratedDataKey (value : GeneratedCashuProofCustodyDataKey) :
    Except CashuProofCustodyCipherError GeneratedCashuProofCustodyDataKey := do
  ensure (identifierPattern value.keyId = true) .keyUnavailable
  ensure (value.plaintextDataKey.length = cashuProofCustodyDataKeyBytes) .keyUnavailable
  ensure
    (1 ≤ value.wrappedDataKey.length ∧
      value.wrappedDataKey.length ≤ cashuProofCustodyMaxWrappedDataKeyBytes)
    .keyUnavailable
  ensure (containsBytes value.wrappedDataKey value.plaintextDataKey = false) .keyUnavailable
  return value

/-- `ENCRYPTION_CONTEXT` of the envelopes. -/
def encryptionContextV2 : Octets :=
  asciiBytes "cashmesh:cashu-proof-custody:envelope:v2" ++ [0]

def wrappingContext : Octets :=
  asciiBytes "cashmesh:cashu-proof-custody:key-wrap:v2" ++ [0]

def createWrappingContext (sha256 : Sha256) (aad : Octets) : Octets :=
  sha256 (wrappingContext ++ aad)

def createBoundAadV2 (sha256 : Sha256) (keyId dataKeyFingerprint : String)
    (wrappedDataKey aad : Octets) : Octets :=
  encryptionContextV2 ++
    (asciiBytes keyId ++ 0 :: (asciiBytes dataKeyFingerprint ++ 0 :: (sha256 wrappedDataKey ++ aad)))

def createDataKeyFingerprint (sha256 : Sha256) (dataKey : Octets) : String :=
  hexDigest (sha256 dataKey)

def matchesDataKeyFingerprint (sha256 : Sha256) (dataKey : Octets) (expected : String) : Bool :=
  sha256 dataKey == hexBytes expected.toList

/-- `encrypt` of `EnvelopeAes256GcmCashuProofCustodyCipher`. -/
def encryptV2 (gcm : Aes256Gcm) (sha256 : Sha256)
    (generateDataKey : Octets → Except Unit GeneratedCashuProofCustodyDataKey)
    (randomBytes : Option Octets) (plaintext aad : Octets) :
    Except CashuProofCustodyCipherError EncryptedCashuProofBundleV2 := do
  validateBytes plaintext 1 maxCiphertextBytes
  validateBytes aad 1 maxAadBytes
  let generated ← (generateDataKey (createWrappingContext sha256 aad)).mapError fun _ =>
    CashuProofCustodyCipherError.keyUnavailable
  let validated ← validateGeneratedDataKey generated
  let dataKeyFingerprint := createDataKeyFingerprint sha256 validated.plaintextDataKey
  let nonce ← orFail randomBytes .encryptionFailed
  ensure (nonce.length = cashuProofCustodyNonceBytes) .invalidCipherInput
  let (ciphertext, authenticationTag) :=
    gcm.encrypt (.secret validated.plaintextDataKey) nonce
      (createBoundAadV2 sha256 validated.keyId dataKeyFingerprint validated.wrappedDataKey aad) plaintext
  return {
    authenticationTag
    ciphertext
    dataKeyFingerprint
    keyId := validated.keyId
    nonce
    wrappedDataKey := validated.wrappedDataKey }

def validateEncryptedRecordV2 (record : EncryptedCashuProofBundleV2) :
    Except CashuProofCustodyCipherError Unit := do
  ensure (dataKeyFingerprintPattern record.dataKeyFingerprint = true) .invalidCipherInput
  ensure (identifierPattern record.keyId = true) .invalidCipherInput
  validateBytes record.nonce cashuProofCustodyNonceBytes cashuProofCustodyNonceBytes
  validateBytes record.authenticationTag cashuProofCustodyTagBytes cashuProofCustodyTagBytes
  validateBytes record.ciphertext 1 maxCiphertextBytes
  validateBytes record.wrappedDataKey 1 cashuProofCustodyMaxWrappedDataKeyBytes

/-- `decrypt` of `EnvelopeAes256GcmCashuProofCustodyCipher`, which leaves the records of the first version
to the cipher it was given for them. -/
def decryptV2 (gcm : Aes256Gcm) (sha256 : Sha256)
    (unwrapDataKey : Octets → String → Octets → Except Unit Octets)
    (legacyCipher : Option
      (EncryptedCashuProofBundle → Octets → Except CashuProofCustodyCipherError Octets))
    (record : EncryptedCashuProofBundle) (aad : Octets) : Except CashuProofCustodyCipherError Octets :=
  match record with
  | .v1 _ => do
      let legacy ← orFail legacyCipher .keyUnavailable
      legacy record aad
  | .v2 envelope => do
      validateEncryptedRecordV2 envelope
      validateBytes aad 1 maxAadBytes
      let dataKey ← (unwrapDataKey (createWrappingContext sha256 aad) envelope.keyId
        envelope.wrappedDataKey).mapError fun _ => CashuProofCustodyCipherError.keyUnavailable
      ensure (dataKey.length = cashuProofCustodyDataKeyBytes) .keyUnavailable
      ensure (matchesDataKeyFingerprint sha256 dataKey envelope.dataKeyFingerprint = true)
        .integrityFailed
      orFail
        (gcm.decrypt (.secret dataKey) envelope.nonce
          (createBoundAadV2 sha256 envelope.keyId envelope.dataKeyFingerprint envelope.wrappedDataKey aad)
          envelope.ciphertext envelope.authenticationTag)
        .integrityFailed

end CashMesh.Acquirer
