import CashMesh.Acquirer.ProofCustodyCipher
/-!
# What the records of the custody open under

Under an ideal cipher and a hash without collisions, a record opens for the custody it was encrypted for
and yields what was encrypted, and no other record opens at all. The associated data tell the key, the
data key and the custody apart, and the two versions never share them.
-/

namespace CashMesh.Acquirer

open CashMesh.Lib

/-! ### Texts of one byte a character -/

/-- The characters of a text are bytes other than zero. -/
def ByteText (text : String) : Prop :=
  ∀ c ∈ text.toList, 0 < c.toNat ∧ c.toNat < 256

theorem byte_of_alphanum {c : Char} (h : c.isAlphanum = true) : 0 < c.toNat ∧ c.toNat < 256 := by
  have hval : c.toNat = c.val.toNat := rfl
  have hcases : (decide (c.val ≥ 'A'.val ∧ c.val ≤ 'Z'.val) ||
      (decide (c.val ≥ 'a'.val) && decide (c.val ≤ 'z'.val)) ||
        (decide (c.val ≥ '0'.val) && decide (c.val ≤ '9'.val))) = true := h
  simp only [Bool.or_eq_true, Bool.and_eq_true, decide_eq_true_eq, ge_iff_le,
    UInt32.le_iff_toNat_le] at hcases
  simp at hcases
  omega

theorem byteText_of_identifier {text : String} (h : identifierPattern text = true) : ByteText text := by
  unfold identifierPattern at h
  split at h
  · cases h
  · case h_2 first rest htext =>
    simp only [Bool.and_eq_true, decide_eq_true_eq, List.all_eq_true, Bool.or_eq_true, beq_iff_eq] at h
    obtain ⟨⟨hfirst, -⟩, hrest⟩ := h
    intro c hc
    rw [htext] at hc
    rcases List.mem_cons.mp hc with rfl | hmem
    · exact byte_of_alphanum hfirst
    · rcases hrest c hmem with (((halphanum | rfl) | rfl) | rfl) | rfl
      · exact byte_of_alphanum halphanum
      all_goals decide

theorem byteText_of_fingerprint {text : String} (h : dataKeyFingerprintPattern text = true) :
    ByteText text := by
  simp only [dataKeyFingerprintPattern, Bool.and_eq_true, List.all_eq_true] at h
  intro c hc
  have hhex := h.2 c hc
  have hval : c.toNat = c.val.toNat := rfl
  simp only [isLowerHex, Char.isDigit, Bool.or_eq_true, Bool.and_eq_true, decide_eq_true_eq, ge_iff_le,
    UInt32.le_iff_toNat_le, Char.le_def] at hhex
  simp at hhex
  omega

theorem zero_not_mem_asciiBytes {text : String} (h : ByteText text) : 0 ∉ asciiBytes text := by
  intro hmem
  obtain ⟨c, hc, hzero⟩ := List.mem_map.mp hmem
  obtain ⟨hpositive, hbyte⟩ := h c hc
  have hnat := congrArg UInt8.toNat hzero
  rw [UInt8.toNat_ofNat', Nat.mod_eq_of_lt hbyte] at hnat
  change c.toNat = 0 at hnat
  omega

theorem toList_of_asciiBytes {text : String} (h : ByteText text) :
    (asciiBytes text).map (fun byte => Char.ofNat byte.toNat) = text.toList := by
  rw [asciiBytes, List.map_map]
  have hsame : text.toList.map ((fun byte : UInt8 => Char.ofNat byte.toNat) ∘
      fun c : Char => UInt8.ofNat c.toNat) = text.toList.map id := by
    apply List.map_congr_left
    intro c hc
    show Char.ofNat (UInt8.ofNat c.toNat).toNat = c
    rw [UInt8.toNat_ofNat', Nat.mod_eq_of_lt (h c hc).2, Char.ofNat_toNat]
  rw [hsame, List.map_id]

theorem asciiBytes_inj {text text' : String} (h : ByteText text) (h' : ByteText text')
    (hsame : asciiBytes text = asciiBytes text') : text = text' := by
  apply String.toList_injective
  rw [← toList_of_asciiBytes h, ← toList_of_asciiBytes h', hsame]

/-! ### The associated data -/

theorem createBoundAadV1_inj {keyId keyId' : String} {aad aad' : Octets}
    (h : identifierPattern keyId = true) (h' : identifierPattern keyId' = true)
    (hsame : createBoundAadV1 keyId aad = createBoundAadV1 keyId' aad') : keyId = keyId' ∧ aad = aad' := by
  have hbytes := byteText_of_identifier h
  have hbytes' := byteText_of_identifier h'
  obtain ⟨hid, haad⟩ := append_terminator_inj (zero_not_mem_asciiBytes hbytes)
    (zero_not_mem_asciiBytes hbytes') (List.append_cancel_left hsame)
  exact ⟨asciiBytes_inj hbytes hbytes' hid, haad⟩

theorem createBoundAadV2_inj {sha256 : Sha256} {hashed : Set Octets}
    (hdigest : ∀ text, (sha256 text).length = 32) (hcollision : hashed.InjOn sha256)
    {keyId keyId' fingerprint fingerprint' : String} {wrapped wrapped' aad aad' : Octets}
    (hid : identifierPattern keyId = true) (hid' : identifierPattern keyId' = true)
    (hfingerprint : dataKeyFingerprintPattern fingerprint = true)
    (hfingerprint' : dataKeyFingerprintPattern fingerprint' = true)
    (hwrapped : wrapped ∈ hashed) (hwrapped' : wrapped' ∈ hashed)
    (hsame : createBoundAadV2 sha256 keyId fingerprint wrapped aad =
      createBoundAadV2 sha256 keyId' fingerprint' wrapped' aad') :
    keyId = keyId' ∧ fingerprint = fingerprint' ∧ wrapped = wrapped' ∧ aad = aad' := by
  have hidBytes := byteText_of_identifier hid
  have hidBytes' := byteText_of_identifier hid'
  have hprint := byteText_of_fingerprint hfingerprint
  have hprint' := byteText_of_fingerprint hfingerprint'
  obtain ⟨hsameId, hrest⟩ := append_terminator_inj (zero_not_mem_asciiBytes hidBytes)
    (zero_not_mem_asciiBytes hidBytes') (List.append_cancel_left hsame)
  obtain ⟨hsamePrint, hrest⟩ := append_terminator_inj (zero_not_mem_asciiBytes hprint)
    (zero_not_mem_asciiBytes hprint') hrest
  obtain ⟨hsameDigest, haad⟩ := List.append_inj hrest (by rw [hdigest, hdigest])
  exact ⟨asciiBytes_inj hidBytes hidBytes' hsameId, asciiBytes_inj hprint hprint' hsamePrint,
    hcollision hwrapped hwrapped' hsameDigest, haad⟩

/-- The contexts of the two versions differ in the byte after their common start. -/
theorem createBoundAad_disjoint {sha256 : Sha256} {keyId keyId' fingerprint : String}
    {aad wrapped aad' : Octets} :
    createBoundAadV1 keyId aad ≠ createBoundAadV2 sha256 keyId' fingerprint wrapped aad' := by
  intro hsame
  have hbyte := congrArg (fun bytes => bytes[29]?) hsame
  simp only [createBoundAadV1, createBoundAadV2] at hbyte
  rw [List.getElem?_append_left (by decide +kernel), List.getElem?_append_left (by decide +kernel)] at hbyte
  revert hbyte
  decide +kernel

/-! ### Encryptions -/

/-- An encryption of the first cipher that has taken place. -/
structure EncryptionV1 (gcm : Aes256Gcm) where
  key : CashuProofCustodyKey
  nonce : Octets
  plaintext : Octets
  aad : Octets
  record : EncryptedCashuProofBundleV1
  ran : encryptV1 gcm (.ok key) (some nonce) plaintext aad = .ok record

/-- An encryption of the envelope cipher that has taken place. -/
structure EncryptionV2 (gcm : Aes256Gcm) (sha256 : Sha256) where
  generated : GeneratedCashuProofCustodyDataKey
  nonce : Octets
  plaintext : Octets
  aad : Octets
  record : EncryptedCashuProofBundleV2
  ran : encryptV2 gcm sha256 (fun _ => .ok generated) (some nonce) plaintext aad = .ok record

def EncryptionV1.sealing {gcm : Aes256Gcm} (run : EncryptionV1 gcm) :
    Sealing KeyObject Octets Octets Octets :=
  ⟨run.key.key, run.nonce, createBoundAadV1 run.key.keyId run.aad, run.plaintext⟩

def EncryptionV2.fingerprint {gcm : Aes256Gcm} {sha256 : Sha256} (run : EncryptionV2 gcm sha256) :
    String :=
  createDataKeyFingerprint sha256 run.generated.plaintextDataKey

def EncryptionV2.sealing {gcm : Aes256Gcm} {sha256 : Sha256} (run : EncryptionV2 gcm sha256) :
    Sealing KeyObject Octets Octets Octets :=
  ⟨.secret run.generated.plaintextDataKey, run.nonce,
    createBoundAadV2 sha256 run.generated.keyId run.fingerprint run.generated.wrappedDataKey run.aad,
    run.plaintext⟩

/-- What an encryption of the first cipher was made of, and its record. -/
structure EncryptionV1.Made {gcm : Aes256Gcm} (run : EncryptionV1 gcm) : Prop where
  plaintext : 1 ≤ run.plaintext.length ∧ run.plaintext.length ≤ maxCiphertextBytes
  aad : 1 ≤ run.aad.length ∧ run.aad.length ≤ maxAadBytes
  key : run.key.key.symmetricKeySize = some 32
  keyId : identifierPattern run.key.keyId = true
  nonce : run.nonce.length = cashuProofCustodyNonceBytes
  record : run.record = {
    authenticationTag := (gcm.box run.sealing).2
    ciphertext := (gcm.box run.sealing).1
    keyId := run.key.keyId
    nonce := run.nonce }

theorem EncryptionV1.made {gcm : Aes256Gcm} (run : EncryptionV1 gcm) : run.Made := by
  have hran := run.ran
  simp only [encryptV1, validateBytes, validateKey, bind_eq_ok, ensure_eq_ok, exists_unit,
    mapError_eq_ok, orFail_eq_ok, pure_eq_ok, Except.ok.injEq] at hran
  obtain ⟨hplaintext, haad, active, rfl, key, ⟨hsize, hkeyId, rfl⟩, nonce, hnonce, hlength, hrecord⟩ :=
    hran
  obtain rfl := Option.some.inj hnonce
  exact ⟨hplaintext, haad, hsize, hkeyId, hlength, hrecord.symm⟩

/-- What an encryption of the envelope cipher was made of, and its record. -/
structure EncryptionV2.Made {gcm : Aes256Gcm} {sha256 : Sha256} (run : EncryptionV2 gcm sha256) :
    Prop where
  plaintext : 1 ≤ run.plaintext.length ∧ run.plaintext.length ≤ maxCiphertextBytes
  aad : 1 ≤ run.aad.length ∧ run.aad.length ≤ maxAadBytes
  keyId : identifierPattern run.generated.keyId = true
  dataKey : run.generated.plaintextDataKey.length = cashuProofCustodyDataKeyBytes
  wrapped : 1 ≤ run.generated.wrappedDataKey.length ∧
    run.generated.wrappedDataKey.length ≤ cashuProofCustodyMaxWrappedDataKeyBytes
  nonce : run.nonce.length = cashuProofCustodyNonceBytes
  record : run.record = {
    authenticationTag := (gcm.box run.sealing).2
    ciphertext := (gcm.box run.sealing).1
    dataKeyFingerprint := run.fingerprint
    keyId := run.generated.keyId
    nonce := run.nonce
    wrappedDataKey := run.generated.wrappedDataKey }

theorem EncryptionV2.made {gcm : Aes256Gcm} {sha256 : Sha256} (run : EncryptionV2 gcm sha256) :
    run.Made := by
  have hran := run.ran
  simp only [encryptV2, validateBytes, validateGeneratedDataKey, bind_eq_ok, ensure_eq_ok, exists_unit,
    mapError_eq_ok, orFail_eq_ok, pure_eq_ok, Except.ok.injEq] at hran
  obtain ⟨hplaintext, haad, generated, rfl, validated, ⟨hkeyId, hdataKey, hwrapped, -, rfl⟩, nonce,
    hnonce, hlength, hrecord⟩ := hran
  obtain rfl := Option.some.inj hnonce
  exact ⟨hplaintext, haad, hkeyId, hdataKey, hwrapped, hlength, hrecord.symm⟩

/-! ### Decryptions -/

/-- The record is of the sizes that the first cipher takes. -/
structure EncryptedCashuProofBundleV1.Sized (record : EncryptedCashuProofBundleV1) : Prop where
  keyId : identifierPattern record.keyId = true
  nonce : record.nonce.length = cashuProofCustodyNonceBytes
  authenticationTag : record.authenticationTag.length = cashuProofCustodyTagBytes
  ciphertext : 1 ≤ record.ciphertext.length ∧ record.ciphertext.length ≤ maxCiphertextBytes

/-- The record is of the sizes that the envelope cipher takes. -/
structure EncryptedCashuProofBundleV2.Sized (record : EncryptedCashuProofBundleV2) : Prop where
  dataKeyFingerprint : dataKeyFingerprintPattern record.dataKeyFingerprint = true
  keyId : identifierPattern record.keyId = true
  nonce : record.nonce.length = cashuProofCustodyNonceBytes
  authenticationTag : record.authenticationTag.length = cashuProofCustodyTagBytes
  ciphertext : 1 ≤ record.ciphertext.length ∧ record.ciphertext.length ≤ maxCiphertextBytes
  wrappedDataKey : 1 ≤ record.wrappedDataKey.length ∧
    record.wrappedDataKey.length ≤ cashuProofCustodyMaxWrappedDataKeyBytes

theorem validateEncryptedRecordV1_eq_ok {record bundle : EncryptedCashuProofBundleV1} :
    validateEncryptedRecordV1 (.v1 record) = .ok bundle ↔ record.Sized ∧ bundle = record := by
  simp only [validateEncryptedRecordV1, validateBytes, bind_eq_ok, ensure_eq_ok, exists_unit, pure_eq_ok,
    Except.ok.injEq]
  constructor
  · intro h
    obtain ⟨hkeyId, hnonce, htag, hciphertext, rfl⟩ := h
    exact ⟨⟨hkeyId, Nat.le_antisymm hnonce.2 hnonce.1, Nat.le_antisymm htag.2 htag.1, hciphertext⟩, rfl⟩
  · intro h
    obtain ⟨hsized, rfl⟩ := h
    exact ⟨hsized.keyId, ⟨hsized.nonce.ge, hsized.nonce.le⟩,
      ⟨hsized.authenticationTag.ge, hsized.authenticationTag.le⟩, hsized.ciphertext, rfl⟩

theorem validateEncryptedRecordV2_eq_ok {record : EncryptedCashuProofBundleV2} :
    validateEncryptedRecordV2 record = .ok () ↔ record.Sized := by
  simp only [validateEncryptedRecordV2, validateBytes, bind_eq_ok, ensure_eq_ok, exists_unit]
  constructor
  · intro h
    obtain ⟨hfingerprint, hkeyId, hnonce, htag, hciphertext, hwrapped⟩ := h
    exact ⟨hfingerprint, hkeyId, Nat.le_antisymm hnonce.2 hnonce.1, Nat.le_antisymm htag.2 htag.1,
      hciphertext, hwrapped⟩
  · intro h
    exact ⟨h.dataKeyFingerprint, h.keyId, ⟨h.nonce.ge, h.nonce.le⟩,
      ⟨h.authenticationTag.ge, h.authenticationTag.le⟩, h.ciphertext, h.wrappedDataKey⟩

section Decrypt

variable {gcm : Aes256Gcm} {aad plaintext : Octets}

theorem decryptV1_eq_ok {findKey : String → Except Unit (Option CashuProofCustodyKey)}
    {record : EncryptedCashuProofBundleV1} :
    decryptV1 gcm findKey (.v1 record) aad = .ok plaintext ↔
      record.Sized ∧ (1 ≤ aad.length ∧ aad.length ≤ maxAadBytes) ∧
        ∃ key, findKey record.keyId = .ok (some key) ∧ validateKey key = .ok key ∧
          key.keyId = record.keyId ∧
          gcm.decrypt key.key record.nonce (createBoundAadV1 record.keyId aad) record.ciphertext
            record.authenticationTag = some plaintext := by
  have hvalidate : ∀ {key valid : CashuProofCustodyKey}, validateKey key = .ok valid → valid = key := by
    intro key valid h
    simp only [validateKey, bind_eq_ok, ensure_eq_ok, exists_unit, pure_eq_ok, Except.ok.injEq] at h
    exact h.2.2.symm
  simp only [decryptV1, validateBytes, bind_eq_ok, ensure_eq_ok, exists_unit, mapError_eq_ok, orFail_eq_ok,
    validateEncryptedRecordV1_eq_ok]
  constructor
  · intro h
    obtain ⟨bundle, ⟨hsized, rfl⟩, haad, found, hfind, key, rfl, valid, hvalid, hkeyId, hopen⟩ := h
    obtain rfl := hvalidate hvalid
    exact ⟨hsized, haad, valid, hfind, hvalid, hkeyId, hopen⟩
  · intro h
    obtain ⟨hsized, haad, key, hfind, hvalid, hkeyId, hopen⟩ := h
    exact ⟨record, ⟨hsized, rfl⟩, haad, some key, hfind, key, rfl, key, hvalid, hkeyId, hopen⟩

theorem decryptV1_v2 {findKey : String → Except Unit (Option CashuProofCustodyKey)}
    {record : EncryptedCashuProofBundleV2} :
    decryptV1 gcm findKey (.v2 record) aad = .error .invalidCipherInput :=
  rfl

theorem decryptV2_eq_ok {sha256 : Sha256} {unwrapDataKey : Octets → String → Octets → Except Unit Octets}
    {legacyCipher : Option
      (EncryptedCashuProofBundle → Octets → Except CashuProofCustodyCipherError Octets)}
    {record : EncryptedCashuProofBundleV2} :
    decryptV2 gcm sha256 unwrapDataKey legacyCipher (.v2 record) aad = .ok plaintext ↔
      record.Sized ∧ (1 ≤ aad.length ∧ aad.length ≤ maxAadBytes) ∧
        ∃ dataKey, unwrapDataKey (createWrappingContext sha256 aad) record.keyId record.wrappedDataKey =
            .ok dataKey ∧
          dataKey.length = cashuProofCustodyDataKeyBytes ∧
          matchesDataKeyFingerprint sha256 dataKey record.dataKeyFingerprint = true ∧
          gcm.decrypt (.secret dataKey) record.nonce
            (createBoundAadV2 sha256 record.keyId record.dataKeyFingerprint record.wrappedDataKey aad)
            record.ciphertext record.authenticationTag = some plaintext := by
  simp only [decryptV2, validateBytes, bind_eq_ok, ensure_eq_ok, exists_unit, mapError_eq_ok, orFail_eq_ok,
    validateEncryptedRecordV2_eq_ok]

end Decrypt

/-! ### Fingerprints of data keys -/

theorem hexBytes_hexDigest (bytes : Octets) : hexBytes (hexDigest bytes).toList = bytes := by
  have hdigit : ∀ n < 16, hexDigitValue (Nat.digitChar n) = some n := by decide
  rw [hexDigest, String.toList_ofList]
  induction bytes with
  | nil => rfl
  | cons byte bytes ih =>
    have hlt : byte.toNat < 256 := byte.toNat_lt
    rw [List.flatMap_cons, List.cons_append, List.cons_append, List.nil_append, hexBytes,
      hdigit _ (by omega), hdigit _ (by omega)]
    have hbyte : 16 * (byte.toNat / 16) + byte.toNat % 16 = byte.toNat := by omega
    simp only [hbyte, UInt8.ofNat_toNat, ih]

theorem fingerprint_pattern {sha256 : Sha256} (hdigest : ∀ text, (sha256 text).length = 32)
    (dataKey : Octets) :
    dataKeyFingerprintPattern (createDataKeyFingerprint sha256 dataKey) = true := by
  have hhex : ∀ n < 16, isLowerHex (Nat.digitChar n) = true := by decide
  have hlength : ∀ bytes : Octets, (bytes.flatMap fun byte =>
      [Nat.digitChar (byte.toNat / 16), Nat.digitChar (byte.toNat % 16)]).length = 2 * bytes.length := by
    intro bytes
    induction bytes with
    | nil => rfl
    | cons byte bytes ih =>
      rw [List.flatMap_cons, List.length_append, ih, List.length_cons, List.length_cons, List.length_nil,
        List.length_cons]
      omega
  rw [dataKeyFingerprintPattern, createDataKeyFingerprint, hexDigest, String.toList_ofList, hlength,
    hdigest, Bool.and_eq_true]
  refine ⟨rfl, List.all_eq_true.mpr ?_⟩
  intro c hc
  obtain ⟨byte, -, hdigits⟩ := List.mem_flatMap.mp hc
  have hlt : byte.toNat < 256 := byte.toNat_lt
  rcases List.mem_cons.mp hdigits with rfl | hlow
  · exact hhex _ (by omega)
  · rw [List.mem_singleton.mp hlow]
    exact hhex _ (by omega)

theorem matchesDataKeyFingerprint_self {sha256 : Sha256} (dataKey : Octets) :
    matchesDataKeyFingerprint sha256 dataKey (createDataKeyFingerprint sha256 dataKey) = true := by
  rw [matchesDataKeyFingerprint, createDataKeyFingerprint, hexBytes_hexDigest]
  exact beq_self_eq_true _

/-! ### The encryptions that have taken place -/

/-- What the ciphers rest on, and the encryptions that have taken place with it. -/
structure CustodyWorld where
  gcm : Aes256Gcm
  sha256 : Sha256
  findKey : String → Except Unit (Option CashuProofCustodyKey)
  unwrapDataKey : Octets → String → Octets → Except Unit Octets
  v1 : Set (EncryptionV1 gcm)
  v2 : Set (EncryptionV2 gcm sha256)
  /-- The wrapped keys that are ever hashed. -/
  hashed : Set Octets

/-- The cipher is ideal for the encryptions of both versions, the hash has no collisions among what is
hashed, and the providers give the same key for the same key id or wrapped key. -/
structure CustodyWorld.Assumed (w : CustodyWorld) : Prop where
  ideal : w.gcm.Ideal (EncryptionV1.sealing '' w.v1 ∪ EncryptionV2.sealing '' w.v2)
  bodySize : ∀ key nonce data text, (w.gcm.encrypt key nonce data text).1.length = text.length
  tagSize : ∀ key nonce data text,
    (w.gcm.encrypt key nonce data text).2.length = cashuProofCustodyTagBytes
  digestSize : ∀ text, (w.sha256 text).length = 32
  collisionFree : w.hashed.InjOn w.sha256
  wrappedHashed : ∀ run ∈ w.v2, run.generated.wrappedDataKey ∈ w.hashed
  sameKey : ∀ run ∈ w.v1, w.findKey run.key.keyId = .ok (some run.key)
  sameDataKey : ∀ run ∈ w.v2,
    w.unwrapDataKey (createWrappingContext w.sha256 run.aad) run.generated.keyId
      run.generated.wrappedDataKey = .ok run.generated.plaintextDataKey

namespace CustodyWorld

variable (w : CustodyWorld)

/-- Some encryption of the first cipher has made the record of the plaintext for the custody. -/
def MadeV1 (record : EncryptedCashuProofBundle) (aad plaintext : Octets) : Prop :=
  ∃ run ∈ w.v1, record = .v1 run.record ∧ aad = run.aad ∧ plaintext = run.plaintext

/-- Some encryption of the envelope cipher has made the record of the plaintext for the custody. -/
def MadeV2 (record : EncryptedCashuProofBundle) (aad plaintext : Octets) : Prop :=
  ∃ run ∈ w.v2, record = .v2 run.record ∧ aad = run.aad ∧ plaintext = run.plaintext

variable {w} (h : w.Assumed)

include h

theorem sized_v1 (run : EncryptionV1 w.gcm) : run.record.Sized := by
  have hmade := run.made
  rw [hmade.record]
  constructor
  case keyId => exact hmade.keyId
  case nonce => exact hmade.nonce
  case authenticationTag => exact h.tagSize _ _ _ _
  case ciphertext =>
    show 1 ≤ (w.gcm.encrypt _ _ _ _).1.length ∧ (w.gcm.encrypt _ _ _ _).1.length ≤ _
    rw [h.bodySize]
    exact hmade.plaintext

theorem sized_v2 (run : EncryptionV2 w.gcm w.sha256) : run.record.Sized := by
  have hmade := run.made
  rw [hmade.record]
  constructor
  case dataKeyFingerprint => exact fingerprint_pattern h.digestSize _
  case keyId => exact hmade.keyId
  case nonce => exact hmade.nonce
  case authenticationTag => exact h.tagSize _ _ _ _
  case ciphertext =>
    show 1 ≤ (w.gcm.encrypt _ _ _ _).1.length ∧ (w.gcm.encrypt _ _ _ _).1.length ≤ _
    rw [h.bodySize]
    exact hmade.plaintext
  case wrappedDataKey => exact hmade.wrapped

theorem made_of_open_v1 {key : KeyObject} {keyId : String} {nonce aad body tag plaintext : Octets}
    (hkeyId : identifierPattern keyId = true)
    (hopen : w.gcm.decrypt key nonce (createBoundAadV1 keyId aad) body tag = some plaintext) :
    w.MadeV1 (.v1 ⟨tag, body, keyId, nonce⟩) aad plaintext := by
  obtain ⟨sealing, hdone, hsealing, hbox⟩ := h.ideal.decrypt_eq_some_iff.mp hopen
  rcases hdone with ⟨run, hrun, rfl⟩ | ⟨run, hrun, rfl⟩
  · obtain ⟨-, hnonce, hdata, hplaintext⟩ := Sealing.mk.inj hsealing
    obtain ⟨hid, haad⟩ := createBoundAadV1_inj run.made.keyId hkeyId hdata
    refine ⟨run, hrun, ?_, haad.symm, hplaintext.symm⟩
    rw [run.made.record, hbox, hid, hnonce]
  · exact absurd (Sealing.mk.inj hsealing).2.2.1.symm createBoundAad_disjoint

theorem made_of_open_v2 {key : KeyObject} {keyId fingerprint : String}
    {nonce wrapped aad body tag plaintext : Octets} (hkeyId : identifierPattern keyId = true)
    (hfingerprint : dataKeyFingerprintPattern fingerprint = true) (hwrapped : wrapped ∈ w.hashed)
    (hopen : w.gcm.decrypt key nonce (createBoundAadV2 w.sha256 keyId fingerprint wrapped aad) body tag =
      some plaintext) :
    w.MadeV2 (.v2 ⟨tag, body, fingerprint, keyId, nonce, wrapped⟩) aad plaintext := by
  obtain ⟨sealing, hdone, hsealing, hbox⟩ := h.ideal.decrypt_eq_some_iff.mp hopen
  rcases hdone with ⟨run, hrun, rfl⟩ | ⟨run, hrun, rfl⟩
  · exact absurd (Sealing.mk.inj hsealing).2.2.1 createBoundAad_disjoint
  · obtain ⟨-, hnonce, hdata, hplaintext⟩ := Sealing.mk.inj hsealing
    obtain ⟨hid, hprint, hkey, haad⟩ := createBoundAadV2_inj h.digestSize h.collisionFree run.made.keyId
      hkeyId (fingerprint_pattern h.digestSize _) hfingerprint (h.wrappedHashed run hrun) hwrapped hdata
    refine ⟨run, hrun, ?_, haad.symm, hplaintext.symm⟩
    rw [run.made.record, hbox, hid, hnonce, hkey]
    rw [EncryptionV2.fingerprint, hprint]

theorem decryptV1_iff (record : EncryptedCashuProofBundle) (aad plaintext : Octets) :
    decryptV1 w.gcm w.findKey record aad = .ok plaintext ↔ w.MadeV1 record aad plaintext := by
  constructor
  · intro hopen
    cases record with
    | v2 record =>
      rw [decryptV1_v2] at hopen
      cases hopen
    | v1 record =>
      obtain ⟨hsized, -, key, -, -, -, hbox⟩ := decryptV1_eq_ok.mp hopen
      exact made_of_open_v1 h hsized.keyId hbox
  · intro hmade
    obtain ⟨run, hrun, rfl, rfl, rfl⟩ := hmade
    have hrecord := run.made.record
    have hvalid : validateKey run.key = .ok run.key := by
      simp only [validateKey, bind_eq_ok, ensure_eq_ok, exists_unit, pure_eq_ok, and_true]
      exact ⟨run.made.key, run.made.keyId⟩
    have hopens := h.ideal.opens run.sealing (.inl (Set.mem_image_of_mem _ hrun))
    apply decryptV1_eq_ok.mpr
    refine ⟨sized_v1 h run, run.made.aad, run.key, ?_, hvalid, by rw [hrecord], ?_⟩
    · rw [hrecord]
      exact h.sameKey run hrun
    · rw [hrecord]
      exact hopens

/-- The envelope cipher opens the records of its own encryptions, and those of the first cipher when it
was given that. -/
theorem decryptV2_iff
    {legacy : Option (EncryptedCashuProofBundle → Octets → Except CashuProofCustodyCipherError Octets)}
    (hlegacy : ∀ cipher ∈ legacy, cipher = decryptV1 w.gcm w.findKey)
    {record : EncryptedCashuProofBundle}
    (hhashed : ∀ envelope, record = .v2 envelope → envelope.wrappedDataKey ∈ w.hashed)
    (aad plaintext : Octets) :
    decryptV2 w.gcm w.sha256 w.unwrapDataKey legacy record aad = .ok plaintext ↔
      (legacy.isSome ∧ w.MadeV1 record aad plaintext) ∨ w.MadeV2 record aad plaintext := by
  cases record with
  | v1 record =>
    have hother : ¬w.MadeV2 (.v1 record) aad plaintext := by
      intro hmade
      obtain ⟨run, -, hrecord, -⟩ := hmade
      cases hrecord
    cases legacy with
    | none =>
      have hrefused : decryptV2 w.gcm w.sha256 w.unwrapDataKey none (.v1 record) aad =
          .error .keyUnavailable := rfl
      rw [hrefused]
      simp [hother]
    | some cipher =>
      obtain rfl := hlegacy cipher rfl
      have hsame : decryptV2 w.gcm w.sha256 w.unwrapDataKey (some (decryptV1 w.gcm w.findKey))
          (.v1 record) aad = decryptV1 w.gcm w.findKey (.v1 record) aad := rfl
      rw [hsame, decryptV1_iff h]
      simp [hother]
  | v2 record =>
    have hother : ¬w.MadeV1 (.v2 record) aad plaintext := by
      intro hmade
      obtain ⟨run, -, hrecord, -⟩ := hmade
      cases hrecord
    constructor
    · intro hopen
      obtain ⟨hsized, -, dataKey, -, -, -, hbox⟩ := decryptV2_eq_ok.mp hopen
      exact .inr (made_of_open_v2 h hsized.keyId hsized.dataKeyFingerprint (hhashed record rfl) hbox)
    · intro hmade
      rcases hmade with hmade | ⟨run, hrun, hrecord, rfl, rfl⟩
      · exact absurd hmade.2 hother
      · obtain rfl := EncryptedCashuProofBundle.v2.inj hrecord
        have hrecord := run.made.record
        have hopens := h.ideal.opens run.sealing (.inr (Set.mem_image_of_mem _ hrun))
        apply decryptV2_eq_ok.mpr
        refine ⟨sized_v2 h run, run.made.aad, run.generated.plaintextDataKey, ?_, run.made.dataKey, ?_, ?_⟩
        · rw [hrecord]
          exact h.sameDataKey run hrun
        · rw [hrecord]
          exact matchesDataKeyFingerprint_self _
        · rw [hrecord]
          exact hopens

/-- The record of an encryption tells what it was made of. -/
theorem made_unique {record : EncryptedCashuProofBundle} {aad aad' plaintext plaintext' : Octets}
    (hmade : w.MadeV1 record aad plaintext ∨ w.MadeV2 record aad plaintext)
    (hmade' : w.MadeV1 record aad' plaintext' ∨ w.MadeV2 record aad' plaintext') :
    aad = aad' ∧ plaintext = plaintext' := by
  rcases hmade with ⟨run, hrun, rfl, rfl, rfl⟩ | ⟨run, hrun, rfl, rfl, rfl⟩
  · rcases hmade' with ⟨run', hrun', hsame, rfl, rfl⟩ | ⟨run', -, hsame, -⟩
    · have hrecord := EncryptedCashuProofBundle.v1.inj hsame
      rw [run.made.record, run'.made.record] at hrecord
      obtain ⟨htag, hbody, -, -⟩ := EncryptedCashuProofBundleV1.mk.inj hrecord
      have hsealing := h.ideal.distinct (.inl (Set.mem_image_of_mem _ hrun))
        (.inl (Set.mem_image_of_mem _ hrun')) (Prod.ext hbody htag)
      obtain ⟨-, -, hdata, hplaintext⟩ := Sealing.mk.inj hsealing
      exact ⟨(createBoundAadV1_inj run.made.keyId run'.made.keyId hdata).2, hplaintext⟩
    · cases hsame
  · rcases hmade' with ⟨run', -, hsame, -⟩ | ⟨run', hrun', hsame, rfl, rfl⟩
    · cases hsame
    · have hrecord := EncryptedCashuProofBundle.v2.inj hsame
      rw [run.made.record, run'.made.record] at hrecord
      obtain ⟨htag, hbody, -, -, -, -⟩ := EncryptedCashuProofBundleV2.mk.inj hrecord
      have hsealing := h.ideal.distinct (.inr (Set.mem_image_of_mem _ hrun))
        (.inr (Set.mem_image_of_mem _ hrun')) (Prod.ext hbody htag)
      obtain ⟨-, -, hdata, hplaintext⟩ := Sealing.mk.inj hsealing
      obtain ⟨-, -, -, haad⟩ := createBoundAadV2_inj h.digestSize h.collisionFree run.made.keyId
        run'.made.keyId (fingerprint_pattern h.digestSize _) (fingerprint_pattern h.digestSize _)
        (h.wrappedHashed run hrun) (h.wrappedHashed run' hrun') hdata
      exact ⟨haad, hplaintext⟩

omit h in
/-- The record may have been changed, but not exchanged for that of another encryption. -/
def Changed (w : CustodyWorld) (kept record : EncryptedCashuProofBundle) : Prop :=
  ∀ aad plaintext, w.MadeV1 record aad plaintext ∨ w.MadeV2 record aad plaintext → record = kept

/-- A plaintext is got back from a record exactly when it is the unchanged one of its encryption, opened
for the same custody. -/
theorem made_iff_unchanged {kept record : EncryptedCashuProofBundle} {aad aad' plaintext : Octets}
    (hkept : w.MadeV1 kept aad plaintext ∨ w.MadeV2 kept aad plaintext) (hchanged : w.Changed kept record) :
    (w.MadeV1 record aad' plaintext ∨ w.MadeV2 record aad' plaintext) ↔ aad' = aad ∧ record = kept := by
  constructor
  · intro hmade
    have hsame := hchanged aad' plaintext hmade
    rw [hsame] at hmade
    exact ⟨(made_unique h hmade hkept).1, hsame⟩
  · intro hsame
    obtain ⟨rfl, rfl⟩ := hsame
    exact hkept

end CustodyWorld

/-- Both ciphers open exactly the records of the encryptions that have taken place, each for the custody
it was made for and with the plaintext it was made of; a record that was changed does not give it; and the
associated data tell all of their components and the two versions apart. -/
theorem custody_records_bound {w : CustodyWorld} (h : w.Assumed) :
    (∀ record aad plaintext,
      decryptV1 w.gcm w.findKey record aad = .ok plaintext ↔ w.MadeV1 record aad plaintext) ∧
    (∀ legacy, (∀ cipher ∈ legacy, cipher = decryptV1 w.gcm w.findKey) →
      ∀ record, (∀ envelope, record = .v2 envelope → envelope.wrappedDataKey ∈ w.hashed) →
      ∀ aad plaintext,
        decryptV2 w.gcm w.sha256 w.unwrapDataKey legacy record aad = .ok plaintext ↔
          (legacy.isSome ∧ w.MadeV1 record aad plaintext) ∨ w.MadeV2 record aad plaintext) ∧
    (∀ run ∈ w.v1, ∀ record, w.Changed (.v1 run.record) record → ∀ aad,
      decryptV1 w.gcm w.findKey record aad = .ok run.plaintext ↔
        aad = run.aad ∧ record = .v1 run.record) ∧
    (∀ run ∈ w.v2, ∀ record, w.Changed (.v2 run.record) record →
      (∀ envelope, record = .v2 envelope → envelope.wrappedDataKey ∈ w.hashed) → ∀ aad,
        decryptV2 w.gcm w.sha256 w.unwrapDataKey (some (decryptV1 w.gcm w.findKey)) record aad =
            .ok run.plaintext ↔
          aad = run.aad ∧ record = .v2 run.record) ∧
    (∀ keyId keyId' : Identifier, ∀ aad aad',
      createBoundAadV1 keyId.val aad = createBoundAadV1 keyId'.val aad' → keyId = keyId' ∧ aad = aad') ∧
    (∀ keyId keyId' : Identifier, ∀ fingerprint fingerprint', dataKeyFingerprintPattern fingerprint = true →
      dataKeyFingerprintPattern fingerprint' = true → ∀ wrapped ∈ w.hashed, ∀ wrapped' ∈ w.hashed,
      ∀ aad aad', createBoundAadV2 w.sha256 keyId.val fingerprint wrapped aad =
          createBoundAadV2 w.sha256 keyId'.val fingerprint' wrapped' aad' →
        keyId = keyId' ∧ fingerprint = fingerprint' ∧ wrapped = wrapped' ∧ aad = aad') ∧
    ∀ keyId aad keyId' fingerprint wrapped aad',
      createBoundAadV1 keyId aad ≠ createBoundAadV2 w.sha256 keyId' fingerprint wrapped aad' := by
  refine ⟨CustodyWorld.decryptV1_iff h, fun legacy hlegacy record hhashed =>
    CustodyWorld.decryptV2_iff h hlegacy hhashed, ?_, ?_, ?_, ?_, ?_⟩
  · intro run hrun record hchanged aad
    have hkept : w.MadeV1 (.v1 run.record) run.aad run.plaintext := ⟨run, hrun, rfl, rfl, rfl⟩
    rw [CustodyWorld.decryptV1_iff h]
    constructor
    · intro hmade
      exact (CustodyWorld.made_iff_unchanged h (.inl hkept) hchanged).mp (.inl hmade)
    · intro hsame
      obtain ⟨rfl, rfl⟩ := hsame
      exact hkept
  · intro run hrun record hchanged hhashed aad
    have hkept : w.MadeV2 (.v2 run.record) run.aad run.plaintext := ⟨run, hrun, rfl, rfl, rfl⟩
    rw [CustodyWorld.decryptV2_iff h (by intro cipher hcipher; exact (Option.some.inj hcipher).symm) hhashed]
    rw [Option.isSome_some, eq_self, true_and]
    exact CustodyWorld.made_iff_unchanged h (.inr hkept) hchanged
  · intro keyId keyId' aad aad' hsame
    obtain ⟨hid, haad⟩ := createBoundAadV1_inj keyId.property keyId'.property hsame
    exact ⟨Subtype.ext hid, haad⟩
  · intro keyId keyId' fingerprint fingerprint' hprint hprint' wrapped hwrapped wrapped' hwrapped' aad aad'
      hsame
    obtain ⟨hid, hrest⟩ := createBoundAadV2_inj h.digestSize h.collisionFree keyId.property
      keyId'.property hprint hprint' hwrapped hwrapped' hsame
    exact ⟨Subtype.ext hid, hrest⟩
  · intro keyId aad keyId' fingerprint wrapped aad'
    exact createBoundAad_disjoint

/-! ### One record of each version -/

namespace CustodySample

def keyBytes : Octets :=
  (List.range 32).map UInt8.ofNat

def dataKey : Octets :=
  (List.range 32).map fun n => UInt8.ofNat (32 + n)

def wrapped : Octets :=
  [7, 7, 7, 7]

def nonceV1 : Octets :=
  (List.range 12).map fun n => UInt8.ofNat (100 + n)

def nonceV2 : Octets :=
  (List.range 12).map fun n => UInt8.ofNat (50 + n)

def aad : Octets :=
  (List.range 32).map fun n => UInt8.ofNat (200 + n)

def plaintext : Octets :=
  asciiBytes "bearer"

def dataKeyDigest : Octets :=
  [114, 219, 183, 51, 108, 118, 120, 0, 35, 248, 61, 164, 195, 85, 242, 238, 234, 133, 115, 59, 19, 211,
    71, 118, 151, 145, 119, 144, 193, 34, 144, 132]

def wrappedDigest : Octets :=
  [180, 81, 216, 167, 204, 109, 239, 222, 156, 176, 90, 11, 220, 11, 19, 233, 192, 24, 96, 71, 157, 134,
    252, 231, 219, 77, 9, 62, 7, 147, 179, 73]

def wrappingDigest : Octets :=
  [186, 45, 30, 107, 12, 84, 67, 245, 236, 166, 181, 77, 112, 218, 159, 145, 201, 141, 214, 28, 245, 110,
    72, 247, 196, 218, 106, 250, 76, 77, 235, 13]

/-- The digests of what the sample hashes. -/
def sha256 (text : Octets) : Octets :=
  if text = dataKey then dataKeyDigest
  else if text = wrapped then wrappedDigest
  else if text = wrappingContext ++ aad then wrappingDigest
  else List.replicate 32 0

def boundV1 : Octets :=
  createBoundAadV1 "custody-1" aad

def boundV2 : Octets :=
  createBoundAadV2 sha256 "wrapping-1" (createDataKeyFingerprint sha256 dataKey) wrapped aad

def boxV1 : Octets × Octets :=
  ([42, 126, 191, 20, 28, 155],
    [187, 1, 189, 32, 38, 176, 72, 3, 118, 239, 226, 135, 91, 98, 219, 182])

def boxV2 : Octets × Octets :=
  ([5, 190, 5, 250, 59, 239],
    [137, 163, 39, 125, 246, 128, 87, 255, 113, 144, 74, 225, 20, 254, 45, 188])

/-- The two boxes of the sample, as the cipher makes them. -/
def gcm : Aes256Gcm where
  encrypt key nonce data text :=
    if (key, nonce, data, text) = (.secret keyBytes, nonceV1, boundV1, plaintext) then boxV1
    else if (key, nonce, data, text) = (.secret dataKey, nonceV2, boundV2, plaintext) then boxV2
    else (text, List.replicate 16 0)
  decrypt key nonce data body tag :=
    if (key, nonce, data, (body, tag)) = (.secret keyBytes, nonceV1, boundV1, boxV1) then some plaintext
    else if (key, nonce, data, (body, tag)) = (.secret dataKey, nonceV2, boundV2, boxV2) then
      some plaintext
    else none

def key : CashuProofCustodyKey :=
  ⟨.secret keyBytes, "custody-1"⟩

def generated : GeneratedCashuProofCustodyDataKey :=
  ⟨"wrapping-1", dataKey, wrapped⟩

def runV1 : EncryptionV1 gcm where
  key
  nonce := nonceV1
  plaintext
  aad
  record := ⟨boxV1.2, boxV1.1, "custody-1", nonceV1⟩
  ran := by decide +kernel

def runV2 : EncryptionV2 gcm sha256 where
  generated
  nonce := nonceV2
  plaintext
  aad
  record := ⟨boxV2.2, boxV2.1, createDataKeyFingerprint sha256 dataKey, "wrapping-1", nonceV2, wrapped⟩
  ran := by decide +kernel

def world : CustodyWorld where
  gcm
  sha256
  findKey keyId := .ok (if keyId = "custody-1" then some key else none)
  unwrapDataKey context keyId wrappedKey :=
    if context = wrappingDigest ∧ keyId = "wrapping-1" ∧ wrappedKey = wrapped then .ok dataKey
    else .error ()
  v1 := {runV1}
  v2 := {runV2}
  hashed := {wrapped}

theorem done_iff {sealing : Sealing KeyObject Octets Octets Octets} :
    sealing ∈ EncryptionV1.sealing '' world.v1 ∪ EncryptionV2.sealing '' world.v2 ↔
      sealing = runV1.sealing ∨ sealing = runV2.sealing := by
  simp [world, or_comm]

theorem ideal : gcm.Ideal (EncryptionV1.sealing '' world.v1 ∪ EncryptionV2.sealing '' world.v2) where
  opens sealing hdone := by
    rcases done_iff.mp hdone with rfl | rfl
    · decide +kernel
    · decide +kernel
  authentic key nonce data body tag text hopen := by
    rw [done_iff]
    simp only [gcm] at hopen
    split at hopen
    · case isTrue hsame =>
      simp only [Prod.mk.injEq] at hsame
      obtain ⟨rfl, rfl, rfl, hbox⟩ := hsame
      obtain rfl := Option.some.inj hopen
      rw [hbox]
      exact ⟨.inl rfl, by decide +kernel⟩
    · split at hopen
      · case isTrue hsame =>
        simp only [Prod.mk.injEq] at hsame
        obtain ⟨rfl, rfl, rfl, hbox⟩ := hsame
        obtain rfl := Option.some.inj hopen
        rw [hbox]
        exact ⟨.inr rfl, by decide +kernel⟩
      · cases hopen
  distinct sealing hdone sealing' hdone' hsame := by
    have hother : gcm.box runV1.sealing ≠ gcm.box runV2.sealing := by decide +kernel
    rcases done_iff.mp hdone with rfl | rfl <;> rcases done_iff.mp hdone' with rfl | rfl
    · rfl
    · exact absurd hsame hother
    · exact absurd hsame.symm hother
    · rfl

theorem assumed : world.Assumed where
  ideal := ideal
  bodySize key nonce data text := by
    show (gcm.encrypt key nonce data text).1.length = text.length
    simp only [gcm]
    split
    · case isTrue hsame =>
      simp only [Prod.mk.injEq] at hsame
      obtain ⟨-, -, -, rfl⟩ := hsame
      decide +kernel
    · split
      · case isTrue hsame =>
        simp only [Prod.mk.injEq] at hsame
        obtain ⟨-, -, -, rfl⟩ := hsame
        decide +kernel
      · rfl
  tagSize key nonce data text := by
    show (gcm.encrypt key nonce data text).2.length = _
    simp only [gcm]
    split
    · rfl
    · split
      · rfl
      · rfl
  digestSize text := by
    show (sha256 text).length = 32
    unfold sha256
    split
    · rfl
    · split
      · rfl
      · split
        · rfl
        · exact List.length_replicate
  collisionFree := Set.injOn_singleton _ _
  wrappedHashed run hrun := by
    rw [Set.mem_singleton_iff.mp hrun]
    exact Set.mem_singleton _
  sameKey run hrun := by
    rw [Set.mem_singleton_iff.mp hrun]
    rfl
  sameDataKey run hrun := by
    rw [Set.mem_singleton_iff.mp hrun]
    decide +kernel

end CustodySample

theorem custody_records_bound_pair :
    (∀ aad, decryptV1 CustodySample.gcm CustodySample.world.findKey (.v1 CustodySample.runV1.record) aad =
        .ok CustodySample.plaintext ↔ aad = CustodySample.aad) ∧
    ∀ aad, decryptV2 CustodySample.gcm CustodySample.sha256 CustodySample.world.unwrapDataKey
        (some (decryptV1 CustodySample.gcm CustodySample.world.findKey))
        (.v2 CustodySample.runV2.record) aad = .ok CustodySample.plaintext ↔ aad = CustodySample.aad := by
  obtain ⟨-, -, hv1, hv2, -⟩ := custody_records_bound CustodySample.assumed
  have hv1Only : CustodySample.world.Changed (.v1 CustodySample.runV1.record)
      (.v1 CustodySample.runV1.record) := fun _ _ _ => rfl
  have hv2Only : CustodySample.world.Changed (.v2 CustodySample.runV2.record)
      (.v2 CustodySample.runV2.record) := fun _ _ _ => rfl
  constructor
  · intro aad
    have h := hv1 CustodySample.runV1 rfl _ hv1Only aad
    rw [and_iff_left rfl] at h
    exact h
  · intro aad
    have hhashed : ∀ envelope : EncryptedCashuProofBundleV2,
        EncryptedCashuProofBundle.v2 CustodySample.runV2.record = .v2 envelope →
          envelope.wrappedDataKey ∈ CustodySample.world.hashed := by
      intro envelope hsame
      rw [← EncryptedCashuProofBundle.v2.inj hsame]
      exact rfl
    have h := hv2 CustodySample.runV2 rfl _ hv2Only hhashed aad
    rw [and_iff_left rfl] at h
    exact h

end CashMesh.Acquirer
