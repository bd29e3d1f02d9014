import CashMesh.Acquirer.BearerProofBundle
import CashMesh.Acquirer.Intake
/-!
# The input fee

The fee for spending the proofs of a payment is computed three times: from the payload at intake, from
the reserved references when the melt is dispatched, and against the inputs of the bundle when the
request is made. Each adds up the parts per thousand of all proofs before it rounds, so that the three
agree whatever keysets the proofs are of.
-/

namespace CashMesh.Acquirer

open CashMesh.Lib

/-! ### The fee at dispatch -/

/-- `CashuStellarMeltCoordinatorErrorCode`. -/
inductive MeltCoordinatorErrorCode where
  | clockUnavailable
  | custodyNotFound
  | evidenceInvalid
  | invalidConfiguration
  | invalidRequest
  | keysetEvidenceMissing
  | operatorNotConfigured
  | quoteNotDispatchable
  | requestAborted
  | reservationNotFound
  | storageUnavailable
deriving DecidableEq

/-- `CashuStellarMeltCoordinatorError`. -/
structure MeltCoordinatorError where
  code : MeltCoordinatorErrorCode
  message : String
deriving DecidableEq

def evidenceInvalid : MeltCoordinatorError :=
  ⟨.evidenceInvalid, "Cashu Stellar melt evidence is invalid."⟩

/-- The parts per thousand with those of one more proof. -/
def addFeePpk (snapshot : CashuKeysetSnapshot) (unit : CashuUnit) (evaluatedAt : UnixTimestamp)
    (feePpk : Nat) (proof : CashuProofReference) : Except MeltCoordinatorError Nat := do
  let keyset ← orFail (snapshot.keyset proof.keysetId.val) evidenceInvalid
  ensure
    (keyset.unit = unit ∧ keyset.HasKey proof.amount ∧
      ∀ finalExpiry ∈ keyset.finalExpiry, evaluatedAt < finalExpiry)
    evidenceInvalid
  return feePpk + keyset.inputFeePpk

def deriveInputFee (cashuTs : CashuTs) (reservation : CashuProofReservation)
    (rawSnapshot : CreateCashuKeysetSnapshotInput) (quote : CashuStellarMeltQuote)
    (evaluatedAt : UnixTimestamp) : Except MeltCoordinatorError Nat := do
  let snapshot ←
    (createCashuKeysetSnapshot cashuTs rawSnapshot).mapError fun _ => evidenceInvalid
  ensure
    (snapshot.mintUrl = reservation.mintUrl ∧
      snapshot.observedAt = reservation.keysetObservedAt)
    evidenceInvalid
  let feePpk ← reservation.proofReferences.foldlM
    (addFeePpk snapshot reservation.unit evaluatedAt) 0
  let inputFee := inputFeeOfPpk feePpk
  ensure
    (inputFee ≤ maxSafeInteger ∧ quote.amount + inputFee = reservation.grossAmount)
    evidenceInvalid
  return inputFee

/-! ### The inputs of the request -/

/-- `CashuStellarMeltExecutionClientErrorCode`. -/
inductive MeltExecutionErrorCode where
  | dispatchNotAuthorized
  | inputAmountMismatch
  | invalidClock
  | invalidConfiguration
  | invalidRequest
  | invalidResponse
  | networkError
  | quoteExpired
  | quoteResponseMismatch
  | requestAborted
  | requestTimeout
  | responseTooLarge
  | unexpectedStatus
  | unsupportedFeeReserve
deriving DecidableEq

/-- `CashuStellarMeltExecutionClientError`. -/
structure MeltExecutionError where
  code : MeltExecutionErrorCode
  message : String
deriving DecidableEq

def inputAmountMismatch : MeltExecutionError :=
  ⟨.inputAmountMismatch,
    "Cashu Stellar melt inputs do not exactly cover the quote and input fee."⟩

def addInputAmount (total : Nat) (input : CashuBearerMeltInputText) :
    Except MeltExecutionError Nat := do
  ensure (total + input.amount ≤ maxSafeInteger) inputAmountMismatch
  return total + input.amount

def requireExactInputAmount (inputs : List CashuBearerMeltInputText) (amount inputFee : Nat) :
    Except MeltExecutionError Unit := do
  let total ← inputs.foldlM addInputAmount 0
  ensure (amount + inputFee ≤ maxSafeInteger ∧ total = amount + inputFee) inputAmountMismatch

/-! ### What intake has established -/

section Intake

variable {cashuTs : CashuTs}

theorem foldlM_addGrossAmount {proofs : List CashuProof} {total grossAmount : Nat}
    (h : proofs.foldlM addGrossAmount total = .ok grossAmount) (hsafe : total ≤ maxSafeInteger) :
    grossAmount = total + (proofs.map (·.amount)).sum ∧ grossAmount ≤ maxSafeInteger := by
  induction proofs generalizing total with
  | nil =>
      cases h
      exact ⟨rfl, hsafe⟩
  | cons proof proofs ih =>
      simp only [List.foldlM_cons, bind_eq_ok, addGrossAmount, ensure_eq_ok, exists_unit, pure_eq_ok,
        Except.ok.injEq] at h
      obtain ⟨_, ⟨-, -, hnext, rfl⟩, hrest⟩ := h
      obtain ⟨hsum, hle⟩ := ih hrest hnext
      rw [List.map_cons, List.sum_cons]
      omega

theorem decodePaymentPayload_ok {rawPayload : String} {envelope : CashuPaymentPayloadEnvelope}
    {payload : PaymentRequestPayload}
    (h : decodePaymentPayload cashuTs rawPayload = .ok (envelope, payload)) :
    envelope.grossAmount = (payload.proofs.map (·.amount)).sum ∧
      envelope.grossAmount ≤ maxSafeInteger := by
  simp only [decodePaymentPayload, bind_eq_ok, ensure_eq_ok, exists_unit, orFail_eq_ok, pure_eq_ok,
    Except.ok.injEq, Prod.mk.injEq] at h
  obtain ⟨-, -, _, -, invoiceId, -, mintUrl, -, -, -, -, grossAmount, hgross, rfl, rfl⟩ := h
  obtain ⟨hsum, hsafe⟩ := foldlM_addGrossAmount hgross (Nat.zero_le _)
  rw [Nat.zero_add] at hsum
  exact ⟨hsum, hsafe⟩

/-- The parts per thousand that a snapshot asks for a proof of a keyset. -/
def CashuKeysetSnapshot.feePpk (snapshot : CashuKeysetSnapshot) (id : String) : Nat :=
  ((snapshot.keyset id).map (·.inputFeePpk)).getD 0

theorem CashuKeysetSnapshot.feePpk_of_keyset {snapshot : CashuKeysetSnapshot} {id : String}
    {keyset : CashuKeysetSnapshotEntry} (h : snapshot.keyset id = some keyset) :
    snapshot.feePpk id = keyset.inputFeePpk := by
  rw [feePpk, h]
  rfl

theorem CashuKeysetSnapshot.id_of_keyset {snapshot : CashuKeysetSnapshot} {id : String}
    {keyset : CashuKeysetSnapshotEntry} (h : snapshot.keyset id = some keyset) :
    keyset ∈ snapshot.keysets ∧ keyset.id.val = id := by
  refine ⟨List.mem_of_find?_eq_some h, ?_⟩
  simpa using List.find?_some h

/-- A keyset of the snapshot that the loop has used for a proof. -/
def Used (snapshot : CashuKeysetSnapshot) (unit : String) (scan : InputFeeScan)
    (proof : CashuProof) : Prop :=
  ∃ keyset, snapshot.keyset proof.id = some keyset ∧ keyset.unit.val = unit ∧
    keyset.id ∈ scan.usedKeysetIds

/-- The loop adds up the parts per thousand of all proofs, and remembers the keysets they are of. -/
theorem foldlM_scanProof {snapshot : CashuKeysetSnapshot} {unit : String}
    {validatedAt : UnixTimestamp} {proofs : List CashuProof} {scan scan' : InputFeeScan}
    (h : proofs.foldlM (scanProof snapshot unit validatedAt) scan = .ok scan') :
    scan'.inputFeePpk =
        scan.inputFeePpk + (proofs.map fun proof => snapshot.feePpk proof.id).sum ∧
      (∀ proof ∈ proofs, Used snapshot unit scan' proof) ∧
        scan.usedKeysetIds ⊆ scan'.usedKeysetIds := by
  refine foldlM_ok_induction (motive := fun scan proofs scan' =>
    scan'.inputFeePpk =
        scan.inputFeePpk + (proofs.map fun proof => snapshot.feePpk proof.id).sum ∧
      (∀ proof ∈ proofs, Used snapshot unit scan' proof) ∧
        scan.usedKeysetIds ⊆ scan'.usedKeysetIds) ?_ ?_ h
  · intro scan
    exact ⟨rfl, by simp, List.Subset.refl _⟩
  · intro scan proof scan₁ proofs scan' hstep ⟨hsum, hused, hsubset⟩
    simp only [scanProof, bind_eq_ok, ensure_eq_ok, exists_unit, orFail_eq_ok, pure_eq_ok,
      Except.ok.injEq] at hstep
    obtain ⟨-, keyset, hkeyset, hunit, -, rfl⟩ := hstep
    have hkept : scan.usedKeysetIds ⊆ scan'.usedKeysetIds ∧
        keyset.id ∈ scan'.usedKeysetIds := by
      dsimp only at hsubset
      split at hsubset
      · case isTrue hmem => exact ⟨hsubset, hsubset hmem⟩
      · exact ⟨fun id hid => hsubset (List.mem_cons_of_mem _ hid), hsubset List.mem_cons_self⟩
    refine ⟨?_, ?_, hkept.1⟩
    · rw [hsum, List.map_cons, List.sum_cons, snapshot.feePpk_of_keyset hkeyset, Nat.add_assoc]
    · intro other hother
      rcases List.mem_cons.mp hother with rfl | hother
      · exact ⟨keyset, hkeyset, hunit, hkept.2⟩
      · exact hused other hother

/-- What a reference says of the proof it refers to. -/
def CashuProofReference.spends (reference : CashuProofReference) : Nat × String :=
  (reference.amount, reference.keysetId.val)

theorem foldlM_addProofReference {proofs : List CashuProof}
    {references references' : List CashuProofReference}
    (h : proofs.foldlM (addProofReference cashuTs) references = .ok references') :
    references'.map (·.spends) =
      references.map (·.spends) ++ proofs.map fun proof => (proof.amount, proof.id) := by
  refine foldlM_ok_induction (motive := fun references proofs references' =>
    references'.map (·.spends) =
      references.map (·.spends) ++ proofs.map fun proof => (proof.amount, proof.id)) ?_ ?_ h
  · intro references
    simp
  · intro references proof references₁ proofs references' hstep hrest
    simp only [addProofReference, bind_eq_ok, ensure_eq_ok, exists_unit, orFail_eq_ok, pure_eq_ok,
      Except.ok.injEq, createCashuProofReference, Option.dite_none_right_eq_some,
      Option.some.injEq] at hstep
    obtain ⟨-, reference, ⟨hfields, rfl⟩, rfl⟩ := hstep
    rw [hrest]
    simp [CashuProofReference.spends]

/-- What the validation of a payment establishes of its proofs under the snapshot. -/
structure PaymentValidated (cashuTs : CashuTs) (input : ValidateCashuPaymentProofsInput)
    (validation : ValidatedCashuPaymentProofs) (payload : PaymentRequestPayload)
    (snapshot : CashuKeysetSnapshot) : Prop where
  decoded : decodePaymentPayload cashuTs input.rawPayload = .ok (validation.envelope, payload)
  created : createCashuKeysetSnapshot cashuTs input.keysetSnapshot = .ok snapshot
  mintUrl : snapshot.mintUrl = validation.envelope.mintUrl
  observedAt : validation.keysetSnapshotObservedAt = snapshot.observedAt
  used : ∀ proof ∈ payload.proofs, ∃ keyset, snapshot.keyset proof.id = some keyset ∧
    keyset.unit.val = validation.envelope.unit ∧ keyset.id ∈ validation.keysetIds
  verified : cashuTs.verifyProofsForReceive payload.proofs snapshot.keysets = true
  references : (validation.proofReferences.map (·.spends)).Perm
    (payload.proofs.map fun proof => (proof.amount, proof.id))
  inputFee : validation.inputFee =
    inputFeeOfPpk (payload.proofs.map fun proof => snapshot.feePpk proof.id).sum
  fee_le : validation.inputFee ≤ validation.envelope.grossAmount
  netAmount : validation.netAmount = validation.envelope.grossAmount - validation.inputFee

theorem validateCashuPaymentProofs_ok {input : ValidateCashuPaymentProofsInput}
    {validation : ValidatedCashuPaymentProofs}
    (h : validateCashuPaymentProofs cashuTs input = .ok validation) :
    ∃ payload snapshot, PaymentValidated cashuTs input validation payload snapshot := by
  simp only [validateCashuPaymentProofs, bind_eq_ok, ensure_eq_ok, exists_unit, mapError_eq_ok,
    pure_eq_ok, Except.ok.injEq] at h
  obtain ⟨⟨envelope, payload⟩, hdecoded, snapshot, hsnapshot, -, -, hmint, scan, hscan, hverified,
    references, hreferences, hfee, rfl⟩ := h
  obtain ⟨hsum, hused, -⟩ := foldlM_scanProof hscan
  have hspends := foldlM_addProofReference hreferences
  refine ⟨payload, snapshot, hdecoded, hsnapshot, hmint, rfl, ?_, hverified, ?_, ?_, hfee, rfl⟩
  · intro proof hproof
    obtain ⟨keyset, hkeyset, hunit, hid⟩ := hused proof hproof
    exact ⟨keyset, hkeyset, hunit, (List.mem_insertionSort _).mpr hid⟩
  · rw [List.map_nil, List.nil_append] at hspends
    rw [← hspends]
    exact (List.perm_insertionSort _ references).map _
  · have hppk : scan.inputFeePpk =
        (payload.proofs.map fun proof => snapshot.feePpk proof.id).sum := by
      rw [hsum]
      exact Nat.zero_add _
    rw [← hppk]

end Intake

/-! ### The fee of a reservation -/

section Dispatch

variable {cashuTs : CashuTs} {snapshot : CashuKeysetSnapshot} {unit : CashuUnit}
variable {evaluatedAt : UnixTimestamp}

/-- The snapshot has the keyset of a reference, with a key for its amount, before it expires. -/
def Chargeable (snapshot : CashuKeysetSnapshot) (unit : CashuUnit) (evaluatedAt : UnixTimestamp)
    (proof : CashuProofReference) : Prop :=
  ∃ keyset, snapshot.keyset proof.keysetId.val = some keyset ∧ keyset.unit = unit ∧
    keyset.HasKey proof.amount ∧ ∀ finalExpiry ∈ keyset.finalExpiry, evaluatedAt < finalExpiry

theorem foldlM_addFeePpk {proofs : List CashuProofReference} {feePpk : Nat}
    (h : ∀ proof ∈ proofs, Chargeable snapshot unit evaluatedAt proof) :
    proofs.foldlM (addFeePpk snapshot unit evaluatedAt) feePpk =
      .ok (feePpk + (proofs.map fun proof => snapshot.feePpk proof.keysetId.val).sum) := by
  induction proofs generalizing feePpk with
  | nil => rfl
  | cons proof proofs ih =>
      obtain ⟨keyset, hkeyset, hunit, hkey, hexpiry⟩ := h proof List.mem_cons_self
      have hstep : addFeePpk snapshot unit evaluatedAt feePpk proof =
          .ok (feePpk + keyset.inputFeePpk) := by
        rw [addFeePpk, hkeyset]
        show (ensure _ _ >>= _) = _
        rw [ensure_of ⟨hunit, hkey, hexpiry⟩]
        rfl
      rw [List.foldlM_cons, hstep, ok_bind, ih fun other hother => h other
        (List.mem_cons_of_mem _ hother), List.map_cons, List.sum_cons,
        snapshot.feePpk_of_keyset hkeyset, Nat.add_assoc]

theorem deriveInputFee_eq {reservation : CashuProofReservation}
    {rawSnapshot : CreateCashuKeysetSnapshotInput} {quote : CashuStellarMeltQuote} {inputFee : Nat}
    (hcreated : createCashuKeysetSnapshot cashuTs rawSnapshot = .ok snapshot)
    (hmint : snapshot.mintUrl = reservation.mintUrl)
    (hobserved : snapshot.observedAt = reservation.keysetObservedAt)
    (hchargeable : ∀ proof ∈ reservation.proofReferences,
      Chargeable snapshot reservation.unit evaluatedAt proof)
    (hfee : inputFee = inputFeeOfPpk
      (reservation.proofReferences.map fun proof => snapshot.feePpk proof.keysetId.val).sum)
    (hsafe : inputFee ≤ maxSafeInteger) :
    deriveInputFee cashuTs reservation rawSnapshot quote evaluatedAt =
      if quote.amount + inputFee = reservation.grossAmount then .ok inputFee
      else .error evidenceInvalid := by
  have hloop := @foldlM_addFeePpk snapshot reservation.unit evaluatedAt _ 0 hchargeable
  rw [Nat.zero_add] at hloop
  rw [deriveInputFee, hcreated]
  show (ensure _ _ >>= _) = _
  rw [ensure_of ⟨hmint, hobserved⟩, ok_bind, hloop, ok_bind, ← hfee]
  show (ensure _ _ >>= _) = _
  by_cases hamount : quote.amount + inputFee = reservation.grossAmount
  · rw [if_pos hamount, ensure_of ⟨hsafe, hamount⟩]
    rfl
  · rw [if_neg hamount, ensure_of_not fun h => hamount h.2]
    rfl

end Dispatch

/-! ### The inputs of a bundle -/

section Bundles

variable {cashuTs : CashuTs}

theorem foldlM_addInputAmount {inputs : List CashuBearerMeltInputText} {total : Nat}
    (hsafe : total + (inputs.map (·.amount)).sum ≤ maxSafeInteger) :
    inputs.foldlM addInputAmount total = .ok (total + (inputs.map (·.amount)).sum) := by
  induction inputs generalizing total with
  | nil => rfl
  | cons input inputs ih =>
      rw [List.map_cons, List.sum_cons] at hsafe ⊢
      have hstep : addInputAmount total input = .ok (total + input.amount) := by
        rw [addInputAmount, ensure_of (by omega)]
        rfl
      have hrest : total + input.amount + (inputs.map (·.amount)).sum ≤ maxSafeInteger := by
        omega
      rw [List.foldlM_cons, hstep, ok_bind, ih hrest, Nat.add_assoc]

/-- Inputs of a safe total are refused only when they are not the amount and the fee. -/
theorem requireExactInputAmount_eq {inputs : List CashuBearerMeltInputText} {amount inputFee : Nat}
    (hsafe : (inputs.map (·.amount)).sum ≤ maxSafeInteger) :
    requireExactInputAmount inputs amount inputFee =
      if amount + inputFee = (inputs.map (·.amount)).sum then .ok ()
      else .error inputAmountMismatch := by
  have hloop := @foldlM_addInputAmount inputs 0 (by omega)
  rw [Nat.zero_add] at hloop
  rw [requireExactInputAmount, hloop, ok_bind]
  by_cases hexact : amount + inputFee = (inputs.map (·.amount)).sum
  · rw [if_pos hexact, ensure_of ⟨by omega, hexact.symm⟩]
  · rw [if_neg hexact, ensure_of_not fun h => hexact h.2.symm]

theorem foldlM_takeReference {proofs : List CashuProof} {scan scan' : BundleScan}
    (h : proofs.foldlM (takeReference cashuTs) scan = .ok scan') :
    scan'.proofs.map (·.amount) = scan.proofs.map (·.amount) ++ proofs.map (·.amount) := by
  refine foldlM_ok_induction (motive := fun scan proofs scan' =>
    scan'.proofs.map (·.amount) = scan.proofs.map (·.amount) ++ proofs.map (·.amount)) ?_ ?_ h
  · intro scan
    simp
  · intro scan proof scan₁ proofs scan' hstep hrest
    simp only [takeReference, bind_eq_ok, ensure_eq_ok, exists_unit, orFail_eq_ok, pure_eq_ok,
      Except.ok.injEq] at hstep
    obtain ⟨-, secret, -, reference, -, -, signature, -, rfl⟩ := hstep
    rw [hrest]
    simp

theorem amounts_of_create {input : CreateCashuBearerProofBundleInput} {bundle : BearerProofBundle}
    (h : createCashuBearerProofBundle cashuTs input = .ok bundle) :
    (bundle.meltInputs.map (·.amount)).Perm (input.proofs.map (·.amount)) := by
  simp only [createCashuBearerProofBundle, bind_eq_ok, ensure_eq_ok, exists_unit, orFail_eq_ok,
    bundleFromStored, pure_eq_ok, Except.ok.injEq] at h
  obtain ⟨-, mintUrl, -, -, -, scan, hscan, -, -, rfl⟩ := h
  have hamounts := foldlM_takeReference hscan
  rw [List.map_nil, List.nil_append] at hamounts
  rw [← hamounts]
  have hinputs : ∀ proofs : List StoredCashuBearerProof,
      ((constructBundle ⟨input.invoiceId, mintUrl, proofs, input.unit⟩
        (encodeStoredBundle ⟨input.invoiceId, mintUrl, proofs, input.unit⟩) true).meltInputs.map
          (·.amount)) = proofs.map (·.amount) := by
    intro proofs
    simp [constructBundle, encodeStoredBundle, BearerProofBundle.meltInputs,
      StoredCashuBearerProof.text]
  rw [hinputs]
  exact (List.perm_insertionSort _ scan.proofs).map _

theorem plaintext_of_restore {plaintext : BundleText} {bundle : BearerProofBundle}
    (h : restoreCashuBearerProofBundle cashuTs plaintext = .ok bundle) :
    bundle.plaintext = plaintext := by
  simp only [restoreCashuBearerProofBundle, bind_eq_ok, ensure_eq_ok, exists_unit, orFail_eq_ok,
    pure_eq_ok, Except.ok.injEq] at h
  obtain ⟨-, -, invoiceId, -, mintUrl, -, -, proofs, -, -, hcanonical, rfl⟩ := h
  exact hcanonical

/-- A bundle that comes back from custody hands out the amounts of the payload. -/
theorem amounts_of_custody {input : ValidateCashuPaymentProofsInput}
    {payment : ValidatedCashuPaymentForCustody} {bundle : BearerProofBundle}
    {payload : PaymentRequestPayload}
    (hpayment : validateCashuPaymentProofsForCustody cashuTs input = .ok payment)
    (hrestored : restoreCashuBearerProofBundle cashuTs
      payment.bearerProofs.serializeForEncryption = .ok bundle)
    (hdecoded : decodePaymentPayload cashuTs input.rawPayload =
      .ok (payment.validation.envelope, payload)) :
    (bundle.meltInputs.map (·.amount)).sum = payment.validation.envelope.grossAmount := by
  obtain ⟨hgross, -⟩ := decodePaymentPayload_ok hdecoded
  simp only [validateCashuPaymentProofsForCustody, bind_eq_ok, mapError_eq_ok, pure_eq_ok,
    Except.ok.injEq] at hpayment
  obtain ⟨validation, -, ⟨envelope, payload'⟩, hdecoded', created, hcreated, rfl⟩ := hpayment
  rw [hdecoded] at hdecoded'
  cases hdecoded'
  have hsame : bundle.meltInputs = created.meltInputs := by
    rw [BearerProofBundle.meltInputs, plaintext_of_restore hrestored]
    rfl
  rw [hsame, hgross]
  exact (amounts_of_create hcreated).sum_nat

end Bundles

/-! ### The three fees -/

section Agreement

variable {cashuTs : CashuTs} {input : ValidateCashuPaymentProofsInput}
variable {validation : ValidatedCashuPaymentProofs} {payload : PaymentRequestPayload}
variable {snapshot : CashuKeysetSnapshot} {reserveInput : ReserveInput}
variable {reservation : CashuProofReservation}

theorem createReservation_ok (h : createReservation reserveInput = .ok reservation) :
    reservation.proofReferences.Perm reserveInput.proofReferences ∧
      reservation.grossAmount = (reserveInput.proofReferences.map (·.amount)).sum ∧
      reservation.mintUrl = reserveInput.mintUrl ∧ reservation.unit = reserveInput.unit ∧
      reservation.keysetObservedAt = reserveInput.keysetObservedAt := by
  simp only [createReservation, bind_eq_ok, ensure_eq_ok, exists_unit, pure_eq_ok,
    Except.ok.injEq] at h
  obtain ⟨-, rfl⟩ := h
  exact ⟨List.perm_insertionSort _ _, rfl, rfl, rfl, rfl⟩

theorem PaymentValidated.sum_references
    (h : PaymentValidated cashuTs input validation payload snapshot)
    {references : List CashuProofReference}
    (hreferences : references.Perm validation.proofReferences) (f : Nat × String → Nat) :
    (references.map fun reference => f reference.spends).sum =
      (payload.proofs.map fun proof => f (proof.amount, proof.id)).sum := by
  have hperm : (references.map fun reference => f reference.spends).Perm
      (payload.proofs.map fun proof => f (proof.amount, proof.id)) := by
    have hspends := ((hreferences.map (·.spends)).trans h.references).map f
    simpa only [List.map_map, Function.comp_def] using hspends
  exact hperm.sum_nat

/-- The references of a payment are chargeable before the keysets that it uses expire. -/
theorem PaymentValidated.chargeable (h : PaymentValidated cashuTs input validation payload snapshot)
    (hkeys : ∀ proofs keysets, cashuTs.verifyProofsForReceive proofs keysets = true →
      ∀ proof ∈ proofs, ∀ keyset ∈ keysets, keyset.id.val = proof.id → keyset.HasKey proof.amount)
    {unit : CashuUnit} (hunit : unit.val = validation.envelope.unit) {evaluatedAt : UnixTimestamp}
    (hexpiry : ∀ keyset ∈ snapshot.keysets, keyset.id ∈ validation.keysetIds →
      ∀ finalExpiry ∈ keyset.finalExpiry, evaluatedAt < finalExpiry)
    {reference : CashuProofReference} (hreference : reference ∈ validation.proofReferences) :
    Chargeable snapshot unit evaluatedAt reference := by
  have hspends : reference.spends ∈ payload.proofs.map fun proof => (proof.amount, proof.id) :=
    h.references.mem_iff.mp (List.mem_map_of_mem hreference)
  obtain ⟨proof, hproof, hsame⟩ := List.mem_map.mp hspends
  obtain ⟨hamount, hid⟩ := Prod.mk.inj hsame
  obtain ⟨keyset, hkeyset, hkeysetUnit, hused⟩ := h.used proof hproof
  obtain ⟨hmem, hkeysetId⟩ := snapshot.id_of_keyset hkeyset
  refine ⟨keyset, ?_, ?_, ?_, hexpiry keyset hmem hused⟩
  · rw [← hid]
    exact hkeyset
  · exact Subtype.ext (hkeysetUnit.trans hunit.symm)
  · rw [← hamount]
    exact hkeys _ _ h.verified proof hproof keyset hmem hkeysetId

/-- The three fees agree. Under a snapshot that a payment is accepted with, the reservation of its
references and the bundle that custody gives back charge a quote the fee of the intake when the quote
is for the net amount of the intake, and both refuse every other quote. -/
theorem fees_agree
    (hkeys : ∀ proofs keysets, cashuTs.verifyProofsForReceive proofs keysets = true →
      ∀ proof ∈ proofs, ∀ keyset ∈ keysets, keyset.id.val = proof.id → keyset.HasKey proof.amount)
    (hvalid : validateCashuPaymentProofs cashuTs input = .ok validation)
    (hcreated : createCashuKeysetSnapshot cashuTs input.keysetSnapshot = .ok snapshot)
    (hreserved : createReservation reserveInput = .ok reservation)
    (hreferences : reserveInput.proofReferences = validation.proofReferences)
    (hmint : reserveInput.mintUrl = validation.envelope.mintUrl)
    (hunit : reserveInput.unit.val = validation.envelope.unit)
    (hobserved : reserveInput.keysetObservedAt = validation.keysetSnapshotObservedAt)
    {rawSnapshot : CreateCashuKeysetSnapshotInput}
    (hsnapshot : createCashuKeysetSnapshot cashuTs rawSnapshot = .ok snapshot)
    {bearerProofs bundle : BearerProofBundle}
    (hbundle : validateCashuPaymentProofsForCustody cashuTs input =
      .ok ⟨bearerProofs, validation⟩)
    (hrestored : restoreCashuBearerProofBundle cashuTs bearerProofs.serializeForEncryption =
      .ok bundle)
    (quote : CashuStellarMeltQuote) {evaluatedAt : UnixTimestamp}
    (hexpiry : ∀ keyset ∈ snapshot.keysets, keyset.id ∈ validation.keysetIds →
      ∀ finalExpiry ∈ keyset.finalExpiry, evaluatedAt < finalExpiry) :
    (quote.amount = validation.netAmount →
        deriveInputFee cashuTs reservation rawSnapshot quote evaluatedAt =
            .ok validation.inputFee ∧
          requireExactInputAmount bundle.meltInputs quote.amount validation.inputFee = .ok ()) ∧
      (quote.amount ≠ validation.netAmount →
        deriveInputFee cashuTs reservation rawSnapshot quote evaluatedAt =
            .error evidenceInvalid ∧
          requireExactInputAmount bundle.meltInputs quote.amount validation.inputFee =
            .error inputAmountMismatch) := by
  obtain ⟨payload, snapshot', hpayment⟩ := validateCashuPaymentProofs_ok hvalid
  obtain rfl : snapshot = snapshot' := Except.ok.inj (hcreated.symm.trans hpayment.created)
  obtain ⟨hperm, hgross, hmint', hunit', hobserved'⟩ := createReservation_ok hreserved
  rw [hreferences] at hperm hgross
  obtain ⟨hsum, hsafe⟩ := decodePaymentPayload_ok hpayment.decoded
  have hgrossAmount : reservation.grossAmount = validation.envelope.grossAmount := by
    rw [hgross, hsum]
    exact hpayment.sum_references (List.Perm.refl _) fun spent => spent.1
  have hfee : validation.inputFee = inputFeeOfPpk
      (reservation.proofReferences.map fun proof => snapshot.feePpk proof.keysetId.val).sum := by
    rw [hpayment.inputFee]
    exact congrArg inputFeeOfPpk
      (hpayment.sum_references hperm fun spent => snapshot.feePpk spent.2).symm
  have hderive := @deriveInputFee_eq cashuTs snapshot evaluatedAt reservation rawSnapshot quote
    validation.inputFee hsnapshot (by rw [hmint', hmint, hpayment.mintUrl])
    (by rw [hobserved', hobserved, hpayment.observedAt])
    (fun reference hreference => hpayment.chargeable hkeys (hunit' ▸ hunit) hexpiry
      (hperm.mem_iff.mp hreference))
    hfee (Nat.le_trans hpayment.fee_le hsafe)
  have hinputs : (bundle.meltInputs.map (·.amount)).sum = validation.envelope.grossAmount :=
    amounts_of_custody hbundle hrestored hpayment.decoded
  have hrequire := @requireExactInputAmount_eq bundle.meltInputs quote.amount validation.inputFee
    (by rw [hinputs]; exact hsafe)
  rw [hderive, hrequire, hinputs, hgrossAmount, hpayment.netAmount]
  have hle := hpayment.fee_le
  constructor
  · intro hamount
    have hexact : quote.amount + validation.inputFee = validation.envelope.grossAmount := by
      rw [hamount, Nat.sub_add_cancel hle]
    rw [if_pos hexact, if_pos hexact]
    exact ⟨rfl, rfl⟩
  · intro hamount
    have hinexact : quote.amount + validation.inputFee ≠ validation.envelope.grossAmount :=
      fun hexact => hamount (Nat.eq_sub_of_add_eq hexact)
    rw [if_neg hinexact, if_neg hinexact]
    exact ⟨rfl, rfl⟩

end Agreement

/-! ### A payment of two keysets -/

namespace FeeSample

def mintUrl : String := "https://mint.example"

/-- A keyset with a fee of 700 parts per thousand, and one with 500. -/
def keysetSnapshot : CreateCashuKeysetSnapshotInput where
  keysets := [
    { active := true
      finalExpiry := some 2000
      id := "00f85b2df41ecb7c"
      inputFeePpk := some 700
      keys := [("64", "03acd9df2fa4864e03520527ed6851fba83a7395afa3b24a758f3a0fc9335fd74f")]
      unit := "usdc" },
    { active := true
      finalExpiry := none
      id := "00137db3c852deb6"
      inputFeePpk := some 500
      keys := [("8", "0320554e1025066925c4c484dced7648ce5de2d1d967e31896d64409300620f85d")]
      unit := "usdc" }]
  mintUrl
  observedAt := 1001
  schemaVersion := none

def payload : PaymentRequestPayload where
  id := some "fee-invoice"
  memo := none
  mint := mintUrl
  proofs := [
    { id := "00f85b2df41ecb7c"
      amount := 64
      secret := "first-secret"
      C := "03bbd265c14b48afac0f5e1d8922215170e85c31fa5c1e13f649130e201d05fa1a"
      dleq := some {
        e := "119d81543a1f59165c3ca49d513c909ede9d28fa539458443f03d3d333f9c0f8"
        s := "7df9a3b551e6eff6dde26291649c149103100f0b9dccab2653041a85066ed32d"
        r := "e8be92d07303785ec42f61b970c1dce1906d2a309537aa436f50ea915fb02a00" }
      witness := none },
    { id := "00137db3c852deb6"
      amount := 8
      secret := "second-secret"
      C := "029930f4e5c996881f1ab807d49ca48103860f59dfc789fc28424055c9b02852fc"
      dleq := some {
        e := "5f419b647f315b2535f51f765bbc245358a2d9adef383e078901d94390b421c8"
        s := "15dce110d6f341d4c471e4683f3f35cf0b3a2b3dd7dce8a36e8d20e102b22e87"
        r := "11a12ee05d781ed26750c05985895a86b77cb6a370ca382d5f76b9aa422cf95b" }
      witness := none }]
  unit := "usdc"

/-- The payload as the payer sends it. -/
def rawPayload : String :=
  "\x7b\"id\":\"fee-invoice\",\"mint\":\"https://mint.example\",\"unit\":\"usdc\",\"proofs\":[" ++
    "\x7b\"id\":\"00f85b2df41ecb7c\",\"amount\":64,\"secret\":\"first-secret\"," ++
    "\"C\":\"03bbd265c14b48afac0f5e1d8922215170e85c31fa5c1e13f649130e201d05fa1a\",\"dleq\":" ++
    "\x7b\"e\":\"119d81543a1f59165c3ca49d513c909ede9d28fa539458443f03d3d333f9c0f8\"," ++
    "\"s\":\"7df9a3b551e6eff6dde26291649c149103100f0b9dccab2653041a85066ed32d\"," ++
    "\"r\":\"e8be92d07303785ec42f61b970c1dce1906d2a309537aa436f50ea915fb02a00\"\x7d\x7d," ++
    "\x7b\"id\":\"00137db3c852deb6\",\"amount\":8,\"secret\":\"second-secret\"," ++
    "\"C\":\"029930f4e5c996881f1ab807d49ca48103860f59dfc789fc28424055c9b02852fc\",\"dleq\":" ++
    "\x7b\"e\":\"5f419b647f315b2535f51f765bbc245358a2d9adef383e078901d94390b421c8\"," ++
    "\"s\":\"15dce110d6f341d4c471e4683f3f35cf0b3a2b3dd7dce8a36e8d20e102b22e87\"," ++
    "\"r\":\"11a12ee05d781ed26750c05985895a86b77cb6a370ca382d5f76b9aa422cf95b\"\x7d\x7d]\x7d"

/-- The points of the two secrets. -/
def firstY : CashuProofY :=
  ⟨"02cd0b98332e8c3d8999c0695af4064f6d9244073fee66d475c2dffd4b7dad4831", by decide⟩

def secondY : CashuProofY :=
  ⟨"02b7ae32823bec634224ca6a257d8b44253f644b87677d4ede6132b0e62d1421b6", by decide⟩

/-- What the libraries do with the payload. -/
def cashuTs : CashuTs where
  decodePayload _ := some payload
  hashToCurve secret := if secret = "first-secret" then firstY else secondY
  jsonParse _ := none
  normalizeMintUrl _ := some mintUrl
  parseUrl _ := some ⟨"https:", "", "", "", "", "https://mint.example/"⟩
  pointFromHex text := text ∈ [
    "03acd9df2fa4864e03520527ed6851fba83a7395afa3b24a758f3a0fc9335fd74f",
    "0320554e1025066925c4c484dced7648ce5de2d1d967e31896d64409300620f85d",
    "03bbd265c14b48afac0f5e1d8922215170e85c31fa5c1e13f649130e201d05fa1a",
    "029930f4e5c996881f1ab807d49ca48103860f59dfc789fc28424055c9b02852fc"]
  -- The id of a keyset is made of its keys, whatever their amounts.
  verifyKeysetId keyset :=
    (keyset.id.val = "00f85b2df41ecb7c" ∧ keyset.keys.map Prod.snd =
      ["03acd9df2fa4864e03520527ed6851fba83a7395afa3b24a758f3a0fc9335fd74f"]) ∨
    (keyset.id.val = "00137db3c852deb6" ∧ keyset.keys.map Prod.snd =
      ["0320554e1025066925c4c484dced7648ce5de2d1d967e31896d64409300620f85d"])
  verifyProofsForReceive proofs keysets := ∀ proof ∈ proofs, ∀ keyset ∈ keysets,
    keyset.id.val = proof.id → keyset.HasKey proof.amount

def input : ValidateCashuPaymentProofsInput where
  keysetSnapshot
  rawPayload
  validatedAt := 1002

/-- The two keysets that the payment uses. -/
def firstKeysetId : KeysetId := ⟨"00f85b2df41ecb7c", by decide⟩

def secondKeysetId : KeysetId := ⟨"00137db3c852deb6", by decide⟩

def invoiceId : InvoiceId := ⟨"fee-invoice", by decide⟩

def references : List CashuProofReference :=
  [⟨8, secondKeysetId, secondY⟩, ⟨64, firstKeysetId, firstY⟩]

def validation : ValidatedCashuPaymentProofs where
  envelope := ⟨72, invoiceId, mintUrl, 2, "usdc"⟩
  inputFee := 2
  keysetIds := [secondKeysetId, firstKeysetId]
  keysetSnapshotObservedAt := 1001
  netAmount := 70
  proofReferences := references
  validatedAt := 1002

def storedBundle : StoredCashuBearerProofBundle where
  invoiceId
  mintUrl
  proofs := [
    { amount := 8
      keysetId := secondKeysetId
      secret := "second-secret"
      signature := "029930f4e5c996881f1ab807d49ca48103860f59dfc789fc28424055c9b02852fc"
      y := secondY },
    { amount := 64
      keysetId := firstKeysetId
      secret := "first-secret"
      signature := "03bbd265c14b48afac0f5e1d8922215170e85c31fa5c1e13f649130e201d05fa1a"
      y := firstY }]
  unit := "usdc"

/-- The reservation of what intake has validated. -/
def reserveInput : ReserveInput where
  invoiceId
  keysetObservedAt := 1001
  mintUrl
  operatorId := ⟨"fee-operator", by decide⟩
  paymentId := ⟨"fee-payment", by decide⟩
  proofReferences := references
  reservedAt := 1003
  unit := cashuStellarUnit

def reservation : CashuProofReservation where
  grossAmount := 72
  invoiceId
  keysetObservedAt := 1001
  mintUrl
  operatorId := reserveInput.operatorId
  paymentId := reserveInput.paymentId
  proofReferences := references
  reservedAt := 1003
  unit := cashuStellarUnit

/-- A quote for the net amount. -/
def quote : CashuStellarMeltQuote where
  amount := 70
  expiry := 1900
  feeReserve := 0
  mintUrl
  observedAt := 1004
  quoteId := ⟨"0190a5b0-7c7c-7000-8000-000000000001", by decide⟩
  request := {
    uri := "web+stellar:pay?destination=GATTMQEODSDX45WZK2JFIYETXWYCU5GRJ5I3Z7P2UDYD6YFVONDM4CX4" ++
      "&amount=0.70&asset_code=USDC" ++
      "&asset_issuer=GBBD47IF6LWK7P7MDEVSCWR7DPUWV3NY3DTQEVFL4NAT4AQH3ZLLFLA5" ++
      "&network_passphrase=Test+SDF+Network+%3B+September+2015"
    destination :=
      ⟨"GATTMQEODSDX45WZK2JFIYETXWYCU5GRJ5I3Z7P2UDYD6YFVONDM4CX4", Sample.destination_valid⟩ }
  state := .unpaid

end FeeSample

set_option maxRecDepth 20000 in
theorem fees_agree_mixed :
    ∃ bundle,
      restoreCashuBearerProofBundle FeeSample.cashuTs
          (encodeStoredBundle FeeSample.storedBundle) = .ok bundle ∧
        deriveInputFee FeeSample.cashuTs FeeSample.reservation FeeSample.keysetSnapshot
          FeeSample.quote 1500 = .ok 2 ∧
        requireExactInputAmount bundle.meltInputs 70 2 = .ok () := by
  have hkeys : ∀ proofs keysets,
      FeeSample.cashuTs.verifyProofsForReceive proofs keysets = true →
        ∀ proof ∈ proofs, ∀ keyset ∈ keysets, keyset.id.val = proof.id →
          keyset.HasKey proof.amount :=
    fun proofs keysets hverified => of_decide_eq_true hverified
  have hcreated : ∃ snapshot, createCashuKeysetSnapshot FeeSample.cashuTs
      FeeSample.keysetSnapshot = .ok snapshot ∧
        ∀ keyset ∈ snapshot.keysets, ∀ finalExpiry ∈ keyset.finalExpiry, 1500 < finalExpiry := by
    apply exists_ok_of_any
    decide +kernel
  obtain ⟨snapshot, hsnapshot, hexpiry⟩ := hcreated
  have hvalid : validateCashuPaymentProofs FeeSample.cashuTs FeeSample.input =
      .ok FeeSample.validation := by
    decide +kernel
  have hreserved : createReservation FeeSample.reserveInput = .ok FeeSample.reservation := by
    decide +kernel
  have hpayment : validateCashuPaymentProofsForCustody FeeSample.cashuTs FeeSample.input =
      .ok ⟨constructBundle FeeSample.storedBundle (encodeStoredBundle FeeSample.storedBundle) true,
        FeeSample.validation⟩ := by
    decide +kernel
  have hrestored : restoreCashuBearerProofBundle FeeSample.cashuTs
      (encodeStoredBundle FeeSample.storedBundle) =
        .ok (constructBundle FeeSample.storedBundle
          (encodeStoredBundle FeeSample.storedBundle) false) := by
    decide +kernel
  obtain ⟨hderive, hrequire⟩ := (fees_agree hkeys hvalid hsnapshot hreserved rfl rfl rfl rfl
    hsnapshot hpayment hrestored FeeSample.quote
    (fun keyset hkeyset _ => hexpiry keyset hkeyset)).1 rfl
  exact ⟨_, hrestored, hderive, hrequire⟩

end CashMesh.Acquirer
