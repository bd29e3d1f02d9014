import CashMesh.Acquirer.Claims
import CashMesh.Lib.Sorting
import Mathlib.Algebra.BigOperators.Group.List.Basic
import Mathlib.Algebra.Ring.Nat
/-!
# Stored reservations

What a reservation keeps of its input, and what its rows keep of it. The order of the proofs in the
input does not matter, every other term does, and the rows of a reservation give the reservation back
for as long as the database runs.
-/

namespace CashMesh.Acquirer

open CashMesh.Lib

variable {db db' : Db}

/-! ### Terms -/

/-- Two inputs for one reservation: the terms are the same, and the proofs up to their order. -/
structure ReserveInput.SameTerms (input other : ReserveInput) : Prop where
  invoiceId : input.invoiceId = other.invoiceId
  keysetObservedAt : input.keysetObservedAt = other.keysetObservedAt
  mintUrl : input.mintUrl = other.mintUrl
  operatorId : input.operatorId = other.operatorId
  paymentId : input.paymentId = other.paymentId
  proofReferences : input.proofReferences.Perm other.proofReferences
  reservedAt : input.reservedAt = other.reservedAt
  unit : input.unit = other.unit

/-- What `createReservation` checks. -/
structure ReserveInput.Valid (input : ReserveInput) : Prop where
  nonempty : input.proofReferences ≠ []
  length : input.proofReferences.length ≤ maxNut18PaymentProofs
  amounts : ∀ proof ∈ input.proofReferences, 0 < proof.amount
  distinct : (input.proofReferences.map (·.y)).Nodup
  total : (input.proofReferences.map (·.amount)).sum ≤ maxSafeInteger
  reservedAt : input.reservedAt ≤ maxSafeInteger
  observed : input.keysetObservedAt ≤ input.reservedAt

/-- The reservation of a valid input. -/
def ReserveInput.reservation (input : ReserveInput) : CashuProofReservation where
  grossAmount := (input.proofReferences.map (·.amount)).sum
  invoiceId := input.invoiceId
  keysetObservedAt := input.keysetObservedAt
  mintUrl := input.mintUrl
  operatorId := input.operatorId
  paymentId := input.paymentId
  proofReferences := sortBy (·.y.val) input.proofReferences
  reservedAt := input.reservedAt
  unit := input.unit

theorem createReservation_eq_ok {input : ReserveInput} {reservation : CashuProofReservation} :
    createReservation input = .ok reservation ↔ input.Valid ∧ reservation = input.reservation := by
  simp only [createReservation, bind_eq_ok, ensure_eq_ok, exists_unit, pure_eq_ok, Except.ok.injEq]
  constructor
  · intro h
    obtain ⟨⟨hnonempty, hlength, hamounts, hdistinct, htotal, hreserved, hobserved⟩, rfl⟩ := h
    exact ⟨⟨hnonempty, hlength, hamounts, hdistinct, htotal, hreserved, hobserved⟩, rfl⟩
  · intro h
    obtain ⟨hvalid, rfl⟩ := h
    exact ⟨⟨hvalid.nonempty, hvalid.length, hvalid.amounts, hvalid.distinct, hvalid.total,
      hvalid.reservedAt, hvalid.observed⟩, rfl⟩

theorem ReserveInput.SameTerms.valid {input other : ReserveInput} (h : input.SameTerms other)
    (hvalid : input.Valid) : other.Valid where
  nonempty hnil := hvalid.nonempty ((hnil ▸ h.proofReferences).eq_nil)
  length := h.proofReferences.length_eq ▸ hvalid.length
  amounts proof hproof := hvalid.amounts proof (h.proofReferences.mem_iff.mpr hproof)
  distinct := ((h.proofReferences.map _).nodup_iff).mp hvalid.distinct
  total := (h.proofReferences.map (·.amount)).sum_eq ▸ hvalid.total
  reservedAt := h.reservedAt ▸ hvalid.reservedAt
  observed := h.keysetObservedAt ▸ h.reservedAt ▸ hvalid.observed

theorem nodup_texts {references : List CashuProofReference} (h : (references.map (·.y)).Nodup) :
    (references.map (·.y.val)).Nodup := by
  have hmap : references.map (·.y.val) = (references.map (·.y)).map Subtype.val := by
    rw [List.map_map]
    rfl
  rw [hmap]
  exact h.map Subtype.val_injective

theorem reservation_eq_iff {input other : ReserveInput} (hvalid : input.Valid) :
    input.reservation = other.reservation ↔ input.SameTerms other := by
  constructor
  · intro h
    simp only [ReserveInput.reservation, CashuProofReservation.mk.injEq] at h
    obtain ⟨-, hinvoice, hobserved, hmint, hoperator, hpayment, hproofs, hreserved, hunit⟩ := h
    refine ⟨hinvoice, hobserved, hmint, hoperator, hpayment, ?_, hreserved, hunit⟩
    have hsorted := @perm_sortBy _ _ _ _ (·.y.val) other.proofReferences
    rw [← hproofs] at hsorted
    exact (perm_sortBy _).symm.trans hsorted
  · intro h
    simp only [ReserveInput.reservation, CashuProofReservation.mk.injEq]
    exact ⟨(h.proofReferences.map _).sum_eq, h.invoiceId, h.keysetObservedAt, h.mintUrl,
      h.operatorId, h.paymentId, sortBy_eq_of_perm h.proofReferences (nodup_texts hvalid.distinct),
      h.reservedAt, h.unit⟩

/-- The input that a reservation gives back. -/
def CashuProofReservation.terms (reservation : CashuProofReservation) : ReserveInput where
  invoiceId := reservation.invoiceId
  keysetObservedAt := reservation.keysetObservedAt
  mintUrl := reservation.mintUrl
  operatorId := reservation.operatorId
  paymentId := reservation.paymentId
  proofReferences := reservation.proofReferences
  reservedAt := reservation.reservedAt
  unit := reservation.unit

theorem ReserveInput.sameTerms_terms (input : ReserveInput) :
    input.SameTerms input.reservation.terms :=
  ⟨rfl, rfl, rfl, rfl, rfl, (perm_sortBy _).symm, rfl, rfl⟩

/-- A reservation is that of its own terms. -/
theorem createReservation_terms {input : ReserveInput} (hvalid : input.Valid) :
    createReservation input.reservation.terms = .ok input.reservation := by
  have hterms := input.sameTerms_terms
  exact createReservation_eq_ok.mpr
    ⟨hterms.valid hvalid, (reservation_eq_iff hvalid).mpr hterms⟩

/-! ### Rows -/

/-- What an operation does to the rows of the reservations. -/
theorem reservations_of_change (h : Change db db') :
    (db'.cashuProofReservations = db.cashuProofReservations ∧
        db'.cashuReservedProofs = db.cashuReservedProofs) ∨
      ∃ reservation, (∃ input, createReservation input = .ok reservation) ∧
        db.reservation reservation.paymentId = none ∧
        db.cashuProofReservations.Appends [reservationRow reservation] db'.cashuProofReservations ∧
        db.cashuReservedProofs.Appends (reservedProofRows reservation) db'.cashuReservedProofs := by
  cases h with
  | reserved hcreated hnew _ hreservations hproofs _ =>
      exact .inr ⟨_, hcreated, hnew, hreservations, hproofs⟩
  | paymentAccepted _ _ _ _ _ _ _ _ _ hdb =>
      rw [hdb]
      exact .inl ⟨rfl, rfl⟩
  | _ => exact .inl ⟨rfl, rfl⟩

theorem reservation_of_change (h : Change db db') {row : ReservationRow} {paymentId : PaymentId}
    (hrow : db.reservation paymentId = some row) : db'.reservation paymentId = some row := by
  rcases reservations_of_change h with ⟨hsame, -⟩ | ⟨_, -, -, happends, -⟩
  · rw [Db.reservation, hsame]
    exact hrow
  · exact happends.find_of_some hrow

theorem reservation_of_mem {row : ReservationRow} (h : row ∈ db.cashuProofReservations) :
    db.reservation row.paymentId = some row := by
  have hfind := Table.find_of_mem (p := fun other => other.paymentId = row.paymentId) h rfl
    fun other hother => .inl hother
  exact hfind

theorem map_position_reservedProofRows (reservation : CashuProofReservation) :
    (reservedProofRows reservation).map (·.position) =
      List.range reservation.proofReferences.length := by
  rw [reservedProofRows, List.map_map]
  show reservation.proofReferences.zipIdx.map Prod.snd = _
  rw [List.zipIdx_map_snd, List.range_eq_range']

theorem map_reference_reservedProofRows (reservation : CashuProofReservation) :
    (reservedProofRows reservation).map (fun proof : ReservedProofRow =>
      ({ amount := proof.amount, keysetId := proof.keysetId, y := proof.proofY } :
        CashuProofReference)) = reservation.proofReferences := by
  rw [reservedProofRows, List.map_map]
  show reservation.proofReferences.zipIdx.map Prod.fst = _
  exact List.zipIdx_map_fst 0 _

theorem orderBy_reservedProofRows (reservation : CashuProofReservation) :
    orderBy (·.position) (reservedProofRows reservation) = reservedProofRows reservation := by
  apply orderBy_of_pairwise
  have hrange : ((reservedProofRows reservation).map (·.position)).Pairwise (· ≤ ·) := by
    rw [map_position_reservedProofRows]
    exact List.pairwise_le_range
  exact List.pairwise_map.mp hrange

/-- Every row is that of a reservation, and its proofs are those of it. -/
def StoredReservations (db : Db) : Prop :=
  ∀ row ∈ db.cashuProofReservations, ∃ input : ReserveInput, input.Valid ∧
    row = reservationRow input.reservation ∧
    db.reservedProofsOf row.paymentId = reservedProofRows input.reservation

theorem storedReservations_of_change (h : StoredReservations db) (hclaims : ClaimsSound db)
    (hchange : Change db db') : StoredReservations db' := by
  rcases reservations_of_change hchange with ⟨hrows, hproofs⟩ |
    ⟨reservation, ⟨input, hcreated⟩, hnew, hrows, hproofs⟩
  · intro row hrow
    rw [hrows] at hrow
    obtain ⟨input, hvalid, hsame, hstored⟩ := h row hrow
    refine ⟨input, hvalid, hsame, ?_⟩
    rw [Db.reservedProofsOf, hproofs]
    exact hstored
  · obtain ⟨hvalid, rfl⟩ := createReservation_eq_ok.mp hcreated
    have hown : ∀ proof ∈ reservedProofRows input.reservation,
        proof.paymentId = input.reservation.paymentId := by
      intro proof hproof
      obtain ⟨pair, -, rfl⟩ := List.mem_map.mp hproof
      rfl
    intro row hrow
    rcases hrows.mem.mp hrow with hold | hmine
    · obtain ⟨other, hother, hsame, hstored⟩ := h row hold
      refine ⟨other, hother, hsame, ?_⟩
      have hne : ∀ proof ∈ reservedProofRows input.reservation, ¬proof.paymentId = row.paymentId := by
        intro proof hproof hpayment
        have hfound := reservation_of_mem hold
        rw [← hpayment, hown proof hproof, hnew] at hfound
        cases hfound
      rw [Db.reservedProofsOf, hproofs.select_of_not hne]
      exact hstored
    · obtain rfl := List.mem_singleton.mp hmine
      refine ⟨input, hvalid, rfl, ?_⟩
      have hnone : db.cashuReservedProofs.select
          (fun proof => proof.paymentId = input.reservation.paymentId) = [] := by
        rw [List.eq_nil_iff_forall_not_mem]
        intro proof hproof
        obtain ⟨hmem, hpayment⟩ := Table.mem_select.mp hproof
        have hreserved := hclaims.proofReserved proof hmem
        rw [hpayment, hnew] at hreserved
        cases hreserved
      have hall : (reservedProofRows input.reservation).filter
          (fun proof => proof.paymentId = input.reservation.paymentId) =
            reservedProofRows input.reservation := by
        rw [List.filter_eq_self]
        intro proof hproof
        exact decide_eq_true (hown proof hproof)
      show orderBy _ (db'.cashuReservedProofs.select
        fun proof => proof.paymentId = input.reservation.paymentId) = _
      rw [hproofs.select, hnone, hall, List.nil_append]
      exact orderBy_reservedProofRows _

theorem storedReservations_of_reachable (h : Reachable db) : StoredReservations db :=
  reachable_of_change (by simp [StoredReservations, Db.empty])
    (fun _ _ hreach hstored hchange =>
      storedReservations_of_change hstored (claimsSound_of_reachable hreach) hchange) h

/-- What is read of a row is the reservation that it was made of. -/
theorem StoredReservations.mapReservation (h : StoredReservations db) {row : ReservationRow}
    (hrow : row ∈ db.cashuProofReservations) :
    mapReservation db row = .ok row.reservationFingerprint := by
  obtain ⟨input, hvalid, rfl, hproofs⟩ := h row hrow
  have hlength : (reservedProofRows input.reservation).length =
      input.reservation.proofReferences.length := by
    rw [reservedProofRows, List.length_map, List.length_zipIdx]
  have hnonempty : reservedProofRows input.reservation ≠ [] := by
    intro hnil
    apply hvalid.nonempty
    rw [hnil] at hlength
    have hsorted : input.reservation.proofReferences = [] := List.eq_nil_of_length_eq_zero hlength.symm
    have hperm : input.reservation.proofReferences.Perm input.proofReferences := perm_sortBy _
    rw [hsorted] at hperm
    exact hperm.symm.eq_nil
  have hcolumns : ∀ proof ∈ reservedProofRows input.reservation,
      proof.mintUrl = input.mintUrl ∧ proof.unit = input.unit := by
    intro proof hproof
    obtain ⟨pair, -, rfl⟩ := List.mem_map.mp hproof
    exact ⟨rfl, rfl⟩
  simp only [Acquirer.mapReservation, hproofs, map_reference_reservedProofRows, bind_eq_ok,
    ensure_eq_ok, exists_unit, mapError_eq_ok, pure_eq_ok, Except.ok.injEq]
  refine ⟨⟨hnonempty, ?_, hcolumns⟩, input.reservation, createReservation_terms hvalid,
    ⟨rfl, rfl, rfl⟩, rfl⟩
  rw [hlength]
  exact map_position_reservedProofRows _

/-- `findByPaymentId` of the reservation repository. -/
def findReservation (db : Db) (paymentId : PaymentId) :
    Except ReservationError (Option CashuProofReservation) :=
  match db.reservation paymentId with
  | none => return none
  | some row => some <$> mapReservation db row

theorem StoredReservations.findReservation (h : StoredReservations db) {row : ReservationRow}
    (hrow : row ∈ db.cashuProofReservations) :
    findReservation db row.paymentId = .ok (some row.reservationFingerprint) := by
  rw [Acquirer.findReservation, reservation_of_mem hrow]
  show some <$> Acquirer.mapReservation db row = _
  rw [h.mapReservation hrow]
  rfl

/-! ### Claims -/

theorem nodup_claims (paymentId : PaymentId) : (db.proofClaimsOf paymentId).Nodup := by
  have hrows : db.cashuActiveProofClaims.rows.Nodup := by
    apply db.cashuActiveProofClaims.unique.imp
    intro claim other hcollide hsame
    obtain rfl := hsame
    exact hcollide ⟨rfl, .inl rfl⟩
  exact hrows.filter _

theorem nodup_map_claim {input : ReserveInput} (hvalid : input.Valid) :
    ((reservedProofRows input.reservation).map (·.claim)).Nodup := by
  have hpoints : ((reservedProofRows input.reservation).map (·.claim.proofY)).Nodup := by
    rw [reservedProofRows, List.map_map]
    show (input.reservation.proofReferences.zipIdx.map fun proof => proof.1.y).Nodup
    have hmap : input.reservation.proofReferences.zipIdx.map (fun proof => proof.1.y) =
        input.reservation.proofReferences.map (·.y) := by
      rw [← List.zipIdx_map_fst 0 input.reservation.proofReferences, List.map_map]
      simp
    rw [hmap]
    exact (((perm_sortBy _).map _).nodup_iff).mpr hvalid.distinct
  apply List.Nodup.of_map ActiveProofClaimRow.proofY
  rw [List.map_map]
  exact hpoints

theorem StoredReservations.length_claims (h : StoredReservations db) (hclaims : ClaimsSound db)
    {row : ReservationRow} (hrow : row ∈ db.cashuProofReservations)
    (hactive : db.latestState row.paymentId ≠ some .released) :
    (db.proofClaimsOf row.paymentId).length =
      row.reservationFingerprint.proofReferences.length := by
  obtain ⟨input, hvalid, rfl, hproofs⟩ := h row hrow
  have hmem : ∀ proof : ReservedProofRow,
      proof ∈ reservedProofRows input.reservation ↔
        proof ∈ db.cashuReservedProofs ∧ proof.paymentId = input.paymentId := by
    intro proof
    rw [← hproofs, Db.reservedProofsOf, mem_orderBy, Table.mem_select]
    rfl
  have hperm : (db.proofClaimsOf input.paymentId).Perm
      ((reservedProofRows input.reservation).map (·.claim)) := by
    apply (List.perm_ext_iff_of_nodup (nodup_claims _) (nodup_map_claim hvalid)).mpr
    intro claim
    rw [Db.proofClaimsOf, Table.mem_select, List.mem_map]
    constructor
    · intro hclaim
      obtain ⟨-, proof, hproof, rfl⟩ := hclaims.claimedProof claim hclaim.1
      exact ⟨proof, (hmem proof).mpr ⟨hproof, hclaim.2⟩, rfl⟩
    · intro hproof
      obtain ⟨proof, hproof, rfl⟩ := hproof
      obtain ⟨hstored, hpayment⟩ := (hmem proof).mp hproof
      exact ⟨hclaims.proofClaimed proof hstored (hpayment ▸ hactive), hpayment⟩
  have hlength := hperm.length_eq
  rw [List.length_map, reservedProofRows, List.length_map, List.length_zipIdx] at hlength
  exact hlength

end CashMesh.Acquirer
