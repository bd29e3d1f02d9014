import CashMesh.Acquirer.Statements
/-!
# The repositories of an intake

What stores a payment before its quote: the invoice with its issued request, the keyset observations,
the reservation of the proofs and their custody. A cipher hides a bundle ideally, so the custody row
holds the bundle itself, and the keysets are held by the observations that saw them.
-/

namespace CashMesh.Acquirer

open CashMesh.Lib

/-! ### Invoices -/

/-- `InvoiceRepositoryErrorCode`. -/
inductive InvoiceErrorCode where
  | idempotencyConflict
  | invalidRecord
  | invoiceIdConflict
  | storageUnavailable
deriving DecidableEq

structure InvoiceError where
  code : InvoiceErrorCode
  message : String
deriving DecidableEq

namespace InvoiceError

def invalidCashuRecord : InvoiceError :=
  ⟨.invalidRecord, "Stored Cashu payment request is invalid."⟩

def idempotencyConflict : InvoiceError :=
  ⟨.idempotencyConflict, "Idempotency key was already used for a different invoice request."⟩

/-- `mapStorageError` on what the database raises. -/
def ofDbError : DbError → InvoiceError
  | .uniqueViolation .merchantInvoices =>
      ⟨.invoiceIdConflict, "Generated invoice identifier is already in use."⟩
  | .uniqueViolation .invoiceCreationRequests =>
      ⟨.invoiceIdConflict, "Generated invoice identifier is already in use."⟩
  | .uniqueViolation .invoiceCashuRequests =>
      ⟨.invoiceIdConflict, "Generated invoice identifier is already in use."⟩
  | _ => ⟨.storageUnavailable, "Invoice storage operation failed."⟩

end InvoiceError

structure CreateOpenInvoiceInput where
  cashuPaymentRequest : CashuPaymentRequest
  idempotencyKey : Identifier
  invoice : OpenInvoice
  requestFingerprint : String
  settlementDestination : CashuStellarSettlementDestination
deriving DecidableEq

structure CreateOpenInvoiceResult where
  cashuPaymentRequest : CashuPaymentRequest
  invoice : OpenInvoice
  replayed : Bool
deriving DecidableEq

/-- The request again from its own routes, if it is the request they give. -/
def validateCashuPaymentRequest (invoice : OpenInvoice) (request : CashuPaymentRequest) :
    Except InvoiceError CashuPaymentRequest := do
  ensure (request.issuedAt = invoice.createdAt) .invalidCashuRecord
  let configuredRoutes := request.operators.map fun route : AcceptedOperatorRoute =>
    { mintUrl := route.mintUrl
      operatorId := route.operatorId
      requestedMode := some route.mode
      tier := route.tier : CashuOperatorRoute }
  let reconstructed ← orFail
    (createCashuPaymentRequest invoice request.issuedAt configuredRoutes request.transportUrl)
    .invalidCashuRecord
  ensure (request = reconstructed) .invalidCashuRecord
  return reconstructed

/-- Run a statement within an invoice transaction. -/
def invoiceStatement {α : Type} (statement : Except DbError α) : Except InvoiceError α :=
  statement.mapError .ofDbError

@[simp] theorem invoiceStatement_eq_ok {α : Type} {statement : Except DbError α} {a : α} :
    invoiceStatement statement = .ok a ↔ statement = .ok a :=
  mapError_eq_ok

/-- The request row of an invoice. -/
def invoiceRequestRow (invoice : OpenInvoice) (request : CashuPaymentRequest)
    (settlementDestination : CashuStellarSettlementDestination) : InvoiceCashuRequestRow where
  invoiceId := invoice.id
  merchantId := invoice.merchantId
  encodedRequest := request.encodedRequest
  issuedAt := request.issuedAt
  operatorCount := request.operators.length
  routeSetFingerprint := ⟨invoice.merchantId, request, settlementDestination⟩
  transportUrl := request.transportUrl

/-- The row of a route at its position. -/
def invoiceRouteRow (invoice : OpenInvoice)
    (settlementDestination : CashuStellarSettlementDestination)
    (route : AcceptedOperatorRoute × Nat) : InvoiceRouteRow where
  invoiceId := invoice.id
  merchantId := invoice.merchantId
  position := route.2
  operatorId := route.1.operatorId
  mintUrl := route.1.mintUrl
  mode := route.1.mode
  tier := route.1.tier
  reason := route.1.reason
  settlementDestination

def insertCashuPaymentRequest (s : Session) (invoice : OpenInvoice)
    (request : CashuPaymentRequest)
    (settlementDestination : CashuStellarSettlementDestination) : Except InvoiceError Session := do
  let s ← invoiceStatement
    (insertInvoiceRequest s (invoiceRequestRow invoice request settlementDestination))
  request.operators.zipIdx.foldlM
    (fun s route =>
      invoiceStatement (insertInvoiceRoute s (invoiceRouteRow invoice settlementDestination route)))
    s

/-- The invoice that a row stores. -/
def mapInvoiceRow (row : MerchantInvoiceRow) : Except InvoiceError OpenInvoice := do
  let invalid : InvoiceError := ⟨.invalidRecord, "Stored invoice fields are invalid."⟩
  ensure
    ((row.state = .open ∧ row.paidAt = none) ∨
      (row.state = .paid ∧ ∃ paidAt ∈ row.paidAt, row.createdAt ≤ paidAt ∧ paidAt < row.expiresAt))
    invalid
  (createInvoice {
    amount := row.amount
    createdAt := row.createdAt
    expiresAt := row.expiresAt
    id := row.id
    merchantId := row.merchantId }).mapError fun _ => invalid

/-- The stored invoice of a repeated request. -/
def readReplay (db : Db) (creation : InvoiceCreationRow) (input : CreateOpenInvoiceInput) :
    Except InvoiceError CreateOpenInvoiceResult := do
  let row ← orFail
    (db.merchantInvoices.find fun row =>
      row.id = creation.invoiceId ∧ row.merchantId = creation.merchantId)
    ⟨.invalidRecord, "Invoice idempotency record has no matching issued invoice."⟩
  ensure (creation.requestFingerprint = input.requestFingerprint) .idempotencyConflict
  let invoice ← mapInvoiceRow row
  let requestRow ← orFail (db.requestOf invoice.id invoice.merchantId) .invalidCashuRecord
  let cashuPaymentRequest ← orFail
    (reconstructStoredCashuPaymentRequest requestRow
      (db.routesOf invoice.id invoice.merchantId) invoice)
    .invalidCashuRecord
  return {
    cashuPaymentRequest
    invoice
    replayed := true }

def createOpenInvoice (db : Db) (input : CreateOpenInvoiceInput) :
    Except InvoiceError (CreateOpenInvoiceResult × Db) := do
  let cashuPaymentRequest ← validateCashuPaymentRequest input.invoice input.cashuPaymentRequest
  let existing := db.invoiceCreationRequests.find fun row =>
    row.merchantId = input.invoice.merchantId ∧ row.idempotencyKey = input.idempotencyKey
  match existing with
  | some creation =>
      let replay ← readReplay db creation input
      return (replay, db)
  | none =>
      let s ← invoiceStatement (insertInvoiceCreation ⟨db, []⟩ {
        merchantId := input.invoice.merchantId
        idempotencyKey := input.idempotencyKey
        requestFingerprint := input.requestFingerprint
        invoiceId := input.invoice.id
        createdAt := input.invoice.createdAt })
      let s ← invoiceStatement (insertInvoice s {
        id := input.invoice.id
        merchantId := input.invoice.merchantId
        amount := input.invoice.amount
        createdAt := input.invoice.createdAt
        expiresAt := input.invoice.expiresAt
        state := .open
        paidAt := none })
      let s ← insertCashuPaymentRequest s input.invoice cashuPaymentRequest
        input.settlementDestination
      let db ← invoiceStatement s.commit
      return ({
        cashuPaymentRequest
        invoice := input.invoice
        replayed := false }, db)

/-! ### Keyset observations -/

/-- The errors of the keyset repository that an observation can meet. -/
inductive KeysetError where
  | keysetConflict
  | observationConflict
  | storageUnavailable
deriving DecidableEq

/-- `persistObservation` of the keyset repository, with whether it was a replay. -/
def persistKeysetObservation (db : Db) (row : KeysetObservationRow) :
    Except KeysetError (Bool × Db) := do
  -- `persistKeysetIdentity`: what a mint once said of a keyset never changes.
  ensure
    (∀ observation ∈ db.cashuKeysetObservations, observation.mintUrl = row.mintUrl →
      ∀ stored ∈ observation.keysets, ∀ keyset ∈ row.keysets,
        stored.id = keyset.id → stored = keyset)
    .keysetConflict
  match db.cashuKeysetObservations.find fun observation => Collide observation row with
  | some existing => do
      ensure (existing = row) .observationConflict
      return (true, db)
  | none => do
      let s ← (insertKeysetObservation ⟨db, []⟩ row).mapError fun _ => .storageUnavailable
      let db ← s.commit.mapError fun _ => .storageUnavailable
      return (false, db)

/-! ### Reservations -/

/-- `CashuProofReservationRepositoryErrorCode`. -/
inductive ReservationErrorCode where
  | invalidInput
  | invalidRecord
  | invoiceNotOpen
  | keysetEvidenceMissing
  | paymentConflict
  | proofConflict
  | reservationReleased
  | reservationWindowClosed
  | routeNotAccepted
  | storageUnavailable
deriving DecidableEq

structure ReservationError where
  code : ReservationErrorCode
  message : String
deriving DecidableEq

namespace ReservationError

def invalidInput : ReservationError :=
  ⟨.invalidInput, "Cashu proof reservation input is invalid."⟩

def invalidRecord : ReservationError :=
  ⟨.invalidRecord, "Stored Cashu proof reservation is invalid."⟩

/-- `mapStorageError` on what the database raises. -/
def ofDbError : DbError → ReservationError
  | .uniqueViolation .cashuActiveProofClaimsPkey =>
      ⟨.proofConflict, "Cashu proof is already reserved by another payment."⟩
  | _ => ⟨.storageUnavailable, "Cashu proof reservation storage operation failed."⟩

end ReservationError

/-- Run a statement within a reservation transaction. -/
def reservationStatement {α : Type} (statement : Except DbError α) : Except ReservationError α :=
  statement.mapError .ofDbError

@[simp] theorem reservationStatement_eq_ok {α : Type} {statement : Except DbError α} {a : α} :
    reservationStatement statement = .ok a ↔ statement = .ok a :=
  mapError_eq_ok

structure ReserveInput where
  invoiceId : InvoiceId
  keysetObservedAt : UnixTimestamp
  mintUrl : MintUrl
  operatorId : OperatorId
  paymentId : PaymentId
  proofReferences : List CashuProofReference
  reservedAt : UnixTimestamp
  unit : CashuUnit
deriving DecidableEq

structure ReserveResult where
  replayed : Bool
  reservation : CashuProofReservation
deriving DecidableEq

/-- The reservation of the input, with its proofs in the order of their points. -/
def createReservation (input : ReserveInput) : Except ReservationError CashuProofReservation := do
  let grossAmount := (input.proofReferences.map (·.amount)).sum
  ensure
    (input.proofReferences ≠ [] ∧ input.proofReferences.length ≤ maxNut18PaymentProofs ∧
      (∀ proof ∈ input.proofReferences, 0 < proof.amount) ∧
      (input.proofReferences.map (·.y)).Nodup ∧ grossAmount ≤ maxSafeInteger ∧
      input.reservedAt ≤ maxSafeInteger ∧ input.keysetObservedAt ≤ input.reservedAt)
    .invalidInput
  return {
    grossAmount
    invoiceId := input.invoiceId
    keysetObservedAt := input.keysetObservedAt
    mintUrl := input.mintUrl
    operatorId := input.operatorId
    paymentId := input.paymentId
    proofReferences := input.proofReferences.insertionSort fun left right =>
      left.y.val ≤ right.y.val
    reservedAt := input.reservedAt
    unit := input.unit }

def assertInvoiceRoute (db : Db) (reservation : CashuProofReservation) :
    Except ReservationError Unit := do
  let notOpen : ReservationError :=
    ⟨.invoiceNotOpen, "Cashu proofs can only be reserved for an open invoice."⟩
  let invoice ← orFail (db.invoice reservation.invoiceId) notOpen
  ensure (invoice.state = .open) notOpen
  ensure (reservation.unit = cashuStellarUnit) .invalidInput
  ensure
    (invoice.createdAt ≤ reservation.reservedAt ∧ reservation.reservedAt < invoice.expiresAt)
    ⟨.reservationWindowClosed, "Cashu proofs cannot be reserved outside the invoice window."⟩
  ensure (db.routeOf reservation.invoiceId reservation.operatorId reservation.mintUrl).isSome
    ⟨.routeNotAccepted, "Cashu proofs do not match an operator route accepted by the invoice."⟩

def assertKeysetEvidence (db : Db) (reservation : CashuProofReservation) :
    Except ReservationError Unit :=
  ensure
    (∀ proof ∈ reservation.proofReferences,
      ∃ observation ∈ db.cashuKeysetObservations,
        observation.operatorId = reservation.operatorId ∧
          observation.mintUrl = reservation.mintUrl ∧ observation.unit = reservation.unit ∧
          observation.observedAt = reservation.keysetObservedAt ∧
          ∃ keyset ∈ observation.keysets, keyset.id = proof.keysetId)
    ⟨.keysetEvidenceMissing,
      "Cashu proof reservation lacks matching keyset observation evidence."⟩

/-- The reservation that the rows store. -/
def mapReservation (db : Db) (row : ReservationRow) :
    Except ReservationError CashuProofReservation := do
  let proofs := db.reservedProofsOf row.paymentId
  ensure
    (proofs ≠ [] ∧ proofs.map (·.position) = List.range proofs.length ∧
      ∀ proof ∈ proofs, proof.mintUrl = row.mintUrl ∧ proof.unit = row.unit)
    .invalidRecord
  let proofReferences := proofs.map fun proof : ReservedProofRow =>
    { amount := proof.amount
      keysetId := proof.keysetId
      y := proof.proofY : CashuProofReference }
  let reservation ←
    (createReservation {
      invoiceId := row.invoiceId
      keysetObservedAt := row.keysetObservedAt
      mintUrl := row.mintUrl
      operatorId := row.operatorId
      paymentId := row.paymentId
      proofReferences
      reservedAt := row.reservedAt
      unit := row.unit }).mapError fun _ => .invalidRecord
  ensure
    (reservation.grossAmount = row.grossAmount ∧ reservation.proofReferences = proofReferences ∧
      reservation = row.reservationFingerprint)
    .invalidRecord
  return reservation

def replayReservation (db : Db) (row : ReservationRow) (expected : CashuProofReservation) :
    Except ReservationError ReserveResult := do
  ensure (row.reservationFingerprint = expected)
    ⟨.paymentConflict,
      "Payment identifier was already used for a different proof reservation."⟩
  let reservation ← mapReservation db row
  ensure (db.latestState reservation.paymentId ≠ some .released)
    ⟨.reservationReleased,
      "Released Cashu proof reservations cannot be reactivated by replay."⟩
  ensure
    ((db.proofClaimsOf reservation.paymentId).length = reservation.proofReferences.length)
    .invalidRecord
  return {
    replayed := true
    reservation }

/-- The reservation row of a reservation. -/
def reservationRow (reservation : CashuProofReservation) : ReservationRow where
  paymentId := reservation.paymentId
  reservationFingerprint := reservation
  invoiceId := reservation.invoiceId
  operatorId := reservation.operatorId
  mintUrl := reservation.mintUrl
  unit := reservation.unit
  keysetObservedAt := reservation.keysetObservedAt
  reservedAt := reservation.reservedAt
  grossAmount := reservation.grossAmount

/-- The row of a reserved proof at its position. -/
def reservedProofRow (reservation : CashuProofReservation) (proof : CashuProofReference × Nat) :
    ReservedProofRow where
  paymentId := reservation.paymentId
  mintUrl := reservation.mintUrl
  unit := reservation.unit
  position := proof.2
  proofY := proof.1.y
  keysetId := proof.1.keysetId
  amount := proof.1.amount

/-- `reserve`. A row that collides with another one is not inserted: a second lookup then finds the
payment, which here it has not, since a transaction sees one state. -/
def reserve (db : Db) (input : ReserveInput) : Except ReservationError (ReserveResult × Db) := do
  let reservation ← createReservation input
  match db.reservation reservation.paymentId with
  | some existing =>
      let replay ← replayReservation db existing reservation
      return (replay, db)
  | none =>
      assertInvoiceRoute db reservation
      assertKeysetEvidence db reservation
      ensure (∀ row ∈ db.cashuProofReservations, ¬Collide row (reservationRow reservation))
        .invalidRecord
      let s ← reservationStatement (insertReservation ⟨db, []⟩ (reservationRow reservation))
      let s ← reservation.proofReferences.zipIdx.foldlM
        (fun s proof =>
          reservationStatement (insertReservedProof s (reservedProofRow reservation proof))) s
      let db ← reservationStatement s.commit
      return ({
        replayed := false
        reservation }, db)

/-! ### Custody -/

/-- The codes of the custody repository that storing and opening a bundle can meet. -/
inductive CustodyErrorCode where
  | custodyConflict
  | invalidInput
  | invalidRecord
  | invalidReservationState
  | reservationNotFound
  | storageUnavailable
deriving DecidableEq

/-- Whether a bundle holds exactly the reserved proofs. -/
def BundleMatchesReservation (db : Db) (bundle : CashuBearerProofBundle)
    (reservation : ReservationRow) : Prop :=
  bundle.invoiceId = reservation.invoiceId ∧ bundle.mintUrl = reservation.mintUrl ∧
    bundle.unit = reservation.unit ∧
    bundle.proofReferences = (db.reservedProofsOf reservation.paymentId).map fun proof =>
      { amount := proof.amount
        keysetId := proof.keysetId
        y := proof.proofY }

instance (db : Db) (bundle : CashuBearerProofBundle) (reservation : ReservationRow) :
    Decidable (BundleMatchesReservation db bundle reservation) :=
  inferInstanceAs (Decidable (_ ∧ _))

/-- `store` of the custody repository, with whether it was a replay. -/
def storeCustody (db : Db) (paymentId : PaymentId) (bundle : CashuBearerProofBundle)
    (createdAt : UnixTimestamp) : Except CustodyErrorCode (Bool × Db) := do
  let reservation ← orFail (db.reservation paymentId) .reservationNotFound
  ensure (BundleMatchesReservation db bundle reservation) .invalidInput
  match db.custodyOf paymentId with
  | some existing =>
      ensure (existing.createdAt = createdAt ∧ existing.bundle = bundle) .custodyConflict
      return (true, db)
  | none =>
      let invoice ← orFail (db.invoice reservation.invoiceId) .reservationNotFound
      ensure
        (db.latestState paymentId = none ∧ db.effectsOf paymentId = [] ∧ invoice.state = .open ∧
          reservation.reservedAt ≤ createdAt ∧ invoice.createdAt ≤ createdAt ∧
          createdAt < invoice.expiresAt)
        .invalidReservationState
      let s ← (insertCustody ⟨db, []⟩ {
        paymentId
        bundle
        proofCount := (db.reservedProofsOf paymentId).length
        createdAt }).mapError fun _ => .storageUnavailable
      let db ← s.commit.mapError fun _ => .storageUnavailable
      return (false, db)

/-- `retrieveBundle` of the custody repository. -/
def retrieveBundle (db : Db) (paymentId : PaymentId) :
    Except CustodyErrorCode (Option CashuBearerProofBundle) :=
  match db.reservation paymentId, db.custodyOf paymentId with
  | some reservation, some record => do
      ensure (∀ state ∈ db.latestState paymentId, ¬state.toReservationState.Terminal)
        .invalidRecord
      ensure (BundleMatchesReservation db record.bundle reservation) .invalidRecord
      return some record.bundle
  | _, _ => return none

end CashMesh.Acquirer
