import CashMesh.Acquirer.Issuing
import CashMesh.Lib.Process
import CashMesh.Lib.Transaction
/-!
# The invoice service

A merchant asks for an invoice under an idempotency key. The service looks the key up, and only if
nobody has it yet makes an invoice with a fresh identifier, has its payment request issued, and stores
both in one transaction, at most three times while the identifiers it is given are taken.

Any number of requests are served at a time, by services of any configuration. A response is the last
effect of a request, so that the history keeps what merchants were told whatever becomes of the service
afterwards.
-/

namespace CashMesh.Acquirer

open CashMesh.Lib

/-! ### Requests -/

/-- `CreateMerchantInvoiceInput`, with the identifiers as the merchant gives them. -/
structure CreateMerchantInvoiceInput where
  amount : Nat
  expiresAt : Nat
  idempotencyKey : String
  merchantId : String
deriving DecidableEq

/-- What a request asks of a service, once its fields are valid. -/
structure InvoiceRequest where
  amount : MinorUnitAmount
  expiresAt : UnixTimestamp
  merchantId : MerchantId
  settlementDestination : CashuStellarSettlementDestination
deriving DecidableEq

/-- What `fingerprintRequest` hashes: the JSON text of the request. No character of an identifier or of
a destination has to be escaped in it. -/
def fingerprintRequest (request : InvoiceRequest) : String :=
  "\x7b\"amount\":" ++ Nat.repr request.amount ++
    ",\"expiresAt\":" ++ Nat.repr request.expiresAt ++
    ",\"merchantId\":\"" ++ request.merchantId.val ++
    "\",\"settlementDestination\":\"" ++ request.settlementDestination.val ++
    "\",\"schemaVersion\":1\x7d"

/-! ### Errors -/

inductive InvoiceServiceErrorCode where
  | idempotencyConflict
  | invalidInvoice
  | invalidRequest
  | paymentRequestUnavailable
  | storageUnavailable
deriving DecidableEq

structure InvoiceServiceError where
  code : InvoiceServiceErrorCode
  message : String
deriving DecidableEq

/-- `mapRepositoryError`. -/
def mapRepositoryError (error : InvoiceError) : InvoiceServiceError :=
  match error.code with
  | .idempotencyConflict =>
      ⟨.idempotencyConflict, "Idempotency key was already used for a different invoice request."⟩
  | _ => ⟨.storageUnavailable, "Invoice storage is unavailable."⟩

/-! ### The reads of the repository -/

/-- `IssuedInvoiceV1`. -/
structure IssuedInvoice where
  cashuPaymentRequest : CashuPaymentRequest
  invoice : OpenInvoice
deriving DecidableEq

/-- `FindInvoiceCreationRecord`. -/
structure FindInvoiceCreationInput where
  idempotencyKey : Identifier
  merchantId : MerchantId
  requestFingerprint : String
deriving DecidableEq

/-- A row that `findCreationRow` joins. -/
structure CreationRow where
  requestFingerprint : String
  invoice : MerchantInvoiceRow
  request : Option InvoiceCashuRequestRow
deriving DecidableEq

def findCreationRow (db : Db) (merchantId : MerchantId) (idempotencyKey : Identifier) :
    Option CreationRow := do
  let creation ← db.invoiceCreationRequests.find fun row =>
    row.merchantId = merchantId ∧ row.idempotencyKey = idempotencyKey
  let invoice ← db.merchantInvoices.find fun row =>
    row.id = creation.invoiceId ∧ row.merchantId = creation.merchantId
  return {
    requestFingerprint := creation.requestFingerprint
    invoice
    request := db.requestOf invoice.id invoice.merchantId }

/-! ### A request that is served -/

/-- The configuration of a service: what issues the payment requests, and where its invoices settle. -/
structure InvoiceService where
  issue : OpenInvoice → UnixTimestamp → Option CashuPaymentRequest
  settlementDestination : CashuStellarSettlementDestination

/-- What a merchant was told about a request. -/
structure InvoiceResponse where
  input : CreateMerchantInvoiceInput
  settlementDestination : CashuStellarSettlementDestination
  outcome : Except InvoiceServiceError CreateOpenInvoiceResult
deriving DecidableEq

/-- One query or transaction of the repository, a reading of the clock, an identifier that the factory
is asked for, or the response. -/
inductive InvoiceEffect where
  | readClock
  | generateInvoiceId
  | findCreationRow (merchantId : MerchantId) (idempotencyKey : Identifier)
  | findRoutes (invoice : OpenInvoice)
  | createOpenInvoice (input : CreateOpenInvoiceInput)
  | respond (response : InvoiceResponse)

/-- The answers. A clock or a factory can throw or return what is none. -/
abbrev InvoiceAnswer : InvoiceEffect → Type
  | .readClock => Option Nat
  | .generateInvoiceId => Option String
  | .findCreationRow _ _ => Except InvoiceError (Option CreationRow)
  | .findRoutes _ => Except InvoiceError (List InvoiceRouteRow)
  | .createOpenInvoice _ => Except InvoiceError CreateOpenInvoiceResult
  | .respond _ => Unit

abbrev InvoiceProcess (ε : Type) := Process InvoiceEffect InvoiceAnswer ε

namespace InvoiceService

variable {ε : Type}

def perform (effect : InvoiceEffect) : InvoiceProcess ε (InvoiceAnswer effect) :=
  Process.perform effect

/-- `mapIssuedInvoice`. -/
def mapIssuedInvoice (row : CreationRow) : InvoiceProcess InvoiceError IssuedInvoice := do
  let invoice ← Process.ofExcept (mapInvoiceRow row.invoice)
  match ← perform (.findRoutes invoice) with
  | .error error => throw error
  | .ok operators => do
      let requestRow ← Process.ofExcept (orFail row.request .invalidCashuRecord)
      let cashuPaymentRequest ← Process.ofExcept
        (orFail (reconstructStoredCashuPaymentRequest requestRow operators invoice)
          .invalidCashuRecord)
      return { cashuPaymentRequest, invoice }

/-- `findInvoiceCreation` of the repository. -/
def findInvoiceCreation (input : FindInvoiceCreationInput) :
    InvoiceProcess InvoiceError (Option IssuedInvoice) := do
  match ← perform (.findCreationRow input.merchantId input.idempotencyKey) with
  | .error error => throw error
  | .ok none => return none
  | .ok (some row) => do
      let _ ← Process.ofExcept
        (ensure (row.requestFingerprint = input.requestFingerprint) .idempotencyConflict)
      let issued ← mapIssuedInvoice row
      return some issued

def readClock : InvoiceProcess InvoiceServiceError UnixTimestamp := do
  match ← perform .readClock with
  | none => throw ⟨.storageUnavailable, "Invoice clock is unavailable."⟩
  | some timestamp =>
      if timestamp ≤ maxSafeInteger then
        return timestamp
      else
        throw ⟨.storageUnavailable, "Invoice clock is unavailable."⟩

def generateInvoiceId : InvoiceProcess InvoiceServiceError InvoiceId := do
  match ← perform .generateInvoiceId with
  | none => throw ⟨.storageUnavailable, "Invoice identifier generation failed."⟩
  | some text =>
      if hpattern : identifierPattern text = true then
        return ⟨text, hpattern⟩
      else
        throw ⟨.storageUnavailable, "Invoice identifier generation failed."⟩

/-- The attempts that are left to a request whose key nobody has. -/
def createInvoices (service : InvoiceService) (requestKey : Identifier) (request : InvoiceRequest)
    (createdAt : UnixTimestamp) : Nat → InvoiceProcess InvoiceServiceError CreateOpenInvoiceResult
  | 0 => throw ⟨.storageUnavailable, "Invoice could not be created."⟩
  | attempts + 1 => do
      let id ← generateInvoiceId
      let invoice ← Process.ofExcept
        ((createInvoice {
          amount := request.amount
          createdAt
          expiresAt := request.expiresAt
          id
          merchantId := request.merchantId }).mapError fun _ =>
            ⟨.invalidInvoice, "Invoice expiry must be after the current server time."⟩)
      let cashuPaymentRequest ← Process.ofExcept
        (orFail (service.issue invoice createdAt)
          ⟨.paymentRequestUnavailable, "Cashu payment request could not be issued."⟩)
      match ← perform (.createOpenInvoice {
        cashuPaymentRequest
        idempotencyKey := requestKey
        invoice
        requestFingerprint := fingerprintRequest request
        settlementDestination := request.settlementDestination }) with
      | .ok result => return result
      | .error error =>
          if error.code = .invoiceIdConflict ∧ 0 < attempts then
            createInvoices service requestKey request createdAt attempts
          else
            throw (mapRepositoryError error)

/-- `INVOICE_ID_ATTEMPTS`. -/
def invoiceIdAttempts : Nat := 3

/-- The key and the request of an input, once its fields are valid. -/
def validateInput (settlementDestination : CashuStellarSettlementDestination)
    (input : CreateMerchantInvoiceInput) :
    Except InvoiceServiceError (Identifier × InvoiceRequest) :=
  if hpatterns : identifierPattern input.merchantId = true ∧
      identifierPattern input.idempotencyKey = true then do
    let invalid : InvoiceServiceError :=
      ⟨.invalidInvoice, "Invoice amount or expiry is invalid."⟩
    let amount ← (minorUnits input.amount).mapError fun _ => invalid
    let _ ← (assertUnixTimestamp input.expiresAt).mapError fun _ => invalid
    ensure (amount ≠ 0) invalid
    return (⟨input.idempotencyKey, hpatterns.2⟩, {
      amount
      expiresAt := input.expiresAt
      merchantId := ⟨input.merchantId, hpatterns.1⟩
      settlementDestination })
  else
    .error ⟨.invalidRequest, "Merchant identifier or idempotency key is invalid."⟩

def create (service : InvoiceService) (input : CreateMerchantInvoiceInput) :
    InvoiceProcess InvoiceServiceError CreateOpenInvoiceResult := do
  let (requestKey, request) ← Process.ofExcept
    (validateInput service.settlementDestination input)
  match ← (findInvoiceCreation {
    idempotencyKey := requestKey
    merchantId := request.merchantId
    requestFingerprint := fingerprintRequest request }).attempt with
  | .error error => throw (mapRepositoryError error)
  | .ok (some existing) =>
      return {
        cashuPaymentRequest := existing.cashuPaymentRequest
        invoice := existing.invoice
        replayed := true }
  | .ok none => do
      let createdAt ← readClock
      service.createInvoices requestKey request createdAt invoiceIdAttempts

/-- A request from its input to its response. -/
def serve (service : InvoiceService) (input : CreateMerchantInvoiceInput) :
    InvoiceProcess InvoiceServiceError Unit := do
  let outcome ← (service.create input).attempt
  perform (.respond ⟨input, service.settlementDestination, outcome⟩)

end InvoiceService

/-! ### Services over the database -/

/-- The committed rows and every response there has been, the last one first. -/
@[ext]
structure InvoicingWorld where
  db : Db
  responses : List InvoiceResponse
deriving DecidableEq

/-- The storage error that a lost connection is mapped to. -/
def InvoiceError.storageFailed : InvoiceError :=
  ⟨.storageUnavailable, "Invoice storage operation failed."⟩

/-- One effect of a request, its answer and the world after it. -/
def InvoicingWorld.performs :
    (effect : InvoiceEffect) → InvoicingWorld → InvoiceAnswer effect → InvoicingWorld → Prop
  | .readClock, w, _, w' => w' = w
  | .generateInvoiceId, w, _, w' => w' = w
  | .findCreationRow merchantId idempotencyKey, w, answer, w' =>
      Queries .storageFailed (.ok (findCreationRow w.db merchantId idempotencyKey)) answer ∧ w' = w
  | .findRoutes invoice, w, answer, w' =>
      Queries .storageFailed (.ok (w.db.routesOf invoice.id invoice.merchantId)) answer ∧ w' = w
  | .createOpenInvoice input, w, answer, w' =>
      Transacts .storageFailed (createOpenInvoice w.db input) w.db answer w'.db ∧
        w'.responses = w.responses
  | .respond response, w, _, w' =>
      w'.db = w.db ∧ w'.responses = response :: w.responses

/-- An operation of the rest of the acquirer. No other part of it creates invoices. -/
def InvoicingWorld.OtherStep (w w' : InvoicingWorld) : Prop :=
  w'.responses = w.responses ∧ ∃ operation : Operation,
    (∀ input, operation ≠ .createOpenInvoice input) ∧ operation.run w.db = some w'.db

/-- Requests of any input, to services of any configuration. -/
def InvoiceStarts (process : InvoiceProcess InvoiceServiceError Unit) : Prop :=
  ∃ (service : InvoiceService) (input : CreateMerchantInvoiceInput), process = service.serve input

/-- Any run of requests and of the rest of the acquirer, from the empty database. -/
def InvoicingReachable
    (c : Pool InvoicingWorld (InvoiceProcess InvoiceServiceError Unit)) : Prop :=
  Relation.ReflTransGen
    (Pool.Step InvoicingWorld.performs InvoicingWorld.OtherStep InvoiceStarts)
    ⟨⟨Db.empty, []⟩, []⟩ c

end CashMesh.Acquirer
