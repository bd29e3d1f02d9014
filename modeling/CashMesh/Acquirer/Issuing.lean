import CashMesh.Acquirer.System
/-!
# Invoices that are issued at the same time

`createOpenInvoice` statement by statement. A transaction runs at read committed: each statement sees
the rows committed when it starts, and the inserts of its own transaction over them. An insert whose
row shares a unique key with the insert of another open transaction waits for that transaction to
end, which is a step that the call cannot take yet. What the call has inserted is committed by its
last step or not at all.

The calls of a world run in any order. Their answers can be lost after the commit, they can break at
any statement, which rolls their inserts back, and the other operations of the database go on between
them.
-/

namespace CashMesh.Acquirer

open CashMesh.Lib

/-! ### The inserts of a call -/

/-- An insert of `createOpenInvoice`. -/
inductive InvoiceInsert where
  | creation (row : InvoiceCreationRow)
  | invoice (row : MerchantInvoiceRow)
  | request (row : InvoiceCashuRequestRow)
  | route (row : InvoiceRouteRow)
deriving DecidableEq

namespace InvoiceInsert

def run (s : Session) : InvoiceInsert → Except DbError Session
  | creation row => insertInvoiceCreation s row
  | invoice row => insertInvoice s row
  | request row => insertInvoiceRequest s row
  | route row => insertInvoiceRoute s row

/-- When the rows of two inserts share a unique key of their table. -/
def Conflicts : InvoiceInsert → InvoiceInsert → Prop
  | creation row, creation row' => Collide row row'
  | invoice row, invoice row' => Collide row row'
  | request row, request row' => Collide row row'
  | route row, route row' => Collide row row'
  | _, _ => False

instance : DecidableRel Conflicts
  | creation row, creation row' => inferInstanceAs (Decidable (Collide row row'))
  | invoice row, invoice row' => inferInstanceAs (Decidable (Collide row row'))
  | request row, request row' => inferInstanceAs (Decidable (Collide row row'))
  | route row, route row' => inferInstanceAs (Decidable (Collide row row'))
  | creation _, invoice _ | creation _, request _ | creation _, route _ => .isFalse id
  | invoice _, creation _ | invoice _, request _ | invoice _, route _ => .isFalse id
  | request _, creation _ | request _, invoice _ | request _, route _ => .isFalse id
  | route _, creation _ | route _, invoice _ | route _, request _ => .isFalse id

/-- Whether `ON CONFLICT (merchant_id, idempotency_key) DO NOTHING` skips the insert. -/
def Skipped (committed : Db) : InvoiceInsert → Prop
  | creation row => ∃ old ∈ committed.invoiceCreationRequests,
      old.merchantId = row.merchantId ∧ old.idempotencyKey = row.idempotencyKey
  | _ => False

instance (committed : Db) : DecidablePred (Skipped committed)
  | creation row => inferInstanceAs (Decidable (∃ old ∈ committed.invoiceCreationRequests,
      old.merchantId = row.merchantId ∧ old.idempotencyKey = row.idempotencyKey))
  | invoice _ | request _ | route _ => .isFalse id

end InvoiceInsert

/-- The row of `invoice_creation_requests`. -/
def CreateOpenInvoiceInput.creationRow (input : CreateOpenInvoiceInput) : InvoiceCreationRow where
  merchantId := input.invoice.merchantId
  idempotencyKey := input.idempotencyKey
  requestFingerprint := input.requestFingerprint
  invoiceId := input.invoice.id
  createdAt := input.invoice.createdAt

/-- The row of `merchant_invoices`. -/
def CreateOpenInvoiceInput.invoiceRow (input : CreateOpenInvoiceInput) : MerchantInvoiceRow where
  id := input.invoice.id
  merchantId := input.invoice.merchantId
  amount := input.invoice.amount
  createdAt := input.invoice.createdAt
  expiresAt := input.invoice.expiresAt
  state := .open
  paidAt := none

/-- The inserts of a call in the order in which it runs them. -/
def CreateOpenInvoiceInput.inserts (input : CreateOpenInvoiceInput)
    (request : CashuPaymentRequest) : List InvoiceInsert :=
  [.creation input.creationRow, .invoice input.invoiceRow,
    .request (invoiceRequestRow input.invoice request input.settlementDestination)] ++
  request.operators.zipIdx.map fun route =>
    .route (invoiceRouteRow input.invoice input.settlementDestination route)

/-- What a transaction with some inserts sees: they succeeded when they ran, and they go over the rows
that are committed now. -/
def sessionAfter (committed : Db) (inserts : List InvoiceInsert) : Except DbError Session :=
  inserts.foldlM InvoiceInsert.run ⟨committed, []⟩

/-- The first query of `readReplay`, `findCreationRow`: the invoice of the key and its request row. -/
def readCreation (committed : Db) (input : CreateOpenInvoiceInput) :
    Except InvoiceError (OpenInvoice × Option InvoiceCashuRequestRow) := do
  let missing : InvoiceError :=
    ⟨.invalidRecord, "Invoice idempotency record has no matching issued invoice."⟩
  let creation ← orFail
    (committed.invoiceCreationRequests.find fun row =>
      row.merchantId = input.invoice.merchantId ∧ row.idempotencyKey = input.idempotencyKey)
    missing
  let row ← orFail
    (committed.merchantInvoices.find fun row =>
      row.id = creation.invoiceId ∧ row.merchantId = creation.merchantId)
    missing
  ensure (creation.requestFingerprint = input.requestFingerprint) .idempotencyConflict
  let invoice ← mapInvoiceRow row
  return (invoice, committed.requestOf row.id row.merchantId)

/-- The second query of `readReplay`, of the routes, and the request that the rows give. -/
def readRoutes (committed : Db) (invoice : OpenInvoice)
    (requestRow : Option InvoiceCashuRequestRow) : Except InvoiceError CashuPaymentRequest := do
  let requestRow ← orFail requestRow .invalidCashuRecord
  orFail
    (reconstructStoredCashuPaymentRequest requestRow
      (committed.routesOf invoice.id invoice.merchantId) invoice)
    .invalidCashuRecord

/-! ### Calls -/

/-- Where a call is. -/
inductive CreationPhase where
  | entered
  /-- It has inserted some rows and has some more to insert. -/
  | inserting (request : CashuPaymentRequest) (done rest : List InvoiceInsert)
  /-- Its first insert was skipped. -/
  | replaying
  /-- It has read the invoice of its key. -/
  | found (invoice : OpenInvoice) (requestRow : Option InvoiceCashuRequestRow)
  | replayed (result : CreateOpenInvoiceResult)
  /-- It has committed, and its caller has the result. -/
  | returned (result : CreateOpenInvoiceResult)
  /-- It has committed, and its answer is lost. -/
  | lost (result : CreateOpenInvoiceResult)
  | refused (error : InvoiceError)
  /-- The storage failed before it committed. -/
  | broken
deriving DecidableEq

namespace CreationPhase

/-- The result of a call that has committed. -/
def result? : CreationPhase → Option CreateOpenInvoiceResult
  | returned result => some result
  | lost result => some result
  | _ => none

/-- What an open transaction has inserted. -/
def held : CreationPhase → List InvoiceInsert
  | inserting _ done _ => done
  | _ => []

/-- Whether the call has not come to its end. -/
def Running : CreationPhase → Prop
  | entered | inserting .. | replaying | found .. | replayed _ => True
  | returned _ | lost _ | refused _ | broken => False

end CreationPhase

structure CreationCall where
  input : CreateOpenInvoiceInput
  phase : CreationPhase
deriving DecidableEq

namespace CreationCall

/-- The merchant and the idempotency key. -/
def key (call : CreationCall) : MerchantId × Identifier :=
  (call.input.invoice.merchantId, call.input.idempotencyKey)

/-- The next step of a call by itself, with the rows that are committed after it, or `none` when it
waits or has come to its end. The other open transactions hold some inserts. -/
def advance (committed : Db) (heldByOthers : List InvoiceInsert) (call : CreationCall) :
    Option (CreationPhase × Db) :=
  match call.phase with
  | .entered =>
      match validateCashuPaymentRequest call.input.invoice call.input.cashuPaymentRequest with
      | .ok request => some (.inserting request [] (call.input.inserts request), committed)
      | .error error => some (.refused error, committed)
  | .inserting request done (insert :: rest) =>
      if insert.Skipped committed then
        some (.replaying, committed)
      else if ∃ other ∈ heldByOthers, insert.Conflicts other then
        none
      else
        match sessionAfter committed (done ++ [insert]) with
        | .ok _ => some (.inserting request (done ++ [insert]) rest, committed)
        | .error error => some (.refused (.ofDbError error), committed)
  | .inserting request done [] =>
      match sessionAfter committed done >>= Session.commit with
      | .ok db =>
          some (.returned ⟨request, call.input.invoice, false⟩, db)
      | .error error => some (.refused (.ofDbError error), committed)
  | .replaying =>
      match readCreation committed call.input with
      | .ok (invoice, requestRow) => some (.found invoice requestRow, committed)
      | .error error => some (.refused error, committed)
  | .found invoice requestRow =>
      match readRoutes committed invoice requestRow with
      | .ok request => some (.replayed ⟨request, invoice, true⟩, committed)
      | .error error => some (.refused error, committed)
  | .replayed result => some (.returned result, committed)
  | .returned _ | .lost _ | .refused _ | .broken => none

end CreationCall

/-! ### Worlds -/

/-- The committed rows and every call there has been, in the order in which they came. -/
structure IssuingWorld where
  committed : Db
  calls : List CreationCall

/-- What some calls have inserted and not committed. -/
def heldBy (calls : List CreationCall) : List InvoiceInsert :=
  calls.flatMap fun call => call.phase.held

/-- One step of a world. -/
inductive IssuingStep : IssuingWorld → IssuingWorld → Prop
  | enter {db calls} (input : CreateOpenInvoiceInput) :
      IssuingStep ⟨db, calls⟩ ⟨db, calls ++ [⟨input, .entered⟩]⟩
  | advance {db db' : Db} {calls : List CreationCall} {i : Nat} {input phase phase'}
      (hcall : calls[i]? = some ⟨input, phase⟩)
      (hadvance : CreationCall.advance db (heldBy (calls.eraseIdx i)) ⟨input, phase⟩ =
        some (phase', db')) :
      IssuingStep ⟨db, calls⟩ ⟨db', calls.set i ⟨input, phase'⟩⟩
  | lose {db} {calls : List CreationCall} {i : Nat} {input result}
      (hcall : calls[i]? = some ⟨input, .returned result⟩) :
      IssuingStep ⟨db, calls⟩ ⟨db, calls.set i ⟨input, .lost result⟩⟩
  | break {db} {calls : List CreationCall} {i : Nat} {input phase}
      (hcall : calls[i]? = some ⟨input, phase⟩) (hrunning : phase.Running) :
      IssuingStep ⟨db, calls⟩ ⟨db, calls.set i ⟨input, .broken⟩⟩
  | other {db db' calls} {operation : Operation}
      (hother : ∀ input, operation ≠ .createOpenInvoice input)
      (hrun : operation.run db = some db') :
      IssuingStep ⟨db, calls⟩ ⟨db', calls⟩

/-- A run of a world. -/
abbrev IssuingRun : IssuingWorld → IssuingWorld → Prop :=
  Relation.ReflTransGen IssuingStep

/-- The worlds that a run reaches from the empty database and no call. -/
def IssuingReachable (w : IssuingWorld) : Prop :=
  IssuingRun ⟨Db.empty, []⟩ w

end CashMesh.Acquirer
