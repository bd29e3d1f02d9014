import CashMesh.Acquirer.System
/-!
# Proofs that are reserved at the same time

`reserve` statement by statement, at read committed as for the invoices: a statement sees the rows that
are committed when it starts and, over them, the inserts of its own transaction, and an insert whose row
or whose claim shares a unique key with an insert of another open transaction waits until that one ends.
Two transactions that wait for each other are a deadlock, which breaks one of them.

The lock on the row of the invoice is left out. It keeps out runs in which the invoice changes under a
call; they are runs here, and nothing that follows rests on their absence.
-/

namespace CashMesh.Acquirer

open CashMesh.Lib

/-! ### The inserts of a call -/

/-- An insert of `reserve`. The insert of a proof inserts its claim, by a trigger. -/
inductive ReserveInsert where
  | reservation (row : ReservationRow)
  | proof (row : ReservedProofRow)
deriving DecidableEq

namespace ReserveInsert

def run (s : Session) : ReserveInsert → Except DbError Session
  | reservation row => insertReservation s row
  | proof row => insertReservedProof s row

/-- The claim that the insert of a proof inserts. -/
def claimRow (row : ReservedProofRow) : ActiveProofClaimRow where
  mintUrl := row.mintUrl
  proofY := row.proofY
  paymentId := row.paymentId

/-- When two inserts share a unique key of a table that they write. -/
def Conflicts : ReserveInsert → ReserveInsert → Prop
  | reservation row, reservation row' => Collide row row'
  | proof row, proof row' => Collide row row' ∨ Collide (claimRow row) (claimRow row')
  | _, _ => False

instance : DecidableRel Conflicts
  | reservation row, reservation row' => inferInstanceAs (Decidable (Collide row row'))
  | proof row, proof row' =>
      inferInstanceAs (Decidable (Collide row row' ∨ Collide (claimRow row) (claimRow row')))
  | reservation _, proof _ | proof _, reservation _ => .isFalse id

/-- Whether `ON CONFLICT DO NOTHING` skips the insert. -/
def Skipped (committed : Db) : ReserveInsert → Prop
  | reservation row => ∃ old ∈ committed.cashuProofReservations, Collide old row
  | proof _ => False

instance (committed : Db) : DecidablePred (Skipped committed)
  | reservation row =>
      inferInstanceAs (Decidable (∃ old ∈ committed.cashuProofReservations, Collide old row))
  | proof _ => .isFalse id

end ReserveInsert

/-- The inserts of a call in the order in which it runs them. -/
def CashuProofReservation.inserts (reservation : CashuProofReservation) : List ReserveInsert :=
  .reservation (reservationRow reservation) ::
    reservation.proofReferences.zipIdx.map fun proof => .proof (reservedProofRow reservation proof)

/-- What a transaction with some inserts sees: they succeeded when they ran, and they go over the rows
that are committed now. -/
def reserveSession (committed : Db) (inserts : List ReserveInsert) : Except DbError Session :=
  inserts.foldlM ReserveInsert.run ⟨committed, []⟩

/-! ### The statements of a replay -/

/-- `replayReservation` up to its first query, of the proofs of the row that was found. -/
def readReserved (committed : Db) (row : ReservationRow) (expected : CashuProofReservation) :
    Except ReservationError CashuProofReservation := do
  ensure (row.reservationFingerprint = expected)
    ⟨.paymentConflict,
      "Payment identifier was already used for a different proof reservation."⟩
  mapReservation committed row

/-- Its second query, of the latest event and the claims. -/
def readReplayable (committed : Db) (reservation : CashuProofReservation) :
    Except ReservationError ReserveResult := do
  ensure (committed.latestState reservation.paymentId ≠ some .released)
    ⟨.reservationReleased,
      "Released Cashu proof reservations cannot be reactivated by replay."⟩
  ensure
    ((committed.proofClaimsOf reservation.paymentId).length = reservation.proofReferences.length)
    .invalidRecord
  return {
    replayed := true
    reservation }

/-- Over the same rows the two queries are a replay. -/
theorem replayReservation_eq (db : Db) (row : ReservationRow) (expected : CashuProofReservation) :
    replayReservation db row expected = readReserved db row expected >>= readReplayable db := by
  rw [readReserved, bind_assoc]
  rfl

/-! ### Calls -/

/-- Where a call is. -/
inductive ReservePhase where
  | entered
  /-- It looks the payment up. -/
  | looking (reservation : CashuProofReservation)
  /-- The payment is new, and it checks the invoice and the route. -/
  | routing (reservation : CashuProofReservation)
  /-- It checks the keysets. -/
  | checking (reservation : CashuProofReservation)
  /-- It has inserted some rows and has some more to insert. -/
  | inserting (reservation : CashuProofReservation) (done rest : List ReserveInsert)
  /-- Its first insert was skipped, and it looks the payment up again. -/
  | skipped (reservation : CashuProofReservation)
  /-- It has found the row of its payment. -/
  | found (reservation : CashuProofReservation) (row : ReservationRow)
  /-- It has read the reservation of the row. -/
  | mapped (reservation : CashuProofReservation)
  | replayed (result : ReserveResult)
  /-- It has committed, and its caller has the result. -/
  | returned (result : ReserveResult)
  /-- It has committed, and its answer is lost. -/
  | lost (result : ReserveResult)
  | refused (error : ReservationError)
  /-- The storage failed before it committed: a deadlock, a timeout, a lost connection. -/
  | broken
deriving DecidableEq

namespace ReservePhase

/-- The result of a call that has committed. -/
def result? : ReservePhase → Option ReserveResult
  | returned result => some result
  | lost result => some result
  | _ => none

/-- What an open transaction has inserted. -/
def held : ReservePhase → List ReserveInsert
  | inserting _ done _ => done
  | _ => []

/-- Whether the call has not come to its end. -/
def Running : ReservePhase → Prop
  | returned _ | lost _ | refused _ | broken => False
  | _ => True

end ReservePhase

structure ReserveCall where
  input : ReserveInput
  phase : ReservePhase
deriving DecidableEq

namespace ReserveCall

/-- A phase after a statement that writes nothing. -/
def answer {α : Type} (committed : Db) (result : Except ReservationError α)
    (phase : α → ReservePhase) : Option (ReservePhase × Db) :=
  match result with
  | .ok value => some (phase value, committed)
  | .error error => some (.refused error, committed)

/-- The next step of a call by itself, with the rows that are committed after it, or `none` when it
waits or has come to its end. The other open transactions hold some inserts. -/
def advance (committed : Db) (heldByOthers : List ReserveInsert) (call : ReserveCall) :
    Option (ReservePhase × Db) :=
  match call.phase with
  | .entered => answer committed (createReservation call.input) .looking
  | .looking reservation =>
      match committed.reservation reservation.paymentId with
      | some row => some (.found reservation row, committed)
      | none => some (.routing reservation, committed)
  | .routing reservation =>
      answer committed (assertInvoiceRoute committed reservation) fun _ => .checking reservation
  | .checking reservation =>
      answer committed (assertKeysetEvidence committed reservation) fun _ =>
        .inserting reservation [] reservation.inserts
  | .inserting reservation done (insert :: rest) =>
      if insert.Skipped committed then
        some (.skipped reservation, committed)
      else if ∃ other ∈ heldByOthers, insert.Conflicts other then
        none
      else
        answer committed (reservationStatement (reserveSession committed (done ++ [insert]))) fun _ =>
          .inserting reservation (done ++ [insert]) rest
  | .inserting reservation done [] =>
      match reservationStatement (reserveSession committed done >>= Session.commit) with
      | .ok db => some (.returned ⟨false, reservation⟩, db)
      | .error error => some (.refused error, committed)
  | .skipped reservation =>
      answer committed (orFail (committed.reservation reservation.paymentId) .invalidRecord)
        (.found reservation)
  | .found reservation row => answer committed (readReserved committed row reservation) .mapped
  | .mapped reservation => answer committed (readReplayable committed reservation) .replayed
  | .replayed result => some (.returned result, committed)
  | .returned _ | .lost _ | .refused _ | .broken => none

end ReserveCall

/-! ### Worlds -/

/-- The committed rows and every call there has been, in the order in which they came. -/
structure ReservingWorld where
  committed : Db
  calls : List ReserveCall

/-- What some calls have inserted and not committed. -/
def heldInserts (calls : List ReserveCall) : List ReserveInsert :=
  calls.flatMap fun call => call.phase.held

/-- One step of a world. -/
inductive ReservingStep : ReservingWorld → ReservingWorld → Prop
  | enter {db calls} (input : ReserveInput) :
      ReservingStep ⟨db, calls⟩ ⟨db, calls ++ [⟨input, .entered⟩]⟩
  | advance {db db' : Db} {calls : List ReserveCall} {i : Nat} {input phase phase'}
      (hcall : calls[i]? = some ⟨input, phase⟩)
      (hadvance : ReserveCall.advance db (heldInserts (calls.eraseIdx i)) ⟨input, phase⟩ =
        some (phase', db')) :
      ReservingStep ⟨db, calls⟩ ⟨db', calls.set i ⟨input, phase'⟩⟩
  | lose {db} {calls : List ReserveCall} {i : Nat} {input result}
      (hcall : calls[i]? = some ⟨input, .returned result⟩) :
      ReservingStep ⟨db, calls⟩ ⟨db, calls.set i ⟨input, .lost result⟩⟩
  | break {db} {calls : List ReserveCall} {i : Nat} {input phase}
      (hcall : calls[i]? = some ⟨input, phase⟩) (hrunning : phase.Running) :
      ReservingStep ⟨db, calls⟩ ⟨db, calls.set i ⟨input, .broken⟩⟩
  | other {db db' calls} {operation : Operation}
      (hother : ∀ input, operation ≠ .reserve input) (hrun : operation.run db = some db') :
      ReservingStep ⟨db, calls⟩ ⟨db', calls⟩

/-- A run of a world. -/
abbrev ReservingRun : ReservingWorld → ReservingWorld → Prop :=
  Relation.ReflTransGen ReservingStep

end CashMesh.Acquirer
