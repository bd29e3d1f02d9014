import CashMesh.Lib.Feed
import CashMesh.Lib.Process
import CashMesh.StellarSettlement.Deposits
/-!
# Scanning for deposits

Any number of `scan_deposits` calls of `processor.rs` run over one store and one payment source, with
quotes being inserted meanwhile and calls being lost at any step. A call reads the durable cursor,
fetches a page behind it, shows its payments to the store one by one and at the end moves the cursor
to the last record of the page.

Pages may overlap and may be stale by the time they are shown. What a call knows of its page is that
the payments before it have been evaluated, and no step of any other call takes that away, so the
first payment of the page beyond the cursor is always the next one of the source.
-/

namespace CashMesh.StellarSettlement

open CashMesh.Lib

/-- A record of the payment source. One that is no payment of an issued asset is filtered out of the
pages but counts for their cursor. -/
structure SourceRecord where
  cursor : LedgerCursor
  payment : Option ObservedPayment
  paged : ∀ p ∈ payment, p.pagingCursor = cursor

instance : LinearOrder LedgerCursor :=
  LinearOrder.lift' LedgerCursor.value fun c₁ c₂ h => by cases c₁; cases c₂; cases h; rfl

/-- The position of a reader that has this cursor, or none yet. -/
def positionOf : Option LedgerCursor → WithBot LedgerCursor
  | none => ⊥
  | some cursor => cursor

/-- `DepositBatch`: the payments of a page and the cursor of its last record. -/
structure DepositBatch where
  payments : List ObservedPayment
  cursor : Option LedgerCursor

def DepositBatch.ofPage (page : List SourceRecord) : DepositBatch :=
  { payments := page.filterMap (·.payment)
    cursor := page.getLast?.map (·.cursor) }

/-! ### The call -/

/-- The effects of a scan: updates of the store and a request to the source. -/
inductive ScanEffect where
  | snapshot
  | paymentsAfter (cursor : Option LedgerCursor)
  | observePayment (payment : ObservedPayment)
  | advanceCursor (cursor : LedgerCursor)

/-- `ExternalError`, the error of the payment source. -/
structure DepositSourceError where
  message : String

inductive ScanError where
  | store (error : StoreError)
  | source (error : DepositSourceError)

abbrev ScanAnswer : ScanEffect → Type
  | .snapshot => Except ScanError (Option LedgerCursor)
  | .paymentsAfter _ => Except ScanError DepositBatch
  | .observePayment _ => Except ScanError ObservationOutcome
  | .advanceCursor _ => Except ScanError Unit

abbrev Scan :=
  Process ScanEffect ScanAnswer ScanError

def observeAll : List ObservedPayment → Scan Unit
  | [] => pure ()
  | payment :: payments => do
      let answer ← Process.perform (.observePayment payment)
      let _ ← Process.ofExcept answer
      observeAll payments

def advanceTo : Option LedgerCursor → Scan Unit
  | some cursor => do
      let answer ← Process.perform (.advanceCursor cursor)
      Process.ofExcept answer
  | none => pure ()

/-- `scan_deposits`. -/
def scanDeposits : Scan Unit := do
  let snapshot ← Process.perform .snapshot
  let cursor ← Process.ofExcept snapshot
  let fetched ← Process.perform (.paymentsAfter cursor)
  let batch ← Process.ofExcept fetched
  let _ ← observeAll batch.payments
  advanceTo batch.cursor

/-! ### The world -/

/-- What was done to the claims of a store, in the order in which it was done. -/
inductive DepositEvent where
  | inserted (quote : MintQuoteRecord)
  | evaluated (payment : ObservedPayment)

def DepositEvent.payment? : DepositEvent → Option ObservedPayment
  | .inserted _ => none
  | .evaluated payment => some payment

/-- The store, the source, and the history of the store's claims. -/
structure ScanWorld where
  store : PersistentState
  source : List SourceRecord
  history : List DepositEvent

namespace ScanWorld

def initial : ScanWorld :=
  { store := .default, source := [], history := [] }

/-- How far the store has read. -/
def position (w : ScanWorld) : WithBot LedgerCursor :=
  positionOf w.store.pagingCursor

/-- A payment that is shown to the store is evaluated unless it is stale. -/
def observe (profile : StellarProfile) (payment : ObservedPayment) (w : ScanWorld) : ScanWorld :=
  { w with
    store := (w.store.observePayment profile payment).2
    history := if w.store.Covers payment.pagingCursor then w.history
      else w.history ++ [.evaluated payment] }

/-- The source gains records at its end, quotes are inserted, and melts are none of its business. -/
inductive Moves : ScanWorld → ScanWorld → Prop
  | closed {w : ScanWorld} {record : SourceRecord} (hlast : ∀ r ∈ w.source, r.cursor < record.cursor) :
      Moves w { w with source := w.source ++ [record] }
  | inserted {w : ScanWorld} {quote store}
      (hinsert : PersistentState.insertMintQuote quote w.store = .ok store) :
      Moves w { w with store := store, history := w.history ++ [.inserted quote] }
  | melted {w : ScanWorld} {meltQuotes} :
      Moves w { w with store := { w.store with meltQuotes := meltQuotes } }

end ScanWorld

/-- One effect of a scan. The source answers with a contiguous page of a size of its choice, or
fails; an update either happens as a whole or leaves the store as it was. -/
def scans (profile : StellarProfile) :
    (effect : ScanEffect) → ScanWorld → ScanAnswer effect → ScanWorld → Prop
  | .snapshot, w, answer, w' =>
      (answer = .ok w.store.pagingCursor ∨ ∃ error, answer = .error error) ∧ w' = w
  | .paymentsAfter cursor, w, answer, w' =>
      ((∃ size, answer = .ok (DepositBatch.ofPage
          (pageAfter SourceRecord.cursor (positionOf cursor) size w.source))) ∨
        ∃ error, answer = .error error) ∧ w' = w
  | .observePayment payment, w, answer, w' =>
      answer = .ok (w.store.observePayment profile payment).1 ∧ w' = w.observe profile payment ∨
        (∃ error, answer = .error error) ∧ w' = w
  | .advanceCursor cursor, w, answer, w' =>
      answer = .ok () ∧ w' = { w with store := w.store.advanceCursor cursor } ∨
        (∃ error, answer = .error error) ∧ w' = w

abbrev ScanSystem :=
  Pool ScanWorld (Scan Unit)

abbrev ScanStep (profile : StellarProfile) : ScanSystem → ScanSystem → Prop :=
  Pool.Step (scans profile) ScanWorld.Moves fun call => call = scanDeposits

/-- Runs of the scanners from an empty journal. -/
def ScanReachable (profile : StellarProfile) : ScanSystem → Prop :=
  Relation.ReflTransGen (ScanStep profile) ⟨.initial, []⟩

/-! ### The sequential pass -/

def DepositEvent.apply (profile : StellarProfile) (state : PersistentState) :
    DepositEvent → PersistentState
  | .inserted quote =>
      match PersistentState.insertMintQuote quote state with
      | .ok next => next
      | .error _ => state
  | .evaluated payment => (state.evaluatePayment profile payment).2

/-- One pass over the events, each payment evaluated as it comes and no cursor kept. -/
def sequentialPass (profile : StellarProfile) (events : List DepositEvent) : PersistentState :=
  events.foldl (DepositEvent.apply profile) .default

theorem sequentialPass_concat (profile : StellarProfile) (events : List DepositEvent)
    (event : DepositEvent) :
    sequentialPass profile (events ++ [event]) = event.apply profile (sequentialPass profile events) := by
  simp [sequentialPass]

namespace PersistentState

/-- The same quotes with the same claims. -/
structure SameDeposits (s₁ s₂ : PersistentState) : Prop where
  mintQuotes : s₁.mintQuotes = s₂.mintQuotes
  claimedOperations : s₁.claimedOperations = s₂.claimedOperations
  claimedTransactions : s₁.claimedTransactions = s₂.claimedTransactions

variable {s₁ s₂ : PersistentState} {profile : StellarProfile}

theorem SameDeposits.eq_with (h : s₁.SameDeposits s₂) :
    s₁ = { s₂ with
      version := s₁.version, meltQuotes := s₁.meltQuotes, pagingCursor := s₁.pagingCursor } := by
  obtain ⟨version, mintQuotes, meltQuotes, operations, transactions, cursor⟩ := s₁
  obtain ⟨rfl, rfl, rfl⟩ := h
  rfl

theorem SameDeposits.evaluatePayment (h : s₁.SameDeposits s₂) (payment : ObservedPayment) :
    (s₁.evaluatePayment profile payment).2.SameDeposits (s₂.evaluatePayment profile payment).2 := by
  have hpayable : s₁.payableQuote profile payment = s₂.payableQuote profile payment := by
    rw [h.eq_with]
    rfl
  unfold PersistentState.evaluatePayment
  rw [hpayable]
  cases s₂.payableQuote profile payment with
  | error outcome => exact h
  | ok found =>
      obtain ⟨quoteId, quote⟩ := found
      refine ⟨?_, ?_, ?_⟩
      · simp [recordClaim, h.mintQuotes]
      · simp [recordClaim, h.claimedOperations]
      · simp [recordClaim, h.claimedTransactions]

theorem SameDeposits.insertMintQuote {quote : MintQuoteRecord} {s₁' : PersistentState}
    (h : s₁.SameDeposits s₂) (hinsert : insertMintQuote quote s₁ = .ok s₁') :
    ∃ s₂', insertMintQuote quote s₂ = .ok s₂' ∧ s₁'.SameDeposits s₂' := by
  have hvalues : s₁.mintQuoteValues = s₂.mintQuoteValues := by
    rw [mintQuoteValues, h.mintQuotes, mintQuoteValues]
  simp only [PersistentState.insertMintQuote, bind_eq_ok, ensure_eq_ok, exists_unit, hvalues,
    h.mintQuotes] at hinsert ⊢
  obtain ⟨hmemo, hinsert⟩ := hinsert
  split at hinsert
  · simp only [ite_else_error_eq_ok] at hinsert
    obtain rfl := Except.ok.inj hinsert.2
    exact ⟨s₂, ⟨hmemo, by simp [hinsert.1]⟩, h⟩
  · obtain rfl := Except.ok.inj hinsert
    exact ⟨_, ⟨hmemo, rfl⟩, ⟨rfl, h.claimedOperations, h.claimedTransactions⟩⟩

end PersistentState

end CashMesh.StellarSettlement
