import CashMesh.Lib.FormUrlencoded
import CashMesh.StellarSettlement.Crediting
/-!
# The state journal

How `store.rs` opens and updates the journal of its state. An update runs on a copy, writes the copy to
a temporary file, renames it over the journal and syncs the directory; only then it becomes the state in
memory. Every step before the renaming may fail without a trace. The sync of the directory comes after
it: when only that fails, the journal already holds the state that the store in memory refuses.
-/

namespace CashMesh.StellarSettlement

open CashMesh.Lib

abbrev Bytes := List UInt8

/-- The journal and the temporary file beside it. -/
structure StateFiles where
  journal : Option Bytes
  temporary : Option Bytes
  deriving DecidableEq

/-- `serde_json` on the durable state. -/
structure Serde where
  toVecPretty : PersistentState → Except String Bytes
  fromSlice : Bytes → Except String PersistentState

/-- Reading what was written, with the newline behind it, gives the state back. -/
def Serde.RoundTrips (serde : Serde) : Prop :=
  ∀ state bytes, serde.toVecPretty state = .ok bytes → serde.fromSlice (bytes ++ [10]) = .ok state

/-- What fails of one update: taking the lock, and the operations on files in their order. A write may
stop after any number of bytes. -/
structure Faults where
  lock : Bool
  createDirectory : Bool
  openTemporary : Bool
  writeTemporary : Option Nat
  finishTemporary : Bool
  syncTemporary : Bool
  replaceJournal : Bool
  syncDirectory : Bool

def stateVersion : UInt32 := 1

/-! ### Persisting -/

/-- What follows the opening of the temporary file. -/
def writeAndReplace (faults : Faults) (bytes : Bytes) (files : StateFiles) :
    Except StoreError Unit × StateFiles :=
  match faults.writeTemporary with
  | some written =>
      (.error (.io "write temporary state journal"),
        { files with temporary := some (bytes.take written) })
  | none =>
      if faults.finishTemporary then
        (.error (.io "finish temporary state journal"), { files with temporary := some bytes })
      else
        let complete := { files with temporary := some (bytes ++ [10]) }
        if faults.syncTemporary then (.error (.io "sync temporary state journal"), complete)
        else if faults.replaceJournal then (.error (.io "replace state journal"), complete)
        else
          let replaced := { journal := some (bytes ++ [10]), temporary := none }
          if faults.syncDirectory then (.error (.io "sync state directory"), replaced)
          else (.ok (), replaced)

/-- `persist_atomically`. -/
def persistAtomically (serde : Serde) (faults : Faults) (state : PersistentState)
    (files : StateFiles) : Except StoreError Unit × StateFiles :=
  if faults.createDirectory then (.error (.io "create state directory"), files)
  else
    match serde.toVecPretty state with
    | .error error => (.error (.json error), files)
    | .ok bytes =>
        if faults.openTemporary then (.error (.io "open temporary state journal"), files)
        else writeAndReplace faults bytes { files with temporary := some [] }

/-- No operation fails before the directory is synced. -/
def Faults.reachesDirectory (faults : Faults) : Bool :=
  !faults.createDirectory && !faults.openTemporary && faults.writeTemporary.isNone &&
    !faults.finishTemporary && !faults.syncTemporary && !faults.replaceJournal

/-- The journal is replaced. -/
def Replaces (serde : Serde) (faults : Faults) (state : PersistentState) : Prop :=
  faults.reachesDirectory = true ∧ ∃ bytes, serde.toVecPretty state = .ok bytes

/-! ### The store -/

structure StateStore where
  state : PersistentState
  files : StateFiles

/-- The state that a journal holds; without a journal it is the default. -/
def journalState (serde : Serde) (journal : Option Bytes) : Except StoreError PersistentState :=
  match journal with
  | some bytes => do
      let state ← (serde.fromSlice bytes).mapError StoreError.json
      ensure (state.version = stateVersion) (StoreError.unsupportedStateVersion state.version)
      .ok state
  | none => .ok .default

/-- `StateStore::open`. -/
def StateStore.open (serde : Serde) (files : StateFiles) : Except StoreError StateStore := do
  let state ← journalState serde files.journal
  .ok { state, files }

/-- What an update does to the copy of the state. None of them touches the version. -/
structure Mutation (α : Type) where
  run : PersistentState → Except StoreError (α × PersistentState)
  keepsVersion : ∀ state result next, run state = .ok (result, next) → next.version = state.version

/-- `StateStore::update`. -/
def StateStore.update {α : Type} (serde : Serde) (faults : Faults) (mutation : Mutation α)
    (store : StateStore) : Except StoreError α × StateStore :=
  if faults.lock then (.error .poisoned, store)
  else
    match mutation.run store.state with
    | .error error => (.error error, store)
    | .ok (result, next) =>
        match persistAtomically serde faults next store.files with
        | (.error error, files) => (.error error, { store with files })
        | (.ok (), files) => (.ok result, { state := next, files })

/-! ### The mutations of the store -/

namespace Mutation

def insertMintQuote (quote : MintQuoteRecord) : Mutation Unit where
  run state := (PersistentState.insertMintQuote quote state).map ((), ·)
  keepsVersion state result next h := by
    cases hinsert : PersistentState.insertMintQuote quote state with
    | error error => simp [hinsert, Except.map] at h
    | ok state' =>
        simp only [hinsert, Except.map, Except.ok.injEq, Prod.mk.injEq, true_and] at h
        subst h
        rcases PersistentState.insertMintQuote_ok hinsert with rfl | ⟨-, -, rfl⟩
        · rfl
        · rfl

def insertMeltQuote (quote : MeltQuoteRecord) : Mutation Unit where
  run state := (PersistentState.insertMeltQuote quote state).map ((), ·)
  keepsVersion state result next h := by
    unfold PersistentState.insertMeltQuote at h
    split at h
    · split_ifs at h
      · simp only [Except.map, Except.ok.injEq, Prod.mk.injEq, true_and] at h
        rw [← h]
      · simp [Except.map] at h
    · simp only [Except.map, Except.ok.injEq, Prod.mk.injEq, true_and] at h
      rw [← h]

def updateSettlement (quoteId : QuoteReference)
    (operation : Settlement → Except SettlementError Settlement) : Mutation Unit where
  run state := (PersistentState.updateSettlement quoteId operation state).map ((), ·)
  keepsVersion state result next h := by
    cases hupdate : PersistentState.updateSettlement quoteId operation state with
    | error error => simp [hupdate, Except.map] at h
    | ok state' =>
        simp only [hupdate, Except.map, Except.ok.injEq, Prod.mk.injEq, true_and] at h
        subst h
        simp only [PersistentState.updateSettlement, bind_eq_ok, orFail_eq_ok, mapError_eq_ok] at hupdate
        obtain ⟨quote, -, settlement, -, hstate'⟩ := hupdate
        rw [← Except.ok.inj hstate']

def observePayment (profile : StellarProfile) (payment : ObservedPayment) :
    Mutation ObservationOutcome where
  run state := .ok (state.observePayment profile payment)
  keepsVersion state result next h := by
    have hnext : (state.observePayment profile payment).2 = next :=
      congrArg Prod.snd (Except.ok.inj h)
    rw [← hnext]
    rcases PersistentState.observePayment_cases profile payment state with ⟨-, hsame⟩ | ⟨-, hmoved⟩
    · rw [hsame]
    · rw [hmoved]
      rcases PersistentState.evaluatePayment_cases profile payment state with
        hsame | ⟨quoteId, quote, -, hrecorded⟩
      · rw [hsame]
      · rw [hrecorded]
        rfl

def advanceCursor (cursor : LedgerCursor) : Mutation Unit where
  run state := .ok ((), state.advanceCursor cursor)
  keepsVersion state result next h := by
    have hnext : state.advanceCursor cursor = next := congrArg Prod.snd (Except.ok.inj h)
    rw [← hnext, PersistentState.advanceCursor]
    split_ifs
    · rfl
    · rfl

end Mutation

/-! ### What persisting does -/

/-- Either the journal is as it was and persisting failed, or it holds the state and persisting
succeeded unless the directory could not be synced. -/
theorem persistAtomically_cases (serde : Serde) (faults : Faults) (state : PersistentState)
    (files : StateFiles) :
    (¬Replaces serde faults state ∧ ∃ error files',
        persistAtomically serde faults state files = (.error error, files') ∧
          files'.journal = files.journal) ∨
      ∃ bytes, Replaces serde faults state ∧ serde.toVecPretty state = .ok bytes ∧
        persistAtomically serde faults state files =
          (if faults.syncDirectory then .error (.io "sync state directory") else .ok (),
            { journal := some (bytes ++ [10]), temporary := none }) := by
  have hstop : faults.reachesDirectory = false → ¬Replaces serde faults state := by
    rintro hreach ⟨hreached, -⟩
    rw [hreach] at hreached
    exact Bool.noConfusion hreached
  unfold persistAtomically
  by_cases hcreate : faults.createDirectory = true
  · exact .inl ⟨hstop (by simp [Faults.reachesDirectory, hcreate]), _, _, by rw [if_pos hcreate], rfl⟩
  rw [if_neg hcreate]
  cases hserialise : serde.toVecPretty state with
  | error error =>
      refine .inl ⟨?_, _, _, rfl, rfl⟩
      rintro ⟨-, bytes, hbytes⟩
      rw [hserialise] at hbytes
      cases hbytes
  | ok bytes =>
      by_cases hopen : faults.openTemporary = true
      · exact .inl ⟨hstop (by simp [Faults.reachesDirectory, hopen]), _, _, if_pos hopen, rfl⟩
      simp only [if_neg hopen, writeAndReplace]
      cases hwrite : faults.writeTemporary with
      | some written => exact .inl ⟨hstop (by simp [Faults.reachesDirectory, hwrite]), _, _, rfl, rfl⟩
      | none =>
          by_cases hfinish : faults.finishTemporary = true
          · exact .inl ⟨hstop (by simp [Faults.reachesDirectory, hfinish]), _, _, if_pos hfinish, rfl⟩
          by_cases hsync : faults.syncTemporary = true
          · simp only [if_neg hfinish, if_pos hsync]
            exact .inl ⟨hstop (by simp [Faults.reachesDirectory, hsync]), _, _, rfl, rfl⟩
          by_cases hreplace : faults.replaceJournal = true
          · simp only [if_neg hfinish, if_neg hsync, if_pos hreplace]
            exact .inl ⟨hstop (by simp [Faults.reachesDirectory, hreplace]), _, _, rfl, rfl⟩
          refine .inr ⟨bytes, ⟨?_, bytes, hserialise⟩, rfl, ?_⟩
          · simp [Faults.reachesDirectory, hcreate, hopen, hwrite, hfinish, hsync, hreplace]
          · simp only [if_neg hfinish, if_neg hsync, if_neg hreplace]
            split_ifs
            · rfl
            · rfl

/-! ### Atomic updates -/

/-- One update and what fails of it. -/
structure Update where
  {Result : Type}
  mutation : Mutation Result
  faults : Faults

namespace StateStore

variable {serde : Serde} {store : StateStore}

/-- The state that a restart would load. -/
def reopened (serde : Serde) (store : StateStore) : Except StoreError PersistentState :=
  (StateStore.open serde store.files).map (·.state)

/-- A restart would load the state in memory. -/
def Consistent (serde : Serde) (store : StateStore) : Prop :=
  store.reopened serde = .ok store.state

/-- A failed update leaves the prior state in memory and in the journal, and a successful one leaves
the new state in both. -/
structure Atomic (serde : Serde) (store : StateStore) (update : Update) : Prop where
  failed : ∀ error, (store.update serde update.faults update.mutation).1 = .error error →
    (store.update serde update.faults update.mutation).2.state = store.state ∧
      (store.update serde update.faults update.mutation).2.reopened serde = .ok store.state
  succeeded : ∀ result, (store.update serde update.faults update.mutation).1 = .ok result →
    ∃ next, update.mutation.run store.state = .ok (result, next) ∧
      (store.update serde update.faults update.mutation).2.state = next ∧
      (store.update serde update.faults update.mutation).2.reopened serde = .ok next

/-- The directory cannot be synced after the journal was replaced by another state. -/
def LosesSync (serde : Serde) (store : StateStore) (update : Update) : Prop :=
  update.faults.lock = false ∧ update.faults.syncDirectory = true ∧
    ∃ result next, update.mutation.run store.state = .ok (result, next) ∧
      Replaces serde update.faults next ∧ next ≠ store.state

theorem reopened_eq : store.reopened serde = journalState serde store.files.journal := by
  unfold reopened StateStore.open
  cases journalState serde store.files.journal with
  | error error => rfl
  | ok state => rfl

theorem reopened_of_journal {files : StateFiles} {state : PersistentState}
    (hjournal : files.journal = store.files.journal) :
    ({ state, files } : StateStore).reopened serde = store.reopened serde := by
  rw [reopened_eq, reopened_eq, hjournal]

theorem reopened_of_written (hserde : serde.RoundTrips) {state written : PersistentState}
    {bytes : Bytes} (hbytes : serde.toVecPretty written = .ok bytes)
    (hversion : written.version = stateVersion) {files : StateFiles}
    (hjournal : files.journal = some (bytes ++ [10])) :
    ({ state, files } : StateStore).reopened serde = .ok written := by
  have hread : (serde.fromSlice (bytes ++ [10])).mapError StoreError.json = .ok written :=
    mapError_eq_ok.mpr (hserde written bytes hbytes)
  rw [reopened_eq, hjournal, journalState, hread, ok_bind, ensure_of hversion, ok_bind]

theorem version_of_consistent (hconsistent : store.Consistent serde) :
    store.state.version = stateVersion := by
  rw [Consistent, reopened_eq] at hconsistent
  unfold journalState at hconsistent
  split at hconsistent
  · simp only [bind_eq_ok, ensure_eq_ok, exists_unit, Except.ok.injEq] at hconsistent
    obtain ⟨state, -, hversion, rfl⟩ := hconsistent
    exact hversion
  · rw [← Except.ok.inj hconsistent]
    rfl

/-- The files after the journal was replaced. -/
def replacedBy (bytes : Bytes) : StateFiles :=
  { journal := some (bytes ++ [10]), temporary := none }

/-- An update fails with the journal as it was, fails after the journal was replaced, or succeeds. -/
theorem update_ends {Result : Type} (serde : Serde) (store : StateStore) (mutation : Mutation Result)
    (faults : Faults) :
    (¬store.LosesSync serde { mutation, faults } ∧ ∃ error files,
        store.update serde faults mutation = (.error error, { store with files }) ∧
          files.journal = store.files.journal) ∨
      (∃ result next bytes, mutation.run store.state = .ok (result, next) ∧
        Replaces serde faults next ∧ serde.toVecPretty next = .ok bytes ∧ faults.lock = false ∧
        faults.syncDirectory = true ∧
        store.update serde faults mutation =
          (.error (.io "sync state directory"), { store with files := replacedBy bytes })) ∨
      (∃ result next bytes, mutation.run store.state = .ok (result, next) ∧
        serde.toVecPretty next = .ok bytes ∧ faults.syncDirectory = false ∧
        store.update serde faults mutation =
          (.ok result, { state := next, files := replacedBy bytes })) := by
  by_cases hlock : faults.lock = true
  · refine .inl ⟨?_, .poisoned, store.files, if_pos hlock, rfl⟩
    rintro ⟨hfree, -⟩
    exact Bool.noConfusion (hlock.symm.trans hfree)
  cases hrun : mutation.run store.state with
  | error error =>
      refine .inl ⟨?_, error, store.files, ?_, rfl⟩
      · rintro ⟨-, -, result, next, hnext, -⟩
        have hnext' : mutation.run store.state = .ok (result, next) := hnext
        rw [hrun] at hnext'
        cases hnext'
      · simp only [StateStore.update, if_neg hlock, hrun]
  | ok outcome =>
      obtain ⟨result, next⟩ := outcome
      rcases persistAtomically_cases serde faults next store.files with
        ⟨hkept, error, files, hpersist, hjournal⟩ | ⟨bytes, hreplaced, hbytes, hpersist⟩
      · refine .inl ⟨?_, error, files, ?_, hjournal⟩
        · rintro ⟨-, -, result', next', hnext, hreplaces, -⟩
          have hnext' : mutation.run store.state = .ok (result', next') := hnext
          rw [hrun] at hnext'
          obtain ⟨-, rfl⟩ := Prod.mk.inj (Except.ok.inj hnext')
          exact hkept hreplaces
        · simp only [StateStore.update, if_neg hlock, hrun, hpersist]
      · by_cases hsync : faults.syncDirectory = true
        · rw [if_pos hsync] at hpersist
          refine .inr (.inl ⟨result, next, bytes, rfl, hreplaced, hbytes, by simpa using hlock, hsync, ?_⟩)
          simp only [StateStore.update, if_neg hlock, hrun, hpersist]
          rfl
        · rw [if_neg hsync] at hpersist
          refine .inr (.inr ⟨result, next, bytes, rfl, hbytes, by simpa using hsync, ?_⟩)
          simp only [StateStore.update, if_neg hlock, hrun, hpersist]
          rfl

theorem atomic_iff (hserde : serde.RoundTrips) (hconsistent : store.Consistent serde)
    (update : Update) : store.Atomic serde update ↔ ¬store.LosesSync serde update := by
  obtain ⟨mutation, faults⟩ := update
  have hnewVersion : ∀ result next, mutation.run store.state = .ok (result, next) →
      next.version = stateVersion := fun result next hrun =>
    (mutation.keepsVersion _ result next hrun).trans (version_of_consistent hconsistent)
  rcases update_ends serde store mutation faults with
    ⟨hsynced, error, files, hupdate, hjournal⟩ |
    ⟨result, next, bytes, hrun, hreplaced, hbytes, hlock, hsync, hupdate⟩ |
    ⟨result, next, bytes, hrun, hbytes, hsync, hupdate⟩
  · refine iff_of_true ⟨?_, ?_⟩ hsynced
    · intro error' _
      simp only [hupdate]
      exact ⟨trivial, (reopened_of_journal hjournal).trans hconsistent⟩
    · intro result hresult
      simp [hupdate] at hresult
  · have hreopened : ({ store with files := replacedBy bytes } : StateStore).reopened serde =
        .ok next := reopened_of_written hserde hbytes (hnewVersion _ _ hrun) rfl
    constructor
    · rintro hatomic ⟨-, -, result', next', hrun', -, hother⟩
      have hrun'' : mutation.run store.state = .ok (result', next') := hrun'
      rw [hrun] at hrun''
      obtain ⟨-, rfl⟩ := Prod.mk.inj (Except.ok.inj hrun'')
      have hprior := (hatomic.failed (.io "sync state directory") (by simp only [hupdate])).2
      simp only [hupdate] at hprior
      rw [hreopened] at hprior
      exact hother (Except.ok.inj hprior)
    · intro hsynced
      have hsame : next = store.state := by
        by_contra hother
        exact hsynced ⟨hlock, hsync, result, next, hrun, hreplaced, hother⟩
      refine ⟨?_, ?_⟩
      · intro error' _
        simp only [hupdate]
        exact ⟨trivial, hsame ▸ hreopened⟩
      · intro result' hresult
        simp [hupdate] at hresult
  · refine iff_of_true ⟨?_, ?_⟩ ?_
    · intro error' herror
      simp [hupdate] at herror
    · intro result' hresult
      simp only [hupdate, Except.ok.injEq] at hresult
      subst hresult
      simp only [hupdate]
      exact ⟨next, hrun, rfl, reopened_of_written hserde hbytes (hnewVersion _ _ hrun) rfl⟩
    · rintro ⟨-, hlost, -⟩
      exact Bool.noConfusion (hsync.symm.trans hlost)

/-- After an atomic update a restart loads the state in memory again. -/
theorem Atomic.consistent {update : Update} (hatomic : store.Atomic serde update) :
    (store.update serde update.faults update.mutation).2.Consistent serde := by
  cases hresult : (store.update serde update.faults update.mutation).1 with
  | error error =>
      obtain ⟨hstate, hreopened⟩ := hatomic.failed error hresult
      rw [Consistent, hstate, hreopened]
  | ok result =>
      obtain ⟨next, -, hstate, hreopened⟩ := hatomic.succeeded result hresult
      rw [Consistent, hstate, hreopened]

/-! ### Sequences of updates -/

/-- The store after updates. -/
def runUpdates (serde : Serde) (store : StateStore) (updates : List Update) : StateStore :=
  updates.foldl (fun store update => (store.update serde update.faults update.mutation).2) store

/-- A property of every update of a sequence, in the store that it finds. -/
def Always (serde : Serde) (property : StateStore → Update → Prop) : StateStore → List Update → Prop
  | _, [] => True
  | store, update :: updates =>
      property store update ∧
        Always serde property (store.update serde update.faults update.mutation).2 updates

theorem always_iff (hserde : serde.RoundTrips) {updates : List Update} :
    ∀ {store : StateStore}, store.Consistent serde →
      (Always serde (Atomic serde) store updates ↔
        Always serde (fun store update => ¬store.LosesSync serde update) store updates) := by
  induction updates with
  | nil => exact fun _ => Iff.rfl
  | cons update updates ih =>
      intro store hconsistent
      simp only [Always, atomic_iff hserde hconsistent]
      apply and_congr_right
      intro hsynced
      exact ih ((atomic_iff hserde hconsistent update).mpr hsynced).consistent

theorem consistent_of_always {updates : List Update} :
    ∀ {store : StateStore}, store.Consistent serde → Always serde (Atomic serde) store updates →
      (store.runUpdates serde updates).Consistent serde := by
  induction updates with
  | nil => exact fun hconsistent _ => hconsistent
  | cons update updates ih => exact fun _ halways => ih halways.1.consistent halways.2

theorem consistent_of_open {files : StateFiles} (hopen : StateStore.open serde files = .ok store) :
    store.Consistent serde := by
  simp only [StateStore.open, bind_eq_ok, Except.ok.injEq] at hopen
  obtain ⟨state, hstate, rfl⟩ := hopen
  rw [Consistent, reopened_eq, hstate]

/-- In every sequence of updates of an opened store each is atomic exactly when none fails to sync
the directory after it replaced the journal by another state; and then a restart always loads the state
in memory. -/
theorem updates_atomic (hserde : serde.RoundTrips) {files : StateFiles}
    (hopen : StateStore.open serde files = .ok store) (updates : List Update) :
    (Always serde (Atomic serde) store updates ↔
        Always serde (fun store update => ¬store.LosesSync serde update) store updates) ∧
      (Always serde (fun store update => ¬store.LosesSync serde update) store updates →
        (store.runUpdates serde updates).Consistent serde) := by
  have hconsistent := consistent_of_open hopen
  have hatomic : Always serde (Atomic serde) store updates ↔
      Always serde (fun store update => ¬store.LosesSync serde update) store updates :=
    always_iff hserde hconsistent
  exact ⟨hatomic, fun hsynced => consistent_of_always hconsistent (hatomic.mpr hsynced)⟩

/-! A store without quotes, whose cursor is moved. -/

deriving instance DecidableEq for PersistentState

def movedState : PersistentState :=
  { PersistentState.default with pagingCursor := some DepositWorld.sampleDepositCursor }

theorem movedState_ne : movedState ≠ .default := by
  intro hsame
  cases congrArg PersistentState.pagingCursor hsame

/-- The journal of a state without quotes. -/
def emptyJournal (cursor : String) : Bytes :=
  textBytes ("\x7b\n  \"version\": 1,\n  \"mint_quotes\": \x7b\x7d,\n" ++
    "  \"melt_quotes\": \x7b\x7d,\n  \"claimed_operations\": \x7b\x7d,\n" ++
    "  \"claimed_transactions\": \x7b\x7d,\n  \"paging_cursor\": " ++ cursor ++ "\n\x7d")

def sampleSerde : Serde where
  toVecPretty state :=
    if state = .default then .ok (emptyJournal "null")
    else if state = movedState then .ok (emptyJournal "7")
    else .error "another state"
  fromSlice bytes :=
    if bytes = emptyJournal "null" ++ [10] then .ok .default
    else if bytes = emptyJournal "7" ++ [10] then .ok movedState
    else .error "another journal"

theorem roundTrips_sampleSerde : sampleSerde.RoundTrips := by
  have hother : emptyJournal "7" ++ [10] ≠ emptyJournal "null" ++ [10] := by decide +kernel
  intro state bytes hbytes
  simp only [sampleSerde] at hbytes
  split_ifs at hbytes with hdefault hmoved
  · obtain rfl := Except.ok.inj hbytes
    simp only [sampleSerde, hdefault, if_true]
  · obtain rfl := Except.ok.inj hbytes
    simp only [sampleSerde, hmoved, if_neg hother, if_true]

def noFaults : Faults :=
  { lock := false
    createDirectory := false
    openTemporary := false
    writeTemporary := none
    finishTemporary := false
    syncTemporary := false
    replaceJournal := false
    syncDirectory := false }

def emptyStore : StateStore :=
  { state := .default, files := { journal := none, temporary := none } }

theorem updates_atomic_moved :
    (emptyStore.runUpdates sampleSerde [⟨.advanceCursor DepositWorld.sampleDepositCursor, noFaults⟩]).Consistent
      sampleSerde := by
  have hopen : StateStore.open sampleSerde emptyStore.files = .ok emptyStore := rfl
  apply (updates_atomic roundTrips_sampleSerde hopen
    [⟨.advanceCursor DepositWorld.sampleDepositCursor, noFaults⟩]).2
  exact ⟨fun hloses => Bool.noConfusion hloses.2.1, trivial⟩

/-- A directory that cannot be synced leaves the new state in the journal of a failed update. -/
theorem update_not_atomic :
    StateStore.open sampleSerde emptyStore.files = .ok emptyStore ∧
      (emptyStore.update sampleSerde { noFaults with syncDirectory := true }
        (.advanceCursor DepositWorld.sampleDepositCursor)).1 = .error (.io "sync state directory") ∧
      (emptyStore.update sampleSerde { noFaults with syncDirectory := true }
        (.advanceCursor DepositWorld.sampleDepositCursor)).2.state = .default ∧
      (emptyStore.update sampleSerde { noFaults with syncDirectory := true }
        (.advanceCursor DepositWorld.sampleDepositCursor)).2.reopened sampleSerde = .ok movedState ∧
      movedState ≠ .default := by
  have hserialised : sampleSerde.toVecPretty movedState = .ok (emptyJournal "7") := by
    simp only [sampleSerde, if_neg movedState_ne, if_true]
  have hupdate : emptyStore.update sampleSerde { noFaults with syncDirectory := true }
      (.advanceCursor DepositWorld.sampleDepositCursor) =
        (.error (.io "sync state directory"),
          { emptyStore with files := replacedBy (emptyJournal "7") }) := by
    have hpersist : persistAtomically sampleSerde { noFaults with syncDirectory := true } movedState
        emptyStore.files = (.error (.io "sync state directory"), replacedBy (emptyJournal "7")) := by
      simp only [persistAtomically, hserialised]
      rfl
    have hrun : (Mutation.advanceCursor DepositWorld.sampleDepositCursor).run emptyStore.state = .ok ((), movedState) := rfl
    simp only [StateStore.update, hrun, hpersist]
    rfl
  rw [hupdate]
  exact ⟨rfl, rfl, rfl,
    reopened_of_written roundTrips_sampleSerde hserialised rfl rfl, movedState_ne⟩

end StateStore

end CashMesh.StellarSettlement
