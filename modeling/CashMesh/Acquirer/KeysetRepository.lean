import CashMesh.Acquirer.KeysetSnapshots
import Mathlib.Logic.Relation
/-!
# The keyset repository

The tables in which the repository keeps the keysets of the mints, what it writes for an observation of
a snapshot, and what it reads back. The material of a keyset is stored once, under its id at its mint;
an observation stores which keysets it has seen, in which order, and whether they were active.

The material is written as JSON, and the column may give the members of an object back in an order of
its own. An operation is one transaction; the unique keys make a later one wait for an earlier one.
-/

namespace CashMesh.Acquirer

open CashMesh.Lib

namespace KeysetStore

/-! ### Rows -/

/-- What the column of the keys gives back of an object: its members, in an order of its own. -/
structure JsonColumn where
  read : List (String × String) → List (String × String)
  perm : ∀ {members}, (members.map Prod.fst).Nodup → (read members).Perm members

/-- The material of a keyset that may not change, under its identity fingerprint. -/
structure Identity where
  finalExpiry : Option UnixTimestamp
  id : KeysetId
  inputFeePpk : Nat
  keys : List (Nat × String)
  mintUrl : MintUrl
  unit : CashuUnit
deriving DecidableEq

/-- What `createIdentityFingerprint` hashes. -/
def createIdentity (mintUrl : MintUrl) (keyset : CashuKeysetSnapshotEntry) : Identity where
  finalExpiry := keyset.finalExpiry
  id := keyset.id
  inputFeePpk := keyset.inputFeePpk
  keys := keyset.keys
  mintUrl
  unit := keyset.unit

/-- A row of `cashu_keysets`. -/
structure IdentityRow where
  mintUrl : MintUrl
  keysetId : KeysetId
  unit : CashuUnit
  inputFeePpk : Nat
  finalExpiry : Option UnixTimestamp
  keys : List (String × String)
  identityFingerprint : Identity
deriving DecidableEq

/-- An observation that `validateObservation` has accepted, also what `createSnapshotFingerprint`
hashes. -/
structure Observation where
  operatorId : OperatorId
  snapshot : CashuKeysetSnapshot
  unit : CashuUnit
deriving DecidableEq

/-- A row of `cashu_keyset_observations`. -/
structure ObservationRow where
  snapshotFingerprint : Observation
  operatorId : OperatorId
  mintUrl : MintUrl
  unit : CashuUnit
  observedAt : UnixTimestamp
deriving DecidableEq

/-- A row of `cashu_keyset_observation_entries`. -/
structure EntryRow where
  snapshotFingerprint : Observation
  mintUrl : MintUrl
  unit : CashuUnit
  position : Nat
  keysetId : KeysetId
  active : Bool
deriving DecidableEq

instance : UniqueKeys IdentityRow where
  Collide row row' := row.mintUrl = row'.mintUrl ∧ row.keysetId = row'.keysetId
  decidableCollide _ _ := inferInstanceAs (Decidable (_ ∧ _))
  symm h := ⟨h.1.symm, h.2.symm⟩

instance : UniqueKeys ObservationRow where
  Collide row row' :=
    row.snapshotFingerprint = row'.snapshotFingerprint ∨
      (row.operatorId = row'.operatorId ∧ row.mintUrl = row'.mintUrl ∧ row.unit = row'.unit ∧
        row.observedAt = row'.observedAt)
  decidableCollide _ _ := inferInstanceAs (Decidable (_ ∨ _))
  symm h := h.imp Eq.symm fun h => ⟨h.1.symm, h.2.1.symm, h.2.2.1.symm, h.2.2.2.symm⟩

instance : UniqueKeys EntryRow where
  Collide row row' :=
    row.snapshotFingerprint = row'.snapshotFingerprint ∧
      (row.position = row'.position ∨ row.keysetId = row'.keysetId)
  decidableCollide _ _ := inferInstanceAs (Decidable (_ ∧ _))
  symm h := ⟨h.1.symm, h.2.imp Eq.symm Eq.symm⟩

/-- The checks of a column for a mint URL: `VARCHAR(512)`, and `^https://[^[:space:]]+$`. -/
def mintUrlColumn (text : String) : Bool :=
  let isSpace (c : Char) := c == ' ' || (9 ≤ c.toNat && c.toNat ≤ 13)
  match text.toList with
  | 'h' :: 't' :: 't' :: 'p' :: 's' :: ':' :: '/' :: '/' :: rest =>
      text.length ≤ 512 && !rest.isEmpty && rest.all fun c => !isSpace c
  | _ => false

/-- The checks of `cashu_keysets` that its types leave. -/
def IdentityRow.Checks (row : IdentityRow) : Prop :=
  mintUrlColumn row.mintUrl = true ∧ row.inputFeePpk ≤ maxSafeInteger ∧
    (∀ expiry ∈ row.finalExpiry, 0 < expiry ∧ expiry ≤ maxSafeInteger) ∧ row.keys ≠ []

instance (row : IdentityRow) : Decidable row.Checks :=
  inferInstanceAs (Decidable (_ ∧ _))

/-- The checks of `cashu_keyset_observations` that its types leave. -/
def ObservationRow.Checks (row : ObservationRow) : Prop :=
  mintUrlColumn row.mintUrl = true ∧ row.observedAt ≤ maxSafeInteger

instance (row : ObservationRow) : Decidable row.Checks :=
  inferInstanceAs (Decidable (_ ∧ _))

/-- The tables of the repository. -/
structure Tables where
  keysets : Table IdentityRow
  observations : Table ObservationRow
  entries : Table EntryRow

def Tables.empty : Tables :=
  ⟨∅, ∅, ∅⟩

/-! ### Errors -/

/-- `CashuKeysetRepositoryErrorCode`. -/
inductive ErrorCode where
  | invalidInput
  | invalidRecord
  | keysetCollision
  | observationConflict
  | storageUnavailable
deriving DecidableEq

/-- `CashuKeysetRepositoryError`. -/
structure Error where
  code : ErrorCode
  message : String
deriving DecidableEq

namespace Error

def invalidInput : Error :=
  ⟨.invalidInput, "Cashu keyset repository input is invalid."⟩

def invalidRecord : Error :=
  ⟨.invalidRecord, "Stored Cashu keyset observation is invalid."⟩

def keysetCollision : Error :=
  ⟨.keysetCollision,
    "Cashu keyset identifier was already observed with different immutable material."⟩

def observationConflict : Error :=
  ⟨.observationConflict, "A different Cashu keyset observation already exists at this time."⟩

/-- `mapStorageError` on what the database raises. -/
def storageUnavailable : Error :=
  ⟨.storageUnavailable, "Cashu keyset storage operation failed."⟩

end Error

/-! ### Reading -/

/-- The row of an identity. -/
def Identity.row (identity : Identity) : IdentityRow where
  mintUrl := identity.mintUrl
  keysetId := identity.id
  unit := identity.unit
  inputFeePpk := identity.inputFeePpk
  finalExpiry := identity.finalExpiry
  keys := identity.keys.map keyEntry
  identityFingerprint := identity

/-- What `createCashuKeysetSnapshot` is given of a stored keyset. -/
def IdentityRow.input (column : JsonColumn) (active : Bool) (row : IdentityRow) :
    CashuKeysetSnapshotEntryInput where
  active
  finalExpiry := row.finalExpiry
  id := row.keysetId.val
  inputFeePpk := some row.inputFeePpk
  keys := column.read row.keys
  unit := row.unit.val

/-- `parseSafeInteger` of the fee and `parsePositiveSafeInteger` of the expiry. -/
def IdentityRow.Parses (row : IdentityRow) : Prop :=
  row.inputFeePpk ≤ maxSafeInteger ∧
    ∀ expiry ∈ row.finalExpiry, 0 < expiry ∧ expiry ≤ maxSafeInteger

instance (row : IdentityRow) : Decidable row.Parses :=
  inferInstanceAs (Decidable (_ ∧ _))

/-- The row of a keyset. -/
def Tables.identity (tables : Tables) (mintUrl : MintUrl) (keysetId : KeysetId) :
    Option IdentityRow :=
  tables.keysets.find fun row => row.mintUrl = mintUrl ∧ row.keysetId = keysetId

/-- The entries of an observation with the rows of their keysets, by their positions. -/
def Tables.entriesOf (tables : Tables) (fingerprint : Observation) :
    List (EntryRow × IdentityRow) :=
  (orderBy (·.position)
    (tables.entries.select fun entry => entry.snapshotFingerprint = fingerprint)).filterMap
      fun entry =>
        (tables.keysets.find fun row =>
          row.mintUrl = entry.mintUrl ∧ row.keysetId = entry.keysetId ∧ row.unit = entry.unit).map
            fun row => (entry, row)

variable (cashuTs : CashuTs) (column : JsonColumn)

def mapObservation (tables : Tables) (row : ObservationRow) : Except Error CashuKeysetSnapshot := do
  let entries := tables.entriesOf row.snapshotFingerprint
  ensure (entries ≠ []) .invalidRecord
  ensure (normalizeCashuMintUrl cashuTs row.mintUrl = some row.mintUrl) .invalidRecord
  ensure (row.observedAt ≤ maxSafeInteger) .invalidRecord
  ensure
    (∀ entry ∈ entries.zipIdx, entry.1.1.position = entry.2 ∧ entry.1.1.mintUrl = row.mintUrl ∧
      entry.1.1.unit = row.unit ∧ entry.1.2.Parses)
    .invalidRecord
  let snapshot ←
    (createCashuKeysetSnapshot cashuTs {
      keysets := entries.map fun entry => entry.2.input column entry.1.active
      mintUrl := row.mintUrl
      observedAt := row.observedAt
      schemaVersion := some cashuKeysetSnapshotSchemaVersion }).mapError fun _ => .invalidRecord
  ensure (∀ keyset ∈ snapshot.keysets, keyset.unit = row.unit) .invalidRecord
  ensure
    (∀ keyset ∈ snapshot.keysets.zipIdx, ∃ entry ∈ entries[keyset.2]?,
      entry.1.keysetId = keyset.1.id ∧
        entry.2.identityFingerprint = createIdentity row.mintUrl keyset.1)
    .invalidRecord
  let fingerprint : Observation := {
    operatorId := row.operatorId
    snapshot
    unit := row.unit }
  ensure (fingerprint = row.snapshotFingerprint) .invalidRecord
  return snapshot

def validateStoredIdentity (row : IdentityRow) : Except Error Unit := do
  ensure (normalizeCashuMintUrl cashuTs row.mintUrl = some row.mintUrl) .invalidRecord
  ensure row.Parses .invalidRecord
  let snapshot ←
    (createCashuKeysetSnapshot cashuTs {
      keysets := [row.input column false]
      mintUrl := row.mintUrl
      observedAt := 0
      schemaVersion := none }).mapError fun _ => .invalidRecord
  let keyset ← orFail snapshot.keysets.head? .invalidRecord
  ensure (createIdentity snapshot.mintUrl keyset = row.identityFingerprint) .invalidRecord

structure FindInput where
  mintUrl : String
  observedAtOrAfter : UnixTimestamp
  observedAtOrBefore : UnixTimestamp
  operatorId : OperatorId
  unit : String

def normalizeUnit (unit : String) : Except Error CashuUnit :=
  (normalizeKeysetUnit unit).mapError fun _ => .invalidInput

/-- What `validateFreshLookup` makes of the input. -/
structure Lookup where
  mintUrl : MintUrl
  observedAtOrAfter : UnixTimestamp
  observedAtOrBefore : UnixTimestamp
  operatorId : OperatorId
  unit : CashuUnit

def validateFreshLookup (input : FindInput) : Except Error Lookup := do
  ensure (input.observedAtOrAfter ≤ maxSafeInteger) .invalidInput
  ensure (input.observedAtOrBefore ≤ maxSafeInteger) .invalidInput
  ensure (input.observedAtOrAfter ≤ input.observedAtOrBefore) .invalidInput
  let mintUrl ← orFail (normalizeCashuMintUrl cashuTs input.mintUrl) .invalidInput
  let unit ← normalizeUnit input.unit
  return {
    mintUrl
    observedAtOrAfter := input.observedAtOrAfter
    observedAtOrBefore := input.observedAtOrBefore
    operatorId := input.operatorId
    unit }

/-- The rows that a lookup is about. -/
def Lookup.Finds (lookup : Lookup) (row : ObservationRow) : Prop :=
  row.operatorId = lookup.operatorId ∧ row.mintUrl = lookup.mintUrl ∧ row.unit = lookup.unit ∧
    lookup.observedAtOrAfter ≤ row.observedAt ∧ row.observedAt ≤ lookup.observedAtOrBefore

instance (lookup : Lookup) : DecidablePred lookup.Finds := fun _ =>
  inferInstanceAs (Decidable (_ ∧ _))

def findLatestFreshSnapshot (tables : Tables) (input : FindInput) :
    Except Error (Option CashuKeysetSnapshot) := do
  let lookup ← validateFreshLookup cashuTs input
  match latest (·.observedAt) (tables.observations.select lookup.Finds) with
  | none => return none
  | some row => some <$> mapObservation cashuTs column tables row

/-! ### Writing -/

/-- The input of `persistObservation`. The keys of its keysets are records. -/
structure PersistInput where
  operatorId : OperatorId
  snapshot : CreateCashuKeysetSnapshotInput
  unit : String
  isRecord : snapshot.IsRecord

structure PersistResult where
  replayed : Bool
  snapshot : CashuKeysetSnapshot

def validateObservation (input : PersistInput) : Except Error Observation := do
  let unit ← normalizeUnit input.unit
  let snapshot ←
    (createCashuKeysetSnapshot cashuTs input.snapshot).mapError fun _ => .invalidInput
  ensure (∀ keyset ∈ snapshot.keysets, keyset.unit = unit) .invalidInput
  return {
    operatorId := input.operatorId
    snapshot
    unit }

/-- `INSERT … ON CONFLICT DO NOTHING` of a keyset. -/
def insertIdentity (tables : Tables) (row : IdentityRow) : Except Error Tables := do
  ensure row.Checks .storageUnavailable
  match tables.keysets.insert row with
  | some keysets => return { tables with keysets }
  | none => return tables

def persistKeysetIdentity (mintUrl : MintUrl) (tables : Tables) (keyset : CashuKeysetSnapshotEntry) :
    Except Error Tables := do
  let identity := createIdentity mintUrl keyset
  let tables ← insertIdentity tables identity.row
  let row ← orFail (tables.identity mintUrl keyset.id) .invalidRecord
  validateStoredIdentity cashuTs column row
  ensure (row.identityFingerprint = identity) .keysetCollision
  return tables

/-- The row of an observation. -/
def Observation.row (observation : Observation) : ObservationRow where
  snapshotFingerprint := observation
  operatorId := observation.operatorId
  mintUrl := observation.snapshot.mintUrl
  unit := observation.unit
  observedAt := observation.snapshot.observedAt

/-- The row of a keyset of an observation at its position. -/
def Observation.entryRow (observation : Observation) (keyset : CashuKeysetSnapshotEntry × Nat) :
    EntryRow where
  snapshotFingerprint := observation
  mintUrl := observation.snapshot.mintUrl
  unit := observation.unit
  position := keyset.2
  keysetId := keyset.1.id
  active := keyset.1.active

/-- `INSERT … ON CONFLICT DO NOTHING` of an observation, `none` when there was a conflict. -/
def insertObservation (tables : Tables) (row : ObservationRow) : Except Error (Option Tables) := do
  ensure row.Checks .storageUnavailable
  return (tables.observations.insert row).map fun observations => { tables with observations }

def insertEntry (tables : Tables) (row : EntryRow) : Except Error Tables := do
  ensure (row.position < 64) .storageUnavailable
  let entries ← orFail (tables.entries.insert row) .storageUnavailable
  ensure
    (∃ observation ∈ tables.observations,
      observation.snapshotFingerprint = row.snapshotFingerprint ∧
        observation.mintUrl = row.mintUrl ∧ observation.unit = row.unit)
    .storageUnavailable
  ensure
    (∃ keyset ∈ tables.keysets, keyset.mintUrl = row.mintUrl ∧ keyset.keysetId = row.keysetId ∧
      keyset.unit = row.unit)
    .storageUnavailable
  return { tables with entries }

/-- `findObservationAt`. -/
def Tables.observationAt (tables : Tables) (observation : Observation) : Option ObservationRow :=
  tables.observations.find fun row =>
    row.operatorId = observation.operatorId ∧ row.mintUrl = observation.snapshot.mintUrl ∧
      row.unit = observation.unit ∧ row.observedAt = observation.snapshot.observedAt

/-- `persistObservation`. An observation must have an entry when it commits. -/
def persistObservation (tables : Tables) (input : PersistInput) :
    Except Error (PersistResult × Tables) := do
  let observation ← validateObservation cashuTs input
  let tables ← observation.snapshot.keysets.foldlM
    (persistKeysetIdentity cashuTs column observation.snapshot.mintUrl) tables
  match ← insertObservation tables observation.row with
  | none =>
      let existing ← orFail (tables.observationAt observation) .invalidRecord
      ensure (existing.snapshotFingerprint = observation) .observationConflict
      let snapshot ← mapObservation cashuTs column tables existing
      return ({
        replayed := true
        snapshot }, tables)
  | some tables =>
      let tables ← observation.snapshot.keysets.zipIdx.foldlM
        (fun tables keyset => insertEntry tables (observation.entryRow keyset)) tables
      ensure (∃ entry ∈ tables.entries, entry.snapshotFingerprint = observation)
        .storageUnavailable
      return ({
        replayed := false
        snapshot := observation.snapshot }, tables)

/-! ### Histories -/

/-- An observation that the repository accepts. -/
def Step (tables tables' : Tables) : Prop :=
  ∃ input result, persistObservation cashuTs column tables input = .ok (result, tables')

/-- A history of accepted observations. -/
abbrev Run : Tables → Tables → Prop :=
  Relation.ReflTransGen (Step cashuTs column)

/-- What some history leaves. -/
def Reachable (tables : Tables) : Prop :=
  Run cashuTs column Tables.empty tables

end KeysetStore

end CashMesh.Acquirer
