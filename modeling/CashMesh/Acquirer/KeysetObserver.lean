import CashMesh.Acquirer.KeysetConcurrency
import CashMesh.Acquirer.KeysetRepository
import CashMesh.Acquirer.QuoteClient
import Mathlib.Data.List.Dedup
/-!
# Observing the keysets of a mint

An observation reads the metadata of a mint's keysets, then the keys of every keyset of its unit with at
most four requests in flight, and then the metadata again, which must not have changed meanwhile. The
mint answers the requests in any order, and any of them can fail; what is returned in the end is one
snapshot of the mint.
-/

namespace CashMesh.Acquirer

open CashMesh.Lib

/-! ### Responses -/

/-- `CashuKeysetObservationErrorCode`. -/
inductive CashuKeysetObservationErrorCode where
  | invalidClock
  | invalidKeysetResponse
  | invalidMint
  | invalidObservationInput
  | keysetLimitExceeded
  | keysetMetadataChanged
  | keysetResponseMismatch
  | keysetUnitNotFound
  | observationAborted
  | sourceUnavailable
deriving DecidableEq

/-- `CashuKeysetObservationError`. -/
structure CashuKeysetObservationError where
  code : CashuKeysetObservationErrorCode
  message : String
deriving DecidableEq

namespace CashuKeysetObservationError

def invalidClock : CashuKeysetObservationError :=
  ⟨.invalidClock, "Cashu keyset observation clock is invalid."⟩

def clockMovedBackwards : CashuKeysetObservationError :=
  ⟨.invalidClock, "Cashu keyset observation clock moved backwards."⟩

def invalidObservationInput : CashuKeysetObservationError :=
  ⟨.invalidObservationInput, "Cashu keyset observation input is invalid."⟩

def invalidKeysetResponse : CashuKeysetObservationError :=
  ⟨.invalidKeysetResponse, "Cashu mint returned invalid keyset data."⟩

def tooManyEntries : CashuKeysetObservationError :=
  ⟨.keysetLimitExceeded, "Cashu mint returned too many keyset metadata entries."⟩

def tooManyKeysets : CashuKeysetObservationError :=
  ⟨.keysetLimitExceeded, "Cashu mint returned too many keysets for the requested unit."⟩

def keysetUnitNotFound : CashuKeysetObservationError :=
  ⟨.keysetUnitNotFound, "Cashu mint did not return keysets for the requested unit."⟩

def keysetResponseMismatch : CashuKeysetObservationError :=
  ⟨.keysetResponseMismatch, "Cashu key response does not match its keyset metadata."⟩

def keysetMetadataChanged : CashuKeysetObservationError :=
  ⟨.keysetMetadataChanged, "Cashu keyset metadata changed during observation."⟩

def observationAborted : CashuKeysetObservationError :=
  ⟨.observationAborted, "Cashu keyset observation was aborted."⟩

def sourceUnavailable : CashuKeysetObservationError :=
  ⟨.sourceUnavailable, "Cashu keyset source is unavailable."⟩

end CashuKeysetObservationError

open CashuKeysetObservationError

namespace JsonValue

def boolean? : JsonValue → Option Bool
  | boolean value => some value
  | _ => none

def elements? : JsonValue → Option (List JsonValue)
  | array elements => some elements
  | _ => none

/-- The fields of an object, one for each name. -/
def entries? : JsonValue → Option (List (String × JsonValue))
  | object fields =>
      some ((fields.map Prod.fst).dedup.filterMap fun name =>
        (fields.lookup name).map fun value => (name, value))
  | _ => none

theorem nodup_entries {value : JsonValue} {entries : List (String × JsonValue)}
    (h : value.entries? = some entries) : (entries.map Prod.fst).Nodup := by
  cases value with
  | object fields =>
      cases h
      have hnames : ∀ names : List String,
          ((names.filterMap fun name =>
            (fields.lookup name).map fun value => (name, value)).map Prod.fst).Sublist names := by
        intro names
        induction names with
        | nil => exact .slnil
        | cons name names ih =>
            rw [List.filterMap_cons]
            cases fields.lookup name with
            | none => exact ih.cons _
            | some value => exact ih.cons_cons _
      exact (hnames _).nodup (List.nodup_dedup _)
  | _ => cases h

end JsonValue

/-- What a mint says of a keyset besides its keys. An expiry of zero is none. -/
structure KeysetMetadata where
  active : Bool
  finalExpiry : Option UnixTimestamp
  id : KeysetId
  inputFeePpk : Nat
  unit : CashuUnit
  expires : finalExpiry ≠ some 0
deriving DecidableEq

/-- `MAX_CASHU_KEYSET_METADATA_ENTRIES`. -/
def maxCashuKeysetMetadataEntries : Nat := 256

def maxResponseIdLength : Nat := 128

/-- `optionalNonNegativeInteger`, whose fallback stands for `none`. -/
def optionalNonNegativeInteger (value : Option JsonValue) :
    Except CashuKeysetObservationError (Option Nat) :=
  match value with
  | none | some .null => return none
  | some value => do
      let number ← orFail value.natural? invalidKeysetResponse
      ensure (number ≤ maxSafeInteger) invalidKeysetResponse
      return some number

/-- An expiry as the metadata keeps it. -/
def normalizeExpiry (expiry : Option Nat) : Option UnixTimestamp :=
  expiry.filter (· ≠ 0)

theorem normalizeExpiry_ne_zero (expiry : Option Nat) : normalizeExpiry expiry ≠ some 0 := by
  intro h
  rw [normalizeExpiry, Option.filter_eq_some_iff] at h
  simp at h

def readText (value : JsonValue) (name : String) : Except CashuKeysetObservationError String :=
  orFail ((value.field name).bind JsonValue.string?) invalidKeysetResponse

def readKeysetId (id : String) : Except CashuKeysetObservationError KeysetId :=
  if h : keysetIdPattern id = true then
    return ⟨id, h⟩
  else
    throw invalidKeysetResponse

def readUnit (unit : String) : Except CashuKeysetObservationError CashuUnit :=
  if h : unitPattern unit = true then
    return ⟨unit, h⟩
  else
    throw invalidKeysetResponse

/-- `parseMetadata`. -/
def parseMetadata (value : JsonValue) : Except CashuKeysetObservationError KeysetMetadata := do
  let id ← readKeysetId (← readText value "id")
  let unit ← readUnit (← readText value "unit")
  let active ← orFail ((value.field "active").bind JsonValue.boolean?) invalidKeysetResponse
  let inputFeePpk ← optionalNonNegativeInteger (value.field "input_fee_ppk")
  let finalExpiry ← optionalNonNegativeInteger (value.field "final_expiry")
  return {
    active
    finalExpiry := normalizeExpiry finalExpiry
    id
    inputFeePpk := inputFeePpk.getD 0
    unit
    expires := normalizeExpiry_ne_zero finalExpiry }

/-- The ids that a response has named so far, and the metadata selected from it. -/
structure MetadataScan where
  responseIds : List String
  selected : List KeysetMetadata

/-- One entry of the loop of `parseMetadataResponse`. -/
def scanMetadata (unit : CashuUnit) (scan : MetadataScan) (value : JsonValue) :
    Except CashuKeysetObservationError MetadataScan := do
  ensure (value.isObject = true) invalidKeysetResponse
  let id ← readText value "id"
  ensure (id ≠ "" ∧ utf16Length id ≤ maxResponseIdLength) invalidKeysetResponse
  let entryUnit ← readUnit (← readText value "unit")
  ensure (id ∉ scan.responseIds) invalidKeysetResponse
  if entryUnit ≠ unit then
    return { scan with responseIds := scan.responseIds ++ [id] }
  else
    let metadata ← parseMetadata value
    return {
      responseIds := scan.responseIds ++ [id]
      selected := scan.selected ++ [metadata] }

/-- `parseMetadataResponse`: the metadata of the keysets of a unit, in the order of their ids. -/
def parseMetadataResponse (response : JsonValue) (unit : CashuUnit) :
    Except CashuKeysetObservationError (List KeysetMetadata) := do
  let entries ← orFail ((response.field "keysets").bind JsonValue.elements?) invalidKeysetResponse
  ensure (entries.length ≤ maxCashuKeysetMetadataEntries) tooManyEntries
  let scan ← entries.foldlM (scanMetadata unit) ⟨[], []⟩
  ensure (scan.selected ≠ []) keysetUnitNotFound
  ensure (scan.selected.length ≤ maxCashuKeysetsPerSnapshot) tooManyKeysets
  return sortBy (·.id.val) scan.selected

/-- The keys of a response. A key that is no text is refused by the snapshot, as the empty text is. -/
def keyTexts (entries : List (String × JsonValue)) : List (String × String) :=
  entries.map fun entry => (entry.1, entry.2.string?.getD "")

/-- A number of the metadata that a keyset need not repeat, but must agree with when it does. -/
def requireRepeated (value : Option JsonValue) (agrees : Option Nat → Prop) [DecidablePred agrees] :
    Except CashuKeysetObservationError Unit :=
  match value with
  | none => return ()
  | some value => do
      let number ← optionalNonNegativeInteger (some value)
      ensure (agrees number) keysetResponseMismatch

/-- `parseKeysResponse`: the keyset of a response, which must agree with its metadata. -/
def parseKeysResponse (response : JsonValue) (expected : KeysetMetadata) :
    Except CashuKeysetObservationError CashuKeysetSnapshotEntryInput := do
  let keysets ← orFail ((response.field "keysets").bind JsonValue.elements?) invalidKeysetResponse
  ensure (keysets.length = 1) invalidKeysetResponse
  let keyset ← orFail keysets.head? invalidKeysetResponse
  ensure
    (keyset.isObject = true ∧
      (keyset.field "id").bind JsonValue.string? = some expected.id.val ∧
      (keyset.field "unit").bind JsonValue.string? = some expected.unit.val)
    keysetResponseMismatch
  let keys ← orFail ((keyset.field "keys").bind JsonValue.entries?) keysetResponseMismatch
  ensure (∀ active ∈ keyset.field "active", active.boolean? = some expected.active)
    keysetResponseMismatch
  requireRepeated (keyset.field "input_fee_ppk") fun fee => fee.getD 0 = expected.inputFeePpk
  requireRepeated (keyset.field "final_expiry") fun expiry =>
    normalizeExpiry expiry = expected.finalExpiry
  return {
    active := expected.active
    finalExpiry := expected.finalExpiry
    id := expected.id.val
    inputFeePpk := some expected.inputFeePpk
    keys := keyTexts keys
    unit := expected.unit.val }

/-! ### An observation -/

/-- `CashuMintKeysetHttpErrorCode`. -/
inductive CashuMintKeysetHttpErrorCode where
  | invalidConfiguration
  | invalidResponse
  | networkError
  | requestAborted
  | requestTimeout
  | responseTooLarge
  | unexpectedStatus
deriving DecidableEq

/-- What the source throws: an error of its client, or another one. -/
inductive KeysetSourceFailure where
  | http (code : CashuMintKeysetHttpErrorCode)
  | observation (error : CashuKeysetObservationError)
  | other
deriving DecidableEq

/-- What an observation throws. -/
inductive KeysetObservationFailure where
  | observation (error : CashuKeysetObservationError)
  | http (code : CashuMintKeysetHttpErrorCode)
deriving DecidableEq

/-- The `catch` of `readSource`. -/
def mapSourceFailure (aborted : Bool) : KeysetSourceFailure → KeysetObservationFailure
  | .http code => if aborted then .observation observationAborted else .http code
  | .observation error => .observation (if aborted then observationAborted else error)
  | .other => .observation (if aborted then observationAborted else sourceUnavailable)

/-- The observer of a mint, whose URL its constructor has normalized. -/
structure CashuKeysetObserver where
  cashuTs : CashuTs
  mintUrl : MintUrl
  normalized : ∃ value, normalizeCashuMintUrl cashuTs value = some mintUrl

/-- A request to the source. -/
inductive KeysetRequest where
  | keysets
  | keys (id : KeysetId)
deriving DecidableEq

/-- `readClock`: none is what is no timestamp. -/
def readKeysetClock (now : Option Nat) : Except CashuKeysetObservationError UnixTimestamp := do
  let time ← orFail now CashuKeysetObservationError.invalidClock
  ensure (time ≤ maxSafeInteger) CashuKeysetObservationError.invalidClock
  return time

/-- The beginning of `observe`: its unit and the time it starts at. -/
def beginObservation (unit : String) (aborted : Bool) (now : Option Nat) :
    Except CashuKeysetObservationError (CashuUnit × UnixTimestamp) :=
  if h : unitPattern unit = true then do
    ensure (aborted = false) observationAborted
    let startedAt ← readKeysetClock now
    return (⟨unit, h⟩, startedAt)
  else
    throw invalidObservationInput

/-- The end of `observe`, after the metadata was read again. -/
def CashuKeysetObserver.snapshotAt (observer : CashuKeysetObserver) (startedAt : UnixTimestamp)
    (entries : List CashuKeysetSnapshotEntryInput) (now : Option Nat) :
    Except CashuKeysetObservationError CashuKeysetSnapshot := do
  let observedAt ← readKeysetClock now
  ensure (startedAt ≤ observedAt) clockMovedBackwards
  (createCashuKeysetSnapshot observer.cashuTs {
    keysets := entries
    mintUrl := observer.mintUrl
    observedAt
    schemaVersion := none }).mapError fun _ => CashuKeysetObservationError.invalidKeysetResponse

/-- Where an observation is. -/
inductive KeysetPhase where
  | reading
  | mapping (metadata : List KeysetMetadata)
      (calls : Mapping KeysetMetadata CashuKeysetSnapshotEntryInput)
  | rereading (metadata : List KeysetMetadata) (entries : List CashuKeysetSnapshotEntryInput)
  | clocking (entries : List CashuKeysetSnapshotEntryInput)
  | returned (snapshot : CashuKeysetSnapshot)
  | thrown (failure : KeysetObservationFailure)

/-- An observation with the requests that were answered, in the order of the answers. -/
structure KeysetObserving where
  phase : KeysetPhase
  answers : List (KeysetRequest × JsonValue)

def KeysetObserving.start : KeysetObserving :=
  ⟨.reading, []⟩

variable {observer : CashuKeysetObserver} {unit : CashuUnit} {startedAt : UnixTimestamp}

/-- What makes an observation fail: a request fails, or what was read is refused. -/
inductive KeysetPhase.Fails (observer : CashuKeysetObserver) (unit : CashuUnit)
    (startedAt : UnixTimestamp) : KeysetPhase → KeysetObservationFailure → Prop
  | source {phase} (hreads : phase = .reading ∨ (∃ metadata entries, phase = .rereading metadata entries) ∨
      ∃ metadata calls, phase = .mapping metadata calls ∧ calls.inFlight ≠ [])
      (aborted : Bool) (failure : KeysetSourceFailure) :
      Fails observer unit startedAt phase (mapSourceFailure aborted failure)
  | metadata {response error} (hparse : parseMetadataResponse response unit = .error error) :
      Fails observer unit startedAt .reading (.observation error)
  | keys {metadata calls index expected response error} (hawaited : index ∈ calls.inFlight)
      (hexpected : metadata[index]? = some expected)
      (hparse : parseKeysResponse response expected = .error error) :
      Fails observer unit startedAt (.mapping metadata calls) (.observation error)
  | metadataAgain {metadata entries response error}
      (hparse : parseMetadataResponse response unit = .error error) :
      Fails observer unit startedAt (.rereading metadata entries) (.observation error)
  | changed {metadata entries response changed}
      (hparse : parseMetadataResponse response unit = .ok changed) (hchanged : metadata ≠ changed) :
      Fails observer unit startedAt (.rereading metadata entries) (.observation keysetMetadataChanged)
  | snapshot {entries now error} (hsnapshot : observer.snapshotAt startedAt entries now = .error error) :
      Fails observer unit startedAt (.clocking entries) (.observation error)

/-- `observe` from one wait to the next, in whatever order the mint answers. -/
inductive KeysetObserving.Step (observer : CashuKeysetObserver) (unit : CashuUnit)
    (startedAt : UnixTimestamp) : KeysetObserving → KeysetObserving → Prop
  | metadata {answers response metadata}
      (hparse : parseMetadataResponse response unit = .ok metadata) :
      Step observer unit startedAt ⟨.reading, answers⟩
        ⟨.mapping metadata (.start (metadata.map some)), answers ++ [(.keysets, response)]⟩
  | works {answers metadata calls next}
      (hstep : Mapping.Step (metadata.map some) cashuKeysetObservationConcurrency calls next)
      (hsilent : next.returned = calls.returned) :
      Step observer unit startedAt ⟨.mapping metadata calls, answers⟩ ⟨.mapping metadata next, answers⟩
  | keys {answers metadata calls place index expected response entry}
      (hworker : calls.workers[place]? = some (.awaiting index))
      (hexpected : metadata[index]? = some expected)
      (hparse : parseKeysResponse response expected = .ok entry) :
      Step observer unit startedAt ⟨.mapping metadata calls, answers⟩
        ⟨.mapping metadata (calls.settle place index entry),
          answers ++ [(.keys expected.id, response)]⟩
  | mapped {answers metadata calls}
      (hreturns : calls.Returns (metadata.map some) cashuKeysetObservationConcurrency) :
      Step observer unit startedAt ⟨.mapping metadata calls, answers⟩
        ⟨.rereading metadata (calls.results.filterMap id), answers⟩
  | unchanged {answers metadata entries response}
      (hparse : parseMetadataResponse response unit = .ok metadata) :
      Step observer unit startedAt ⟨.rereading metadata entries, answers⟩
        ⟨.clocking entries, answers ++ [(.keysets, response)]⟩
  | returns {answers entries now snapshot}
      (hsnapshot : observer.snapshotAt startedAt entries now = .ok snapshot) :
      Step observer unit startedAt ⟨.clocking entries, answers⟩ ⟨.returned snapshot, answers⟩
  | throws {phase answers failure} (hfails : phase.Fails observer unit startedAt failure) :
      Step observer unit startedAt ⟨phase, answers⟩ ⟨.thrown failure, answers⟩

/-- What an observation of a unit can come to that starts at a time. -/
def KeysetObserving.Reachable (observer : CashuKeysetObserver) (text : String)
    (startedAt : UnixTimestamp) (run : KeysetObserving) : Prop :=
  ∃ unit aborted now, beginObservation text aborted now = .ok (unit, startedAt) ∧
    Relation.ReflTransGen (KeysetObserving.Step observer unit startedAt) .start run

/-! ### What the responses say -/

variable {metadata : List KeysetMetadata} {expected : KeysetMetadata}
  {entry : CashuKeysetSnapshotEntryInput} {response : JsonValue}

theorem unit_of_scanMetadata {scan scan' : MetadataScan} {value : JsonValue}
    (h : scanMetadata unit scan value = .ok scan')
    (hselected : ∀ entry ∈ scan.selected, entry.unit = unit) :
    ∀ entry ∈ scan'.selected, entry.unit = unit := by
  simp only [scanMetadata, bind_eq_ok, ensure_eq_ok, exists_unit] at h
  obtain ⟨-, id, hid, -, text, htext, entryUnit, hunit, -, h⟩ := h
  split at h
  · cases h
    exact hselected
  · case isFalse hsame =>
    simp only [bind_eq_ok, pure_eq_ok, Except.ok.injEq] at h
    obtain ⟨metadata, hmetadata, rfl⟩ := h
    simp only [parseMetadata, bind_eq_ok, orFail_eq_ok, pure_eq_ok, Except.ok.injEq] at hmetadata
    obtain ⟨_, -, _, -, text', htext', _, hunit', _, -, _, -, _, -, rfl⟩ := hmetadata
    intro entry hentry
    rcases List.mem_append.mp hentry with hold | hnew
    · exact hselected entry hold
    · rw [List.mem_singleton.mp hnew]
      rw [htext] at htext'
      cases htext'
      rw [hunit] at hunit'
      cases hunit'
      exact Classical.not_not.mp hsame

theorem parseMetadataResponse_ok (h : parseMetadataResponse response unit = .ok metadata) :
    (metadata.Pairwise fun left right => left.id.val ≤ right.id.val) ∧
      ∀ entry ∈ metadata, entry.unit = unit := by
  simp only [parseMetadataResponse, bind_eq_ok, ensure_eq_ok, exists_unit, orFail_eq_ok, pure_eq_ok,
    Except.ok.injEq] at h
  obtain ⟨entries, -, -, scan, hscan, -, -, rfl⟩ := h
  have hunits : ∀ entry ∈ scan.selected, entry.unit = unit := by
    refine foldlM_ok_induction (motive := fun scan _ scan' =>
      (∀ entry ∈ scan.selected, entry.unit = unit) → ∀ entry ∈ scan'.selected, entry.unit = unit)
      ?_ ?_ hscan ?_
    · exact fun _ hselected => hselected
    · intro scan value next _ _ hstep ih hselected
      exact ih (unit_of_scanMetadata hstep hselected)
    · simp
  refine ⟨pairwise_sortBy _, ?_⟩
  intro entry hentry
  exact hunits entry ((perm_sortBy _).mem_iff.mp hentry)

/-- What a keyset says besides its keys, as its response repeats it. -/
structure KeysetRead (expected : KeysetMetadata) (entry : CashuKeysetSnapshotEntryInput) : Prop where
  active : entry.active = expected.active
  finalExpiry : entry.finalExpiry = expected.finalExpiry
  id : entry.id = expected.id.val
  inputFeePpk : entry.inputFeePpk = some expected.inputFeePpk
  unit : entry.unit = expected.unit.val
  isRecord : entry.IsRecord

theorem parseKeysResponse_ok (h : parseKeysResponse response expected = .ok entry) :
    KeysetRead expected entry := by
  simp only [parseKeysResponse, bind_eq_ok, ensure_eq_ok, exists_unit, orFail_eq_ok, pure_eq_ok,
    Except.ok.injEq] at h
  obtain ⟨keysets, -, -, keyset, -, -, keys, hkeys, -, -, -, rfl⟩ := h
  obtain ⟨fields, -, hfields⟩ := Option.bind_eq_some_iff.mp hkeys
  have hnames := JsonValue.nodup_entries hfields
  refine ⟨rfl, rfl, rfl, rfl, rfl, ?_⟩
  have hmap : (keyTexts keys).map Prod.fst = keys.map Prod.fst := by
    rw [keyTexts, List.map_map]
    rfl
  rw [CashuKeysetSnapshotEntryInput.IsRecord, hmap]
  exact hnames

end CashMesh.Acquirer
