import CashMesh.Acquirer.KeysetRepository
/-!
# Histories of keyset observations

The material of a keyset never changes over a history of accepted observations: its first observation
writes its row, and a later one is accepted only with the same identity. So what was stored of an
observation is joined to the material that was observed, in whatever order the column gives its keys,
and is the observed snapshot again.
-/

namespace CashMesh.Acquirer

open CashMesh.Lib

namespace KeysetStore

section Histories

variable {cashuTs : CashuTs} {column : JsonColumn} {tables tables' : Tables}

/-! ### Identities -/

/-- Every row of a keyset is that of its identity. -/
def IdentitiesSound (tables : Tables) : Prop :=
  ∀ row ∈ tables.keysets, row = row.identityFingerprint.row

theorem insertIdentity_ok {identity : Identity} (hsound : IdentitiesSound tables)
    (h : insertIdentity tables identity.row = .ok tables') :
    IdentitiesSound tables' ∧ (∀ row ∈ tables.keysets, row ∈ tables'.keysets) ∧
      tables'.observations = tables.observations ∧ tables'.entries = tables.entries := by
  simp only [insertIdentity, bind_eq_ok, ensure_eq_ok, exists_unit] at h
  obtain ⟨-, h⟩ := h
  split at h
  · case h_1 keysets hinsert =>
    cases h
    have happends := Table.appends_of_insert hinsert
    refine ⟨?_, fun row hrow => happends.mem_of_mem hrow, rfl, rfl⟩
    intro row hrow
    rcases happends.mem.mp hrow with hold | hnew
    · exact hsound row hold
    · rw [List.mem_singleton.mp hnew]
      rfl
  · cases h
    exact ⟨hsound, fun row hrow => hrow, rfl, rfl⟩

theorem persistKeysetIdentity_ok {mintUrl : MintUrl} {keyset : CashuKeysetSnapshotEntry}
    (hsound : IdentitiesSound tables)
    (h : persistKeysetIdentity cashuTs column mintUrl tables keyset = .ok tables') :
    IdentitiesSound tables' ∧ (∀ row ∈ tables.keysets, row ∈ tables'.keysets) ∧
      (tables'.observations = tables.observations ∧ tables'.entries = tables.entries) ∧
        (createIdentity mintUrl keyset).row ∈ tables'.keysets := by
  simp only [persistKeysetIdentity, bind_eq_ok, ensure_eq_ok, exists_unit, orFail_eq_ok, pure_eq_ok,
    Except.ok.injEq] at h
  obtain ⟨inserted, hinsert, row, hrow, -, hidentity, rfl⟩ := h
  obtain ⟨hsound', hkept, hothers⟩ := insertIdentity_ok hsound hinsert
  obtain ⟨hmem, -⟩ := Table.find_some hrow
  refine ⟨hsound', hkept, hothers, ?_⟩
  rw [← hidentity, ← hsound' row hmem]
  exact hmem

theorem persistKeysetIdentities_ok {mintUrl : MintUrl} {keysets : List CashuKeysetSnapshotEntry}
    (hsound : IdentitiesSound tables)
    (h : keysets.foldlM (persistKeysetIdentity cashuTs column mintUrl) tables = .ok tables') :
    IdentitiesSound tables' ∧ (∀ row ∈ tables.keysets, row ∈ tables'.keysets) ∧
      (tables'.observations = tables.observations ∧ tables'.entries = tables.entries) ∧
        ∀ keyset ∈ keysets, (createIdentity mintUrl keyset).row ∈ tables'.keysets := by
  induction keysets generalizing tables with
  | nil =>
      cases h
      exact ⟨hsound, fun row hrow => hrow, ⟨rfl, rfl⟩, by simp⟩
  | cons keyset keysets ih =>
      rw [List.foldlM_cons, bind_eq_ok] at h
      obtain ⟨first, hfirst, hrest⟩ := h
      obtain ⟨hsound₁, hkept₁, ⟨hobservations₁, hentries₁⟩, hrow⟩ :=
        persistKeysetIdentity_ok hsound hfirst
      obtain ⟨hsound₂, hkept₂, ⟨hobservations₂, hentries₂⟩, hrows⟩ := ih hsound₁ hrest
      refine ⟨hsound₂, fun row hrow => hkept₂ row (hkept₁ row hrow),
        ⟨hobservations₂.trans hobservations₁, hentries₂.trans hentries₁⟩, ?_⟩
      intro other hother
      rcases List.mem_cons.mp hother with rfl | hother
      · exact hkept₂ _ hrow
      · exact hrows other hother

/-! ### Entries -/

theorem insertEntries_ok {rows : List EntryRow}
    (h : rows.foldlM insertEntry tables = .ok tables') :
    tables'.keysets = tables.keysets ∧ tables'.observations = tables.observations ∧
      tables.entries.Appends rows tables'.entries := by
  induction rows generalizing tables with
  | nil =>
      cases h
      exact ⟨rfl, rfl, .refl _⟩
  | cons row rows ih =>
      simp only [List.foldlM_cons, insertEntry, bind_eq_ok, ensure_eq_ok, exists_unit, orFail_eq_ok,
        pure_eq_ok, Except.ok.injEq] at h
      obtain ⟨first, ⟨-, entries, hinsert, -, -, rfl⟩, hrest⟩ := h
      obtain ⟨hkeysets, hobservations, happends⟩ := ih hrest
      exact ⟨hkeysets, hobservations, (Table.appends_of_insert hinsert).trans happends⟩

/-- The rows of the entries of an observation. -/
def Observation.entryRows (observation : Observation) : List EntryRow :=
  observation.snapshot.keysets.zipIdx.map observation.entryRow

theorem snapshotFingerprint_of_mem_entryRows {observation : Observation} {entry : EntryRow}
    (h : entry ∈ observation.entryRows) : entry.snapshotFingerprint = observation := by
  obtain ⟨pair, -, rfl⟩ := List.mem_map.mp h
  rfl

theorem orderBy_entryRows (observation : Observation) :
    orderBy (·.position) observation.entryRows = observation.entryRows := by
  apply orderBy_of_pairwise
  have hpositions : observation.entryRows.map (·.position) =
      List.range observation.snapshot.keysets.length := by
    rw [Observation.entryRows, List.map_map]
    show observation.snapshot.keysets.zipIdx.map Prod.snd = _
    rw [List.zipIdx_map_snd, List.range_eq_range']
  have hrange : (observation.entryRows.map (·.position)).Pairwise (· ≤ ·) := by
    rw [hpositions]
    exact List.pairwise_le_range
  exact List.pairwise_map.mp hrange

/-! ### Stored observations -/

/-- What the tables hold of an observation. -/
structure Stored (cashuTs : CashuTs) (tables : Tables) (observation : Observation) : Prop where
  canonical : CanonicalSnapshot cashuTs observation.snapshot
  unit : ∀ keyset ∈ observation.snapshot.keysets, keyset.unit = observation.unit
  keysets : ∀ keyset ∈ observation.snapshot.keysets,
    (createIdentity observation.snapshot.mintUrl keyset).row ∈ tables.keysets
  entries : (tables.entries.select fun entry => entry.snapshotFingerprint = observation) =
    observation.entryRows

/-- What holds of the tables after every history. -/
structure Sound (cashuTs : CashuTs) (tables : Tables) : Prop where
  identities : IdentitiesSound tables
  row : ∀ row ∈ tables.observations, row = row.snapshotFingerprint.row
  stored : ∀ row ∈ tables.observations, Stored cashuTs tables row.snapshotFingerprint
  observed : ∀ entry ∈ tables.entries, ∃ row ∈ tables.observations,
    row.snapshotFingerprint = entry.snapshotFingerprint

theorem sound_empty : Sound cashuTs Tables.empty := by
  constructor
  case identities => simp [IdentitiesSound, Tables.empty]
  case row => simp [Tables.empty]
  case stored => simp [Tables.empty]
  case observed => simp [Tables.empty]

theorem Sound.of_keysets (h : Sound cashuTs tables) (hidentities : IdentitiesSound tables')
    (hkept : ∀ row ∈ tables.keysets, row ∈ tables'.keysets)
    (hobservations : tables'.observations = tables.observations)
    (hentries : tables'.entries = tables.entries) : Sound cashuTs tables' where
  identities := hidentities
  row := hobservations ▸ h.row
  stored row hrow := by
    rw [hobservations] at hrow
    have hstored := h.stored row hrow
    refine ⟨hstored.canonical, hstored.unit, fun keyset hkeyset => hkept _ (hstored.keysets keyset hkeyset), ?_⟩
    rw [hentries]
    exact hstored.entries
  observed := by
    rw [hentries, hobservations]
    exact h.observed

theorem validateObservation_ok {input : PersistInput} {observation : Observation}
    (h : validateObservation cashuTs input = .ok observation) :
    observation.operatorId = input.operatorId ∧ observation.unit.val = input.unit ∧
      createCashuKeysetSnapshot cashuTs input.snapshot = .ok observation.snapshot ∧
        CanonicalSnapshot cashuTs observation.snapshot ∧
          ∀ keyset ∈ observation.snapshot.keysets, keyset.unit = observation.unit := by
  simp only [validateObservation, normalizeUnit, bind_eq_ok, mapError_eq_ok, ensure_eq_ok, exists_unit,
    pure_eq_ok, Except.ok.injEq, normalizeKeysetUnit_eq_ok] at h
  obtain ⟨unit, hunit, snapshot, hsnapshot, hunits, rfl⟩ := h
  have hcreated := createCashuKeysetSnapshot_eq_ok.mp hsnapshot
  exact ⟨rfl, hunit, hsnapshot, hcreated.canonical input.isRecord, hunits⟩

/-! ### Reading back -/

/-- An entry of an observation with the row of its keyset. -/
def Observation.joined (observation : Observation) (keyset : CashuKeysetSnapshotEntry × Nat) :
    EntryRow × IdentityRow :=
  (observation.entryRow keyset, (createIdentity observation.snapshot.mintUrl keyset.1).row)

theorem Stored.entriesOf {observation : Observation} (h : Stored cashuTs tables observation) :
    tables.entriesOf observation = observation.snapshot.keysets.zipIdx.map observation.joined := by
  rw [Tables.entriesOf, h.entries, orderBy_entryRows, Observation.entryRows, List.filterMap_map]
  refine (List.filterMap_congr ?_).trans (congrFun List.filterMap_eq_map' _)
  intro pair hpair
  have hkeyset : pair.1 ∈ observation.snapshot.keysets := List.fst_mem_of_mem_zipIdx hpair
  have hfind : (tables.keysets.find fun row => row.mintUrl = (observation.entryRow pair).mintUrl ∧
      row.keysetId = (observation.entryRow pair).keysetId ∧
        row.unit = (observation.entryRow pair).unit) =
          some (createIdentity observation.snapshot.mintUrl pair.1).row :=
    Table.find_of_mem (h.keysets pair.1 hkeyset) ⟨rfl, rfl, h.unit pair.1 hkeyset⟩
      fun other hother => ⟨hother.1, hother.2.1⟩
  exact congrArg (Option.map fun row => (observation.entryRow pair, row)) hfind

theorem mem_zipIdx_joined {observation : Observation} {entry : (EntryRow × IdentityRow) × Nat}
    (h : entry ∈ (observation.snapshot.keysets.zipIdx.map observation.joined).zipIdx) :
    ∃ keyset ∈ observation.snapshot.keysets, entry.1 = observation.joined (keyset, entry.2) := by
  rw [List.mem_zipIdx_iff_getElem?, List.getElem?_map, List.getElem?_zipIdx, Option.map_map,
    Option.map_eq_some_iff] at h
  obtain ⟨keyset, hkeyset, hentry⟩ := h
  refine ⟨keyset, List.mem_of_getElem? hkeyset, ?_⟩
  rw [← hentry, Function.comp_apply, Nat.zero_add]

/-- What is read of a stored keyset is the keyset that was observed, but for the order of its keys. -/
theorem sameKeyset_row (column : JsonColumn) {mintUrl : MintUrl} {keyset : CashuKeysetSnapshotEntry}
    (h : CanonicalKeyset cashuTs keyset) :
    SameKeyset keyset.input ((createIdentity mintUrl keyset).row.input column keyset.active) where
  active := rfl
  finalExpiry := rfl
  id := rfl
  inputFeePpk := rfl
  keys := (column.perm h.isRecord).symm
  unit := rfl

theorem parses_row {mintUrl : MintUrl} {keyset : CashuKeysetSnapshotEntry}
    (h : CanonicalKeyset cashuTs keyset) : (createIdentity mintUrl keyset).row.Parses := by
  refine ⟨h.normalized.inputFeePpk_le, ?_⟩
  intro expiry hexpiry
  have hexpiry : keyset.finalExpiry = some expiry := hexpiry
  have hnormalized : normalizeFinalExpiry keyset.finalExpiry = .ok keyset.finalExpiry :=
    h.normalized.finalExpiry
  rw [hexpiry] at hnormalized
  cases expiry with
  | zero => cases hnormalized
  | succ n =>
      simp only [normalizeFinalExpiry, bind_eq_ok, ensure_eq_ok, exists_unit] at hnormalized
      exact ⟨Nat.succ_pos n, hnormalized.1⟩

/-- A stored observation is read back. -/
theorem Stored.mapObservation {observation : Observation} (h : Stored cashuTs tables observation)
    (hmint : normalizeCashuMintUrl cashuTs observation.snapshot.mintUrl =
      some observation.snapshot.mintUrl) :
    mapObservation cashuTs column tables observation.row = .ok observation.snapshot := by
  have hcreated : createCashuKeysetSnapshot cashuTs {
      keysets := (observation.snapshot.keysets.zipIdx.map observation.joined).map fun entry =>
        entry.2.input column entry.1.active
      mintUrl := observation.snapshot.mintUrl
      observedAt := observation.snapshot.observedAt
      schemaVersion := some cashuKeysetSnapshotSchemaVersion } = .ok observation.snapshot := by
    apply createCashuKeysetSnapshot_eq_ok.mpr
    apply (h.canonical.created hmint).reordered ?_ h.canonical.isRecord
    refine ⟨⟨_, List.Perm.refl _, ?_⟩, rfl, rfl, rfl⟩
    have hfirst : observation.snapshot.keysets.zipIdx.map Prod.fst = observation.snapshot.keysets :=
      List.zipIdx_map_fst 0 _
    show List.Forall₂ SameKeyset (observation.snapshot.keysets.map (·.input)) _
    rw [← hfirst, List.map_map, List.map_map, hfirst, List.forall₂_map_left_iff,
      List.forall₂_map_right_iff, List.forall₂_same]
    intro pair hpair
    exact sameKeyset_row column (h.canonical.keysets pair.1 (List.fst_mem_of_mem_zipIdx hpair))
  have hnonempty : observation.snapshot.keysets.zipIdx.map observation.joined ≠ [] := by
    intro hnil
    rw [List.map_eq_nil_iff, List.zipIdx_eq_nil_iff] at hnil
    exact h.canonical.nonempty hnil
  simp only [KeysetStore.mapObservation, bind_eq_ok, ensure_eq_ok, exists_unit, mapError_eq_ok,
    pure_eq_ok, Except.ok.injEq, show observation.row.snapshotFingerprint = observation from rfl,
    h.entriesOf]
  refine ⟨hnonempty, hmint, h.canonical.observedAt_le, ?_, observation.snapshot, hcreated, h.unit, ?_,
    rfl, rfl⟩
  · intro entry hentry
    obtain ⟨keyset, hkeyset, hsame⟩ := mem_zipIdx_joined hentry
    rw [hsame]
    exact ⟨rfl, rfl, rfl, parses_row (h.canonical.keysets keyset hkeyset)⟩
  · intro pair hpair
    have hget := List.mem_zipIdx_iff_getElem?.mp hpair
    refine ⟨observation.joined pair, ?_, rfl, rfl⟩
    rw [List.getElem?_map, List.getElem?_zipIdx, hget, Option.map_some, Option.map_some, Nat.zero_add]
    rfl

/-! ### Accepted observations -/

theorem mapObservation_fingerprint {row : ObservationRow} {snapshot : CashuKeysetSnapshot}
    (h : mapObservation cashuTs column tables row = .ok snapshot) :
    row.snapshotFingerprint.snapshot = snapshot := by
  simp only [mapObservation, bind_eq_ok, ensure_eq_ok, exists_unit, mapError_eq_ok, pure_eq_ok,
    Except.ok.injEq] at h
  obtain ⟨-, -, -, -, snapshot, -, -, -, hfingerprint, rfl⟩ := h
  rw [← hfingerprint]

/-- The rows of a new observation and of its entries. -/
theorem Sound.of_observation {observation : Observation} (h : Sound cashuTs tables)
    (hcanonical : CanonicalSnapshot cashuTs observation.snapshot)
    (hunit : ∀ keyset ∈ observation.snapshot.keysets, keyset.unit = observation.unit)
    (hrows : ∀ keyset ∈ observation.snapshot.keysets,
      (createIdentity observation.snapshot.mintUrl keyset).row ∈ tables.keysets)
    (hkeysets : tables'.keysets = tables.keysets)
    (hobservations : tables.observations.Appends [observation.row] tables'.observations)
    (hentries : tables.entries.Appends observation.entryRows tables'.entries) :
    Sound cashuTs tables' := by
  have hnew : ∀ row ∈ tables.observations, row.snapshotFingerprint ≠ observation := by
    intro row hrow hsame
    exact hobservations.not_collide hrow (List.mem_singleton_self _) (.inl hsame)
  constructor
  case identities =>
    intro row hrow
    rw [hkeysets] at hrow
    exact h.identities row hrow
  case row =>
    intro row hrow
    rcases hobservations.mem.mp hrow with hold | hmine
    · exact h.row row hold
    · rw [List.mem_singleton.mp hmine]
      rfl
  case stored =>
    intro row hrow
    rcases hobservations.mem.mp hrow with hold | hmine
    · have hstored := h.stored row hold
      refine ⟨hstored.canonical, hstored.unit, hkeysets ▸ hstored.keysets, ?_⟩
      rw [hentries.select_of_not, hstored.entries]
      intro entry hentry hsame
      rw [snapshotFingerprint_of_mem_entryRows hentry] at hsame
      exact hnew row hold hsame.symm
    · rw [List.mem_singleton.mp hmine]
      refine ⟨hcanonical, hunit, hkeysets ▸ hrows, ?_⟩
      have hnone : (tables.entries.select fun entry => entry.snapshotFingerprint = observation) = [] := by
        rw [List.eq_nil_iff_forall_not_mem]
        intro entry hentry
        obtain ⟨hmem, hsame⟩ := Table.mem_select.mp hentry
        obtain ⟨row, hrow, hfingerprint⟩ := h.observed entry hmem
        exact hnew row hrow (hfingerprint.trans hsame)
      have hall : observation.entryRows.filter
          (fun entry => entry.snapshotFingerprint = observation) = observation.entryRows := by
        rw [List.filter_eq_self]
        intro entry hentry
        exact decide_eq_true (snapshotFingerprint_of_mem_entryRows hentry)
      show (tables'.entries.select fun entry => entry.snapshotFingerprint = observation) = _
      rw [hentries.select, hnone, hall, List.nil_append]
      rfl
  case observed =>
    intro entry hentry
    rcases hentries.mem.mp hentry with hold | hmine
    · obtain ⟨row, hrow, hfingerprint⟩ := h.observed entry hold
      exact ⟨row, hobservations.mem_of_mem hrow, hfingerprint⟩
    · refine ⟨observation.row, hobservations.mem.mpr (.inr (List.mem_singleton_self _)), ?_⟩
      exact (snapshotFingerprint_of_mem_entryRows hmine).symm

/-- What an accepted observation leaves. -/
structure Accepted (cashuTs : CashuTs) (tables tables' : Tables) (observation : Observation) :
    Prop where
  sound : Sound cashuTs tables'
  keysets : ∀ row ∈ tables.keysets, row ∈ tables'.keysets
  observations : ∀ row ∈ tables.observations, row ∈ tables'.observations
  row : observation.row ∈ tables'.observations

theorem persistObservation_ok {input : PersistInput} {result : PersistResult}
    (hsound : Sound cashuTs tables)
    (h : persistObservation cashuTs column tables input = .ok (result, tables')) :
    ∃ observation, validateObservation cashuTs input = .ok observation ∧
      result.snapshot = observation.snapshot ∧ Accepted cashuTs tables tables' observation := by
  simp only [persistObservation, bind_eq_ok] at h
  obtain ⟨observation, hvalid, known, hknown, inserted, hinserted, h⟩ := h
  refine ⟨observation, hvalid, ?_⟩
  obtain ⟨hidentities, hkeysets, ⟨hobservations, hentries⟩, hrows⟩ :=
    persistKeysetIdentities_ok hsound.identities hknown
  have hsound₁ : Sound cashuTs known := hsound.of_keysets hidentities hkeysets hobservations hentries
  simp only [insertObservation, bind_eq_ok, ensure_eq_ok, exists_unit, pure_eq_ok,
    Except.ok.injEq] at hinserted
  obtain ⟨-, hinserted⟩ := hinserted
  cases inserted with
  | none =>
      simp only [bind_eq_ok, orFail_eq_ok, ensure_eq_ok, exists_unit, pure_eq_ok, Except.ok.injEq,
        Prod.mk.injEq] at h
      obtain ⟨existing, hexisting, hfingerprint, snapshot, hsnapshot, rfl, rfl⟩ := h
      obtain ⟨hmem, -⟩ := Table.find_some hexisting
      have hrow : existing = observation.row := by
        rw [hsound₁.row existing hmem, hfingerprint]
      refine ⟨?_, hsound₁, hkeysets, ?_, hrow ▸ hmem⟩
      · rw [← mapObservation_fingerprint hsnapshot, hfingerprint]
      · intro row hrow
        rw [hobservations]
        exact hrow
  | some written =>
      simp only [bind_eq_ok, ensure_eq_ok, exists_unit, pure_eq_ok, Except.ok.injEq,
        Prod.mk.injEq] at h
      obtain ⟨final, hfinal, -, rfl, rfl⟩ := h
      rw [Option.map_eq_some_iff] at hinserted
      obtain ⟨observations, hinsert, rfl⟩ := hinserted
      have happends := Table.appends_of_insert hinsert
      rw [← List.foldlM_map] at hfinal
      obtain ⟨hfinalKeysets, hfinalObservations, hfinalEntries⟩ := insertEntries_ok hfinal
      obtain ⟨-, -, -, hcanonical, hunit⟩ := validateObservation_ok hvalid
      have hobservations' : known.observations.Appends [observation.row] final.observations := by
        rw [hfinalObservations]
        exact happends
      refine ⟨rfl, ?_, ?_, ?_, ?_⟩
      · exact hsound₁.of_observation hcanonical hunit hrows hfinalKeysets hobservations' hfinalEntries
      · intro row hrow
        rw [hfinalKeysets]
        exact hkeysets row hrow
      · intro row hrow
        apply hobservations'.mem_of_mem
        rw [hobservations]
        exact hrow
      · exact hobservations'.mem.mpr (.inr (List.mem_singleton_self _))

/-! ### Histories -/

/-- What a history keeps. -/
structure Keeps (cashuTs : CashuTs) (tables tables' : Tables) : Prop where
  sound : Sound cashuTs tables'
  keysets : ∀ row ∈ tables.keysets, row ∈ tables'.keysets
  observations : ∀ row ∈ tables.observations, row ∈ tables'.observations

theorem Sound.keeps (h : Sound cashuTs tables) (hrun : Run cashuTs column tables tables') :
    Keeps cashuTs tables tables' := by
  induction hrun with
  | refl => exact ⟨h, fun row hrow => hrow, fun row hrow => hrow⟩
  | tail _ hstep ih =>
      obtain ⟨input, result, hpersist⟩ := hstep
      obtain ⟨observation, -, -, haccepted⟩ := persistObservation_ok ih.sound hpersist
      exact ⟨haccepted.sound, fun row hrow => haccepted.keysets row (ih.keysets row hrow),
        fun row hrow => haccepted.observations row (ih.observations row hrow)⟩

theorem sound_of_reachable (h : Reachable cashuTs column tables) : Sound cashuTs tables :=
  (sound_empty.keeps h).sound

/-- An accepted observation has its row, and the rows of its keysets, in every later state. -/
theorem stored_of_run {input : PersistInput} {result : PersistResult} {later : Tables}
    (h : Reachable cashuTs column tables)
    (hpersist : persistObservation cashuTs column tables input = .ok (result, tables'))
    (hrun : Run cashuTs column tables' later) :
    ∃ observation, validateObservation cashuTs input = .ok observation ∧
      result.snapshot = observation.snapshot ∧ observation.row ∈ later.observations ∧
        Stored cashuTs later observation ∧ Sound cashuTs later := by
  obtain ⟨observation, hvalid, hresult, haccepted⟩ :=
    persistObservation_ok (sound_of_reachable h) hpersist
  have hkeeps := haccepted.sound.keeps hrun
  have hrow := hkeeps.observations _ haccepted.row
  exact ⟨observation, hvalid, hresult, hrow, hkeeps.sound.stored _ hrow, hkeeps.sound⟩

theorem findLatestFreshSnapshot_of_stored {observation : Observation}
    (hrow : observation.row ∈ tables.observations) (hstored : Stored cashuTs tables observation)
    (hmint : normalizeCashuMintUrl cashuTs observation.snapshot.mintUrl =
      some observation.snapshot.mintUrl) :
    findLatestFreshSnapshot cashuTs column tables {
      mintUrl := observation.snapshot.mintUrl
      observedAtOrAfter := observation.snapshot.observedAt
      observedAtOrBefore := observation.snapshot.observedAt
      operatorId := observation.operatorId
      unit := observation.unit.val } = .ok (some observation.snapshot) := by
  have hunit : normalizeUnit observation.unit.val = .ok observation.unit := by
    rw [normalizeUnit, mapError_eq_ok]
    exact normalizeKeysetUnit_eq_ok.mpr rfl
  have hbound : observation.snapshot.observedAt ≤ maxSafeInteger := hstored.canonical.observedAt_le
  have hlookup : validateFreshLookup cashuTs {
      mintUrl := observation.snapshot.mintUrl
      observedAtOrAfter := observation.snapshot.observedAt
      observedAtOrBefore := observation.snapshot.observedAt
      operatorId := observation.operatorId
      unit := observation.unit.val } = .ok {
        mintUrl := observation.snapshot.mintUrl
        observedAtOrAfter := observation.snapshot.observedAt
        observedAtOrBefore := observation.snapshot.observedAt
        operatorId := observation.operatorId
        unit := observation.unit } := by
    simp only [validateFreshLookup, bind_eq_ok, ensure_eq_ok, exists_unit, orFail_eq_ok, pure_eq_ok]
    exact ⟨hbound, hbound, Nat.le_refl _, _, hmint, _, hunit, rfl⟩
  have hselect : tables.observations.select (Lookup.Finds {
      mintUrl := observation.snapshot.mintUrl
      observedAtOrAfter := observation.snapshot.observedAt
      observedAtOrBefore := observation.snapshot.observedAt
      operatorId := observation.operatorId
      unit := observation.unit }) = [observation.row] := by
    apply Table.select_eq_singleton hrow
    · exact ⟨rfl, rfl, rfl, Nat.le_refl _, Nat.le_refl _⟩
    · intro other hother
      obtain ⟨hoperator, hmintUrl, hunit, hafter, hbefore⟩ := hother
      exact .inr ⟨hoperator, hmintUrl, hunit, Nat.le_antisymm hbefore hafter⟩
  rw [findLatestFreshSnapshot, hlookup, ok_bind, hselect]
  show some <$> mapObservation cashuTs column tables observation.row = _
  rw [hstored.mapObservation hmint]
  rfl

theorem material_eq {observation observation' : Observation}
    (hstored : Stored cashuTs tables observation) (hstored' : Stored cashuTs tables observation')
    (hmint : observation.snapshot.mintUrl = observation'.snapshot.mintUrl)
    {keyset keyset' : CashuKeysetSnapshotEntry} (hkeyset : keyset ∈ observation.snapshot.keysets)
    (hkeyset' : keyset' ∈ observation'.snapshot.keysets) (hid : keyset.id = keyset'.id) :
    keyset'.unit = keyset.unit ∧ keyset'.inputFeePpk = keyset.inputFeePpk ∧
      keyset'.finalExpiry = keyset.finalExpiry ∧ keyset'.keys = keyset.keys := by
  have hrow := hstored.keysets keyset hkeyset
  have hrow' := hstored'.keysets keyset' hkeyset'
  have hsame := Table.eq_of_collide hrow' hrow ⟨hmint.symm, hid.symm⟩
  have hidentity : createIdentity observation'.snapshot.mintUrl keyset' =
      createIdentity observation.snapshot.mintUrl keyset :=
    congrArg IdentityRow.identityFingerprint hsame
  simp only [createIdentity, Identity.mk.injEq] at hidentity
  obtain ⟨hexpiry, -, hfee, hkeys, -, hunit⟩ := hidentity
  exact ⟨hunit, hfee, hexpiry, hkeys⟩

/-- Whether an input has a snapshot, and which one, does not depend on the order of its keysets and of
their keys, and an input whose keysets are read fails with the error of the first one that is refused; a
snapshot is that of its own input, within the bound of the mint URLs; an observation of a snapshot of one
unit that is accepted is found at its time in every later state; the row of a keyset stays, the only one
under its id at its mint; and whenever two accepted observations have a keyset of one id at one mint,
its unit, its fee, its expiry and its keys are the same. -/
theorem keyset_histories (column : JsonColumn) (hkeeps : cashuTs.KeepsMintUrls) :
    (∀ input input', Reordered input input' → input.IsRecord →
      (createCashuKeysetSnapshot cashuTs input).toOption =
        (createCashuKeysetSnapshot cashuTs input').toOption) ∧
    (∀ input, KeysetsRead cashuTs input → ∀ error,
      createCashuKeysetSnapshot cashuTs input = .error error ↔
        FirstRefused cashuTs input.keysets error) ∧
    (∀ input snapshot, input.IsRecord → createCashuKeysetSnapshot cashuTs input = .ok snapshot →
      utf16Length snapshot.mintUrl ≤ maxCashuEndpointLength →
        createCashuKeysetSnapshot cashuTs snapshot.input = .ok snapshot) ∧
    (∀ input snapshot (unit : CashuUnit), input.IsRecord →
      createCashuKeysetSnapshot cashuTs input = .ok snapshot →
      (∀ keyset ∈ snapshot.keysets, keyset.unit = unit) →
      ∀ tables (persisted : PersistInput) result tables', Reachable cashuTs column tables →
        persisted.snapshot = snapshot.input → persisted.unit = unit.val →
        persistObservation cashuTs column tables persisted = .ok (result, tables') →
          result.snapshot = snapshot ∧ ∀ later, Run cashuTs column tables' later →
            findLatestFreshSnapshot cashuTs column later {
              mintUrl := snapshot.mintUrl
              observedAtOrAfter := snapshot.observedAt
              observedAtOrBefore := snapshot.observedAt
              operatorId := persisted.operatorId
              unit := unit.val } = .ok (some snapshot)) ∧
    (∀ tables later, Reachable cashuTs column tables → Run cashuTs column tables later →
      ∀ row ∈ tables.keysets, row ∈ later.keysets ∧ ∀ other ∈ later.keysets,
        other.mintUrl = row.mintUrl → other.keysetId = row.keysetId → other = row) ∧
    (∀ tables input result tables', Reachable cashuTs column tables →
      persistObservation cashuTs column tables input = .ok (result, tables') →
      ∀ later input' result' later', Run cashuTs column tables' later →
        persistObservation cashuTs column later input' = .ok (result', later') →
        result.snapshot.mintUrl = result'.snapshot.mintUrl →
        ∀ keyset ∈ result.snapshot.keysets, ∀ keyset' ∈ result'.snapshot.keysets,
          keyset.id = keyset'.id →
            keyset'.unit = keyset.unit ∧ keyset'.inputFeePpk = keyset.inputFeePpk ∧
              keyset'.finalExpiry = keyset.finalExpiry ∧ keyset'.keys = keyset.keys) := by
  refine ⟨?_, fun input hread error => createCashuKeysetSnapshot_eq_error hread, ?_, ?_, ?_, ?_⟩
  · intro input input' hreordered hrecord
    have hgoes : ∀ {input input' snapshot}, Reordered input input' → input.IsRecord →
        createCashuKeysetSnapshot cashuTs input = .ok snapshot →
          createCashuKeysetSnapshot cashuTs input' = .ok snapshot := by
      intro input input' snapshot hreordered hrecord hcreated
      rw [createCashuKeysetSnapshot_eq_ok] at hcreated ⊢
      exact hcreated.reordered hreordered hrecord
    cases hcreated : createCashuKeysetSnapshot cashuTs input with
    | ok snapshot => rw [hgoes hreordered hrecord hcreated]
    | error error =>
        cases hcreated' : createCashuKeysetSnapshot cashuTs input' with
        | error error' => rfl
        | ok snapshot =>
            have hback := hgoes hreordered.symm (hreordered.isRecord hrecord) hcreated'
            rw [hcreated] at hback
            cases hback
  · intro input snapshot hrecord hcreated hlength
    rw [createCashuKeysetSnapshot_eq_ok] at hcreated ⊢
    have hcanonical := hcreated.canonical hrecord
    exact hcanonical.created (hkeeps.normalize hcreated.mintUrl hlength)
  · intro input snapshot unit hrecord hcreated hunit tables persisted result tables' hreach hinput
      hpersistedUnit hpersist
    have hsource := createCashuKeysetSnapshot_eq_ok.mp hcreated
    have hcanonical := hsource.canonical hrecord
    have hown : ∀ observation, validateObservation cashuTs persisted = .ok observation →
        observation = ⟨persisted.operatorId, snapshot, unit⟩ ∧
          normalizeCashuMintUrl cashuTs snapshot.mintUrl = some snapshot.mintUrl := by
      intro observation hvalid
      obtain ⟨hoperator, hvalidUnit, hsnapshot, -⟩ := validateObservation_ok hvalid
      rw [hinput] at hsnapshot
      have hmint := (createCashuKeysetSnapshot_eq_ok.mp hsnapshot).mintUrl
      obtain ⟨⟨-, hlength, -⟩, -⟩ := normalizeCashuMintUrl_eq_some.mp hmint
      have hnormal := hkeeps.normalize hsource.mintUrl hlength
      have hagain := createCashuKeysetSnapshot_eq_ok.mpr (hcanonical.created hnormal)
      rw [hsnapshot, Except.ok.injEq] at hagain
      obtain ⟨operatorId, stored, storedUnit⟩ := observation
      obtain rfl : operatorId = persisted.operatorId := hoperator
      obtain rfl : stored = snapshot := hagain
      obtain rfl : storedUnit = unit := Subtype.ext (hvalidUnit.trans hpersistedUnit)
      exact ⟨rfl, hnormal⟩
    constructor
    · obtain ⟨observation, hvalid, hresult, -⟩ := stored_of_run hreach hpersist .refl
      obtain ⟨rfl, -⟩ := hown observation hvalid
      exact hresult
    · intro later hrun
      obtain ⟨observation, hvalid, -, hrow, hstored, -⟩ := stored_of_run hreach hpersist hrun
      obtain ⟨rfl, hmint⟩ := hown observation hvalid
      exact findLatestFreshSnapshot_of_stored hrow hstored hmint
  · intro tables later hreach hrun row hrow
    have hkept := ((sound_of_reachable hreach).keeps hrun).keysets row hrow
    refine ⟨hkept, ?_⟩
    intro other hother hmint hid
    exact Table.eq_of_collide hother hkept ⟨hmint, hid⟩
  · intro tables input result tables' hreach hpersist later input' result' later' hrun hpersist' hmint
      keyset hkeyset keyset' hkeyset' hid
    have hreach' : Reachable cashuTs column later :=
      (hreach.tail ⟨input, result, hpersist⟩).trans hrun
    have hrun' : Run cashuTs column tables' later' := hrun.tail ⟨input', result', hpersist'⟩
    obtain ⟨observation, -, hresult, -, hstored, -⟩ := stored_of_run hreach hpersist hrun'
    obtain ⟨observation', -, hresult', -, hstored', -⟩ := stored_of_run hreach' hpersist' .refl
    rw [hresult] at hkeyset hmint
    rw [hresult'] at hkeyset' hmint
    exact material_eq hstored hstored' hmint hkeyset hkeyset' hid

end Histories

/-! ### One snapshot

Two keysets, and the keys of one of them, in another order than that of their snapshot; the column gives
the keys back in reverse.
-/

namespace Sample

def firstKey : String := "0320554e1025066925c4c484dced7648ce5de2d1d967e31896d64409300620f85d"
def secondKey : String := "03acd9df2fa4864e03520527ed6851fba83a7395afa3b24a758f3a0fc9335fd74f"

theorem firstId : keysetIdPattern "00137db3c852deb6" = true := by
  decide

theorem secondId : keysetIdPattern "0048397f283f70e5" = true := by
  decide

def cashuTs : CashuTs where
  decodePayload _ := none
  hashToCurve _ := ⟨"025dccd27047d10d4900b8d2c4ea6795702c2d1fbe1d3fd0d1cd4b18776b12ddc0", by decide⟩
  jsonParse _ := none
  normalizeMintUrl _ := some "https://keysets.example"
  parseUrl text :=
    if text = "https://keysets.example/" ∨ text = "https://keysets.example" then
      some ⟨"https:", "", "", "", "", "https://keysets.example/"⟩
    else
      none
  pointFromHex text := text = firstKey ∨ text = secondKey
  -- The id of a keyset is made of its keys, in the order of their amounts.
  verifyKeysetId keyset :=
    (keyset.id.val = "00137db3c852deb6" ∧ keyset.keys.map Prod.snd = [firstKey]) ∨
    (keyset.id.val = "0048397f283f70e5" ∧ keyset.keys.map Prod.snd = [secondKey, firstKey])
  verifyProofsForReceive _ _ := false

theorem keepsMintUrls : cashuTs.KeepsMintUrls where
  trimmed _ _ hmint := by
    obtain rfl := Option.some.inj hmint
    decide
  parsed _ _ hmint := by
    obtain rfl := Option.some.inj hmint
    exact ⟨⟨"https:", "", "", "", "", "https://keysets.example/"⟩, rfl, ⟨rfl, rfl, rfl, rfl, rfl⟩, rfl⟩

def column : JsonColumn :=
  ⟨List.reverse, fun _ => List.reverse_perm _⟩

def input : CreateCashuKeysetSnapshotInput where
  keysets := [
    ⟨true, none, "0048397f283f70e5", none, [("64", firstKey), ("8", secondKey)], "usdc"⟩,
    ⟨false, some 2000, "00137db3c852deb6", some 100, [("1", firstKey)], "usdc"⟩]
  mintUrl := "https://keysets.example/"
  observedAt := 1001
  schemaVersion := none

def snapshot : CashuKeysetSnapshot where
  keysets := [
    ⟨false, some 2000, ⟨"00137db3c852deb6", firstId⟩, 100, [(1, firstKey)], cashuStellarUnit⟩,
    ⟨true, none, ⟨"0048397f283f70e5", secondId⟩, 0, [(8, secondKey), (64, firstKey)],
      cashuStellarUnit⟩]
  mintUrl := "https://keysets.example"
  observedAt := 1001

theorem isRecord_input : input.IsRecord := by
  intro keyset hkeyset
  have hall : input.keysets.all (fun keyset => decide (keyset.keys.map Prod.fst).Nodup) = true := rfl
  have hnames : (keyset.keys.map Prod.fst).Nodup :=
    of_decide_eq_true (List.all_eq_true.mp hall keyset hkeyset)
  exact hnames

theorem created : createCashuKeysetSnapshot cashuTs input = .ok snapshot := by
  decide +kernel

/-- The observation of the snapshot. -/
def observed : PersistInput where
  operatorId := ⟨"keyset-operator", by decide⟩
  snapshot := snapshot.input
  unit := "usdc"
  isRecord := ((createCashuKeysetSnapshot_eq_ok.mp created).canonical isRecord_input).isRecord

/-- Keysets that are refused each with an error of its own. -/
def unsupported : CashuKeysetSnapshotEntryInput :=
  ⟨true, none, "aaaaaaaaaaaa", none, [], "usdc"⟩

def nameless : CashuKeysetSnapshotEntryInput :=
  ⟨true, none, "", none, [], "usdc"⟩

end Sample

theorem keyset_histories_observed :
    ∃ result tables, persistObservation Sample.cashuTs Sample.column Tables.empty Sample.observed =
        .ok (result, tables) ∧ result.snapshot = Sample.snapshot ∧
      findLatestFreshSnapshot Sample.cashuTs Sample.column tables {
        mintUrl := Sample.snapshot.mintUrl
        observedAtOrAfter := Sample.snapshot.observedAt
        observedAtOrBefore := Sample.snapshot.observedAt
        operatorId := Sample.observed.operatorId
        unit := cashuStellarUnit.val } = .ok (some Sample.snapshot) := by
  have hpersisted : (persistObservation Sample.cashuTs Sample.column Tables.empty
      Sample.observed).toOption.isSome = true := by
    decide +kernel
  have hunit : ∀ keyset ∈ Sample.snapshot.keysets, keyset.unit = cashuStellarUnit := by
    have hall : Sample.snapshot.keysets.all (fun keyset => keyset.unit = cashuStellarUnit) = true := rfl
    exact fun keyset hkeyset => of_decide_eq_true (List.all_eq_true.mp hall keyset hkeyset)
  cases hresult : persistObservation Sample.cashuTs Sample.column Tables.empty Sample.observed with
  | error error =>
      rw [hresult] at hpersisted
      cases hpersisted
  | ok pair =>
      obtain ⟨result, tables⟩ := pair
      obtain ⟨hsnapshot, hfound⟩ := (keyset_histories Sample.column Sample.keepsMintUrls).2.2.2.1
        Sample.input Sample.snapshot cashuStellarUnit Sample.isRecord_input Sample.created hunit
        Tables.empty Sample.observed result tables .refl rfl rfl hresult
      exact ⟨result, tables, rfl, hsnapshot, hfound tables .refl⟩

/-- Two inputs in another order that are refused with different errors. -/
theorem reordered_errors :
    Reordered { Sample.input with keysets := [Sample.unsupported, Sample.nameless] }
        { Sample.input with keysets := [Sample.nameless, Sample.unsupported] } ∧
      ∃ error error',
        createCashuKeysetSnapshot Sample.cashuTs
            { Sample.input with keysets := [Sample.unsupported, Sample.nameless] } = .error error ∧
          createCashuKeysetSnapshot Sample.cashuTs
              { Sample.input with keysets := [Sample.nameless, Sample.unsupported] } = .error error' ∧
            error.code = .unsupportedKeysetVersion ∧ error'.code = .invalidKeyset := by
  refine ⟨⟨⟨_, List.Perm.swap _ _ _, ?_⟩, rfl, rfl, rfl⟩, ?_⟩
  · have hsame : ∀ entry, SameKeyset entry entry := fun entry =>
      ⟨rfl, rfl, rfl, rfl, List.Perm.refl _, rfl⟩
    exact List.forall₂_same.mpr fun entry _ => hsame entry
  · refine ⟨⟨.unsupportedKeysetVersion, "Cashu keyset version is not supported by this profile."⟩,
      invalidKeyset, ?_, ?_, rfl, rfl⟩
    · decide +kernel
    · decide +kernel

end KeysetStore

end CashMesh.Acquirer
