import CashMesh.Acquirer.KeysetHistory
import CashMesh.Acquirer.KeysetObserver
/-!
# What an observation returns

The phases of an observation keep what was requested and what the answers say. From this, whatever is
returned is the keysets of the metadata with the keys of their responses, and neither the order of the
answers nor the workers that took them leave a trace in it.
-/

namespace CashMesh.Acquirer

open CashMesh.Lib

variable {observer : CashuKeysetObserver} {unit : CashuUnit} {startedAt : UnixTimestamp}
  {metadata : List KeysetMetadata} {expected : KeysetMetadata}
  {entry : CashuKeysetSnapshotEntryInput} {response : JsonValue}

/-! ### What was read -/

/-- What a mapping has returned, with the responses that it was read from in the order of the answers. -/
def Answered (metadata : List KeysetMetadata) (returned : List (Nat × CashuKeysetSnapshotEntryInput))
    (answers : List (KeysetRequest × JsonValue)) : Prop :=
  List.Forall₂ (fun call answer => ∃ expected, metadata[call.1]? = some expected ∧
    answer.1 = .keys expected.id ∧ parseKeysResponse answer.2 expected = .ok call.2) returned answers

/-- The keys of every keyset were requested once, and its entry is what the response says. -/
structure KeysRead (metadata : List KeysetMetadata) (entries : List CashuKeysetSnapshotEntryInput)
    (answers : List (KeysetRequest × JsonValue)) : Prop where
  requests : (answers.map Prod.fst).Perm (metadata.map fun expected => .keys expected.id)
  entries : List.Forall₂ (fun expected entry => ∃ response,
    (KeysetRequest.keys expected.id, response) ∈ answers ∧
      parseKeysResponse response expected = .ok entry) metadata entries

/-- The answers are the metadata, the keys of its keysets and the same metadata again. -/
def ReadThrough (unit : CashuUnit) (entries : List CashuKeysetSnapshotEntryInput)
    (all : List (KeysetRequest × JsonValue)) : Prop :=
  ∃ initial final answers metadata, all = (.keysets, initial) :: (answers ++ [(.keysets, final)]) ∧
    parseMetadataResponse initial unit = .ok metadata ∧
    parseMetadataResponse final unit = .ok metadata ∧ KeysRead metadata entries answers

/-- What the phase of an observation says about its answers. -/
def KeysetObserving.Sound (observer : CashuKeysetObserver) (unit : CashuUnit)
    (startedAt : UnixTimestamp) (run : KeysetObserving) : Prop :=
  match run.phase with
  | .reading => run.answers = []
  | .mapping metadata calls =>
      ∃ initial answers count, run.answers = (.keysets, initial) :: answers ∧
        parseMetadataResponse initial unit = .ok metadata ∧
        Mapping.Run (metadata.map some) cashuKeysetObservationConcurrency count calls ∧
        Answered metadata calls.returned answers
  | .rereading metadata entries =>
      ∃ initial answers, run.answers = (.keysets, initial) :: answers ∧
        parseMetadataResponse initial unit = .ok metadata ∧ KeysRead metadata entries answers
  | .clocking entries => ReadThrough unit entries run.answers
  | .returned snapshot =>
      ∃ entries now, ReadThrough unit entries run.answers ∧
        observer.snapshotAt startedAt entries now = .ok snapshot
  | .thrown _ => True

theorem map_some_filterMap {α : Type} {results : List (Option α)} (h : none ∉ results) :
    (results.filterMap id).map some = results := by
  induction results with
  | nil => rfl
  | cons result results ih =>
      rw [List.mem_cons, not_or] at h
      cases result with
      | none => exact absurd rfl h.1
      | some value => exact congrArg (some value :: ·) (ih h.2)

theorem Answered.requests {returned : List (Nat × CashuKeysetSnapshotEntryInput)}
    {answers : List (KeysetRequest × JsonValue)} (h : Answered metadata returned answers) :
    (answers.map Prod.fst).map some = (returned.map Prod.fst).map fun index =>
      metadata[index]?.map fun expected => KeysetRequest.keys expected.id := by
  induction h with
  | nil => rfl
  | cons hhead _ ih =>
      obtain ⟨expected, hexpected, hrequest, -⟩ := hhead
      simp only [List.map_cons, hexpected, hrequest, Option.map_some, ih]

theorem keysRead_of_returns {calls : Mapping KeysetMetadata CashuKeysetSnapshotEntryInput} {count : Nat}
    {answers : List (KeysetRequest × JsonValue)}
    (hrun : Mapping.Run (metadata.map some) cashuKeysetObservationConcurrency count calls)
    (hreturns : calls.Returns (metadata.map some) cashuKeysetObservationConcurrency)
    (hanswered : Answered metadata calls.returned answers) :
    KeysRead metadata (calls.results.filterMap id) answers := by
  have hholds := hrun.holds
  obtain ⟨-, hperm⟩ := hholds.complete (by decide) hreturns
  have hresult : ∀ index < metadata.length, ∃ entry, (index, entry) ∈ calls.returned ∧
      calls.results[index]? = some (some entry) := by
    intro index hindex
    have hmem := hperm.mem_iff.mpr (List.mem_range.mpr hindex)
    obtain ⟨⟨_, entry⟩, hreturned, rfl⟩ := List.mem_map.mp hmem
    exact ⟨entry, hreturned, hholds.result_at hreturns hreturned⟩
  have hall : (calls.results.filterMap id).map some = calls.results := by
    apply map_some_filterMap
    intro hnone
    obtain ⟨index, hindex, hget⟩ := List.mem_iff_getElem.mp hnone
    obtain ⟨entry, -, hsome⟩ := hresult index (hholds.results_length ▸ hindex)
    rw [List.getElem?_eq_getElem hindex, hget] at hsome
    cases hsome
  constructor
  case requests =>
    have hrange : (List.range metadata.length).map (fun index =>
        metadata[index]?.map fun expected => KeysetRequest.keys expected.id) =
          (metadata.map fun expected => KeysetRequest.keys expected.id).map some := by
      apply List.ext_getElem?
      intro index
      by_cases hindex : index < metadata.length <;> simp [hindex]
    have hsame := hperm.map fun index =>
      metadata[index]?.map fun expected => KeysetRequest.keys expected.id
    rw [hrange, ← hanswered.requests] at hsame
    exact (List.map_perm_map_iff (Option.some_injective _)).mp hsame
  case entries =>
    have hlength : (calls.results.filterMap id).length = metadata.length := by
      rw [← hholds.results_length, ← hall, List.length_map, hall]
    apply List.forall₂_iff_get.mpr
    refine ⟨hlength.symm, ?_⟩
    intro index hindex hindex'
    obtain ⟨entry, hreturned, hentry⟩ := hresult index hindex
    have hget : (calls.results.filterMap id)[index] = entry := by
      rw [← hall, List.getElem?_map, List.getElem?_eq_getElem hindex', Option.map_some] at hentry
      exact Option.some.inj (Option.some.inj hentry)
    obtain ⟨answer, hanswer, expected, hexpected, hrequest, hparse⟩ :=
      exists_of_forall₂ hanswered.flip hreturned
    have hsame : metadata[index] = expected := by
      rw [List.getElem?_eq_getElem hindex] at hexpected
      exact Option.some.inj hexpected
    refine ⟨answer.2, ?_, ?_⟩
    · show (KeysetRequest.keys metadata[index].id, _) ∈ _
      rw [hsame, ← hrequest]
      exact hanswer
    · show parseKeysResponse _ metadata[index] = .ok (calls.results.filterMap id)[index]
      rw [hsame, hget]
      exact hparse

theorem KeysetObserving.Step.sound {run next : KeysetObserving}
    (hstep : KeysetObserving.Step observer unit startedAt run next)
    (h : run.Sound observer unit startedAt) : next.Sound observer unit startedAt := by
  cases hstep with
  | metadata hparse =>
      obtain rfl : _ = [] := h
      exact ⟨_, [], 0, rfl, hparse, .start, .nil⟩
  | works hstep hsilent =>
      obtain ⟨initial, answers, count, hall, hparse, hrun, hanswered⟩ := h
      refine ⟨initial, answers, count + 1, hall, hparse, .step hrun hstep, ?_⟩
      rw [hsilent]
      exact hanswered
  | keys hworker hexpected hkeys =>
      obtain ⟨initial, answers, count, hall, hparse, hrun, hanswered⟩ := h
      refine ⟨initial, answers ++ [_], count + 1, congrArg (· ++ [_]) hall, hparse,
        .step hrun (.settle _ hworker), ?_⟩
      exact List.rel_append hanswered (.cons ⟨_, hexpected, rfl, hkeys⟩ .nil)
  | mapped hreturns =>
      obtain ⟨initial, answers, count, hall, hparse, hrun, hanswered⟩ := h
      exact ⟨initial, answers, hall, hparse, keysRead_of_returns hrun hreturns hanswered⟩
  | unchanged hagain =>
      obtain ⟨initial, answers, hall, hparse, hread⟩ := h
      exact ⟨initial, _, answers, _, congrArg (· ++ [_]) hall, hparse, hagain, hread⟩
  | returns hsnapshot => exact ⟨_, _, h, hsnapshot⟩
  | throws _ => trivial

theorem KeysetObserving.sound_of_run {run : KeysetObserving}
    (h : Relation.ReflTransGen (KeysetObserving.Step observer unit startedAt) .start run) :
    run.Sound observer unit startedAt := by
  induction h with
  | refl => rfl
  | tail _ hstep ih => exact hstep.sound ih

/-! ### Snapshots -/

/-- A keyset of a snapshot: what the metadata says of it, with the keys of the response. -/
structure KeysetObserved (cashuTs : CashuTs) (answers : List (KeysetRequest × JsonValue))
    (expected : KeysetMetadata) (keyset : CashuKeysetSnapshotEntry) : Prop where
  active : keyset.active = expected.active
  finalExpiry : keyset.finalExpiry = expected.finalExpiry
  id : keyset.id = expected.id
  inputFeePpk : keyset.inputFeePpk = expected.inputFeePpk
  unit : keyset.unit = expected.unit
  keys : ∃ response entry, (KeysetRequest.keys expected.id, response) ∈ answers ∧
    parseKeysResponse response expected = .ok entry ∧ normalizeKeyset cashuTs entry = .ok keyset

theorem normalizeFinalExpiry_of_ne_zero {value expiry : Option Nat} (hvalue : value ≠ some 0)
    (h : normalizeFinalExpiry value = .ok expiry) : expiry = value := by
  match value with
  | none =>
      cases h
      rfl
  | some 0 => exact absurd rfl hvalue
  | some (value + 1) =>
      simp only [normalizeFinalExpiry, bind_eq_ok, ensure_eq_ok, exists_unit, pure_eq_ok,
        Except.ok.injEq] at h
      exact h.2.symm

theorem keysetObserved_of_normalized {cashuTs : CashuTs} {answers : List (KeysetRequest × JsonValue)}
    {keyset : CashuKeysetSnapshotEntry} (hanswer : (KeysetRequest.keys expected.id, response) ∈ answers)
    (hparse : parseKeysResponse response expected = .ok entry)
    (h : KeysetNormalized cashuTs entry keyset) : KeysetObserved cashuTs answers expected keyset := by
  have hread := parseKeysResponse_ok hparse
  constructor
  case active => exact h.active.trans hread.active
  case finalExpiry =>
    have hexpiry := h.finalExpiry
    rw [hread.finalExpiry] at hexpiry
    exact normalizeFinalExpiry_of_ne_zero expected.expires hexpiry
  case id => exact Subtype.ext (h.id.trans hread.id)
  case inputFeePpk =>
    rw [h.inputFeePpk, hread.inputFeePpk]
    rfl
  case unit => exact Subtype.ext (h.unit.trans hread.unit)
  case keys => exact ⟨response, entry, hanswer, hparse, normalizeKeyset_eq_ok.mpr h⟩

theorem snapshotAt_ok {entries : List CashuKeysetSnapshotEntryInput} {now : Option Nat}
    {snapshot : CashuKeysetSnapshot} (h : observer.snapshotAt startedAt entries now = .ok snapshot) :
    ∃ observedAt, startedAt ≤ observedAt ∧ SnapshotCreated observer.cashuTs {
      keysets := entries
      mintUrl := observer.mintUrl
      observedAt
      schemaVersion := none } snapshot := by
  simp only [CashuKeysetObserver.snapshotAt, bind_eq_ok, ensure_eq_ok, exists_unit, mapError_eq_ok,
    createCashuKeysetSnapshot_eq_ok] at h
  obtain ⟨observedAt, -, hstarted, hcreated⟩ := h
  exact ⟨observedAt, hstarted, hcreated⟩

theorem ids_observed {cashuTs : CashuTs} {answers : List (KeysetRequest × JsonValue)}
    {keysets : List CashuKeysetSnapshotEntry}
    (h : List.Forall₂ (KeysetObserved cashuTs answers) metadata keysets) :
    keysets.map (·.id) = metadata.map (·.id) := by
  induction h with
  | nil => rfl
  | cons hhead _ ih => rw [List.map_cons, List.map_cons, ih, hhead.id]

theorem observed_of_read {cashuTs : CashuTs} {entries : List CashuKeysetSnapshotEntryInput}
    {answers : List (KeysetRequest × JsonValue)} {keysets : List CashuKeysetSnapshotEntry}
    (hread : List.Forall₂ (fun expected entry => ∃ response,
      (KeysetRequest.keys expected.id, response) ∈ answers ∧
        parseKeysResponse response expected = .ok entry) metadata entries)
    (hkeysets : List.Forall₂ (KeysetNormalized cashuTs) entries keysets) :
    List.Forall₂ (KeysetObserved cashuTs answers) metadata keysets := by
  induction hread generalizing keysets with
  | nil =>
      cases hkeysets
      exact .nil
  | cons hhead _ ih =>
      obtain ⟨response, hanswer, hparse⟩ := hhead
      cases hkeysets with
      | cons hnormalized hrest =>
          exact .cons (keysetObserved_of_normalized hanswer hparse hnormalized) (ih hrest)

/-- The keysets of a snapshot are in the order of the metadata. -/
theorem keysets_observed {entries : List CashuKeysetSnapshotEntryInput}
    {answers : List (KeysetRequest × JsonValue)} {snapshot : CashuKeysetSnapshot} {observedAt : Nat}
    (hsorted : metadata.Pairwise fun left right => left.id.val ≤ right.id.val)
    (hread : KeysRead metadata entries answers)
    (h : SnapshotCreated observer.cashuTs {
      keysets := entries
      mintUrl := observer.mintUrl
      observedAt
      schemaVersion := none } snapshot) :
    List.Forall₂ (KeysetObserved observer.cashuTs answers) metadata snapshot.keysets := by
  obtain ⟨keysets, hkeysets, -, hsnapshot⟩ := h.keysets
  have hobserved := observed_of_read hread.entries hkeysets
  have hordered : keysets.Pairwise fun left right => left.id.val ≤ right.id.val := by
    have hids : (keysets.map (·.id)).Pairwise fun left right => left.val ≤ right.val := by
      rw [ids_observed hobserved, List.pairwise_map]
      exact hsorted
    rw [List.pairwise_map] at hids
    exact hids
  rw [hsnapshot, sortBy_of_pairwise hordered]
  exact hobserved

theorem KeysRead.isRecord {entries : List CashuKeysetSnapshotEntryInput}
    {answers : List (KeysetRequest × JsonValue)} (h : KeysRead metadata entries answers) :
    ∀ entry ∈ entries, entry.IsRecord := by
  intro entry hentry
  obtain ⟨expected, -, response, -, hparse⟩ := exists_of_forall₂ h.entries hentry
  exact (parseKeysResponse_ok hparse).isRecord

/-- The normal form of a mint URL is taken for itself wherever it is taken. -/
theorem CashuKeysetObserver.mintUrl_eq (hkeeps : observer.cashuTs.KeepsMintUrls) {mintUrl : MintUrl}
    (h : normalizeCashuMintUrl observer.cashuTs observer.mintUrl = some mintUrl) :
    mintUrl = observer.mintUrl := by
  obtain ⟨value, hvalue⟩ := observer.normalized
  obtain ⟨⟨-, hlength, -⟩, -⟩ := normalizeCashuMintUrl_eq_some.mp h
  rw [hkeeps.normalize hvalue hlength] at h
  exact (Option.some.inj h).symm

theorem KeysetObserving.returned_created {run : KeysetObserving} {snapshot : CashuKeysetSnapshot}
    (h : run.Sound observer unit startedAt) (hreturned : run.phase = .returned snapshot) :
    ∃ initial final answers metadata entries observedAt,
      run.answers = (.keysets, initial) :: (answers ++ [(.keysets, final)]) ∧
        parseMetadataResponse initial unit = .ok metadata ∧
        parseMetadataResponse final unit = .ok metadata ∧ KeysRead metadata entries answers ∧
        startedAt ≤ observedAt ∧ SnapshotCreated observer.cashuTs {
          keysets := entries
          mintUrl := observer.mintUrl
          observedAt
          schemaVersion := none } snapshot := by
  rw [KeysetObserving.Sound, hreturned] at h
  obtain ⟨entries, now, ⟨initial, final, answers, metadata, hall, hinitial, hfinal, hread⟩,
    hsnapshot⟩ := h
  obtain ⟨observedAt, hstarted, hcreated⟩ := snapshotAt_ok hsnapshot
  exact ⟨initial, final, answers, metadata, entries, observedAt, hall, hinitial, hfinal, hread,
    hstarted, hcreated⟩

theorem unit_of_beginObservation {text : String} {aborted : Bool} {now : Option Nat}
    (h : beginObservation text aborted now = .ok (unit, startedAt)) : unit.val = text := by
  unfold beginObservation at h
  split at h
  · simp only [bind_eq_ok, ensure_eq_ok, exists_unit, pure_eq_ok, Except.ok.injEq,
      Prod.mk.injEq] at h
    obtain ⟨-, _, -, rfl, -⟩ := h
    rfl
  · cases h

/-- In whatever order the mint answers, an observation that returns a snapshot has read the metadata of
the unit twice and found it the same, has read the keys of each of its keysets once in between, and
returns what these say; the repository takes the snapshot as it is. -/
theorem observation_consistent {text : String} {run : KeysetObserving} {snapshot : CashuKeysetSnapshot}
    (hkeeps : observer.cashuTs.KeepsMintUrls)
    (hreach : KeysetObserving.Reachable observer text startedAt run)
    (hreturned : run.phase = .returned snapshot) :
    ∃ (unit : CashuUnit) (hrecord : snapshot.input.IsRecord), unit.val = text ∧
      (∃ initial final answers metadata,
        run.answers = (.keysets, initial) :: (answers ++ [(.keysets, final)]) ∧
          parseMetadataResponse initial unit = .ok metadata ∧
          parseMetadataResponse final unit = .ok metadata ∧
          (answers.map Prod.fst).Perm (metadata.map fun expected => .keys expected.id) ∧
          List.Forall₂ (KeysetObserved observer.cashuTs answers) metadata snapshot.keysets) ∧
      startedAt ≤ snapshot.observedAt ∧ snapshot.mintUrl = observer.mintUrl ∧
      ∀ operatorId,
        KeysetStore.validateObservation observer.cashuTs ⟨operatorId, snapshot.input, text, hrecord⟩ =
          .ok ⟨operatorId, snapshot, unit⟩ := by
  obtain ⟨unit, aborted, now, hbegin, hrun⟩ := hreach
  obtain ⟨initial, final, answers, metadata, entries, observedAt, hall, hinitial, hfinal, hread,
    hstarted, hcreated⟩ := KeysetObserving.returned_created (KeysetObserving.sound_of_run hrun) hreturned
  obtain ⟨hsorted, hunits⟩ := parseMetadataResponse_ok hinitial
  have hobserved := keysets_observed hsorted hread hcreated
  have hcanonical := hcreated.canonical hread.isRecord
  have hmint := observer.mintUrl_eq hkeeps hcreated.mintUrl
  have htext := unit_of_beginObservation hbegin
  refine ⟨unit, hcanonical.isRecord, htext, ?_, ?_, hmint, ?_⟩
  · exact ⟨initial, final, answers, metadata, hall, hinitial, hfinal, hread.requests, hobserved⟩
  · rw [hcreated.observedAt]
    exact hstarted
  · intro operatorId
    have hnormal : normalizeCashuMintUrl observer.cashuTs snapshot.mintUrl = some snapshot.mintUrl := by
      have hsame := hcreated.mintUrl
      rw [hmint] at hsame ⊢
      exact hsame
    have hsnapshot := createCashuKeysetSnapshot_eq_ok.mpr (hcanonical.created hnormal)
    have hunit : KeysetStore.normalizeUnit text = .ok unit := by
      rw [KeysetStore.normalizeUnit, mapError_eq_ok]
      exact normalizeKeysetUnit_eq_ok.mpr htext
    have hkeysets : ∀ keyset ∈ snapshot.keysets, keyset.unit = unit := by
      intro keyset hkeyset
      obtain ⟨expected, hexpected, hkeyset⟩ := exists_of_forall₂ hobserved hkeyset
      rw [hkeyset.unit, hunits expected hexpected]
    simp only [KeysetStore.validateObservation, bind_eq_ok, ensure_eq_ok, exists_unit, mapError_eq_ok,
      pure_eq_ok, Except.ok.injEq]
    exact ⟨unit, hunit, snapshot, hsnapshot, hkeysets, rfl⟩

/-! ### The order of the answers -/

/-- What a request was answered with is known by the request, when no request was made twice. -/
theorem answer_eq {answers : List (KeysetRequest × JsonValue)}
    (hnodup : (answers.map Prod.fst).Nodup) {request : KeysetRequest} {other : JsonValue}
    (hanswer : (request, response) ∈ answers) (hother : (request, other) ∈ answers) :
    response = other :=
  congrArg Prod.snd (List.inj_on_of_nodup_map hnodup hanswer hother rfl)

theorem KeysetObserved.eq {cashuTs : CashuTs} {answers : List (KeysetRequest × JsonValue)}
    {keyset other : CashuKeysetSnapshotEntry} (hnodup : (answers.map Prod.fst).Nodup)
    (h : KeysetObserved cashuTs answers expected keyset)
    (hother : KeysetObserved cashuTs answers expected other) : keyset = other := by
  obtain ⟨response, entry, hanswer, hparse, hkeyset⟩ := h.keys
  obtain ⟨response', entry', hanswer', hparse', hkeyset'⟩ := hother.keys
  obtain rfl := answer_eq hnodup hanswer hanswer'
  obtain rfl := Except.ok.inj (hparse.symm.trans hparse')
  exact Except.ok.inj (hkeyset.symm.trans hkeyset')

theorem KeysetObserved.mono {cashuTs : CashuTs} {answers answers' : List (KeysetRequest × JsonValue)}
    {keyset : CashuKeysetSnapshotEntry}
    (hanswers : ∀ id response, (KeysetRequest.keys id, response) ∈ answers →
      (KeysetRequest.keys id, response) ∈ answers')
    (h : KeysetObserved cashuTs answers expected keyset) :
    KeysetObserved cashuTs answers' expected keyset where
  active := h.active
  finalExpiry := h.finalExpiry
  id := h.id
  inputFeePpk := h.inputFeePpk
  unit := h.unit
  keys := by
    obtain ⟨response, entry, hanswer, hkeys⟩ := h.keys
    exact ⟨response, entry, hanswers _ _ hanswer, hkeys⟩

theorem nodup_requests (hids : (metadata.map (·.id)).Nodup) :
    (metadata.map fun expected => KeysetRequest.keys expected.id).Nodup := by
  have hmap : (metadata.map fun expected => KeysetRequest.keys expected.id) =
      (metadata.map (·.id)).map KeysetRequest.keys := by
    rw [List.map_map]
    rfl
  rw [hmap]
  apply hids.map
  intro id other hsame
  exact KeysetRequest.keys.inj hsame

/-- An answer about the metadata is that of its first or its last read. -/
theorem keysets_readThrough {initial final : JsonValue} {answers : List (KeysetRequest × JsonValue)}
    (hrequests : (answers.map Prod.fst).Perm (metadata.map fun expected => .keys expected.id))
    (hmem : (.keysets, response) ∈
      (KeysetRequest.keysets, initial) :: (answers ++ [(.keysets, final)])) :
    response = initial ∨ response = final := by
  rcases List.mem_cons.mp hmem with hfirst | hmem
  · exact .inl (Prod.mk.inj hfirst).2
  · rcases List.mem_append.mp hmem with hkeys | hlast
    · have hrequest := hrequests.mem_iff.mp (List.mem_map_of_mem hkeys)
      obtain ⟨expected, -, hsame⟩ := List.mem_map.mp hrequest
      cases hsame
    · exact .inr (Prod.mk.inj (List.mem_singleton.mp hlast)).2

theorem keys_readThrough {initial final : JsonValue} {answers : List (KeysetRequest × JsonValue)}
    {id : KeysetId} :
    (.keys id, response) ∈ (KeysetRequest.keysets, initial) :: (answers ++ [(.keysets, final)]) ↔
      (.keys id, response) ∈ answers := by
  simp

/-- The order in which the mint answers does not matter: observations of a unit that were answered the
same and end at the same time return the same snapshot. -/
theorem observations_agree {text : String} {startedAt' : UnixTimestamp} {run run' : KeysetObserving}
    {snapshot snapshot' : CashuKeysetSnapshot}
    (hreach : KeysetObserving.Reachable observer text startedAt run)
    (hreach' : KeysetObserving.Reachable observer text startedAt' run')
    (hreturned : run.phase = .returned snapshot) (hreturned' : run'.phase = .returned snapshot')
    (hanswers : run.answers.Perm run'.answers) (htime : snapshot.observedAt = snapshot'.observedAt) :
    snapshot = snapshot' := by
  obtain ⟨unit, aborted, now, hbegin, hrun⟩ := hreach
  obtain ⟨unit', aborted', now', hbegin', hrun'⟩ := hreach'
  obtain rfl : unit = unit' :=
    Subtype.ext ((unit_of_beginObservation hbegin).trans (unit_of_beginObservation hbegin').symm)
  obtain ⟨initial, final, answers, metadata, entries, observedAt, hall, hinitial, hfinal, hread, -,
    hcreated⟩ := KeysetObserving.returned_created (KeysetObserving.sound_of_run hrun) hreturned
  obtain ⟨initial', final', answers', metadata', entries', observedAt', hall', hinitial', hfinal',
    hread', -, hcreated'⟩ :=
      KeysetObserving.returned_created (KeysetObserving.sound_of_run hrun') hreturned'
  rw [hall, hall'] at hanswers
  have hmetadata : metadata = metadata' := by
    have hmem := hanswers.mem_iff.mp List.mem_cons_self
    rcases keysets_readThrough hread'.requests hmem with rfl | rfl
    · exact Except.ok.inj (hinitial.symm.trans hinitial')
    · exact Except.ok.inj (hinitial.symm.trans hfinal')
  subst hmetadata
  have hobserved := keysets_observed (parseMetadataResponse_ok hinitial).1 hread hcreated
  have hobserved' := keysets_observed (parseMetadataResponse_ok hinitial').1 hread' hcreated'
  have hmoved : ∀ id response, (KeysetRequest.keys id, response) ∈ answers →
      (KeysetRequest.keys id, response) ∈ answers' := by
    intro id response hmem
    exact keys_readThrough.mp (hanswers.mem_iff.mp (keys_readThrough.mpr hmem))
  have hnodup : (answers'.map Prod.fst).Nodup := by
    apply (hread'.requests.nodup_iff).mpr
    apply nodup_requests
    rw [← ids_observed hobserved']
    exact (hcreated'.canonical hread'.isRecord).distinct
  have hkeysetsEq : snapshot.keysets = snapshot'.keysets := by
    have hsame := hobserved.imp fun _ _ hkeyset => hkeyset.mono hmoved
    exact List.right_unique_forall₂' (fun _ _ _ hkeyset hother => hkeyset.eq hnodup hother) hsame
      hobserved'
  have hmint : snapshot.mintUrl = snapshot'.mintUrl :=
    Option.some.inj (hcreated.mintUrl.symm.trans hcreated'.mintUrl)
  obtain ⟨keysets, mintUrl, time⟩ := snapshot
  obtain ⟨keysets', mintUrl', time'⟩ := snapshot'
  obtain rfl : keysets = keysets' := hkeysetsEq
  obtain rfl : mintUrl = mintUrl' := hmint
  obtain rfl : time = time' := htime
  rfl

/-! ### Two keysets

The snapshot of two keysets, of which the mint answers one or the other first.
-/

namespace ObserverSample

theorem normalized : ∃ value,
    normalizeCashuMintUrl KeysetStore.Sample.cashuTs value = some "https://keysets.example" :=
  ⟨"https://keysets.example/", by decide +kernel⟩

def sampleObserver : CashuKeysetObserver where
  cashuTs := KeysetStore.Sample.cashuTs
  mintUrl := "https://keysets.example"
  normalized := normalized

theorem firstExpires : (some 2000 : Option UnixTimestamp) ≠ some 0 := by
  decide

theorem secondExpires : (none : Option UnixTimestamp) ≠ some 0 := by
  decide

def first : KeysetMetadata :=
  ⟨false, some 2000, ⟨"00137db3c852deb6", KeysetStore.Sample.firstId⟩, 100, cashuStellarUnit, firstExpires⟩

def second : KeysetMetadata :=
  ⟨true, none, ⟨"0048397f283f70e5", KeysetStore.Sample.secondId⟩, 0, cashuStellarUnit, secondExpires⟩

/-- The metadata in another order than that of the ids, with a keyset of another unit. -/
def keysets : JsonValue :=
  .object [("keysets", .array [
    .object [("id", .string "0048397f283f70e5"), ("unit", .string "usdc"), ("active", .boolean true)],
    .object [("id", .string "sat-keyset"), ("unit", .string "sat")],
    .object [("id", .string "00137db3c852deb6"), ("unit", .string "usdc"), ("active", .boolean false),
      ("input_fee_ppk", .natural 100), ("final_expiry", .natural 2000)]])]

def keysOf (id : String) (keys : List (String × JsonValue)) : JsonValue :=
  .object [("keysets", .array [
    .object [("id", .string id), ("unit", .string "usdc"), ("keys", .object keys)]])]

def firstKeys : JsonValue :=
  keysOf "00137db3c852deb6" [("1", .string KeysetStore.Sample.firstKey)]

def secondKeys : JsonValue :=
  keysOf "0048397f283f70e5" [("64", .string KeysetStore.Sample.firstKey),
    ("8", .string KeysetStore.Sample.secondKey)]

def firstEntry : CashuKeysetSnapshotEntryInput :=
  ⟨false, some 2000, "00137db3c852deb6", some 100, [("1", KeysetStore.Sample.firstKey)], "usdc"⟩

def secondEntry : CashuKeysetSnapshotEntryInput :=
  ⟨true, none, "0048397f283f70e5", some 0,
    [("64", KeysetStore.Sample.firstKey), ("8", KeysetStore.Sample.secondKey)], "usdc"⟩

theorem metadata_read : parseMetadataResponse keysets cashuStellarUnit = .ok [first, second] := by
  apply eq_ok_of_toOption
  decide +kernel

theorem first_read : parseKeysResponse firstKeys first = .ok firstEntry := by
  apply eq_ok_of_toOption
  decide +kernel

theorem second_read : parseKeysResponse secondKeys second = .ok secondEntry := by
  apply eq_ok_of_toOption
  decide +kernel

theorem snapshot_created :
    sampleObserver.snapshotAt 1000 [firstEntry, secondEntry] (some 1001) = .ok KeysetStore.Sample.snapshot := by
  apply eq_ok_of_toOption
  decide +kernel

abbrev Steps : KeysetObserving → Prop :=
  Relation.ReflTransGen (KeysetObserving.Step sampleObserver cashuStellarUnit 1000) .start

theorem requested : Steps ⟨.mapping [first, second] ⟨2, [none, none], [.awaiting 0, .awaiting 1],
    [(0, first), (1, second)], []⟩, [(.keysets, keysets)]⟩ := by
  have hread : Steps ⟨.mapping [first, second] (.start [some first, some second]),
      [(.keysets, keysets)]⟩ :=
    Relation.ReflTransGen.refl.tail (.metadata metadata_read)
  have hfirst : Steps ⟨.mapping [first, second] ⟨1, [none, none], [.awaiting 0], [(0, first)], []⟩,
      [(.keysets, keysets)]⟩ :=
    hread.tail (.works (.spawn (by decide)) rfl)
  exact hfirst.tail (.works (.spawn (by decide)) rfl)

theorem returns_of_settled {returned : List (Nat × CashuKeysetSnapshotEntryInput)}
    {answers : List (KeysetRequest × JsonValue)}
    (h : Steps ⟨.mapping [first, second] ⟨2, [none, none], [.settled 0 firstEntry, .settled 1 secondEntry],
      [(0, first), (1, second)], returned⟩, answers⟩) :
    Steps ⟨.returned KeysetStore.Sample.snapshot, answers ++ [(.keysets, keysets)]⟩ := by
  have hresumed : Steps ⟨.mapping [first, second] ⟨2, [some firstEntry, none],
      [.finished, .settled 1 secondEntry], [(0, first), (1, second)], returned⟩, answers⟩ :=
    h.tail (.works (@Mapping.Step.resume _ _ _ _ _ 0 0 firstEntry rfl) rfl)
  have hfinished : Steps ⟨.mapping [first, second] ⟨2, [some firstEntry, some secondEntry],
      [.finished, .finished], [(0, first), (1, second)], returned⟩, answers⟩ :=
    hresumed.tail (.works (@Mapping.Step.resume _ _ _ _ _ 1 1 secondEntry rfl) rfl)
  have hmapped : Steps ⟨.rereading [first, second] [firstEntry, secondEntry], answers⟩ :=
    hfinished.tail (.mapped ⟨rfl, by simp⟩)
  exact (hmapped.tail (.unchanged metadata_read)).tail (.returns snapshot_created)

theorem first_answered_first :
    Steps ⟨.returned KeysetStore.Sample.snapshot, [(.keysets, keysets), (.keys first.id, firstKeys),
      (.keys second.id, secondKeys), (.keysets, keysets)]⟩ := by
  have hfirst : Steps ⟨.mapping [first, second] ⟨2, [none, none], [.settled 0 firstEntry, .awaiting 1],
      [(0, first), (1, second)], [(0, firstEntry)]⟩,
      [(.keysets, keysets), (.keys first.id, firstKeys)]⟩ :=
    requested.tail (@KeysetObserving.Step.keys _ _ _ _ _ _ 0 0 first _ _ rfl rfl first_read)
  exact returns_of_settled
    (hfirst.tail (@KeysetObserving.Step.keys _ _ _ _ _ _ 1 1 second _ _ rfl rfl second_read))

theorem second_answered_first :
    Steps ⟨.returned KeysetStore.Sample.snapshot, [(.keysets, keysets), (.keys second.id, secondKeys),
      (.keys first.id, firstKeys), (.keysets, keysets)]⟩ := by
  have hsecond : Steps ⟨.mapping [first, second] ⟨2, [none, none], [.awaiting 0, .settled 1 secondEntry],
      [(0, first), (1, second)], [(1, secondEntry)]⟩,
      [(.keysets, keysets), (.keys second.id, secondKeys)]⟩ :=
    requested.tail (@KeysetObserving.Step.keys _ _ _ _ _ _ 1 1 second _ _ rfl rfl second_read)
  exact returns_of_settled
    (hsecond.tail (@KeysetObserving.Step.keys _ _ _ _ _ _ 0 0 first _ _ rfl rfl first_read))

theorem reachable {run : KeysetObserving} (h : Steps run) :
    KeysetObserving.Reachable sampleObserver "usdc" 1000 run := by
  refine ⟨cashuStellarUnit, false, some 1000, ?_, h⟩
  apply eq_ok_of_toOption
  decide +kernel

end ObserverSample

theorem observation_consistent_two :
    ∃ (unit : CashuUnit) (hrecord : KeysetStore.Sample.snapshot.input.IsRecord), unit.val = "usdc" ∧
      ∀ operatorId, KeysetStore.validateObservation KeysetStore.Sample.cashuTs
        ⟨operatorId, KeysetStore.Sample.snapshot.input, "usdc", hrecord⟩ =
          .ok ⟨operatorId, KeysetStore.Sample.snapshot, unit⟩ := by
  obtain ⟨unit, hrecord, hunit, -, -, -, haccepted⟩ :=
    observation_consistent KeysetStore.Sample.keepsMintUrls
      (ObserverSample.reachable ObserverSample.second_answered_first) rfl
  exact ⟨unit, hrecord, hunit, haccepted⟩

theorem observations_agree_two :
    ∃ answers answers' snapshot snapshot', answers ≠ answers' ∧
      KeysetObserving.Reachable ObserverSample.sampleObserver "usdc" 1000 ⟨.returned snapshot, answers⟩ ∧
      KeysetObserving.Reachable ObserverSample.sampleObserver "usdc" 1000
        ⟨.returned snapshot', answers'⟩ ∧ snapshot = snapshot' := by
  have hfirst := ObserverSample.reachable ObserverSample.first_answered_first
  have hsecond := ObserverSample.reachable ObserverSample.second_answered_first
  refine ⟨_, _, _, _, ?_, hfirst, hsecond, ?_⟩
  · intro hsame
    have hrequests := congrArg (List.map Prod.fst) hsame
    exact absurd hrequests (by decide)
  · exact observations_agree hfirst hsecond rfl rfl (.cons _ (.swap _ _ _)) rfl

end CashMesh.Acquirer
