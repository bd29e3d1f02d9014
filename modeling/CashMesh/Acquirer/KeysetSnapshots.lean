import CashMesh.Acquirer.PaymentPayload
import CashMesh.Lib.Sorting
import Mathlib.Data.List.Perm.Basic
/-!
# The canonical form of a keyset snapshot

What `createCashuKeysetSnapshot` returns depends on the keysets of its input and on their keys, not on
the order of either, and what it returns is its own input. A key amount is the decimal text of a positive
number of 64 bits, one text for one number, so the order of the amounts is one of the texts as well.
-/

namespace CashMesh.Acquirer

open CashMesh.Lib

/-! ### Amounts of keys -/

theorem decimalValue_eq (text : String) :
    decimalValue text = Nat.ofDigitChars 10 text.toList 0 :=
  rfl

/-- The decimal text of a number. -/
def decimalText (n : Nat) : String :=
  String.ofList (Nat.toDigits 10 n)

@[simp] theorem toList_decimalText (n : Nat) : (decimalText n).toList = Nat.toDigits 10 n :=
  String.toList_ofList

@[simp] theorem decimalValue_decimalText (n : Nat) : decimalValue (decimalText n) = n := by
  rw [decimalValue_eq, toList_decimalText, Nat.ofDigitChars_ten_toDigits]

theorem range_of_isDigit {c : Char} (h : c.isDigit = true) : 48 ≤ c.toNat ∧ c.toNat ≤ 57 := by
  rw [Char.isDigit, Bool.and_eq_true, decide_eq_true_eq, decide_eq_true_eq] at h
  exact h

theorem toDigits_of_isDigit {c : Char} (h : c.isDigit = true) :
    Nat.toDigits 10 (c.toNat - 48) = [c] := by
  obtain ⟨hlow, hhigh⟩ := range_of_isDigit h
  have hlt : c.toNat - 48 < 10 := by omega
  have hdigit : (c.toNat - 48).digitChar.isDigit = true := by
    rw [Nat.isDigit_digitChar]
    exact decide_eq_true hlt
  have hrange := range_of_isDigit hdigit
  have hvalue := Nat.toNat_digitChar_sub_48_of_lt_ten hlt
  have hsame : (c.toNat - 48).digitChar = c := by
    apply Char.toNat_inj.mp
    omega
  rw [Nat.toDigits_of_lt_base hlt, hsame]

theorem toDigits_ofDigitChars {digits : List Char} {n : Nat} (hpos : 0 < n)
    (hdigits : ∀ c ∈ digits, c.isDigit = true) :
    0 < Nat.ofDigitChars 10 digits n ∧
      Nat.toDigits 10 (Nat.ofDigitChars 10 digits n) = Nat.toDigits 10 n ++ digits := by
  induction digits generalizing n with
  | nil => simpa using hpos
  | cons c digits ih =>
      have hc : c.isDigit = true := hdigits c List.mem_cons_self
      obtain ⟨hlow, hhigh⟩ := range_of_isDigit hc
      have hlt : c.toNat - 48 < 10 := by omega
      have hnext : 0 < 10 * n + (c.toNat - 48) := by omega
      have hone : Nat.toDigits 10 n ++ [c] = Nat.toDigits 10 (10 * n + (c.toNat - 48)) := by
        rw [← Nat.toDigits_append_toDigits (by decide) hpos hlt, toDigits_of_isDigit hc]
      obtain ⟨hvalue, hrest⟩ := ih hnext fun d hd => hdigits d (List.mem_cons_of_mem _ hd)
      rw [Nat.ofDigitChars_cons]
      refine ⟨hvalue, hrest.trans ?_⟩
      rw [← hone, List.append_assoc]
      rfl

theorem head_toDigits {n : Nat} (hpos : 0 < n) :
    ∃ first rest, Nat.toDigits 10 n = first :: rest ∧ first ≠ '0' := by
  induction n using Nat.strongRecOn with
  | ind n ih =>
      by_cases hlt : n < 10
      · refine ⟨n.digitChar, [], Nat.toDigits_of_lt_base hlt, ?_⟩
        rw [ne_eq, Nat.digitChar_eq_zero]
        omega
      · obtain ⟨first, rest, hdigits, hfirst⟩ := ih (n / 10) (by omega) (by omega)
        refine ⟨first, rest ++ [(n % 10).digitChar], ?_, hfirst⟩
        rw [Nat.toDigits_of_base_le (by decide) (by omega), hdigits, List.cons_append]

/-- The pattern of an amount takes the decimal texts of the positive numbers. -/
theorem keyAmountPattern_iff {text : String} :
    keyAmountPattern text = true ↔ 0 < decimalValue text ∧ text = decimalText (decimalValue text) := by
  constructor
  · intro h
    unfold keyAmountPattern at h
    split at h
    · cases h
    · case h_2 first rest htext =>
      simp only [Bool.and_eq_true, bne_iff_ne, List.all_eq_true] at h
      obtain ⟨⟨hfirst, hnonzero⟩, hrest⟩ := h
      have hpos : 0 < first.toNat - 48 := by
        obtain ⟨hlow, -⟩ := range_of_isDigit hfirst
        have hne : first.toNat ≠ 48 := fun hsame => hnonzero (Char.toNat_inj.mp hsame)
        omega
      obtain ⟨hvalue, hdigits⟩ := toDigits_ofDigitChars hpos hrest
      have hread : decimalValue text = Nat.ofDigitChars 10 rest (first.toNat - 48) := by
        rw [decimalValue_eq, htext, Nat.ofDigitChars_cons, Nat.mul_zero, Nat.zero_add]
        rfl
      rw [toDigits_of_isDigit hfirst] at hdigits
      rw [hread]
      refine ⟨hvalue, ?_⟩
      rw [decimalText, hdigits, List.singleton_append, ← htext, String.ofList_toList]
  · intro h
    obtain ⟨hpos, htext⟩ := h
    obtain ⟨first, rest, hdigits, hfirst⟩ := head_toDigits hpos
    have hall : ∀ c ∈ first :: rest, c.isDigit = true := by
      rw [← hdigits]
      exact fun c hc => Nat.isDigit_of_mem_toDigits (by decide) (by decide) hc
    have hlist : text.toList = first :: rest := by
      rw [htext, toList_decimalText, hdigits]
    simp only [keyAmountPattern, hlist, Bool.and_eq_true, bne_iff_ne, List.all_eq_true]
    exact ⟨⟨hall first List.mem_cons_self, hfirst⟩, fun c hc => hall c (List.mem_cons_of_mem _ hc)⟩

theorem utf16Length_eq_length {text : String} (h : ∀ c ∈ text.toList, c.toNat < 0x10000) :
    utf16Length text = text.toList.length := by
  rw [utf16Length]
  generalize text.toList = chars at h
  induction chars with
  | nil => rfl
  | cons c rest ih =>
      rw [List.map_cons, List.sum_cons, ih fun d hd => h d (List.mem_cons_of_mem _ hd),
        if_pos (h c List.mem_cons_self), List.length_cons, Nat.add_comm]

/-! ### Keys -/

theorem lowerHex_range {c : Char} (h : isLowerHex c = true) : c.toNat < 0x10000 ∧ c.toLower = c := by
  have hrange : (48 ≤ c.toNat ∧ c.toNat ≤ 57) ∨ (97 ≤ c.toNat ∧ c.toNat ≤ 102) := by
    simp only [isLowerHex, Bool.or_eq_true, Bool.and_eq_true, decide_eq_true_eq] at h
    rcases h with hdigit | ⟨hlow, hhigh⟩
    · exact .inl (range_of_isDigit hdigit)
    · exact .inr ⟨hlow, hhigh⟩
  refine ⟨by omega, ?_⟩
  have hupper : ¬(65 ≤ c.toNat ∧ c.toNat ≤ 90) := by omega
  exact dif_neg hupper

theorem secpPublicKeyPattern_text {text : String} (h : secpPublicKeyPattern text = true) :
    utf16Length text = 66 ∧ toLowerCase text = text := by
  unfold secpPublicKeyPattern proofYPattern at h
  split at h
  · case h_1 sign rest htext =>
    simp only [Bool.and_eq_true, Bool.or_eq_true, beq_iff_eq, List.all_eq_true] at h
    obtain ⟨⟨hsign, hlength⟩, hrest⟩ := h
    have hchars : ∀ c ∈ text.toList, c.toNat < 0x10000 ∧ c.toLower = c := by
      intro c hc
      rw [htext] at hc
      rcases List.mem_cons.mp hc with rfl | hc
      · decide
      · rcases List.mem_cons.mp hc with rfl | hc
        · rcases hsign with rfl | rfl <;> decide
        · exact lowerHex_range (hrest c hc)
    constructor
    · rw [utf16Length_eq_length fun c hc => (hchars c hc).1, htext]
      simp [hlength]
    · have hmap : text.toList.map Char.toLower = text.toList := by
        apply (List.map_congr_left fun c hc => (hchars c hc).2).trans
        exact List.map_id _
      rw [toLowerCase, hmap, String.ofList_toList]
  · cases h

/-- A key that `normalizeKey` accepts. -/
structure KeyAccepted (cashuTs : CashuTs) (entry : String × String) : Prop where
  amountLength : utf16Length entry.1 ≤ maxU64Digits
  amountPattern : keyAmountPattern entry.1 = true
  amount_le : decimalValue entry.1 ≤ maxU64
  keyLength : utf16Length entry.2 = 66
  keyPattern : secpPublicKeyPattern (toLowerCase entry.2) = true
  point : cashuTs.pointFromHex (toLowerCase entry.2) = true

/-- The canonical key of an entry. -/
def canonicalKey (entry : String × String) : Nat × String :=
  (decimalValue entry.1, toLowerCase entry.2)

variable {cashuTs : CashuTs}

theorem normalizeKey_eq_ok {entry : String × String} {key : Nat × String} :
    normalizeKey cashuTs entry = .ok key ↔ KeyAccepted cashuTs entry ∧ key = canonicalKey entry := by
  simp only [normalizeKey, bind_eq_ok, ensure_eq_ok, exists_unit, pure_eq_ok, Except.ok.injEq]
  constructor
  · intro h
    obtain ⟨⟨hlength, hpattern, hvalue, hkey⟩, hsecp, hpoint, rfl⟩ := h
    exact ⟨⟨hlength, hpattern, hvalue, hkey, hsecp, hpoint⟩, rfl⟩
  · intro h
    obtain ⟨haccepted, rfl⟩ := h
    exact ⟨⟨haccepted.amountLength, haccepted.amountPattern, haccepted.amount_le,
      haccepted.keyLength⟩, haccepted.keyPattern, haccepted.point, rfl⟩

/-- Names of amounts are told apart by the amounts. -/
theorem nodup_amounts {entries : List (String × String)}
    (haccepted : ∀ entry ∈ entries, KeyAccepted cashuTs entry)
    (hnames : (entries.map Prod.fst).Nodup) : ((entries.map canonicalKey).map Prod.fst).Nodup := by
  rw [List.map_map]
  apply List.Nodup.map_on ?_ (List.Nodup.of_map _ hnames)
  intro entry hentry other hother hsame
  have hsame : decimalValue entry.1 = decimalValue other.1 := hsame
  have hname : entry.1 = other.1 := by
    rw [(keyAmountPattern_iff.mp (haccepted entry hentry).amountPattern).2,
      (keyAmountPattern_iff.mp (haccepted other hother).amountPattern).2, hsame]
  exact List.inj_on_of_nodup_map hnames hentry hother hname

theorem normalizeKeys_eq_ok {entries : List (String × String)} {keys : List (Nat × String)} :
    normalizeKeys cashuTs entries = .ok keys ↔
      (entries ≠ [] ∧ entries.length ≤ maxCashuKeysPerKeyset) ∧
        (∀ entry ∈ entries, KeyAccepted cashuTs entry) ∧
          keys = sortBy Prod.fst (entries.map canonicalKey) := by
  simp only [normalizeKeys, bind_eq_ok, ensure_eq_ok, exists_unit, pure_eq_ok, Except.ok.injEq,
    mapM_eq_ok_map fun _ _ => normalizeKey_eq_ok]
  apply and_congr_right
  intro _
  constructor
  · intro h
    obtain ⟨normalized, ⟨haccepted, rfl⟩, rfl⟩ := h
    exact ⟨haccepted, rfl⟩
  · intro h
    obtain ⟨haccepted, rfl⟩ := h
    exact ⟨_, ⟨haccepted, rfl⟩, rfl⟩

theorem normalizeKeys_of_perm {entries entries' : List (String × String)} {keys : List (Nat × String)}
    (hperm : entries.Perm entries') (hnames : (entries.map Prod.fst).Nodup)
    (h : normalizeKeys cashuTs entries = .ok keys) : normalizeKeys cashuTs entries' = .ok keys := by
  obtain ⟨⟨hnonempty, hlength⟩, haccepted, rfl⟩ := normalizeKeys_eq_ok.mp h
  apply normalizeKeys_eq_ok.mpr
  refine ⟨⟨?_, hperm.length_eq ▸ hlength⟩, ?_, ?_⟩
  · intro hnil
    exact hnonempty (hnil ▸ hperm).eq_nil
  · intro entry hentry
    exact haccepted entry (hperm.mem_iff.mpr hentry)
  · exact sortBy_eq_of_perm (hperm.map _) (nodup_amounts haccepted hnames)

/-- The entry of a canonical key. -/
def keyEntry (key : Nat × String) : String × String :=
  (decimalText key.1, key.2)

theorem keyAccepted_keyEntry {entry : String × String} (h : KeyAccepted cashuTs entry) :
    KeyAccepted cashuTs (keyEntry (canonicalKey entry)) ∧
      canonicalKey (keyEntry (canonicalKey entry)) = canonicalKey entry := by
  obtain ⟨hpositive, htext⟩ := keyAmountPattern_iff.mp h.amountPattern
  obtain ⟨hlength, hlower⟩ := secpPublicKeyPattern_text h.keyPattern
  have hvalue : decimalText (decimalValue entry.1) = entry.1 := htext.symm
  have hentry : keyEntry (canonicalKey entry) = (entry.1, toLowerCase entry.2) := by
    rw [keyEntry, canonicalKey, hvalue]
  have hlower' : toLowerCase (toLowerCase entry.2) = toLowerCase entry.2 := hlower
  rw [hentry]
  refine ⟨⟨h.amountLength, h.amountPattern, h.amount_le, hlength, ?_, ?_⟩, ?_⟩
  · rw [hlower']
    exact h.keyPattern
  · rw [hlower']
    exact h.point
  · rw [canonicalKey, hlower']
    rfl

theorem normalizeKeys_keyEntries {entries : List (String × String)} {keys : List (Nat × String)}
    (h : normalizeKeys cashuTs entries = .ok keys) :
    normalizeKeys cashuTs (keys.map keyEntry) = .ok keys := by
  obtain ⟨⟨hnonempty, hlength⟩, haccepted, hkeys⟩ := normalizeKeys_eq_ok.mp h
  have hperm : keys.Perm (entries.map canonicalKey) := hkeys ▸ perm_sortBy _
  have hcanonical : ∀ key ∈ keys, KeyAccepted cashuTs (keyEntry key) ∧
      canonicalKey (keyEntry key) = key := by
    intro key hkey
    obtain ⟨entry, hentry, rfl⟩ := List.mem_map.mp (hperm.mem_iff.mp hkey)
    exact keyAccepted_keyEntry (haccepted entry hentry)
  have hlengths : keys.length = entries.length := by
    rw [hperm.length_eq, List.length_map]
  apply normalizeKeys_eq_ok.mpr
  refine ⟨⟨?_, ?_⟩, ?_, ?_⟩
  · intro hnil
    apply hnonempty
    rw [List.map_eq_nil_iff] at hnil
    apply List.eq_nil_of_length_eq_zero
    rw [← hlengths, hnil, List.length_nil]
  · rw [List.length_map, hlengths]
    exact hlength
  · intro entry hentry
    obtain ⟨key, hkey, rfl⟩ := List.mem_map.mp hentry
    exact (hcanonical key hkey).1
  · have hmap : (keys.map keyEntry).map canonicalKey = keys := by
      rw [List.map_map]
      exact (List.map_congr_left fun key hkey => (hcanonical key hkey).2).trans (List.map_id _)
    rw [hmap, hkeys, sortBy_sortBy]

theorem nodup_keyEntries {entries : List (String × String)} {keys : List (Nat × String)}
    (hnames : (entries.map Prod.fst).Nodup) (h : normalizeKeys cashuTs entries = .ok keys) :
    ((keys.map keyEntry).map Prod.fst).Nodup := by
  obtain ⟨-, haccepted, rfl⟩ := normalizeKeys_eq_ok.mp h
  have hamounts : ((sortBy Prod.fst (entries.map canonicalKey)).map Prod.fst).Nodup :=
    (((perm_sortBy _).map _).nodup_iff).mpr (nodup_amounts haccepted hnames)
  rw [List.map_map]
  apply List.Nodup.map_on ?_ (List.Nodup.of_map _ hamounts)
  intro key hkey other hother hsame
  have hamount : key.1 = other.1 := by
    rw [← decimalValue_decimalText key.1, ← decimalValue_decimalText other.1]
    exact congrArg decimalValue hsame
  exact List.inj_on_of_nodup_map hamounts hkey hother hamount

/-! ### Keysets -/

theorem normalizeFinalExpiry_idem {value expiry : Option Nat}
    (h : normalizeFinalExpiry value = .ok expiry) : normalizeFinalExpiry expiry = .ok expiry := by
  match value with
  | none =>
      cases h
      rfl
  | some 0 =>
      cases h
      rfl
  | some (value + 1) =>
      simp only [normalizeFinalExpiry, bind_eq_ok, ensure_eq_ok, exists_unit, pure_eq_ok,
        Except.ok.injEq] at h
      obtain ⟨hle, rfl⟩ := h
      simp only [normalizeFinalExpiry, ensure_of hle]
      rfl

/-- What a keyset keeps of its input. -/
structure KeysetNormalized (cashuTs : CashuTs) (input : CashuKeysetSnapshotEntryInput)
    (keyset : CashuKeysetSnapshotEntry) : Prop where
  active : keyset.active = input.active
  finalExpiry : normalizeFinalExpiry input.finalExpiry = .ok keyset.finalExpiry
  id : keyset.id.val = input.id
  inputFeePpk : keyset.inputFeePpk = input.inputFeePpk.getD 0
  inputFeePpk_le : keyset.inputFeePpk ≤ maxSafeInteger
  keys : normalizeKeys cashuTs input.keys = .ok keyset.keys
  unit : keyset.unit.val = input.unit
  verified : cashuTs.verifyKeysetId keyset = true

theorem normalizeKeysetId_eq_ok {id : String} {keysetId : KeysetId} :
    normalizeKeysetId id = .ok keysetId ↔ keysetId.val = id := by
  unfold normalizeKeysetId
  constructor
  · intro h
    split at h
    · cases h
      rfl
    · split at h <;> cases h
  · rintro rfl
    rw [dif_pos keysetId.property]
    rfl

theorem normalizeKeysetUnit_eq_ok {text : String} {unit : CashuUnit} :
    normalizeKeysetUnit text = .ok unit ↔ unit.val = text := by
  unfold normalizeKeysetUnit
  constructor
  · intro h
    split at h
    · cases h
      rfl
    · cases h
  · rintro rfl
    rw [dif_pos unit.property]
    rfl

theorem normalizeKeyset_eq_ok {input : CashuKeysetSnapshotEntryInput}
    {keyset : CashuKeysetSnapshotEntry} :
    normalizeKeyset cashuTs input = .ok keyset ↔ KeysetNormalized cashuTs input keyset := by
  simp only [normalizeKeyset, bind_eq_ok, ensure_eq_ok, exists_unit, pure_eq_ok, Except.ok.injEq,
    normalizeKeysetId_eq_ok, normalizeKeysetUnit_eq_ok]
  constructor
  · intro h
    obtain ⟨id, hid, unit, hunit, hfee, expiry, hexpiry, keys, hkeys, hverified, rfl⟩ := h
    exact ⟨rfl, hexpiry, hid, rfl, hfee, hkeys, hunit, hverified⟩
  · intro h
    obtain ⟨hactive, hexpiry, hid, hfee, hfee_le, hkeys, hunit, hverified⟩ := h
    obtain ⟨active, expiry, id, fee, keys, unit⟩ := keyset
    obtain rfl : active = input.active := hactive
    obtain rfl : fee = input.inputFeePpk.getD 0 := hfee
    exact ⟨id, hid, unit, hunit, hfee_le, expiry, hexpiry, keys, hkeys, hverified, rfl⟩

/-- Two inputs for a keyset that differ in the order of their keys. -/
structure SameKeyset (input input' : CashuKeysetSnapshotEntryInput) : Prop where
  active : input.active = input'.active
  finalExpiry : input.finalExpiry = input'.finalExpiry
  id : input.id = input'.id
  inputFeePpk : input.inputFeePpk = input'.inputFeePpk
  keys : input.keys.Perm input'.keys
  unit : input.unit = input'.unit

/-- The keys of the input have distinct names, as in every record. -/
def CashuKeysetSnapshotEntryInput.IsRecord (input : CashuKeysetSnapshotEntryInput) : Prop :=
  (input.keys.map Prod.fst).Nodup

theorem SameKeyset.isRecord {input input' : CashuKeysetSnapshotEntryInput}
    (h : SameKeyset input input') (hrecord : input.IsRecord) : input'.IsRecord :=
  ((h.keys.map _).nodup_iff).mp hrecord

theorem SameKeyset.symm {input input' : CashuKeysetSnapshotEntryInput} (h : SameKeyset input input') :
    SameKeyset input' input :=
  ⟨h.active.symm, h.finalExpiry.symm, h.id.symm, h.inputFeePpk.symm, h.keys.symm, h.unit.symm⟩

theorem SameKeyset.normalized {input input' : CashuKeysetSnapshotEntryInput}
    {keyset : CashuKeysetSnapshotEntry} (h : SameKeyset input input') (hrecord : input.IsRecord)
    (hkeyset : KeysetNormalized cashuTs input keyset) : KeysetNormalized cashuTs input' keyset where
  active := h.active ▸ hkeyset.active
  finalExpiry := h.finalExpiry ▸ hkeyset.finalExpiry
  id := h.id ▸ hkeyset.id
  inputFeePpk := h.inputFeePpk ▸ hkeyset.inputFeePpk
  inputFeePpk_le := hkeyset.inputFeePpk_le
  keys := normalizeKeys_of_perm h.keys hrecord hkeyset.keys
  unit := h.unit ▸ hkeyset.unit
  verified := hkeyset.verified

/-- The input that a keyset is to a snapshot of it. -/
def CashuKeysetSnapshotEntry.input (keyset : CashuKeysetSnapshotEntry) :
    CashuKeysetSnapshotEntryInput where
  active := keyset.active
  finalExpiry := keyset.finalExpiry
  id := keyset.id.val
  inputFeePpk := some keyset.inputFeePpk
  keys := keyset.keys.map keyEntry
  unit := keyset.unit.val

/-- A keyset in canonical form, which normalizing leaves as it is. -/
structure CanonicalKeyset (cashuTs : CashuTs) (keyset : CashuKeysetSnapshotEntry) : Prop where
  normalized : KeysetNormalized cashuTs keyset.input keyset
  isRecord : keyset.input.IsRecord

theorem KeysetNormalized.canonical {input : CashuKeysetSnapshotEntryInput}
    {keyset : CashuKeysetSnapshotEntry} (h : KeysetNormalized cashuTs input keyset)
    (hrecord : input.IsRecord) : CanonicalKeyset cashuTs keyset where
  normalized := {
    active := rfl
    finalExpiry := normalizeFinalExpiry_idem h.finalExpiry
    id := rfl
    inputFeePpk := rfl
    inputFeePpk_le := h.inputFeePpk_le
    keys := normalizeKeys_keyEntries h.keys
    unit := rfl
    verified := h.verified }
  isRecord := nodup_keyEntries hrecord h.keys

/-! ### Snapshots -/

theorem foldlM_addKeyset {entries : List CashuKeysetSnapshotEntryInput}
    {keysets keysets' : List CashuKeysetSnapshotEntry} :
    entries.foldlM (addKeyset cashuTs) keysets = .ok keysets' ↔
      ∃ added, List.Forall₂ (KeysetNormalized cashuTs) entries added ∧
        keysets' = keysets ++ added ∧
          (added.map (·.id)).Nodup ∧ ∀ keyset ∈ added, keyset.id ∉ keysets.map (·.id) := by
  induction entries generalizing keysets with
  | nil =>
      constructor
      · intro h
        cases h
        exact ⟨[], .nil, (List.append_nil _).symm, List.nodup_nil, by simp⟩
      · intro h
        obtain ⟨added, hadded, rfl, -⟩ := h
        cases hadded
        rw [List.append_nil]
        rfl
  | cons entry entries ih =>
      simp only [List.foldlM_cons, addKeyset, bind_eq_ok, ensure_eq_ok, exists_unit, pure_eq_ok,
        Except.ok.injEq, normalizeKeyset_eq_ok, ih]
      constructor
      · intro h
        obtain ⟨_, ⟨keyset, hkeyset, hnew, rfl⟩, added, hadded, rfl, hdistinct, hfresh⟩ := h
        refine ⟨keyset :: added, .cons hkeyset hadded, by simp, ?_, ?_⟩
        · refine List.nodup_cons.mpr ⟨?_, hdistinct⟩
          intro hmem
          obtain ⟨other, hother, hsame⟩ := List.mem_map.mp hmem
          apply hfresh other hother
          rw [List.map_append, List.mem_append]
          exact .inr (List.mem_singleton.mpr hsame)
        · intro other hother
          rcases List.mem_cons.mp hother with rfl | hother
          · exact hnew
          · intro hmem
            apply hfresh other hother
            rw [List.map_append, List.mem_append]
            exact .inl hmem
      · intro h
        obtain ⟨added, hadded, rfl, hdistinct, hfresh⟩ := h
        cases hadded with
        | @cons _ keyset _ added hkeyset hadded =>
            obtain ⟨hnot, hdistinct⟩ := List.nodup_cons.mp hdistinct
            refine ⟨_, ⟨keyset, hkeyset, hfresh keyset List.mem_cons_self, rfl⟩, added, hadded,
              by simp, hdistinct, ?_⟩
            intro other hother hmem
            rw [List.map_append, List.mem_append] at hmem
            rcases hmem with hold | hnew
            · exact hfresh other (List.mem_cons_of_mem _ hother) hold
            · exact hnot (List.mem_map.mpr ⟨other, hother, List.mem_singleton.mp hnew⟩)

/-- What a snapshot keeps of its input. -/
structure SnapshotCreated (cashuTs : CashuTs) (input : CreateCashuKeysetSnapshotInput)
    (snapshot : CashuKeysetSnapshot) : Prop where
  version : ∀ version ∈ input.schemaVersion, version = cashuKeysetSnapshotSchemaVersion
  mintUrl : normalizeCashuMintUrl cashuTs input.mintUrl = some snapshot.mintUrl
  observedAt : snapshot.observedAt = input.observedAt
  observedAt_le : input.observedAt ≤ maxSafeInteger
  nonempty : input.keysets ≠ []
  length : input.keysets.length ≤ maxCashuKeysetsPerSnapshot
  keysets : ∃ keysets, List.Forall₂ (KeysetNormalized cashuTs) input.keysets keysets ∧
    (keysets.map (·.id)).Nodup ∧ snapshot.keysets = sortBy (·.id.val) keysets

theorem createCashuKeysetSnapshot_eq_ok {input : CreateCashuKeysetSnapshotInput}
    {snapshot : CashuKeysetSnapshot} :
    createCashuKeysetSnapshot cashuTs input = .ok snapshot ↔
      SnapshotCreated cashuTs input snapshot := by
  simp only [createCashuKeysetSnapshot, bind_eq_ok, ensure_eq_ok, exists_unit, orFail_eq_ok,
    pure_eq_ok, Except.ok.injEq, foldlM_addKeyset]
  constructor
  · intro h
    obtain ⟨hversion, mintUrl, hmint, hobserved, hnonempty, hlength, all,
      ⟨keysets, hkeysets, hall, hdistinct, -⟩, rfl⟩ := h
    rw [List.nil_append] at hall
    rw [hall]
    exact ⟨hversion, hmint, rfl, hobserved, hnonempty, hlength, keysets, hkeysets, hdistinct, rfl⟩
  · intro h
    obtain ⟨hversion, hmint, hobservedAt, hobserved, hnonempty, hlength, keysets, hkeysets, hdistinct,
      hsorted⟩ := h
    obtain ⟨sorted, mintUrl, observedAt⟩ := snapshot
    obtain rfl : observedAt = input.observedAt := hobservedAt
    obtain rfl : sorted = sortBy (·.id.val) keysets := hsorted
    exact ⟨hversion, mintUrl, hmint, hobserved, hnonempty, hlength, keysets,
      ⟨keysets, hkeysets, rfl, hdistinct, by simp⟩, rfl⟩

/-- An input whose keysets are read, since it passes every check before them. -/
structure KeysetsRead (cashuTs : CashuTs) (input : CreateCashuKeysetSnapshotInput) : Prop where
  version : ∀ version ∈ input.schemaVersion, version = cashuKeysetSnapshotSchemaVersion
  mintUrl : (normalizeCashuMintUrl cashuTs input.mintUrl).isSome = true
  observedAt : input.observedAt ≤ maxSafeInteger
  nonempty : input.keysets ≠ []
  length : input.keysets.length ≤ maxCashuKeysetsPerSnapshot

/-- The error of the first of the keysets that is refused, the ones before it being taken. -/
def FirstRefused (cashuTs : CashuTs) (keysets : List CashuKeysetSnapshotEntryInput)
    (error : KeysetSnapshotError) : Prop :=
  ∃ accepted refused rest entries, keysets = accepted ++ refused :: rest ∧
    accepted.foldlM (addKeyset cashuTs) [] = .ok entries ∧
      addKeyset cashuTs entries refused = .error error

theorem createCashuKeysetSnapshot_eq_error {input : CreateCashuKeysetSnapshotInput}
    (h : KeysetsRead cashuTs input) {error : KeysetSnapshotError} :
    createCashuKeysetSnapshot cashuTs input = .error error ↔
      FirstRefused cashuTs input.keysets error := by
  obtain ⟨mintUrl, hmint⟩ := Option.isSome_iff_exists.mp h.mintUrl
  rw [createCashuKeysetSnapshot, ensure_of h.version, ok_bind, orFail_eq_ok.mpr hmint, ok_bind,
    ensure_of h.observedAt, ok_bind, ensure_of h.nonempty, ok_bind, ensure_of h.length, ok_bind,
    bind_eq_error, foldlM_eq_error, FirstRefused]
  simp only [pure_eq_ok, reduceCtorEq, and_false, exists_false, or_false]

theorem nodup_ids {keysets : List CashuKeysetSnapshotEntry} (h : (keysets.map (·.id)).Nodup) :
    (keysets.map (·.id.val)).Nodup := by
  have hmap : keysets.map (·.id.val) = (keysets.map (·.id)).map Subtype.val := by
    rw [List.map_map]
    rfl
  rw [hmap]
  exact h.map Subtype.val_injective

/-- Two inputs that differ in the order of their keysets and of the keys of these. -/
structure Reordered (input input' : CreateCashuKeysetSnapshotInput) : Prop where
  keysets : ∃ between, input.keysets.Perm between ∧ List.Forall₂ SameKeyset between input'.keysets
  mintUrl : input.mintUrl = input'.mintUrl
  observedAt : input.observedAt = input'.observedAt
  schemaVersion : input.schemaVersion = input'.schemaVersion

/-- The keys of every keyset of the input have distinct names, as in every record. -/
def CreateCashuKeysetSnapshotInput.IsRecord (input : CreateCashuKeysetSnapshotInput) : Prop :=
  ∀ keyset ∈ input.keysets, keyset.IsRecord

theorem Reordered.symm {input input' : CreateCashuKeysetSnapshotInput} (h : Reordered input input') :
    Reordered input' input where
  keysets := by
    obtain ⟨between, hperm, hsame⟩ := h.keysets
    obtain ⟨middle, hmiddle, hback⟩ := List.perm_comp_forall₂ hperm hsame
    exact ⟨middle, hback.symm, hmiddle.flip.imp fun _ _ hsame => hsame.symm⟩
  mintUrl := h.mintUrl.symm
  observedAt := h.observedAt.symm
  schemaVersion := h.schemaVersion.symm

theorem Reordered.isRecord {input input' : CreateCashuKeysetSnapshotInput}
    (h : Reordered input input') (hrecord : input.IsRecord) : input'.IsRecord := by
  obtain ⟨between, hperm, hsame⟩ := h.keysets
  intro keyset hkeyset
  obtain ⟨other, hother, hsame⟩ := exists_of_forall₂ hsame hkeyset
  exact hsame.isRecord (hrecord other (hperm.mem_iff.mpr hother))

theorem forall₂_normalized {entries entries' : List CashuKeysetSnapshotEntryInput}
    {keysets : List CashuKeysetSnapshotEntry} (hsame : List.Forall₂ SameKeyset entries entries')
    (hrecord : ∀ entry ∈ entries, entry.IsRecord)
    (h : List.Forall₂ (KeysetNormalized cashuTs) entries keysets) :
    List.Forall₂ (KeysetNormalized cashuTs) entries' keysets := by
  induction hsame generalizing keysets with
  | nil => exact h
  | cons hhead htail ih =>
      cases h with
      | cons hkeyset hkeysets =>
          refine .cons (hhead.normalized (hrecord _ List.mem_cons_self) hkeyset) ?_
          exact ih (fun entry hentry => hrecord entry (List.mem_cons_of_mem _ hentry)) hkeysets

/-- The order of the keysets and of their keys does not matter. -/
theorem SnapshotCreated.reordered {input input' : CreateCashuKeysetSnapshotInput}
    {snapshot : CashuKeysetSnapshot} (h : SnapshotCreated cashuTs input snapshot)
    (hreordered : Reordered input input') (hrecord : input.IsRecord) :
    SnapshotCreated cashuTs input' snapshot := by
  obtain ⟨between, hperm, hsame⟩ := hreordered.keysets
  obtain ⟨keysets, hkeysets, hdistinct, hsorted⟩ := h.keysets
  obtain ⟨moved, hmoved, hback⟩ := List.perm_comp_forall₂ hperm.symm hkeysets
  have hlength : input.keysets.length = input'.keysets.length :=
    hperm.length_eq.trans hsame.length_eq
  constructor
  case version => exact hreordered.schemaVersion ▸ h.version
  case mintUrl => exact hreordered.mintUrl ▸ h.mintUrl
  case observedAt => exact hreordered.observedAt ▸ h.observedAt
  case observedAt_le => exact hreordered.observedAt ▸ h.observedAt_le
  case nonempty =>
    intro hnil
    rw [hnil, List.length_nil] at hlength
    exact h.nonempty (List.eq_nil_of_length_eq_zero hlength)
  case length => exact hlength ▸ h.length
  case keysets =>
    have hrecords : ∀ entry ∈ between, entry.IsRecord :=
      fun entry hentry => hrecord entry (hperm.mem_iff.mpr hentry)
    refine ⟨moved, forall₂_normalized hsame hrecords hmoved, ?_, ?_⟩
    · exact ((hback.map _).nodup_iff).mpr hdistinct
    · rw [hsorted]
      exact sortBy_eq_of_perm hback.symm (nodup_ids hdistinct)

/-- The input that a snapshot is to `createCashuKeysetSnapshot`. -/
def CashuKeysetSnapshot.input (snapshot : CashuKeysetSnapshot) : CreateCashuKeysetSnapshotInput where
  keysets := snapshot.keysets.map (·.input)
  mintUrl := snapshot.mintUrl
  observedAt := snapshot.observedAt
  schemaVersion := some cashuKeysetSnapshotSchemaVersion

/-- A snapshot in canonical form up to its mint URL. -/
structure CanonicalSnapshot (cashuTs : CashuTs) (snapshot : CashuKeysetSnapshot) : Prop where
  observedAt_le : snapshot.observedAt ≤ maxSafeInteger
  nonempty : snapshot.keysets ≠ []
  length : snapshot.keysets.length ≤ maxCashuKeysetsPerSnapshot
  keysets : ∀ keyset ∈ snapshot.keysets, CanonicalKeyset cashuTs keyset
  distinct : (snapshot.keysets.map (·.id)).Nodup
  sorted : snapshot.keysets.Pairwise fun left right => left.id.val ≤ right.id.val

theorem SnapshotCreated.canonical {input : CreateCashuKeysetSnapshotInput}
    {snapshot : CashuKeysetSnapshot} (h : SnapshotCreated cashuTs input snapshot)
    (hrecord : input.IsRecord) : CanonicalSnapshot cashuTs snapshot := by
  obtain ⟨keysets, hkeysets, hdistinct, hsorted⟩ := h.keysets
  have hperm : snapshot.keysets.Perm keysets := hsorted ▸ perm_sortBy _
  have hlength : snapshot.keysets.length = input.keysets.length :=
    hperm.length_eq.trans hkeysets.length_eq.symm
  constructor
  case observedAt_le =>
    rw [h.observedAt]
    exact h.observedAt_le
  case nonempty =>
    intro hnil
    rw [hnil, List.length_nil] at hlength
    exact h.nonempty (List.eq_nil_of_length_eq_zero hlength.symm)
  case length =>
    rw [hlength]
    exact h.length
  case keysets =>
    intro keyset hkeyset
    obtain ⟨entry, hentry, hnormalized⟩ := exists_of_forall₂ hkeysets (hperm.mem_iff.mp hkeyset)
    exact hnormalized.canonical (hrecord entry hentry)
  case distinct => exact ((hperm.map _).nodup_iff).mpr hdistinct
  case sorted =>
    rw [hsorted]
    exact pairwise_sortBy _

theorem CanonicalSnapshot.isRecord {snapshot : CashuKeysetSnapshot}
    (h : CanonicalSnapshot cashuTs snapshot) : snapshot.input.IsRecord := by
  intro entry hentry
  obtain ⟨keyset, hkeyset, rfl⟩ := List.mem_map.mp hentry
  exact (h.keysets keyset hkeyset).isRecord

/-- A snapshot in canonical form is that of its own input, when its mint URL is. -/
theorem CanonicalSnapshot.created {snapshot : CashuKeysetSnapshot}
    (h : CanonicalSnapshot cashuTs snapshot)
    (hmint : normalizeCashuMintUrl cashuTs snapshot.mintUrl = some snapshot.mintUrl) :
    SnapshotCreated cashuTs snapshot.input snapshot where
  version := by simp [CashuKeysetSnapshot.input]
  mintUrl := hmint
  observedAt := rfl
  observedAt_le := h.observedAt_le
  nonempty := by simpa [CashuKeysetSnapshot.input] using h.nonempty
  length := by simpa [CashuKeysetSnapshot.input] using h.length
  keysets := by
    refine ⟨snapshot.keysets, ?_, h.distinct, (sortBy_of_pairwise h.sorted).symm⟩
    apply List.forall₂_map_left_iff.mpr
    apply List.forall₂_same.mpr
    intro keyset hkeyset
    exact (h.keysets keyset hkeyset).normalized

/-! ### Mint URLs -/

/-- What `normalizeCashuMintUrl` asks of a parsed URL. -/
structure MintEndpoint.Safe (endpoint : MintEndpoint) : Prop where
  protocol : endpoint.protocol = "https:"
  username : endpoint.username = ""
  password : endpoint.password = ""
  search : endpoint.search = ""
  hash : endpoint.hash = ""

/-- A mint URL of the library is parsed to a safe endpoint, of which it is the mint URL again. -/
structure CashuTs.KeepsMintUrls (cashuTs : CashuTs) : Prop where
  trimmed : ∀ {value endpoint mintUrl}, cashuTs.parseUrl value = some endpoint → endpoint.Safe →
    cashuTs.normalizeMintUrl endpoint.href = some mintUrl → mintUrl ≠ "" ∧ isTrimmed mintUrl = true
  parsed : ∀ {value endpoint mintUrl}, cashuTs.parseUrl value = some endpoint → endpoint.Safe →
    cashuTs.normalizeMintUrl endpoint.href = some mintUrl →
      ∃ again, cashuTs.parseUrl mintUrl = some again ∧ again.Safe ∧
        cashuTs.normalizeMintUrl again.href = some mintUrl

theorem normalizeCashuMintUrl_eq_some {value : String} {mintUrl : MintUrl} :
    normalizeCashuMintUrl cashuTs value = some mintUrl ↔
      (value ≠ "" ∧ utf16Length value ≤ maxCashuEndpointLength ∧ isTrimmed value = true) ∧
        ∃ endpoint, cashuTs.parseUrl value = some endpoint ∧ endpoint.Safe ∧
          cashuTs.normalizeMintUrl endpoint.href = some mintUrl := by
  unfold normalizeCashuMintUrl
  constructor
  · intro h
    split at h
    · case isTrue hvalue =>
      split at h
      · cases h
      · case h_2 endpoint hparse =>
        split at h
        · case isTrue hsafe =>
          obtain ⟨hprotocol, husername, hpassword, hsearch, hhash⟩ := hsafe
          exact ⟨hvalue, endpoint, hparse, ⟨hprotocol, husername, hpassword, hsearch, hhash⟩, h⟩
        · cases h
    · cases h
  · intro h
    obtain ⟨hvalue, endpoint, hparse, hsafe, hform⟩ := h
    rw [if_pos hvalue, hparse]
    exact (if_pos ⟨hsafe.protocol, hsafe.username, hsafe.password, hsafe.search, hsafe.hash⟩).trans
      hform

/-- A mint URL within the bound is its own. -/
theorem CashuTs.KeepsMintUrls.normalize (h : cashuTs.KeepsMintUrls) {value : String}
    {mintUrl : MintUrl} (hvalue : normalizeCashuMintUrl cashuTs value = some mintUrl)
    (hlength : utf16Length mintUrl ≤ maxCashuEndpointLength) :
    normalizeCashuMintUrl cashuTs mintUrl = some mintUrl := by
  obtain ⟨-, endpoint, hparse, hsafe, hform⟩ := normalizeCashuMintUrl_eq_some.mp hvalue
  obtain ⟨hnonempty, htrimmed⟩ := h.trimmed hparse hsafe hform
  obtain ⟨again, hagain, hsafe', hsame⟩ := h.parsed hparse hsafe hform
  exact normalizeCashuMintUrl_eq_some.mpr
    ⟨⟨hnonempty, hlength, htrimmed⟩, again, hagain, hsafe', hsame⟩

end CashMesh.Acquirer
