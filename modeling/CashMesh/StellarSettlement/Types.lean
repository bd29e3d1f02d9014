import Mathlib.Algebra.Ring.Nat
/-!
# Values of the settlement processor

The validated newtypes of `types.rs`. A value carries the proof of what its constructor checked, so
a hash that reached the durable record cannot be malformed and parsing it again changes nothing.
-/

namespace CashMesh.StellarSettlement

/-- The ways in which a raw value is refused. -/
inductive ValueError where
  | empty (name : String)
  | invalidStellarAddress
  | invalidStellarAccount
  | invalidTransactionHash
  | invalidLedgerCursor
  | zeroAmount
  | invalidDecimalAmount
  | amountOverflow
  | subCentAmount
  deriving DecidableEq, Repr

/-- The text of a value error. -/
def ValueError.toText : ValueError → String
  | .empty name => name ++ " cannot be empty"
  | .invalidStellarAddress => "Stellar address must be a valid G- or M-address"
  | .invalidStellarAccount => "Stellar account must be a valid G-address"
  | .invalidTransactionHash => "transaction hash must be 64 hexadecimal characters"
  | .invalidLedgerCursor => "ledger cursor must be an unsigned decimal integer"
  | .zeroAmount => "amount must be greater than zero"
  | .invalidDecimalAmount =>
      "amount is not a plain Stellar decimal with at most seven fractional digits"
  | .amountOverflow => "amount cannot be represented safely"
  | .subCentAmount => "USDC amount must resolve to an exact cent"

/-- The characters that `str::trim` strips, those with the Unicode property White_Space. -/
def isWhitespace (c : Char) : Bool :=
  let n := c.toNat
  (9 ≤ n && n ≤ 13) || n == 32 || n == 133 || n == 160 || n == 5760 || (8192 ≤ n && n ≤ 8202) ||
    n == 8232 || n == 8233 || n == 8239 || n == 8287 || n == 12288

/-- `value.trim().is_empty()`. -/
def isBlank (value : String) : Bool :=
  value.toList.all isWhitespace

/-- `nonempty`: the value unchanged, unless it is blank. -/
def nonempty (value name : String) : Except ValueError String :=
  if isBlank value then .error (.empty name) else .ok value

theorem nonempty_of_not_blank {value : String} (name : String) (hvalue : isBlank value = false) :
    nonempty value name = .ok value := by
  simp [nonempty, hvalue]

/-! ### Transaction hashes -/

def isAsciiHexdigit (c : Char) : Bool :=
  ('0' ≤ c && c ≤ '9') || ('a' ≤ c && c ≤ 'f') || ('A' ≤ c && c ≤ 'F')

def toAsciiLowercase (value : String) : String :=
  String.ofList (value.toList.map Char.toLower)

/-- 64 hexadecimal digits, already in lower case. -/
structure IsCanonicalHash (value : String) : Prop where
  length : value.toList.length = 64
  digits : value.toList.all isAsciiHexdigit = true
  lower : toAsciiLowercase value = value

theorem toNat_lt_of_hexdigit {c : Char} (hc : isAsciiHexdigit c = true) : c.toNat < 128 := by
  simp only [isAsciiHexdigit, Bool.or_eq_true, Bool.and_eq_true, decide_eq_true_eq, Char.le_def,
    UInt32.le_iff_toNat_le] at hc
  have hval : c.val.toNat = c.toNat := rfl
  have h9 : '9'.val.toNat = 57 := rfl
  have hf : 'f'.val.toNat = 102 := rfl
  have hF : 'F'.val.toNat = 70 := rfl
  omega

theorem hexdigit_toLower {c : Char} (hc : isAsciiHexdigit c = true) :
    isAsciiHexdigit c.toLower = true ∧ c.toLower.toLower = c.toLower ∧
      isWhitespace c.toLower = false := by
  have hall : ∀ n : Fin 128, isAsciiHexdigit (Char.ofNat n) = true →
      isAsciiHexdigit (Char.ofNat n).toLower = true ∧
        (Char.ofNat n).toLower.toLower = (Char.ofNat n).toLower ∧
        isWhitespace (Char.ofNat n).toLower = false := by
    decide +kernel
  have h := hall ⟨c.toNat, toNat_lt_of_hexdigit hc⟩
  simp only [Char.ofNat_toNat] at h
  exact h hc

theorem isCanonicalHash_toAsciiLowercase {value : String} (hlength : value.toList.length = 64)
    (hdigits : value.toList.all isAsciiHexdigit = true) :
    IsCanonicalHash (toAsciiLowercase value) := by
  rw [List.all_eq_true] at hdigits
  refine ⟨?_, ?_, ?_⟩
  · simpa [toAsciiLowercase] using hlength
  · simp only [toAsciiLowercase, String.toList_ofList, List.all_map, List.all_eq_true]
    exact fun c hc => (hexdigit_toLower (hdigits c hc)).1
  · simp only [toAsciiLowercase, String.toList_ofList, List.map_map]
    congr 1
    exact List.map_congr_left fun c hc => (hexdigit_toLower (hdigits c hc)).2.1

theorem IsCanonicalHash.not_blank {value : String} (hvalue : IsCanonicalHash value) :
    isBlank value = false := by
  obtain ⟨c, rest, hchars⟩ : ∃ c rest, value.toList = c :: rest := by
    cases hchars : value.toList with
    | nil => simpa [hchars] using hvalue.length
    | cons c rest => exact ⟨c, rest, rfl⟩
  have hdigit : isAsciiHexdigit c = true := by
    have hdigits := hvalue.digits
    rw [hchars, List.all_cons, Bool.and_eq_true] at hdigits
    exact hdigits.1
  have hlower : c.toLower = c := by
    have hlower := congrArg String.toList hvalue.lower
    rw [toAsciiLowercase, String.toList_ofList, hchars, List.map_cons, List.cons.injEq] at hlower
    exact hlower.1
  have hspace := (hexdigit_toLower hdigit).2.2
  rw [hlower] at hspace
  simp [isBlank, hchars, hspace]

/-- A canonical Stellar transaction hash. -/
structure TransactionHash where
  value : String
  canonical : IsCanonicalHash value

instance : DecidableEq TransactionHash := fun h₁ h₂ =>
  decidable_of_iff (h₁.value = h₂.value) (by cases h₁; cases h₂; simp)

/-- `TransactionHash::new`. A string of 64 bytes that are all ASCII digits is one of 64 characters
that are, and every other string is refused either way. -/
def TransactionHash.new (raw : String) : Except ValueError TransactionHash :=
  match nonempty raw "transaction hash" with
  | .error error => .error error
  | .ok value =>
      if hvalue : value.toList.length = 64 ∧ value.toList.all isAsciiHexdigit = true then
        .ok ⟨toAsciiLowercase value, isCanonicalHash_toAsciiLowercase hvalue.1 hvalue.2⟩
      else .error .invalidTransactionHash

@[simp] theorem TransactionHash.new_value (hash : TransactionHash) :
    TransactionHash.new hash.value = .ok hash := by
  obtain ⟨value, hvalue⟩ := hash
  simp only [TransactionHash.new, nonempty_of_not_blank _ hvalue.not_blank]
  rw [dif_pos ⟨hvalue.length, hvalue.digits⟩]
  simp [hvalue.lower]

/-! ### Quotes and payments -/

/-- A quote correlation value, which is not blank. -/
structure QuoteReference where
  value : String
  nonblank : isBlank value = false

instance : DecidableEq QuoteReference := fun q₁ q₂ =>
  decidable_of_iff (q₁.value = q₂.value) (by cases q₁; cases q₂; simp)

/-- `QuoteReference::new`. -/
def QuoteReference.new (raw : String) : Except ValueError QuoteReference :=
  if hraw : isBlank raw = false then .ok ⟨raw, hraw⟩ else .error (.empty "quote reference")

/-- A positive number of USDC cents. -/
structure UsdcMinorUnits where
  value : UInt64
  positive : value ≠ 0

instance : DecidableEq UsdcMinorUnits := fun u₁ u₂ =>
  decidable_of_iff (u₁.value = u₂.value) (by cases u₁; cases u₂; simp)

/-- `UsdcMinorUnits::new`. -/
def UsdcMinorUnits.new (value : UInt64) : Except ValueError UsdcMinorUnits :=
  if hvalue : value = 0 then .error .zeroAmount else .ok ⟨value, hvalue⟩

/-- A Stellar G- or M-address, already parsed. -/
structure StellarAddress where
  value : String
  deriving DecidableEq

/-- A payment request, already parsed against a profile. -/
structure Sep7Payment where
  destination : StellarAddress
  amount : UsdcMinorUnits
  assetCode : String
  assetIssuer : StellarAddress
  networkPassphrase : String
  memo : Option String
  memoType : Option String
  deriving DecidableEq

end CashMesh.StellarSettlement
