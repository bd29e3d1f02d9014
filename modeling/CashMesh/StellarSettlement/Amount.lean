import CashMesh.Lib.Guarded
import CashMesh.Lib.Positional
import CashMesh.StellarSettlement.Types
/-!
# Stellar decimals

The decimal amounts of `types.rs`. Horizon and payment requests write amounts with at most seven
fractional digits; the processor counts stroops and cents, and every step that could leave 64 bits is
checked.
-/

namespace CashMesh.StellarSettlement

open CashMesh.Lib

def stroopsPerCent : UInt64 := 100000

/-- `checked_mul`. -/
def checkedMul (a b : UInt64) : Option UInt64 :=
  if a.toNat * b.toNat < 2 ^ 64 then some (a * b) else none

/-- `checked_add`. -/
def checkedAdd (a b : UInt64) : Option UInt64 :=
  if a.toNat + b.toNat < 2 ^ 64 then some (a + b) else none

theorem checkedMul_eq_some {a b c : UInt64} :
    checkedMul a b = some c ↔ c.toNat = a.toNat * b.toNat := by
  simp only [checkedMul, Option.ite_none_right_eq_some, Option.some.injEq]
  constructor
  · rintro ⟨hfits, rfl⟩
    rw [UInt64.toNat_mul, Nat.mod_eq_of_lt hfits]
  · intro hvalue
    have hfits : a.toNat * b.toNat < 2 ^ 64 := hvalue ▸ c.toNat_lt
    refine ⟨hfits, ?_⟩
    apply UInt64.toNat_inj.mp
    rw [UInt64.toNat_mul, Nat.mod_eq_of_lt hfits, hvalue]

theorem checkedAdd_eq_some {a b c : UInt64} :
    checkedAdd a b = some c ↔ c.toNat = a.toNat + b.toNat := by
  simp only [checkedAdd, Option.ite_none_right_eq_some, Option.some.injEq]
  constructor
  · rintro ⟨hfits, rfl⟩
    rw [UInt64.toNat_add, Nat.mod_eq_of_lt hfits]
  · intro hvalue
    have hfits : a.toNat + b.toNat < 2 ^ 64 := hvalue ▸ c.toNat_lt
    refine ⟨hfits, ?_⟩
    apply UInt64.toNat_inj.mp
    rw [UInt64.toNat_add, Nat.mod_eq_of_lt hfits, hvalue]

def isAsciiDigit (c : Char) : Bool :=
  '0' ≤ c && c ≤ '9'

/-- The number that a string of digits writes. -/
def digitsValue (digits : List Char) : Nat :=
  numeral 10 (digits.map fun c => c.toNat - '0'.toNat)

/-- `parse::<u64>` of a nonempty string of digits. -/
def parseU64 (digits : List Char) : Option UInt64 :=
  if digitsValue digits < 2 ^ 64 then some (UInt64.ofNat (digitsValue digits)) else none

theorem parseU64_eq_some {digits : List Char} {value : UInt64} :
    parseU64 digits = some value ↔ value.toNat = digitsValue digits := by
  simp only [parseU64, Option.ite_none_right_eq_some, Option.some.injEq]
  constructor
  · rintro ⟨hfits, rfl⟩
    exact UInt64.toNat_ofNat_of_lt' hfits
  · intro hvalue
    have hfits : digitsValue digits < 2 ^ 64 := hvalue ▸ value.toNat_lt
    refine ⟨hfits, ?_⟩
    apply UInt64.toNat_inj.mp
    rw [UInt64.toNat_ofNat_of_lt' hfits, hvalue]

/-- A number of stroops. -/
structure StellarAmount where
  stroops : UInt64
  deriving DecidableEq

/-- The fractional digits, filled up to seven of them. -/
def parseFraction (fraction : List Char) : Except ValueError UInt64 :=
  if fraction.isEmpty then .ok 0
  else do
    let value ← orFail (parseU64 fraction) .invalidDecimalAmount
    orFail (checkedMul value (UInt64.ofNat (10 ^ (7 - fraction.length)))) .amountOverflow

/-- The stroops of the two parts of a decimal. -/
def stroopsOfParts (whole fraction : List Char) : Except ValueError StellarAmount := do
  ensure (whole ≠ [] ∧ whole.all isAsciiDigit = true ∧ fraction.all isAsciiDigit = true ∧
    fraction.length ≤ 7) ValueError.invalidDecimalAmount
  let whole ← orFail (parseU64 whole) .amountOverflow
  let fractional ← parseFraction fraction
  let scaled ← orFail (checkedMul whole 10000000) .amountOverflow
  let stroops ← orFail (checkedAdd scaled fractional) .amountOverflow
  .ok ⟨stroops⟩

/-- `StellarAmount::parse`. -/
def StellarAmount.parse (value : String) : Except ValueError StellarAmount := do
  let chars := value.toList
  ensure (chars ≠ [] ∧ chars.head? ≠ some '+' ∧ chars.head? ≠ some '-' ∧ 'e' ∉ chars ∧ 'E' ∉ chars)
    ValueError.invalidDecimalAmount
  match chars.splitOn '.' with
  | [whole] => stroopsOfParts whole []
  | [whole, fraction] => stroopsOfParts whole fraction
  | _ => .error .invalidDecimalAmount

/-- `{:02}`: a number in at least two digits. -/
def twoDigits (n : Nat) : List Char :=
  let digits := Nat.toDigits 10 n
  List.replicate (2 - digits.length) '0' ++ digits

/-- `UsdcMinorUnits::to_decimal`. -/
def UsdcMinorUnits.toDecimal (amount : UsdcMinorUnits) : String :=
  .ofList (Nat.toDigits 10 (amount.value / 100).toNat ++ '.' :: twoDigits (amount.value % 100).toNat)

/-- `UsdcMinorUnits::from_stellar_decimal`: the exact cents of a decimal. -/
def UsdcMinorUnits.fromStellarDecimal (value : String) : Except ValueError UsdcMinorUnits := do
  let amount ← StellarAmount.parse value
  ensure (amount.stroops ≠ 0 ∧ amount.stroops % stroopsPerCent = 0) ValueError.subCentAmount
  UsdcMinorUnits.new (amount.stroops / stroopsPerCent)

/-- `UsdcMinorUnits::matches_stellar_decimal`. -/
def UsdcMinorUnits.matchesStellarDecimal (amount : UsdcMinorUnits) (value : String) :
    Except ValueError Bool := do
  let expected ← orFail (checkedMul amount.value stroopsPerCent) .amountOverflow
  let parsed ← StellarAmount.parse value
  .ok (parsed.stroops = expected)

example : StellarAmount.parse "12.5" = .ok ⟨125000000⟩ := by decide +kernel

theorem UsdcMinorUnits.matchesStellarDecimal_true {amount : UsdcMinorUnits} {value : String}
    (h : amount.matchesStellarDecimal value = .ok true) :
    ∃ paid, StellarAmount.parse value = .ok paid ∧
      paid.stroops.toNat = amount.value.toNat * 100000 := by
  simp only [matchesStellarDecimal, bind_eq_ok, orFail_eq_ok, Except.ok.injEq,
    decide_eq_true_eq] at h
  obtain ⟨expected, hexpected, paid, hpaid, hequal⟩ := h
  refine ⟨paid, hpaid, ?_⟩
  rw [hequal]
  exact checkedMul_eq_some.mp hexpected

end CashMesh.StellarSettlement
