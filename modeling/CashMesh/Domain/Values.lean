import CashMesh.Acquirer.Types
import Mathlib.Data.Rat.Defs
/-!
# Values of the domain package

The numbers and strings that the domain package is given, before it has checked them, and the checks:
an identifier has its pattern, and an amount or a time is a natural number that a double holds exactly.
-/

namespace CashMesh.Domain

open CashMesh.Lib
open CashMesh.Acquirer (maxSafeInteger identifierPattern)

/-! ### Errors -/

inductive LedgerErrorCode where
  | accountModeMismatch
  | feeNotLessThanGross
  | invalidAccount
  | invalidPosting
  | invalidPaymentEntry
  | invalidReference
  | postingTotalOverflow
  | unbalancedEntry
deriving DecidableEq

inductive InvoiceErrorCode where
  | amountMustBePositive
  | invalidExpiry
  | invalidTransition
  | paymentAfterExpiry
  | paymentBeforeCreation
  | recordedBeforeAcceptance
  | unsupportedSchema
deriving DecidableEq

/-- What the package throws, by the class of the error. -/
inductive DomainError where
  | invalidIdentifier (message : String)
  | invalidTimestamp (message : String)
  | minorUnit (message : String)
  | ledger (code : LedgerErrorCode) (message : String)
  | invoice (code : InvoiceErrorCode) (message : String)
deriving DecidableEq

/-! ### Numbers -/

/-- A number of the language: a rational one that a double holds, or one that is not finite. -/
inductive Number where
  | finite (value : ℚ)
  | notFinite
deriving DecidableEq

namespace Number

def ofNat (n : Nat) : Number :=
  finite n

/-- The number as a natural one, when it is a safe integer that is not negative. -/
def natural? : Number → Option Nat
  | finite value =>
      if value.den = 1 ∧ 0 ≤ value.num ∧ value.num ≤ maxSafeInteger then some value.num.toNat else none
  | notFinite => none

theorem natural?_eq_some {number : Number} {n : Nat} :
    number.natural? = some n ↔ number = ofNat n ∧ n ≤ maxSafeInteger := by
  constructor
  · intro h
    cases number with
    | notFinite => cases h
    | finite value =>
        simp only [natural?] at h
        split at h
        · case isTrue hsafe =>
          obtain ⟨hden, hnonneg, hle⟩ := hsafe
          obtain rfl := Option.some.inj h
          have hvalue : value = (value.num.toNat : ℚ) := by
            apply Rat.ext
            · rw [Rat.num_natCast, Int.toNat_of_nonneg hnonneg]
            · rw [Rat.den_natCast, hden]
          refine ⟨congrArg finite hvalue, ?_⟩
          omega
        · cases h
  · intro h
    obtain ⟨rfl, hle⟩ := h
    have hsafe : (n : ℚ).den = 1 ∧ 0 ≤ (n : ℚ).num ∧ (n : ℚ).num ≤ maxSafeInteger := by
      rw [Rat.den_natCast, Rat.num_natCast]
      exact ⟨rfl, Int.natCast_nonneg n, Int.ofNat_le.mpr hle⟩
    show (if _ then some (n : ℚ).num.toNat else none) = some n
    rw [if_pos hsafe, Rat.num_natCast, Int.toNat_natCast]

theorem natural?_ofNat {n : Nat} (h : n ≤ maxSafeInteger) : (ofNat n).natural? = some n :=
  natural?_eq_some.mpr ⟨rfl, h⟩

end Number

/-! ### Checks -/

def assertIdentifier (value field : String) : Except DomainError Unit :=
  ensure (identifierPattern value = true)
    (.invalidIdentifier (field ++ " must be 1 to 128 URL-safe identifier characters."))

def unixTimestamp (value : Number) : Except DomainError Nat :=
  orFail value.natural?
    (.invalidTimestamp "Unix timestamps must be non-negative safe integers in seconds.")

def minorUnits (value : Number) : Except DomainError Nat :=
  orFail value.natural? (.minorUnit "Minor-unit amounts must be non-negative safe integers.")

end CashMesh.Domain
