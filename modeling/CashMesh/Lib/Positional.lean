import Mathlib.Data.Nat.Digits.Defs
/-!
# Positional numerals

Numbers as they are written down, the most significant digit first. A reader that takes one digit
at a time multiplies what it has by the base and adds the digit; the lemmas here are the ones with
which such a reader is compared with the number its text writes.
-/

namespace CashMesh.Lib

/-- The number that digits write in a base, the most significant digit first. -/
def numeral (base : Nat) (digits : List Nat) : Nat :=
  Nat.ofDigits base digits.reverse

variable {base : Nat}

@[simp] theorem numeral_nil : numeral base [] = 0 :=
  rfl

theorem numeral_append (digits rest : List Nat) :
    numeral base (digits ++ rest) =
      numeral base digits * base ^ rest.length + numeral base rest := by
  simp only [numeral, List.reverse_append, Nat.ofDigits_append, List.length_reverse]
  rw [Nat.add_comm, Nat.mul_comm]

@[simp] theorem numeral_singleton (digit : Nat) : numeral base [digit] = digit :=
  Nat.ofDigits_singleton

theorem numeral_cons (digit : Nat) (digits : List Nat) :
    numeral base (digit :: digits) = digit * base ^ digits.length + numeral base digits := by
  rw [← List.singleton_append, numeral_append, numeral_singleton]

theorem numeral_concat (digits : List Nat) (digit : Nat) :
    numeral base (digits ++ [digit]) = numeral base digits * base + digit := by
  simp [numeral_append]

theorem numeral_replicate_zero (count : Nat) : numeral base (List.replicate count 0) = 0 := by
  rw [numeral, List.reverse_replicate, Nat.ofDigits_replicate_zero]

theorem numeral_append_zeros (digits : List Nat) (count : Nat) :
    numeral base (digits ++ List.replicate count 0) = numeral base digits * base ^ count := by
  rw [numeral_append, numeral_replicate_zero, List.length_replicate, Nat.add_zero]

theorem numeral_lt {digits : List Nat} (hbase : 1 < base) (hdigits : ∀ d ∈ digits, d < base) :
    numeral base digits < base ^ digits.length := by
  have hreverse : ∀ d ∈ digits.reverse, d < base := fun d hd => hdigits d (List.mem_reverse.mp hd)
  simpa [numeral] using Nat.ofDigits_lt_base_pow_length hbase hreverse

/-- Digits of a number of them are told apart by the number that they write. -/
theorem numeral_inj {digits rest : List Nat} (hbase : 1 < base) (hlength : digits.length = rest.length)
    (hdigits : ∀ d ∈ digits, d < base) (hrest : ∀ d ∈ rest, d < base)
    (h : numeral base digits = numeral base rest) : digits = rest := by
  rw [← List.reverse_inj]
  apply Nat.ofDigits_inj_of_len_eq hbase _ _ _ h
  · rw [List.length_reverse, List.length_reverse, hlength]
  · exact fun d hd => hdigits d (List.mem_reverse.mp hd)
  · exact fun d hd => hrest d (List.mem_reverse.mp hd)

/-- A number in so many digits. -/
def writtenDigits (base : Nat) : Nat → Nat → List Nat
  | 0, _ => []
  | count + 1, n => writtenDigits base count (n / base) ++ [n % base]

@[simp] theorem length_writtenDigits (count n : Nat) : (writtenDigits base count n).length = count := by
  induction count generalizing n with
  | zero => rfl
  | succ count ih => rw [writtenDigits, List.length_append, ih, List.length_singleton]

theorem writtenDigits_lt (hbase : 0 < base) (count n : Nat) :
    ∀ d ∈ writtenDigits base count n, d < base := by
  induction count generalizing n with
  | zero => simp [writtenDigits]
  | succ count ih =>
      intro d hd
      rcases List.mem_append.mp hd with hmem | hlast
      · exact ih _ d hmem
      · rw [List.mem_singleton.mp hlast]
        exact Nat.mod_lt n hbase

theorem numeral_writtenDigits {count n : Nat} (h : n < base ^ count) :
    numeral base (writtenDigits base count n) = n := by
  induction count generalizing n with
  | zero =>
      rw [pow_zero] at h
      show numeral base [] = n
      rw [numeral_nil]
      omega
  | succ count ih =>
      have hdiv : n / base < base ^ count := by
        apply Nat.div_lt_of_lt_mul
        rwa [Nat.mul_comm, ← pow_succ]
      rw [writtenDigits, numeral_concat, ih hdiv, Nat.mul_comm]
      exact Nat.div_add_mod n base

/-- The digits that write a number are its written digits. -/
theorem eq_writtenDigits {digits : List Nat} (hbase : 1 < base) (hdigits : ∀ d ∈ digits, d < base) :
    digits = writtenDigits base digits.length (numeral base digits) := by
  apply numeral_inj hbase _ hdigits (writtenDigits_lt (by omega) _ _)
  · rw [numeral_writtenDigits (numeral_lt hbase hdigits)]
  · rw [length_writtenDigits]

end CashMesh.Lib
