import Mathlib.Algebra.CharP.Two
import Mathlib.Algebra.Field.ZMod
import Mathlib.Algebra.Polynomial.Div
import Mathlib.Data.Nat.Size
import Mathlib.Tactic.Ring
/-!
# Cyclic redundancy checks

A message is read as a polynomial over the field of two elements, its bits the coefficients. The
check of width `w` that a generator of degree `w` gives is the remainder of the message times `X ^ w`.
A register computes it bit by bit: it is doubled, and the generator is taken off when the bit that
leaves the register is set.
-/

namespace CashMesh.Lib

open Polynomial

namespace Crc

/-! ### The polynomial of a word -/

/-- The polynomial whose coefficients are the bits of the number. -/
noncomputable def polynomial (n : Nat) : (ZMod 2)[X] :=
  ∑ i ∈ Finset.range n.size, if n.testBit i then X ^ i else 0

def bit (b : Bool) : ZMod 2 :=
  if b then 1 else 0

@[simp] theorem coeff_polynomial (n i : Nat) : (polynomial n).coeff i = bit (n.testBit i) := by
  have hterm : ∀ j, (if n.testBit j then (X : (ZMod 2)[X]) ^ j else 0).coeff i =
      if i = j then bit (n.testBit j) else 0 := by
    intro j
    by_cases hbit : n.testBit j = true
    · simp [hbit, bit, coeff_X_pow]
    · simp [hbit, bit]
  rw [polynomial, finsetSum_coeff, Finset.sum_congr rfl fun j _ => hterm j, Finset.sum_ite_eq]
  by_cases hi : i < n.size
  · rw [if_pos (Finset.mem_range.mpr hi)]
  · have hlt : n < 2 ^ i := Nat.size_le.mp (by omega)
    rw [if_neg (by simpa using hi), Nat.testBit_lt_two_pow hlt]
    rfl

theorem polynomial_inj {n m : Nat} : polynomial n = polynomial m ↔ n = m := by
  constructor
  · intro h
    apply Nat.eq_of_testBit_eq
    intro i
    have hcoeff := congrArg (fun p => Polynomial.coeff p i) h
    simp only [coeff_polynomial] at hcoeff
    revert hcoeff
    cases n.testBit i <;> cases m.testBit i <;> decide
  · intro h
    rw [h]

theorem polynomial_zero : polynomial 0 = 0 := by
  ext i
  rw [coeff_polynomial, Nat.zero_testBit]
  rfl

theorem polynomial_xor (n m : Nat) : polynomial (n ^^^ m) = polynomial n + polynomial m := by
  ext i
  simp only [coeff_polynomial, coeff_add, Nat.testBit_xor]
  cases n.testBit i <;> cases m.testBit i <;> rfl

theorem polynomial_shiftLeft (n count : Nat) :
    polynomial (n <<< count) = X ^ count * polynomial n := by
  ext i
  rw [coeff_X_pow_mul', coeff_polynomial, Nat.testBit_shiftLeft]
  by_cases hi : count ≤ i
  · simp [hi]
  · simp [hi, bit]

theorem polynomial_two_pow (i : Nat) : polynomial (2 ^ i) = X ^ i := by
  ext j
  rw [coeff_polynomial, Nat.testBit_two_pow, coeff_X_pow]
  by_cases hj : i = j
  · simp [hj, bit]
  · simp [hj, Ne.symm hj, bit]

theorem degree_polynomial_lt {n width : Nat} (h : n < 2 ^ width) : (polynomial n).degree < width := by
  rw [degree_lt_iff_coeff_zero]
  intro i hi
  have hlt : n < 2 ^ i := Nat.lt_of_lt_of_le h (Nat.pow_le_pow_right (by omega) hi)
  rw [coeff_polynomial, Nat.testBit_lt_two_pow hlt]
  rfl

theorem monic_polynomial {low width : Nat} (h : low < 2 ^ width) :
    (polynomial (2 ^ width ^^^ low)).Monic ∧
      (polynomial (2 ^ width ^^^ low)).degree = (width : WithBot Nat) := by
  have hdegree := degree_polynomial_lt h
  rw [polynomial_xor, polynomial_two_pow]
  constructor
  · exact monic_X_pow_add hdegree
  · rw [degree_add_eq_left_of_degree_lt (by rwa [degree_X_pow]), degree_X_pow]

/-! ### Messages -/

/-- The polynomial of a message of words of `width` bits, the first word the highest. -/
noncomputable def message (width : Nat) (words : List Nat) : (ZMod 2)[X] :=
  words.foldl (fun read word => X ^ width * read + polynomial word) 0

theorem message_concat (width : Nat) (words : List Nat) (word : Nat) :
    message width (words ++ [word]) = X ^ width * message width words + polynomial word := by
  rw [message, List.foldl_append]
  rfl

/-- The check of a message: the remainder of the message before as many zeros as the check has bits. -/
noncomputable def check (width low : Nat) (text : (ZMod 2)[X]) : (ZMod 2)[X] :=
  X ^ width * text %ₘ polynomial (2 ^ width ^^^ low)

/-! ### The register -/

/-- The register after one bit: doubled, and without the generator if the leading bit was set. -/
def turn (width low register : Nat) : Nat :=
  if register.testBit (width - 1) then (register <<< 1 ^^^ low) % 2 ^ width
  else register <<< 1 % 2 ^ width

variable {width low register : Nat}

theorem turn_lt : turn width low register < 2 ^ width := by
  unfold turn
  split
  · exact Nat.mod_lt _ (Nat.two_pow_pos width)
  · exact Nat.mod_lt _ (Nat.two_pow_pos width)

theorem mod_testBit {n i : Nat} : (n % 2 ^ width).testBit i = (decide (i < width) && n.testBit i) :=
  Nat.testBit_mod_two_pow n width i

/-- A turn multiplies the register by `X`, up to the generator. -/
theorem polynomial_turn (hwidth : 0 < width) (hlow : low < 2 ^ width) (h : register < 2 ^ width) :
    polynomial (turn width low register) = X * polynomial register +
      if register.testBit (width - 1) then polynomial (2 ^ width ^^^ low) else 0 := by
  have hhigh : ∀ i, width ≤ i → register.testBit i = false := by
    intro i hi
    exact Nat.testBit_lt_two_pow (Nat.lt_of_lt_of_le h (Nat.pow_le_pow_right (by omega) hi))
  have hdouble : X * polynomial register = polynomial (register <<< 1) := by
    rw [polynomial_shiftLeft, pow_one]
  rw [hdouble]
  unfold turn
  by_cases hbit : register.testBit (width - 1) = true
  · rw [if_pos hbit, if_pos hbit, ← polynomial_xor]
    congr 1
    apply Nat.eq_of_testBit_eq
    intro i
    have hlowBit : width ≤ i → low.testBit i = false := fun hi =>
      Nat.testBit_lt_two_pow (Nat.lt_of_lt_of_le hlow (Nat.pow_le_pow_right (by omega) hi))
    simp only [mod_testBit, Nat.testBit_xor, Nat.testBit_shiftLeft, Nat.testBit_two_pow]
    rcases Nat.lt_trichotomy i width with hi | rfl | hi
    · have hne : width ≠ i := by omega
      simp [hi, hne]
    · have hone : 1 ≤ i := hwidth
      simp [hbit, hone, hlowBit (Nat.le_refl i)]
    · have hne : width ≠ i := by omega
      have hge : ¬ i < width := by omega
      simp [hge, hne, hlowBit (by omega), hhigh (i - 1) (by omega)]
  · rw [if_neg hbit, if_neg hbit, add_zero]
    congr 1
    apply Nat.eq_of_testBit_eq
    intro i
    simp only [mod_testBit, Nat.testBit_shiftLeft]
    rcases Nat.lt_trichotomy i width with hi | rfl | hi
    · simp [hi]
    · simp [hbit]
    · have hge : ¬ i < width := by omega
      simp [hge, hhigh (i - 1) (by omega)]

/-- What a register holds of a message: a remainder of it. -/
structure Holds (width low : Nat) (text : (ZMod 2)[X]) (register : Nat) : Prop where
  lt : register < 2 ^ width
  remainder : polynomial (2 ^ width ^^^ low) ∣ X ^ width * text - polynomial register

theorem holds_zero : Holds width low 0 0 where
  lt := Nat.two_pow_pos width
  remainder := by
    rw [polynomial_zero, mul_zero, sub_zero]
    exact dvd_zero _

/-- A register below its width is multiplied by `X ^ turns`. -/
theorem dvd_turns (hwidth : 0 < width) (hlow : low < 2 ^ width) (turns : Nat)
    (h : register < 2 ^ width) :
    Nat.repeat (turn width low) turns register < 2 ^ width ∧
      polynomial (2 ^ width ^^^ low) ∣
        X ^ turns * polynomial register - polynomial (Nat.repeat (turn width low) turns register) := by
  induction turns with
  | zero =>
      refine ⟨h, ?_⟩
      show _ ∣ X ^ 0 * polynomial register - polynomial register
      rw [pow_zero, one_mul, sub_self]
      exact dvd_zero _
  | succ turns ih =>
      obtain ⟨hlt, hdvd⟩ := ih
      refine ⟨turn_lt, ?_⟩
      show _ ∣ _ - polynomial (turn width low (Nat.repeat (turn width low) turns register))
      rw [polynomial_turn hwidth hlow hlt]
      have hstep : X ^ (turns + 1) * polynomial register -
          (X * polynomial (Nat.repeat (turn width low) turns register) +
            if (Nat.repeat (turn width low) turns register).testBit (width - 1) then
              polynomial (2 ^ width ^^^ low) else 0) =
          X * (X ^ turns * polynomial register -
            polynomial (Nat.repeat (turn width low) turns register)) -
            if (Nat.repeat (turn width low) turns register).testBit (width - 1) then
              polynomial (2 ^ width ^^^ low) else 0 := by
        ring
      rw [hstep]
      apply dvd_sub
      · exact Dvd.dvd.mul_left hdvd X
      · split
        · exact dvd_refl _
        · exact dvd_zero _

/-- A word is taken into the upper bits of the register, which then turns once for each of its bits. -/
theorem Holds.word {text : (ZMod 2)[X]} {bits word : Nat} (h : Holds width low text register)
    (hwidth : 0 < width) (hbits : bits ≤ width) (hlow : low < 2 ^ width) (hword : word < 2 ^ bits) :
    Holds width low (X ^ bits * text + polynomial word)
      (Nat.repeat (turn width low) bits (register ^^^ word <<< (width - bits))) := by
  have hshift : word <<< (width - bits) < 2 ^ width := by
    rw [Nat.shiftLeft_eq]
    calc word * 2 ^ (width - bits) < 2 ^ bits * 2 ^ (width - bits) :=
          Nat.mul_lt_mul_of_pos_right hword (Nat.two_pow_pos _)
      _ = 2 ^ width := by rw [← pow_add, Nat.add_sub_cancel' hbits]
  obtain ⟨hlt, hdvd⟩ := dvd_turns hwidth hlow bits (Nat.xor_lt_two_pow h.lt hshift)
  refine ⟨hlt, ?_⟩
  rw [polynomial_xor register, polynomial_shiftLeft] at hdvd
  have hpower : (X : (ZMod 2)[X]) ^ width = X ^ bits * X ^ (width - bits) := by
    rw [← pow_add, Nat.add_sub_cancel' hbits]
  have hsplit : ∀ last : (ZMod 2)[X],
      X ^ width * (X ^ bits * text + polynomial word) - last =
        X ^ bits * (X ^ width * text - polynomial register) +
          (X ^ bits * (polynomial register + X ^ (width - bits) * polynomial word) - last) := by
    intro last
    rw [hpower]
    ring
  rw [hsplit]
  exact dvd_add (Dvd.dvd.mul_left h.remainder _) hdvd

/-- The register that has read a message holds its check. -/
theorem Holds.eq_check {text : (ZMod 2)[X]} (h : Holds width low text register)
    (hlow : low < 2 ^ width) : polynomial register = check width low text := by
  obtain ⟨hmonic, hdegree⟩ := monic_polynomial hlow
  obtain ⟨quotient, hquotient⟩ := h.remainder
  have hdivision : polynomial register + polynomial (2 ^ width ^^^ low) * quotient =
      X ^ width * text := by
    rw [← hquotient]
    ring
  have hsmall : (polynomial register).degree < (polynomial (2 ^ width ^^^ low)).degree := by
    rw [hdegree]
    exact degree_polynomial_lt h.lt
  exact (div_modByMonic_unique quotient _ hmonic ⟨hdivision, hsmall⟩).2.symm

end Crc

end CashMesh.Lib
