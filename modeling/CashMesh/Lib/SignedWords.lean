import Mathlib.Data.Nat.Bitwise
import Mathlib.Algebra.Order.Ring.Nat
/-!
# Bitwise operators on signed words

A language whose numbers are not machine integers still has the bitwise operators of one: an operator
takes its operands modulo `2 ^ 32`, works on the words and yields the signed number of the result. On
natural numbers that stay below `2 ^ 31` this is the operator on natural numbers, and above it is not,
so a loop of such operators is read off the natural ones as long as it stays in that range.
-/

namespace CashMesh.Lib

namespace SignedWord

def shiftLeft (n : Int) (count : Nat) : Int :=
  (BitVec.ofInt 32 n <<< (count % 32)).toInt

def shiftRight (n : Int) (count : Nat) : Int :=
  ((BitVec.ofInt 32 n).sshiftRight (count % 32)).toInt

def and (n m : Int) : Int :=
  (BitVec.ofInt 32 n &&& BitVec.ofInt 32 m).toInt

def or (n m : Int) : Int :=
  (BitVec.ofInt 32 n ||| BitVec.ofInt 32 m).toInt

def xor (n m : Int) : Int :=
  (BitVec.ofInt 32 n ^^^ BitVec.ofInt 32 m).toInt

/-! ### The exact range -/

/-- A natural number that a signed word holds as it is. -/
abbrev Exact (n : Nat) : Prop :=
  n < 2 ^ 31

variable {n m count : Nat}

theorem toNat_ofInt (h : Exact n) : (BitVec.ofInt 32 n).toNat = n := by
  rw [BitVec.ofInt_natCast, BitVec.toNat_ofNat]
  apply Nat.mod_eq_of_lt
  omega

theorem toInt_eq {word : BitVec 32} (hword : word.toNat = n) (h : Exact n) : word.toInt = n := by
  rw [BitVec.toInt_eq_toNat_of_lt (by omega), hword]

/-- A shift whose result is exact loses no bit. -/
theorem shiftLeft_natCast (hcount : count < 32) (h : Exact (n <<< count)) :
    shiftLeft n count = (n <<< count : Nat) := by
  have hn : Exact n := by
    have hle : n ≤ n <<< count := by
      rw [Nat.shiftLeft_eq]
      exact Nat.le_mul_of_pos_right n (Nat.two_pow_pos count)
    exact Nat.lt_of_le_of_lt hle h
  apply toInt_eq _ h
  rw [BitVec.toNat_shiftLeft, toNat_ofInt hn, Nat.mod_eq_of_lt hcount]
  apply Nat.mod_eq_of_lt
  omega

theorem shiftRight_natCast (hcount : count < 32) (h : Exact n) :
    shiftRight n count = (n >>> count : Nat) := by
  have hsign : (BitVec.ofInt 32 n).msb = false := by
    rw [BitVec.msb_eq_decide, toNat_ofInt h]
    apply decide_eq_false
    omega
  have hresult : n >>> count ≤ n := Nat.shiftRight_le n count
  apply toInt_eq _ (Nat.lt_of_le_of_lt hresult h)
  rw [BitVec.toNat_sshiftRight_of_msb_false hsign, toNat_ofInt h, Nat.mod_eq_of_lt hcount]

theorem and_natCast (hn : Exact n) (hm : Exact m) : and n m = (n &&& m : Nat) := by
  apply toInt_eq _ (Nat.lt_of_le_of_lt Nat.and_le_left hn)
  rw [BitVec.toNat_and, toNat_ofInt hn, toNat_ofInt hm]

theorem or_natCast (hn : Exact n) (hm : Exact m) : or n m = (n ||| m : Nat) := by
  apply toInt_eq _ (Nat.or_lt_two_pow hn hm)
  rw [BitVec.toNat_or, toNat_ofInt hn, toNat_ofInt hm]

theorem xor_natCast (hn : Exact n) (hm : Exact m) : xor n m = (n ^^^ m : Nat) := by
  apply toInt_eq _ (Nat.xor_lt_two_pow hn hm)
  rw [BitVec.toNat_xor, toNat_ofInt hn, toNat_ofInt hm]

end SignedWord

end CashMesh.Lib
