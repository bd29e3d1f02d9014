import CashMesh.Lib.Positional
import Mathlib.Algebra.Order.Ring.Nat
import Mathlib.Tactic.Ring
/-!
# Regrouping digits

The digits of a number in one power of two, read one after another and put out in another power of
two. The bits that do not fill a digit of the output wait in a buffer, so at every place what has been
read is what has been put out with the buffer behind it.
-/

namespace CashMesh.Lib

/-- The digits put out so far, and the bits that wait. -/
structure Regrouping where
  output : List Nat
  buffer : Nat
  bits : Nat

namespace Regrouping

def start : Regrouping :=
  ⟨[], 0, 0⟩

/-- Read one digit of `a` bits, and put out one of `b` bits when there are enough. -/
def push (a b : Nat) (state : Regrouping) (digit : Nat) : Regrouping :=
  let buffer := state.buffer * 2 ^ a + digit
  let bits := state.bits + a
  if b ≤ bits then
    ⟨state.output ++ [buffer / 2 ^ (bits - b) % 2 ^ b], buffer % 2 ^ (bits - b), bits - b⟩
  else
    ⟨state.output, buffer, bits⟩

/-- The state that the digits leave. -/
structure Reads (a b : Nat) (digits : List Nat) (state : Regrouping) : Prop where
  value : numeral (2 ^ a) digits = numeral (2 ^ b) state.output * 2 ^ state.bits + state.buffer
  buffer_lt : state.buffer < 2 ^ state.bits
  length : a * digits.length = b * state.output.length + state.bits
  bits_lt : state.bits < b
  output_lt : ∀ word ∈ state.output, word < 2 ^ b

variable {a b : Nat}

theorem reads_start (hb : 0 < b) : Reads a b [] start where
  value := rfl
  buffer_lt := Nat.one_pos
  length := rfl
  bits_lt := hb
  output_lt := by simp [start]

theorem Reads.push {digits : List Nat} {state : Regrouping} {digit : Nat}
    (h : Reads a b digits state) (hab : a ≤ b) (hdigit : digit < 2 ^ a) :
    Reads a b (digits ++ [digit]) (state.push a b digit) := by
  have hvalue : numeral (2 ^ a) (digits ++ [digit]) =
      numeral (2 ^ b) state.output * 2 ^ (state.bits + a) + (state.buffer * 2 ^ a + digit) := by
    rw [numeral_concat, h.value, pow_add]
    ring
  have hbuffer : state.buffer * 2 ^ a + digit < 2 ^ (state.bits + a) := by
    have hsucc : (state.buffer + 1) * 2 ^ a ≤ 2 ^ state.bits * 2 ^ a :=
      Nat.mul_le_mul_right _ h.buffer_lt
    rw [Nat.add_mul, Nat.one_mul, ← pow_add] at hsucc
    omega
  have hlength : a * (digits ++ [digit]).length = b * state.output.length + (state.bits + a) := by
    rw [List.length_append, List.length_singleton, Nat.mul_add, Nat.mul_one, h.length]
    omega
  have hbits := h.bits_lt
  unfold Regrouping.push
  by_cases hfull : b ≤ state.bits + a
  · have hword : (state.buffer * 2 ^ a + digit) / 2 ^ (state.bits + a - b) < 2 ^ b := by
      apply Nat.div_lt_of_lt_mul
      rwa [← pow_add, Nat.sub_add_cancel hfull]
    simp only [if_pos hfull, Nat.mod_eq_of_lt hword]
    have hsplit := Nat.div_add_mod (state.buffer * 2 ^ a + digit) (2 ^ (state.bits + a - b))
    have hpower : 2 ^ (state.bits + a) = 2 ^ b * 2 ^ (state.bits + a - b) := by
      rw [← pow_add, Nat.add_sub_cancel' hfull]
    constructor
    case value =>
      rw [hvalue, numeral_concat, hpower]
      nth_rewrite 1 [← hsplit]
      ring
    case buffer_lt => exact Nat.mod_lt _ (Nat.two_pow_pos _)
    case length =>
      rw [hlength, List.length_append, List.length_singleton, Nat.mul_add, Nat.mul_one]
      show _ = b * state.output.length + b + (state.bits + a - b)
      omega
    case bits_lt =>
      show state.bits + a - b < b
      omega
    case output_lt =>
      intro word hmem
      rcases List.mem_append.mp hmem with hold | hnew
      · exact h.output_lt word hold
      · rw [List.mem_singleton.mp hnew]
        exact hword
  · simp only [if_neg hfull]
    exact ⟨hvalue, hbuffer, hlength, Nat.lt_of_not_le hfull, h.output_lt⟩

/-- What has been put out after digits is what they write, but for the bits that wait. -/
theorem reads_foldl {digits : List Nat} (hb : 0 < b) (hab : a ≤ b)
    (hdigits : ∀ digit ∈ digits, digit < 2 ^ a) :
    Reads a b digits (digits.foldl (Regrouping.push a b) start) := by
  have hfrom : ∀ (rest read : List Nat) (state : Regrouping), (∀ digit ∈ rest, digit < 2 ^ a) →
      Reads a b read state →
        Reads a b (read ++ rest) (rest.foldl (Regrouping.push a b) state) := by
    intro rest
    induction rest with
    | nil =>
        intro read state _ hread
        rwa [List.append_nil]
    | cons digit rest ih =>
        intro read state hrest hread
        have hnext := hread.push hab (hrest digit List.mem_cons_self)
        have hend := ih (read ++ [digit]) _
          (fun other hother => hrest other (List.mem_cons_of_mem _ hother)) hnext
        rwa [List.append_assoc, List.singleton_append] at hend
  exact hfrom digits [] start hdigits (reads_start hb)

end Regrouping

end CashMesh.Lib
