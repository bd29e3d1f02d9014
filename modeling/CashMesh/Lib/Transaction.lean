import Mathlib.Logic.Basic
/-!
# Transactions as their callers see them

A transaction of a store is a function from a state to its result and the state it commits, or to an
error. Its caller sees less: the connection may fail before the transaction begins, or after it has
committed, and then there is no telling which.
-/

namespace CashMesh.Lib

variable {ε α S : Type}

/-- What a transaction answers, and the state it leaves. The store may be `unavailable`, before the
commit or after it. -/
inductive Transacts (unavailable : ε) (result : Except ε (α × S)) (s : S) : Except ε α → S → Prop
  | ok {answer s'} (hresult : result = .ok (answer, s')) :
      Transacts unavailable result s (.ok answer) s'
  | lost {answer s'} (hresult : result = .ok (answer, s')) :
      Transacts unavailable result s (.error unavailable) s'
  | error {error} (hresult : result = .error error) :
      Transacts unavailable result s (.error error) s
  | unavailable : Transacts unavailable result s (.error unavailable) s

/-- What a query answers. -/
def Queries (unavailable : ε) (result answer : Except ε α) : Prop :=
  answer = result ∨ answer = .error unavailable

variable {unavailable : ε} {result : Except ε (α × S)} {s s' : S} {answer : Except ε α}

/-- Whatever the answer, the transaction has committed or the state is as it was. -/
theorem Transacts.committed (h : Transacts unavailable result s answer s') :
    s' = s ∨ ∃ a, result = .ok (a, s') := by
  cases h with
  | ok hresult => exact .inr ⟨_, hresult⟩
  | lost hresult => exact .inr ⟨_, hresult⟩
  | error hresult => exact .inl rfl
  | unavailable => exact .inl rfl

theorem Transacts.result_eq {a : α} (h : Transacts unavailable result s (.ok a) s') :
    result = .ok (a, s') := by
  cases h with
  | ok hresult => exact hresult

/-- An error is the transaction's own, or that of the store. -/
theorem Transacts.error_cases {error : ε} (h : Transacts unavailable result s (.error error) s') :
    error = unavailable ∨ result = .error error := by
  generalize hanswer : (Except.error error : Except ε α) = answer at h
  cases h with
  | ok hresult => cases hanswer
  | lost hresult => exact .inl (Except.error.inj hanswer)
  | error hresult =>
      obtain rfl := Except.error.inj hanswer
      exact .inr hresult
  | unavailable => exact .inl (Except.error.inj hanswer)

theorem Queries.result_eq {a : α} {result : Except ε α} (h : Queries unavailable result (.ok a)) :
    result = .ok a := by
  rcases h with h | h
  · exact h.symm
  · cases h

end CashMesh.Lib
