import CashMesh.Lib.Guarded
/-!
# The failures of a guarded computation

Which errors a computation can fail with is read off its parts: a sequence fails as one of its steps
does, and a guard only with its own error.
-/

namespace CashMesh.Lib

variable {ε ε' α β : Type} {p q : ε → Prop}

/-- Every error that a computation fails with satisfies `p`. -/
def OnlyFails (p : ε → Prop) : Except ε α → Prop
  | .ok _ => True
  | .error error => p error

theorem onlyFails_mono {x : Except ε α} (hpq : ∀ error, p error → q error) (h : OnlyFails p x) :
    OnlyFails q x := by
  cases x with
  | ok a => trivial
  | error error => exact hpq error h

theorem onlyFails_of_all (x : Except ε α) (h : ∀ error, p error) : OnlyFails p x := by
  cases x with
  | ok a => trivial
  | error error => exact h error

theorem onlyFails_bind {x : Except ε α} {f : α → Except ε β} (hx : OnlyFails p x)
    (hf : ∀ a, x = .ok a → OnlyFails p (f a)) : OnlyFails p (x >>= f) := by
  cases x with
  | ok a => exact hf a rfl
  | error error => exact hx

theorem onlyFails_ensure {condition : Prop} [Decidable condition] {error : ε}
    (h : ¬condition → p error) : OnlyFails p (ensure condition error) := by
  unfold ensure
  split
  · trivial
  · case isFalse hfalse => exact h hfalse

theorem onlyFails_orFail {value : Option α} {error : ε} (h : p error) :
    OnlyFails p (orFail value error) := by
  cases value with
  | none => exact h
  | some a => trivial

theorem onlyFails_mapError {x : Except ε' α} {f : ε' → ε} (h : ∀ error, p (f error)) :
    OnlyFails p (x.mapError f) := by
  cases x with
  | ok a => trivial
  | error error => exact h error

theorem onlyFails_foldlM {f : β → α → Except ε β} (h : ∀ b a, OnlyFails p (f b a)) (as : List α)
    (b : β) : OnlyFails p (as.foldlM f b) := by
  induction as generalizing b with
  | nil => trivial
  | cons a as ih =>
      rw [List.foldlM_cons]
      exact onlyFails_bind (h b a) fun b' _ => ih b'

end CashMesh.Lib
