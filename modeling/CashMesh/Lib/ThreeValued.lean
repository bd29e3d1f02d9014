/-!
# Conditions with nulls

The three truth values of SQL, in which a comparison with a null is unknown. A condition is read in
two ways: a constraint passes unless it is false, and a branch is taken only when its condition is
true. Negation exchanges the two readings, and both of them go through conjunctions and disjunctions.
-/

namespace CashMesh.Lib

/-- A truth value of SQL. -/
inductive Truth where
  | no
  | unknown
  | yes
deriving DecidableEq

namespace Truth

variable {α β : Type}

def and : Truth → Truth → Truth
  | no, _ => no
  | yes, q => q
  | unknown, no => no
  | unknown, _ => unknown

def or : Truth → Truth → Truth
  | yes, _ => yes
  | no, q => q
  | unknown, yes => yes
  | unknown, _ => unknown

def not : Truth → Truth
  | no => yes
  | unknown => unknown
  | yes => no

/-- A condition without nulls. -/
def of (p : Prop) [Decidable p] : Truth :=
  if p then yes else no

def isNull (value : Option α) : Truth :=
  of (value.isNone)

def isNotNull (value : Option α) : Truth :=
  of (value.isSome)

/-- `IS DISTINCT FROM`, for which a null is a value like others. -/
def isDistinct [DecidableEq α] (value other : Option α) : Truth :=
  of (value ≠ other)

/-- A comparison of two columns. -/
def compare (r : α → β → Prop) [DecidableRel r] : Option α → Option β → Truth
  | some value, some other => of (r value other)
  | _, _ => unknown

/-- A constraint of this condition passes. -/
def Passes (p : Truth) : Prop :=
  p ≠ no

/-- A branch of this condition is taken. -/
def Holds (p : Truth) : Prop :=
  p = yes

instance (p : Truth) : Decidable p.Passes :=
  inferInstanceAs (Decidable (p ≠ no))

instance (p : Truth) : Decidable p.Holds :=
  inferInstanceAs (Decidable (p = yes))

/-! ### The two readings -/

@[simp] theorem passes_and {p q : Truth} : (p.and q).Passes ↔ p.Passes ∧ q.Passes := by
  cases p <;> cases q <;> decide

@[simp] theorem passes_or {p q : Truth} : (p.or q).Passes ↔ p.Passes ∨ q.Passes := by
  cases p <;> cases q <;> decide

@[simp] theorem holds_and {p q : Truth} : (p.and q).Holds ↔ p.Holds ∧ q.Holds := by
  cases p <;> cases q <;> decide

@[simp] theorem holds_or {p q : Truth} : (p.or q).Holds ↔ p.Holds ∨ q.Holds := by
  cases p <;> cases q <;> decide

@[simp] theorem passes_not {p : Truth} : p.not.Passes ↔ ¬p.Holds := by
  cases p <;> decide

@[simp] theorem holds_not {p : Truth} : p.not.Holds ↔ ¬p.Passes := by
  cases p <;> decide

section Of

variable {p : Prop} [Decidable p]

@[simp] theorem passes_of : (of p).Passes ↔ p := by
  by_cases h : p <;> simp [of, Passes, h]

@[simp] theorem holds_of : (of p).Holds ↔ p := by
  by_cases h : p <;> simp [of, Holds, h]

end Of

/-! ### Nulls -/

@[simp] theorem passes_isNull {value : Option α} : (isNull value).Passes ↔ value = none := by
  rw [isNull, passes_of, Option.isNone_iff_eq_none]

@[simp] theorem passes_isNotNull {value : Option α} : (isNotNull value).Passes ↔ value.isSome := by
  rw [isNotNull, passes_of]

@[simp] theorem holds_isNotNull {value : Option α} : (isNotNull value).Holds ↔ value.isSome := by
  rw [isNotNull, holds_of]

@[simp] theorem holds_isDistinct [DecidableEq α] {value other : Option α} :
    (isDistinct value other).Holds ↔ value ≠ other := by
  rw [isDistinct, holds_of]

section Compare

variable {r : α → β → Prop} [DecidableRel r] {value : Option α} {other : Option β}

/-- A comparison passes when it is true of the values, if both are there. -/
@[simp] theorem passes_compare :
    (compare r value other).Passes ↔ ∀ a ∈ value, ∀ b ∈ other, r a b := by
  cases value with
  | none => simp [compare, Passes]
  | some a =>
    cases other with
    | none => simp [compare, Passes]
    | some b => simp [compare]

@[simp] theorem holds_compare :
    (compare r value other).Holds ↔ ∃ a ∈ value, ∃ b ∈ other, r a b := by
  cases value with
  | none => simp [compare, Holds]
  | some a =>
    cases other with
    | none => simp [compare, Holds]
    | some b => simp [compare]

end Compare

end Truth

end CashMesh.Lib
