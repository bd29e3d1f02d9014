import Mathlib.Data.List.Forall2
/-!
# Guarded computations

A computation that checks and then returns is a chain of `Except` steps. It succeeds exactly when
every step does, so a successful run is read as the conjunction of what its guards established.
-/

namespace CashMesh.Lib

variable {ε ε' α β : Type}

/-- Fail with `error` unless the condition holds. -/
def ensure (condition : Prop) [Decidable condition] (error : ε) : Except ε Unit :=
  if condition then .ok () else .error error

/-- The value of an option, or `error` when there is none. -/
def orFail (value : Option α) (error : ε) : Except ε α :=
  match value with
  | some a => .ok a
  | none => .error error

@[simp] theorem ok_bind (a : α) (f : α → Except ε β) : (Except.ok a >>= f) = f a :=
  rfl

@[simp] theorem error_bind (error : ε) (f : α → Except ε β) :
    ((Except.error error : Except ε α) >>= f) = .error error :=
  rfl

@[simp] theorem throw_eq_error (error : ε) : (throw error : Except ε α) = .error error :=
  rfl

@[simp] theorem pure_eq_ok (a : α) : (pure a : Except ε α) = .ok a :=
  rfl

theorem bind_eq_ok {x : Except ε α} {f : α → Except ε β} {b : β} :
    (x >>= f) = .ok b ↔ ∃ a, x = .ok a ∧ f a = .ok b := by
  cases x with
  | ok a => simp
  | error error => simp

theorem bind_eq_error {x : Except ε α} {f : α → Except ε β} {error : ε} :
    (x >>= f) = .error error ↔ x = .error error ∨ ∃ a, x = .ok a ∧ f a = .error error := by
  cases x with
  | ok a => simp
  | error error => simp

@[simp] theorem ensure_eq_ok {condition : Prop} [Decidable condition] {error : ε} {u : Unit} :
    ensure condition error = .ok u ↔ condition := by
  unfold ensure
  split
  · case isTrue h => simp [h]
  · case isFalse h => simp [h]

@[simp] theorem exists_unit {p : Unit → Prop} : (∃ u, p u) ↔ p () :=
  ⟨fun ⟨(), h⟩ => h, fun h => ⟨(), h⟩⟩

theorem ensure_of {condition : Prop} [Decidable condition] {error : ε} (h : condition) :
    ensure condition error = .ok () :=
  ensure_eq_ok.mpr h

theorem ensure_of_not {condition : Prop} [Decidable condition] {error : ε} (h : ¬condition) :
    ensure condition error = .error error :=
  if_neg h

@[simp] theorem orFail_eq_ok {value : Option α} {error : ε} {a : α} :
    orFail value error = .ok a ↔ value = some a := by
  cases value with
  | none => simp [orFail]
  | some b => simp [orFail]

@[simp] theorem mapError_eq_ok {x : Except ε α} {f : ε → ε'} {a : α} :
    x.mapError f = .ok a ↔ x = .ok a := by
  cases x with
  | ok b => simp [Except.mapError]
  | error error => simp [Except.mapError]

theorem map_eq_ok {x : Except ε α} {f : α → β} {b : β} :
    x.map f = .ok b ↔ ∃ a, x = .ok a ∧ f a = b := by
  cases x with
  | ok a => simp [Except.map]
  | error error => simp [Except.map]

theorem ite_error_eq_ok {p : Prop} [Decidable p] {x : Except ε α} {error : ε} {a : α} :
    (if p then .error error else x) = .ok a ↔ ¬p ∧ x = .ok a := by
  by_cases hp : p
  · simp [hp]
  · simp [hp]

theorem ite_else_error_eq_ok {p : Prop} [Decidable p] {x : Except ε α} {error : ε} {a : α} :
    (if p then x else .error error) = .ok a ↔ p ∧ x = .ok a := by
  by_cases hp : p
  · simp [hp]
  · simp [hp]

/-- A computation whose result has been seen. -/
theorem eq_ok_of_toOption {x : Except ε α} {a : α} (h : x.toOption = some a) : x = .ok a := by
  cases x with
  | ok b => exact congrArg Except.ok (Option.some.inj h)
  | error error => cases h

theorem exists_ok_of_any {x : Except ε α} {p : α → Prop} [DecidablePred p]
    (h : (x.toOption.any fun a => p a) = true) : ∃ a, x = .ok a ∧ p a := by
  cases x with
  | ok a => exact ⟨a, rfl, of_decide_eq_true h⟩
  | error error => cases h

/-- What holds of no steps, and of a step followed by the rest, holds of a successful loop. -/
theorem foldlM_ok_induction {f : β → α → Except ε β} {motive : β → List α → β → Prop}
    (nil : ∀ b, motive b [] b)
    (cons : ∀ b a b' as b'', f b a = .ok b' → motive b' as b'' → motive b (a :: as) b'')
    {as : List α} {b b' : β} (h : as.foldlM f b = .ok b') : motive b as b' := by
  induction as generalizing b with
  | nil =>
      cases h
      exact nil _
  | cons a as ih =>
      rw [List.foldlM_cons, bind_eq_ok] at h
      obtain ⟨b₁, hstep, hrest⟩ := h
      exact cons b a b₁ as b' hstep (ih hrest)

/-- A loop fails with the error of the first step that fails, from what the steps before it leave. -/
theorem foldlM_eq_error {f : β → α → Except ε β} {as : List α} {b : β} {error : ε} :
    as.foldlM f b = .error error ↔ ∃ before a after b', as = before ++ a :: after ∧
      before.foldlM f b = .ok b' ∧ f b' a = .error error := by
  induction as generalizing b with
  | nil => simp
  | cons a as ih =>
      rw [List.foldlM_cons, bind_eq_error]
      constructor
      · intro h
        rcases h with hfirst | ⟨b₁, hfirst, hrest⟩
        · exact ⟨[], a, as, b, rfl, rfl, hfirst⟩
        · obtain ⟨before, a', after, b', rfl, hbefore, hfails⟩ := ih.mp hrest
          refine ⟨a :: before, a', after, b', rfl, ?_, hfails⟩
          rw [List.foldlM_cons, hfirst, ok_bind]
          exact hbefore
      · intro h
        obtain ⟨before, a', after, b', has, hbefore, hfails⟩ := h
        cases before with
        | nil =>
            cases has
            cases hbefore
            exact .inl hfails
        | cons x before =>
            cases has
            rw [List.foldlM_cons, bind_eq_ok] at hbefore
            obtain ⟨b₁, hfirst, hrest⟩ := hbefore
            exact .inr ⟨b₁, hfirst, ih.mpr ⟨before, a', after, b', rfl, hrest, hfails⟩⟩

/-- A loop whose steps succeed succeeds with every step that agrees on success. -/
theorem foldlM_ok_mono {f : β → α → Except ε β} {g : β → α → Except ε' β} {as : List α} {b b' : β}
    (hstep : ∀ b, ∀ a ∈ as, ∀ b', f b a = .ok b' → g b a = .ok b')
    (h : as.foldlM f b = .ok b') : as.foldlM g b = .ok b' := by
  induction as generalizing b with
  | nil =>
      cases h
      rfl
  | cons a as ih =>
      rw [List.foldlM_cons, bind_eq_ok] at h ⊢
      obtain ⟨b₁, hfirst, hrest⟩ := h
      exact ⟨b₁, hstep b a List.mem_cons_self b₁ hfirst,
        ih (fun b a ha => hstep b a (List.mem_cons_of_mem _ ha)) hrest⟩

theorem foldlM_exists_ok {f : β → α → Except ε β} {motive : List α → β → Prop}
    (hstep : ∀ a as b, motive (a :: as) b → ∃ b', f b a = .ok b' ∧ motive as b') {as : List α}
    {b : β} (h : motive as b) : ∃ b', as.foldlM f b = .ok b' ∧ motive [] b' := by
  induction as generalizing b with
  | nil => exact ⟨b, rfl, h⟩
  | cons a as ih =>
      obtain ⟨b₁, hfirst, hnext⟩ := hstep a as b h
      obtain ⟨b', hrest, hlast⟩ := ih hnext
      refine ⟨b', ?_, hlast⟩
      rw [List.foldlM_cons, bind_eq_ok]
      exact ⟨b₁, hfirst, hrest⟩

/-! ### Lists in step -/

theorem exists_of_forall₂ {R : α → β → Prop} {as : List α} {bs : List β} {b : β}
    (h : List.Forall₂ R as bs) (hb : b ∈ bs) : ∃ a ∈ as, R a b := by
  induction h with
  | nil => cases hb
  | cons hhead htail ih =>
      rcases List.mem_cons.mp hb with rfl | hb
      · exact ⟨_, List.mem_cons_self, hhead⟩
      · obtain ⟨a, ha, hab⟩ := ih hb
        exact ⟨a, List.mem_cons_of_mem _ ha, hab⟩

theorem getLast?_of_forall₂ {R : α → β → Prop} {as : List α} {bs : List β} {b : β}
    (h : List.Forall₂ R as bs) (hb : bs.getLast? = some b) :
    ∃ a, as.getLast? = some a ∧ R a b := by
  have hreverse : List.Forall₂ R as.reverse bs.reverse := List.forall₂_reverse_iff.mpr h
  rw [← List.head?_reverse] at hb ⊢
  generalize as.reverse = as' at hreverse ⊢
  generalize bs.reverse = bs' at hreverse hb
  cases hreverse with
  | nil => simp at hb
  | cons hhead htail =>
      obtain rfl : _ = b := by simpa using hb
      exact ⟨_, rfl, hhead⟩

theorem mapM_eq_ok {f : α → Except ε β} {as : List α} {bs : List β} :
    as.mapM f = .ok bs ↔ List.Forall₂ (fun a b => f a = .ok b) as bs := by
  induction as generalizing bs with
  | nil =>
      cases bs with
      | nil => simp
      | cons b bs => simp
  | cons a as ih =>
      simp only [List.mapM_cons, bind_eq_ok, pure_eq_ok, Except.ok.injEq]
      constructor
      · rintro ⟨b, hb, bs, hbs, rfl⟩
        exact .cons hb (ih.mp hbs)
      · rintro (_ | ⟨hb, hbs⟩)
        exact ⟨_, hb, _, ih.mpr hbs, rfl⟩

theorem mapM_eq_ok_map {f : α → Except ε β} {p : α → Prop} {g : α → β}
    (h : ∀ a b, f a = .ok b ↔ p a ∧ b = g a) {as : List α} {bs : List β} :
    as.mapM f = .ok bs ↔ (∀ a ∈ as, p a) ∧ bs = as.map g := by
  simp only [mapM_eq_ok, h, List.forall₂_and_left, and_congr_right_iff]
  intro _
  rw [eq_comm, ← List.forall₂_eq_eq_eq, List.forall₂_map_left_iff]
  simp only [eq_comm]

end CashMesh.Lib
