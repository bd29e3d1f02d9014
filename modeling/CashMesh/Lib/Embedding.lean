import CashMesh.Lib.Process
/-!
# Processes inside larger systems

A process written for one system can run as a part of another one, whose effects are more and whose
state knows more. What was shown of it in its own system then holds of it there, seen through the
part of the state that its own system has.

Two disciplines that a process keeps one by one it keeps together, so that what a larger system asks
of the process besides can be shown on its own.
-/

namespace CashMesh.Lib

variable {Effect Effect' S S' : Type} {Answer : Effect → Type} {Answer' : Effect' → Type}
variable {ε ε' α : Type}

/-- The process over the effects and errors of another system. -/
def Process.embed (wrap : Effect → Effect') (unwrap : ∀ effect, Answer' (wrap effect) → Answer effect)
    (failure : ε → ε') : Process Effect Answer ε α → Process Effect' Answer' ε' α
  | .done result => .done result
  | .fail error => .fail (failure error)
  | .ask effect next => .ask (wrap effect) fun answer =>
      (next (unwrap effect answer)).embed wrap unwrap failure

namespace Discipline

/-- The discipline of a part, asked of the whole. -/
def comap (view : S' → S) (D : Discipline S) : Discipline S' where
  inv s := D.inv (view s)
  grows s₁ s₂ := D.grows (view s₁) (view s₂)
  refl _ := D.refl _
  trans h₁₂ h₂₃ := D.trans h₁₂ h₂₃

/-- Both disciplines at once. -/
def and (D₁ D₂ : Discipline S) : Discipline S where
  inv s := D₁.inv s ∧ D₂.inv s
  grows s₁ s₂ := D₁.grows s₁ s₂ ∧ D₂.grows s₁ s₂
  refl s := ⟨D₁.refl s, D₂.refl s⟩
  trans h₁₂ h₂₃ := ⟨D₁.trans h₁₂.1 h₂₃.1, D₂.trans h₁₂.2 h₂₃.2⟩

theorem keeps_and {D₁ D₂ : Discipline S} {s s' : S} (h₁ : D₁.Keeps s s') (h₂ : D₂.Keeps s s') :
    (D₁.and D₂).Keeps s s' :=
  ⟨⟨h₁.1, h₂.1⟩, h₁.2, h₂.2⟩

end Discipline

variable {performs : (effect : Effect) → S → Answer effect → S → Prop}
variable {performs' : (effect : Effect') → S' → Answer' effect → S' → Prop}
variable (wrap : Effect → Effect') (unwrap : ∀ effect, Answer' (wrap effect) → Answer effect)
variable (failure : ε → ε')

/-- A process that is safe in its own system is safe in one that answers its effects as its own
system would. -/
theorem safe_embed (view : S' → S) {D : Discipline S} {Q : α → S → Prop} {F : ε → S → Prop}
    (hperforms : ∀ effect s answer s', performs' (wrap effect) s answer s' →
      performs effect (view s) (unwrap effect answer) (view s'))
    {p : Process Effect Answer ε α} {s : S'} (hp : Safe performs D Q F p (view s)) :
    Safe performs' (D.comap view) (fun a s' => Q a (view s'))
      (fun error' s' => ∃ error, failure error = error' ∧ F error (view s'))
      (p.embed wrap unwrap failure) s := by
  induction p generalizing s with
  | done result => exact hp
  | fail error => exact ⟨error, rfl, hp⟩
  | ask effect next ih =>
      intro s₁ hinv hgrow answer s₂ hperform
      obtain ⟨hkeep, hnext⟩ := hp (view s₁) hinv hgrow _ _ (hperforms effect s₁ answer s₂ hperform)
      exact ⟨hkeep, ih (unwrap effect answer) hnext⟩

theorem Process.uses_embed (p : Process Effect Answer ε α) :
    (p.embed wrap unwrap failure : Process Effect' Answer' ε' α).Uses
      fun effect => ∃ inner, effect = wrap inner := by
  induction p with
  | done result => trivial
  | fail error => trivial
  | ask effect next ih => exact ⟨⟨effect, rfl⟩, fun answer => ih (unwrap effect answer)⟩

/-- A process that keeps two disciplines keeps them together. -/
theorem Safe.and {D₁ D₂ : Discipline S} {Q₁ Q₂ : α → S → Prop} {F₁ F₂ : ε → S → Prop}
    {p : Process Effect Answer ε α} {s : S} (h₁ : Safe performs D₁ Q₁ F₁ p s)
    (h₂ : Safe performs D₂ Q₂ F₂ p s) :
    Safe performs (D₁.and D₂) (fun a s' => Q₁ a s' ∧ Q₂ a s') (fun e s' => F₁ e s' ∧ F₂ e s')
      p s := by
  induction p generalizing s with
  | done result => exact ⟨h₁, h₂⟩
  | fail error => exact ⟨h₁, h₂⟩
  | ask effect next ih =>
      intro s₁ hinv hgrow answer s₂ hperform
      obtain ⟨hkeep₁, hnext₁⟩ := h₁ s₁ hinv.1 hgrow.1 answer s₂ hperform
      obtain ⟨hkeep₂, hnext₂⟩ := h₂ s₁ hinv.2 hgrow.2 answer s₂ hperform
      exact ⟨Discipline.keeps_and hkeep₁ hkeep₂, ih answer hnext₁ hnext₂⟩

end CashMesh.Lib
