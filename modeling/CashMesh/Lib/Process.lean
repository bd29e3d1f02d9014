import Mathlib.Logic.Relation
import Mathlib.Data.List.Basic
/-!
# Interleaved processes

A process is a sequential program that asks its environment for one effect at a time: it returns,
fails, or asks an effect and goes on with the answer. Many processes run over one shared state, each
effect being one atomic step, and between two effects of a process anything else may happen.

The rule is rely and guarantee with one relation for both. A discipline is an invariant of the
shared state together with a preorder along which every step, of any process and of the world, moves
it. A process is safe when each of its effects keeps the discipline whatever state it finds, as long
as that state grew out of the one it last saw, and safety then holds of every process of every
reachable pool.
-/

namespace CashMesh.Lib

/-- A process over the effects `Effect`, answered in `Answer`: it has returned, it has failed, or it
asks for an effect and goes on with the answer. -/
inductive Process (Effect : Type) (Answer : Effect → Type) (ε α : Type) where
  | done (result : α)
  | fail (error : ε)
  | ask (effect : Effect) (next : Answer effect → Process Effect Answer ε α)

namespace Process

variable {Effect : Type} {Answer : Effect → Type} {ε α β : Type}

/-- Sequencing: a failure ends the process. -/
def bind : Process Effect Answer ε α → (α → Process Effect Answer ε β) → Process Effect Answer ε β
  | done result, rest => rest result
  | fail error, _ => fail error
  | ask effect next, rest => ask effect fun answer => (next answer).bind rest

/-- Recovery: the handler runs on the error the process failed with. -/
def handle : Process Effect Answer ε α → (ε → Process Effect Answer ε α) → Process Effect Answer ε α
  | done result, _ => done result
  | fail error, handler => handler error
  | ask effect next, handler => ask effect fun answer => (next answer).handle handler

/-- A process that returns the failure of another one, as its result. -/
def attempt {ε' : Type} : Process Effect Answer ε α → Process Effect Answer ε' (Except ε α)
  | done result => done (.ok result)
  | fail error => done (.error error)
  | ask effect next => ask effect fun answer => (next answer).attempt

instance : Monad (Process Effect Answer ε) where
  pure := done
  bind := bind

instance : MonadExcept ε (Process Effect Answer ε) where
  throw := fail
  tryCatch := handle

/-- Ask for one effect and return its answer. -/
def perform (effect : Effect) : Process Effect Answer ε (Answer effect) :=
  ask effect done

/-- Return a value or fail with an error. -/
def ofExcept : Except ε α → Process Effect Answer ε α
  | .ok result => done result
  | .error error => fail error

/-- Every effect that the process may ask for is one of `allowed`. -/
def Uses (allowed : Effect → Prop) : Process Effect Answer ε α → Prop
  | done _ => True
  | fail _ => True
  | ask effect next => allowed effect ∧ ∀ answer, (next answer).Uses allowed

theorem uses_bind {allowed : Effect → Prop} {p : Process Effect Answer ε α}
    {rest : α → Process Effect Answer ε β} (hp : p.Uses allowed)
    (hrest : ∀ a, (rest a).Uses allowed) : (p >>= rest).Uses allowed := by
  induction p with
  | done result => exact hrest result
  | fail error => trivial
  | ask effect next ih =>
      obtain ⟨heffect, hnext⟩ := hp
      exact ⟨heffect, fun answer => ih answer (hnext answer)⟩

theorem uses_attempt {ε' : Type} {allowed : Effect → Prop} {p : Process Effect Answer ε α}
    (hp : p.Uses allowed) : (p.attempt : Process Effect Answer ε' _).Uses allowed := by
  induction p with
  | done result => trivial
  | fail error => trivial
  | ask effect next ih =>
      obtain ⟨heffect, hnext⟩ := hp
      exact ⟨heffect, fun answer => ih answer (hnext answer)⟩

theorem Uses.mono {allowed allowed' : Effect → Prop} {p : Process Effect Answer ε α}
    (hallowed : ∀ effect, allowed effect → allowed' effect) (hp : p.Uses allowed) :
    p.Uses allowed' := by
  induction p with
  | done result => trivial
  | fail error => trivial
  | ask effect next ih =>
      obtain ⟨heffect, hnext⟩ := hp
      exact ⟨hallowed effect heffect, fun answer => ih answer (hnext answer)⟩

/-- A run over an environment that answers in one way, to the outcome and the environment it leaves. -/
def runWith {T : Type} (respond : (effect : Effect) → T → Answer effect × T) :
    Process Effect Answer ε α → T → Except ε α × T
  | done result, t => (.ok result, t)
  | fail error, t => (.error error, t)
  | ask effect next, t =>
      (next (respond effect t).1).runWith respond (respond effect t).2

theorem uses_ofExcept {allowed : Effect → Prop} (result : Except ε α) :
    (ofExcept result : Process Effect Answer ε α).Uses allowed := by
  cases result <;> trivial

end Process

/-! ### The discipline of a shared state -/

/-- An invariant of the shared state and a preorder along which every step moves it. -/
structure Discipline (S : Type) where
  inv : S → Prop
  grows : S → S → Prop
  refl : ∀ s, grows s s
  trans : ∀ {s₁ s₂ s₃}, grows s₁ s₂ → grows s₂ s₃ → grows s₁ s₃

namespace Discipline

variable {S : Type}

/-- The step from `s` to `s'` keeps the invariant and moves along the preorder. -/
def Keeps (D : Discipline S) (s s' : S) : Prop :=
  D.inv s' ∧ D.grows s s'

/-- A fact about the shared state that no step undoes. -/
def Stable {α : Type} (D : Discipline S) (Q : α → S → Prop) : Prop :=
  ∀ a s s', Q a s → D.grows s s' → Q a s'

theorem keeps_self (D : Discipline S) {s : S} (hinv : D.inv s) : D.Keeps s s :=
  ⟨hinv, D.refl s⟩

end Discipline

/-! ### Safe processes -/

section Safety

variable {Effect S : Type} {Answer : Effect → Type} {ε α β : Type}
variable (performs : (effect : Effect) → S → Answer effect → S → Prop) (D : Discipline S)

/-- From `s` on, every effect of the process keeps the discipline in any state that grew out of the
one it last saw, the result it returns satisfies `Q`, and the error it fails with satisfies `F`. -/
def Safe (Q : α → S → Prop) (F : ε → S → Prop) : Process Effect Answer ε α → S → Prop
  | .done result, s => Q result s
  | .fail error, s => F error s
  | .ask effect next, s => ∀ s₁, D.inv s₁ → D.grows s s₁ →
      ∀ answer s₂, performs effect s₁ answer s₂ →
        D.Keeps s₁ s₂ ∧ Safe Q F (next answer) s₂

variable {performs D} {Q : α → S → Prop} {F : ε → S → Prop}

theorem safe_bind {p : Process Effect Answer ε α} {rest : α → Process Effect Answer ε β}
    {Q : β → S → Prop} {s : S}
    (hp : Safe performs D (fun a s' => Safe performs D Q F (rest a) s') F p s) :
    Safe performs D Q F (p >>= rest) s := by
  induction p generalizing s with
  | done result => exact hp
  | fail error => exact hp
  | ask effect next ih =>
      intro s₁ hinv hgrow answer s₂ hperform
      obtain ⟨hkeep, hnext⟩ := hp s₁ hinv hgrow answer s₂ hperform
      exact ⟨hkeep, ih answer hnext⟩

theorem safe_ofExcept_bind {result : Except ε α} {rest : α → Process Effect Answer ε β}
    {Q : β → S → Prop} {s : S} (hok : ∀ a, result = .ok a → Safe performs D Q F (rest a) s)
    (herror : ∀ e, result = .error e → F e s) :
    Safe performs D Q F (.ofExcept result >>= rest) s := by
  cases result with
  | ok a => exact hok a rfl
  | error error => exact herror error rfl

theorem safe_attempt {ε' : Type} {p : Process Effect Answer ε α} {F' : ε' → S → Prop} {s : S}
    {Q' : Except ε α → S → Prop}
    (hp : Safe performs D (fun a => Q' (.ok a)) (fun e => Q' (.error e)) p s) :
    Safe performs D Q' F' p.attempt s := by
  induction p generalizing s with
  | done result => exact hp
  | fail error => exact hp
  | ask effect next ih =>
      intro s₁ hinv hgrow answer s₂ hperform
      obtain ⟨hkeep, hnext⟩ := hp s₁ hinv hgrow answer s₂ hperform
      exact ⟨hkeep, ih answer hnext⟩

theorem safe_mono {Q' : α → S → Prop} {F' : ε → S → Prop} {p : Process Effect Answer ε α} {s : S}
    (hQ : ∀ a s', Q a s' → Q' a s') (hF : ∀ e s', F e s' → F' e s')
    (hp : Safe performs D Q F p s) : Safe performs D Q' F' p s := by
  induction p generalizing s with
  | done result => exact hQ _ _ hp
  | fail error => exact hF _ _ hp
  | ask effect next ih =>
      intro s₁ hinv hgrow answer s₂ hperform
      obtain ⟨hkeep, hnext⟩ := hp s₁ hinv hgrow answer s₂ hperform
      exact ⟨hkeep, ih answer hnext⟩

/-- What a safe process ends in has grown out of the state it began in. -/
theorem Safe.and_grows {p : Process Effect Answer ε α} {s : S} (hp : Safe performs D Q F p s) :
    Safe performs D (fun a s' => Q a s' ∧ D.grows s s') (fun e s' => F e s' ∧ D.grows s s') p s := by
  have hfrom : ∀ s₀, D.grows s₀ s →
      Safe performs D (fun a s' => Q a s' ∧ D.grows s₀ s') (fun e s' => F e s' ∧ D.grows s₀ s')
        p s := by
    intro s₀ hgrow₀
    induction p generalizing s with
    | done result => exact ⟨hp, hgrow₀⟩
    | fail error => exact ⟨hp, hgrow₀⟩
    | ask effect next ih =>
        intro s₁ hinv hgrow answer s₂ hperform
        obtain ⟨hkeep, hnext⟩ := hp s₁ hinv hgrow answer s₂ hperform
        exact ⟨hkeep, ih answer hnext (D.trans (D.trans hgrow₀ hgrow) hkeep.2)⟩
  exact hfrom s (D.refl s)

theorem Safe.grows {p : Process Effect Answer ε α} {s s' : S} (hQ : D.Stable Q) (hF : D.Stable F)
    (hp : Safe performs D Q F p s) (hgrow : D.grows s s') : Safe performs D Q F p s' := by
  cases p with
  | done result => exact hQ _ _ _ hp hgrow
  | fail error => exact hF _ _ _ hp hgrow
  | ask effect next =>
      intro s₁ hinv hgrow'
      exact hp s₁ hinv (D.trans hgrow hgrow')

/-- Effects that keep the discipline in every state can be asked for anywhere. -/
theorem safe_of_uses {allowed : Effect → Prop} {p : Process Effect Answer ε α} {s : S}
    (hkeeps : ∀ effect s₁ answer s₂, allowed effect → D.inv s₁ → performs effect s₁ answer s₂ →
      D.Keeps s₁ s₂)
    (hp : p.Uses allowed) :
    Safe performs D (fun _ s' => D.grows s s') (fun _ s' => D.grows s s') p s := by
  have hfrom : ∀ s₀, D.grows s₀ s →
      Safe performs D (fun _ s' => D.grows s₀ s') (fun _ s' => D.grows s₀ s') p s := by
    intro s₀ hgrow₀
    induction p generalizing s with
    | done result => exact hgrow₀
    | fail error => exact hgrow₀
    | ask effect next ih =>
        intro s₁ hinv hgrow answer s₂ hperform
        have hkeep := hkeeps effect s₁ answer s₂ hp.1 hinv hperform
        exact ⟨hkeep, ih answer (hp.2 answer) (D.trans (D.trans hgrow₀ hgrow) hkeep.2)⟩
  exact hfrom s (D.refl s)

end Safety

/-! ### Pools -/

/-- The shared state and the processes that run over it. A process that has returned or failed stays
in the pool with its outcome. -/
structure Pool (S P : Type) where
  shared : S
  running : List P

namespace Pool

variable {Effect S : Type} {Answer : Effect → Type} {ε α : Type}

/-- One step of a pool: a process starts, one process performs its next effect, the world moves the
shared state by itself, or some processes are lost. -/
inductive Step (performs : (effect : Effect) → S → Answer effect → S → Prop) (world : S → S → Prop)
    (Starts : Process Effect Answer ε α → Prop) :
    Pool S (Process Effect Answer ε α) → Pool S (Process Effect Answer ε α) → Prop
  | start {s ps p} (hstart : Starts p) : Step performs world Starts ⟨s, ps⟩ ⟨s, p :: ps⟩
  | effect {s s' before after effect next answer} (hperform : performs effect s answer s') :
      Step performs world Starts ⟨s, before ++ .ask effect next :: after⟩
        ⟨s', before ++ next answer :: after⟩
  | world {s s' ps} (hworld : world s s') : Step performs world Starts ⟨s, ps⟩ ⟨s', ps⟩
  | lose {s ps ps'} (hlost : ps'.Sublist ps) : Step performs world Starts ⟨s, ps⟩ ⟨s, ps'⟩

variable {performs : (effect : Effect) → S → Answer effect → S → Prop} {world : S → S → Prop}
variable {Starts : Process Effect Answer ε α → Prop}
variable {D : Discipline S} {Q : α → S → Prop} {F : ε → S → Prop}

/-- The shared state keeps the invariant and every process of the pool is safe. -/
structure Sound (performs : (effect : Effect) → S → Answer effect → S → Prop) (D : Discipline S)
    (Q : α → S → Prop) (F : ε → S → Prop) (c : Pool S (Process Effect Answer ε α)) : Prop where
  inv : D.inv c.shared
  safe : ∀ p ∈ c.running, Safe performs D Q F p c.shared

theorem sound_of_safe_tail {s s' : S} {ps : List (Process Effect Answer ε α)}
    (hQ : D.Stable Q) (hF : D.Stable F) (hsound : Sound performs D Q F ⟨s, ps⟩)
    (hkeep : D.Keeps s s') : Sound performs D Q F ⟨s', ps⟩ :=
  ⟨hkeep.1, fun p hp => (hsound.safe p hp).grows hQ hF hkeep.2⟩

/-- A step of a sound pool keeps it sound and moves the shared state along the preorder. -/
theorem Step.sound {c c' : Pool S (Process Effect Answer ε α)}
    (hQ : D.Stable Q) (hF : D.Stable F)
    (hstarts : ∀ p s, Starts p → D.inv s → Safe performs D Q F p s)
    (hworld : ∀ s s', D.inv s → world s s' → D.Keeps s s')
    (hsound : Sound performs D Q F c) (hstep : Step performs world Starts c c') :
    Sound performs D Q F c' ∧ D.grows c.shared c'.shared := by
  cases hstep with
  | @start s ps p hstart =>
      refine ⟨⟨hsound.inv, ?_⟩, D.refl _⟩
      intro q hq
      rcases List.mem_cons.mp hq with rfl | hq
      · exact hstarts q s hstart hsound.inv
      · exact hsound.safe q hq
  | @effect s s' before after effect next answer hperform =>
      have hask : Safe performs D Q F (.ask effect next) s := hsound.safe _ (by simp)
      obtain ⟨hkeep, hnext⟩ := hask s hsound.inv (D.refl s) answer s' hperform
      refine ⟨⟨hkeep.1, ?_⟩, hkeep.2⟩
      intro q hq
      rcases List.mem_append.mp hq with hq | hq
      · exact (hsound.safe q (by simp [hq])).grows hQ hF hkeep.2
      rcases List.mem_cons.mp hq with rfl | hq
      · exact hnext
      · exact (hsound.safe q (by simp [hq])).grows hQ hF hkeep.2
  | world hmove =>
      have hkeep := hworld _ _ hsound.inv hmove
      exact ⟨sound_of_safe_tail hQ hF hsound hkeep, hkeep.2⟩
  | lose hlost =>
      exact ⟨⟨hsound.inv, fun p hp => hsound.safe p (hlost.subset hp)⟩, D.refl _⟩

/-- Soundness along a whole run. -/
theorem sound_of_run {c c' : Pool S (Process Effect Answer ε α)}
    (hQ : D.Stable Q) (hF : D.Stable F)
    (hstarts : ∀ p s, Starts p → D.inv s → Safe performs D Q F p s)
    (hworld : ∀ s s', D.inv s → world s s' → D.Keeps s s')
    (hsound : Sound performs D Q F c)
    (hrun : Relation.ReflTransGen (Step performs world Starts) c c') :
    Sound performs D Q F c' ∧ D.grows c.shared c'.shared := by
  induction hrun with
  | refl => exact ⟨hsound, D.refl _⟩
  | tail _ hstep ih =>
      obtain ⟨hsound', hgrow⟩ := ih
      obtain ⟨hsound'', hgrow'⟩ := hstep.sound hQ hF hstarts hworld hsound'
      exact ⟨hsound'', D.trans hgrow hgrow'⟩

/-- While the others wait, a process comes to what it does over an environment whose answers are
possible. -/
theorem run_of_runWith {T : Type} {shared : T → S}
    {respond : (effect : Effect) → T → Answer effect × T}
    (hrespond : ∀ effect t,
      performs effect (shared t) (respond effect t).1 (shared (respond effect t).2))
    (p : Process Effect Answer ε α) (t : T) (ps : List (Process Effect Answer ε α)) :
    Relation.ReflTransGen (Step performs world Starts) ⟨shared t, p :: ps⟩
      ⟨shared (p.runWith respond t).2, .ofExcept (p.runWith respond t).1 :: ps⟩ := by
  induction p generalizing t with
  | done result => exact .refl
  | fail error => exact .refl
  | ask effect next ih =>
      refine .head ?_ (ih (respond effect t).1 (respond effect t).2)
      exact @Step.effect _ _ _ _ _ _ _ _ _ _ [] ps effect next _ (hrespond effect t)

end Pool

end CashMesh.Lib
