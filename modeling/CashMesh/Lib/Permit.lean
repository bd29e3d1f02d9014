import CashMesh.Lib.Process
import Mathlib.Algebra.Order.BigOperators.Group.List
import Mathlib.Algebra.Order.Ring.Nat
/-!
# Permits

Some effects may be performed only so often. Answers grant permits and effects spend them, and a
process is thrifty when it spends no permit that it has not been granted, however its effects are
answered. A permit belongs to the process that got the answer, so that no other process has to know
of it.

Over a pool of thrifty processes no more permits are spent than were granted, in any interleaving and
whichever processes are lost with the permits that they hold.
-/

namespace CashMesh.Lib

/-- How many permits the effects spend and their answers grant. -/
structure Permits (Effect : Type) (Answer : Effect → Type) where
  spends : Effect → Nat
  grants : (effect : Effect) → Answer effect → Nat

variable {Effect S : Type} {Answer : Effect → Type} {ε α β : Type}

/-- With the permits it holds the process can pay for each of its effects, and it returns with what
`Q` asks for. -/
def Thrifty (permits : Permits Effect Answer) (Q : α → Nat → Prop) :
    Process Effect Answer ε α → Nat → Prop
  | .done result, held => Q result held
  | .fail _, _ => True
  | .ask effect next, held => permits.spends effect ≤ held ∧
      ∀ answer, Thrifty permits Q (next answer)
        (held - permits.spends effect + permits.grants effect answer)

variable {permits : Permits Effect Answer}

theorem thrifty_bind {p : Process Effect Answer ε α} {rest : α → Process Effect Answer ε β}
    {Q : β → Nat → Prop} {held : Nat}
    (hp : Thrifty permits (fun a held => Thrifty permits Q (rest a) held) p held) :
    Thrifty permits Q (p >>= rest) held := by
  induction p generalizing held with
  | done result => exact hp
  | fail error => trivial
  | ask effect next ih =>
      obtain ⟨hspends, hnext⟩ := hp
      exact ⟨hspends, fun answer => ih answer (hnext answer)⟩

theorem thrifty_ofExcept_bind {result : Except ε α} {rest : α → Process Effect Answer ε β}
    {Q : β → Nat → Prop} {held : Nat}
    (hrest : ∀ a, result = .ok a → Thrifty permits Q (rest a) held) :
    Thrifty permits Q (Process.ofExcept result >>= rest) held := by
  cases result with
  | ok a => exact hrest a rfl
  | error error => trivial

/-- What a process returns instead of failing it may hold nothing for. -/
theorem thrifty_attempt {ε' : Type} {p : Process Effect Answer ε α}
    {Q : Except ε α → Nat → Prop} {held : Nat}
    (hp : Thrifty permits (fun a held' => Q (.ok a) held') p held)
    (hfail : ∀ error held', Q (.error error) held') :
    Thrifty permits Q (p.attempt : Process Effect Answer ε' _) held := by
  induction p generalizing held with
  | done result => exact hp
  | fail error => exact hfail error held
  | ask effect next ih =>
      obtain ⟨hspends, hnext⟩ := hp
      exact ⟨hspends, fun answer => ih answer (hnext answer)⟩

theorem thrifty_of_uses {p : Process Effect Answer ε α} {held : Nat}
    (hp : p.Uses fun effect => permits.spends effect = 0) :
    Thrifty permits (fun _ held' => held ≤ held') p held := by
  have hfrom : ∀ held₀, held₀ ≤ held → Thrifty permits (fun _ held' => held₀ ≤ held') p held := by
    intro held₀ hle
    induction p generalizing held with
    | done result => exact hle
    | fail error => trivial
    | ask effect next ih =>
        have hfree : permits.spends effect = 0 := hp.1
        exact ⟨by omega, fun answer => ih answer (hp.2 answer) (by omega)⟩
  exact hfrom held (Nat.le_refl held)

theorem thrifty_mono {p : Process Effect Answer ε α} {Q Q' : α → Nat → Prop} {held : Nat}
    (hQ : ∀ a held', Q a held' → Q' a held') (hp : Thrifty permits Q p held) :
    Thrifty permits Q' p held := by
  induction p generalizing held with
  | done result => exact hQ _ _ hp
  | fail error => trivial
  | ask effect next ih =>
      obtain ⟨hspends, hnext⟩ := hp
      exact ⟨hspends, fun answer => ih answer (hnext answer)⟩

/-- How the permits that a shared state counts move with its steps. -/
structure Accounts (permits : Permits Effect Answer)
    (performs : (effect : Effect) → S → Answer effect → S → Prop) (world : S → S → Prop)
    (spent granted : S → Nat) : Prop where
  effect : ∀ {effect s answer s'}, performs effect s answer s' →
    spent s' = spent s + permits.spends effect ∧
      granted s + permits.grants effect answer ≤ granted s'
  world : ∀ {s s'}, world s s' → spent s' = spent s ∧ granted s ≤ granted s'

namespace Pool

variable {performs : (effect : Effect) → S → Answer effect → S → Prop} {world : S → S → Prop}
variable {Starts : Process Effect Answer ε α → Prop} {spent granted : S → Nat}

/-- The processes hold permits with which they are thrifty, and what is spent and what they hold has
been granted. -/
def Balanced (permits : Permits Effect Answer) (spent granted : S → Nat)
    (c : Pool S (Process Effect Answer ε α)) : Prop :=
  ∃ held : List (Process Effect Answer ε α × Nat), held.map Prod.fst = c.running ∧
    (∀ p ∈ held, Thrifty permits (fun _ _ => True) p.1 p.2) ∧
      spent c.shared + (held.map Prod.snd).sum ≤ granted c.shared

theorem Balanced.spent_le {c : Pool S (Process Effect Answer ε α)}
    (h : c.Balanced permits spent granted) : spent c.shared ≤ granted c.shared := by
  obtain ⟨held, -, -, hsum⟩ := h
  omega

theorem Step.balanced {c c' : Pool S (Process Effect Answer ε α)}
    (haccounts : Accounts permits performs world spent granted)
    (hstarts : ∀ p, Starts p → Thrifty permits (fun _ _ => True) p 0)
    (h : c.Balanced permits spent granted) (hstep : Step performs world Starts c c') :
    c'.Balanced permits spent granted := by
  obtain ⟨held, hrunning, hthrifty, hsum⟩ := h
  cases hstep with
  | @start s ps p hstart =>
      refine ⟨(p, 0) :: held, congrArg (p :: ·) hrunning, ?_, ?_⟩
      · intro q hq
        rcases List.mem_cons.mp hq with rfl | hq
        · exact hstarts p hstart
        · exact hthrifty q hq
      · simpa using hsum
  | @effect s s' before after effect next answer hperform =>
      obtain ⟨heldBefore, rest, rfl, rfl, hrest⟩ := List.map_eq_append_iff.mp hrunning
      obtain ⟨⟨p, n⟩, heldAfter, rfl, hp, rfl⟩ := List.map_eq_cons_iff.mp hrest
      obtain rfl : p = .ask effect next := hp
      obtain ⟨hspent, hgranted⟩ := haccounts.effect hperform
      obtain ⟨hspends, hnext⟩ := hthrifty (.ask effect next, n) (by simp)
      refine ⟨heldBefore ++
        (next answer, n - permits.spends effect + permits.grants effect answer) :: heldAfter,
        by simp, ?_, ?_⟩
      · intro q hq
        rcases List.mem_append.mp hq with hq | hq
        · exact hthrifty q (by simp [hq])
        rcases List.mem_cons.mp hq with rfl | hq
        · exact hnext answer
        · exact hthrifty q (by simp [hq])
      · simp only [List.map_append, List.map_cons, List.sum_append, List.sum_cons] at hsum ⊢
        omega
  | world hworld =>
      obtain ⟨hspent, hgranted⟩ := haccounts.world hworld
      refine ⟨held, hrunning, hthrifty, ?_⟩
      dsimp only at hsum ⊢
      omega
  | lose hlost =>
      obtain rfl : held.map Prod.fst = _ := hrunning
      obtain ⟨kept, hkept, rfl⟩ := List.sublist_map_iff.mp hlost
      refine ⟨kept, rfl, fun q hq => hthrifty q (hkept.subset hq), ?_⟩
      have hle : (kept.map Prod.snd).sum ≤ (held.map Prod.snd).sum :=
        (hkept.map Prod.snd).sum_le_sum (by simp)
      exact Nat.le_trans (Nat.add_le_add_left hle _) hsum

/-- No run spends more than it has been granted. -/
theorem balanced_of_run {c c' : Pool S (Process Effect Answer ε α)}
    (haccounts : Accounts permits performs world spent granted)
    (hstarts : ∀ p, Starts p → Thrifty permits (fun _ _ => True) p 0)
    (h : c.Balanced permits spent granted)
    (hrun : Relation.ReflTransGen (Step performs world Starts) c c') :
    c'.Balanced permits spent granted := by
  induction hrun with
  | refl => exact h
  | tail _ hstep ih => exact hstep.balanced haccounts hstarts ih

end Pool

end CashMesh.Lib
