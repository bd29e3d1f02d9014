import Mathlib.Data.List.Chain
/-!
# Fenced attempts

A job is attempted again and again, by one holder at a time. An attempt is claimed at some time, and
says when the next one may be claimed: at a time, or never. A history is fenced when its attempts are
numbered without gaps and each was claimed no earlier than the attempt before it allows.

A history grows by a claim at its end, and what is known of its last attempt may still change, as long
as the number and the time of its claim do not.
-/

namespace CashMesh.Lib

/-- How the attempts of a job tell when they were claimed and when the next one may be. -/
structure Fencing (Attempt : Type) where
  number : Attempt → Nat
  claimedAt : Attempt → Nat
  /-- When the next attempt may be claimed, none when it never may. -/
  claimableAt : Attempt → Option Nat

namespace Fencing

variable {Attempt : Type} (fencing : Fencing Attempt)

/-- When the next attempt after a history may be claimed. -/
def eligibleAt (initial : Nat) (attempts : List Attempt) : Option Nat :=
  match attempts.getLast? with
  | none => some initial
  | some last => fencing.claimableAt last

/-- The attempt after `previous` is claimed no earlier than `previous` allows. -/
def Follows (previous next : Attempt) : Prop :=
  ∃ time ∈ fencing.claimableAt previous, time ≤ fencing.claimedAt next

/-- The attempts of a job that becomes due at `initial`, in order. -/
structure History (initial : Nat) (attempts : List Attempt) : Prop where
  numbers : attempts.map fencing.number = List.range' 1 attempts.length
  first : ∀ attempt ∈ attempts.head?, initial ≤ fencing.claimedAt attempt
  later : attempts.IsChain fencing.Follows

namespace History

variable {fencing} {initial : Nat} {attempts : List Attempt} {attempt attempt' : Attempt}

theorem nil : fencing.History initial [] where
  numbers := rfl
  first := by simp
  later := List.isChain_nil

/-- A claim that is eligible continues the history. -/
theorem claim (h : fencing.History initial attempts) {time : Nat}
    (heligible : fencing.eligibleAt initial attempts = some time)
    (hclaimed : time ≤ fencing.claimedAt attempt)
    (hnumber : fencing.number attempt = attempts.length + 1) :
    fencing.History initial (attempts ++ [attempt]) where
  numbers := by
    rw [List.map_append, List.map_singleton, h.numbers, hnumber, List.length_append,
      List.length_singleton, List.range'_concat, Nat.one_mul, Nat.add_comm 1]
  first := by
    cases attempts with
    | nil =>
        cases heligible
        simpa using hclaimed
    | cons first rest => simpa using h.first
  later := by
    rw [List.isChain_append]
    refine ⟨h.later, List.isChain_singleton _, ?_⟩
    intro last hlast next hnext
    rw [Option.mem_def] at hlast
    rw [List.head?_cons, Option.mem_some_iff] at hnext
    subst hnext
    rw [eligibleAt, hlast] at heligible
    exact ⟨time, heligible, hclaimed⟩

/-- The last attempt may change as long as its claim does not. -/
theorem replaceLast (h : fencing.History initial (attempts ++ [attempt]))
    (hnumber : fencing.number attempt' = fencing.number attempt)
    (hclaimed : fencing.claimedAt attempt' = fencing.claimedAt attempt) :
    fencing.History initial (attempts ++ [attempt']) where
  numbers := by
    have hnumbers := h.numbers
    rw [List.map_append, List.map_singleton, List.length_append, List.length_singleton]
      at hnumbers ⊢
    rwa [hnumber]
  first := by
    have hfirst := h.first
    cases attempts with
    | nil => simpa [hclaimed] using hfirst
    | cons first rest => simpa using hfirst
  later := by
    obtain ⟨hbefore, -, hlast⟩ := List.isChain_append.mp h.later
    rw [List.isChain_append]
    refine ⟨hbefore, List.isChain_singleton _, ?_⟩
    intro last hmem next hnext
    rw [List.head?_cons, Option.mem_some_iff] at hnext
    subst hnext
    obtain ⟨time, htime, hle⟩ := hlast last hmem attempt (by simp)
    exact ⟨time, htime, hclaimed ▸ hle⟩

theorem number_last (h : fencing.History initial (attempts ++ [attempt])) :
    fencing.number attempt = attempts.length + 1 := by
  have hnumbers := h.numbers
  rw [List.map_append, List.map_singleton, List.length_append, List.length_singleton,
    List.range'_concat, Nat.one_mul] at hnumbers
  have hlast := (List.append_inj' hnumbers rfl).2
  rw [List.singleton_inj] at hlast
  omega

theorem claimable_of_mem (h : fencing.History initial (attempts ++ [attempt']))
    (hmem : attempt ∈ attempts) : (fencing.claimableAt attempt).isSome := by
  obtain ⟨before, after, rfl⟩ := List.append_of_mem hmem
  have hlater := h.later
  rw [List.append_assoc, List.cons_append] at hlater
  have hrest := (List.isChain_append.mp hlater).2.1
  obtain ⟨hnext, -⟩ := List.isChain_cons.mp hrest
  cases hhead : (after ++ [attempt']).head? with
  | none => simp at hhead
  | some next =>
      obtain ⟨time, htime, -⟩ := hnext next hhead
      rw [Option.mem_def] at htime
      rw [htime]
      rfl

end History

end Fencing

end CashMesh.Lib
