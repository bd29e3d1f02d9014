import Mathlib.Data.List.Sort
/-!
# Sorting by a key

A list sorted by a key that no two of its elements share has one order only, so that its sort depends on
the elements alone, and a list that is in that order already is its own sort.
-/

namespace CashMesh.Lib

variable {α β : Type} [LE β] [DecidableLE β] [Std.IsLinearOrder β] {key : α → β}

/-- The list in the order of the key. -/
def sortBy (key : α → β) (l : List α) : List α :=
  l.insertionSort fun a b => key a ≤ key b

omit [Std.IsLinearOrder β] in
theorem perm_sortBy (l : List α) : (sortBy key l).Perm l :=
  List.perm_insertionSort _ l

theorem pairwise_sortBy (l : List α) : (sortBy key l).Pairwise fun a b => key a ≤ key b := by
  have htotal : Std.Total fun a b : α => key a ≤ key b := ⟨fun _ _ => Std.le_total⟩
  have htrans : IsTrans α fun a b : α => key a ≤ key b := ⟨fun _ _ _ => Std.le_trans⟩
  exact List.pairwise_insertionSort _ l

omit [Std.IsLinearOrder β] in
theorem sortBy_of_pairwise {l : List α} (h : l.Pairwise fun a b => key a ≤ key b) :
    sortBy key l = l :=
  h.insertionSort_eq

theorem sortBy_sortBy (l : List α) : sortBy key (sortBy key l) = sortBy key l :=
  sortBy_of_pairwise (pairwise_sortBy l)

/-- The sort of a list whose keys are distinct does not depend on its order. -/
theorem sortBy_eq_of_perm {l l' : List α} (hperm : l.Perm l') (hdistinct : (l.map key).Nodup) :
    sortBy key l = sortBy key l' := by
  have hsame : (sortBy key l).Perm (sortBy key l') :=
    (perm_sortBy l).trans (hperm.trans (perm_sortBy l').symm)
  apply List.Perm.eq_of_pairwise ?_ (pairwise_sortBy l) (pairwise_sortBy l') hsame
  intro a b ha hb hab hba
  have ha : a ∈ l := (perm_sortBy l).mem_iff.mp ha
  have hb : b ∈ l := hperm.mem_iff.mpr ((perm_sortBy l').mem_iff.mp hb)
  exact List.inj_on_of_nodup_map hdistinct ha hb (Std.le_antisymm hab hba)

end CashMesh.Lib
