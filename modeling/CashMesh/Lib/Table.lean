import Mathlib.Data.List.Sort
/-!
# Tables with unique keys

A table is a list of rows in the order of their insertion, no two of which share a unique key. The
keys of a row type are given by the relation that says when two rows collide; a null in a key is the
relation's business, since two null keys do not collide.

A query filters the rows, `orderBy` sorts them by a number, and `latest` is the first row of the
descending order. Rows that arrive in ascending order are never moved by the sort.
-/

namespace CashMesh.Lib

/-- When two rows of a table share the value of a unique key. -/
class UniqueKeys (Row : Type) where
  Collide : Row → Row → Prop
  decidableCollide : DecidableRel Collide
  symm : ∀ {row row'}, Collide row row' → Collide row' row

export UniqueKeys (Collide)

instance {Row : Type} [UniqueKeys Row] : DecidableRel (@Collide Row _) :=
  UniqueKeys.decidableCollide

/-- Rows in the order of their insertion, no two of which collide. -/
structure Table (Row : Type) [UniqueKeys Row] where
  rows : List Row
  unique : rows.Pairwise fun row row' => ¬Collide row row'

namespace Table

variable {Row : Type} [UniqueKeys Row]

instance [DecidableEq Row] : DecidableEq (Table Row) := fun t t' =>
  decidable_of_iff (t.rows = t'.rows) <| by
    cases t
    cases t'
    simp

/-- The table without rows. -/
def empty : Table Row :=
  ⟨[], List.Pairwise.nil⟩

instance : EmptyCollection (Table Row) :=
  ⟨empty⟩

instance : Membership Row (Table Row) :=
  ⟨fun t row => row ∈ t.rows⟩

instance [DecidableEq Row] (row : Row) (t : Table Row) : Decidable (row ∈ t) :=
  inferInstanceAs (Decidable (row ∈ t.rows))

theorem mem_def {row : Row} {t : Table Row} : row ∈ t ↔ row ∈ t.rows :=
  Iff.rfl

@[simp] theorem not_mem_empty {row : Row} : row ∉ (∅ : Table Row) :=
  List.not_mem_nil

instance (t : Table Row) (p : Row → Prop) [DecidablePred p] : Decidable (∃ row ∈ t, p row) :=
  inferInstanceAs (Decidable (∃ row ∈ t.rows, p row))

instance (t : Table Row) (p : Row → Prop) [DecidablePred p] : Decidable (∀ row ∈ t, p row) :=
  inferInstanceAs (Decidable (∀ row ∈ t.rows, p row))

@[ext] theorem ext {t t' : Table Row} (h : t.rows = t'.rows) : t = t' := by
  cases t
  cases t'
  simp_all

/-- The rows of a table that a query selects, in the order of their insertion. -/
def select (t : Table Row) (p : Row → Prop) [DecidablePred p] : List Row :=
  t.rows.filter p

/-- The row a query on a unique key finds. -/
def find (t : Table Row) (p : Row → Prop) [DecidablePred p] : Option Row :=
  (t.select p).head?

/-- The table with one more row, unless the row collides with one of the table. -/
def insert (t : Table Row) (row : Row) : Option (Table Row) :=
  if h : ∀ old ∈ t.rows, ¬Collide old row then
    some ⟨t.rows ++ [row], by
      rw [List.pairwise_append]
      refine ⟨t.unique, List.pairwise_singleton _ _, ?_⟩
      simpa using h⟩
  else
    none

/-- The table without the rows that satisfy `p`. -/
def delete (t : Table Row) (p : Row → Prop) [DecidablePred p] : Table Row :=
  ⟨t.rows.filter fun row => ¬p row, t.unique.filter _⟩

/-- The table with every row that satisfies `p` replaced, unless that makes two rows collide. -/
def update (t : Table Row) (p : Row → Prop) [DecidablePred p] (change : Row → Row) :
    Option (Table Row) :=
  let rows := t.rows.map fun row => if p row then change row else row
  if h : rows.Pairwise fun row row' => ¬Collide row row' then some ⟨rows, h⟩ else none

theorem mem_select {t : Table Row} {p : Row → Prop} [DecidablePred p] {row : Row} :
    row ∈ t.select p ↔ row ∈ t ∧ p row := by
  simp [select, mem_def]

theorem find_some {t : Table Row} {p : Row → Prop} [DecidablePred p] {row : Row}
    (h : t.find p = some row) : row ∈ t ∧ p row :=
  mem_select.mp (List.mem_of_mem_head? h)

theorem find_none {t : Table Row} {p : Row → Prop} [DecidablePred p] :
    t.find p = none ↔ ∀ row ∈ t, ¬p row := by
  simp only [find, List.head?_eq_none_iff, List.eq_nil_iff_forall_not_mem, mem_select, not_and]

theorem insert_eq_some {t t' : Table Row} {row : Row} :
    t.insert row = some t' ↔ (∀ old ∈ t, ¬Collide old row) ∧ t'.rows = t.rows ++ [row] := by
  unfold insert
  split
  · case isTrue h =>
      rw [Option.some_inj]
      constructor
      · rintro rfl
        exact ⟨h, rfl⟩
      · rintro ⟨-, hrows⟩
        exact ext hrows.symm
  · case isFalse h =>
      simp only [reduceCtorEq, false_iff, not_and]
      intro hfree
      exact absurd hfree h

theorem insert_of_not_collide {t : Table Row} {row : Row} (h : ∀ old ∈ t, ¬Collide old row) :
    ∃ t', t.insert row = some t' ∧ t'.rows = t.rows ++ [row] := by
  have hrows : ∀ old ∈ t.rows, ¬Collide old row := h
  refine ⟨_, dif_pos hrows, rfl⟩

theorem update_eq_some {t t' : Table Row} {p : Row → Prop} [DecidablePred p]
    {change : Row → Row} (h : t.update p change = some t') :
    t'.rows = t.rows.map fun row => if p row then change row else row := by
  simp only [update] at h
  split at h
  · cases h
    rfl
  · cases h

@[simp] theorem rows_delete (t : Table Row) (p : Row → Prop) [DecidablePred p] :
    (t.delete p).rows = t.rows.filter fun row => ¬p row :=
  rfl

theorem mem_delete {t : Table Row} {p : Row → Prop} [DecidablePred p] {row : Row} :
    row ∈ t.delete p ↔ row ∈ t ∧ ¬p row := by
  simp [mem_def]

/-- The second table has the rows of the first one and then some more. -/
def Appends (t : Table Row) (rows : List Row) (t' : Table Row) : Prop :=
  t'.rows = t.rows ++ rows

namespace Appends

variable {t t' t'' : Table Row} {rows rows' : List Row} {p : Row → Prop} [DecidablePred p]

theorem refl (t : Table Row) : t.Appends [] t :=
  (List.append_nil _).symm

theorem trans (h : t.Appends rows t') (h' : t'.Appends rows' t'') :
    t.Appends (rows ++ rows') t'' := by
  rw [Appends] at h h' ⊢
  rw [h', h, List.append_assoc]

theorem mem (h : t.Appends rows t') {row : Row} : row ∈ t' ↔ row ∈ t ∨ row ∈ rows := by
  rw [mem_def, mem_def, show t'.rows = t.rows ++ rows from h, List.mem_append]

theorem mem_of_mem (h : t.Appends rows t') {row : Row} (hrow : row ∈ t) : row ∈ t' :=
  h.mem.mpr (.inl hrow)

theorem select (h : t.Appends rows t') : t'.select p = t.select p ++ rows.filter p := by
  rw [Table.select, Table.select, show t'.rows = t.rows ++ rows from h, List.filter_append]

theorem select_of_not (h : t.Appends rows t') (hrows : ∀ row ∈ rows, ¬p row) :
    t'.select p = t.select p := by
  have hfilter : rows.filter p = [] := List.filter_eq_nil_iff.mpr (by simpa using hrows)
  rw [h.select, hfilter, List.append_nil]

theorem find_of_not (h : t.Appends rows t') (hrows : ∀ row ∈ rows, ¬p row) :
    t'.find p = t.find p := by
  rw [find, find, h.select_of_not hrows]

theorem find_of_some (h : t.Appends rows t') {row : Row} (hfind : t.find p = some row) :
    t'.find p = some row := by
  rw [find] at hfind ⊢
  rw [h.select, List.head?_append, hfind, Option.some_or]

theorem not_collide (h : t.Appends rows t') {old row : Row} (hold : old ∈ t) (hrow : row ∈ rows) :
    ¬Collide old row := by
  have hunique := t'.unique
  rw [show t'.rows = t.rows ++ rows from h] at hunique
  exact (List.pairwise_append.mp hunique).2.2 old hold row hrow

end Appends

theorem appends_of_insert {t t' : Table Row} {row : Row} (h : t.insert row = some t') :
    t.Appends [row] t' :=
  (insert_eq_some.mp h).2

theorem select_delete_of_imp_not {t : Table Row} {p q : Row → Prop} [DecidablePred p]
    [DecidablePred q] (h : ∀ row, q row → ¬p row) : (t.delete p).select q = t.select q := by
  simp only [select, rows_delete, List.filter_filter]
  apply List.filter_congr
  intro row _
  by_cases hq : q row
  · simp [hq, h row hq]
  · simp [hq]

theorem select_delete_self {t : Table Row} {p : Row → Prop} [DecidablePred p] :
    (t.delete p).select p = [] := by
  simp [select, List.filter_filter]

theorem eq_of_collide {t : Table Row} {row row' : Row} (h : row ∈ t) (h' : row' ∈ t)
    (hcollide : Collide row row') : row = row' := by
  have hsame : ∀ a b, a ∈ t.rows → b ∈ t.rows → Collide a b → a = b := by
    have hself : ∀ a ∈ t.rows, Collide a a → a = a := fun _ _ _ => rfl
    have hpair : t.rows.Pairwise fun a b => Collide a b → a = b :=
      t.unique.imp fun hnot hcollide => absurd hcollide hnot
    have hflip : t.rows.Pairwise fun a b => Collide b a → b = a :=
      t.unique.imp fun hnot hcollide => absurd (UniqueKeys.symm hcollide) hnot
    intro a b ha hb
    exact List.Pairwise.forall_of_forall_of_flip hself hpair hflip ha hb
  exact hsame row row' h h' hcollide

/-- A query on a unique key finds the row that satisfies it. -/
theorem find_of_mem {t : Table Row} {p : Row → Prop} [DecidablePred p] {row : Row} (h : row ∈ t)
    (hrow : p row) (hkey : ∀ other, p other → Collide other row) : t.find p = some row := by
  cases hfind : t.find p with
  | none => exact absurd hrow (find_none.mp hfind row h)
  | some other =>
      obtain ⟨hother, hp⟩ := find_some hfind
      rw [eq_of_collide hother h (hkey other hp)]

theorem select_eq_singleton {t : Table Row} {p : Row → Prop} [DecidablePred p] {row : Row}
    (h : row ∈ t) (hrow : p row) (hkey : ∀ other, p other → Collide other row) :
    t.select p = [row] := by
  have hall : ∀ other ∈ t.select p, other = row := by
    intro other hother
    obtain ⟨hmem, hp⟩ := mem_select.mp hother
    exact eq_of_collide hmem h (hkey other hp)
  have hdistinct : (t.select p).Pairwise fun a b => ¬Collide a b := t.unique.filter _
  have hmem : row ∈ t.select p := mem_select.mpr ⟨h, hrow⟩
  cases hrows : t.select p with
  | nil => simp [hrows] at hmem
  | cons first rest =>
      rw [hrows] at hall hdistinct
      obtain rfl : first = row := hall first List.mem_cons_self
      cases rest with
      | nil => rfl
      | cons second rest =>
          obtain rfl : second = first := hall second (by simp)
          exact absurd (hkey second hrow) ((List.pairwise_cons.mp hdistinct).1 second List.mem_cons_self)

end Table

/-! ### Ordered queries -/

section Order

variable {Row : Type} {key : Row → Nat}

/-- The rows in ascending order of a number. -/
def orderBy (key : Row → Nat) (rows : List Row) : List Row :=
  rows.insertionSort fun row row' => key row ≤ key row'

/-- The last row in ascending order of a number. -/
def latest (key : Row → Nat) (rows : List Row) : Option Row :=
  (orderBy key rows).getLast?

theorem mem_orderBy {rows : List Row} {row : Row} : row ∈ orderBy key rows ↔ row ∈ rows :=
  (List.perm_insertionSort _ rows).mem_iff

theorem length_orderBy {rows : List Row} : (orderBy key rows).length = rows.length :=
  (List.perm_insertionSort _ rows).length_eq

theorem pairwise_orderBy (rows : List Row) :
    (orderBy key rows).Pairwise fun row row' => key row ≤ key row' :=
  have : Std.Total fun row row' : Row => key row ≤ key row' := ⟨fun _ _ => Nat.le_total _ _⟩
  have : IsTrans Row fun row row' => key row ≤ key row' := ⟨fun _ _ _ => Nat.le_trans⟩
  List.pairwise_insertionSort _ rows

theorem orderBy_of_pairwise {rows : List Row}
    (h : rows.Pairwise fun row row' => key row ≤ key row') : orderBy key rows = rows :=
  List.Pairwise.insertionSort_eq h

/-- The rows of a query do not collide, in whatever order they are given. -/
theorem pairwise_orderBy_select [UniqueKeys Row] (t : Table Row) (p : Row → Prop)
    [DecidablePred p] : (orderBy key (t.select p)).Pairwise fun row row' => ¬Collide row row' := by
  have hsymm : ∀ {row row' : Row}, ¬Collide row row' → ¬Collide row' row :=
    fun hnot hcollide => hnot (UniqueKeys.symm hcollide)
  exact ((List.perm_insertionSort _ _).pairwise_iff hsymm).mpr (t.unique.filter _)

theorem orderedInsert_append_of_le {rows : List Row} {row last : Row} (h : key row ≤ key last) :
    (rows ++ [last]).orderedInsert (fun a b => key a ≤ key b) row =
      rows.orderedInsert (fun a b => key a ≤ key b) row ++ [last] := by
  induction rows with
  | nil => simp [h]
  | cons first rest ih =>
      by_cases hfirst : key row ≤ key first
      · simp [hfirst]
      · simp [hfirst, ih]

theorem orderBy_append_of_le {rows : List Row} {last : Row}
    (h : ∀ row ∈ rows, key row ≤ key last) :
    orderBy key (rows ++ [last]) = orderBy key rows ++ [last] := by
  induction rows with
  | nil => rfl
  | cons first rest ih =>
      have hrest : orderBy key (rest ++ [last]) = orderBy key rest ++ [last] :=
        ih fun row hrow => h row (List.mem_cons_of_mem _ hrow)
      have hfirst : key first ≤ key last := h first List.mem_cons_self
      simp only [orderBy, List.cons_append, List.insertionSort_cons] at hrest ⊢
      rw [hrest, orderedInsert_append_of_le hfirst]

@[simp] theorem latest_eq_none {rows : List Row} : latest key rows = none ↔ rows = [] := by
  rw [latest, List.getLast?_eq_none_iff, ← List.length_eq_zero_iff, length_orderBy,
    List.length_eq_zero_iff]

theorem mem_of_latest {rows : List Row} {last : Row} (h : latest key rows = some last) :
    last ∈ rows :=
  mem_orderBy.mp (List.mem_of_getLast? h)

theorem le_latest {rows : List Row} {row last : Row} (h : latest key rows = some last)
    (hrow : row ∈ rows) : key row ≤ key last := by
  obtain ⟨before, hbefore⟩ := List.getLast?_eq_some_iff.mp h
  have hsorted : (before ++ [last]).Pairwise fun a b => key a ≤ key b :=
    hbefore ▸ pairwise_orderBy rows
  have hmem : row ∈ before ++ [last] := by
    rw [← hbefore]
    exact mem_orderBy.mpr hrow
  rcases List.mem_append.mp hmem with hmem | hmem
  · exact (List.pairwise_append.mp hsorted).2.2 row hmem last (by simp)
  · rw [List.mem_singleton.mp hmem]

variable (key) in
theorem exists_latest_of_mem {rows : List Row} {row : Row} (h : row ∈ rows) :
    ∃ last, latest key rows = some last := by
  cases hlatest : latest key rows with
  | some last => exact ⟨last, rfl⟩
  | none =>
      rw [latest_eq_none.mp hlatest] at h
      simp at h

end Order

end CashMesh.Lib
