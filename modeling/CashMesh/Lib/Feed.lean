import Mathlib.Data.List.Sort
import Mathlib.Order.WithBot
/-!
# Reading a feed by position

A feed is a list of records with strictly increasing keys, to which records are only added at the
end. Some of its records carry a value. A reader keeps a position, the key up to which it has read,
and what it has read is the values of the records up to there.

A page is a stretch of the feed that starts right behind some position. Whatever happened to the
position since the page was taken, reading the values of the page one after the other never skips a
value and never reads one twice, as long as a value behind the position is passed over.
-/

namespace CashMesh.Lib

variable {ρ κ β : Type} [LinearOrder κ] {key : ρ → κ} {value : ρ → Option β}

/-- The values of the records up to a position. -/
def readUpTo (key : ρ → κ) (value : ρ → Option β) (position : WithBot κ) (feed : List ρ) : List β :=
  (feed.filter fun r => (key r : WithBot κ) ≤ position).filterMap value

/-- The records behind a position, as many as the source cares to return. -/
def pageAfter (key : ρ → κ) (position : WithBot κ) (size : Nat) (feed : List ρ) : List ρ :=
  (feed.filter fun r => position < (key r : WithBot κ)).take size

abbrev Ascending (key : ρ → κ) (feed : List ρ) : Prop :=
  feed.Pairwise fun r₁ r₂ => key r₁ < key r₂

variable {feed before after rs : List ρ} {r : ρ} {b : β} {position : WithBot κ}

theorem readUpTo_append (feed rest : List ρ) :
    readUpTo key value position (feed ++ rest) =
      readUpTo key value position feed ++ readUpTo key value position rest := by
  simp [readUpTo]

theorem readUpTo_of_read (hread : ∀ r ∈ feed, (key r : WithBot κ) ≤ position ∨ value r = none) :
    readUpTo key value position feed = feed.filterMap value := by
  induction feed with
  | nil => rfl
  | cons r feed ih =>
      have ih := ih fun r' hr' => hread r' (List.mem_cons_of_mem _ hr')
      rw [readUpTo, List.filter_cons] at *
      by_cases hr : (key r : WithBot κ) ≤ position
      · simp only [hr, decide_true, if_true, List.filterMap_cons]
        rw [ih]
      · have hnone : value r = none := (hread r List.mem_cons_self).resolve_left hr
        simp only [hr, decide_false, Bool.false_eq_true, if_false, List.filterMap_cons, hnone]
        exact ih

/-- Values that name the keys of their records are read in their order. -/
theorem readUpTo_pairwise {keyOf : β → κ} (hfeed : Ascending key feed)
    (hkey : ∀ r ∈ feed, ∀ b ∈ value r, keyOf b = key r) :
    (readUpTo key value position feed).Pairwise fun b₁ b₂ => keyOf b₁ < keyOf b₂ := by
  rw [readUpTo, List.pairwise_filterMap]
  refine (hfeed.filter _).imp_of_mem ?_
  intro r₁ r₂ hr₁ hr₂ hlt b₁ hb₁ b₂ hb₂
  rw [hkey r₁ (List.mem_of_mem_filter hr₁) b₁ hb₁, hkey r₂ (List.mem_of_mem_filter hr₂) b₂ hb₂]
  exact hlt

/-! ### Other kinds of records -/

section Map

variable {σ : Type} {key' : σ → κ} {value' : σ → Option β} {f : ρ → σ}

theorem readUpTo_map (position : WithBot κ) (feed : List ρ) :
    readUpTo key' value' position (feed.map f) =
      readUpTo (fun r => key' (f r)) (fun r => value' (f r)) position feed := by
  rw [readUpTo, readUpTo, List.filter_map, List.filterMap_map]
  rfl

theorem pageAfter_map (position : WithBot κ) (size : Nat) (feed : List ρ) :
    pageAfter key' position size (feed.map f) =
      (pageAfter (fun r => key' (f r)) position size feed).map f := by
  rw [pageAfter, pageAfter, List.filter_map, List.map_take]
  rfl

end Map

theorem readUpTo_of_beyond (hbeyond : ∀ r ∈ feed, position < (key r : WithBot κ)) :
    readUpTo key value position feed = [] := by
  have hempty : feed.filter (fun r => (key r : WithBot κ) ≤ position) = [] := by
    rw [List.filter_eq_nil_iff]
    intro r hr
    simpa using hbeyond r hr
  rw [readUpTo, hempty, List.filterMap_nil]

theorem Ascending.beyond (hfeed : Ascending key (before ++ r :: after)) :
    (∀ r' ∈ before, key r' < key r) ∧ ∀ r' ∈ after, key r < key r' := by
  rw [Ascending, List.pairwise_append, List.pairwise_cons] at hfeed
  obtain ⟨-, ⟨hafter, -⟩, hbefore⟩ := hfeed
  exact ⟨fun r' hr' => hbefore r' hr' r List.mem_cons_self, hafter⟩

/-- Reading the next value: everything before its record has been read and the record has not. -/
theorem readUpTo_next (hfeed : Ascending key (before ++ r :: after)) (hvalue : value r = some b)
    (hread : ∀ r' ∈ before, (key r' : WithBot κ) ≤ position ∨ value r' = none)
    (hnew : position < (key r : WithBot κ)) :
    readUpTo key value (key r) (before ++ r :: after) =
      readUpTo key value position (before ++ r :: after) ++ [b] := by
  obtain ⟨hbefore, hafter⟩ := hfeed.beyond
  have hbeyond : ∀ r' ∈ after, (key r : WithBot κ) < (key r' : WithBot κ) :=
    fun r' hr' => WithBot.coe_lt_coe.mpr (hafter r' hr')
  have hold : readUpTo key value position (before ++ r :: after) = before.filterMap value := by
    rw [readUpTo_append, readUpTo_of_read hread, readUpTo_of_beyond, List.append_nil]
    intro r' hr'
    rcases List.mem_cons.mp hr' with rfl | hr'
    · exact hnew
    · exact hnew.trans (hbeyond r' hr')
  have hall : ∀ r' ∈ before ++ [r], (key r' : WithBot κ) ≤ (key r : WithBot κ) := by
    intro r' hr'
    rcases List.mem_append.mp hr' with hr' | hr'
    · exact WithBot.coe_le_coe.mpr (hbefore r' hr').le
    · rw [List.mem_singleton.mp hr']
  calc
    readUpTo key value (key r) (before ++ r :: after)
      = readUpTo key value (key r) ((before ++ [r]) ++ after) := by simp
    _ = (before ++ [r]).filterMap value := by
        rw [readUpTo_append, readUpTo_of_read fun r' hr' => .inl (hall r' hr'),
          readUpTo_of_beyond hbeyond, List.append_nil]
    _ = readUpTo key value position (before ++ r :: after) ++ [b] := by
        rw [hold, List.filterMap_append, List.filterMap_cons, hvalue, List.filterMap_nil]

/-- Moving the position over records that carry no value or have been read. -/
theorem readUpTo_skip {position' : WithBot κ} (hle : position ≤ position')
    (hread : ∀ r ∈ feed, (key r : WithBot κ) ≤ position' →
      (key r : WithBot κ) ≤ position ∨ value r = none) :
    readUpTo key value position' feed = readUpTo key value position feed := by
  induction feed with
  | nil => rfl
  | cons r feed ih =>
      have ih := ih fun r' hr' => hread r' (List.mem_cons_of_mem _ hr')
      rw [readUpTo, readUpTo, List.filter_cons, List.filter_cons] at *
      by_cases hr : (key r : WithBot κ) ≤ position
      · have hr' := hr.trans hle
        simp only [hr, hr', decide_true, if_true, List.filterMap_cons, ih]
      · by_cases hr' : (key r : WithBot κ) ≤ position'
        · have hnone := (hread r List.mem_cons_self hr').resolve_left hr
          simp only [hr, hr', decide_true, decide_false, Bool.false_eq_true, if_true, if_false,
            List.filterMap_cons, hnone, ih]
        · simp only [hr, hr', decide_false, Bool.false_eq_true, if_false, ih]

theorem exists_split_pageAfter (hfeed : Ascending key feed) (size : Nat) :
    ∃ before after, feed = before ++ pageAfter key position size feed ++ after ∧
      ∀ r ∈ before, (key r : WithBot κ) ≤ position := by
  have hsplit : feed = feed.filter (fun r => (key r : WithBot κ) ≤ position) ++
      feed.filter fun r => position < (key r : WithBot κ) := by
    induction feed with
    | nil => rfl
    | cons r feed ih =>
        obtain ⟨hr, hrest⟩ := List.pairwise_cons.mp hfeed
        by_cases hle : (key r : WithBot κ) ≤ position
        · have hnot : ¬position < (key r : WithBot κ) := not_lt.mpr hle
          rw [List.filter_cons_of_pos (by simpa using hle),
            List.filter_cons_of_neg (by simpa using hnot), List.cons_append, ← ih hrest]
        · have hlt : position < (key r : WithBot κ) := not_le.mp hle
          have hempty : feed.filter (fun r => (key r : WithBot κ) ≤ position) = [] := by
            rw [List.filter_eq_nil_iff]
            intro r' hr'
            have hbeyond := hlt.trans (WithBot.coe_lt_coe.mpr (hr r' hr'))
            simpa using hbeyond
          have hih := ih hrest
          rw [hempty, List.nil_append] at hih
          rw [List.filter_cons_of_neg (by simpa using hle),
            List.filter_cons_of_pos (by simpa using hlt), hempty, List.nil_append, ← hih]
  refine ⟨feed.filter fun r => (key r : WithBot κ) ≤ position,
    (feed.filter fun r => position < (key r : WithBot κ)).drop size, ?_, ?_⟩
  · rw [pageAfter, List.append_assoc, List.take_append_drop]
    exact hsplit
  · intro r hr
    simpa using (List.mem_filter.mp hr).2

end CashMesh.Lib
