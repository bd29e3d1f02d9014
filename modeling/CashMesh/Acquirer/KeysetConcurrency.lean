import Mathlib.Data.List.Perm.Basic
import Mathlib.Data.List.Nodup
import Mathlib.Data.List.Range
import Mathlib.Tactic.Ring
/-!
# Bounded concurrency

The function of `keyset-observer.ts` that transforms a list with at most so many transformations in
flight. Its workers share an index: each takes the next one, calls the transformation, waits for the
promise, writes the result at the index it took and takes another. Between two waits a worker runs
alone; while it waits, any other promise may settle and any other worker go on.
-/

namespace CashMesh.Acquirer

variable {T R : Type}

/-! ### The workers -/

/-- Where a worker is: its call is in flight, the promise of its call has settled but it has not gone on,
or it has left its loop. -/
inductive Worker (R : Type) where
  | awaiting (index : Nat)
  | settled (index : Nat) (result : R)
  | finished
  deriving DecidableEq

/-- A call of `mapWithConcurrency`: its variables and its workers, with the calls of the transformation
that were made and what those returned. -/
structure Mapping (T R : Type) where
  nextIndex : Nat
  results : List (Option R)
  workers : List (Worker R)
  calls : List (Nat × T)
  returned : List (Nat × R)
  deriving DecidableEq

def Mapping.start (values : List (Option T)) : Mapping T R :=
  ⟨0, values.map fun _ => none, [], [], []⟩

/-- The loop over `nextIndex` until there is a value that is not `undefined`; what is left of the values
begins at the index. -/
def nextValue : List (Option T) → Nat → Nat × Option (Nat × T)
  | [], index => (index, none)
  | some value :: _, index => (index + 1, some (index, value))
  | none :: rest, index => nextValue rest (index + 1)

/-- A worker from one wait to the next. -/
def runWorker (values : List (Option T)) (mapping : Mapping T R) : Mapping T R × Worker R :=
  match nextValue (values.drop mapping.nextIndex) mapping.nextIndex with
  | (nextIndex, some (index, value)) =>
      ({ mapping with nextIndex := nextIndex, calls := mapping.calls ++ [(index, value)] },
        .awaiting index)
  | (nextIndex, none) => ({ mapping with nextIndex := nextIndex }, .finished)

/-- `Array.from` makes one more worker, which runs to its first wait. -/
def Mapping.spawn (values : List (Option T)) (mapping : Mapping T R) : Mapping T R :=
  let (next, worker) := runWorker values mapping
  { next with workers := mapping.workers ++ [worker] }

/-- The promise of the worker's call settles. -/
def Mapping.settle (mapping : Mapping T R) (place index : Nat) (result : R) : Mapping T R :=
  { mapping with
    workers := mapping.workers.set place (.settled index result)
    returned := mapping.returned ++ [(index, result)] }

/-- The worker goes on with the result. -/
def Mapping.resume (values : List (Option T)) (mapping : Mapping T R) (place index : Nat) (result : R) :
    Mapping T R :=
  let (next, worker) :=
    runWorker values { mapping with results := mapping.results.set index (some result) }
  { next with workers := mapping.workers.set place worker }

/-- What may happen next, in whatever order the calls return. -/
inductive Mapping.Step (values : List (Option T)) (concurrency : Nat) :
    Mapping T R → Mapping T R → Prop
  | spawn {mapping} (hroom : mapping.workers.length < min concurrency values.length) :
      Step values concurrency mapping (mapping.spawn values)
  | settle {mapping place index} (result : R)
      (hworker : mapping.workers[place]? = some (.awaiting index)) :
      Step values concurrency mapping (mapping.settle place index result)
  | resume {mapping place index result}
      (hworker : mapping.workers[place]? = some (.settled index result)) :
      Step values concurrency mapping (mapping.resume values place index result)

/-- Runs of so many steps. -/
inductive Mapping.Run (values : List (Option T)) (concurrency : Nat) : Nat → Mapping T R → Prop
  | start : Run values concurrency 0 (.start values)
  | step {count mapping next} (hrun : Run values concurrency count mapping)
      (hstep : Mapping.Step values concurrency mapping next) : Run values concurrency (count + 1) next

/-- `Promise.all` has all its workers and each has finished, so the results are returned. -/
def Mapping.Returns (values : List (Option T)) (concurrency : Nat) (mapping : Mapping T R) : Prop :=
  mapping.workers.length = min concurrency values.length ∧
    ∀ worker ∈ mapping.workers, worker = .finished

/-! ### What is in flight -/

def Worker.awaited : Worker R → Option Nat
  | .awaiting index => some index
  | .settled _ _ => none
  | .finished => none

/-- The indices of the calls that are in flight. -/
def Mapping.inFlight (mapping : Mapping T R) : List Nat :=
  mapping.workers.filterMap Worker.awaited

def Worker.isSettled : Worker R → Bool
  | .settled _ _ => true
  | .awaiting _ => false
  | .finished => false

/-- The workers that have to go on. -/
def Mapping.settledCount (mapping : Mapping T R) : Nat :=
  mapping.workers.countP Worker.isSettled

theorem exists_around {workers : List (Worker R)} {place : Nat} {worker : Worker R}
    (h : workers[place]? = some worker) :
    ∃ before behind, workers = before ++ worker :: behind ∧
      ∀ other, workers.set place other = before ++ other :: behind := by
  obtain ⟨hlt, hget⟩ := List.getElem?_eq_some_iff.mp h
  refine ⟨workers.take place, workers.drop (place + 1), ?_, ?_⟩
  · rw [← hget, List.getElem_cons_drop, List.take_append_drop]
  · intro other
    rw [List.set_eq_take_append_cons_drop, if_pos hlt]

/-! ### One run of a worker -/

theorem nextValue_of_lt {values : List T} {index : Nat} {value : T} (h : values[index]? = some value) :
    nextValue ((values.map some).drop index) index = (index + 1, some (index, value)) := by
  obtain ⟨hlt, hget⟩ := List.getElem?_eq_some_iff.mp h
  rw [← List.map_drop, List.drop_eq_getElem_cons hlt, hget]
  rfl

theorem nextValue_of_le {values : List T} {index : Nat} (h : values.length ≤ index) :
    nextValue ((values.map some).drop index) index = (index, none) := by
  rw [← List.map_drop, List.drop_eq_nil_of_le h]
  rfl

theorem runWorker_cases (values : List T) (mapping : Mapping T R) :
    (∃ value, values[mapping.nextIndex]? = some value ∧
        runWorker (values.map some) mapping =
          ({ mapping with
              nextIndex := mapping.nextIndex + 1
              calls := mapping.calls ++ [(mapping.nextIndex, value)] },
            .awaiting mapping.nextIndex)) ∨
      (values.length ≤ mapping.nextIndex ∧
        runWorker (values.map some) mapping = (mapping, .finished)) := by
  unfold runWorker
  by_cases hlt : mapping.nextIndex < values.length
  · have hvalue := List.getElem?_eq_getElem hlt
    refine .inl ⟨_, hvalue, ?_⟩
    rw [nextValue_of_lt hvalue]
  · refine .inr ⟨by omega, ?_⟩
    rw [nextValue_of_le (by omega)]

/-! ### What holds throughout -/

/-- The calls that were made are those of the indices taken; each is in flight or has returned, and what
returned is in the results or with a worker that has to go on. -/
structure Mapping.Holds (values : List T) (concurrency count : Nat) (mapping : Mapping T R) :
    Prop where
  taken : mapping.nextIndex ≤ values.length
  results_length : mapping.results.length = values.length
  workers_length : mapping.workers.length ≤ min concurrency values.length
  calls : mapping.calls = (values.zipIdx.take mapping.nextIndex).map Prod.swap
  outstanding : (mapping.inFlight ++ mapping.returned.map Prod.fst).Perm (List.range mapping.nextIndex)
  settled : ∀ index result, Worker.settled index result ∈ mapping.workers →
    (index, result) ∈ mapping.returned
  written : ∀ index result, (index, result) ∈ mapping.returned →
    mapping.results[index]? = some (some result) ∨ Worker.settled index result ∈ mapping.workers
  finished : Worker.finished ∈ mapping.workers → mapping.nextIndex = values.length
  steps : count + mapping.settledCount = mapping.workers.length + 2 * mapping.returned.length

variable {values : List T} {concurrency count : Nat} {mapping next : Mapping T R}

theorem holds_start : (Mapping.start (R := R) (values.map some)).Holds values concurrency 0 where
  taken := Nat.zero_le _
  results_length := by simp [Mapping.start]
  workers_length := Nat.zero_le _
  calls := rfl
  outstanding := .refl _
  settled := by simp [Mapping.start]
  written := by simp [Mapping.start]
  finished := by simp [Mapping.start]
  steps := rfl

theorem calls_succ {index : Nat} {value : T} (h : values[index]? = some value) :
    (values.zipIdx.take index).map Prod.swap ++ [(index, value)] =
      (values.zipIdx.take (index + 1)).map Prod.swap := by
  have hpair : values.zipIdx[index]? = some (value, index) := by
    rw [List.getElem?_zipIdx, h]
    simp
  rw [List.take_add_one, hpair, List.map_append]
  rfl

theorem Mapping.Holds.returned_inj (h : mapping.Holds values concurrency count) {index : Nat}
    {result other : R} (hresult : (index, result) ∈ mapping.returned)
    (hother : (index, other) ∈ mapping.returned) : result = other := by
  have hnodup : (mapping.inFlight ++ mapping.returned.map Prod.fst).Nodup :=
    h.outstanding.nodup_iff.mpr List.nodup_range
  have hreturned := (List.nodup_append.mp hnodup).2.1
  have hsame := List.inj_on_of_nodup_map hreturned hresult hother rfl
  exact congrArg Prod.snd hsame

/-! ### The steps -/

theorem inFlight_append (before behind : List (Worker R)) (worker : Worker R) :
    (before ++ worker :: behind).filterMap Worker.awaited =
      before.filterMap Worker.awaited ++ (worker.awaited.toList ++ behind.filterMap Worker.awaited) := by
  rw [List.filterMap_append, List.filterMap_cons]
  cases worker.awaited <;> rfl

theorem mem_around {before behind : List (Worker R)} {worker other : Worker R} :
    other ∈ before ++ worker :: behind ↔ other = worker ∨ other ∈ before ++ behind := by
  simp only [List.mem_append, List.mem_cons]
  constructor
  · intro h
    rcases h with hmem | rfl | hmem
    · exact .inr (.inl hmem)
    · exact .inl rfl
    · exact .inr (.inr hmem)
  · intro h
    rcases h with rfl | hmem | hmem
    · exact .inr (.inl rfl)
    · exact .inl hmem
    · exact .inr (.inr hmem)

theorem countP_around (before behind : List (Worker R)) (worker : Worker R) :
    (before ++ worker :: behind).countP Worker.isSettled =
      (before ++ behind).countP Worker.isSettled + worker.isSettled.toNat := by
  rw [List.countP_append, List.countP_append, List.countP_cons]
  cases worker.isSettled with
  | true => exact (Nat.add_assoc _ _ _).symm
  | false => rfl

theorem Mapping.Holds.ran {before behind : List (Worker R)} (h : mapping.Holds values concurrency count)
    (hworkers : mapping.workers = before ++ behind)
    (hroom : mapping.workers.length < min concurrency values.length) :
    Mapping.Holds values concurrency (count + 1)
      { (runWorker (values.map some) mapping).1 with
        workers := before ++ (runWorker (values.map some) mapping).2 :: behind } := by
  have hsteps := h.steps
  have houtstanding := h.outstanding
  have hcount : ∀ worker : Worker R, worker.isSettled = false →
      count + 1 + (before ++ worker :: behind).countP Worker.isSettled =
        (before ++ worker :: behind).length + 2 * mapping.returned.length := by
    intro worker hworker
    rw [Mapping.settledCount, hworkers] at hsteps
    rw [countP_around, hworker, Bool.toNat_false]
    simp only [List.length_append, List.length_cons] at hsteps ⊢
    omega
  have hlength : ∀ worker : Worker R,
      (before ++ worker :: behind).length ≤ min concurrency values.length := by
    intro worker
    rw [hworkers, List.length_append] at hroom
    rw [List.length_append, List.length_cons]
    omega
  have hwritten : ∀ (worker : Worker R) index result, (index, result) ∈ mapping.returned →
      mapping.results[index]? = some (some result) ∨
        Worker.settled index result ∈ before ++ worker :: behind := by
    intro worker index result hmem
    rcases h.written index result hmem with hresult | hsettled
    · exact .inl hresult
    · rw [hworkers] at hsettled
      exact .inr (mem_around.mpr (.inr hsettled))
  rcases runWorker_cases values mapping with ⟨value, hvalue, hrun⟩ | ⟨hend, hrun⟩
  · obtain ⟨hlt, -⟩ := List.getElem?_eq_some_iff.mp hvalue
    rw [hrun]
    constructor
    case taken => exact hlt
    case results_length => exact h.results_length
    case workers_length => exact hlength _
    case calls =>
      show mapping.calls ++ _ = _
      rw [h.calls, calls_succ hvalue]
    case outstanding =>
      show ((before ++ _ :: behind).filterMap Worker.awaited ++ _).Perm _
      rw [Mapping.inFlight, hworkers, List.filterMap_append] at houtstanding
      rw [inFlight_append, List.range_succ]
      have hmoved := (houtstanding.append_right [mapping.nextIndex])
      refine List.Perm.trans ?_ hmoved
      simp only [Worker.awaited, Option.toList, List.append_assoc, List.singleton_append]
      apply List.Perm.append_left
      rw [← List.append_assoc]
      exact (List.perm_append_singleton _ _).symm
    case settled =>
      intro index result hmem
      rcases mem_around.mp hmem with hnew | hold
      · cases hnew
      · exact h.settled index result (hworkers ▸ hold)
    case written => exact hwritten _
    case finished =>
      intro hmem
      rcases mem_around.mp hmem with hnew | hold
      · cases hnew
      · have htaken := h.finished (hworkers ▸ hold)
        omega
    case steps => exact hcount _ rfl
  · have htaken := h.taken
    rw [hrun]
    constructor
    case taken => exact h.taken
    case results_length => exact h.results_length
    case workers_length => exact hlength _
    case calls => exact h.calls
    case outstanding =>
      show ((before ++ _ :: behind).filterMap Worker.awaited ++ _).Perm _
      rw [Mapping.inFlight, hworkers, List.filterMap_append] at houtstanding
      rw [inFlight_append]
      exact houtstanding
    case settled =>
      intro index result hmem
      rcases mem_around.mp hmem with hnew | hold
      · cases hnew
      · exact h.settled index result (hworkers ▸ hold)
    case written => exact hwritten _
    case finished =>
      intro _
      show mapping.nextIndex = values.length
      omega
    case steps => exact hcount _ rfl

theorem Mapping.Holds.spawn (h : mapping.Holds values concurrency count)
    (hroom : mapping.workers.length < min concurrency values.length) :
    (mapping.spawn (values.map some)).Holds values concurrency (count + 1) :=
  h.ran (List.append_nil _).symm hroom

theorem Mapping.Holds.settle (h : mapping.Holds values concurrency count) {place index : Nat}
    (result : R) (hworker : mapping.workers[place]? = some (.awaiting index)) :
    (mapping.settle place index result).Holds values concurrency (count + 1) := by
  obtain ⟨before, behind, hworkers, hset⟩ := exists_around hworker
  have hsteps := h.steps
  have houtstanding := h.outstanding
  rw [Mapping.settle, hset]
  constructor
  case taken => exact h.taken
  case results_length => exact h.results_length
  case workers_length =>
    have hlength := h.workers_length
    rw [hworkers] at hlength
    rw [List.length_append, List.length_cons] at hlength ⊢
    exact hlength
  case calls => exact h.calls
  case outstanding =>
    show ((before ++ _ :: behind).filterMap Worker.awaited ++ (_ ++ _ : List (Nat × R)).map _).Perm _
    rw [Mapping.inFlight, hworkers, inFlight_append] at houtstanding
    rw [inFlight_append, List.map_append]
    refine List.Perm.trans ?_ houtstanding
    simp only [Worker.awaited, Option.toList, List.append_assoc, List.singleton_append, List.nil_append,
      List.map_cons, List.map_nil]
    apply List.Perm.append_left
    rw [← List.append_assoc]
    exact List.perm_append_singleton _ _
  case settled =>
    intro other found hmem
    rcases mem_around.mp hmem with hnew | hold
    · cases hnew
      exact List.mem_append_right _ List.mem_cons_self
    · have hreturned := h.settled other found (hworkers ▸ mem_around.mpr (.inr hold))
      exact List.mem_append_left _ hreturned
  case written =>
    intro other found hmem
    rcases List.mem_append.mp hmem with hold | hnew
    · rcases h.written other found hold with hresult | hsettled
      · exact .inl hresult
      · rw [hworkers] at hsettled
        rcases mem_around.mp hsettled with hsame | hother
        · cases hsame
        · exact .inr (mem_around.mpr (.inr hother))
    · cases List.mem_singleton.mp hnew
      exact .inr (mem_around.mpr (.inl rfl))
  case finished =>
    intro hmem
    rcases mem_around.mp hmem with hnew | hold
    · cases hnew
    · exact h.finished (hworkers ▸ mem_around.mpr (.inr hold))
  case steps =>
    show count + 1 + (before ++ _ :: behind).countP _ =
      (before ++ _ :: behind).length + 2 * (mapping.returned ++ [_]).length
    rw [Mapping.settledCount, hworkers, countP_around] at hsteps
    rw [countP_around]
    simp only [List.length_append, List.length_cons, List.length_nil, Worker.isSettled,
      Bool.toNat_false, Bool.toNat_true] at hsteps ⊢
    omega

/-- A worker that goes on has written its result: the others hold what is left. -/
theorem Mapping.Holds.write (h : mapping.Holds values concurrency count) {index : Nat} {result : R}
    {before behind : List (Worker R)}
    (hworkers : mapping.workers = before ++ .settled index result :: behind) :
    Mapping.Holds values concurrency count
      { mapping with
        results := mapping.results.set index (some result)
        workers := before ++ behind } := by
  have hsteps := h.steps
  have houtstanding := h.outstanding
  have hreturned : (index, result) ∈ mapping.returned :=
    h.settled index result (hworkers ▸ mem_around.mpr (.inl rfl))
  constructor
  case taken => exact h.taken
  case results_length => exact (List.length_set ..).trans h.results_length
  case workers_length =>
    have hlength := h.workers_length
    rw [hworkers, List.length_append, List.length_cons] at hlength
    show (before ++ behind).length ≤ _
    rw [List.length_append]
    omega
  case calls => exact h.calls
  case outstanding =>
    show ((before ++ behind).filterMap Worker.awaited ++ _).Perm _
    rw [Mapping.inFlight, hworkers, inFlight_append] at houtstanding
    rw [List.filterMap_append]
    exact houtstanding
  case settled =>
    intro other found hmem
    exact h.settled other found (hworkers ▸ mem_around.mpr (.inr hmem))
  case written =>
    intro other found hmem
    show (mapping.results.set index (some result))[other]? = some (some found) ∨ _
    by_cases hsame : index = other
    · subst hsame
      obtain rfl := h.returned_inj hreturned hmem
      have hindex : index < mapping.results.length := by
        have hrange : index ∈ List.range mapping.nextIndex := by
          apply houtstanding.subset
          exact List.mem_append_right _ (List.mem_map.mpr ⟨_, hreturned, rfl⟩)
        have htaken := h.taken
        have hlt := List.mem_range.mp hrange
        rw [h.results_length]
        omega
      exact .inl (List.getElem?_set_self hindex)
    · rw [List.getElem?_set_ne hsame]
      rcases h.written other found hmem with hresult | hsettled
      · exact .inl hresult
      · rw [hworkers] at hsettled
        rcases mem_around.mp hsettled with hnew | hold
        · cases hnew
          exact absurd rfl hsame
        · exact .inr hold
  case finished =>
    intro hmem
    exact h.finished (hworkers ▸ mem_around.mpr (.inr hmem))
  case steps =>
    show count + (before ++ behind).countP _ = (before ++ behind).length + _
    rw [Mapping.settledCount, hworkers, countP_around] at hsteps
    simp only [List.length_append, List.length_cons, Worker.isSettled, Bool.toNat_true] at hsteps ⊢
    omega

/-- What a worker does is not decided by where the others are. -/
theorem runWorker_workers (values : List T) (mapping : Mapping T R) (others last : List (Worker R)) :
    (runWorker (values.map some) { mapping with workers := others }).2 =
        (runWorker (values.map some) mapping).2 ∧
      { (runWorker (values.map some) { mapping with workers := others }).1 with workers := last } =
        { (runWorker (values.map some) mapping).1 with workers := last } := by
  simp only [runWorker]
  generalize nextValue ((values.map some).drop mapping.nextIndex) mapping.nextIndex = found
  obtain ⟨index, call⟩ := found
  cases call with
  | none => exact ⟨rfl, rfl⟩
  | some call => exact ⟨rfl, rfl⟩

theorem Mapping.Holds.resume (h : mapping.Holds values concurrency count) {place index : Nat}
    {result : R} (hworker : mapping.workers[place]? = some (.settled index result)) :
    (mapping.resume (values.map some) place index result).Holds values concurrency (count + 1) := by
  obtain ⟨before, behind, hworkers, hset⟩ := exists_around hworker
  have hlength := h.workers_length
  rw [hworkers, List.length_append, List.length_cons] at hlength
  have hwritten := h.write hworkers
  have hran := hwritten.ran rfl (by
    show (before ++ behind).length < _
    rw [List.length_append]
    omega)
  have hsame := fun last => runWorker_workers values
    { mapping with results := mapping.results.set index (some result) } (before ++ behind) last
  rw [(hsame []).1, (hsame _).2] at hran
  simp only [Mapping.resume, hset]
  exact hran

/-! ### The runs -/

theorem Mapping.Step.holds (hstep : Mapping.Step (values.map some) concurrency mapping next)
    (h : mapping.Holds values concurrency count) : next.Holds values concurrency (count + 1) := by
  cases hstep with
  | spawn hroom =>
      rw [List.length_map] at hroom
      exact h.spawn hroom
  | settle result hworker => exact h.settle result hworker
  | resume hworker => exact h.resume hworker

theorem Mapping.Run.holds (hrun : Mapping.Run (values.map some) concurrency count mapping) :
    mapping.Holds values concurrency count := by
  induction hrun with
  | start => exact holds_start
  | step _ hstep ih => exact hstep.holds ih

/-! ### What the runs do -/

theorem Mapping.Holds.inFlight_le (h : mapping.Holds values concurrency count) :
    mapping.inFlight.length ≤ concurrency := by
  have hworkers := h.workers_length
  have hle : mapping.inFlight.length ≤ mapping.workers.length := List.length_filterMap_le _ _
  omega

theorem Mapping.Holds.returned_le (h : mapping.Holds values concurrency count) :
    mapping.returned.length ≤ values.length := by
  have hlength := h.outstanding.length_eq
  have htaken := h.taken
  rw [List.length_append, List.length_map, List.length_range] at hlength
  omega

/-- A call that has not returned its results waits for a transformation or can go on by itself. -/
theorem Mapping.Holds.progress (h : mapping.Holds values concurrency count)
    (hpending : ¬ mapping.Returns (values.map some) concurrency) :
    mapping.inFlight ≠ [] ∨ ∃ next, Mapping.Step (values.map some) concurrency mapping next := by
  by_cases hroom : mapping.workers.length < min concurrency values.length
  · exact .inr ⟨_, .spawn (by rwa [List.length_map])⟩
  · have hfull : mapping.workers.length = min concurrency (values.map some).length := by
      have hlength := h.workers_length
      rw [List.length_map]
      omega
    have hworking : ∃ worker ∈ mapping.workers, worker ≠ .finished := by
      apply Classical.byContradiction
      intro hnone
      apply hpending
      refine ⟨hfull, ?_⟩
      intro worker hworker
      exact Classical.byContradiction fun hother => hnone ⟨worker, hworker, hother⟩
    obtain ⟨worker, hworker, hother⟩ := hworking
    cases worker with
    | awaiting index =>
        have hindex : index ∈ mapping.inFlight := List.mem_filterMap.mpr ⟨_, hworker, rfl⟩
        exact .inl (List.ne_nil_of_mem hindex)
    | settled index result =>
        obtain ⟨place, hplace⟩ := List.mem_iff_getElem?.mp hworker
        exact .inr ⟨_, .resume hplace⟩
    | finished => exact absurd rfl hother

/-- When the workers have finished every index was taken and every call has returned. -/
theorem Mapping.Holds.complete (h : mapping.Holds values concurrency count) (hbound : 1 ≤ concurrency)
    (hreturns : mapping.Returns (values.map some) concurrency) :
    mapping.nextIndex = values.length ∧
      (mapping.returned.map Prod.fst).Perm (List.range values.length) := by
  obtain ⟨hlength, hfinished⟩ := hreturns
  rw [List.length_map] at hlength
  have htaken : mapping.nextIndex = values.length := by
    cases hworkers : mapping.workers with
    | nil =>
        rw [hworkers, List.length_nil] at hlength
        have hle := h.taken
        omega
    | cons worker rest =>
        have hmem : worker ∈ mapping.workers := hworkers ▸ List.mem_cons_self
        have hend := hfinished worker hmem
        exact h.finished (hend ▸ hmem)
  have hnone : mapping.inFlight = [] := by
    apply List.filterMap_eq_nil_iff.mpr
    intro worker hworker
    rw [hfinished worker hworker]
    rfl
  have houtstanding := h.outstanding
  rw [hnone, htaken, List.nil_append] at houtstanding
  exact ⟨htaken, houtstanding⟩

/-- What a call of the transformation returned stands at its index. -/
theorem Mapping.Holds.result_at (h : mapping.Holds values concurrency count)
    (hreturns : mapping.Returns (values.map some) concurrency) {index : Nat} {result : R}
    (hreturned : (index, result) ∈ mapping.returned) :
    mapping.results[index]? = some (some result) := by
  rcases h.written index result hreturned with hresult | hsettled
  · exact hresult
  · cases hreturns.2 _ hsettled

theorem filter_eq_singleton {calls : List (Nat × R)} (hnodup : (calls.map Prod.fst).Nodup) {index : Nat}
    {result : R} (hmem : (index, result) ∈ calls) :
    calls.filter (fun call => call.1 = index) = [(index, result)] := by
  induction calls with
  | nil => cases hmem
  | cons call calls ih =>
      rw [List.map_cons, List.nodup_cons] at hnodup
      obtain ⟨hnew, hnodup⟩ := hnodup
      rcases List.mem_cons.mp hmem with hhead | hrest
      · have hnone : calls.filter (fun other => other.1 = index) = [] := by
          apply List.filter_eq_nil_iff.mpr
          intro other hother hsame
          apply hnew
          rw [← hhead]
          exact List.mem_map.mpr ⟨other, hother, of_decide_eq_true hsame⟩
        rw [← hhead, List.filter_cons_of_pos (by simp), hnone]
      · have hother : ¬ call.1 = index := by
          intro hsame
          exact hnew (hsame ▸ List.mem_map.mpr ⟨_, hrest, rfl⟩)
        rw [List.filter_cons_of_neg (by simpa using hother)]
        exact ih hnodup hrest

/-- However the transformations return, at most `concurrency` of them are in flight, and while there are
results to come either one is in flight or a worker goes on, for at most so many steps. When the results
are returned the transformation was called once with each value, in their order, and at each index
stands the one result that the call for its value returned. -/
theorem mapWithConcurrency_correct (values : List T) (concurrency : Nat) (hbound : 1 ≤ concurrency)
    {count : Nat} {mapping : Mapping T R}
    (hrun : Mapping.Run (values.map some) concurrency count mapping) :
    mapping.inFlight.length ≤ concurrency ∧
      mapping.calls = (values.zipIdx.take mapping.nextIndex).map Prod.swap ∧
      count ≤ min concurrency values.length + 2 * values.length ∧
      (¬ mapping.Returns (values.map some) concurrency → mapping.inFlight ≠ [] ∨
        ∃ next, Mapping.Step (values.map some) concurrency mapping next) ∧
      (mapping.Returns (values.map some) concurrency →
        mapping.calls = values.zipIdx.map Prod.swap ∧ mapping.results.length = values.length ∧
          ∀ index, index < values.length → ∃ result,
            mapping.returned.filter (fun call => call.1 = index) = [(index, result)] ∧
              mapping.results[index]? = some (some result)) := by
  have h := hrun.holds
  refine ⟨h.inFlight_le, h.calls, ?_, h.progress, ?_⟩
  · have hsteps := h.steps
    have hworkers := h.workers_length
    have hreturned := h.returned_le
    omega
  · intro hreturns
    obtain ⟨htaken, hperm⟩ := h.complete hbound hreturns
    refine ⟨?_, h.results_length, ?_⟩
    · rw [h.calls, htaken, List.take_of_length_le (by rw [List.length_zipIdx])]
    · intro index hindex
      have hcall : index ∈ mapping.returned.map Prod.fst :=
        hperm.symm.subset (List.mem_range.mpr hindex)
      obtain ⟨⟨_, result⟩, hmem, rfl⟩ := List.mem_map.mp hcall
      exact ⟨result, filter_eq_singleton (hperm.nodup_iff.mpr List.nodup_range) hmem,
        h.result_at hreturns hmem⟩

/-! ### The observer -/

/-- `CASHU_KEYSET_OBSERVATION_CONCURRENCY`. -/
def cashuKeysetObservationConcurrency : Nat := 4

/-- The runs of the observer on two keysets. -/
abbrev RunsTwo (count : Nat) (mapping : Mapping Nat Nat) : Prop :=
  Mapping.Run ([10, 20].map some) cashuKeysetObservationConcurrency count mapping

theorem run_two_keysets :
    RunsTwo 6 ⟨2, [some 11, some 21], [.finished, .finished], [(0, 10), (1, 20)],
      [(1, 21), (0, 11)]⟩ := by
  have hfirst : RunsTwo 1 ⟨1, [none, none], [.awaiting 0], [(0, 10)], []⟩ :=
    .step .start (.spawn (by decide))
  have hsecond : RunsTwo 2 ⟨2, [none, none], [.awaiting 0, .awaiting 1], [(0, 10), (1, 20)], []⟩ :=
    .step hfirst (.spawn (by decide))
  have hlate : RunsTwo 3 ⟨2, [none, none], [.awaiting 0, .settled 1 21], [(0, 10), (1, 20)],
      [(1, 21)]⟩ :=
    .step hsecond (@Mapping.Step.settle _ _ _ _ _ 1 1 21 rfl)
  have hearly : RunsTwo 4 ⟨2, [none, none], [.settled 0 11, .settled 1 21], [(0, 10), (1, 20)],
      [(1, 21), (0, 11)]⟩ :=
    .step hlate (@Mapping.Step.settle _ _ _ _ _ 0 0 11 rfl)
  have hresumed : RunsTwo 5 ⟨2, [none, some 21], [.settled 0 11, .finished], [(0, 10), (1, 20)],
      [(1, 21), (0, 11)]⟩ :=
    .step hearly (@Mapping.Step.resume _ _ _ _ _ 1 1 21 rfl)
  exact .step hresumed (@Mapping.Step.resume _ _ _ _ _ 0 0 11 rfl)

theorem mapWithConcurrency_correct_two :
    ∃ result, [(1, 21), (0, 11)].filter (fun call => call.1 = 1) = [(1, result)] ∧
      [some 11, some 21][1]? = some (some result) :=
  ((mapWithConcurrency_correct [10, 20] cashuKeysetObservationConcurrency (by decide)
    run_two_keysets).2.2.2.2 ⟨by decide, by decide⟩).2.2 1 (by decide)

end CashMesh.Acquirer
