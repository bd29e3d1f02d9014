import CashMesh.StellarSettlement.Crediting
import CashMesh.StellarSettlement.Scanner
/-!
# No payment is skipped and none is evaluated twice

In every run of the scanners the payments that have been evaluated are those of the source up to the
durable cursor, in the order of the source, and the claims are the ones a single pass over the history
would have made.
-/

namespace CashMesh.StellarSettlement

open CashMesh.Lib PersistentState

variable {profile : StellarProfile} {w w' : ScanWorld} {payment : ObservedPayment}
variable {payments : List ObservedPayment} {cursor : Option LedgerCursor}

namespace ScanWorld

theorem covers_iff (w : ScanWorld) (cursor : LedgerCursor) :
    w.store.Covers cursor ↔ (cursor : WithBot LedgerCursor) ≤ w.position := by
  unfold Covers position
  cases w.store.pagingCursor with
  | none => simp [positionOf]
  | some current =>
      simp only [Option.some.injEq, exists_eq_left', positionOf, WithBot.coe_le_coe]
      exact Iff.rfl

/-- The source is in order, the cursor is one of its records, the evaluated payments are those up to
the cursor, and the claims are those of one pass. -/
structure Inv (profile : StellarProfile) (w : ScanWorld) : Prop where
  ascending : Ascending SourceRecord.cursor w.source
  reached : ∀ p : LedgerCursor, w.position = p → ∃ r ∈ w.source, r.cursor = p
  read : w.history.filterMap DepositEvent.payment? =
    readUpTo SourceRecord.cursor SourceRecord.payment w.position w.source
  same : w.store.SameDeposits (sequentialPass profile w.history)

/-- The source is only added to and the cursor only moves forward. -/
structure Grows (w w' : ScanWorld) : Prop where
  source : ∃ more, w'.source = w.source ++ more
  position : w.position ≤ w'.position

theorem Grows.refl (w : ScanWorld) : w.Grows w :=
  ⟨⟨[], by simp⟩, le_refl _⟩

theorem Grows.trans {w₁ w₂ w₃ : ScanWorld} (h₁₂ : w₁.Grows w₂) (h₂₃ : w₂.Grows w₃) :
    w₁.Grows w₃ := by
  obtain ⟨more, hmore⟩ := h₁₂.source
  obtain ⟨more', hmore'⟩ := h₂₃.source
  refine ⟨⟨more ++ more', ?_⟩, h₁₂.position.trans h₂₃.position⟩
  rw [hmore', hmore, List.append_assoc]

def discipline (profile : StellarProfile) : Discipline ScanWorld where
  inv := Inv profile
  grows := Grows
  refl := Grows.refl
  trans := Grows.trans

theorem inv_initial : initial.Inv profile :=
  ⟨List.Pairwise.nil, fun _ hp => (WithBot.bot_ne_coe hp).elim, rfl, ⟨rfl, rfl, rfl⟩⟩

/-! ### What a scan knows of its page -/

/-- The payments still to be shown lie in the source behind records that have been read, and the
cursor of the page is that of the last record of the page. -/
def Pending (payments : List ObservedPayment) (cursor : Option LedgerCursor) (w : ScanWorld) :
    Prop :=
  ∃ before page after, w.source = before ++ page ++ after ∧
    page.filterMap SourceRecord.payment = payments ∧
    (∀ r ∈ before, (r.cursor : WithBot LedgerCursor) ≤ w.position ∨ r.payment = none) ∧
    ∀ last, cursor = some last → ∃ r, (before ++ page).getLast? = some r ∧ r.cursor = last

theorem Pending.grows (h : Pending payments cursor w) (hgrow : w.Grows w') :
    Pending payments cursor w' := by
  obtain ⟨before, page, after, hsource, hpage, hread, hlast⟩ := h
  obtain ⟨more, hmore⟩ := hgrow.source
  refine ⟨before, page, after ++ more, ?_, hpage, ?_, hlast⟩
  · rw [hmore, hsource, List.append_assoc]
  · exact fun r hr => (hread r hr).imp_left fun hle => hle.trans hgrow.position

theorem pending_ofPage (hinv : w.Inv profile) {start : Option LedgerCursor}
    (hstart : positionOf start ≤ w.position) (size : Nat) :
    let batch := DepositBatch.ofPage
      (pageAfter SourceRecord.cursor (positionOf start) size w.source)
    Pending batch.payments batch.cursor w := by
  intro batch
  obtain ⟨before, after, hsource, hbefore⟩ :=
    @exists_split_pageAfter _ _ _ _ _ (positionOf start) hinv.ascending size
  refine ⟨before, _, after, hsource, rfl, fun r hr => .inl ((hbefore r hr).trans hstart), ?_⟩
  intro last hlast
  obtain ⟨r, hr, hcursor⟩ := Option.map_eq_some_iff.mp hlast
  exact ⟨r, by rw [List.getLast?_append, hr]; rfl, hcursor⟩

/-- The record of the first pending payment, everything before which has been read. -/
theorem Pending.next (h : Pending (payment :: payments) cursor w) :
    ∃ before r after, w.source = before ++ r :: after ∧ r.payment = some payment ∧
      (∀ r' ∈ before, (r'.cursor : WithBot LedgerCursor) ≤ w.position ∨ r'.payment = none) ∧
      ∀ w', w'.source = w.source → w.position ≤ w'.position →
        (r.cursor : WithBot LedgerCursor) ≤ w'.position → Pending payments cursor w' := by
  obtain ⟨before, page, after, hsource, hpage, hread, hlast⟩ := h
  obtain ⟨skipped, r, rest, rfl, hskipped, hr, hrest⟩ := List.filterMap_eq_cons_iff.mp hpage
  have hbefore : ∀ r' ∈ before ++ skipped,
      (r'.cursor : WithBot LedgerCursor) ≤ w.position ∨ r'.payment = none := by
    intro r' hr'
    rcases List.mem_append.mp hr' with hr' | hr'
    · exact hread r' hr'
    · exact .inr (hskipped r' hr')
  refine ⟨before ++ skipped, r, rest ++ after, by rw [hsource]; simp, hr, hbefore, ?_⟩
  intro w' hsame hgrow hreached
  refine ⟨before ++ skipped ++ [r], rest, after, ?_, hrest, ?_, ?_⟩
  · rw [hsame, hsource]
    simp
  · intro r' hr'
    rcases List.mem_append.mp hr' with hr' | hr'
    · exact (hbefore r' hr').imp_left fun hle => hle.trans hgrow
    · rw [List.mem_singleton.mp hr']
      exact .inl hreached
  · intro last hcursor
    obtain ⟨r', hr', hcursor'⟩ := hlast last hcursor
    exact ⟨r', by simpa using hr', hcursor'⟩

/-! ### Showing a payment -/

theorem position_observe (w : ScanWorld) (payment : ObservedPayment) :
    (w.observe profile payment).position =
      if w.store.Covers payment.pagingCursor then w.position
      else (payment.pagingCursor : WithBot LedgerCursor) := by
  rcases observePayment_cases profile payment w.store with ⟨hcovers, hsame⟩ | ⟨hahead, hmoved⟩
  · rw [if_pos hcovers, position, observe, hsame, position]
  · rw [if_neg hahead, position, observe, hmoved]
    rfl

theorem le_position_observe (w : ScanWorld) (payment : ObservedPayment) :
    w.position ≤ (w.observe profile payment).position := by
  rw [position_observe]
  split_ifs with hcovers
  · exact le_refl _
  · exact (not_le.mp ((w.covers_iff payment.pagingCursor).not.mp hcovers)).le

/-- A payment ahead of the cursor is evaluated, and the pass over the longer history makes the same
claims. -/
theorem same_observe (hinv : w.Inv profile) (hahead : ¬w.store.Covers payment.pagingCursor) :
    (w.observe profile payment).store.SameDeposits
      (sequentialPass profile (w.observe profile payment).history) := by
  have hhistory : (w.observe profile payment).history = w.history ++ [.evaluated payment] := by
    rw [observe, if_neg hahead]
  have hstore : (w.observe profile payment).store.SameDeposits
      (w.store.evaluatePayment profile payment).2 := by
    rcases observePayment_cases profile payment w.store with ⟨hcovers, -⟩ | ⟨-, hmoved⟩
    · exact absurd hcovers hahead
    · rw [observe, hmoved]
      exact ⟨rfl, rfl, rfl⟩
  have hpass : (w.store.evaluatePayment profile payment).2.SameDeposits
      ((sequentialPass profile w.history).evaluatePayment profile payment).2 :=
    hinv.same.evaluatePayment payment
  rw [hhistory, sequentialPass_concat]
  exact ⟨hstore.mintQuotes.trans hpass.mintQuotes,
    hstore.claimedOperations.trans hpass.claimedOperations,
    hstore.claimedTransactions.trans hpass.claimedTransactions⟩

theorem keeps_observe (hinv : w.Inv profile) (h : Pending (payment :: payments) cursor w) :
    (discipline profile).Keeps w (w.observe profile payment) ∧
      Pending payments cursor (w.observe profile payment) := by
  obtain ⟨before, r, after, hsource, hr, hread, hrest⟩ := h.next
  have hcursor : payment.pagingCursor = r.cursor := r.paged payment hr
  have hkey : (payment.pagingCursor : WithBot LedgerCursor) = (r.cursor : WithBot LedgerCursor) := by
    rw [hcursor]
  have hle : w.position ≤ (w.observe profile payment).position := le_position_observe w payment
  have hgrow : w.Grows (w.observe profile payment) := ⟨⟨[], by simp [observe]⟩, hle⟩
  by_cases hcovers : w.store.Covers payment.pagingCursor
  · have hsame : w.observe profile payment = w := by
      rcases observePayment_cases profile payment w.store with ⟨-, hstore⟩ | ⟨hahead, -⟩
      · rw [observe, hstore, if_pos hcovers]
      · exact absurd hcovers hahead
    have hreached : (r.cursor : WithBot LedgerCursor) ≤ w.position :=
      hkey ▸ (w.covers_iff payment.pagingCursor).mp hcovers
    rw [hsame]
    exact ⟨(discipline profile).keeps_self hinv, hrest w rfl (le_refl _) hreached⟩
  · have hnew : w.position < (r.cursor : WithBot LedgerCursor) :=
      hkey ▸ not_le.mp ((w.covers_iff payment.pagingCursor).not.mp hcovers)
    have hposition : (w.observe profile payment).position = (r.cursor : WithBot LedgerCursor) := by
      rw [position_observe, if_neg hcovers, hkey]
    have hascending := hinv.ascending
    rw [hsource] at hascending
    refine ⟨⟨⟨hinv.ascending, ?_, ?_, same_observe hinv hcovers⟩, hgrow⟩,
      hrest _ rfl hle hposition.ge⟩
    · intro p hp
      rw [hposition, WithBot.coe_inj] at hp
      have hmem : r ∈ w.source := by
        rw [hsource]
        exact List.mem_append_right _ List.mem_cons_self
      exact ⟨r, hmem, hp⟩
    · have hhistory : (w.observe profile payment).history = w.history ++ [.evaluated payment] := by
        rw [observe, if_neg hcovers]
      have hfeed : (w.observe profile payment).source = before ++ r :: after := hsource
      rw [hhistory, List.filterMap_append, hinv.read, hposition, hfeed,
        readUpTo_next hascending hr hread hnew, hsource]
      rfl

theorem keeps_advance (hinv : w.Inv profile) {last : LedgerCursor}
    (h : Pending [] (some last) w) :
    (discipline profile).Keeps w { w with store := w.store.advanceCursor last } := by
  obtain ⟨before, page, after, hsource, hpage, hread, hlast⟩ := h
  obtain ⟨r, hr, rfl⟩ := hlast last rfl
  by_cases hcovers : w.store.Covers r.cursor
  · rw [advanceCursor, if_pos hcovers]
    exact (discipline profile).keeps_self hinv
  have hposition : position { w with store := w.store.advanceCursor r.cursor } =
      (r.cursor : WithBot LedgerCursor) := by
    rw [position, advanceCursor, if_neg hcovers]
    rfl
  have hle : w.position ≤ (r.cursor : WithBot LedgerCursor) :=
    (not_le.mp ((w.covers_iff r.cursor).not.mp hcovers)).le
  obtain ⟨init, hinit⟩ := List.getLast?_eq_some_iff.mp hr
  have hascending := hinv.ascending
  rw [hsource, hinit, List.append_assoc, List.singleton_append] at hascending
  have hread' : ∀ r' ∈ w.source, (r'.cursor : WithBot LedgerCursor) ≤ (r.cursor : WithBot LedgerCursor) →
      (r'.cursor : WithBot LedgerCursor) ≤ w.position ∨ r'.payment = none := by
    intro r' hr' hle'
    rw [hsource] at hr'
    rcases List.mem_append.mp hr' with hr' | hr'
    · rcases List.mem_append.mp hr' with hr' | hr'
      · exact hread r' hr'
      · exact .inr (List.filterMap_eq_nil_iff.mp hpage r' hr')
    · have hbeyond : r.cursor < r'.cursor := hascending.beyond.2 r' hr'
      exact absurd (WithBot.coe_le_coe.mp hle') (not_le.mpr hbeyond)
  refine ⟨⟨hinv.ascending, ?_, ?_, ?_⟩, ⟨[], by simp⟩, hposition ▸ hle⟩
  · intro p hp
    rw [hposition, WithBot.coe_inj] at hp
    have hmem : r ∈ w.source := by
      rw [hsource, hinit]
      simp
    exact ⟨r, hmem, hp⟩
  · rw [hposition, readUpTo_skip hle hread']
    exact hinv.read
  · rw [advanceCursor, if_neg hcovers]
    exact ⟨hinv.same.mintQuotes, hinv.same.claimedOperations, hinv.same.claimedTransactions⟩

/-! ### The world by itself -/

theorem Moves.keeps (hinv : w.Inv profile) (hmove : Moves w w') :
    (discipline profile).Keeps w w' := by
  cases hmove with
  | @closed record hlast =>
      have hascending : Ascending SourceRecord.cursor (w.source ++ [record]) := by
        rw [Ascending, List.pairwise_append]
        exact ⟨hinv.ascending, List.pairwise_singleton _ _, fun r hr r' hr' => by
          rw [List.mem_singleton.mp hr']
          exact hlast r hr⟩
      have hbeyond : ∀ r ∈ [record], w.position < (r.cursor : WithBot LedgerCursor) := by
        intro r hr
        rw [List.mem_singleton.mp hr]
        cases hposition : w.position with
        | bot => exact WithBot.bot_lt_coe _
        | coe p =>
            obtain ⟨reached, hreached, rfl⟩ := hinv.reached p hposition
            exact WithBot.coe_lt_coe.mpr (hlast reached hreached)
      refine ⟨⟨hascending, ?_, ?_, hinv.same⟩, ⟨[record], rfl⟩, le_refl _⟩
      · intro p hp
        obtain ⟨r, hr, hkey⟩ := hinv.reached p hp
        exact ⟨r, List.mem_append_left _ hr, hkey⟩
      · have hread : readUpTo SourceRecord.cursor SourceRecord.payment w.position
            (w.source ++ [record]) =
              readUpTo SourceRecord.cursor SourceRecord.payment w.position w.source := by
          rw [readUpTo_append, readUpTo_of_beyond hbeyond, List.append_nil]
        exact hinv.read.trans hread.symm
  | @inserted quote store hinsert =>
      have hsame : store.SameDeposits
          (sequentialPass profile (w.history ++ [.inserted quote])) := by
        obtain ⟨next, hnext, hsame⟩ := hinv.same.insertMintQuote hinsert
        rw [sequentialPass_concat, DepositEvent.apply, hnext]
        exact hsame
      have hposition : position { w with store := store, history := w.history ++ [.inserted quote] } =
          w.position := by
        rcases insertMintQuote_ok hinsert with rfl | ⟨-, -, rfl⟩ <;> rfl
      refine ⟨⟨hinv.ascending, ?_, ?_, hsame⟩, ⟨[], by simp⟩, hposition.ge⟩
      · rw [hposition]
        exact hinv.reached
      · rw [hposition, List.filterMap_append, hinv.read]
        exact List.append_nil _
  | melted =>
      exact ⟨⟨hinv.ascending, hinv.reached, hinv.read,
        ⟨hinv.same.mintQuotes, hinv.same.claimedOperations, hinv.same.claimedTransactions⟩⟩,
        ⟨[], by simp⟩, le_refl _⟩

end ScanWorld

/-! ### Scans are safe -/

open ScanWorld

theorem safe_advanceTo (h : Pending [] cursor w) :
    Safe (scans profile) (discipline profile) (fun _ _ => True) (fun _ _ => True)
      (advanceTo cursor) w := by
  cases cursor with
  | none => trivial
  | some last =>
      intro w₁ hinv hgrow answer w₂ hscan
      rcases hscan with ⟨rfl, rfl⟩ | ⟨⟨error, rfl⟩, rfl⟩
      · exact ⟨keeps_advance hinv (h.grows hgrow), trivial⟩
      · exact ⟨(discipline profile).keeps_self hinv, trivial⟩

/-- Showing the payments of a page, by induction on those still pending. -/
theorem safe_observeAll (h : Pending payments cursor w) :
    Safe (scans profile) (discipline profile) (fun _ w' => Pending [] cursor w')
      (fun _ _ => True) (observeAll payments) w := by
  induction payments generalizing w with
  | nil => exact h
  | cons payment payments ih =>
      intro w₁ hinv hgrow answer w₂ hscan
      rcases hscan with ⟨rfl, rfl⟩ | ⟨⟨error, rfl⟩, rfl⟩
      · obtain ⟨hkeeps, hrest⟩ := keeps_observe hinv (h.grows hgrow)
        exact ⟨hkeeps, ih hrest⟩
      · exact ⟨(discipline profile).keeps_self hinv, trivial⟩

theorem safe_scanDeposits (profile : StellarProfile) (w : ScanWorld) :
    Safe (scans profile) (discipline profile) (fun _ _ => True) (fun _ _ => True) scanDeposits w := by
  intro w₁ hinv₁ _ answer w₂ hscan
  obtain ⟨rfl | ⟨error, rfl⟩, rfl⟩ := hscan
  · refine ⟨(discipline profile).keeps_self hinv₁, ?_⟩
    intro w₃ hinv₃ hgrow answer w₄ hscan
    obtain ⟨⟨size, rfl⟩ | ⟨error, rfl⟩, rfl⟩ := hscan
    · refine ⟨(discipline profile).keeps_self hinv₃, ?_⟩
      have hpending := pending_ofPage hinv₃ hgrow.position size
      change Safe _ _ _ _ (observeAll _ >>= fun _ => advanceTo _) _
      exact safe_bind (safe_mono (fun _ _ h => safe_advanceTo h) (fun _ _ h => h)
        (safe_observeAll hpending))
    · exact ⟨(discipline profile).keeps_self hinv₃, trivial⟩
  · exact ⟨(discipline profile).keeps_self hinv₁, trivial⟩

theorem inv_of_scanReachable {c : ScanSystem} (hrun : ScanReachable profile c) :
    c.shared.Inv profile := by
  have hsound : Pool.Sound (scans profile) (discipline profile) (fun (_ : Unit) _ => True)
      (fun (_ : ScanError) _ => True) ⟨ScanWorld.initial, []⟩ :=
    ⟨inv_initial, fun p hp => by cases hp⟩
  have hstable : ∀ {α : Type}, (discipline profile).Stable (fun (_ : α) _ => True) :=
    fun _ _ _ _ _ => trivial
  have hend := Pool.sound_of_run hstable hstable
    (fun p w hstart _ => hstart ▸ safe_scanDeposits profile w)
    (fun w w' hinv hmove => hmove.keeps hinv) hsound hrun
  exact hend.1.inv

/-- The payments up to the durable cursor have been evaluated, each once and in the order of the
source, and the claims are those of one pass over the evaluations and insertions. -/
theorem scanned_once {c : ScanSystem} (hrun : ScanReachable profile c) :
    c.shared.history.filterMap DepositEvent.payment? =
        (c.shared.source.filter fun r => c.shared.store.Covers r.cursor).filterMap
          SourceRecord.payment ∧
      (c.shared.history.filterMap DepositEvent.payment?).Pairwise
        (fun p₁ p₂ => p₁.pagingCursor < p₂.pagingCursor) ∧
      c.shared.store.SameDeposits (sequentialPass profile c.shared.history) := by
  have hinv := inv_of_scanReachable hrun
  have hread : c.shared.history.filterMap DepositEvent.payment? =
      (c.shared.source.filter fun r => c.shared.store.Covers r.cursor).filterMap
        SourceRecord.payment := by
    rw [hinv.read, readUpTo]
    simp only [covers_iff]
  refine ⟨hread, ?_, hinv.same⟩
  rw [hread, List.pairwise_filterMap]
  refine (hinv.ascending.filter _).imp ?_
  intro r₁ r₂ hlt p₁ hp₁ p₂ hp₂
  rw [r₁.paged p₁ hp₁, r₂.paged p₂ hp₂]
  exact hlt

/-! ### A scan

One call that finds the payment of a quote. -/

section Sample

open DepositWorld

def sampleSourceRecord : SourceRecord :=
  { cursor := sampleDepositCursor
    payment := some sampleDeposit
    paged := fun _ hp => congrArg ObservedPayment.pagingCursor (Option.some.inj hp).symm }

abbrev sampleProfile : StellarProfile := .testnetUsdc sampleAccount

/-- The quote is in the store and its payment in the source. -/
def sampleQuoted : ScanWorld :=
  { store := sampleQuotedStore, source := [sampleSourceRecord], history := [.inserted sampleMintQuote] }

def sampleObserved : ScanWorld :=
  sampleQuoted.observe sampleProfile sampleDeposit

def sampleScanned : ScanWorld :=
  { sampleObserved with store := sampleObserved.store.advanceCursor sampleDepositCursor }

private theorem sample_scans {effect : ScanEffect} {w w' : ScanWorld} {answer : ScanAnswer effect}
    {next : ScanAnswer effect → Scan Unit} (h : scans sampleProfile effect w answer w') :
    ScanStep sampleProfile ⟨w, [.ask effect next]⟩ ⟨w', [next answer]⟩ :=
  @Pool.Step.effect _ _ _ _ _ _ _ _ _ _ [] [] _ next _ h

theorem reachable_sampleQuoted : ScanReachable sampleProfile ⟨sampleQuoted, []⟩ := by
  have hinserted : ScanStep sampleProfile ⟨.initial, []⟩
      ⟨{ store := sampleQuotedStore, source := [], history := [.inserted sampleMintQuote] }, []⟩ :=
    .world (.inserted insert_sampleMintQuote)
  have hclosed : ScanWorld.Moves
      { store := sampleQuotedStore, source := [], history := [.inserted sampleMintQuote] } sampleQuoted :=
    .closed fun r hr => by cases hr
  exact (Relation.ReflTransGen.single hinserted).tail (.world hclosed)

theorem reachable_sampleScanned : ScanReachable sampleProfile ⟨sampleScanned, [.done ()]⟩ := by
  have hpage : pageAfter SourceRecord.cursor (positionOf none) 1 sampleQuoted.source =
      [sampleSourceRecord] := by
    simp [pageAfter, positionOf, sampleQuoted]
  have hbatch : scans sampleProfile (.paymentsAfter none) sampleQuoted
      (.ok ⟨[sampleDeposit], some sampleDepositCursor⟩) sampleQuoted :=
    ⟨.inl ⟨1, by rw [hpage]; rfl⟩, rfl⟩
  have hstart : ScanStep sampleProfile ⟨sampleQuoted, []⟩ ⟨sampleQuoted, [scanDeposits]⟩ :=
    .start rfl
  have hsnapshot := reachable_sampleQuoted.tail hstart |>.tail
    (@sample_scans .snapshot _ sampleQuoted (.ok none) _ ⟨.inl rfl, rfl⟩)
  have hfetched := hsnapshot.tail (@sample_scans (.paymentsAfter none) _ _ _ _ hbatch)
  have hobserved := hfetched.tail
    (@sample_scans (.observePayment sampleDeposit) _ sampleObserved _ _ (.inl ⟨rfl, rfl⟩))
  exact hobserved.tail
    (@sample_scans (.advanceCursor sampleDepositCursor) _ sampleScanned _ _ (.inl ⟨rfl, rfl⟩))

theorem scanned_once_sampleScanned :
    sampleScanned.history.filterMap DepositEvent.payment? = [sampleDeposit] ∧
      sampleScanned.store.SameDeposits (sequentialPass sampleProfile sampleScanned.history) := by
  obtain ⟨hread, -, hsame⟩ := scanned_once reachable_sampleScanned
  refine ⟨hread.trans ?_, hsame⟩
  decide +kernel

end Sample

end CashMesh.StellarSettlement
