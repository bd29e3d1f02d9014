import CashMesh.StellarSettlement.Incoming
import CashMesh.StellarSettlement.Scanning
/-!
# Scans of Horizon's ledger

A scan of Horizon is a scan of the ledger's payments, so all that is known of the scanner holds of it.
What is shown here besides is that no scan moves the cursor past a record that cannot be read: a page
with such a record is no batch, so the cursor stays in front of it.
-/

namespace CashMesh.StellarSettlement

open CashMesh.Lib

variable {crates : Crates} {profile : StellarProfile} {w w' : IncomingWorld}
variable {payment : ObservedPayment} {payments : List ObservedPayment} {cursor : Option LedgerCursor}

/-- What Horizon answers to a scan, the scanner's own source could have answered. -/
theorem scans_of_scansHorizon (effect : ScanEffect) (w : IncomingWorld) (answer : ScanAnswer effect)
    (w' : IncomingWorld) (h : scansHorizon crates profile effect w answer w') :
    scans profile effect (w.toScan crates profile) answer (w'.toScan crates profile) := by
  cases effect with
  | snapshot =>
      obtain ⟨hanswer, rfl⟩ := h
      exact ⟨hanswer, rfl⟩
  | paymentsAfter cursor =>
      obtain ⟨⟨networkPassphrase, size, -, rfl⟩ | herror, rfl⟩ := h
      · rw [tokenPosition_toText]
        cases hpage : horizonPaymentsAfter crates profile networkPassphrase
            ((pageAfter LedgerRecord.cursor (positionOf cursor) size w'.ledger).map
              LedgerRecord.record) with
        | error error => exact ⟨.inr ⟨_, rfl⟩, rfl⟩
        | ok batch =>
            obtain ⟨-, rfl⟩ := horizonPaymentsAfter_ok hpage
            refine ⟨.inl ⟨size, ?_⟩, rfl⟩
            rw [IncomingWorld.toScan, pageAfter_map]
            rfl
      · exact ⟨.inr herror, rfl⟩
  | observePayment payment =>
      obtain ⟨rfl, rfl⟩ | ⟨herror, rfl⟩ := h
      · exact .inl ⟨rfl, rfl⟩
      · exact .inr ⟨herror, rfl⟩
  | advanceCursor cursor =>
      obtain ⟨rfl, rfl⟩ | ⟨herror, rfl⟩ := h
      · exact .inl ⟨rfl, rfl⟩
      · exact .inr ⟨herror, rfl⟩

namespace IncomingWorld

/-! ### Records that can be read -/

/-- A cursor of the ledger, every record up to which can be read. -/
structure Passable (crates : Crates) (profile : StellarProfile) (cursor : LedgerCursor)
    (w : IncomingWorld) : Prop where
  reached : ∃ r ∈ w.ledger, r.cursor = cursor
  readable : ∀ r ∈ w.ledger, r.cursor ≤ cursor → r.Readable crates profile

/-- The ledger is in order, and the cursor has passed no record that cannot be read. -/
structure Passed (crates : Crates) (profile : StellarProfile) (w : IncomingWorld) : Prop where
  ascending : Ascending LedgerRecord.cursor w.ledger
  passed : ∀ cursor : LedgerCursor, w.position = cursor → Passable crates profile cursor w

/-- The ledger is only added to at its end and the cursor only moves forward. -/
structure Extends (w w' : IncomingWorld) : Prop where
  ledger : ∃ more, w'.ledger = w.ledger ++ more ∧
    ∀ r ∈ w.ledger, ∀ r' ∈ more, r.cursor < r'.cursor
  position : w.position ≤ w'.position

theorem Extends.of_ledger (hledger : w'.ledger = w.ledger) (hposition : w.position ≤ w'.position) :
    w.Extends w' :=
  ⟨⟨[], by simp [hledger], by simp⟩, hposition⟩

theorem Extends.trans {w₁ w₂ w₃ : IncomingWorld} (h₁₂ : w₁.Extends w₂) (h₂₃ : w₂.Extends w₃) :
    w₁.Extends w₃ := by
  obtain ⟨more, hmore, hbeyond⟩ := h₁₂.ledger
  obtain ⟨more', hmore', hbeyond'⟩ := h₂₃.ledger
  refine ⟨⟨more ++ more', ?_, ?_⟩, h₁₂.position.trans h₂₃.position⟩
  · rw [hmore', hmore, List.append_assoc]
  · intro r hr r' hr'
    rcases List.mem_append.mp hr' with hr' | hr'
    · exact hbeyond r hr r' hr'
    · exact hbeyond' r (hmore ▸ List.mem_append_left _ hr) r' hr'

theorem Passable.extends {cursor : LedgerCursor} (h : Passable crates profile cursor w)
    (hgrow : w.Extends w') : Passable crates profile cursor w' := by
  obtain ⟨more, hmore, hbeyond⟩ := hgrow.ledger
  obtain ⟨last, hlast, hcursor⟩ := h.reached
  refine ⟨⟨last, hmore ▸ List.mem_append_left _ hlast, hcursor⟩, ?_⟩
  intro r hr hle
  rw [hmore] at hr
  rcases List.mem_append.mp hr with hr | hr
  · exact h.readable r hr hle
  · have hlt : last.cursor < r.cursor := hbeyond last hlast r hr
    exact absurd (hcursor ▸ hlt) (not_lt.mpr hle)

def passing (crates : Crates) (profile : StellarProfile) : Discipline IncomingWorld where
  inv := Passed crates profile
  grows := Extends
  refl _ := .of_ledger rfl (le_refl _)
  trans := Extends.trans

theorem passing_keeps (hinv : w.Passed crates profile) (hledger : w'.ledger = w.ledger)
    (hle : w.position ≤ w'.position)
    (hposition : w'.position = w.position ∨ ∃ cursor : LedgerCursor,
      w'.position = cursor ∧ Passable crates profile cursor w) :
    (passing crates profile).Keeps w w' := by
  have hgrow : w.Extends w' := .of_ledger hledger hle
  refine ⟨⟨hledger ▸ hinv.ascending, ?_⟩, hgrow⟩
  intro cursor hcursor
  obtain hsame | ⟨next, hnext, hpassable⟩ := hposition
  · exact (hinv.passed cursor (hsame ▸ hcursor)).extends hgrow
  · rw [hnext, WithBot.coe_inj] at hcursor
    exact hcursor ▸ hpassable.extends hgrow

/-- The records of a page that was answered may be passed. -/
theorem passable_of_page (hinv : w.Passed crates profile) {start : WithBot LedgerCursor}
    (hstart : start ≤ w.position) {size : Nat}
    (hreadable : ∀ r ∈ pageAfter LedgerRecord.cursor start size w.ledger, r.Readable crates profile)
    {r : LedgerRecord} (hr : r ∈ pageAfter LedgerRecord.cursor start size w.ledger) :
    Passable crates profile r.cursor w := by
  obtain ⟨before, after, hledger, hbefore⟩ :=
    @exists_split_pageAfter _ _ _ _ _ start hinv.ascending size
  have hmem : r ∈ w.ledger := by
    rw [hledger]
    exact List.mem_append_left _ (List.mem_append_right _ hr)
  refine ⟨⟨r, hmem, rfl⟩, ?_⟩
  intro r' hr' hle
  have hascending := hinv.ascending
  rw [hledger, Ascending, List.pairwise_append] at hascending
  rw [hledger] at hr'
  rcases List.mem_append.mp hr' with hr' | hr'
  · rcases List.mem_append.mp hr' with hr' | hr'
    · have hpassed : (r'.cursor : WithBot LedgerCursor) ≤ w.position :=
        (hbefore r' hr').trans hstart
      cases hposition : w.position with
      | bot =>
          rw [hposition] at hpassed
          exact absurd hpassed (not_le.mpr (WithBot.bot_lt_coe _))
      | coe cursor =>
          rw [hposition, WithBot.coe_le_coe] at hpassed
          refine (hinv.passed cursor hposition).readable r' ?_ hpassed
          rw [hledger]
          exact List.mem_append_left _ (List.mem_append_left _ hr')
    · exact hreadable r' hr'
  · have hlt : r.cursor < r'.cursor := hascending.2.2 r (List.mem_append_right _ hr) r' hr'
    exact absurd hle (not_le.mpr hlt)

/-- The payments still to be shown and the cursor of the page may be passed. -/
structure Shown (crates : Crates) (profile : StellarProfile) (payments : List ObservedPayment)
    (cursor : Option LedgerCursor) (w : IncomingWorld) : Prop where
  payments : ∀ p ∈ payments, Passable crates profile p.pagingCursor w
  cursor : ∀ last ∈ cursor, Passable crates profile last w

theorem Shown.extends (h : Shown crates profile payments cursor w) (hgrow : w.Extends w') :
    Shown crates profile payments cursor w' :=
  ⟨fun p hp => (h.payments p hp).extends hgrow, fun last hlast => (h.cursor last hlast).extends hgrow⟩

theorem shown_of_page (hinv : w.Passed crates profile) {start : WithBot LedgerCursor}
    (hstart : start ≤ w.position) {networkPassphrase : String} {size : Nat} {batch : DepositBatch}
    (hbatch : horizonPaymentsAfter crates profile networkPassphrase
      ((pageAfter LedgerRecord.cursor start size w.ledger).map LedgerRecord.record) = .ok batch) :
    Shown crates profile batch.payments batch.cursor w := by
  obtain ⟨hreadable, rfl⟩ := horizonPaymentsAfter_ok hbatch
  refine ⟨?_, ?_⟩
  · intro p hp
    obtain ⟨source, hsource, hpayment⟩ := List.mem_filterMap.mp hp
    obtain ⟨r, hr, rfl⟩ := List.mem_map.mp hsource
    have hcursor : p.pagingCursor = r.cursor :=
      (r.toSource crates profile).paged p hpayment
    exact hcursor ▸ passable_of_page hinv hstart hreadable hr
  · intro last hlast
    obtain ⟨source, hsource, rfl⟩ := Option.map_eq_some_iff.mp hlast
    obtain ⟨r, hr, rfl⟩ := List.mem_map.mp (List.mem_of_getLast? hsource)
    exact passable_of_page hinv hstart hreadable hr

/-! ### Scans pass no record that cannot be read -/

theorem position_observe (w : IncomingWorld) (payment : ObservedPayment) :
    (w.observe profile payment).position = w.position ∨
      w.position ≤ (payment.pagingCursor : WithBot LedgerCursor) ∧
        (w.observe profile payment).position = (payment.pagingCursor : WithBot LedgerCursor) := by
  rcases PersistentState.observePayment_cases profile payment w.store with
    ⟨-, hsame⟩ | ⟨hahead, hmoved⟩
  · exact .inl (by rw [position, observe, hsame, position])
  · have hnot := ((⟨w.store, [], w.history⟩ : ScanWorld).covers_iff payment.pagingCursor).not.mp hahead
    refine .inr ⟨(not_le.mp hnot).le, ?_⟩
    rw [position, observe, hmoved]
    rfl

theorem position_advance (w : IncomingWorld) (last : LedgerCursor) :
    position { w with store := w.store.advanceCursor last } = w.position ∨
      w.position ≤ (last : WithBot LedgerCursor) ∧
        position { w with store := w.store.advanceCursor last } = (last : WithBot LedgerCursor) := by
  by_cases hcovers : w.store.Covers last
  · exact .inl (by rw [PersistentState.advanceCursor, if_pos hcovers])
  · have hnot := ((⟨w.store, [], w.history⟩ : ScanWorld).covers_iff last).not.mp hcovers
    refine .inr ⟨(not_le.mp hnot).le, ?_⟩
    rw [position, PersistentState.advanceCursor, if_neg hcovers]
    rfl

end IncomingWorld

open IncomingWorld

theorem passing_of_moved (hinv : w.Passed crates profile) {next : LedgerCursor}
    (hpassable : Passable crates profile next w) (hledger : w'.ledger = w.ledger)
    (hmoved : w'.position = w.position ∨
      w.position ≤ (next : WithBot LedgerCursor) ∧ w'.position = (next : WithBot LedgerCursor)) :
    (passing crates profile).Keeps w w' := by
  rcases hmoved with hsame | ⟨hle, hnext⟩
  · exact passing_keeps hinv hledger hsame.ge (.inl hsame)
  · exact passing_keeps hinv hledger (hnext ▸ hle) (.inr ⟨next, hnext, hpassable⟩)

theorem passing_advanceTo (h : Shown crates profile [] cursor w) :
    Safe (scansHorizon crates profile) (passing crates profile) (fun _ _ => True) (fun _ _ => True)
      (advanceTo cursor) w := by
  cases cursor with
  | none => trivial
  | some last =>
      intro w₁ hinv hgrow answer w₂ hscan
      obtain ⟨rfl, rfl⟩ | ⟨⟨error, rfl⟩, rfl⟩ := hscan
      · exact ⟨passing_of_moved hinv ((h.extends hgrow).cursor last rfl) rfl
          (position_advance w₁ last), trivial⟩
      · exact ⟨(passing crates profile).keeps_self hinv, trivial⟩

/-- Showing the payments of a page, by induction on those still to be shown. -/
theorem passing_observeAll (h : Shown crates profile payments cursor w) :
    Safe (scansHorizon crates profile) (passing crates profile)
      (fun _ w' => Shown crates profile [] cursor w') (fun _ _ => True) (observeAll payments) w := by
  induction payments generalizing w with
  | nil => exact h
  | cons payment payments ih =>
      intro w₁ hinv hgrow answer w₂ hscan
      have hshown := h.extends hgrow
      obtain ⟨rfl, rfl⟩ | ⟨⟨error, rfl⟩, rfl⟩ := hscan
      · have hkeeps : (passing crates profile).Keeps w₁ (w₁.observe profile payment) :=
          passing_of_moved hinv (hshown.payments payment List.mem_cons_self) rfl
            (w₁.position_observe payment)
        have hrest : Shown crates profile payments cursor w₁ :=
          ⟨fun p hp => hshown.payments p (List.mem_cons_of_mem _ hp), hshown.cursor⟩
        exact ⟨hkeeps, ih (hrest.extends hkeeps.2)⟩
      · exact ⟨(passing crates profile).keeps_self hinv, trivial⟩

theorem passing_scanDeposits (w : IncomingWorld) :
    Safe (scansHorizon crates profile) (passing crates profile) (fun _ _ => True) (fun _ _ => True)
      scanDeposits w := by
  intro w₁ hinv₁ _ answer w₂ hscan
  obtain ⟨rfl | ⟨error, rfl⟩, rfl⟩ := hscan
  · refine ⟨(passing crates profile).keeps_self hinv₁, ?_⟩
    intro w₃ hinv₃ hgrow answer w₄ hscan
    obtain ⟨⟨networkPassphrase, size, -, rfl⟩ | ⟨error, rfl⟩, rfl⟩ := hscan
    · refine ⟨(passing crates profile).keeps_self hinv₃, ?_⟩
      rw [tokenPosition_toText]
      cases hbatch : horizonPaymentsAfter crates profile networkPassphrase
          ((pageAfter LedgerRecord.cursor (positionOf w₂.store.pagingCursor) size w₄.ledger).map
            LedgerRecord.record) with
      | error error => trivial
      | ok batch =>
          have hshown := shown_of_page hinv₃ hgrow.position hbatch
          change Safe _ _ _ _ (observeAll batch.payments >>= fun _ => advanceTo batch.cursor) _
          exact safe_bind (safe_mono (fun _ _ h => passing_advanceTo h) (fun _ _ h => h)
            (passing_observeAll hshown))
    · exact ⟨(passing crates profile).keeps_self hinv₃, trivial⟩
  · exact ⟨(passing crates profile).keeps_self hinv₁, trivial⟩

end CashMesh.StellarSettlement
