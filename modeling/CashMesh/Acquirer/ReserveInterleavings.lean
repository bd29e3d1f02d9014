import CashMesh.Acquirer.Reservations
import CashMesh.Acquirer.Reserving
/-!
# Reservations under every interleaving

A call of `reserve` writes at its commit only, and its commit is the whole operation over the rows that
it finds there: the deferred check of the reservation asks again for the invoice, its window and the
keysets, and the keys ask again for the payment and the proofs. So the committed rows of a world are
always those of whole operations, whatever its calls were doing at the same time. A payment that is
reserved stays so, and a call for it that begins later replays it or is refused.
-/

namespace CashMesh.Acquirer

open CashMesh.Lib

variable {db db' : Db}

/-! ### What a commit writes -/

/-- The inserts of a call are those of the repository. -/
theorem reserveSession_inserts {reservation : CashuProofReservation} {s : Session}
    (h : reserveSession db reservation.inserts = .ok s) :
    ∃ s₁, insertReservation ⟨db, []⟩ (reservationRow reservation) = .ok s₁ ∧
      reservation.proofReferences.zipIdx.foldlM (fun s proof =>
        reservationStatement (insertReservedProof s (reservedProofRow reservation proof))) s₁ = .ok s := by
  rw [reserveSession, CashuProofReservation.inserts] at h
  simp only [List.foldlM_cons, bind_eq_ok, ReserveInsert.run, List.foldlM_map] at h
  obtain ⟨s₁, hreservation, hproofs⟩ := h
  refine ⟨s₁, hreservation, ?_⟩
  apply foldlM_ok_mono ?_ hproofs
  intro s proof _ s' hstep
  exact reservationStatement_eq_ok.mpr hstep

theorem deferred_of_insertReservedProofs {reservation : CashuProofReservation} {s s' : Session}
    {proofs : List (CashuProofReference × Nat)}
    (h : proofs.foldlM (fun s proof =>
      reservationStatement (insertReservedProof s (reservedProofRow reservation proof))) s = .ok s') :
    ∀ check ∈ s.deferred, check ∈ s'.deferred := by
  refine foldlM_ok_induction (motive := fun s _ s' => ∀ check ∈ s.deferred, check ∈ s'.deferred)
    ?_ ?_ h
  · intro s check hcheck
    exact hcheck
  · intro s proof s₁ proofs s' hstep hrest check hcheck
    obtain ⟨_, _, -, -, rfl⟩ := insertReservedProof_ok (reservationStatement_eq_ok.mp hstep)
    apply hrest
    rw [Session.next_deferred]
    exact List.mem_append_left _ hcheck

/-- The deferred check of a reservation asks for what `reserve` has asked for before. -/
theorem reserve_checks_of_commit {reservation : CashuProofReservation} {s : Session}
    (hsession : reserveSession db reservation.inserts = .ok s) (hcommit : s.commit = .ok db') :
    assertInvoiceRoute db reservation = .ok () ∧ assertKeysetEvidence db reservation = .ok () ∧
      ∀ row ∈ db.cashuProofReservations, ¬Collide row (reservationRow reservation) := by
  obtain ⟨s₁, hinsert, hproofs⟩ := reserveSession_inserts hsession
  obtain ⟨hchecks, rfl⟩ := Session.commit_eq_ok.mp hcommit
  have hroute := hinsert
  simp only [insertReservation, bind_eq_ok, ensure_eq_ok, exists_unit, pure_eq_ok] at hroute
  obtain ⟨-, -, -, -, ⟨-, route, hrouteMem, hrouteFits⟩, -⟩ := hroute
  obtain ⟨-, reservations, hreservations, rfl⟩ := insertReservation_ok hinsert
  obtain ⟨rows, claims, hrows, -, hdb⟩ := insertReservedProofs_ok hproofs
  have hcheck : s.db.Satisfies (.reservation reservation.paymentId) := by
    apply hchecks
    apply deferred_of_insertReservedProofs hproofs
    simp [Session.next, reservationRow]
  have hstored : s.db.reservation reservation.paymentId = some (reservationRow reservation) := by
    have hmem : reservationRow reservation ∈ s.db.cashuProofReservations := by
      rw [hdb]
      exact hreservations.mem.mpr (.inr (List.mem_singleton_self _))
    exact reservation_of_mem hmem
  obtain ⟨invoice, hinvoice, hvalid⟩ := hcheck _ hstored
  have hinvoice : db.invoice reservation.invoiceId = some invoice := by
    rw [hdb] at hinvoice
    exact hinvoice
  refine ⟨?_, ?_, ?_⟩
  · have hfound : (db.routeOf reservation.invoiceId reservation.operatorId
        reservation.mintUrl).isSome := by
      cases hfind : db.routeOf reservation.invoiceId reservation.operatorId reservation.mintUrl with
      | some found => rfl
      | none => exact absurd hrouteFits (Table.find_none.mp hfind route hrouteMem)
    simp only [assertInvoiceRoute, bind_eq_ok, orFail_eq_ok, ensure_eq_ok, exists_unit]
    exact ⟨invoice, hinvoice, hvalid.isOpen, hvalid.unit, ⟨hvalid.created, hvalid.beforeExpiry⟩,
      hfound⟩
  · rw [assertKeysetEvidence, ensure_eq_ok]
    intro proof hproof
    obtain ⟨position, hposition⟩ := List.mem_iff_getElem?.mp hproof
    have hpair : (proof, position) ∈ reservation.proofReferences.zipIdx :=
      List.mem_zipIdx_iff_getElem?.mpr hposition
    have hmem : reservedProofRow reservation (proof, position) ∈
        s.db.reservedProofsOf reservation.paymentId := by
      rw [Db.reservedProofsOf, mem_orderBy, Table.mem_select, hdb]
      exact ⟨hrows.mem.mpr (.inr (List.mem_map_of_mem hpair)), rfl⟩
    obtain ⟨observation, hobservation, hfits⟩ := hvalid.keysets _ hmem
    rw [hdb] at hobservation
    exact ⟨observation, hobservation, hfits⟩
  · intro row hrow
    exact hreservations.not_collide hrow (List.mem_singleton_self _)

theorem mem_of_commit {reservation : CashuProofReservation}
    (h : reserveSession db reservation.inserts >>= Session.commit = .ok db') :
    reservationRow reservation ∈ db'.cashuProofReservations := by
  obtain ⟨s, hsession, hcommit⟩ := bind_eq_ok.mp h
  obtain ⟨s₁, hinsert, hproofs⟩ := reserveSession_inserts hsession
  obtain ⟨-, rfl⟩ := Session.commit_eq_ok.mp hcommit
  obtain ⟨-, reservations, hreservations, rfl⟩ := insertReservation_ok hinsert
  obtain ⟨rows, claims, -, -, hdb⟩ := insertReservedProofs_ok hproofs
  rw [hdb]
  exact hreservations.mem.mpr (.inr (List.mem_singleton_self _))

/-- A commit is the whole of `reserve` over the rows that it finds committed. -/
theorem reserve_of_commit {input : ReserveInput} {reservation : CashuProofReservation}
    (hcreated : createReservation input = .ok reservation)
    (h : reserveSession db reservation.inserts >>= Session.commit = .ok db') :
    reserve db input = .ok (⟨false, reservation⟩, db') := by
  obtain ⟨s, hsession, hcommit⟩ := bind_eq_ok.mp h
  obtain ⟨hroute, hkeysets, hfree⟩ := reserve_checks_of_commit hsession hcommit
  obtain ⟨s₁, hinsert, hproofs⟩ := reserveSession_inserts hsession
  have hnew : db.reservation reservation.paymentId = none := by
    rw [Db.reservation, Table.find_none]
    intro row hrow hpayment
    exact hfree row hrow (.inl hpayment)
  rw [reserve, bind_eq_ok]
  refine ⟨reservation, hcreated, ?_⟩
  rw [hnew]
  simp only [bind_eq_ok, ensure_eq_ok, exists_unit, reservationStatement_eq_ok]
  exact ⟨hroute, hkeysets, hfree, s₁, hinsert, s, hproofs, db', hcommit, rfl⟩

/-! ### What a call knows -/

/-- What a call knows of the committed rows where it is. -/
def ReserveCall.Knows (committed : Db) (call : ReserveCall) : Prop :=
  match call.phase with
  | .looking reservation | .routing reservation | .checking reservation =>
      createReservation call.input = .ok reservation
  | .skipped reservation =>
      createReservation call.input = .ok reservation ∧
        ∃ row ∈ committed.cashuProofReservations, row.paymentId = reservation.paymentId
  | .inserting reservation done rest =>
      createReservation call.input = .ok reservation ∧ done ++ rest = reservation.inserts
  | .found reservation row =>
      createReservation call.input = .ok reservation ∧ row ∈ committed.cashuProofReservations
  | .mapped reservation =>
      createReservation call.input = .ok reservation ∧
        reservationRow reservation ∈ committed.cashuProofReservations
  | .replayed result | .returned result | .lost result =>
      createReservation call.input = .ok result.reservation ∧
        reservationRow result.reservation ∈ committed.cashuProofReservations
  | .entered | .refused _ | .broken => True

theorem ReserveCall.Knows.mono {call : ReserveCall} (h : call.Knows db)
    (hkept : ∀ row ∈ db.cashuProofReservations, row ∈ db'.cashuProofReservations) :
    call.Knows db' := by
  obtain ⟨input, phase⟩ := call
  cases phase with
  | skipped reservation =>
      obtain ⟨hcreated, row, hrow, hpayment⟩ := h
      exact ⟨hcreated, row, hkept row hrow, hpayment⟩
  | found reservation row => exact ⟨h.1, hkept row h.2⟩
  | mapped reservation => exact ⟨h.1, hkept _ h.2⟩
  | replayed result | returned result | lost result => exact ⟨h.1, hkept _ h.2⟩
  | _ => exact h

theorem answer_eq_some {α : Type} {result : Except ReservationError α} {phase : α → ReservePhase}
    {phase' : ReservePhase} (h : ReserveCall.answer db result phase = some (phase', db')) :
    db' = db ∧ ((∃ value, result = .ok value ∧ phase' = phase value) ∨
      ∃ error, result = .error error ∧ phase' = .refused error) := by
  cases result with
  | ok value =>
      cases h
      exact ⟨rfl, .inl ⟨value, rfl, rfl⟩⟩
  | error error =>
      cases h
      exact ⟨rfl, .inr ⟨error, rfl, rfl⟩⟩

theorem readReserved_ok (hstored : StoredReservations db) {row : ReservationRow}
    (hrow : row ∈ db.cashuProofReservations) {expected reservation : CashuProofReservation}
    (h : readReserved db row expected = .ok reservation) :
    reservation = expected ∧ row = reservationRow expected := by
  simp only [readReserved, bind_eq_ok, ensure_eq_ok, exists_unit, hstored.mapReservation hrow,
    Except.ok.injEq] at h
  obtain ⟨hfingerprint, rfl⟩ := h
  obtain ⟨input, -, rfl, -⟩ := hstored row hrow
  exact ⟨hfingerprint, congrArg reservationRow hfingerprint⟩

theorem readReplayable_ok {reservation : CashuProofReservation} {result : ReserveResult}
    (h : readReplayable db reservation = .ok result) : result = ⟨true, reservation⟩ := by
  simp only [readReplayable, bind_eq_ok, ensure_eq_ok, exists_unit, pure_eq_ok,
    Except.ok.injEq] at h
  exact h.2.2.symm

theorem payment_of_skipped (hstored : StoredReservations db) {reservation : CashuProofReservation}
    {insert : ReserveInsert} (hinsert : insert ∈ reservation.inserts) (hskipped : insert.Skipped db) :
    ∃ row ∈ db.cashuProofReservations, row.paymentId = reservation.paymentId := by
  rw [CashuProofReservation.inserts, List.mem_cons, List.mem_map] at hinsert
  rcases hinsert with rfl | ⟨proof, -, rfl⟩
  · obtain ⟨row, hrow, hcollide⟩ := hskipped
    refine ⟨row, hrow, ?_⟩
    rcases hcollide with hpayment | hfingerprint
    · exact hpayment
    · obtain ⟨input, -, rfl, -⟩ := hstored row hrow
      exact congrArg CashuProofReservation.paymentId hfingerprint
  · exact absurd hskipped id

variable {input : ReserveInput} {phase phase' : ReservePhase} {held : List ReserveInsert}

/-- A step of a call writes nothing, or it is the commit, which is the whole operation. -/
theorem advance_cases_reserve (hstored : StoredReservations db)
    (hknows : ReserveCall.Knows db ⟨input, phase⟩)
    (h : ReserveCall.advance db held ⟨input, phase⟩ = some (phase', db')) :
    (db' = db ∧ ReserveCall.Knows db ⟨input, phase'⟩) ∨
      ∃ reservation, phase = .inserting reservation reservation.inserts [] ∧
        phase' = .returned ⟨false, reservation⟩ ∧ ReserveCall.Knows db' ⟨input, phase'⟩ ∧
        reserve db input = .ok (⟨false, reservation⟩, db') := by
  cases phase with
  | entered =>
      obtain ⟨rfl, ⟨reservation, hcreated, rfl⟩ | ⟨error, -, rfl⟩⟩ := answer_eq_some h
      · exact .inl ⟨rfl, hcreated⟩
      · exact .inl ⟨rfl, trivial⟩
  | looking reservation =>
      simp only [ReserveCall.advance] at h
      split at h
      · case h_1 row hrow =>
        cases h
        exact .inl ⟨rfl, hknows, (Table.find_some hrow).1⟩
      · cases h
        exact .inl ⟨rfl, hknows⟩
  | routing reservation =>
      obtain ⟨rfl, ⟨_, -, rfl⟩ | ⟨error, -, rfl⟩⟩ := answer_eq_some h
      · exact .inl ⟨rfl, hknows⟩
      · exact .inl ⟨rfl, trivial⟩
  | checking reservation =>
      obtain ⟨rfl, ⟨_, -, rfl⟩ | ⟨error, -, rfl⟩⟩ := answer_eq_some h
      · exact .inl ⟨rfl, hknows, rfl⟩
      · exact .inl ⟨rfl, trivial⟩
  | inserting reservation done rest =>
      obtain ⟨hcreated, hinserts⟩ := hknows
      cases rest with
      | nil =>
          rw [List.append_nil] at hinserts
          obtain rfl := hinserts
          simp only [ReserveCall.advance] at h
          split at h
          · case h_1 hcommit =>
            cases h
            have hcommit := reservationStatement_eq_ok.mp hcommit
            exact .inr ⟨reservation, rfl, rfl, ⟨hcreated, mem_of_commit hcommit⟩,
              reserve_of_commit hcreated hcommit⟩
          · cases h
            exact .inl ⟨rfl, trivial⟩
      | cons insert rest =>
          have hinsert : insert ∈ reservation.inserts := by
            rw [← hinserts]
            exact List.mem_append_right _ List.mem_cons_self
          simp only [ReserveCall.advance] at h
          split at h
          · case isTrue hskipped =>
            cases h
            exact .inl ⟨rfl, hcreated, payment_of_skipped hstored hinsert hskipped⟩
          · split at h
            · cases h
            · obtain ⟨rfl, ⟨_, -, rfl⟩ | ⟨error, -, rfl⟩⟩ := answer_eq_some h
              · refine .inl ⟨rfl, hcreated, ?_⟩
                rw [List.append_assoc]
                exact hinserts
              · exact .inl ⟨rfl, trivial⟩
  | skipped reservation =>
      obtain ⟨rfl, ⟨row, hrow, rfl⟩ | ⟨error, -, rfl⟩⟩ := answer_eq_some h
      · exact .inl ⟨rfl, hknows.1, (Table.find_some (orFail_eq_ok.mp hrow)).1⟩
      · exact .inl ⟨rfl, trivial⟩
  | found reservation row =>
      obtain ⟨hcreated, hrow⟩ := hknows
      obtain ⟨rfl, ⟨read, hread, rfl⟩ | ⟨error, -, rfl⟩⟩ := answer_eq_some h
      · obtain ⟨rfl, rfl⟩ := readReserved_ok hstored hrow hread
        exact .inl ⟨rfl, hcreated, hrow⟩
      · exact .inl ⟨rfl, trivial⟩
  | mapped reservation =>
      obtain ⟨rfl, ⟨result, hread, rfl⟩ | ⟨error, -, rfl⟩⟩ := answer_eq_some h
      · obtain rfl := readReplayable_ok hread
        exact .inl ⟨rfl, hknows⟩
      · exact .inl ⟨rfl, trivial⟩
  | replayed result =>
      cases h
      exact .inl ⟨rfl, hknows⟩
  | returned result => cases h
  | lost result => cases h
  | refused error => cases h
  | broken => cases h

/-! ### Every step -/

theorem reservations_of_step (h : Step db db') {row : ReservationRow}
    (hrow : row ∈ db.cashuProofReservations) : row ∈ db'.cashuProofReservations := by
  rcases step_cases h with rfl | hchange
  · exact hrow
  · exact (Table.find_some (reservation_of_change hchange (reservation_of_mem hrow))).1

/-- What holds of every world that a run reaches: its rows are those of whole operations, and its calls
know them. -/
structure ReservingSound (w : ReservingWorld) : Prop where
  reachable : Reachable w.committed
  knows : ∀ call ∈ w.calls, call.Knows w.committed

/-- What a step commits: nothing, another operation, or a whole call. -/
def Commits (w w' : ReservingWorld) : Prop :=
  w'.committed = w.committed ∨
    (∃ operation : Operation, (∀ input, operation ≠ .reserve input) ∧
      operation.run w.committed = some w'.committed ∧ w'.calls = w.calls) ∨
    ∃ i input reservation, w.calls[i]? = some ⟨input, .inserting reservation reservation.inserts []⟩ ∧
      w'.calls = w.calls.set i ⟨input, .returned ⟨false, reservation⟩⟩ ∧
      reserve w.committed input = .ok (⟨false, reservation⟩, w'.committed)

theorem ReservingSound.commits {w w' : ReservingWorld} (h : ReservingSound w)
    (hstep : ReservingStep w w') : Commits w w' := by
  cases hstep with
  | enter input => exact .inl rfl
  | advance hcall hadvance =>
      have hknows := h.knows _ (List.mem_of_getElem? hcall)
      rcases advance_cases_reserve (storedReservations_of_reachable h.reachable) hknows hadvance with
        ⟨hsame, -⟩ | ⟨reservation, rfl, rfl, -, hreserve⟩
      · exact .inl hsame
      · exact .inr (.inr ⟨_, _, reservation, hcall, rfl, hreserve⟩)
  | lose hcall => exact .inl rfl
  | «break» hcall hrunning => exact .inl rfl
  | other hother hrun => exact .inr (.inl ⟨_, hother, hrun, rfl⟩)

theorem Commits.run {w w' : ReservingWorld} (h : Commits w w') : Run w.committed w'.committed := by
  rcases h with hsame | ⟨operation, -, hrun, -⟩ | ⟨i, input, reservation, -, -, hreserve⟩
  · rw [hsame]
  · exact .single ⟨operation, hrun⟩
  · exact .single ⟨.reserve input, committed_eq_some.mpr ⟨_, hreserve⟩⟩

theorem reservations_of_run (h : Run db db') {row : ReservationRow}
    (hrow : row ∈ db.cashuProofReservations) : row ∈ db'.cashuProofReservations := by
  induction h with
  | refl => exact hrow
  | tail _ hstep ih => exact reservations_of_step hstep ih

theorem mem_set_cases {α : Type} {l : List α} {i : Nat} {a b : α} (h : b ∈ l.set i a) :
    b = a ∨ b ∈ l :=
  (List.mem_or_eq_of_mem_set h).symm

theorem ReservingSound.step {w w' : ReservingWorld} (h : ReservingSound w)
    (hstep : ReservingStep w w') : ReservingSound w' := by
  have hrun := (h.commits hstep).run
  have hkept : ∀ call ∈ w.calls, call.Knows w'.committed := fun call hcall =>
    (h.knows call hcall).mono fun row hrow => reservations_of_run hrun hrow
  refine ⟨h.reachable.trans hrun, ?_⟩
  cases hstep with
  | enter input =>
      intro call hcall
      rcases List.mem_append.mp hcall with hold | hnew
      · exact hkept call hold
      · rw [List.mem_singleton.mp hnew]
        trivial
  | advance hcall hadvance =>
      intro call hmem
      rcases mem_set_cases hmem with rfl | hold
      · have hknows := h.knows _ (List.mem_of_getElem? hcall)
        rcases advance_cases_reserve (storedReservations_of_reachable h.reachable) hknows hadvance with
          ⟨rfl, hafter⟩ | ⟨_, -, -, hafter, -⟩
        · exact hafter
        · exact hafter
      · exact hkept call hold
  | lose hcall =>
      intro call hmem
      rcases mem_set_cases hmem with rfl | hold
      · have hreturned := hkept _ (List.mem_of_getElem? hcall)
        exact hreturned
      · exact hkept call hold
  | «break» hcall hrunning =>
      intro call hmem
      rcases mem_set_cases hmem with rfl | hold
      · trivial
      · exact hkept call hold
  | other hother hrun => exact hkept

theorem reservingSound_of_run {w w' : ReservingWorld} (h : ReservingSound w)
    (hrun : ReservingRun w w') : ReservingSound w' := by
  induction hrun with
  | refl => exact h
  | tail _ hstep ih => exact ih.step hstep

theorem ReservingSound.run {w w' : ReservingWorld} (h : ReservingSound w) (hrun : ReservingRun w w') :
    Run w.committed w'.committed := by
  induction hrun with
  | refl => exact .refl
  | tail hbefore hstep ih =>
      exact ih.trans ((reservingSound_of_run h hbefore).commits hstep).run

/-! ### Repeats -/

/-- Where a call can be that comes to the row of its payment, which is reserved for the stored terms, by
the rows that were committed when it had the row before it and those that are committed now. -/
def RepeatsStored (stored input : ReserveInput) (before committed : Db) : ReservePhase → Prop
  | .entered | .broken => True
  | .looking reservation | .skipped reservation => input.Valid ∧ reservation = input.reservation
  | .inserting reservation done rest =>
      input.Valid ∧ reservation = input.reservation ∧ done = [] ∧ rest = reservation.inserts
  | .found reservation row =>
      input.Valid ∧ reservation = input.reservation ∧ row = reservationRow stored.reservation
  | .mapped reservation => stored.SameTerms input ∧ reservation = stored.reservation
  | .replayed result | .returned result | .lost result =>
      stored.SameTerms input ∧ result = ⟨true, stored.reservation⟩ ∧
        before.latestState stored.paymentId ≠ some .released
  | .refused error =>
      (¬input.Valid ∧ error = .invalidInput) ∨
        (input.Valid ∧ ¬stored.SameTerms input ∧ error.code = .paymentConflict) ∨
        (stored.SameTerms input ∧ error.code = .reservationReleased ∧
          committed.latestState stored.paymentId = some .released)
  | .routing _ | .checking _ => False

/-- How many steps a repeat has at most before its end. -/
def ReservePhase.left : ReservePhase → Nat
  | entered | inserting .. => 5
  | looking _ | skipped _ => 4
  | found .. => 3
  | mapped _ => 2
  | replayed _ => 1
  | _ => 0

theorem released_of_run (h : Run db db') {paymentId : PaymentId}
    (hreleased : db.latestState paymentId = some .released) :
    db'.latestState paymentId = some .released :=
  run_of_change (fun _ _ hstate hchange => latestState_of_terminal hchange hstate (.inr rfl)) h hreleased

theorem createReservation_error {error : ReservationError}
    (h : createReservation input = .error error) : ¬input.Valid ∧ error = .invalidInput := by
  constructor
  · intro hvalid
    rw [createReservation_eq_ok.mpr ⟨hvalid, rfl⟩] at h
    cases h
  · simp only [createReservation, ensure] at h
    split at h
    · cases h
    · cases h
      rfl

theorem answer_isSome {α : Type} (result : Except ReservationError α) (phase : α → ReservePhase) :
    (ReserveCall.answer db result phase).isSome = true := by
  cases result with
  | ok value => rfl
  | error error => rfl

section Repeats

variable {stored : ReserveInput} {before : Db}

/-- The first insert of a call whose payment is stored is skipped, whoever holds what. -/
theorem advance_of_stored {reservation : CashuProofReservation} {row : ReservationRow}
    (hrow : row ∈ db.cashuProofReservations) (hpayment : row.paymentId = reservation.paymentId) :
    ReserveCall.advance db held ⟨input, .inserting reservation [] reservation.inserts⟩ =
      some (.skipped reservation, db) := by
  rw [CashuProofReservation.inserts]
  exact if_pos ⟨row, hrow, .inl hpayment⟩

theorem RepeatsStored.advances
    (hrow : reservationRow stored.reservation ∈ db.cashuProofReservations)
    (hpayment : input.paymentId = stored.paymentId) (h : RepeatsStored stored input before db phase)
    (hrunning : phase.Running) : (ReserveCall.advance db held ⟨input, phase⟩).isSome = true := by
  cases phase with
  | entered => exact answer_isSome _ _
  | looking reservation =>
      simp only [ReserveCall.advance]
      split
      · rfl
      · rfl
  | inserting reservation done rest =>
      obtain ⟨-, rfl, rfl, rfl⟩ := h
      have hsame : (reservationRow stored.reservation).paymentId = input.reservation.paymentId :=
        hpayment.symm
      exact congrArg Option.isSome (advance_of_stored hrow hsame)
  | skipped reservation => exact answer_isSome _ _
  | found reservation row => exact answer_isSome _ _
  | mapped reservation => exact answer_isSome _ _
  | replayed result => rfl
  | routing reservation | checking reservation => exact absurd h id
  | returned result | lost result | refused error | broken => exact absurd hrunning id

theorem RepeatsStored.advance (hbefore : Run before db) (hreach : Reachable db)
    (hvalid : stored.Valid) (hrow : reservationRow stored.reservation ∈ db.cashuProofReservations)
    (hpayment : input.paymentId = stored.paymentId)
    (h : RepeatsStored stored input before db phase)
    (hadvance : ReserveCall.advance db held ⟨input, phase⟩ = some (phase', db')) :
    db' = db ∧ RepeatsStored stored input before db phase' ∧ phase'.left < phase.left := by
  have hstored := storedReservations_of_reachable hreach
  cases phase with
  | entered =>
      obtain ⟨rfl, ⟨reservation, hcreated, rfl⟩ | ⟨error, herror, rfl⟩⟩ := answer_eq_some hadvance
      · exact ⟨rfl, createReservation_eq_ok.mp hcreated, Nat.lt_succ_self 4⟩
      · exact ⟨rfl, .inl (createReservation_error herror), Nat.succ_pos 4⟩
  | looking reservation =>
      obtain ⟨hinput, rfl⟩ := h
      have hfound : db.reservation input.reservation.paymentId =
          some (reservationRow stored.reservation) := by
        rw [show input.reservation.paymentId = stored.paymentId from hpayment]
        exact reservation_of_mem hrow
      simp only [ReserveCall.advance, hfound] at hadvance
      cases hadvance
      exact ⟨rfl, ⟨hinput, rfl, rfl⟩, Nat.lt_succ_self 3⟩
  | inserting reservation done rest =>
      obtain ⟨hinput, rfl, rfl, rfl⟩ := h
      have hsame : (reservationRow stored.reservation).paymentId = input.reservation.paymentId :=
        hpayment.symm
      rw [advance_of_stored hrow hsame] at hadvance
      cases hadvance
      exact ⟨rfl, ⟨hinput, rfl⟩, Nat.lt_succ_self 4⟩
  | skipped reservation =>
      obtain ⟨hinput, rfl⟩ := h
      have hfound : db.reservation input.reservation.paymentId =
          some (reservationRow stored.reservation) := by
        rw [show input.reservation.paymentId = stored.paymentId from hpayment]
        exact reservation_of_mem hrow
      simp only [ReserveCall.advance, hfound] at hadvance
      cases hadvance
      exact ⟨rfl, ⟨hinput, rfl, rfl⟩, Nat.lt_succ_self 3⟩
  | found reservation row =>
      obtain ⟨hinput, rfl, rfl⟩ := h
      obtain ⟨rfl, ⟨read, hread, rfl⟩ | ⟨error, herror, rfl⟩⟩ := answer_eq_some hadvance
      · simp only [readReserved, bind_eq_ok, ensure_eq_ok, exists_unit,
          hstored.mapReservation hrow, Except.ok.injEq] at hread
        obtain ⟨hsame, rfl⟩ := hread
        exact ⟨rfl, ⟨(reservation_eq_iff hvalid).mp hsame, rfl⟩, Nat.lt_succ_self 2⟩
      · have hother : ¬stored.SameTerms input := by
          intro hsame
          have hequal : stored.reservation = input.reservation := (reservation_eq_iff hvalid).mpr hsame
          rw [readReserved, ensure_of (show (reservationRow stored.reservation).reservationFingerprint =
            input.reservation from hequal), ok_bind, hstored.mapReservation hrow] at herror
          cases herror
        have hdiffers : ¬(reservationRow stored.reservation).reservationFingerprint =
            input.reservation := fun hequal => hother ((reservation_eq_iff hvalid).mp hequal)
        rw [readReserved, ensure_of_not hdiffers] at herror
        cases herror
        exact ⟨rfl, .inr (.inl ⟨hinput, hother, rfl⟩), Nat.succ_pos 2⟩
  | mapped reservation =>
      obtain ⟨hsame, rfl⟩ := h
      obtain ⟨rfl, ⟨result, hread, rfl⟩ | ⟨error, herror, rfl⟩⟩ := answer_eq_some hadvance
      · have hactive : db'.latestState stored.paymentId ≠ some .released := by
          simp only [readReplayable, bind_eq_ok, ensure_eq_ok, exists_unit] at hread
          exact hread.1
        refine ⟨rfl, ⟨hsame, readReplayable_ok hread, ?_⟩, Nat.lt_succ_self 1⟩
        intro hreleased
        exact hactive (released_of_run hbefore hreleased)
      · have hreleased : db'.latestState stored.paymentId = some .released := by
          by_contra hactive
          have hlive : db'.latestState stored.reservation.paymentId ≠ some .released := hactive
          have hlength : (db'.proofClaimsOf stored.reservation.paymentId).length =
              stored.reservation.proofReferences.length :=
            hstored.length_claims (claimsSound_of_reachable hreach) hrow hactive
          rw [readReplayable, ensure_of hlive, ok_bind, ensure_of hlength] at herror
          cases herror
        have hrefused : ¬db'.latestState stored.reservation.paymentId ≠ some .released :=
          not_not_intro hreleased
        rw [readReplayable, ensure_of_not hrefused] at herror
        cases herror
        exact ⟨rfl, .inr (.inr ⟨hsame, rfl, hreleased⟩), Nat.succ_pos 1⟩
  | replayed result =>
      cases hadvance
      exact ⟨rfl, h, Nat.lt_succ_self 0⟩
  | routing reservation | checking reservation => exact absurd h id
  | returned result | lost result | refused error | broken => cases hadvance

/-- What the others commit does not move a repeat. -/
theorem RepeatsStored.mono (h : RepeatsStored stored input before db phase) (hrun : Run db db') :
    RepeatsStored stored input before db' phase := by
  cases phase with
  | refused error =>
      rcases h with hinvalid | hconflict | ⟨hsame, hcode, hreleased⟩
      · exact .inl hinvalid
      · exact .inr (.inl hconflict)
      · exact .inr (.inr ⟨hsame, hcode, released_of_run hrun hreleased⟩)
  | _ => exact h

/-- One step of the world leaves a call a repeat. -/
theorem RepeatsStored.step {w w' : ReservingWorld} {i : Nat} (hw : ReservingSound w)
    (hbefore : Run before w.committed) (hvalid : stored.Valid)
    (hrow : reservationRow stored.reservation ∈ w.committed.cashuProofReservations)
    (hpayment : input.paymentId = stored.paymentId) (hcall : w.calls[i]? = some ⟨input, phase⟩)
    (h : RepeatsStored stored input before w.committed phase) (hstep : ReservingStep w w') :
    ∃ phase', w'.calls[i]? = some ⟨input, phase'⟩ ∧
      RepeatsStored stored input before w'.committed phase' := by
  have hrun := (hw.commits hstep).run
  obtain ⟨hlength, -⟩ := List.getElem?_eq_some_iff.mp hcall
  cases hstep with
  | enter other =>
      exact ⟨phase, (List.getElem?_append_left hlength).trans hcall, h⟩
  | @advance _ _ _ j _ _ after hother hadvance =>
      by_cases hsame : j = i
      · obtain rfl := hsame
        obtain ⟨rfl, rfl⟩ : _ ∧ _ := ReserveCall.mk.inj (Option.some.inj (hother.symm.trans hcall))
        obtain ⟨rfl, hafter, -⟩ := h.advance hbefore hw.reachable hvalid hrow hpayment hadvance
        exact ⟨after, List.getElem?_set_self hlength, hafter⟩
      · exact ⟨phase, (List.getElem?_set_ne hsame).trans hcall, h.mono hrun⟩
  | @lose _ _ j _ result hother =>
      by_cases hsame : j = i
      · obtain rfl := hsame
        obtain ⟨rfl, rfl⟩ : _ ∧ _ := ReserveCall.mk.inj (Option.some.inj (hother.symm.trans hcall))
        exact ⟨.lost result, List.getElem?_set_self hlength, h⟩
      · exact ⟨phase, (List.getElem?_set_ne hsame).trans hcall, h⟩
  | @«break» _ _ j _ _ hother hrunning =>
      by_cases hsame : j = i
      · obtain rfl := hsame
        obtain ⟨rfl, -⟩ : _ ∧ _ := ReserveCall.mk.inj (Option.some.inj (hother.symm.trans hcall))
        exact ⟨.broken, List.getElem?_set_self hlength, trivial⟩
      · exact ⟨phase, (List.getElem?_set_ne hsame).trans hcall, h⟩
  | other hother hoperation => exact ⟨phase, hcall, h.mono hrun⟩

end Repeats

/-! ### Reservations -/

theorem ReserveCall.Knows.result {call : ReserveCall} (h : call.Knows db) {result : ReserveResult}
    (hresult : call.phase.result? = some result) :
    createReservation call.input = .ok result.reservation ∧
      reservationRow result.reservation ∈ db.cashuProofReservations := by
  obtain ⟨input, phase⟩ := call
  cases phase with
  | returned stored =>
      obtain rfl := Option.some.inj hresult
      exact h
  | lost stored =>
      obtain rfl := Option.some.inj hresult
      exact h
  | _ => cases hresult

/-- The world after the next step of a call, when it has one. -/
def ReservingWorld.advance (w : ReservingWorld) (i : Nat) : ReservingWorld :=
  match w.calls[i]? with
  | none => w
  | some call =>
      match ReserveCall.advance w.committed (heldInserts (w.calls.eraseIdx i))
          ⟨call.input, call.phase⟩ with
      | none => w
      | some (phase, db) => ⟨db, w.calls.set i ⟨call.input, phase⟩⟩

namespace Sample

def reservedProof : CashuProofReference where
  amount := 64
  keysetId
  y := proofY

def reserveInput : ReserveInput where
  invoiceId := invoice.id
  keysetObservedAt := 1001
  mintUrl
  operatorId
  paymentId := ⟨"reserved-payment-1", by decide⟩
  proofReferences := [reservedProof]
  reservedAt := 1004
  unit := cashuStellarUnit

end Sample

end CashMesh.Acquirer
