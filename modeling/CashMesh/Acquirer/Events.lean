import CashMesh.Acquirer.Changes
/-!
# The events of a payment

Events are only appended, each at the end of its payment's history, and none after a terminal one.
-/

namespace CashMesh.Acquirer

open CashMesh.Lib

variable {db db' : Db}

/-- Whether an event can be the next one of its payment. -/
structure NextEvent (db : Db) (row : LifecycleEventRow) : Prop where
  successor : ∀ previous ∈ db.latestEvent row.paymentId, ValidSuccessor previous row
  first : db.latestEvent row.paymentId = none → ValidFirst row

theorem EventAdmitted.nextEvent {row : LifecycleEventRow} (h : EventAdmitted db row) :
    NextEvent db row := by
  obtain ⟨reservation, -, hvalid⟩ := h.valid
  exact ⟨hvalid.successor, hvalid.first⟩

theorem NextEvent.sequence_lt {row event : LifecycleEventRow} (h : NextEvent db row)
    (hevent : event ∈ db.cashuProofReservationEvents) (hpayment : event.paymentId = row.paymentId) :
    event.sequence < row.sequence := by
  have hmem : event ∈
      db.cashuProofReservationEvents.select fun event => event.paymentId = row.paymentId :=
    Table.mem_select.mpr ⟨hevent, hpayment⟩
  obtain ⟨last, hlast⟩ := exists_latest_of_mem (·.sequence) hmem
  have hle : event.sequence ≤ last.sequence := le_latest hlast hmem
  have hnext : row.sequence = last.sequence + 1 := (h.successor last hlast).sequence
  omega

section Append

variable {row : LifecycleEventRow} (hnext : NextEvent db row)
  (hevents : db.cashuProofReservationEvents.Appends [row] db'.cashuProofReservationEvents)

include hnext hevents

theorem eventsOf_append_self : db'.eventsOf row.paymentId = db.eventsOf row.paymentId ++ [row] := by
  rw [Db.eventsOf, Db.eventsOf, hevents.select]
  have hfilter : [row].filter (fun event => event.paymentId = row.paymentId) = [row] := by simp
  rw [hfilter]
  apply orderBy_append_of_le
  intro event hevent
  obtain ⟨hmem, hpayment⟩ := Table.mem_select.mp hevent
  exact (hnext.sequence_lt hmem hpayment).le

theorem latestEvent_append_self : db'.latestEvent row.paymentId = some row := by
  have happend := eventsOf_append_self hnext hevents
  rw [Db.eventsOf] at happend
  rw [Db.latestEvent, latest, happend, List.getLast?_concat]

theorem latestState_append_self : db'.latestState row.paymentId = some row.state := by
  rw [Db.latestState, latestEvent_append_self hnext hevents]
  rfl

omit hnext in
theorem eventsOf_append_of_ne {paymentId : PaymentId} (hne : row.paymentId ≠ paymentId) :
    db'.eventsOf paymentId = db.eventsOf paymentId := by
  rw [Db.eventsOf, Db.eventsOf, hevents.select_of_not (by simpa using hne)]

omit hnext in
theorem latestEvent_append_of_ne {paymentId : PaymentId} (hne : row.paymentId ≠ paymentId) :
    db'.latestEvent paymentId = db.latestEvent paymentId := by
  rw [Db.latestEvent, Db.latestEvent, hevents.select_of_not (by simpa using hne)]

omit hnext in
theorem latestState_append_of_ne {paymentId : PaymentId} (hne : row.paymentId ≠ paymentId) :
    db'.latestState paymentId = db.latestState paymentId := by
  rw [Db.latestState, Db.latestState, latestEvent_append_of_ne hevents hne]

end Append

/-- Every change keeps the events or appends the next one of a payment. -/
theorem events_of_change (h : Change db db') :
    db'.cashuProofReservationEvents = db.cashuProofReservationEvents ∨
      ∃ row, NextEvent db row ∧
        db.cashuProofReservationEvents.Appends [row] db'.cashuProofReservationEvents := by
  cases h
  case effectStarted hadmitted hevents _ =>
    right
    obtain ⟨hsuccessor, hfirst⟩ := hadmitted.nextEvent
    exact ⟨_, ⟨hsuccessor, hfirst⟩, hevents⟩
  case eventAppended hadmitted hevents _ => exact .inr ⟨_, hadmitted.nextEvent, hevents⟩
  case paymentAccepted hadmitted hevents hdb _ _ _ =>
    right
    obtain ⟨hsuccessor, hfirst⟩ := hadmitted.nextEvent
    rw [hdb]
    exact ⟨_, ⟨hsuccessor, hfirst⟩, hevents⟩
  all_goals exact .inl rfl

theorem event_of_change (h : Change db db') {event : LifecycleEventRow}
    (hevent : event ∈ db.cashuProofReservationEvents) :
    event ∈ db'.cashuProofReservationEvents := by
  rcases events_of_change h with hsame | ⟨row, -, hevents⟩
  · rwa [hsame]
  · exact hevents.mem_of_mem hevent

theorem latestEvent_of_change (h : Change db db') (paymentId : PaymentId) :
    db'.latestEvent paymentId = db.latestEvent paymentId ∨
      ∃ row, row.paymentId = paymentId ∧ db'.latestEvent paymentId = some row ∧
        NextEvent db row := by
  rcases events_of_change h with hsame | ⟨row, hnext, hevents⟩
  · rw [Db.latestEvent, Db.latestEvent, hsame]
    exact .inl rfl
  · by_cases hpayment : row.paymentId = paymentId
    · subst hpayment
      exact .inr ⟨row, rfl, latestEvent_append_self hnext hevents, hnext⟩
    · exact .inl (latestEvent_append_of_ne hevents hpayment)

/-- A terminal lifecycle state is never left. -/
theorem terminal_of_change (h : Change db db') {paymentId : PaymentId}
    {state : LifecycleEventState} (hstate : db.latestState paymentId = some state)
    (hterminal : state.toReservationState.Terminal) :
    db'.latestEvent paymentId = db.latestEvent paymentId := by
  rcases latestEvent_of_change h paymentId with hsame | ⟨row, hpayment, -, hnext⟩
  · exact hsame
  · obtain ⟨event, hevent, rfl⟩ := Option.map_eq_some_iff.mp hstate
    exact absurd hterminal (hnext.successor event (by rw [hpayment]; exact hevent)).notTerminal

theorem latestState_of_terminal (h : Change db db') {paymentId : PaymentId}
    {state : LifecycleEventState} (hstate : db.latestState paymentId = some state)
    (hterminal : state.toReservationState.Terminal) : db'.latestState paymentId = some state := by
  rw [Db.latestState, terminal_of_change h hstate hterminal]
  exact hstate

theorem latestEvent_isSome_of_mem {event : LifecycleEventRow}
    (h : event ∈ db.cashuProofReservationEvents) : (db.latestEvent event.paymentId).isSome := by
  obtain ⟨last, hlast⟩ := exists_latest_of_mem (·.sequence)
    (Table.mem_select.mpr ⟨h, rfl⟩ : event ∈ db.cashuProofReservationEvents.select fun row =>
      row.paymentId = event.paymentId)
  rw [Db.latestEvent, hlast]
  rfl

/-- Only the start of an effect adds one, as the first thing that happens to its payment. -/
theorem effects_of_change (h : Change db db') :
    db'.cashuOperatorEffects = db.cashuOperatorEffects ∨
      ∃ row, db.latestEvent row.paymentId = none ∧
        db.cashuOperatorEffects.Appends [row] db'.cashuOperatorEffects := by
  cases h
  case effectStarted scope input lifecycle effects claims jobs events hstartable heffects hclaims
      hjobs hadmitted hevents hafter =>
    refine .inr ⟨_, ?_, heffects⟩
    show db.latestEvent scope.paymentId = none
    rw [paymentId_of_loadReservation hstartable.loaded]
    cases hlatest : db.latestEvent input.paymentId with
    | none => rfl
    | some previous => exact absurd rfl (hadmitted.nextEvent.successor previous hlatest).notDispatch
  case paymentAccepted hdb _ _ _ =>
    rw [hdb]
    exact .inl rfl
  all_goals exact .inl rfl

theorem attemptOf_of_change (hchange : Change db db') {paymentId : PaymentId}
    {attempt : MeltQuoteAttemptRow} (h : db.attemptOf paymentId = some attempt) :
    db'.attemptOf paymentId = some attempt := by
  cases hchange
  case quoteBegun hattempts => exact hattempts.find_of_some h
  case paymentAccepted hdb _ _ _ =>
    subst hdb
    exact h
  all_goals exact h

theorem outcomeOf_of_change (hchange : Change db db') {attemptId : CashuStellarMeltQuoteAttemptId}
    {outcome : MeltQuoteOutcomeRow} (h : db.outcomeOf attemptId = some outcome) :
    db'.outcomeOf attemptId = some outcome := by
  cases hchange
  case outcomeAmbiguous houtcomes => exact houtcomes.find_of_some h
  case quoteRecorded houtcomes _ _ _ => exact houtcomes.find_of_some h
  case paymentAccepted hdb _ _ _ =>
    subst hdb
    exact h
  all_goals exact h

end CashMesh.Acquirer
