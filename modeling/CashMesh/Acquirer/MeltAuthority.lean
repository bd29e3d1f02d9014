import CashMesh.Acquirer.MeltDispatch
import CashMesh.Acquirer.Replays
import CashMesh.Lib.Permit
/-!
# The authority to spend

The effect of a payment is the permit of its melt. Its row is unique and never deleted, the call that
inserts it is told so, and only the run that was told so posts the melt, once. So the proofs of a payment
are sent at most once in any run of the coordinators, and what is sent is what the row says.
-/

namespace CashMesh.Acquirer

open CashMesh.Lib

variable {db db' : Db} {w w' : DispatchWorld} {paymentId : PaymentId}

/-! ### Effects in the rows -/

theorem length_effectsOf_le (db : Db) (paymentId : PaymentId) :
    (db.effectsOf paymentId).length ≤ 1 := by
  cases hrows : db.effectsOf paymentId with
  | nil => exact Nat.zero_le 1
  | cons row rows =>
      obtain ⟨hmem, hpayment⟩ := Table.mem_select.mp
        (show row ∈ db.effectsOf paymentId by rw [hrows]; exact List.mem_cons_self)
      have hsingle : db.effectsOf paymentId = [row] :=
        Table.select_eq_singleton hmem hpayment fun other hother =>
          .inr (.inr (.inl (hother.trans hpayment.symm)))
      rw [← hrows, hsingle]
      exact Nat.le_refl 1

theorem effectsOf_of_step (h : Step db db') (paymentId : PaymentId) :
    (db.effectsOf paymentId).length ≤ (db'.effectsOf paymentId).length := by
  rcases step_cases h with rfl | hchange
  · exact Nat.le_refl _
  · rcases effects_of_change hchange with hsame | ⟨row, -, happends⟩
    · rw [Db.effectsOf, Db.effectsOf, hsame]
    · rw [Db.effectsOf, Db.effectsOf, happends.select, List.length_append]
      exact Nat.le_add_right _ _

/-- What an effect that was not a replay has added to the rows. -/
theorem startEffect_fresh {input : StartEffectInput} {result : LifecycleResult}
    (h : startEffect db input = .ok (result, db')) (hfresh : result.replayed = false) :
    ∃ scope, loadReservation db input.paymentId = .ok (some scope) ∧
      db.cashuOperatorEffects.Appends [effectRow scope input.effect] db'.cashuOperatorEffects ∧
      db.cashuStellarMeltRecoveryJobs.Appends (effectRow scope input.effect).jobs
        db'.cashuStellarMeltRecoveryJobs ∧
      db.cashuProofReservationEvents.Appends [eventRow input.draft 0]
        db'.cashuProofReservationEvents ∧
      loadLifecycle db' scope = .ok result.lifecycle := by
  obtain ⟨-, scope, hloaded, ⟨-, hreplay⟩ |
    ⟨effects, claims, jobs, events, -, heffects, -, hjobs, -, hevents, rfl, hafter⟩⟩ := startEffect_ok h
  · rw [replayed_of_replayEvent hreplay] at hfresh
    cases hfresh
  · exact ⟨scope, hloaded, heffects, hjobs, hevents, hafter⟩

/-! ### Permits -/

/-- Sending the melt of the payment spends a permit, and the start of its effect grants one. -/
def dispatchPermits (paymentId : PaymentId) : Permits DispatchEffect DispatchAnswer where
  spends
    | .post sent => if sent.paymentId = paymentId then 1 else 0
    | _ => 0
  grants
    | .startEffect input, .ok started =>
        if input.paymentId = paymentId ∧ started.replayed = false then 1 else 0
    | _, _ => 0

/-- Every effect but the sending of a melt. -/
def DispatchEffect.Silent : DispatchEffect → Prop
  | .post _ => False
  | _ => True

namespace DispatchWorld

/-- How often the melt of the payment was sent. -/
def sentFor (paymentId : PaymentId) (w : DispatchWorld) : Nat :=
  w.sent.countP fun sent => sent.paymentId = paymentId

theorem performs_silent {effect : DispatchEffect} {answer : DispatchAnswer effect}
    (hsilent : effect.Silent) (h : performs effect w answer w') :
    (w'.db = w.db ∨ Step w.db w'.db) ∧ w'.sent = w.sent := by
  have hcommits : ∀ {ε α : Type} {unavailable : ε} {result : Except ε (α × Db)}
      {answer : Except ε α} (operation : Operation),
      operation.run w.db = committed result → Commits unavailable result w answer w' →
        (w'.db = w.db ∨ Step w.db w'.db) ∧ w'.sent = w.sent := by
    intro ε α unavailable result answer operation hrun hcommit
    obtain ⟨db, htransacts, rfl⟩ := hcommit
    refine ⟨?_, rfl⟩
    rcases htransacts.committed with rfl | ⟨a, hresult⟩
    · exact .inl rfl
    · exact .inr ⟨operation, hrun.trans (committed_eq_some.mpr ⟨a, hresult⟩)⟩
  cases effect with
  | readClock | readSignal | findLatestFreshSnapshot | receive =>
      obtain rfl : w' = w := h
      exact ⟨.inl rfl, rfl⟩
  | findReservation | findLifecycle | findQuote | retrieveBundle =>
      obtain rfl : w' = w := h.2
      exact ⟨.inl rfl, rfl⟩
  | post sent => exact absurd hsilent id
  | startEffect input => exact hcommits (.startEffect input) rfl h
  | observe input => exact hcommits (.observe input) rfl h
  | recordPending input => exact hcommits (.recordPending input) rfl h
  | requireAttention input reason =>
      exact hcommits (.requireAttention input reason) rfl h

end DispatchWorld

theorem dispatchAccounts (paymentId : PaymentId) :
    Accounts (dispatchPermits paymentId) DispatchWorld.performs DispatchWorld.Moves
      (DispatchWorld.sentFor paymentId) fun w => (w.db.effectsOf paymentId).length where
  effect := by
    intro effect w answer w' h
    have hsilent : effect.Silent → (dispatchPermits paymentId).spends effect = 0 →
        w'.sentFor paymentId = w.sentFor paymentId + (dispatchPermits paymentId).spends effect ∧
          (w.db.effectsOf paymentId).length ≤ (w'.db.effectsOf paymentId).length := by
      intro hsilent hfree
      obtain ⟨hdb, hsent⟩ := DispatchWorld.performs_silent hsilent h
      rw [hfree, DispatchWorld.sentFor, hsent]
      refine ⟨rfl, ?_⟩
      rcases hdb with hsame | hstep
      · rw [hsame]
      · exact effectsOf_of_step hstep paymentId
    cases effect with
    | post sent =>
        obtain rfl : w' = { w with sent := sent :: w.sent } := h
        refine ⟨?_, Nat.le_refl _⟩
        rw [DispatchWorld.sentFor, List.countP_cons]
        simp [dispatchPermits, DispatchWorld.sentFor]
    | startEffect input =>
        obtain ⟨hspent, hkept⟩ := hsilent trivial rfl
        refine ⟨hspent, ?_⟩
        cases answer with
        | error error => exact hkept
        | ok started =>
            by_cases hgrants : input.paymentId = paymentId ∧ started.replayed = false
            · obtain ⟨db, htransacts, rfl⟩ := h
              obtain ⟨rfl, hfresh⟩ := hgrants
              obtain ⟨scope, hloaded, happends, -⟩ :=
                startEffect_fresh htransacts.result_eq hfresh
              have hscoped : scope.paymentId = input.paymentId :=
                paymentId_of_loadReservation hloaded
              rw [Db.effectsOf, Db.effectsOf, happends.select]
              simp [dispatchPermits, hfresh, effectRow, hscoped]
            · simp only [dispatchPermits, if_neg hgrants]
              exact hkept
    | _ => exact hsilent trivial rfl
  world := by
    intro w w' h
    obtain ⟨hstep⟩ := h
    exact ⟨rfl, effectsOf_of_step hstep paymentId⟩

/-! ### Runs are thrifty -/

namespace MeltCoordinator

variable {ε : Type}

theorem readClock_uses (unavailable : ε) :
    (readClock unavailable).Uses DispatchEffect.Silent := by
  refine ⟨trivial, ?_⟩
  intro answer
  cases answer with
  | none => trivial
  | some timestamp =>
      show Process.Uses _ (if timestamp ≤ maxSafeInteger then _ else _)
      split <;> trivial

theorem throwIfAborted_uses (aborted : ε) :
    (throwIfAborted aborted).Uses DispatchEffect.Silent := by
  refine ⟨trivial, ?_⟩
  intro answer
  cases answer <;> trivial

theorem require_uses (condition : Prop) [Decidable condition] (error : ε) :
    (require condition error).Uses DispatchEffect.Silent :=
  Process.uses_ofExcept _

theorem loadReservation_uses (cashuTs : CashuTs) (called : PaymentId) :
    (loadReservation cashuTs called).Uses DispatchEffect.Silent := by
  refine ⟨trivial, ?_⟩
  rintro (error | _ | found)
  · trivial
  · trivial
  · exact Process.uses_ofExcept _

theorem loadLifecycle_uses (called : PaymentId) :
    (loadLifecycle called).Uses DispatchEffect.Silent := by
  refine ⟨trivial, ?_⟩
  rintro (error | _ | found)
  · trivial
  · trivial
  · show (require (found.paymentId = called) evidenceInvalid >>= _).Uses _
    exact Process.uses_bind (require_uses _ _) fun _ => trivial

theorem loadQuoteAttempt_uses (called : PaymentId) :
    (loadQuoteAttempt called).Uses DispatchEffect.Silent := by
  refine ⟨trivial, ?_⟩
  rintro (error | _ | found) <;> trivial

theorem loadExactKeysetSnapshot_uses (cashuTs : CashuTs) (reservation : CashuProofReservation) :
    (loadExactKeysetSnapshot cashuTs reservation).Uses DispatchEffect.Silent := by
  refine ⟨trivial, ?_⟩
  rintro (error | _ | found)
  · trivial
  · trivial
  · exact Process.uses_ofExcept _

theorem prepareMelt_uses (coordinator : MeltCoordinator) (called : PaymentId)
    (reservation : CashuProofReservation) (preparedAt : UnixTimestamp) :
    (prepareMelt coordinator called reservation preparedAt).Uses DispatchEffect.Silent := by
  apply Process.uses_bind (loadQuoteAttempt_uses called)
  intro attempt
  apply Process.uses_bind (Process.uses_ofExcept _)
  intro quote
  apply Process.uses_bind (loadExactKeysetSnapshot_uses _ _)
  intro snapshot
  apply Process.uses_bind (Process.uses_ofExcept _)
  intro inputFee
  exact Process.uses_bind (require_uses _ _) fun _ => trivial

theorem receiveMelt_uses (coordinator : MeltCoordinator) (prepared : PreparedMelt)
    (dispatch : CashuStellarMeltDispatch) (sent : SentMelt) :
    (receiveMelt coordinator prepared dispatch sent).Uses DispatchEffect.Silent := by
  refine ⟨trivial, ?_⟩
  intro answer
  apply Process.uses_bind (Process.uses_ofExcept _)
  intro response
  apply Process.uses_bind (readClock_uses _)
  intro observedAt
  apply Process.uses_bind (require_uses _ _)
  intro _
  apply Process.uses_bind (Process.uses_ofExcept _)
  intro observed
  exact Process.uses_bind (require_uses _ _) fun _ => trivial

theorem recordAttention_uses (called : PaymentId) (lifecycle : CashuProofReservationLifecycle)
    (key : CoordinationKey) (reason : CashuOperatorAttentionReason) :
    (recordAttention called lifecycle key reason).Uses DispatchEffect.Silent := by
  unfold recordAttention
  split
  · trivial
  · apply Process.uses_bind (require_uses _ _)
    intro _
    apply Process.uses_bind (readClock_uses _)
    intro recordedAt
    apply Process.uses_bind (require_uses _ _)
    intro _
    refine ⟨trivial, ?_⟩
    rintro (error | attention) <;> trivial

theorem recordExecution_uses (prepared : PreparedMelt) (called : PaymentId)
    (attemptId : CashuStellarMeltQuoteAttemptId) (freshLifecycle : CashuProofReservationLifecycle)
    (quote : CashuStellarMeltQuote) :
    (recordExecution prepared called attemptId freshLifecycle quote).Uses
      DispatchEffect.Silent := by
  apply Process.uses_bind (readClock_uses _)
  intro recordedAt
  cases freshLifecycle.effect with
  | none => trivial
  | some effect =>
      apply Process.uses_bind (require_uses _ _)
      intro _
      refine ⟨trivial, ?_⟩
      rintro (error | observed)
      · trivial
      · dsimp only
        split
        · refine ⟨trivial, ?_⟩
          rintro (error | pending) <;> trivial
        · trivial
        · trivial

/-! A process that sends nothing needs no permit, whatever it holds. -/

theorem thrifty_of_silent {α : Type} {p : Process DispatchEffect DispatchAnswer ε α} {held : Nat}
    (hp : p.Uses DispatchEffect.Silent) :
    Thrifty (dispatchPermits paymentId) (fun _ held' => held ≤ held') p held := by
  apply thrifty_of_uses
  apply hp.mono
  intro effect hsilent
  cases effect with
  | post sent => exact absurd hsilent id
  | _ => rfl

theorem thrifty_silent {α : Type} {p : Process DispatchEffect DispatchAnswer ε α} {held : Nat}
    (hp : p.Uses DispatchEffect.Silent) :
    Thrifty (dispatchPermits paymentId) (fun _ _ => True) p held :=
  thrifty_mono (fun _ _ _ => trivial) (thrifty_of_silent hp)

theorem thrifty_silent_bind {α β : Type} {p : Process DispatchEffect DispatchAnswer ε α}
    {rest : α → Process DispatchEffect DispatchAnswer ε β} {Q : β → Nat → Prop} {held : Nat}
    (hp : p.Uses DispatchEffect.Silent)
    (hrest : ∀ a held', held ≤ held' → Thrifty (dispatchPermits paymentId) Q (rest a) held') :
    Thrifty (dispatchPermits paymentId) Q (p >>= rest) held :=
  thrifty_bind (thrifty_mono hrest (thrifty_of_silent hp))

/-- The start of the effect grants a permit for its payment unless it is a replay. -/
theorem startEffect_thrifty (prepared : PreparedMelt) (called : PaymentId)
    (dispatch : CashuStellarMeltDispatch) (startedAt : UnixTimestamp) {held : Nat} :
    Thrifty (dispatchPermits paymentId)
      (fun started held' => called = paymentId → started.replayed = false → 1 ≤ held')
      (startEffect prepared called dispatch startedAt) held := by
  refine ⟨Nat.zero_le _, ?_⟩
  rintro (error | started)
  · trivial
  · intro hcalled hfresh
    show 1 ≤ held - 0 + if called = paymentId ∧ started.replayed = false then 1 else 0
    rw [if_pos ⟨hcalled, hfresh⟩]
    exact Nat.le_add_left 1 _

theorem authorizeMelt_thrifty (coordinator : MeltCoordinator) (prepared : PreparedMelt)
    (called : PaymentId) {held : Nat} :
    Thrifty (dispatchPermits paymentId)
      (fun authorization held' => ∀ lifecycle dispatch preparedAt,
        authorization = some (.granted lifecycle dispatch preparedAt) → called = paymentId →
          1 ≤ held')
      (authorizeMelt coordinator prepared called) held := by
  refine ⟨Nat.zero_le _, ?_⟩
  rintro (error | _ | bearerProofs)
  · trivial
  · intro lifecycle dispatch preparedAt hgranted
    cases hgranted
  · apply thrifty_silent_bind (Process.uses_ofExcept _)
    intro _ held₁ _
    apply thrifty_silent_bind (throwIfAborted_uses _)
    intro _ held₂ _
    apply thrifty_silent_bind (readClock_uses _)
    intro preparedAt held₃ _
    apply thrifty_silent_bind (Process.uses_ofExcept _)
    intro _ held₄ _
    apply thrifty_silent_bind (Process.uses_ofExcept _)
    intro _ held₅ _
    apply thrifty_silent_bind (throwIfAborted_uses _)
    intro _ held₆ _
    unfold authorize
    apply thrifty_bind
    apply thrifty_silent_bind (Process.uses_ofExcept _)
    intro _ held₇ _
    apply thrifty_silent_bind (readClock_uses _)
    intro startedAt held₈ _
    apply thrifty_silent_bind (Process.uses_ofExcept _)
    intro currentInputFee held₉ _
    apply thrifty_silent_bind (require_uses _ _)
    intro _ held₁₀ _
    apply thrifty_mono ?_ (startEffect_thrifty prepared called _ startedAt)
    intro started held₁₁ hstarted
    split
    · intro lifecycle dispatch preparedAt' hgranted
      cases hgranted
    · case isFalse hfresh =>
      intro lifecycle dispatch preparedAt' _ hcalled
      exact hstarted hcalled (Bool.eq_false_iff.mpr hfresh)

/-- The permit is spent where the request leaves. -/
theorem sendMelt_thrifty (coordinator : MeltCoordinator) (prepared : PreparedMelt)
    (called : PaymentId) (dispatch : CashuStellarMeltDispatch) (preparedAt : UnixTimestamp)
    {held : Nat} (hheld : called = paymentId → 1 ≤ held) :
    Thrifty (dispatchPermits paymentId) (fun _ _ => True)
      (sendMelt coordinator prepared called dispatch preparedAt) held := by
  apply thrifty_silent_bind (throwIfAborted_uses _)
  intro _ held₁ hheld₁
  apply thrifty_silent_bind (readClock_uses _)
  intro dispatchedAt held₂ hheld₂
  apply thrifty_silent_bind (require_uses _ _)
  intro _ held₃ hheld₃
  apply thrifty_silent_bind (require_uses _ _)
  intro _ held₄ hheld₄
  apply thrifty_silent_bind (throwIfAborted_uses _)
  intro _ held₅ hheld₅
  refine ⟨?_, ?_⟩
  · show (if called = paymentId then 1 else 0) ≤ held₅
    split
    · case isTrue hcalled =>
      have := hheld hcalled
      omega
    · exact Nat.zero_le _
  · intro _
    exact thrifty_silent (receiveMelt_uses coordinator prepared dispatch _)

theorem dispatchStarted_thrifty (coordinator : MeltCoordinator) (prepared : PreparedMelt)
    (called : PaymentId) (lifecycle : CashuProofReservationLifecycle)
    (dispatch : CashuStellarMeltDispatch) (preparedAt : UnixTimestamp) {held : Nat}
    (hheld : called = paymentId → 1 ≤ held) :
    Thrifty (dispatchPermits paymentId) (fun _ _ => True)
      (dispatchStarted coordinator prepared called lifecycle dispatch preparedAt) held := by
  apply thrifty_bind
  apply thrifty_attempt ?_ ?_
  · apply thrifty_mono ?_ (sendMelt_thrifty coordinator prepared called dispatch preparedAt hheld)
    intro execution held₁ _
    dsimp only
    split
    · apply thrifty_bind
      apply thrifty_attempt ?_ ?_
      · exact thrifty_silent (recordExecution_uses _ _ _ _ _)
      · intro error held₂
        exact thrifty_silent (recordAttention_uses _ _ _ _)
    · exact thrifty_silent (recordAttention_uses _ _ _ _)
  · intro error held₁
    exact thrifty_silent (recordAttention_uses _ _ _ _)

theorem dispatch_thrifty (coordinator : MeltCoordinator) (called : PaymentId) :
    Thrifty (dispatchPermits paymentId) (fun _ _ => True) (coordinator.dispatch called) 0 := by
  apply thrifty_silent_bind (throwIfAborted_uses _)
  intro _ held₁ _
  apply thrifty_silent_bind (readClock_uses _)
  intro preparedAt held₂ _
  apply thrifty_silent_bind (loadReservation_uses _ _)
  intro reservation held₃ _
  apply thrifty_silent_bind (loadLifecycle_uses _)
  intro existingLifecycle held₄ _
  split
  · trivial
  · apply thrifty_silent_bind (prepareMelt_uses _ _ _ _)
    intro prepared held₅ _
    apply thrifty_bind
    apply thrifty_attempt ?_ fun _ _ => trivial
    apply thrifty_mono ?_ (authorizeMelt_thrifty coordinator prepared called)
    rintro (_ | _ | ⟨lifecycle, dispatch, preparedAt⟩) held₆ hgranted
    · trivial
    · trivial
    · exact dispatchStarted_thrifty coordinator prepared called lifecycle dispatch preparedAt
        (hgranted lifecycle dispatch preparedAt rfl)

end MeltCoordinator

/-- In every run the melt of a payment is sent at most once. -/
theorem sentFor_le_one
    {c : Pool DispatchWorld (DispatchProcess CashuStellarMeltCoordinationResult)}
    (hreach : DispatchReachable c) (paymentId : PaymentId) : c.shared.sentFor paymentId ≤ 1 := by
  have hbalanced := Pool.balanced_of_run (dispatchAccounts paymentId)
    (by
      rintro p ⟨coordinator, called, rfl⟩
      exact MeltCoordinator.dispatch_thrifty coordinator called)
    ⟨[], rfl, by simp, by simp [DispatchWorld.sentFor]⟩ hreach
  exact Nat.le_trans hbalanced.spent_le (length_effectsOf_le _ _)

end CashMesh.Acquirer
