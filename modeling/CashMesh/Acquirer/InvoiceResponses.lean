import CashMesh.Acquirer.InvoiceCreations
import CashMesh.Lib.Permit
/-!
# What merchants are told of their invoices

Every response that names an invoice names the one that the key of its request has, whichever service and
whichever attempt has stored it, and a conflict is told only to a request that is not the one the key
has. Of all the responses to one key at most one says that its invoice is new: the transaction that
stored the key answered it, and it is told at most once.
-/

namespace CashMesh.Acquirer

open CashMesh.Lib

variable {w w' : InvoicingWorld} {key : Identifier} {request : InvoiceRequest}

/-! ### True responses -/

namespace InvoiceResponse

/-- The key and the request that were responded to. -/
def Asks (response : InvoiceResponse) (key : Identifier) (request : InvoiceRequest) : Prop :=
  InvoiceService.validateInput response.settlementDestination response.input = .ok (key, request)

/-- The response is true of the rows. -/
def Sound (response : InvoiceResponse) (db : Db) : Prop :=
  match response.outcome with
  | .ok result => ∃ key request, response.Asks key request ∧
      InvoiceIssued db key request ⟨result.cashuPaymentRequest, result.invoice⟩
  | .error error => error.code = .idempotencyConflict →
      ∃ key request, response.Asks key request ∧ KeyTaken db key request

theorem Sound.grow {response : InvoiceResponse} {db db' : Db} (h : response.Sound db)
    (hgrow : InvoicesGrow db db') : response.Sound db' := by
  unfold Sound at h ⊢
  split
  · case h_1 result houtcome =>
      rw [houtcome] at h
      obtain ⟨key, request, hasks, hissued⟩ := h
      exact ⟨key, request, hasks, hgrow.issued hissued⟩
  · case h_2 error houtcome =>
      rw [houtcome] at h
      intro hconflict
      obtain ⟨key, request, hasks, htaken⟩ := h hconflict
      exact ⟨key, request, hasks, htaken.grow hgrow⟩

end InvoiceResponse

/-- The rows are of issued invoices and every response is true of them. -/
structure InvoicingWorld.Sound (w : InvoicingWorld) : Prop where
  creations : CreationsIssued w.db
  responses : ∀ response ∈ w.responses, response.Sound w.db

theorem InvoicingWorld.Sound.move (h : w.Sound) (hcreations : CreationsIssued w'.db)
    (hgrow : InvoicesGrow w.db w'.db) (hresponses : w'.responses = w.responses) : w'.Sound := by
  refine ⟨hcreations, fun response hresponse => ?_⟩
  rw [hresponses] at hresponse
  exact (h.responses response hresponse).grow hgrow

/-! ### A request that is served -/

/-- What was issued stays issued. -/
def invoicingDiscipline : Discipline InvoicingWorld where
  inv := InvoicingWorld.Sound
  grows w w' := InvoicesGrow w.db w'.db
  refl w := .refl w.db
  trans := .trans

/-- Safety of what a request runs. -/
abbrev InvoicingSafe {ε α : Type} (Q : α → InvoicingWorld → Prop) (F : ε → InvoicingWorld → Prop)
    (p : InvoiceProcess ε α) (w : InvoicingWorld) : Prop :=
  Safe InvoicingWorld.performs invoicingDiscipline Q F p w

namespace InvoiceService

variable {ε α β : Type} {Q : β → InvoicingWorld → Prop} {F : ε → InvoicingWorld → Prop}

theorem safe_read {effect : InvoiceEffect} {next : InvoiceAnswer effect → InvoiceProcess ε β}
    (hread : ∀ {w₁ answer w₂}, InvoicingWorld.performs effect w₁ answer w₂ → w₂ = w₁)
    (hnext : ∀ w₁ answer, w₁.Sound → InvoicesGrow w.db w₁.db →
      InvoicingWorld.performs effect w₁ answer w₁ → InvoicingSafe Q F (next answer) w₁) :
    InvoicingSafe Q F (.ask effect next) w := by
  intro w₁ hsound hgrow answer w₂ hperform
  obtain rfl := hread hperform
  exact ⟨⟨hsound, .refl _⟩, hnext w₂ answer hsound hgrow hperform⟩

theorem safe_ofExcept_bind {result : Except ε α} {rest : α → InvoiceProcess ε β}
    (hfail : OnlyFails (fun error => F error w) result)
    (hrest : ∀ a, result = .ok a → InvoicingSafe Q F (rest a) w) :
    InvoicingSafe Q F (Process.ofExcept result >>= rest) w := by
  cases result with
  | error error => exact hfail
  | ok a => exact hrest a rfl

theorem safe_respond (response : InvoiceResponse) (hresponse : response.Sound w.db) :
    InvoicingSafe (fun _ _ => True) (fun _ _ => True)
      (perform (.respond response) : InvoiceProcess ε Unit) w := by
  rintro w₁ hsound hgrow - w₂ ⟨hdb, hresponses⟩
  refine ⟨⟨⟨?_, ?_⟩, ?_⟩, trivial⟩
  · rw [hdb]
    exact hsound.creations
  · intro other hother
    rw [hresponses] at hother
    rw [hdb]
    rcases List.mem_cons.mp hother with rfl | hother
    · exact hresponse.grow hgrow
    · exact hsound.responses other hother
  · show InvoicesGrow w₁.db w₂.db
    rw [hdb]
    exact .refl _

/-- A repository that fails says nothing of a conflict, unless the key is taken. -/
def RepositoryFails (key : Identifier) (request : InvoiceRequest) (error : InvoiceError)
    (w : InvoicingWorld) : Prop :=
  error.code = .idempotencyConflict → KeyTaken w.db key request

/-- And so does the service. -/
def ServiceFails (key : Identifier) (request : InvoiceRequest) (error : InvoiceServiceError)
    (w : InvoicingWorld) : Prop :=
  error.code = .idempotencyConflict → KeyTaken w.db key request

theorem repositoryFails_of_noConflict {error : InvoiceError} (h : error.NoConflict) :
    RepositoryFails key request error w :=
  fun hconflict => absurd hconflict h

theorem serviceFails_of_repositoryFails {error : InvoiceError}
    (h : RepositoryFails key request error w) :
    ServiceFails key request (mapRepositoryError error) w := by
  intro hconflict
  unfold mapRepositoryError at hconflict
  split at hconflict
  · case h_1 hcode => exact h hcode
  · cases hconflict

/-- What the key has was issued. -/
def Issues (key : Identifier) (request : InvoiceRequest) (issued : IssuedInvoice)
    (w : InvoicingWorld) : Prop :=
  InvoiceIssued w.db key request issued

theorem mapIssuedInvoice_safe {row : CreationRow} {issued : IssuedInvoice}
    (hissued : InvoiceIssued w.db key request issued) (hjoins : row.Joins request issued) :
    InvoicingSafe (Issues key request) (RepositoryFails key request) (mapIssuedInvoice row) w := by
  have hnone : ∀ w error, InvoiceError.NoConflict error → RepositoryFails key request error w :=
    fun _ _ => repositoryFails_of_noConflict
  apply safe_ofExcept_bind
    (onlyFails_mono (hnone w) (mapInvoiceRow_noConflict row.invoice))
  intro invoice hinvoice
  obtain rfl : invoice = issued.invoice := (mapInvoiceRow_eq hinvoice).trans hjoins.invoice
  refine safe_read (fun h => h.2) ?_
  rintro w₁ (error | operators) hsound hgrow ⟨hanswer, -⟩
  · rcases hanswer with hanswer | hanswer
    · cases hanswer
    · cases hanswer
      exact hnone w₁ _ (by decide)
  · have hoperators := Except.ok.inj hanswer.result_eq
    apply safe_ofExcept_bind
    · apply onlyFails_orFail
      exact hnone w₁ _ (by decide)
    intro requestRow hrequestRow
    apply safe_ofExcept_bind
    · apply onlyFails_orFail
      exact hnone w₁ _ (by decide)
    intro paymentRequest hpaymentRequest
    rw [orFail_eq_ok, hjoins.request, Option.some.injEq] at hrequestRow
    rw [orFail_eq_ok, ← hoperators] at hpaymentRequest
    obtain rfl : paymentRequest = issued.cashuPaymentRequest := by
      rw [reconstructStored_eq hpaymentRequest, ← hrequestRow]
      rfl
    exact hgrow.issued hissued

theorem findInvoiceCreation_safe (w : InvoicingWorld) :
    InvoicingSafe (fun found w => ∀ issued ∈ found, Issues key request issued w)
      (RepositoryFails key request)
      (findInvoiceCreation {
        idempotencyKey := key
        merchantId := request.merchantId
        requestFingerprint := fingerprintRequest request }) w := by
  refine safe_read (fun h => h.2) ?_
  rintro w₁ (error | found) hsound hgrow ⟨hanswer, -⟩
  · rcases hanswer with hanswer | hanswer
    · cases hanswer
    · cases hanswer
      exact repositoryFails_of_noConflict (by decide)
  · have hfound := Except.ok.inj hanswer.result_eq
    cases found with
    | none => exact fun _ h => absurd h (by simp)
    | some row =>
        obtain ⟨stored, issued, hmerchant, hissued, hjoins⟩ :=
          findCreationRow_joins hsound.creations hfound
        apply safe_ofExcept_bind
        · apply onlyFails_ensure
          intro hother _
          refine ⟨stored, issued, hissued, hmerchant, ?_⟩
          rintro rfl
          exact hother hjoins.requestFingerprint
        intro _ hsame
        rw [ensure_eq_ok, hjoins.requestFingerprint] at hsame
        obtain rfl := fingerprintRequest_inj hsame
        apply safe_bind
        apply safe_mono ?_ (fun _ _ h => h) (mapIssuedInvoice_safe hissued hjoins)
        rintro found w₂ hfound _ ⟨⟩
        exact hfound

theorem readClock_safe (w : InvoicingWorld) :
    InvoicingSafe (fun _ _ => True) (ServiceFails key request) readClock w := by
  refine safe_read id ?_
  rintro w₁ (_ | timestamp) hsound hgrow -
  · exact nofun
  · show InvoicingSafe _ _ (if _ then _ else _) w₁
    split
    · trivial
    · exact nofun

theorem generateInvoiceId_safe (w : InvoicingWorld) :
    InvoicingSafe (fun _ _ => True) (ServiceFails key request) generateInvoiceId w := by
  refine safe_read id ?_
  rintro w₁ (_ | text) hsound hgrow -
  · exact nofun
  · show InvoicingSafe _ _ (if h : _ then _ else _) w₁
    split
    · trivial
    · exact nofun

theorem createInvoices_safe (service : InvoiceService) (createdAt : UnixTimestamp)
    (attempts : Nat) (w : InvoicingWorld) :
    InvoicingSafe
      (fun result => Issues key request ⟨result.cashuPaymentRequest, result.invoice⟩)
      (ServiceFails key request) (service.createInvoices key request createdAt attempts) w := by
  induction attempts generalizing w with
  | zero => exact nofun
  | succ attempts ih =>
      apply safe_bind
      apply safe_mono ?_ (fun _ _ h => h) (generateInvoiceId_safe w)
      intro id w₁ _
      apply safe_ofExcept_bind
      · apply onlyFails_mapError
        exact fun _ => nofun
      intro invoice hinvoice
      obtain rfl := createInvoice_eq (mapError_eq_ok.mp hinvoice)
      apply safe_ofExcept_bind
      · apply onlyFails_orFail
        exact nofun
      intro paymentRequest _
      intro w₂ hsound _ answer w₃ ⟨htransacts, hresponses⟩
      have hasks : CreateOpenInvoiceInput.Asks {
          cashuPaymentRequest := paymentRequest
          idempotencyKey := key
          invoice := {
            amount := request.amount
            createdAt
            expiresAt := request.expiresAt
            id
            merchantId := request.merchantId }
          requestFingerprint := fingerprintRequest request
          settlementDestination := request.settlementDestination } key request :=
        ⟨rfl, rfl, rfl, rfl, rfl, rfl⟩
      have hkeep : invoicingDiscipline.Keeps w₂ w₃ := by
        rcases htransacts.committed with hsame | ⟨result, hcreated⟩
        · rw [show w₃ = w₂ from InvoicingWorld.ext hsame hresponses]
          exact ⟨hsound, .refl _⟩
        · obtain ⟨hcreations, hgrow, -⟩ := createOpenInvoice_issued hasks hsound.creations hcreated
          exact ⟨hsound.move hcreations hgrow hresponses, hgrow⟩
      refine ⟨hkeep, ?_⟩
      cases answer with
      | ok result =>
          exact (createOpenInvoice_issued hasks hsound.creations htransacts.result_eq).2.2
      | error error =>
          show InvoicingSafe _ _ (if _ then _ else _) w₃
          split
          · exact ih w₃
          · apply serviceFails_of_repositoryFails
            rcases htransacts.error_cases with rfl | hrefused
            · exact repositoryFails_of_noConflict (by decide)
            · have hconflict := createOpenInvoice_conflict hasks hsound.creations
              rw [hrefused] at hconflict
              exact fun hcode => (hconflict hcode).grow hkeep.2

/-- A request whose fields are valid is answered with the invoice that its key has, or refused. -/
theorem create_safe (service : InvoiceService) (input : CreateMerchantInvoiceInput)
    (w : InvoicingWorld) :
    InvoicingSafe
      (fun result w => ∃ key request,
        validateInput service.settlementDestination input = .ok (key, request) ∧
          InvoiceIssued w.db key request ⟨result.cashuPaymentRequest, result.invoice⟩)
      (fun error w => error.code = .idempotencyConflict → ∃ key request,
        validateInput service.settlementDestination input = .ok (key, request) ∧
          KeyTaken w.db key request) (service.create input) w := by
  apply safe_ofExcept_bind
  · unfold validateInput
    split
    · apply onlyFails_bind
      · apply onlyFails_mapError
        intro _ hcode
        cases hcode
      intro amount _
      apply onlyFails_bind
      · apply onlyFails_mapError
        intro _ hcode
        cases hcode
      intro _ _
      apply onlyFails_bind
      · apply onlyFails_ensure
        intro _ hcode
        cases hcode
      intro _ _
      trivial
    · intro hcode
      cases hcode
  rintro ⟨key, request⟩ hvalid
  apply safe_mono
    (Q := fun result w => Issues key request ⟨result.cashuPaymentRequest, result.invoice⟩ w)
    (F := ServiceFails key request)
    (fun result w hissued => ⟨key, request, hvalid, hissued⟩)
    (fun error w hfails hcode => ⟨key, request, hvalid, hfails hcode⟩)
  apply safe_bind
  apply safe_attempt
  apply safe_mono ?_ ?_ (findInvoiceCreation_safe w)
  · rintro (_ | issued) w₁ hfound
    · apply safe_bind
      apply safe_mono ?_ (fun _ _ h => h) (readClock_safe w₁)
      intro createdAt w₂ _
      exact createInvoices_safe service createdAt invoiceIdAttempts w₂
    · exact hfound issued rfl
  · intro error w₁ hfails
    exact serviceFails_of_repositoryFails hfails

/-- What is responded is true. -/
theorem serve_safe (service : InvoiceService) (input : CreateMerchantInvoiceInput)
    (w : InvoicingWorld) :
    InvoicingSafe (fun _ _ => True) (fun _ _ => True) (service.serve input) w := by
  apply safe_bind
  apply safe_attempt
  apply safe_mono ?_ ?_ (create_safe service input w)
  · intro result w₁ hissued
    exact safe_respond ⟨input, service.settlementDestination, .ok result⟩ hissued
  · intro error w₁ hfails
    exact safe_respond ⟨input, service.settlementDestination, .error error⟩ hfails

end InvoiceService

theorem invoicingSound_of_reachable
    {c : Pool InvoicingWorld (InvoiceProcess InvoiceServiceError Unit)}
    (hreach : InvoicingReachable c) : c.shared.Sound := by
  have hempty : Pool.Sound InvoicingWorld.performs invoicingDiscipline (fun _ _ => True)
      (fun _ _ => True)
      (⟨⟨Db.empty, []⟩, []⟩ : Pool InvoicingWorld (InvoiceProcess InvoiceServiceError Unit)) :=
    ⟨⟨fun row hrow => absurd hrow Table.not_mem_empty, fun _ h => absurd h List.not_mem_nil⟩,
      fun p hp => absurd hp List.not_mem_nil⟩
  refine (Pool.sound_of_run (fun _ _ _ _ _ => trivial) (fun _ _ _ _ _ => trivial) ?_ ?_
    hempty hreach).1.inv
  · rintro p w ⟨service, input, rfl⟩ -
    exact InvoiceService.serve_safe service input w
  · rintro w w' hsound ⟨hresponses, operation, hother, hrun⟩
    obtain ⟨hcreations, hgrow⟩ :=
      invoicesGrow_of_moves hsound.creations (moves_of_run hother hrun)
    exact ⟨hsound.move hcreations hgrow hresponses, hgrow⟩

/-! ### New invoices -/

namespace InvoiceResponse

/-- The merchant and the key, as the merchant gave them. -/
def merchantKey (response : InvoiceResponse) : String × String :=
  (response.input.merchantId, response.input.idempotencyKey)

/-- The response says that its invoice is new. -/
def Created (response : InvoiceResponse) : Prop :=
  match response.outcome with
  | .ok result => result.replayed = false
  | .error _ => False

instance : DecidablePred Created := fun response => by
  unfold Created
  split <;> infer_instance

end InvoiceResponse

/-- The creation rows of a key. -/
def Db.creationsOf (db : Db) (key : String × String) : List InvoiceCreationRow :=
  db.invoiceCreationRequests.select fun row =>
    (row.merchantId.val, row.idempotencyKey.val) = key

theorem length_creationsOf_le (db : Db) (key : String × String) :
    (db.creationsOf key).length ≤ 1 := by
  cases hrows : db.creationsOf key with
  | nil => exact Nat.zero_le 1
  | cons row rows =>
      obtain ⟨hmem, hkey⟩ := Table.mem_select.mp
        (show row ∈ db.creationsOf key by rw [hrows]; exact List.mem_cons_self)
      have hsingle : db.creationsOf key = [row] := by
        apply Table.select_eq_singleton hmem hkey
        intro other hother
        obtain ⟨hmerchant, hidempotencyKey⟩ := Prod.mk.inj (hother.trans hkey.symm)
        exact .inl ⟨Subtype.ext hmerchant, Subtype.ext hidempotencyKey⟩
      rw [← hrows, hsingle]
      exact Nat.le_refl 1

/-- Saying that the invoice of the key is new spends a permit, and the transaction that stores the key
grants one. -/
def creationPermits (key : String × String) : Permits InvoiceEffect InvoiceAnswer where
  spends
    | .respond response => if response.merchantKey = key ∧ response.Created then 1 else 0
    | _ => 0
  grants
    | .createOpenInvoice input, .ok result =>
        if (input.invoice.merchantId.val, input.idempotencyKey.val) = key ∧
            result.replayed = false then 1 else 0
    | _, _ => 0

theorem replayed_of_readReplay {db : Db} {creation : InvoiceCreationRow}
    {input : CreateOpenInvoiceInput} {result : CreateOpenInvoiceResult}
    (h : readReplay db creation input = .ok result) : result.replayed = true := by
  simp only [readReplay, bind_eq_ok, orFail_eq_ok, ensure_eq_ok, exists_unit, pure_eq_ok,
    Except.ok.injEq] at h
  obtain ⟨-, -, -, -, -, -, -, -, -, rfl⟩ := h
  rfl

theorem creationsOf_of_create {db db' : Db} {input : CreateOpenInvoiceInput}
    {result : CreateOpenInvoiceResult} (h : createOpenInvoice db input = .ok (result, db'))
    (key : String × String) :
    (db.creationsOf key).length + (creationPermits key).grants (.createOpenInvoice input) (.ok result) ≤
      (db'.creationsOf key).length := by
  have hgrants : (creationPermits key).grants (.createOpenInvoice input) (.ok result) =
      if (input.invoice.merchantId.val, input.idempotencyKey.val) = key ∧
        result.replayed = false then 1 else 0 := rfl
  rw [hgrants]
  rcases createOpenInvoice_cases h with ⟨rfl, creation, -, hreplay⟩ |
    ⟨rfl, -, hcreations, -, -⟩
  · simp [replayed_of_readReplay hreplay]
  · rw [Db.creationsOf, Db.creationsOf, hcreations.select, List.length_append]
    simp [List.filter_cons, CreateOpenInvoiceInput.creationRow]
    split <;> simp

/-- How often the invoice of the key was said to be new. -/
def InvoicingWorld.createdFor (key : String × String) (w : InvoicingWorld) : Nat :=
  w.responses.countP fun response => response.merchantKey = key ∧ response.Created

theorem creationAccounts (key : String × String) :
    Accounts (creationPermits key) InvoicingWorld.performs InvoicingWorld.OtherStep
      (InvoicingWorld.createdFor key) fun w => (w.db.creationsOf key).length where
  effect := by
    intro effect w answer w' h
    cases effect with
    | readClock | generateInvoiceId =>
        obtain rfl : w' = w := h
        exact ⟨rfl, Nat.le_refl _⟩
    | findCreationRow | findRoutes =>
        obtain rfl : w' = w := h.2
        exact ⟨rfl, Nat.le_refl _⟩
    | createOpenInvoice input =>
        obtain ⟨htransacts, hresponses⟩ := h
        refine ⟨by rw [InvoicingWorld.createdFor, hresponses]; rfl, ?_⟩
        cases answer with
        | ok result => exact creationsOf_of_create htransacts.result_eq key
        | error error =>
            rcases htransacts.committed with hsame | ⟨result, hcreated⟩
            · rw [hsame]
              exact Nat.le_refl _
            · exact Nat.le_trans (Nat.add_le_add_left (Nat.zero_le _) _)
                (creationsOf_of_create hcreated key)
    | respond response =>
        obtain ⟨hdb, hresponses⟩ := h
        refine ⟨?_, by rw [hdb]; exact Nat.le_refl _⟩
        rw [InvoicingWorld.createdFor, hresponses, List.countP_cons]
        simp [creationPermits, InvoicingWorld.createdFor]
  world := by
    rintro w w' ⟨hresponses, operation, hother, hrun⟩
    refine ⟨by rw [InvoicingWorld.createdFor, hresponses]; rfl, ?_⟩
    rcases moves_of_run hother hrun with hsame | ⟨-, hcreations⟩
    · rw [hsame]
    · rw [Db.creationsOf, Db.creationsOf, hcreations]

namespace InvoiceService

theorem validateInput_ok {settlementDestination : CashuStellarSettlementDestination}
    {input : CreateMerchantInvoiceInput}
    (h : validateInput settlementDestination input = .ok (key, request)) :
    key.val = input.idempotencyKey ∧ request.merchantId.val = input.merchantId ∧
      request.amount = input.amount ∧ request.expiresAt = input.expiresAt ∧
      request.settlementDestination = settlementDestination := by
  unfold validateInput at h
  split at h
  · simp only [minorUnits, bind_eq_ok, mapError_eq_ok, ensure_eq_ok, exists_unit, pure_eq_ok,
      Except.ok.injEq, Prod.mk.injEq] at h
    obtain ⟨amount, ⟨-, rfl⟩, -, -, rfl, rfl⟩ := h
    exact ⟨rfl, rfl, rfl, rfl, rfl⟩
  · cases h

variable {called : String × String}

/-- Every effect but a response. -/
def Silent : InvoiceEffect → Prop
  | .respond _ => False
  | _ => True

theorem thrifty_silent_bind {ε α β : Type} {p : InvoiceProcess ε α} {rest : α → InvoiceProcess ε β}
    {Q : β → Nat → Prop} {held : Nat} (hp : p.Uses Silent)
    (hrest : ∀ a held', Thrifty (creationPermits called) Q (rest a) held') :
    Thrifty (creationPermits called) Q (p >>= rest) held := by
  apply thrifty_bind
  apply thrifty_mono (fun a held' _ => hrest a held')
  apply thrifty_of_uses
  apply hp.mono
  intro effect hsilent
  cases effect with
  | respond response => exact absurd hsilent id
  | _ => rfl

theorem generateInvoiceId_uses : generateInvoiceId.Uses Silent := by
  refine ⟨trivial, ?_⟩
  rintro (_ | text)
  · trivial
  · show (if h : _ then _ else _ : InvoiceProcess InvoiceServiceError InvoiceId).Uses Silent
    split
    · trivial
    · trivial

theorem readClock_uses : readClock.Uses Silent := by
  refine ⟨trivial, ?_⟩
  rintro (_ | timestamp)
  · trivial
  · show (if _ then _ else _ : InvoiceProcess InvoiceServiceError UnixTimestamp).Uses Silent
    split
    · trivial
    · trivial

theorem findInvoiceCreation_uses (input : FindInvoiceCreationInput) :
    (findInvoiceCreation input).Uses Silent := by
  refine ⟨trivial, ?_⟩
  rintro (_ | _ | row)
  · trivial
  · trivial
  · apply Process.uses_bind (Process.uses_ofExcept _)
    intro _
    apply Process.uses_bind
    · apply Process.uses_bind (Process.uses_ofExcept _)
      intro invoice
      refine ⟨trivial, ?_⟩
      rintro (_ | operators)
      · trivial
      · apply Process.uses_bind (Process.uses_ofExcept _)
        intro requestRow
        apply Process.uses_bind (Process.uses_ofExcept _)
        intro paymentRequest
        trivial
    · intro issued
      trivial

/-- An invoice that is new to the key comes with its permit. -/
theorem createInvoices_thrifty (service : InvoiceService) (createdAt : UnixTimestamp)
    (attempts held : Nat) :
    Thrifty (creationPermits called)
      (fun result held' => (request.merchantId.val, key.val) = called →
        result.replayed = false → 1 ≤ held')
      (service.createInvoices key request createdAt attempts) held := by
  induction attempts generalizing held with
  | zero => trivial
  | succ attempts ih =>
      apply thrifty_silent_bind generateInvoiceId_uses
      intro id held₁
      apply thrifty_ofExcept_bind
      intro invoice hinvoice
      obtain rfl := createInvoice_eq (mapError_eq_ok.mp hinvoice)
      apply thrifty_ofExcept_bind
      intro paymentRequest _
      refine ⟨Nat.zero_le _, ?_⟩
      rintro (error | result)
      · show Thrifty _ _ (if _ then _ else _) _
        split
        · exact ih _
        · trivial
      · intro hcalled hcreated
        show 1 ≤ held₁ - 0 + if (request.merchantId.val, key.val) = called ∧
          result.replayed = false then 1 else 0
        rw [if_pos ⟨hcalled, hcreated⟩]
        exact Nat.le_add_left 1 _

theorem create_thrifty (service : InvoiceService) (input : CreateMerchantInvoiceInput)
    (held : Nat) :
    Thrifty (creationPermits called)
      (fun result held' => (input.merchantId, input.idempotencyKey) = called →
        result.replayed = false → 1 ≤ held') (service.create input) held := by
  apply thrifty_ofExcept_bind
  rintro ⟨key, request⟩ hvalid
  obtain ⟨hkey, hmerchant, -⟩ := validateInput_ok hvalid
  rw [← hkey, ← hmerchant]
  apply thrifty_silent_bind
  · exact Process.uses_attempt (findInvoiceCreation_uses _)
  rintro (error | _ | issued) held₁
  · trivial
  · apply thrifty_silent_bind readClock_uses
    intro createdAt held₂
    exact createInvoices_thrifty service createdAt invoiceIdAttempts held₂
  · exact fun _ => nofun

theorem serve_thrifty (service : InvoiceService) (input : CreateMerchantInvoiceInput) :
    Thrifty (creationPermits called) (fun _ _ => True) (service.serve input) 0 := by
  apply thrifty_bind
  apply thrifty_attempt
  · apply thrifty_mono ?_ (create_thrifty service input 0)
    intro result held hheld
    refine ⟨?_, fun _ => trivial⟩
    show (if (input.merchantId, input.idempotencyKey) = called ∧ result.replayed = false
      then 1 else 0) ≤ held
    split
    · case isTrue hcreated => exact hheld hcreated.1 hcreated.2
    · exact Nat.zero_le _
  · intro error held
    refine ⟨?_, fun _ => trivial⟩
    show (if (input.merchantId, input.idempotencyKey) = called ∧ False then 1 else 0) ≤ held
    simp

end InvoiceService

theorem createdFor_le_one {c : Pool InvoicingWorld (InvoiceProcess InvoiceServiceError Unit)}
    (hreach : InvoicingReachable c) (key : String × String) : c.shared.createdFor key ≤ 1 := by
  have hbalanced := Pool.balanced_of_run (creationAccounts key)
    (by
      rintro p ⟨service, input, rfl⟩
      exact InvoiceService.serve_thrifty service input)
    ⟨[], rfl, by simp, by simp [InvoicingWorld.createdFor]⟩ hreach
  exact Nat.le_trans hbalanced.spent_le (length_creationsOf_le _ _)

/-! ### Every run -/

/-- The result is what was asked for, and is stored. -/
structure InvoiceResponse.Answers (response : InvoiceResponse) (result : CreateOpenInvoiceResult)
    (db : Db) : Prop where
  merchantId : result.invoice.merchantId.val = response.input.merchantId
  amount : result.invoice.amount = response.input.amount
  expiresAt : result.invoice.expiresAt = response.input.expiresAt
  requests : result.cashuPaymentRequest.Requests result.invoice
  invoice : ∃ row ∈ db.merchantInvoices, row.openInvoice = result.invoice
  paymentRequest : ∃ row ∈ db.invoiceCashuRequests, row.invoiceId = result.invoice.id ∧
    row.routeSetFingerprint = ⟨result.invoice.merchantId, result.cashuPaymentRequest,
      response.settlementDestination⟩

theorem InvoiceResponse.answers_of_sound {response : InvoiceResponse}
    {result : CreateOpenInvoiceResult} {db : Db} (h : response.Sound db)
    (hresult : response.outcome = .ok result) : response.Answers result db := by
  unfold InvoiceResponse.Sound at h
  rw [hresult] at h
  obtain ⟨key, request, hasks, hissued⟩ := h
  obtain ⟨-, hmerchant, hamount, hexpiresAt, hdestination⟩ := InvoiceService.validateInput_ok hasks
  constructor
  case merchantId => exact (congrArg Subtype.val hissued.merchantId).trans hmerchant
  case amount => exact hissued.amount.trans hamount
  case expiresAt => exact hissued.expiresAt.trans hexpiresAt
  case requests => exact hissued.requests
  case invoice => exact hissued.invoice
  case paymentRequest =>
    obtain ⟨hrow, -⟩ := Table.find_some hissued.paymentRequest
    exact ⟨_, hrow, rfl, by rw [← hdestination]; rfl⟩

/-- Two responses to one key that name an invoice are to one request, and name one invoice. -/
theorem InvoiceResponse.same_of_sound {response other : InvoiceResponse}
    {result otherResult : CreateOpenInvoiceResult} {db : Db} (h : response.Sound db)
    (hother : other.Sound db) (hkey : other.merchantKey = response.merchantKey)
    (hresult : response.outcome = .ok result) (hotherResult : other.outcome = .ok otherResult) :
    other.input = response.input ∧ other.settlementDestination = response.settlementDestination ∧
      otherResult.invoice = result.invoice ∧
      otherResult.cashuPaymentRequest = result.cashuPaymentRequest := by
  unfold InvoiceResponse.Sound at h hother
  rw [hresult] at h
  rw [hotherResult] at hother
  obtain ⟨key, request, hasks, hissued⟩ := h
  obtain ⟨key', request', hasks', hissued'⟩ := hother
  obtain ⟨hrequestKey, hmerchant, hamount, hexpiresAt, hdestination⟩ :=
    InvoiceService.validateInput_ok hasks
  obtain ⟨hrequestKey', hmerchant', hamount', hexpiresAt', hdestination'⟩ :=
    InvoiceService.validateInput_ok hasks'
  obtain ⟨hmerchants, hkeys⟩ := Prod.mk.inj hkey
  obtain rfl : key' = key := Subtype.ext (hrequestKey'.trans (hkeys.trans hrequestKey.symm))
  obtain ⟨rfl, hsame⟩ := hissued.unique hissued'
    (Subtype.ext (hmerchant'.trans (hmerchants.trans hmerchant.symm)))
  obtain ⟨hpaymentRequest, hinvoice⟩ := IssuedInvoice.mk.inj hsame
  refine ⟨?_, hdestination'.symm.trans hdestination, hinvoice, hpaymentRequest⟩
  obtain ⟨⟨amount, expiresAt, idempotencyKey, merchantId⟩, _, _⟩ := response
  obtain ⟨⟨amount', expiresAt', idempotencyKey', merchantId'⟩, _, _⟩ := other
  obtain rfl : amount' = amount := hamount'.symm.trans hamount
  obtain rfl : expiresAt' = expiresAt := hexpiresAt'.symm.trans hexpiresAt
  obtain rfl : idempotencyKey' = idempotencyKey := hkeys
  obtain rfl : merchantId' = merchantId := hmerchants
  rfl

/-- An invoice for a key, once and for all: in every run of requests of any input, to services of any
configuration, beside every other operation, with whatever the clocks and the identifier factories give
and whichever answers are lost, at most one response to a key says that its invoice is new; every
response that names an invoice names a stored one that is what its request asked for, and two of them to
one key name the same invoice and payment request; and a conflict is told only where another request has
the key. -/
theorem invoices_answered_once
    {c : Pool InvoicingWorld (InvoiceProcess InvoiceServiceError Unit)}
    (hreach : InvoicingReachable c) :
    ((c.shared.responses.filter (·.Created)).map (·.merchantKey)).Nodup ∧
      ∀ response ∈ c.shared.responses,
        (∀ result, response.outcome = .ok result → response.Answers result c.shared.db ∧
          ∀ other ∈ c.shared.responses, other.merchantKey = response.merchantKey →
            ∀ otherResult, other.outcome = .ok otherResult →
              other.input = response.input ∧
                other.settlementDestination = response.settlementDestination ∧
                otherResult.invoice = result.invoice ∧
                otherResult.cashuPaymentRequest = result.cashuPaymentRequest) ∧
        ∀ error, response.outcome = .error error → error.code = .idempotencyConflict →
          ∃ key request, response.Asks key request ∧ KeyTaken c.shared.db key request := by
  have hsound := invoicingSound_of_reachable hreach
  refine ⟨?_, fun response hresponse => ⟨?_, ?_⟩⟩
  · apply List.nodup_iff_count_le_one.mpr
    intro key
    have hle := createdFor_le_one hreach key
    rw [InvoicingWorld.createdFor] at hle
    rw [List.count_eq_countP, List.countP_map, List.countP_filter]
    refine le_of_eq_of_le (List.countP_congr ?_) hle
    intro response _
    simp
  · intro result hresult
    have htrue := hsound.responses response hresponse
    refine ⟨InvoiceResponse.answers_of_sound htrue hresult, ?_⟩
    intro other hother hkey otherResult hotherResult
    exact InvoiceResponse.same_of_sound htrue (hsound.responses other hother) hkey hresult
      hotherResult
  · intro error hrefused hconflict
    have htrue := hsound.responses response hresponse
    unfold InvoiceResponse.Sound at htrue
    rw [hrefused] at htrue
    exact htrue hconflict

namespace Sample

/-- A service whose requests accept the one operator. -/
def invoiceService : InvoiceService where
  issue invoice issuedAt := createCashuPaymentRequest invoice issuedAt
    [⟨mintUrl, operatorId, none, .trusted⟩] "https://pay.example/"
  settlementDestination := destination

def invoiceInput (amount : Nat) : CreateMerchantInvoiceInput where
  amount
  expiresAt := 5000
  idempotencyKey := "key-1"
  merchantId := "merchant-1"

/-- The stores answer, the clock stands at 1000, and the factory gives the identifiers of a list. -/
def invoiceRespond : (effect : InvoiceEffect) → InvoicingWorld × List String →
    InvoiceAnswer effect × InvoicingWorld × List String
  | .readClock, t => (some 1000, t)
  | .generateInvoiceId, (w, ids) => (ids.head?, w, ids.tail)
  | .findCreationRow merchantId idempotencyKey, t =>
      (.ok (findCreationRow t.1.db merchantId idempotencyKey), t)
  | .findRoutes invoice, t => (.ok (t.1.db.routesOf invoice.id invoice.merchantId), t)
  | .createOpenInvoice input, (w, ids) =>
      match createOpenInvoice w.db input with
      | .error error => (.error error, w, ids)
      | .ok (result, db) => (.ok result, { w with db }, ids)
  | .respond response, (w, ids) => ((), { w with responses := response :: w.responses }, ids)

theorem invoiceRespond_performs (effect : InvoiceEffect) (t : InvoicingWorld × List String) :
    InvoicingWorld.performs effect t.1 (invoiceRespond effect t).1
      (invoiceRespond effect t).2.1 := by
  obtain ⟨w, ids⟩ := t
  cases effect with
  | readClock | generateInvoiceId => rfl
  | findCreationRow | findRoutes => exact ⟨.inl rfl, rfl⟩
  | respond response => exact ⟨rfl, rfl⟩
  | createOpenInvoice input =>
      simp only [invoiceRespond]
      split
      · case h_1 error hrefused => exact ⟨.error hrefused, rfl⟩
      · case h_2 result db hcreated => exact ⟨.ok hcreated, rfl⟩

theorem reachable_serve (w : InvoicingWorld) (ids : List String) (amount : Nat)
    (ps : List (InvoiceProcess InvoiceServiceError Unit)) (hreach : InvoicingReachable ⟨w, ps⟩) :
    ∃ ps', InvoicingReachable
      ⟨((invoiceService.serve (invoiceInput amount)).runWith invoiceRespond (w, ids)).2.1, ps'⟩ :=
  ⟨_, (hreach.tail (.start ⟨invoiceService, invoiceInput amount, rfl⟩)).trans
    (Pool.run_of_runWith invoiceRespond_performs _ (w, ids) ps)⟩

/-- The world after some requests of the key, one after the other, for the amounts. -/
@[irreducible] def served (amounts : List Nat) : InvoicingWorld × List String :=
  amounts.foldl
    (fun t amount => ((invoiceService.serve (invoiceInput amount)).runWith invoiceRespond t).2)
    (⟨Db.empty, []⟩, ["invoice-1", "invoice-2"])

theorem reachable_served (amounts : List Nat) :
    ∃ ps, InvoicingReachable ⟨(served amounts).1, ps⟩ := by
  unfold served
  generalize ["invoice-1", "invoice-2"] = ids
  have hfrom : ∀ (t : InvoicingWorld × List String) (ps), InvoicingReachable ⟨t.1, ps⟩ →
      ∃ ps', InvoicingReachable ⟨(amounts.foldl (fun t amount =>
        ((invoiceService.serve (invoiceInput amount)).runWith invoiceRespond t).2) t).1, ps'⟩ := by
    induction amounts with
    | nil => exact fun t ps hreach => ⟨ps, hreach⟩
    | cons amount amounts ih =>
        rintro ⟨w, ids⟩ ps hreach
        obtain ⟨ps', hserved⟩ := reachable_serve w ids amount ps hreach
        exact ih _ ps' hserved
  exact hfrom (⟨Db.empty, []⟩, ids) [] .refl

end Sample

/-- A key that is asked for twice and then for another amount. -/
theorem invoices_answered_once_repeated :
    ∃ c, InvoicingReachable c ∧
      c.shared.responses.map (fun response => response.outcome.toOption.map (·.replayed)) =
        [none, some true, some false] ∧
      ((c.shared.responses.filter (·.Created)).map (·.merchantKey)).Nodup := by
  obtain ⟨ps, hreach⟩ := Sample.reachable_served [100, 100, 200]
  have hresponses : (Sample.served [100, 100, 200]).1.responses.map
      (fun response => response.outcome.toOption.map (·.replayed)) =
        [none, some true, some false] := by
    decide +kernel
  exact ⟨_, hreach, hresponses, (invoices_answered_once hreach).1⟩

end CashMesh.Acquirer
