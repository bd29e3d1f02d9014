import CashMesh.Acquirer.Changes
import CashMesh.Acquirer.Issuing
/-!
# One invoice for a key

Every call with the merchant and the idempotency key of a committed one shares the invoice of the one
call that inserted it. The key is decided at a single row: the creation row that a transaction holds
conflicts with the one that any other call of the key would insert, and what a replay reads is the
row that won, whose fingerprints carry the request.
-/

namespace CashMesh.Acquirer

open CashMesh.Lib

variable {db db' : Db} {input : CreateOpenInvoiceInput}

/-! ### What a commit writes -/

theorem validateCashuPaymentRequest_ok {invoice : OpenInvoice}
    {request validated : CashuPaymentRequest}
    (h : validateCashuPaymentRequest invoice request = .ok validated) : validated = request := by
  simp only [validateCashuPaymentRequest, bind_eq_ok, ensure_eq_ok, exists_unit, orFail_eq_ok,
    pure_eq_ok, Except.ok.injEq] at h
  obtain ⟨-, reconstructed, -, hsame, rfl⟩ := h
  exact hsame.symm

theorem sessionAfter_inserts {request : CashuPaymentRequest} {s : Session}
    (h : sessionAfter db (input.inserts request) = .ok s) :
    ∃ s₁ s₂, insertInvoiceCreation ⟨db, []⟩ input.creationRow = .ok s₁ ∧
      insertInvoice s₁ input.invoiceRow = .ok s₂ ∧
      insertCashuPaymentRequest s₂ input.invoice request input.settlementDestination = .ok s := by
  rw [sessionAfter, CreateOpenInvoiceInput.inserts, List.foldlM_append] at h
  simp only [List.foldlM_cons, List.foldlM_nil, bind_eq_ok, pure_eq_ok, Except.ok.injEq,
    InvoiceInsert.run, List.foldlM_map] at h
  obtain ⟨s₃, ⟨s₁, hcreation, s₂, hinvoice, s₄, hrequest, rfl⟩, hroutes⟩ := h
  refine ⟨s₁, s₂, hcreation, hinvoice, ?_⟩
  simp only [insertCashuPaymentRequest, bind_eq_ok, invoiceStatement_eq_ok]
  refine ⟨s₄, hrequest, ?_⟩
  apply foldlM_ok_mono ?_ hroutes
  intro s route _ s' hstep
  exact invoiceStatement_eq_ok.mpr hstep

theorem commit_inserts {request : CashuPaymentRequest}
    (h : sessionAfter db (input.inserts request) >>= Session.commit = .ok db') :
    db.invoiceCreationRequests.Appends [input.creationRow] db'.invoiceCreationRequests ∧
      db.merchantInvoices.Appends [input.invoiceRow] db'.merchantInvoices ∧
      db.invoiceCashuRequests.Appends
        [invoiceRequestRow input.invoice request input.settlementDestination]
        db'.invoiceCashuRequests := by
  obtain ⟨s, hsession, hcommit⟩ := bind_eq_ok.mp h
  obtain ⟨s₁, s₂, hcreation, hinvoice, hrequest⟩ := sessionAfter_inserts hsession
  obtain ⟨-, rfl⟩ := Session.commit_eq_ok.mp hcommit
  simp only [insertCashuPaymentRequest, bind_eq_ok, invoiceStatement_eq_ok] at hrequest
  obtain ⟨s₃, hrequest, hroutes⟩ := hrequest
  obtain ⟨creations, hcreations, rfl⟩ := insertInvoiceCreation_ok hcreation
  obtain ⟨-, invoices, hinvoices, hs₂⟩ := insertInvoice_ok hinvoice
  obtain ⟨requests, hrequests, hs₃⟩ := insertInvoiceRequest_ok hrequest
  obtain ⟨routes, -, hs⟩ := insertRoutes_ok hroutes
  rw [hs₂] at hrequests hs₃
  rw [hs, hs₃]
  exact ⟨hcreations, hinvoices, hrequests⟩

/-- A commit is the atomic creation of the invoice over the rows that it finds committed. -/
theorem createOpenInvoice_of_commit {request : CashuPaymentRequest}
    (hvalid : validateCashuPaymentRequest input.invoice input.cashuPaymentRequest = .ok request)
    (h : sessionAfter db (input.inserts request) >>= Session.commit = .ok db') :
    createOpenInvoice db input = .ok (⟨request, input.invoice, false⟩, db') := by
  have hnew : db.invoiceCreationRequests.find (fun row =>
      row.merchantId = input.invoice.merchantId ∧ row.idempotencyKey = input.idempotencyKey) =
        none := by
    rw [Table.find_none]
    intro row hrow hkey
    exact (commit_inserts h).1.not_collide hrow (List.mem_singleton_self _) (.inl hkey)
  obtain ⟨s, hsession, hcommit⟩ := bind_eq_ok.mp h
  obtain ⟨s₁, s₂, hcreation, hinvoice, hrequest⟩ := sessionAfter_inserts hsession
  simp only [createOpenInvoice, bind_eq_ok, hvalid, hnew]
  refine ⟨request, rfl, s₁, invoiceStatement_eq_ok.mpr hcreation, s₂,
    invoiceStatement_eq_ok.mpr hinvoice, s, hrequest, db', invoiceStatement_eq_ok.mpr hcommit, rfl⟩

/-- The rows of an issued invoice that a replay reads. -/
structure RowsStored (db : Db) (input : CreateOpenInvoiceInput) : Prop where
  creation : input.creationRow ∈ db.invoiceCreationRequests
  invoice : ∃ row ∈ db.merchantInvoices, row.id = input.invoice.id ∧
    row.merchantId = input.invoice.merchantId
  request : db.requestOf input.invoice.id input.invoice.merchantId =
    some (invoiceRequestRow input.invoice input.cashuPaymentRequest input.settlementDestination)

theorem rowsStored_of_commit
    (h : sessionAfter db (input.inserts input.cashuPaymentRequest) >>= Session.commit = .ok db') :
    RowsStored db' input := by
  obtain ⟨hcreations, hinvoices, hrequests⟩ := commit_inserts h
  refine ⟨hcreations.mem.mpr (.inr (List.mem_singleton_self _)),
    ⟨input.invoiceRow, hinvoices.mem.mpr (.inr (List.mem_singleton_self _)), rfl, rfl⟩, ?_⟩
  have hnew : invoiceRequestRow input.invoice input.cashuPaymentRequest
      input.settlementDestination ∈ db'.invoiceCashuRequests :=
    hrequests.mem.mpr (.inr (List.mem_singleton_self _))
  apply Table.find_of_mem hnew ⟨rfl, rfl⟩
  intro row hrow
  exact hrow.1

/-! ### What the others keep -/

/-- An invoice row stays, perhaps paid. -/
theorem invoiceRow_of_change (h : Change db db') {row : MerchantInvoiceRow}
    (hrow : row ∈ db.merchantInvoices) :
    ∃ row' ∈ db'.merchantInvoices, row'.id = row.id ∧ row'.merchantId = row.merchantId := by
  cases h with
  | invoiceCreated _ _ hinvoices => exact ⟨row, hinvoices.mem_of_mem hrow, rfl, rfl⟩
  | @paymentAccepted scope _ accounting _ _ _ _ _ _ _ _ _ _ _ _ _ _ hinvoices _ _ hdb =>
      rw [hdb]
      refine ⟨if row.id = scope.invoiceId ∧ row.state = .open ∧ row.paidAt = none then
        row.pay accounting.invoice.paidAt else row, ?_, ?_⟩
      · rw [Table.mem_def]
        simp only [Db.afterEvent, Db.withAccounting, hinvoices, payRows]
        exact List.mem_map.mpr ⟨row, hrow, rfl⟩
      · split
        · exact ⟨rfl, rfl⟩
        · exact ⟨rfl, rfl⟩
  | _ => exact ⟨row, hrow, rfl, rfl⟩

theorem requests_of_change (h : Change db db') :
    ∃ requests, db.invoiceCashuRequests.Appends requests db'.invoiceCashuRequests := by
  cases h with
  | invoiceCreated _ _ _ _ hrequests => exact ⟨_, hrequests⟩
  | paymentAccepted _ _ _ _ _ _ _ _ _ hdb =>
      rw [hdb]
      exact ⟨[], Table.Appends.refl _⟩
  | _ => exact ⟨[], Table.Appends.refl _⟩

theorem RowsStored.of_change (hrows : RowsStored db input) (h : Change db db')
    (hcreations : ∀ row ∈ db.invoiceCreationRequests, row ∈ db'.invoiceCreationRequests) :
    RowsStored db' input := by
  obtain ⟨row, hrow, hid, hmerchant⟩ := hrows.invoice
  obtain ⟨row', hrow', hid', hmerchant'⟩ := invoiceRow_of_change h hrow
  obtain ⟨requests, hrequests⟩ := requests_of_change h
  exact ⟨hcreations _ hrows.creation, ⟨row', hrow', hid'.trans hid, hmerchant'.trans hmerchant⟩,
    hrequests.find_of_some hrows.request⟩

/-! ### What a replay reads -/

theorem mapInvoiceRow_ok {row : MerchantInvoiceRow} {invoice : OpenInvoice}
    (h : mapInvoiceRow row = .ok invoice) :
    invoice.id = row.id ∧ invoice.merchantId = row.merchantId := by
  simp only [mapInvoiceRow, createInvoice, bind_eq_ok, ensure_eq_ok, exists_unit, mapError_eq_ok,
    pure_eq_ok, Except.ok.injEq] at h
  obtain ⟨-, -, -, amount, -, -, -, rfl⟩ := h
  exact ⟨rfl, rfl⟩

theorem readCreation_ok {invoice : OpenInvoice} {requestRow : Option InvoiceCashuRequestRow}
    (h : readCreation db input = .ok (invoice, requestRow)) :
    ∃ creation ∈ db.invoiceCreationRequests, creation.merchantId = input.invoice.merchantId ∧
      creation.idempotencyKey = input.idempotencyKey ∧
      creation.requestFingerprint = input.requestFingerprint ∧
      invoice.id = creation.invoiceId ∧
      requestRow = db.requestOf creation.invoiceId creation.merchantId := by
  simp only [readCreation, bind_eq_ok, orFail_eq_ok, ensure_eq_ok, exists_unit, pure_eq_ok,
    Except.ok.injEq, Prod.mk.injEq] at h
  obtain ⟨creation, hcreation, row, hrow, hfingerprint, found, hinvoice, rfl, rfl⟩ := h
  obtain ⟨hmem, hmerchant, hkey⟩ := Table.find_some hcreation
  obtain ⟨-, hid, hrowMerchant⟩ := Table.find_some hrow
  refine ⟨creation, hmem, hmerchant, hkey, hfingerprint, (mapInvoiceRow_ok hinvoice).1.trans hid, ?_⟩
  rw [hid, hrowMerchant]

theorem readCreation_conflict {first : CreateOpenInvoiceInput} (hrows : RowsStored db first)
    (hmerchant : first.invoice.merchantId = input.invoice.merchantId)
    (hkey : first.idempotencyKey = input.idempotencyKey)
    (hfingerprint : first.requestFingerprint ≠ input.requestFingerprint) :
    readCreation db input = .error .idempotencyConflict := by
  have hcreation : db.invoiceCreationRequests.find (fun row =>
      row.merchantId = input.invoice.merchantId ∧ row.idempotencyKey = input.idempotencyKey) =
        some first.creationRow := by
    apply Table.find_of_mem hrows.creation ⟨hmerchant, hkey⟩
    intro other hother
    exact .inl ⟨hother.1.trans hmerchant.symm, hother.2.trans hkey.symm⟩
  obtain ⟨row, hrow, hid, hrowMerchant⟩ := hrows.invoice
  have hinvoice : db.merchantInvoices.find (fun row =>
      row.id = first.creationRow.invoiceId ∧ row.merchantId = first.creationRow.merchantId) =
        some row := by
    apply Table.find_of_mem hrow ⟨hid, hrowMerchant⟩
    intro other hother
    exact hother.1.trans hid.symm
  simp only [readCreation, hcreation, hinvoice, orFail, ok_bind]
  rw [show ensure (first.creationRow.requestFingerprint = input.requestFingerprint)
    InvoiceError.idempotencyConflict = .error .idempotencyConflict from ensure_of_not hfingerprint]
  rfl

theorem readRoutes_ok {invoice : OpenInvoice} {row : InvoiceCashuRequestRow}
    {request : CashuPaymentRequest} (h : readRoutes db invoice (some row) = .ok request) :
    request = row.routeSetFingerprint.request := by
  simp only [readRoutes, bind_eq_ok, orFail_eq_ok, Option.some.injEq] at h
  obtain ⟨_, rfl, h⟩ := h
  simp only [reconstructStoredCashuPaymentRequest, Option.bind_eq_bind,
    Option.bind_eq_some_iff] at h
  obtain ⟨firstRow, -, h⟩ := h
  split at h
  · rw [Option.bind_eq_some_iff] at h
    obtain ⟨reconstructed, -, h⟩ := h
    split at h
    · case isTrue hstored =>
        cases h
        rw [hstored.2.2.1]
    · cases h
  · cases h

/-! ### The invariant -/

/-- The call that inserted the invoice it returns. -/
def CreationCall.Issued (call : CreationCall) : Prop :=
  ∃ result, call.phase.result? = some result ∧ result.replayed = false

/-- The first call has issued the invoice of an id to the key of the second one, and both were made for
one request. -/
def SharesInvoice (calls : List CreationCall) (call : CreationCall) (invoiceId : InvoiceId)
    (first : CreationCall) : Prop :=
  first ∈ calls ∧ first.Issued ∧ first.key = call.key ∧
    first.input.requestFingerprint = call.input.requestFingerprint ∧
    first.input.invoice.id = invoiceId

/-- What a call knows of the rows and the other calls where it is. -/
def CallSound (calls : List CreationCall) (call : CreationCall) : Prop :=
  match call.phase with
  | .inserting request done rest =>
      validateCashuPaymentRequest call.input.invoice call.input.cashuPaymentRequest =
          .ok request ∧
        done ++ rest = call.input.inserts request
  | .found invoice requestRow =>
      ∃ first, SharesInvoice calls call invoice.id first ∧
        requestRow = some (invoiceRequestRow first.input.invoice
          first.input.cashuPaymentRequest first.input.settlementDestination)
  | .replayed result =>
      result.replayed = true ∧ ∃ first, SharesInvoice calls call result.invoice.id first ∧
        result.cashuPaymentRequest = first.input.cashuPaymentRequest
  | .returned result | .lost result =>
      ∃ first, SharesInvoice calls call result.invoice.id first ∧
        result.cashuPaymentRequest = first.input.cashuPaymentRequest
  | .entered | .replaying | .refused _ | .broken => True

/-- What holds of every world that a run reaches. -/
structure IssuingSound (w : IssuingWorld) : Prop where
  /-- Two open transactions hold no rows that share a key. -/
  exclusive : ∀ (i j : Nat) (call other : CreationCall), w.calls[i]? = some call →
    w.calls[j]? = some other → i ≠ j →
      ∀ insert ∈ call.phase.held, ∀ held ∈ other.phase.held, ¬insert.Conflicts held
  /-- The creation row that a transaction holds shares no key with a committed one. -/
  free : ∀ call ∈ w.calls, ∀ row, .creation row ∈ call.phase.held →
    ∀ old ∈ w.committed.invoiceCreationRequests, ¬Collide old row
  /-- A key is issued once. -/
  once : ∀ (i j : Nat) (call other : CreationCall), w.calls[i]? = some call →
    w.calls[j]? = some other → i ≠ j → call.Issued → other.Issued → call.key ≠ other.key
  /-- Every creation row is the one of an issued call, -/
  issued : ∀ row ∈ w.committed.invoiceCreationRequests, ∃ call ∈ w.calls, call.Issued ∧
    call.input.creationRow = row
  /-- and every issued call has its rows. -/
  stored : ∀ call ∈ w.calls, call.Issued → RowsStored w.committed call.input
  sound : ∀ call ∈ w.calls, CallSound w.calls call

theorem issuingSound_empty : IssuingSound ⟨Db.empty, []⟩ where
  exclusive := by simp
  free := by simp
  once := by simp
  issued row hrow := absurd hrow Table.not_mem_empty
  stored := by simp
  sound := by simp

/-! ### One more place, or another phase -/

/-- Whatever has been issued in the first list has been in the second one. -/
def IssuedStay (calls calls' : List CreationCall) : Prop :=
  ∀ first ∈ calls, first.Issued → ∃ first' ∈ calls', first'.Issued ∧ first'.input = first.input

/-- The second list has the call at the place, and what the first one has at every other place. -/
def Placed (calls : List CreationCall) (i : Nat) (call : CreationCall)
    (calls' : List CreationCall) : Prop :=
  ∀ j other, calls'[j]? = some other ↔ (j = i ∧ other = call) ∨ (j ≠ i ∧ calls[j]? = some other)

theorem placed_append (calls : List CreationCall) (call : CreationCall) :
    Placed calls calls.length call (calls ++ [call]) := by
  intro j other
  rcases Nat.lt_trichotomy j calls.length with hlt | rfl | hgt
  · rw [List.getElem?_append_left hlt]
    simp [Nat.ne_of_lt hlt]
  · simp [eq_comm]
  · have hnone : calls[j]? = none := List.getElem?_eq_none (Nat.le_of_lt hgt)
    have hnone' : (calls ++ [call])[j]? = none := List.getElem?_eq_none (by simp; omega)
    simp [hnone, hnone', Nat.ne_of_gt hgt]

theorem placed_set {calls : List CreationCall} {i : Nat} {old : CreationCall}
    (hold : calls[i]? = some old) (call : CreationCall) :
    Placed calls i call (calls.set i call) := by
  intro j other
  have hlength : i < calls.length := (List.getElem?_eq_some_iff.mp hold).1
  by_cases hij : j = i
  · subst hij
    simp [List.getElem?_set_self hlength, eq_comm]
  · rw [List.getElem?_set_ne (Ne.symm hij)]
    simp [hij]

namespace Placed

variable {calls calls' : List CreationCall} {i : Nat} {call : CreationCall}

theorem mem (h : Placed calls i call calls') : call ∈ calls' :=
  List.mem_of_getElem? ((h i call).mpr (.inl ⟨rfl, rfl⟩))

theorem cases_mem (h : Placed calls i call calls') {other : CreationCall} (hother : other ∈ calls') :
    other = call ∨ ∃ j, j ≠ i ∧ calls[j]? = some other := by
  obtain ⟨j, hj⟩ := List.mem_iff_getElem?.mp hother
  rcases (h j other).mp hj with ⟨-, hsame⟩ | hother
  · exact .inl hsame
  · exact .inr ⟨j, hother⟩

theorem issuedStay (h : Placed calls i call calls')
    (hold : ∀ old, calls[i]? = some old → old.input = call.input ∧ (old.Issued → call.Issued)) :
    IssuedStay calls calls' := by
  intro first hfirst hissued
  obtain ⟨j, hj⟩ := List.mem_iff_getElem?.mp hfirst
  by_cases hij : j = i
  · subst hij
    obtain ⟨hinput, hkept⟩ := hold first hj
    exact ⟨call, h.mem, hkept hissued, hinput.symm⟩
  · exact ⟨first, List.mem_of_getElem? ((h j first).mpr (.inr ⟨hij, hj⟩)), hissued, rfl⟩

end Placed

theorem CreationCall.key_congr {call other : CreationCall} (h : call.input = other.input) :
    call.key = other.key := by
  rw [key, key, h]

theorem SharesInvoice.later {calls calls' : List CreationCall} {call first : CreationCall}
    {invoiceId : InvoiceId} (h : SharesInvoice calls call invoiceId first)
    (hlater : IssuedStay calls calls') :
    ∃ first', first'.input = first.input ∧ SharesInvoice calls' call invoiceId first' := by
  obtain ⟨hmem, hissued, hkey, hfingerprint, hinvoice⟩ := h
  obtain ⟨first', hmem', hissued', hinput⟩ := hlater first hmem hissued
  refine ⟨first', hinput, hmem', hissued', ?_, ?_, ?_⟩
  · exact (CreationCall.key_congr hinput).trans hkey
  · rw [hinput]
    exact hfingerprint
  · rw [hinput]
    exact hinvoice

theorem CallSound.later {calls calls' : List CreationCall} {call : CreationCall}
    (hlater : IssuedStay calls calls') (h : CallSound calls call) : CallSound calls' call := by
  obtain ⟨input, phase⟩ := call
  cases phase with
  | found invoice requestRow =>
      obtain ⟨first, hshares, hrow⟩ := h
      obtain ⟨first', hinput, hshares'⟩ := hshares.later hlater
      exact ⟨first', hshares', hinput ▸ hrow⟩
  | replayed result =>
      obtain ⟨hreplayed, first, hshares, hrequest⟩ := h
      obtain ⟨first', hinput, hshares'⟩ := hshares.later hlater
      exact ⟨hreplayed, first', hshares', hinput ▸ hrequest⟩
  | returned result =>
      obtain ⟨first, hshares, hrequest⟩ := h
      obtain ⟨first', hinput, hshares'⟩ := hshares.later hlater
      exact ⟨first', hshares', hinput ▸ hrequest⟩
  | lost result =>
      obtain ⟨first, hshares, hrequest⟩ := h
      obtain ⟨first', hinput, hshares'⟩ := hshares.later hlater
      exact ⟨first', hshares', hinput ▸ hrequest⟩
  | _ => exact h

/-! ### What a step does -/

/-- The steps of a call before its commit. -/
inductive Advanced (db : Db) (heldByOthers : List InvoiceInsert) (input : CreateOpenInvoiceInput) :
    CreationPhase → CreationPhase → Prop
  | validated {request}
      (hvalid : validateCashuPaymentRequest input.invoice input.cashuPaymentRequest =
        .ok request) :
      Advanced db heldByOthers input .entered (.inserting request [] (input.inserts request))
  | inserted {request done insert rest s}
      (hothers : ∀ other ∈ heldByOthers, ¬insert.Conflicts other)
      (hsession : sessionAfter db (done ++ [insert]) = .ok s) :
      Advanced db heldByOthers input (.inserting request done (insert :: rest))
        (.inserting request (done ++ [insert]) rest)
  | skipped {request done insert rest} (hskipped : insert.Skipped db) :
      Advanced db heldByOthers input (.inserting request done (insert :: rest)) .replaying
  | found {invoice requestRow} (hread : readCreation db input = .ok (invoice, requestRow)) :
      Advanced db heldByOthers input .replaying (.found invoice requestRow)
  | replayed {invoice requestRow request} (hread : readRoutes db invoice requestRow = .ok request) :
      Advanced db heldByOthers input (.found invoice requestRow)
        (.replayed ⟨request, invoice, true⟩)
  | answered {result} : Advanced db heldByOthers input (.replayed result) (.returned result)
  | refused {phase error} (hrunning : phase.Running) :
      Advanced db heldByOthers input phase (.refused error)

theorem advance_cases {heldByOthers : List InvoiceInsert} {phase phase' : CreationPhase}
    (h : CreationCall.advance db heldByOthers ⟨input, phase⟩ = some (phase', db')) :
    (db' = db ∧ Advanced db heldByOthers input phase phase') ∨
      ∃ request done, phase = .inserting request done [] ∧
        sessionAfter db done >>= Session.commit = .ok db' ∧
        phase' = .returned ⟨request, input.invoice, false⟩ := by
  cases phase with
  | entered =>
      simp only [CreationCall.advance] at h
      split at h
      · case h_1 hvalid =>
          cases h
          exact .inl ⟨rfl, .validated hvalid⟩
      · cases h
        exact .inl ⟨rfl, .refused trivial⟩
  | inserting request done rest =>
      cases rest with
      | nil =>
          simp only [CreationCall.advance] at h
          split at h
          · case h_1 hcommit =>
              cases h
              exact .inr ⟨request, done, rfl, hcommit, rfl⟩
          · cases h
            exact .inl ⟨rfl, .refused trivial⟩
      | cons insert rest =>
          simp only [CreationCall.advance] at h
          split at h
          · case isTrue hskipped =>
              cases h
              exact .inl ⟨rfl, .skipped hskipped⟩
          · split at h
            · cases h
            · case isFalse hothers =>
                split at h
                · case h_1 hsession =>
                    cases h
                    exact .inl ⟨rfl, .inserted (by simpa using hothers) hsession⟩
                · cases h
                  exact .inl ⟨rfl, .refused trivial⟩
  | replaying =>
      simp only [CreationCall.advance] at h
      split at h
      · case h_1 hread =>
          cases h
          exact .inl ⟨rfl, .found hread⟩
      · cases h
        exact .inl ⟨rfl, .refused trivial⟩
  | found invoice requestRow =>
      simp only [CreationCall.advance] at h
      split at h
      · case h_1 hread =>
          cases h
          exact .inl ⟨rfl, .replayed hread⟩
      · cases h
        exact .inl ⟨rfl, .refused trivial⟩
  | replayed result =>
      cases h
      exact .inl ⟨rfl, .answered⟩
  | returned result => cases h
  | lost result => cases h
  | refused error => cases h
  | broken => cases h

theorem running_of_advance {heldByOthers : List InvoiceInsert} {phase phase' : CreationPhase}
    (h : CreationCall.advance db heldByOthers ⟨input, phase⟩ = some (phase', db')) :
    phase.Running := by
  cases phase with
  | entered | inserting | replaying | found | replayed => trivial
  | returned | lost | refused | broken => cases h

theorem InvoiceInsert.run_ok {s s' : Session} {insert : InvoiceInsert} (h : insert.run s = .ok s') :
    (∀ old ∈ s.db.invoiceCreationRequests, old ∈ s'.db.invoiceCreationRequests) ∧
      ∀ row, insert = .creation row → ∀ old ∈ s.db.invoiceCreationRequests, ¬Collide old row := by
  cases insert with
  | creation row =>
      obtain ⟨creations, hcreations, rfl⟩ := insertInvoiceCreation_ok h
      refine ⟨fun old hold => hcreations.mem_of_mem hold, ?_⟩
      rintro row ⟨⟩ old hold
      exact hcreations.not_collide hold (List.mem_singleton_self _)
  | invoice row =>
      obtain ⟨-, invoices, -, hdb⟩ := insertInvoice_ok h
      rw [hdb]
      exact ⟨fun _ hold => hold, by simp⟩
  | request row =>
      obtain ⟨requests, -, hdb⟩ := insertInvoiceRequest_ok h
      rw [hdb]
      exact ⟨fun _ hold => hold, by simp⟩
  | route row =>
      obtain ⟨routes, -, hdb⟩ := insertInvoiceRoute_ok h
      rw [hdb]
      exact ⟨fun _ hold => hold, by simp⟩

/-- The creation rows that a transaction inserts share no key with a committed one. -/
theorem not_collide_of_session {inserts : List InvoiceInsert} {s : Session}
    (h : sessionAfter db inserts = .ok s) :
    ∀ row, .creation row ∈ inserts → ∀ old ∈ db.invoiceCreationRequests, ¬Collide old row := by
  apply foldlM_ok_induction (motive := fun s inserts _ => ∀ row, .creation row ∈ inserts →
    ∀ old ∈ s.db.invoiceCreationRequests, ¬Collide old row) ?_ ?_ h
  · simp
  · intro s insert s₁ inserts s' hrun hrest row hrow old hold
    obtain ⟨hkept, hfree⟩ := InvoiceInsert.run_ok hrun
    rcases List.mem_cons.mp hrow with hsame | hrow
    · exact hfree row hsame.symm old hold
    · exact hrest row hrow old (hkept old hold)

/-! ### Every step is sound -/

theorem InvoiceInsert.Conflicts.symm {insert insert' : InvoiceInsert}
    (h : insert.Conflicts insert') : insert'.Conflicts insert := by
  cases insert <;> cases insert' <;> first | exact UniqueKeys.symm h | exact h

theorem mem_heldBy_of_ne {calls : List CreationCall} {i j : Nat} {other : CreationCall}
    {held : InvoiceInsert} (hother : calls[j]? = some other) (hne : j ≠ i)
    (hheld : held ∈ other.phase.held) : held ∈ heldBy (calls.eraseIdx i) := by
  apply List.mem_flatMap.mpr
  exact ⟨other, List.mem_eraseIdx_iff_getElem?.mpr ⟨j, hne, hother⟩, hheld⟩

section Steps

variable {calls calls' : List CreationCall} {i : Nat} {call : CreationCall}

/-- A call at its place, over the same rows, when it is not the one that issues the invoice. -/
theorem IssuingSound.place (h : IssuingSound ⟨db, calls⟩) (hplaced : Placed calls i call calls')
    (hold : ∀ old, calls[i]? = some old → old.input = call.input ∧ (old.Issued → call.Issued))
    (hissued : call.Issued → ∃ old, calls[i]? = some old ∧ old.Issued)
    (hheld : ∀ insert ∈ call.phase.held, ∀ j other, calls[j]? = some other → j ≠ i →
      ∀ held ∈ other.phase.held, ¬insert.Conflicts held)
    (hfree : ∀ row, .creation row ∈ call.phase.held →
      ∀ old ∈ db.invoiceCreationRequests, ¬Collide old row)
    (hsound : CallSound calls call) : IssuingSound ⟨db, calls'⟩ := by
  have hlater : IssuedStay calls calls' := hplaced.issuedStay hold
  constructor
  case exclusive =>
    intro j k first second hfirst hsecond hne insert hinsert held hsecondHeld
    rcases (hplaced j first).mp hfirst with ⟨rfl, rfl⟩ | ⟨hj, hfirst⟩
    · rcases (hplaced k second).mp hsecond with ⟨rfl, -⟩ | ⟨hk, hsecond⟩
      · exact absurd rfl hne
      · exact hheld insert hinsert k second hsecond hk held hsecondHeld
    · rcases (hplaced k second).mp hsecond with ⟨rfl, rfl⟩ | ⟨hk, hsecond⟩
      · intro hconflict
        exact hheld held hsecondHeld j first hfirst hj insert hinsert hconflict.symm
      · exact h.exclusive j k first second hfirst hsecond hne insert hinsert held hsecondHeld
  case free =>
    intro other hother
    rcases hplaced.cases_mem hother with rfl | ⟨j, -, hj⟩
    · exact hfree
    · exact h.free other (List.mem_of_getElem? hj)
  case once =>
    intro j k first second hfirst hsecond hne hfirstIssued hsecondIssued
    rcases (hplaced j first).mp hfirst with ⟨rfl, rfl⟩ | ⟨hj, hfirst⟩
    · obtain ⟨old, hget, holdIssued⟩ := hissued hfirstIssued
      rcases (hplaced k second).mp hsecond with ⟨rfl, -⟩ | ⟨hk, hsecond⟩
      · exact absurd rfl hne
      · rw [← CreationCall.key_congr (hold old hget).1]
        exact h.once _ k old second hget hsecond hne holdIssued hsecondIssued
    · rcases (hplaced k second).mp hsecond with ⟨rfl, rfl⟩ | ⟨hk, hsecond⟩
      · obtain ⟨old, hget, holdIssued⟩ := hissued hsecondIssued
        rw [← CreationCall.key_congr (hold old hget).1]
        exact h.once j _ first old hfirst hget hne hfirstIssued holdIssued
      · exact h.once j k first second hfirst hsecond hne hfirstIssued hsecondIssued
  case issued =>
    intro row hrow
    obtain ⟨first, hfirst, hfirstIssued, hsame⟩ := h.issued row hrow
    obtain ⟨first', hmem, hissued', hinput⟩ := hlater first hfirst hfirstIssued
    exact ⟨first', hmem, hissued', hinput ▸ hsame⟩
  case stored =>
    intro other hother hotherIssued
    rcases hplaced.cases_mem hother with rfl | ⟨j, -, hj⟩
    · obtain ⟨old, hget, holdIssued⟩ := hissued hotherIssued
      rw [← (hold old hget).1]
      exact h.stored old (List.mem_of_getElem? hget) holdIssued
    · exact h.stored other (List.mem_of_getElem? hj) hotherIssued
  case sound =>
    intro other hother
    rcases hplaced.cases_mem hother with rfl | ⟨j, -, hj⟩
    · exact hsound.later hlater
    · exact (h.sound other (List.mem_of_getElem? hj)).later hlater

theorem IssuingSound.place_of_held (h : IssuingSound ⟨db, calls⟩)
    (hplaced : Placed calls i call calls') (hheld : call.phase.held = [])
    (hold : ∀ old, calls[i]? = some old → old.input = call.input ∧ (old.Issued → call.Issued))
    (hissued : call.Issued → ∃ old, calls[i]? = some old ∧ old.Issued)
    (hsound : CallSound calls call) : IssuingSound ⟨db, calls'⟩ := by
  apply h.place hplaced hold hissued ?_ ?_ hsound
  · simp [hheld]
  · simp [hheld]

theorem IssuingSound.commit {done : List InvoiceInsert}
    {request : CashuPaymentRequest} (h : IssuingSound ⟨db, calls⟩)
    (hcall : calls[i]? = some ⟨input, .inserting request done []⟩)
    (hcommit : sessionAfter db done >>= Session.commit = .ok db')
    (hplaced : Placed calls i ⟨input, .returned ⟨request, input.invoice, false⟩⟩ calls') :
    IssuingSound ⟨db', calls'⟩ := by
  obtain ⟨hvalid, hdone⟩ := h.sound _ (List.mem_of_getElem? hcall)
  obtain rfl : request = input.cashuPaymentRequest := validateCashuPaymentRequest_ok hvalid
  rw [List.append_nil] at hdone
  obtain rfl : done = input.inserts input.cashuPaymentRequest := hdone
  obtain ⟨hcreations, hinvoices, hrequests⟩ := commit_inserts hcommit
  have hholds : InvoiceInsert.creation input.creationRow ∈
      input.inserts input.cashuPaymentRequest := by
    simp [CreateOpenInvoiceInput.inserts]
  have hnew : CreationCall.Issued
      ⟨input, .returned ⟨input.cashuPaymentRequest, input.invoice, false⟩⟩ :=
    ⟨_, rfl, rfl⟩
  have hlater : IssuedStay calls calls' := by
    apply hplaced.issuedStay
    intro old hold
    obtain rfl := Option.some.inj (hcall.symm.trans hold)
    exact ⟨rfl, fun _ => hnew⟩
  -- A call that has the key of the commit was not issued: its creation row would collide.
  have hother : ∀ other ∈ calls, other.Issued → other.key ≠ (input.invoice.merchantId,
      input.idempotencyKey) := by
    intro other hother hissued hkey
    have hrow := (h.stored other hother hissued).creation
    apply hcreations.not_collide hrow (List.mem_singleton_self _)
    exact .inl (Prod.mk.injEq .. ▸ hkey)
  have hkept : ∀ first, first ∈ calls → first.Issued → RowsStored db' first.input := by
    intro first hfirst hissued
    have hrows := h.stored first hfirst hissued
    obtain ⟨row, hrow, hids⟩ := hrows.invoice
    exact ⟨hcreations.mem_of_mem hrows.creation, ⟨row, hinvoices.mem_of_mem hrow, hids⟩,
      hrequests.find_of_some hrows.request⟩
  constructor
  case exclusive =>
    intro j k first second hfirst hsecond hne insert hinsert held hheld
    rcases (hplaced j first).mp hfirst with ⟨-, rfl⟩ | ⟨hj, hfirst⟩
    · simp [CreationPhase.held] at hinsert
    · rcases (hplaced k second).mp hsecond with ⟨-, rfl⟩ | ⟨hk, hsecond⟩
      · simp [CreationPhase.held] at hheld
      · exact h.exclusive j k first second hfirst hsecond hne insert hinsert held hheld
  case free =>
    intro other hmem row hrow old hold
    rcases hplaced.cases_mem hmem with rfl | ⟨j, hj, hget⟩
    · simp [CreationPhase.held] at hrow
    · rcases hcreations.mem.mp hold with hold | hold
      · exact h.free other (List.mem_of_getElem? hget) row hrow old hold
      · obtain rfl := List.mem_singleton.mp hold
        exact h.exclusive i j _ other hcall hget (Ne.symm hj) _ hholds _ hrow
  case once =>
    intro j k first second hfirst hsecond hne hfirstIssued hsecondIssued
    rcases (hplaced j first).mp hfirst with ⟨rfl, rfl⟩ | ⟨hj, hfirst⟩
    · rcases (hplaced k second).mp hsecond with ⟨rfl, -⟩ | ⟨hk, hsecond⟩
      · exact absurd rfl hne
      · exact (hother second (List.mem_of_getElem? hsecond) hsecondIssued).symm
    · rcases (hplaced k second).mp hsecond with ⟨rfl, rfl⟩ | ⟨hk, hsecond⟩
      · exact hother first (List.mem_of_getElem? hfirst) hfirstIssued
      · exact h.once j k first second hfirst hsecond hne hfirstIssued hsecondIssued
  case issued =>
    intro row hrow
    rcases hcreations.mem.mp hrow with hrow | hrow
    · obtain ⟨first, hfirst, hissued, hsame⟩ := h.issued row hrow
      obtain ⟨first', hmem, hissued', hinput⟩ := hlater first hfirst hissued
      exact ⟨first', hmem, hissued', hinput ▸ hsame⟩
    · obtain rfl := List.mem_singleton.mp hrow
      exact ⟨_, hplaced.mem, hnew, rfl⟩
  case stored =>
    intro other hmem hissued
    rcases hplaced.cases_mem hmem with rfl | ⟨j, -, hget⟩
    · exact rowsStored_of_commit hcommit
    · exact hkept other (List.mem_of_getElem? hget) hissued
  case sound =>
    intro other hmem
    rcases hplaced.cases_mem hmem with rfl | ⟨j, -, hget⟩
    · exact ⟨_, ⟨hplaced.mem, hnew, rfl, rfl, rfl⟩, rfl⟩
    · exact (h.sound other (List.mem_of_getElem? hget)).later hlater

theorem IssuingSound.moves (h : IssuingSound ⟨db, calls⟩) (hmoves : Moves db db') :
    IssuingSound ⟨db', calls⟩ := by
  rcases hmoves with rfl | ⟨hchange, hcreations⟩
  · exact h
  · constructor
    case exclusive => exact h.exclusive
    case free => exact hcreations ▸ h.free
    case once => exact h.once
    case issued => exact hcreations ▸ h.issued
    case stored =>
      intro call hcall hissued
      apply (h.stored call hcall hissued).of_change hchange
      intro row hrow
      exact hcreations ▸ hrow
    case sound => exact h.sound

theorem CreationPhase.Running.result {phase : CreationPhase} (h : phase.Running) :
    phase.result? = none := by
  cases phase <;> first | rfl | cases h

theorem not_issued_of_result {input : CreateOpenInvoiceInput} {phase : CreationPhase}
    (h : phase.result? = none) : ¬CreationCall.Issued ⟨input, phase⟩ := by
  rintro ⟨result, hresult, -⟩
  rw [show phase.result? = some result from hresult] at h
  cases h

theorem IssuingSound.go_on {phase phase' : CreationPhase} (h : IssuingSound ⟨db, calls⟩)
    (hcall : calls[i]? = some ⟨input, phase⟩) (hbefore : phase.result? = none)
    (hafter : ¬CreationCall.Issued ⟨input, phase'⟩) (hheld : phase'.held = [])
    (hsound : CallSound calls ⟨input, phase'⟩) :
    IssuingSound ⟨db, calls.set i ⟨input, phase'⟩⟩ := by
  apply h.place_of_held (placed_set hcall _) hheld ?_ ?_ hsound
  · intro old hold
    obtain rfl := Option.some.inj (hcall.symm.trans hold)
    exact ⟨rfl, fun hissued => absurd hissued (not_issued_of_result hbefore)⟩
  · exact fun hissued => absurd hissued hafter

theorem IssuingSound.insert {request : CashuPaymentRequest} {done rest : List InvoiceInsert}
    {insert : InvoiceInsert} {s : Session} (h : IssuingSound ⟨db, calls⟩)
    (hcall : calls[i]? = some ⟨input, .inserting request done (insert :: rest)⟩)
    (hothers : ∀ other ∈ heldBy (calls.eraseIdx i), ¬insert.Conflicts other)
    (hsession : sessionAfter db (done ++ [insert]) = .ok s) :
    IssuingSound ⟨db, calls.set i ⟨input, .inserting request (done ++ [insert]) rest⟩⟩ := by
  have hplaced := placed_set hcall ⟨input, .inserting request (done ++ [insert]) rest⟩
  apply h.place hplaced ?_ ?_ ?_ (not_collide_of_session hsession)
  · obtain ⟨hrequest, hinserts⟩ := h.sound _ (List.mem_of_getElem? hcall)
    refine ⟨hrequest, ?_⟩
    rw [List.append_assoc]
    exact hinserts
  · intro old hold
    obtain rfl := Option.some.inj (hcall.symm.trans hold)
    exact ⟨rfl, fun hissued => absurd hissued (not_issued_of_result rfl)⟩
  · exact fun hissued => absurd hissued (not_issued_of_result rfl)
  · intro mine hmine j other hother hne held hheld
    rcases List.mem_append.mp hmine with hmine | hmine
    · exact h.exclusive i j _ other hcall hother (Ne.symm hne) mine hmine held hheld
    · obtain rfl := List.mem_singleton.mp hmine
      exact hothers held (mem_heldBy_of_ne hother hne hheld)

/-- What a replay finds is the invoice of the call that issued it. -/
theorem IssuingSound.found {invoice : OpenInvoice} {requestRow : Option InvoiceCashuRequestRow}
    {phase : CreationPhase} (h : IssuingSound ⟨db, calls⟩)
    (hread : readCreation db input = .ok (invoice, requestRow)) :
    ∃ first, SharesInvoice calls ⟨input, phase⟩ invoice.id first ∧
      requestRow = some (invoiceRequestRow first.input.invoice
        first.input.cashuPaymentRequest first.input.settlementDestination) := by
  obtain ⟨creation, hcreation, hmerchant, hkey, hfingerprint, hid, rfl⟩ := readCreation_ok hread
  obtain ⟨first, hfirst, hissued, rfl⟩ := h.issued creation hcreation
  refine ⟨first, ⟨hfirst, hissued, ?_, hfingerprint, hid.symm⟩, (h.stored first hfirst hissued).request⟩
  exact Prod.ext hmerchant hkey

end Steps

/-- Every step of a world keeps what holds of it. -/
theorem IssuingSound.step {w w' : IssuingWorld} (h : IssuingSound w) (hstep : IssuingStep w w') :
    IssuingSound w' := by
  cases hstep with
  | enter input =>
      apply h.place_of_held (placed_append _ _) rfl
      · intro old hold
        rw [List.getElem?_eq_none (Nat.le_refl _)] at hold
        cases hold
      · exact fun hissued => absurd hissued (not_issued_of_result rfl)
      · trivial
  | advance hcall hadvance =>
      rcases advance_cases hadvance with ⟨rfl, hadvanced⟩ | ⟨request, done, rfl, hcommit, rfl⟩
      · have hsound := h.sound _ (List.mem_of_getElem? hcall)
        cases hadvanced with
        | validated hvalid =>
            apply h.go_on hcall rfl (not_issued_of_result rfl) rfl
            exact ⟨hvalid, rfl⟩
        | inserted hothers hsession => exact h.insert hcall hothers hsession
        | skipped _ => exact h.go_on hcall rfl (not_issued_of_result rfl) rfl trivial
        | found hread => exact h.go_on hcall rfl (not_issued_of_result rfl) rfl (h.found hread)
        | replayed hread =>
            apply h.go_on hcall rfl (not_issued_of_result rfl) rfl
            obtain ⟨first, hshares, rfl⟩ := hsound
            exact ⟨rfl, first, hshares, readRoutes_ok hread⟩
        | answered =>
            obtain ⟨hreplayed, first, hshares, hrequest⟩ := hsound
            apply h.go_on hcall rfl ?_ rfl
            · exact ⟨first, hshares, hrequest⟩
            rintro ⟨result, hresult, hfresh⟩
            obtain rfl := Option.some.inj hresult
            rw [hreplayed] at hfresh
            cases hfresh
        | refused hrunning =>
            exact h.go_on hcall hrunning.result (not_issued_of_result rfl) rfl trivial
      · exact h.commit hcall hcommit (placed_set hcall _)
  | @lose db calls i input result hcall =>
      apply h.place_of_held (placed_set hcall _) rfl
      · intro old hold
        obtain rfl := Option.some.inj (hcall.symm.trans hold)
        exact ⟨rfl, id⟩
      · exact fun hissued => ⟨_, hcall, hissued⟩
      · have hsound : CallSound calls ⟨input, .returned result⟩ :=
          h.sound _ (List.mem_of_getElem? hcall)
        exact hsound
  | «break» hcall hrunning =>
      exact h.go_on hcall hrunning.result (not_issued_of_result rfl) rfl trivial
  | other hother hrun => exact h.moves (moves_of_run hother hrun)

theorem issuingSound_of_run {w w' : IssuingWorld} (h : IssuingSound w) (hrun : IssuingRun w w') :
    IssuingSound w' := by
  induction hrun with
  | refl => exact h
  | tail _ hstep ih => exact ih.step hstep

theorem issuingSound_of_reachable {w : IssuingWorld} (hreach : IssuingReachable w) :
    IssuingSound w :=
  issuingSound_of_run issuingSound_empty hreach

/-! ### A key that another request has -/

/-- The key of the input is committed for another request. -/
def TakenByOther (db : Db) (input : CreateOpenInvoiceInput) : Prop :=
  ∃ row ∈ db.invoiceCreationRequests, row.merchantId = input.invoice.merchantId ∧
    row.idempotencyKey = input.idempotencyKey ∧ row.requestFingerprint ≠ input.requestFingerprint

/-- Where a call is whose key another request has. -/
inductive Refusing (input : CreateOpenInvoiceInput) : CreationPhase → Prop
  | entered : Refusing input .entered
  | inserting {request} : Refusing input (.inserting request [] (input.inserts request))
  | replaying : Refusing input .replaying
  | refused : Refusing input (.refused .idempotencyConflict)
  | invalid {error}
      (hinvalid : validateCashuPaymentRequest input.invoice input.cashuPaymentRequest =
        .error error) : Refusing input (.refused error)
  | broken : Refusing input .broken

/-- How many steps such a call has left. -/
def CreationPhase.left : CreationPhase → Nat
  | entered => 3
  | inserting .. => 2
  | replaying => 1
  | _ => 0

theorem IssuingSound.not_takenByOther {calls : List CreationCall} {call first : CreationCall}
    {invoiceId : InvoiceId} (h : IssuingSound ⟨db, calls⟩)
    (hshares : SharesInvoice calls call invoiceId first) : ¬TakenByOther db call.input := by
  rintro ⟨row, hrow, hmerchant, hkey, hother⟩
  obtain ⟨hfirst, hissued, hsame, hfingerprint, -⟩ := hshares
  obtain ⟨hfirstMerchant, hfirstKey⟩ := Prod.mk.inj hsame
  have hcollide : Collide row first.input.creationRow :=
    .inl ⟨hmerchant.trans hfirstMerchant.symm, hkey.trans hfirstKey.symm⟩
  obtain rfl := Table.eq_of_collide hrow (h.stored first hfirst hissued).creation hcollide
  exact hother hfingerprint

theorem IssuingSound.refusing {calls : List CreationCall} {call : CreationCall}
    (h : IssuingSound ⟨db, calls⟩) (hcall : call ∈ calls) (htaken : TakenByOther db call.input) :
    call.phase.result? = none ∧ (call.phase.Running → Refusing call.input call.phase) := by
  have hsound := h.sound call hcall
  have hfree := h.free call hcall
  obtain ⟨input, phase⟩ := call
  cases phase with
  | entered => exact ⟨rfl, fun _ => .entered⟩
  | inserting request done rest =>
      obtain ⟨-, hinserts⟩ := hsound
      refine ⟨rfl, fun _ => ?_⟩
      cases done with
      | nil =>
          obtain rfl : rest = input.inserts request := hinserts
          exact .inserting
      | cons insert done =>
          obtain rfl : insert = .creation input.creationRow := (List.cons.inj hinserts).1
          obtain ⟨row, hrow, hmerchant, hkey, -⟩ := htaken
          exact absurd (.inl ⟨hmerchant, hkey⟩) (hfree _ List.mem_cons_self row hrow)
  | replaying => exact ⟨rfl, fun _ => .replaying⟩
  | found invoice requestRow =>
      obtain ⟨first, hshares, -⟩ := hsound
      exact absurd htaken (h.not_takenByOther hshares)
  | replayed result =>
      obtain ⟨-, first, hshares, -⟩ := hsound
      exact absurd htaken (h.not_takenByOther hshares)
  | returned result =>
      obtain ⟨first, hshares, -⟩ := hsound
      exact absurd htaken (h.not_takenByOther hshares)
  | lost result =>
      obtain ⟨first, hshares, -⟩ := hsound
      exact absurd htaken (h.not_takenByOther hshares)
  | refused error => exact ⟨rfl, fun hrunning => hrunning.elim⟩
  | broken => exact ⟨rfl, fun hrunning => hrunning.elim⟩

theorem IssuingSound.advance_refusing {calls : List CreationCall} {phase : CreationPhase}
    (h : IssuingSound ⟨db, calls⟩) (htaken : TakenByOther db input)
    (hrefusing : Refusing input phase) (hrunning : phase.Running)
    (heldByOthers : List InvoiceInsert) :
    ∃ phase', CreationCall.advance db heldByOthers ⟨input, phase⟩ = some (phase', db) ∧
      Refusing input phase' ∧ phase'.left < phase.left := by
  obtain ⟨row, hrow, hmerchant, hkey, hother⟩ := htaken
  cases hrefusing with
  | entered =>
      cases hvalid : validateCashuPaymentRequest input.invoice input.cashuPaymentRequest with
      | ok request =>
          refine ⟨.inserting request [] (input.inserts request), ?_, .inserting, Nat.lt_succ_self 2⟩
          rw [CreationCall.advance, hvalid]
      | error error =>
          refine ⟨.refused error, ?_, .invalid hvalid, Nat.succ_pos 2⟩
          rw [CreationCall.advance, hvalid]
  | @inserting request =>
      have hskipped : (InvoiceInsert.creation input.creationRow).Skipped db :=
        ⟨row, hrow, hmerchant, hkey⟩
      exact ⟨.replaying, if_pos hskipped, .replaying, Nat.lt_succ_self 1⟩
  | replaying =>
      obtain ⟨first, hfirst, hissued, rfl⟩ := h.issued row hrow
      have hconflict : readCreation db input = .error .idempotencyConflict :=
        readCreation_conflict (h.stored first hfirst hissued) hmerchant hkey hother
      refine ⟨_, ?_, .refused, Nat.lt_succ_self 0⟩
      rw [CreationCall.advance, hconflict]
  | refused => exact hrunning.elim
  | invalid _ => exact hrunning.elim
  | broken => exact hrunning.elim

/-- A key stays taken. -/
theorem IssuingSound.takenByOther {w w' : IssuingWorld} (h : IssuingSound w)
    (htaken : TakenByOther w.committed input) (hstep : IssuingStep w w') :
    TakenByOther w'.committed input := by
  obtain ⟨row, hrow, hkey⟩ := htaken
  refine ⟨row, ?_, hkey⟩
  cases hstep with
  | advance hcall hadvance =>
      rcases advance_cases hadvance with ⟨rfl, -⟩ | ⟨request, done, rfl, hcommit, -⟩
      · exact hrow
      · obtain ⟨-, hinserts⟩ := h.sound _ (List.mem_of_getElem? hcall)
        rw [List.append_nil] at hinserts
        rw [show done = _ from hinserts] at hcommit
        exact (commit_inserts hcommit).1.mem_of_mem hrow
  | other hother hrun =>
      rcases moves_of_run hother hrun with rfl | ⟨-, hcreations⟩
      · exact hrow
      · exact hcreations ▸ hrow
  | _ => exact hrow

theorem IssuingSound.refusing_step {w w' : IssuingWorld} {i : Nat} {call : CreationCall}
    (h : IssuingSound w) (hstep : IssuingStep w w') (hcall : w'.calls[i]? = some call)
    (htaken : TakenByOther w.committed call.input)
    (hbefore : ∀ before : CreationCall, w.calls[i]? = some before → before.input = call.input →
      Refusing before.input before.phase) :
    Refusing call.input call.phase := by
  cases hstep with
  | enter input =>
      rcases (placed_append _ _ i call).mp hcall with ⟨-, rfl⟩ | ⟨-, hcall⟩
      · exact .entered
      · exact hbefore call hcall rfl
  | advance hget hadvance =>
      rcases (placed_set hget _ i call).mp hcall with ⟨rfl, rfl⟩ | ⟨-, hcall⟩
      · have hrefusing := hbefore _ hget rfl
        obtain ⟨phase', hadvance', hrefusing', -⟩ :=
          h.advance_refusing htaken hrefusing (running_of_advance hadvance) _
        obtain ⟨rfl, -⟩ := Prod.mk.inj (Option.some.inj (hadvance'.symm.trans hadvance))
        exact hrefusing'
      · exact hbefore call hcall rfl
  | lose hget =>
      rcases (placed_set hget _ i call).mp hcall with ⟨rfl, rfl⟩ | ⟨-, hcall⟩
      · have hrefusing := hbefore _ hget rfl
        cases hrefusing
      · exact hbefore call hcall rfl
  | «break» hget hrunning =>
      rcases (placed_set hget _ i call).mp hcall with ⟨rfl, rfl⟩ | ⟨-, hcall⟩
      · exact .broken
      · exact hbefore call hcall rfl
  | other hother hrun => exact hbefore call hcall rfl

/-- A call that runs when its key is taken, or enters later, goes to the conflict in every run. -/
theorem IssuingSound.refusing_of_run {w later : IssuingWorld} {i : Nat} {call : CreationCall}
    (h : IssuingSound w) (hrun : IssuingRun w later) (hcall : later.calls[i]? = some call)
    (htaken : TakenByOther w.committed call.input)
    (hbefore : ∀ before : CreationCall, w.calls[i]? = some before → before.phase.Running) :
    TakenByOther later.committed call.input ∧ Refusing call.input call.phase := by
  induction hrun generalizing call with
  | refl =>
      have hmem : call ∈ w.calls := List.mem_of_getElem? hcall
      exact ⟨htaken, (h.refusing hmem htaken).2 (hbefore call hcall)⟩
  | @tail middle later hrun hstep ih =>
      have hmiddle : IssuingSound middle := issuingSound_of_run h hrun
      have hkept : ∀ {middle}, IssuingRun w middle → TakenByOther middle.committed call.input := by
        intro middle hrun
        induction hrun with
        | refl => exact htaken
        | tail hrun hstep ih => exact (issuingSound_of_run h hrun).takenByOther ih hstep
      refine ⟨hmiddle.takenByOther (hkept hrun) hstep, ?_⟩
      apply hmiddle.refusing_step hstep hcall (hkept hrun)
      intro before hget hinput
      exact (ih hget (hinput ▸ htaken)).2

/-! ### Whole operations -/

/-- What a world commits is what a run of whole operations leaves: a commit is its call's
`createOpenInvoice` over the rows that it finds. -/
theorem reachable_committed {w : IssuingWorld} (hreach : IssuingReachable w) :
    Reachable w.committed := by
  induction hreach with
  | refl => exact .refl
  | @tail w w' hrun hstep ih =>
      cases hstep with
      | advance hcall hadvance =>
          rcases advance_cases hadvance with ⟨rfl, -⟩ | ⟨request, done, rfl, hcommit, -⟩
          · exact ih
          · have hsound := issuingSound_of_reachable hrun
            obtain ⟨hvalid, hinserts⟩ := hsound.sound _ (List.mem_of_getElem? hcall)
            rw [List.append_nil] at hinserts
            rw [show done = _ from hinserts] at hcommit
            apply ih.tail
            exact ⟨.createOpenInvoice _, committed_eq_some.mpr
              ⟨_, createOpenInvoice_of_commit hvalid hcommit⟩⟩
      | other hother hoperation => exact ih.tail ⟨_, hoperation⟩
      | _ => exact ih

/-! ### Idempotency -/

theorem IssuingSound.result {w : IssuingWorld} {call : CreationCall}
    {result : CreateOpenInvoiceResult} (h : IssuingSound w) (hcall : call ∈ w.calls)
    (hresult : call.phase.result? = some result) :
    ∃ first, SharesInvoice w.calls call result.invoice.id first ∧
      result.cashuPaymentRequest = first.input.cashuPaymentRequest := by
  have hsound := h.sound call hcall
  obtain ⟨input, phase⟩ := call
  cases phase with
  | returned stored =>
      obtain rfl := Option.some.inj hresult
      exact hsound
  | lost stored =>
      obtain rfl := Option.some.inj hresult
      exact hsound
  | _ => cases hresult

theorem IssuingSound.first_unique {w : IssuingWorld} {i j : Nat} {first second : CreationCall}
    (h : IssuingSound w) (hfirst : w.calls[i]? = some first) (hsecond : w.calls[j]? = some second)
    (hissued : first.Issued) (hissued' : second.Issued) (hkey : first.key = second.key) : i = j := by
  by_contra hne
  exact h.once i j first second hfirst hsecond hne hissued hissued' hkey

/-- Whatever the order of the calls: all that commit for a key have the same invoice and payment
request, exactly one of them inserted it, and from the first commit on a call of the key for another
request has no result, holds no row, waits for nobody and writes nothing on the way to its end, which
is the conflict for every such call whose own payment request passes `validateCashuPaymentRequest`. -/
theorem createOpenInvoice_idempotent {w : IssuingWorld} (hreach : IssuingReachable w) :
    (∀ call ∈ w.calls, ∀ other ∈ w.calls, call.key = other.key →
      ∀ result ∈ call.phase.result?, ∀ result' ∈ other.phase.result?,
        result.invoice.id = result'.invoice.id ∧
          result.cashuPaymentRequest = result'.cashuPaymentRequest) ∧
    (∀ call ∈ w.calls, call.phase.result?.isSome →
      ∃! i : Nat, ∃ first : CreationCall, w.calls[i]? = some first ∧ first.key = call.key ∧
        ∃ result ∈ first.phase.result?, result.replayed = false) ∧
    ∀ first ∈ w.calls, first.phase.result?.isSome →
      ∀ later, IssuingRun w later → ∀ (i : Nat) (call : CreationCall),
        later.calls[i]? = some call → call.key = first.key →
        call.input.requestFingerprint ≠ first.input.requestFingerprint →
        (∀ before : CreationCall, w.calls[i]? = some before → before.phase.Running) →
          call.phase.result? = none ∧ call.phase.held = [] ∧
          (∀ error request, call.phase = .refused error →
            validateCashuPaymentRequest call.input.invoice call.input.cashuPaymentRequest =
              .ok request → error = .idempotencyConflict) ∧
          (call.phase.Running → ∀ heldByOthers, ∃ phase,
            call.advance later.committed heldByOthers = some (phase, later.committed) ∧
              phase.left < call.phase.left) := by
  have h : IssuingSound w := issuingSound_of_reachable hreach
  refine ⟨?_, ?_, ?_⟩
  · intro call hcall other hother hkey result hresult result' hresult'
    obtain ⟨first, ⟨hmem, hissued, hfirstKey, -, hid⟩, hrequest⟩ := h.result hcall hresult
    obtain ⟨second, ⟨hmem', hissued', hsecondKey, -, hid'⟩, hrequest'⟩ := h.result hother hresult'
    obtain ⟨i, hi⟩ := List.mem_iff_getElem?.mp hmem
    obtain ⟨j, hj⟩ := List.mem_iff_getElem?.mp hmem'
    have hsame : first.key = second.key := (hfirstKey.trans hkey).trans hsecondKey.symm
    obtain rfl := h.first_unique hi hj hissued hissued' hsame
    obtain rfl := Option.some.inj (hi.symm.trans hj)
    exact ⟨hid.symm.trans hid', hrequest.trans hrequest'.symm⟩
  · intro call hcall hcommitted
    obtain ⟨result, hresult⟩ := Option.isSome_iff_exists.mp hcommitted
    obtain ⟨first, ⟨hmem, hissued, hkey, -⟩, -⟩ := h.result hcall hresult
    obtain ⟨i, hi⟩ := List.mem_iff_getElem?.mp hmem
    refine ⟨i, ⟨first, hi, hkey, hissued⟩, ?_⟩
    rintro j ⟨second, hj, hkey', hissued'⟩
    exact h.first_unique hj hi hissued' hissued (hkey'.trans hkey.symm)
  · intro first hfirst hcommitted later hrun i call hcall hkey hother hbefore
    obtain ⟨result, hresult⟩ := Option.isSome_iff_exists.mp hcommitted
    obtain ⟨issuer, ⟨hmem, hissued, hissuerKey, hfingerprint, -⟩, -⟩ := h.result hfirst hresult
    have htaken : TakenByOther w.committed call.input := by
      have hsame : issuer.key = call.key := hissuerKey.trans hkey.symm
      obtain ⟨hmerchant, hidempotencyKey⟩ := Prod.mk.inj hsame
      refine ⟨_, (h.stored issuer hmem hissued).creation, hmerchant, hidempotencyKey, ?_⟩
      exact fun hequal => hother (hequal.symm.trans hfingerprint)
    have hlater : IssuingSound later := issuingSound_of_run h hrun
    obtain ⟨htaken', hrefusing⟩ := h.refusing_of_run hrun hcall htaken hbefore
    refine ⟨(hlater.refusing (List.mem_of_getElem? hcall) htaken').1, ?_, ?_, ?_⟩
    · generalize call.phase = phase at hrefusing
      cases hrefusing <;> rfl
    · intro error request hphase hvalid
      rw [hphase] at hrefusing
      cases hrefusing with
      | refused => rfl
      | invalid hinvalid =>
          rw [hvalid] at hinvalid
          cases hinvalid
    · intro hrunning heldByOthers
      obtain ⟨phase, hadvance, -, hleft⟩ :=
        hlater.advance_refusing htaken' hrefusing hrunning heldByOthers
      exact ⟨phase, hadvance, hleft⟩

/-! ### Three calls for one key

Two calls of one request and one of another. The first holds its rows while the others wait, commits
and loses its answer; the second replays, and the third is refused.
-/

/-- The world after the next step of a call, when it has one. -/
def IssuingWorld.advance (w : IssuingWorld) (i : Nat) : IssuingWorld :=
  match w.calls[i]? with
  | none => w
  | some call =>
      match CreationCall.advance w.committed (heldBy (w.calls.eraseIdx i))
          ⟨call.input, call.phase⟩ with
      | none => w
      | some (phase, db) => ⟨db, w.calls.set i ⟨call.input, phase⟩⟩

theorem run_advance (w : IssuingWorld) (steps : List Nat) :
    IssuingRun w (steps.foldl IssuingWorld.advance w) := by
  induction steps generalizing w with
  | nil => exact .refl
  | cons i steps ih =>
      apply Relation.ReflTransGen.trans ?_ (ih (w.advance i))
      unfold IssuingWorld.advance
      split
      · exact .refl
      · case h_2 call hcall =>
          split
          · exact .refl
          · case h_2 hadvance => exact .single (.advance hcall hadvance)

namespace Sample

def creationInput : CreateOpenInvoiceInput where
  cashuPaymentRequest
  idempotencyKey := ⟨"creation-key-1", by decide⟩
  invoice
  requestFingerprint
  settlementDestination := destination

/-- The other request for the key, with an invoice of its own. -/
def otherCreationInput : CreateOpenInvoiceInput :=
  { creationInput with
    requestFingerprint := "fd60f25af0891f37434f3c2a8c51483e764fa24d2e93b1e73499e34062257172"
    invoice := { invoice with amount := 200, id := ⟨"invoice-2", by decide⟩ }
    cashuPaymentRequest := { cashuPaymentRequest with
      amount := 200
      invoiceId := ⟨"invoice-2", by decide⟩
      encodedRequest := { cashuPaymentRequest.encodedRequest with
        amount := 200
        invoiceId := ⟨"invoice-2", by decide⟩ } } }

/-- The three calls have entered. -/
def entered : IssuingWorld :=
  ⟨Db.empty, [⟨creationInput, .entered⟩, ⟨creationInput, .entered⟩, ⟨otherCreationInput, .entered⟩]⟩

/-- The first call has committed, and the others have tried to insert in the meantime. -/
def committedFirst : IssuingWorld :=
  [0, 0, 1, 1, 2, 2, 0, 0, 0, 0].foldl IssuingWorld.advance entered

theorem committedFirst_first :
    committedFirst.calls[0]? = some
      ⟨creationInput, .returned ⟨cashuPaymentRequest, invoice, false⟩⟩ := by
  decide +kernel

/-- The answer of the first call is lost. -/
def lostFirst : IssuingWorld :=
  ⟨committedFirst.committed, committedFirst.calls.set 0
    ⟨creationInput, .lost ⟨cashuPaymentRequest, invoice, false⟩⟩⟩

/-- The second call has replayed the first one. -/
def replayedSecond : IssuingWorld :=
  [1, 1, 1, 1].foldl IssuingWorld.advance lostFirst

/-- The third call has come to its end. -/
def refusedThird : IssuingWorld :=
  [2, 2].foldl IssuingWorld.advance replayedSecond

theorem reachable_replayedSecond : IssuingReachable replayedSecond := by
  have hentered : IssuingRun ⟨Db.empty, []⟩ entered :=
    ((Relation.ReflTransGen.single (.enter creationInput)).tail (.enter creationInput)).tail
      (.enter otherCreationInput)
  have hcommitted : IssuingRun ⟨Db.empty, []⟩ committedFirst :=
    hentered.trans (run_advance _ _)
  exact (hcommitted.tail (.lose committedFirst_first)).trans (run_advance _ _)

end Sample

theorem createOpenInvoice_idempotent_refusedThird :
    (∃! i : Nat, ∃ first : CreationCall, Sample.replayedSecond.calls[i]? = some first ∧
      first.key = (Sample.invoice.merchantId, Sample.creationInput.idempotencyKey) ∧
        ∃ result ∈ first.phase.result?, result.replayed = false) ∧
      ∃ error, Sample.refusedThird.calls[2]? = some ⟨Sample.otherCreationInput, .refused error⟩ ∧
        error = .idempotencyConflict := by
  have h := createOpenInvoice_idempotent Sample.reachable_replayedSecond
  have hsecond : Sample.replayedSecond.calls[1]? = some ⟨Sample.creationInput,
      .returned ⟨Sample.cashuPaymentRequest, Sample.invoice, true⟩⟩ := by
    decide +kernel
  have hthird : Sample.replayedSecond.calls[2]? = some ⟨Sample.otherCreationInput,
      .inserting Sample.otherCreationInput.cashuPaymentRequest []
        (Sample.otherCreationInput.inserts Sample.otherCreationInput.cashuPaymentRequest)⟩ := by
    decide +kernel
  have hrefused : Sample.refusedThird.calls[2]? = some ⟨Sample.otherCreationInput,
      .refused .idempotencyConflict⟩ := by
    decide +kernel
  have hmem := List.mem_of_getElem? hsecond
  refine ⟨h.2.1 _ hmem rfl, _, hrefused, ?_⟩
  apply (h.2.2 _ hmem rfl _ (run_advance _ _) 2 _ hrefused rfl (by decide) ?_).2.2.1 _
    Sample.otherCreationInput.cashuPaymentRequest rfl (by decide +kernel)
  intro before hbefore
  obtain rfl := Option.some.inj (hthird.symm.trans hbefore)
  trivial

end CashMesh.Acquirer
