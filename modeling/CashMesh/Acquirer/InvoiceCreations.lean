import CashMesh.Acquirer.Idempotency
import CashMesh.Acquirer.InvoiceService
import CashMesh.Lib.Failures
/-!
# The invoice of a key

A creation row belongs to one request, which is read back from its fingerprint, and the invoice and the
payment request of that request are stored beside it. The rows of a key are written once and only ever
read from then on, so that every creation of the key, first or repeated, returns what they say.
-/

namespace CashMesh.Acquirer

open CashMesh.Lib

variable {db db' : Db} {key : Identifier} {request : InvoiceRequest} {issued : IssuedInvoice}

/-! ### The fingerprint of a request -/

/-- Two words without the first character of the label that follows them are the same word. -/
theorem field_inj {word word' label rest rest' : List Char} {c : Char}
    (hlabel : label.head? = some c) (hword : c ∉ word) (hword' : c ∉ word')
    (h : word ++ (label ++ rest) = word' ++ (label ++ rest')) : word = word' ∧ rest = rest' := by
  obtain ⟨label, rfl⟩ := List.head?_eq_some_iff.mp hlabel
  induction word generalizing word' with
  | nil =>
      cases word' with
      | nil => exact ⟨rfl, List.append_cancel_left h⟩
      | cons x word' =>
          obtain ⟨rfl, -⟩ := List.cons.inj h
          exact absurd List.mem_cons_self hword'
  | cons x word ih =>
      cases word' with
      | nil =>
          obtain ⟨rfl, -⟩ := List.cons.inj h
          exact absurd List.mem_cons_self hword
      | cons y word' =>
          obtain ⟨rfl, htail⟩ := List.cons.inj h
          obtain ⟨rfl, hrest⟩ := ih (fun hc => hword (List.mem_cons_of_mem _ hc))
            (fun hc => hword' (List.mem_cons_of_mem _ hc)) htail
          exact ⟨rfl, hrest⟩

theorem comma_not_mem_repr (n : Nat) : ',' ∉ (Nat.repr n).toList := by
  intro hcomma
  rw [Nat.toList_repr] at hcomma
  exact absurd (Nat.isDigit_of_mem_toDigits (by decide) (by decide) hcomma) (by decide)

theorem repr_toList_inj {n n' : Nat} (h : (Nat.repr n).toList = (Nat.repr n').toList) : n = n' := by
  rw [Nat.toList_repr, Nat.toList_repr] at h
  have hvalue := congrArg (fun digits => Nat.ofDigitChars 10 digits 0) h
  simpa only [Nat.ofDigitChars_ten_toDigits] using hvalue

theorem quote_not_mem_identifier (id : Identifier) : '"' ∉ id.val.toList := by
  obtain ⟨text, hpattern⟩ := id
  intro hquote
  unfold identifierPattern at hpattern
  split at hpattern
  · case h_1 hnil => simp [hnil] at hquote
  · case h_2 first rest hcons =>
      simp only [Bool.and_eq_true, List.all_eq_true] at hpattern
      rw [show text.toList = first :: rest from hcons] at hquote
      rcases List.mem_cons.mp hquote with rfl | hquote
      · exact absurd hpattern.1.1 (by decide)
      · exact absurd (hpattern.2 _ hquote) (by decide)

/-- The fingerprint of a request is of no other one. -/
theorem fingerprintRequest_inj {request request' : InvoiceRequest}
    (h : fingerprintRequest request = fingerprintRequest request') : request = request' := by
  obtain ⟨amount, expiresAt, merchantId, destination⟩ := request
  obtain ⟨amount', expiresAt', merchantId', destination'⟩ := request'
  have htext := congrArg String.toList h
  simp only [fingerprintRequest, String.toList_append, List.append_assoc] at htext
  obtain ⟨hamount, hafterAmount⟩ := field_inj rfl (comma_not_mem_repr _) (comma_not_mem_repr _)
    (List.append_cancel_left htext)
  obtain ⟨hexpiresAt, hafterExpiresAt⟩ := field_inj rfl (comma_not_mem_repr _)
    (comma_not_mem_repr _) hafterAmount
  obtain ⟨hmerchant, hafterMerchant⟩ := field_inj rfl (quote_not_mem_identifier _)
    (quote_not_mem_identifier _) hafterExpiresAt
  rw [repr_toList_inj hamount, repr_toList_inj hexpiresAt,
    Subtype.ext (String.toList_injective hmerchant),
    Subtype.ext (String.toList_injective (List.append_cancel_right hafterMerchant))]

/-! ### Issued invoices -/

/-- The invoice of a row as it was when it was open. -/
def MerchantInvoiceRow.openInvoice (row : MerchantInvoiceRow) : OpenInvoice where
  amount := row.amount
  createdAt := row.createdAt
  expiresAt := row.expiresAt
  id := row.id
  merchantId := row.merchantId

/-- The payment request asks for the invoice, from its creation to its expiry. -/
structure CashuPaymentRequest.Requests (request : CashuPaymentRequest) (invoice : OpenInvoice) :
    Prop where
  invoiceId : request.invoiceId = invoice.id
  amount : request.amount = invoice.amount
  issuedAt : request.issuedAt = invoice.createdAt
  expiresAt : request.expiresAt = invoice.expiresAt
  unexpired : request.issuedAt < request.expiresAt

/-- The rows of the key name the invoice and its payment request, and both are what was asked for. -/
structure InvoiceIssued (db : Db) (key : Identifier) (request : InvoiceRequest)
    (issued : IssuedInvoice) : Prop where
  creation : {
    merchantId := request.merchantId
    idempotencyKey := key
    requestFingerprint := fingerprintRequest request
    invoiceId := issued.invoice.id
    createdAt := issued.invoice.createdAt } ∈ db.invoiceCreationRequests
  invoice : ∃ row ∈ db.merchantInvoices, row.openInvoice = issued.invoice
  paymentRequest : db.requestOf issued.invoice.id issued.invoice.merchantId =
    some (invoiceRequestRow issued.invoice issued.cashuPaymentRequest request.settlementDestination)
  merchantId : issued.invoice.merchantId = request.merchantId
  amount : issued.invoice.amount = request.amount
  expiresAt : issued.invoice.expiresAt = request.expiresAt
  requests : issued.cashuPaymentRequest.Requests issued.invoice

theorem openInvoice_of_change (h : Change db db') {row : MerchantInvoiceRow}
    (hrow : row ∈ db.merchantInvoices) :
    ∃ row' ∈ db'.merchantInvoices, row'.openInvoice = row.openInvoice := by
  cases h with
  | invoiceCreated _ _ hinvoices => exact ⟨row, hinvoices.mem_of_mem hrow, rfl⟩
  | @paymentAccepted scope _ accounting _ _ _ _ _ _ _ _ _ _ _ _ _ _ hinvoices _ _ hdb =>
      rw [hdb]
      refine ⟨if row.id = scope.invoiceId ∧ row.state = .open ∧ row.paidAt = none then
        row.pay accounting.invoice.paidAt else row, ?_, ?_⟩
      · rw [Table.mem_def]
        simp only [Db.afterEvent, Db.withAccounting, hinvoices, payRows]
        exact List.mem_map.mpr ⟨row, hrow, rfl⟩
      · split
        · rfl
        · rfl
  | _ => exact ⟨row, hrow, rfl⟩

theorem InvoiceIssued.keep (h : InvoiceIssued db key request issued) (hchange : Change db db')
    (hcreations : ∀ row ∈ db.invoiceCreationRequests, row ∈ db'.invoiceCreationRequests) :
    InvoiceIssued db' key request issued := by
  obtain ⟨row, hrow, hinvoice⟩ := h.invoice
  obtain ⟨row', hrow', hsame⟩ := openInvoice_of_change hchange hrow
  obtain ⟨requests, hrequests⟩ := requests_of_change hchange
  exact { h with
    creation := hcreations _ h.creation
    invoice := ⟨row', hrow', hsame.trans hinvoice⟩
    paymentRequest := hrequests.find_of_some h.paymentRequest }

theorem InvoiceIssued.unique {request' : InvoiceRequest} {issued' : IssuedInvoice}
    (h : InvoiceIssued db key request issued) (h' : InvoiceIssued db key request' issued')
    (hmerchant : request'.merchantId = request.merchantId) :
    request' = request ∧ issued' = issued := by
  have hcreation := Table.eq_of_collide h.creation h'.creation (.inl ⟨hmerchant.symm, rfl⟩)
  obtain ⟨-, -, hfingerprint, hid, -⟩ := InvoiceCreationRow.mk.inj hcreation
  obtain rfl := fingerprintRequest_inj hfingerprint
  obtain ⟨row, hrow, hinvoice⟩ := h.invoice
  obtain ⟨row', hrow', hinvoice'⟩ := h'.invoice
  have hrowId : row.id = row'.id := by
    have hids := congrArg OpenInvoice.id hinvoice
    have hids' := congrArg OpenInvoice.id hinvoice'
    exact hids.trans (hid.trans hids'.symm)
  obtain rfl := Table.eq_of_collide hrow hrow' hrowId
  have hsame : issued'.invoice = issued.invoice := hinvoice'.symm.trans hinvoice
  have hrequest := h'.paymentRequest
  rw [hsame, h.paymentRequest] at hrequest
  have hfingerprints := congrArg InvoiceCashuRequestRow.routeSetFingerprint
    (Option.some.inj hrequest)
  refine ⟨rfl, ?_⟩
  obtain ⟨cashuPaymentRequest, invoice⟩ := issued
  obtain ⟨cashuPaymentRequest', invoice'⟩ := issued'
  obtain rfl : invoice' = invoice := hsame
  rw [show cashuPaymentRequest = cashuPaymentRequest' from
    congrArg RouteSetFingerprint.request hfingerprints]

/-! ### What is read back -/

theorem createInvoice_eq {input invoice : OpenInvoice} (h : createInvoice input = .ok invoice) :
    invoice = input := by
  simp only [createInvoice, bind_eq_ok, ensure_eq_ok, exists_unit, pure_eq_ok,
    Except.ok.injEq] at h
  obtain ⟨-, -, -, amount, -, -, -, rfl⟩ := h
  rfl

theorem createCashuPaymentRequest_requests {invoice : OpenInvoice} {issuedAt : UnixTimestamp}
    {operators : List CashuOperatorRoute} {transportUrl : String}
    {paymentRequest : CashuPaymentRequest} (hissued : issuedAt = invoice.createdAt)
    (h : createCashuPaymentRequest invoice issuedAt operators transportUrl =
      some paymentRequest) : paymentRequest.Requests invoice := by
  simp only [createCashuPaymentRequest, Option.bind_eq_bind, Option.bind_eq_some_iff] at h
  obtain ⟨routes, -, created, hcreated, h⟩ := h
  obtain rfl : created = invoice := createInvoice_eq (eq_ok_of_toOption hcreated)
  split at h
  · case isTrue htimes =>
      cases h
      exact ⟨rfl, rfl, hissued, rfl, htimes.2.2⟩
  · cases h

theorem validateCashuPaymentRequest_requests {invoice : OpenInvoice}
    {paymentRequest validated : CashuPaymentRequest}
    (h : validateCashuPaymentRequest invoice paymentRequest = .ok validated) :
    validated.Requests invoice := by
  simp only [validateCashuPaymentRequest, bind_eq_ok, ensure_eq_ok, exists_unit, orFail_eq_ok,
    pure_eq_ok, Except.ok.injEq] at h
  obtain ⟨hissuedAt, reconstructed, hcreated, -, rfl⟩ := h
  exact createCashuPaymentRequest_requests hissuedAt hcreated

theorem mapInvoiceRow_eq {row : MerchantInvoiceRow} {invoice : OpenInvoice}
    (h : mapInvoiceRow row = .ok invoice) : invoice = row.openInvoice := by
  simp only [mapInvoiceRow, createInvoice, bind_eq_ok, ensure_eq_ok, exists_unit, mapError_eq_ok,
    pure_eq_ok, Except.ok.injEq] at h
  obtain ⟨-, -, -, amount, -, -, -, rfl⟩ := h
  rfl

/-- A request that is put together again from the stored routes is the one that was stored. -/
theorem reconstructStored_eq {row : InvoiceCashuRequestRow} {invoice : OpenInvoice}
    {paymentRequest : CashuPaymentRequest}
    (h : reconstructStoredCashuPaymentRequest row (db.routesOf invoice.id invoice.merchantId)
      invoice = some paymentRequest) :
    paymentRequest = row.routeSetFingerprint.request := by
  have hread : readRoutes db invoice (some row) = .ok paymentRequest := by
    rw [readRoutes, orFail, ok_bind, h, orFail]
  exact readRoutes_ok hread

/-- The creation row of every key is that of an issued invoice. -/
def CreationsIssued (db : Db) : Prop :=
  ∀ row ∈ db.invoiceCreationRequests, ∃ request issued,
    InvoiceIssued db row.idempotencyKey request issued ∧ request.merchantId = row.merchantId ∧
      row.requestFingerprint = fingerprintRequest request ∧ row.invoiceId = issued.invoice.id

/-- The rows that one row of `findCreationRow` joins are those of an issued invoice. -/
structure CreationRow.Joins (row : CreationRow) (request : InvoiceRequest)
    (issued : IssuedInvoice) : Prop where
  requestFingerprint : row.requestFingerprint = fingerprintRequest request
  invoice : row.invoice.openInvoice = issued.invoice
  request : row.request = some (invoiceRequestRow issued.invoice issued.cashuPaymentRequest
    request.settlementDestination)

theorem InvoiceIssued.invoiceRow (h : InvoiceIssued db key request issued) :
    ∃ row, row.openInvoice = issued.invoice ∧
      db.merchantInvoices.find (fun row => row.id = issued.invoice.id ∧
        row.merchantId = request.merchantId) = some row := by
  obtain ⟨row, hrow, hinvoice⟩ := h.invoice
  refine ⟨row, hinvoice, Table.find_of_mem hrow ?_ ?_⟩
  · rw [← h.merchantId, ← hinvoice]
    exact ⟨rfl, rfl⟩
  · intro other hother
    rw [← hinvoice] at hother
    exact hother.1

theorem findCreationRow_joins (hissued : CreationsIssued db) {merchantId : MerchantId}
    {row : CreationRow} (h : findCreationRow db merchantId key = some row) :
    ∃ request issued, request.merchantId = merchantId ∧ InvoiceIssued db key request issued ∧
      row.Joins request issued := by
  simp only [findCreationRow, Option.bind_eq_bind, Option.bind_eq_some_iff, Option.pure_def,
    Option.some.injEq] at h
  obtain ⟨creation, hcreation, invoice, hinvoice, rfl⟩ := h
  obtain ⟨hmem, rfl, rfl⟩ := Table.find_some hcreation
  obtain ⟨request, issued, hrows, hmerchant, hfingerprint, hid⟩ := hissued creation hmem
  obtain ⟨stored, hstored, hfind⟩ := hrows.invoiceRow
  rw [hid, ← hmerchant, hfind] at hinvoice
  obtain rfl := Option.some.inj hinvoice
  refine ⟨request, issued, hmerchant, hrows, hfingerprint, hstored, ?_⟩
  have hids : stored.id = issued.invoice.id := congrArg OpenInvoice.id hstored
  have hmerchants : stored.merchantId = issued.invoice.merchantId :=
    congrArg OpenInvoice.merchantId hstored
  show db.requestOf stored.id stored.merchantId = _
  rw [hids, hmerchants]
  exact hrows.paymentRequest

/-! ### What a creation does -/

/-- The input of a creation says what the request asks. -/
structure CreateOpenInvoiceInput.Asks (input : CreateOpenInvoiceInput) (key : Identifier)
    (request : InvoiceRequest) : Prop where
  idempotencyKey : input.idempotencyKey = key
  requestFingerprint : input.requestFingerprint = fingerprintRequest request
  settlementDestination : input.settlementDestination = request.settlementDestination
  merchantId : input.invoice.merchantId = request.merchantId
  amount : input.invoice.amount = request.amount
  expiresAt : input.invoice.expiresAt = request.expiresAt

/-- Another request has the key. -/
def KeyTaken (db : Db) (key : Identifier) (request : InvoiceRequest) : Prop :=
  ∃ other issued, InvoiceIssued db key other issued ∧ other.merchantId = request.merchantId ∧
    other ≠ request

theorem creation_joins (hissued : CreationsIssued db) {creation : InvoiceCreationRow}
    (hcreation : creation ∈ db.invoiceCreationRequests) :
    ∃ request issued, InvoiceIssued db creation.idempotencyKey request issued ∧
      request.merchantId = creation.merchantId ∧
      creation.requestFingerprint = fingerprintRequest request ∧
      ∃ row, row.openInvoice = issued.invoice ∧
        db.merchantInvoices.find (fun row => row.id = creation.invoiceId ∧
          row.merchantId = creation.merchantId) = some row := by
  obtain ⟨request, issued, hrows, hmerchant, hfingerprint, hid⟩ := hissued creation hcreation
  obtain ⟨row, hrow, hfind⟩ := hrows.invoiceRow
  exact ⟨request, issued, hrows, hmerchant, hfingerprint, row, hrow, by rw [hid, ← hmerchant, hfind]⟩

theorem readReplay_issued {input : CreateOpenInvoiceInput} (hasks : input.Asks key request)
    (hissued : CreationsIssued db) {creation : InvoiceCreationRow}
    {result : CreateOpenInvoiceResult}
    (hcreation : db.invoiceCreationRequests.find (fun row =>
      row.merchantId = input.invoice.merchantId ∧ row.idempotencyKey = input.idempotencyKey) =
        some creation)
    (h : readReplay db creation input = .ok result) :
    result.replayed = true ∧
      InvoiceIssued db key request ⟨result.cashuPaymentRequest, result.invoice⟩ := by
  obtain ⟨hmem, hmerchant, hkey⟩ := Table.find_some hcreation
  obtain ⟨stored, issued, hrows, -, hfingerprint, row, hinvoice, hfind⟩ :=
    creation_joins hissued hmem
  simp only [readReplay, bind_eq_ok, orFail_eq_ok, ensure_eq_ok, exists_unit, pure_eq_ok,
    Except.ok.injEq] at h
  obtain ⟨found, hfound, hsame, invoice, hmapped, requestRow, hrequestRow, paymentRequest,
    hreconstructed, rfl⟩ := h
  rw [hfind] at hfound
  obtain rfl := Option.some.inj hfound
  obtain rfl : stored = request := by
    apply fingerprintRequest_inj
    rw [← hfingerprint, hsame, hasks.requestFingerprint]
  obtain rfl : invoice = issued.invoice := (mapInvoiceRow_eq hmapped).trans hinvoice
  have hpaymentRequest : paymentRequest = issued.cashuPaymentRequest := by
    rw [reconstructStored_eq hreconstructed]
    rw [hrows.paymentRequest] at hrequestRow
    obtain rfl := Option.some.inj hrequestRow
    rfl
  subst hpaymentRequest
  rw [hkey, hasks.idempotencyKey] at hrows
  exact ⟨rfl, hrows⟩

theorem createOpenInvoice_cases {input : CreateOpenInvoiceInput}
    {result : CreateOpenInvoiceResult} (h : createOpenInvoice db input = .ok (result, db')) :
    (db' = db ∧ ∃ creation, db.invoiceCreationRequests.find (fun row =>
        row.merchantId = input.invoice.merchantId ∧ row.idempotencyKey = input.idempotencyKey) =
          some creation ∧ readReplay db creation input = .ok result) ∨
      (result = ⟨input.cashuPaymentRequest, input.invoice, false⟩ ∧
        validateCashuPaymentRequest input.invoice input.cashuPaymentRequest =
          .ok input.cashuPaymentRequest ∧
        db.invoiceCreationRequests.Appends [input.creationRow] db'.invoiceCreationRequests ∧
        db.merchantInvoices.Appends [input.invoiceRow] db'.merchantInvoices ∧
        db.invoiceCashuRequests.Appends [invoiceRequestRow input.invoice
          input.cashuPaymentRequest input.settlementDestination] db'.invoiceCashuRequests) := by
  simp only [createOpenInvoice, bind_eq_ok] at h
  obtain ⟨request, hvalid, h⟩ := h
  obtain rfl := validateCashuPaymentRequest_ok hvalid
  split at h
  · case h_1 creation hfound =>
      simp only [bind_eq_ok, pure_eq_ok, Except.ok.injEq, Prod.mk.injEq] at h
      obtain ⟨replay, hreplay, rfl, rfl⟩ := h
      exact .inl ⟨rfl, creation, hfound, hreplay⟩
  · simp only [bind_eq_ok, pure_eq_ok, Except.ok.injEq, Prod.mk.injEq, invoiceStatement_eq_ok,
      insertCashuPaymentRequest, Session.commit_eq_ok] at h
    obtain ⟨s₁, hcreation, s₂, hinvoice, s₄, ⟨s₃, hrequest, hroutes⟩, _, ⟨-, rfl⟩, rfl, rfl⟩ := h
    obtain ⟨creations, hcreations, rfl⟩ := insertInvoiceCreation_ok hcreation
    obtain ⟨-, invoices, hinvoices, hs₂⟩ := insertInvoice_ok hinvoice
    obtain ⟨requests, hrequests, hs₃⟩ := insertInvoiceRequest_ok hrequest
    obtain ⟨routes, -, hs₄⟩ := insertRoutes_ok hroutes
    rw [hs₂] at hrequests hs₃
    rw [hs₃] at hs₄
    rw [hs₄]
    exact .inr ⟨rfl, hvalid, hcreations, hinvoices, hrequests⟩

/-- What was issued stays issued. -/
structure InvoicesGrow (db db' : Db) : Prop where
  creations : ∀ row ∈ db.invoiceCreationRequests, row ∈ db'.invoiceCreationRequests
  issued : ∀ {key request issued}, InvoiceIssued db key request issued →
    InvoiceIssued db' key request issued

theorem InvoicesGrow.refl (db : Db) : InvoicesGrow db db where
  creations _ hrow := hrow
  issued h := h

theorem InvoicesGrow.trans {db'' : Db} (h : InvoicesGrow db db') (h' : InvoicesGrow db' db'') :
    InvoicesGrow db db'' where
  creations row hrow := h'.creations row (h.creations row hrow)
  issued hissued := h'.issued (h.issued hissued)

theorem KeyTaken.grow (h : KeyTaken db key request) (hgrow : InvoicesGrow db db') :
    KeyTaken db' key request := by
  obtain ⟨other, issued, hissued, hother⟩ := h
  exact ⟨other, issued, hgrow.issued hissued, hother⟩

theorem CreationsIssued.grow (h : CreationsIssued db) (hgrow : InvoicesGrow db db')
    (hrows : ∀ row ∈ db'.invoiceCreationRequests, row ∈ db.invoiceCreationRequests ∨
      ∃ request issued, InvoiceIssued db' row.idempotencyKey request issued ∧
        request.merchantId = row.merchantId ∧
        row.requestFingerprint = fingerprintRequest request ∧ row.invoiceId = issued.invoice.id) :
    CreationsIssued db' := by
  intro row hrow
  rcases hrows row hrow with hold | hnew
  · obtain ⟨request, issued, hissued, hsame⟩ := h row hold
    exact ⟨request, issued, hgrow.issued hissued, hsame⟩
  · exact hnew

/-- The rest of the acquirer writes no creation rows. -/
theorem invoicesGrow_of_moves (hissued : CreationsIssued db) (h : Moves db db') :
    CreationsIssued db' ∧ InvoicesGrow db db' := by
  rcases h with rfl | ⟨hchange, hcreations⟩
  · exact ⟨hissued, .refl _⟩
  · have hgrow : InvoicesGrow db db' := by
      have hkept : ∀ row ∈ db.invoiceCreationRequests, row ∈ db'.invoiceCreationRequests :=
        fun row hrow => hcreations ▸ hrow
      exact ⟨hkept, fun h => h.keep hchange hkept⟩
    exact ⟨hissued.grow hgrow fun row hrow => .inl (hcreations ▸ hrow), hgrow⟩

/-- A creation that says what its request asks returns what the key has from then on. -/
theorem createOpenInvoice_issued {input : CreateOpenInvoiceInput}
    {result : CreateOpenInvoiceResult} (hasks : input.Asks key request)
    (hissued : CreationsIssued db) (h : createOpenInvoice db input = .ok (result, db')) :
    CreationsIssued db' ∧ InvoicesGrow db db' ∧
      InvoiceIssued db' key request ⟨result.cashuPaymentRequest, result.invoice⟩ := by
  rcases createOpenInvoice_cases h with ⟨rfl, creation, hcreation, hreplay⟩ |
    ⟨rfl, hvalid, hcreations, hinvoices, hrequests⟩
  · exact ⟨hissued, .refl _, (readReplay_issued hasks hissued hcreation hreplay).2⟩
  · have hrow : input.creationRow ∈ db'.invoiceCreationRequests :=
      hcreations.mem.mpr (.inr (List.mem_singleton_self _))
    have hnew : InvoiceIssued db' key request ⟨input.cashuPaymentRequest, input.invoice⟩ := by
      constructor
      case creation =>
        rw [← hasks.merchantId, ← hasks.idempotencyKey, ← hasks.requestFingerprint]
        exact hrow
      case invoice =>
        exact ⟨input.invoiceRow, hinvoices.mem.mpr (.inr (List.mem_singleton_self _)), rfl⟩
      case paymentRequest =>
        rw [← hasks.settlementDestination]
        have hstored : invoiceRequestRow input.invoice input.cashuPaymentRequest
            input.settlementDestination ∈ db'.invoiceCashuRequests :=
          hrequests.mem.mpr (.inr (List.mem_singleton_self _))
        exact Table.find_of_mem hstored ⟨rfl, rfl⟩ fun other hother => hother.1
      case merchantId => exact hasks.merchantId
      case amount => exact hasks.amount
      case expiresAt => exact hasks.expiresAt
      case requests => exact validateCashuPaymentRequest_requests hvalid
    have hgrow : InvoicesGrow db db' := by
      rcases createOpenInvoice_change h with rfl | ⟨hchange, -⟩
      · exact .refl _
      · have hkept : ∀ row ∈ db.invoiceCreationRequests, row ∈ db'.invoiceCreationRequests :=
          fun row hrow => hcreations.mem_of_mem hrow
        exact ⟨hkept, fun hold => hold.keep hchange hkept⟩
    refine ⟨hissued.grow hgrow ?_, hgrow, hnew⟩
    intro row hmem
    rcases hcreations.mem.mp hmem with hold | hmem
    · exact .inl hold
    · obtain rfl := List.mem_singleton.mp hmem
      refine .inr ⟨request, ⟨input.cashuPaymentRequest, input.invoice⟩, ?_,
        hasks.merchantId.symm, hasks.requestFingerprint, rfl⟩
      rw [show input.creationRow.idempotencyKey = key from hasks.idempotencyKey]
      exact hnew

/-! ### What is refused -/

/-- An error that is no conflict of keys. -/
def InvoiceError.NoConflict (error : InvoiceError) : Prop :=
  error.code ≠ .idempotencyConflict

instance : DecidablePred InvoiceError.NoConflict := fun error =>
  inferInstanceAs (Decidable (error.code ≠ .idempotencyConflict))

theorem validateCashuPaymentRequest_noConflict (invoice : OpenInvoice)
    (paymentRequest : CashuPaymentRequest) :
    OnlyFails InvoiceError.NoConflict (validateCashuPaymentRequest invoice paymentRequest) := by
  unfold validateCashuPaymentRequest
  apply onlyFails_bind
  · apply onlyFails_ensure
    intro _
    decide
  intro _ _
  apply onlyFails_bind
  · apply onlyFails_orFail
    decide
  intro reconstructed _
  apply onlyFails_bind
  · apply onlyFails_ensure
    intro _
    decide
  · intro _ _
    trivial

theorem mapInvoiceRow_noConflict (row : MerchantInvoiceRow) :
    OnlyFails InvoiceError.NoConflict (mapInvoiceRow row) := by
  unfold mapInvoiceRow
  apply onlyFails_bind
  · apply onlyFails_ensure
    intro _
    decide
  · intro _ _
    apply onlyFails_mapError
    intro _
    decide

theorem invoiceStatement_noConflict {α : Type} (statement : Except DbError α) :
    OnlyFails InvoiceError.NoConflict (invoiceStatement statement) := by
  apply onlyFails_mapError
  intro error
  unfold InvoiceError.ofDbError
  split <;> decide

theorem insertCashuPaymentRequest_noConflict (s : Session) (invoice : OpenInvoice)
    (paymentRequest : CashuPaymentRequest)
    (settlementDestination : CashuStellarSettlementDestination) :
    OnlyFails InvoiceError.NoConflict
      (insertCashuPaymentRequest s invoice paymentRequest settlementDestination) := by
  unfold insertCashuPaymentRequest
  apply onlyFails_bind (invoiceStatement_noConflict _)
  intro s₁ _
  exact onlyFails_foldlM (fun _ _ => invoiceStatement_noConflict _) _ _

/-- A replay of another request is the only conflict. -/
theorem readReplay_conflict {creation : InvoiceCreationRow} {input : CreateOpenInvoiceInput}
    (hsame : creation.requestFingerprint = input.requestFingerprint) :
    OnlyFails InvoiceError.NoConflict (readReplay db creation input) := by
  unfold readReplay
  apply onlyFails_bind
  · apply onlyFails_orFail
    decide
  intro row _
  apply onlyFails_bind (onlyFails_ensure fun hother => absurd hsame hother)
  intro _ _
  apply onlyFails_bind (mapInvoiceRow_noConflict row)
  intro invoice _
  apply onlyFails_bind
  · apply onlyFails_orFail
    decide
  intro requestRow _
  apply onlyFails_bind
  · apply onlyFails_orFail
    decide
  · intro paymentRequest _
    trivial

/-- Only the key of another request is refused as a conflict. -/
theorem createOpenInvoice_conflict {input : CreateOpenInvoiceInput} (hasks : input.Asks key request)
    (hissued : CreationsIssued db) :
    OnlyFails (fun error => error.code = .idempotencyConflict → KeyTaken db key request)
      (createOpenInvoice db input) := by
  have hnone : ∀ error : InvoiceError, error.NoConflict →
      error.code = .idempotencyConflict → KeyTaken db key request :=
    fun error hne heq => absurd heq hne
  unfold createOpenInvoice
  apply onlyFails_bind (onlyFails_mono hnone (validateCashuPaymentRequest_noConflict _ _))
  intro paymentRequest _
  dsimp only
  split
  · case h_1 creation hfound =>
      apply onlyFails_bind
      · obtain ⟨hmem, hmerchant, hkey⟩ := Table.find_some hfound
        obtain ⟨stored, issued, hrows, hstored, hfingerprint, -⟩ := creation_joins hissued hmem
        by_cases hsame : creation.requestFingerprint = input.requestFingerprint
        · exact onlyFails_mono hnone (readReplay_conflict hsame)
        · have htaken : KeyTaken db key request := by
            refine ⟨stored, issued, ?_, ?_, ?_⟩
            · rw [← hasks.idempotencyKey, ← hkey]
              exact hrows
            · rw [hstored, hmerchant, hasks.merchantId]
            · rintro rfl
              exact hsame (hfingerprint.trans hasks.requestFingerprint.symm)
          exact onlyFails_of_all _ fun _ _ => htaken
      · intro replay _
        trivial
  · apply onlyFails_mono hnone
    apply onlyFails_bind (invoiceStatement_noConflict _)
    intro s₁ _
    apply onlyFails_bind (invoiceStatement_noConflict _)
    intro s₂ _
    apply onlyFails_bind (insertCashuPaymentRequest_noConflict _ _ _ _)
    intro s₃ _
    apply onlyFails_bind (invoiceStatement_noConflict _)
    intro committed _
    trivial

end CashMesh.Acquirer
