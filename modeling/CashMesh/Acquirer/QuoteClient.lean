import CashMesh.Acquirer.Sep7Request
/-!
# The client of the melt quotes

How a quote is asked of its mint: `create` of `CashuStellarMeltQuoteClient`, from the request it sends
to the quote it makes of the answer. The readings of the clock and what comes back of the request are
parameters, and the values of an answer are checked as they come out of JSON.
-/

namespace CashMesh.Acquirer

open CashMesh.Lib
open CashMesh.StellarSettlement (UrlRecord)

/-! ### Errors -/

/-- `CashuStellarMeltQuoteClientErrorCode`. -/
inductive CashuStellarMeltQuoteClientErrorCode where
  | invalidClock
  | invalidConfiguration
  | invalidRequest
  | invalidResponse
  | networkError
  | quoteExpired
  | quoteResponseMismatch
  | requestAborted
  | requestTimeout
  | responseTooLarge
  | unexpectedStatus
deriving DecidableEq

structure CashuStellarMeltQuoteClientError where
  code : CashuStellarMeltQuoteClientErrorCode
  message : String
deriving DecidableEq

namespace CashuStellarMeltQuoteClientError

def invalidClock : CashuStellarMeltQuoteClientError :=
  ⟨.invalidClock, "Cashu Stellar melt quote observation clock is invalid."⟩

def invalidRequest : CashuStellarMeltQuoteClientError :=
  ⟨.invalidRequest, "Cashu Stellar melt quote request is invalid."⟩

def invalidResponse : CashuStellarMeltQuoteClientError :=
  ⟨.invalidResponse, "Cashu Stellar melt quote endpoint returned an invalid response."⟩

def quoteResponseMismatch : CashuStellarMeltQuoteClientError :=
  ⟨.quoteResponseMismatch, "Cashu Stellar melt quote response changed immutable quote terms."⟩

end CashuStellarMeltQuoteClientError

/-! ### Answers -/

/-- A value of JSON. The numbers that are no natural ones are refused wherever one is read. -/
inductive JsonValue where
  | null
  | boolean (value : Bool)
  | natural (value : Nat)
  | otherNumber
  | string (value : String)
  | array (elements : List JsonValue)
  | object (fields : List (String × JsonValue))

namespace JsonValue

/-- A field of an object, none when it is undefined. -/
def field (value : JsonValue) (name : String) : Option JsonValue :=
  match value with
  | object fields => fields.lookup name
  | _ => none

def isObject : JsonValue → Bool
  | object _ => true
  | _ => false

def natural? : JsonValue → Option Nat
  | natural value => some value
  | _ => none

def string? : JsonValue → Option String
  | string value => some value
  | _ => none

end JsonValue

/-- `hasUnsupportedChange`. -/
def hasUnsupportedChange : Option JsonValue → Bool
  | none => false
  | some .null => false
  | some (.array elements) => !elements.isEmpty
  | some _ => true

/-! ### Quotes -/

theorem isAlphanum_of_isLowerHex {c : Char} (hc : isLowerHex c = true) : c.isAlphanum = true := by
  simp only [isLowerHex, Bool.or_eq_true, Bool.and_eq_true, decide_eq_true_eq] at hc
  show ((c.isUpper || c.isLower) || c.isDigit) = true
  rcases hc with hdigit | ⟨hlow, hhigh⟩
  · rw [hdigit, Bool.or_true]
  · have hle : c ≤ 'z' := Char.le_trans hhigh (show 'f' ≤ 'z' by decide)
    have hlower : c.isLower = true :=
      Bool.and_eq_true_iff.mpr ⟨decide_eq_true hlow, decide_eq_true hle⟩
    rw [hlower, Bool.or_true, Bool.true_or]

theorem identifierPattern_of_uuidV7 {text : String} (h : uuidV7Pattern text = true) :
    identifierPattern text = true := by
  unfold uuidV7Pattern at h
  split at h
  · case h_1 time low version variant node hsplit =>
    simp only [List.all_cons, List.all_nil, Bool.and_true, Bool.and_eq_true, beq_iff_eq] at h
    obtain ⟨⟨⟨⟨⟨⟨⟨⟨htime, hlow, hversion, hvariant, hnode⟩, htimeLength⟩, hlowLength⟩, hversionLength⟩,
      hvariantLength⟩, hnodeLength⟩, -⟩, -⟩ := h
    have htext : text.toList =
        time ++ '-' :: (low ++ '-' :: (version ++ '-' :: (variant ++ '-' :: node))) := by
      have hjoin : ['-'].intercalate (text.toList.splitOn '-') = text.toList :=
        List.intercalate_splitOn '-'
      rw [hsplit] at hjoin
      simpa using hjoin.symm
    obtain ⟨first, rest, rfl⟩ : ∃ first rest, time = first :: rest := by
      cases time with
      | nil => cases htimeLength
      | cons first rest => exact ⟨first, rest, rfl⟩
    have hkept : ∀ part : List Char, part.all isLowerHex = true →
        part.all (fun c => c.isAlphanum || c == '.' || c == '_' || c == ':' || c == '-') = true := by
      intro part hpart
      apply List.all_eq_true.mpr
      intro c hc
      rw [isAlphanum_of_isLowerHex (List.all_eq_true.mp hpart c hc)]
      rfl
    rw [List.all_cons, Bool.and_eq_true] at htime
    rw [List.length_cons] at htimeLength
    rw [identifierPattern, htext]
    simp [isAlphanum_of_isLowerHex htime.1, hkept rest htime.2, hkept low hlow, hkept version hversion,
      hkept variant hvariant, hkept node hnode]
    omega
  · cases h

def meltQuoteState : String → Option CashuStellarMeltQuoteState
  | "UNPAID" => some .unpaid
  | "PENDING" => some .pending
  | "PAID" => some .paid
  | _ => none

/-- `cashuStellarMeltQuoteId`. -/
def cashuStellarMeltQuoteId (value : String) :
    Except CashuStellarMeltQuoteError CashuStellarMeltQuoteId :=
  if hvalue : uuidV7Pattern value = true then
    .ok ⟨value, identifierPattern_of_uuidV7 hvalue⟩
  else
    .error ⟨.invalidQuoteId, "Cashu Stellar melt quote ID must be a canonical UUIDv7."⟩

/-- The values that a quote is made of. An undefined fee reserve is zero. -/
structure CreateCashuStellarMeltQuoteInput where
  amount : Option JsonValue
  expiry : Option JsonValue
  feeReserve : Option JsonValue
  method : Option JsonValue
  mintUrl : MintUrl
  observedAt : UnixTimestamp
  quoteId : Option JsonValue
  request : Option JsonValue
  state : Option JsonValue
  unit : Option JsonValue

/-- `createCashuStellarMeltQuoteV1`. The URL of the mint is the client's, which has normalised it. -/
def createCashuStellarMeltQuoteV1 (parseUrl : String → Option UrlRecord)
    (input : CreateCashuStellarMeltQuoteInput) :
    Except CashuStellarMeltQuoteError CashuStellarMeltQuote := do
  ensure
    (input.method.bind (·.string?) = some "stellar" ∧ input.unit.bind (·.string?) = some "usdc")
    CashuStellarMeltQuoteError.invalidSnapshot
  let amount ← orFail (input.amount.bind (·.natural?)) CashuStellarMeltQuoteError.amountOutOfRange
  let text ← orFail (input.request.bind (·.string?)) CashuStellarMeltQuoteError.invalidRequest
  let request ← createCashuStellarMeltQuoteRequestV1 parseUrl amount text
  let feeReserve ← orFail (input.feeReserve.getD (.natural 0)).natural?
    (⟨.invalidFeeReserve, "Cashu Stellar melt quote fee reserve is invalid."⟩ :
      CashuStellarMeltQuoteError)
  ensure (feeReserve ≤ maxSafeInteger)
    (⟨.invalidFeeReserve, "Cashu Stellar melt quote fee reserve is invalid."⟩ :
      CashuStellarMeltQuoteError)
  ensure (request.amount + feeReserve ≤ maxSafeInteger)
    (⟨.invalidFeeReserve, "Cashu Stellar melt quote total exceeds safe integer bounds."⟩ :
      CashuStellarMeltQuoteError)
  ensure (input.observedAt ≤ maxSafeInteger)
    (⟨.invalidObservedAt, "Cashu Stellar melt quote observation time is invalid."⟩ :
      CashuStellarMeltQuoteError)
  let expiry ← orFail (input.expiry.bind (·.natural?))
    (⟨.invalidExpiry, "Cashu Stellar melt quote expiry is invalid."⟩ : CashuStellarMeltQuoteError)
  ensure (expiry ≤ maxSafeInteger)
    (⟨.invalidExpiry, "Cashu Stellar melt quote expiry is invalid."⟩ : CashuStellarMeltQuoteError)
  let state ← orFail ((input.state.bind (·.string?)).bind meltQuoteState)
    (⟨.invalidState, "Cashu Stellar melt quote state is invalid."⟩ : CashuStellarMeltQuoteError)
  let quoteText ← orFail (input.quoteId.bind (·.string?))
    (⟨.invalidQuoteId, "Cashu Stellar melt quote ID must be a canonical UUIDv7."⟩ :
      CashuStellarMeltQuoteError)
  let quoteId ← cashuStellarMeltQuoteId quoteText
  return {
    amount := request.amount
    expiry
    feeReserve
    mintUrl := input.mintUrl
    observedAt := input.observedAt
    quoteId
    request := request.request
    state }

def parseCashuStellarMeltQuoteResponse (parseUrl : String → Option UrlRecord) (response : JsonValue)
    (mintUrl : MintUrl) (observedAt : UnixTimestamp) :
    Except CashuStellarMeltQuoteClientError CashuStellarMeltQuote := do
  ensure (response.isObject = true ∧ hasUnsupportedChange (response.field "change") = false)
    .invalidResponse
  (createCashuStellarMeltQuoteV1 parseUrl {
    amount := response.field "amount"
    expiry := response.field "expiry"
    feeReserve := response.field "fee_reserve"
    method := response.field "method"
    mintUrl
    observedAt
    quoteId := response.field "quote"
    request := response.field "request"
    state := response.field "state"
    unit := response.field "unit" }).mapError fun _ => .invalidResponse

structure CreateCashuStellarMeltQuoteClientInput where
  amount : Nat
  request : String

/-- `readClock`. -/
def readClock (reading : Nat) : Except CashuStellarMeltQuoteClientError UnixTimestamp := do
  ensure (reading ≤ maxSafeInteger) .invalidClock
  return reading

/-- `create` of the client of a mint, with the clock read before the request and after what came of
it. -/
def createQuote (parseUrl : String → Option UrlRecord) (mintUrl : MintUrl)
    (input : CreateCashuStellarMeltQuoteClientInput) (clock : Nat × Nat)
    (response : Except CashuStellarMeltQuoteClientError JsonValue) :
    Except CashuStellarMeltQuoteClientError CashuStellarMeltQuote := do
  let request ← (createCashuStellarMeltQuoteRequestV1 parseUrl input.amount input.request).mapError
    fun _ => CashuStellarMeltQuoteClientError.invalidRequest
  let startedAt ← readClock clock.1
  let response ← response
  let observedAt ← readClock clock.2
  ensure (startedAt ≤ observedAt) CashuStellarMeltQuoteClientError.invalidClock
  let quote ← parseCashuStellarMeltQuoteResponse parseUrl response mintUrl observedAt
  ensure (quote.amount = request.amount ∧ quote.request.uri = request.request.uri)
    CashuStellarMeltQuoteClientError.quoteResponseMismatch
  ensure (quote.state = .unpaid)
    (⟨.invalidResponse, "A newly created Cashu Stellar melt quote was not unpaid."⟩ :
      CashuStellarMeltQuoteClientError)
  ensure (observedAt < quote.expiry)
    (⟨.quoteExpired, "The Cashu Stellar melt quote expired before it could be accepted."⟩ :
      CashuStellarMeltQuoteClientError)
  ensure (quote.expiry ≤ startedAt + maxCashuStellarMeltQuoteTtlSeconds)
    (⟨.invalidResponse, "The Cashu Stellar melt quote expiry exceeds the configured profile."⟩ :
      CashuStellarMeltQuoteClientError)
  return quote

/-! ### The quotes that are created -/

theorem createCashuStellarMeltQuoteV1_eq_ok {parseUrl : String → Option UrlRecord}
    {input : CreateCashuStellarMeltQuoteInput} {quote : CashuStellarMeltQuote}
    (h : createCashuStellarMeltQuoteV1 parseUrl input = .ok quote) :
    quote.mintUrl = input.mintUrl ∧ quote.observedAt = input.observedAt ∧
      input.expiry.bind (·.natural?) = some quote.expiry ∧
      quote.request.destination.val =
        (searchParameter parseUrl quote.request.uri "destination").getD "" ∧
      createCashuStellarMeltQuote quote = some quote := by
  simp only [createCashuStellarMeltQuoteV1, bind_eq_ok, ensure_eq_ok, exists_unit, orFail_eq_ok,
    pure_eq_ok, Except.ok.injEq] at h
  obtain ⟨-, amount, -, text, -, request, hrequest, feeReserve, -, -, htotal, hobserved, expiry, hexpiry,
    hsafe, state, -, quoteText, -, quoteId, hquoteId, rfl⟩ := h
  obtain ⟨hrange, hamount, huri, hdestination, -⟩ := createCashuStellarMeltQuoteRequestV1_eq_ok hrequest
  have huuid : uuidV7Pattern quoteId.val = true := by
    unfold cashuStellarMeltQuoteId at hquoteId
    split at hquoteId
    · case isTrue hvalue =>
      rw [← Except.ok.inj hquoteId]
      exact hvalue
    · cases hquoteId
  refine ⟨rfl, rfl, hexpiry, ?_, ?_⟩
  · rw [hdestination, huri]
  · rw [createCashuStellarMeltQuote, if_pos]
    refine ⟨?_, htotal, hobserved, hsafe, huuid⟩
    rw [createCashuStellarMeltQuoteRequest, if_pos (by rw [hamount]; exact hrange)]
    rfl

/-- The expiry that the mint has answered with. -/
def JsonValue.expiry (response : JsonValue) : Option Nat :=
  (response.field "expiry").bind (·.natural?)

/-- What a created quote is, of the input, of the clock and of the answer. -/
theorem createQuote_eq_ok {parseUrl : String → Option UrlRecord} {mintUrl : MintUrl}
    {input : CreateCashuStellarMeltQuoteClientInput} {clock : Nat × Nat}
    {response : Except CashuStellarMeltQuoteClientError JsonValue} {quote : CashuStellarMeltQuote}
    (h : createQuote parseUrl mintUrl input clock response = .ok quote) :
    (quote.mintUrl = mintUrl ∧ quote.amount = input.amount ∧ quote.request.uri = input.request ∧
      quote.request.destination.val =
        (searchParameter parseUrl input.request "destination").getD "" ∧
      quote.state = .unpaid) ∧
    (clock.1 ≤ quote.observedAt ∧ quote.observedAt < quote.expiry) ∧
    createCashuStellarMeltQuote quote = some quote ∧
    ∃ value, response = .ok value ∧ value.expiry = some quote.expiry := by
  simp only [createQuote, readClock, parseCashuStellarMeltQuoteResponse, bind_eq_ok, mapError_eq_ok,
    ensure_eq_ok, exists_unit, pure_eq_ok, Except.ok.injEq] at h
  obtain ⟨request, hrequest, startedAt, ⟨-, rfl⟩, value, hvalue, observedAt, ⟨-, rfl⟩, hclock, created,
    ⟨-, hcreated⟩, ⟨hamount, huri⟩, hunpaid, hopen, -, rfl⟩ := h
  obtain ⟨-, hinput, hinputUri, -, -⟩ := createCashuStellarMeltQuoteRequestV1_eq_ok hrequest
  obtain ⟨hmint, hobserved, hexpiry, hdestination, hvalid⟩ :=
    createCashuStellarMeltQuoteV1_eq_ok hcreated
  have htext : created.request.uri = input.request := huri.trans hinputUri
  refine ⟨⟨hmint, hamount.trans hinput, htext, ?_, hunpaid⟩, ⟨?_, ?_⟩, hvalid, value, hvalue, hexpiry⟩
  · rw [hdestination, htext]
  · rw [hobserved]
    exact hclock
  · rw [hobserved]
    exact hopen

end CashMesh.Acquirer
