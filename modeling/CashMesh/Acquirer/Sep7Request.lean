import CashMesh.Acquirer.PaymentPayload
import CashMesh.StellarSettlement.Decimals
import CashMesh.StellarSettlement.Addresses
/-!
# SEP-0007 requests of the acquirer

The payment request that an acquirer takes for the melt of an amount, as `stellar-melt-quote.ts`
validates it: a short URI without white space, of the one operation, with known parameters of which none
is repeated, for the testnet asset and for exactly the amount. The URL parser is a parameter.
-/

namespace CashMesh.Acquirer

open CashMesh.Lib
open CashMesh.StellarSettlement (UrlRecord digitsValue isAsciiDigit IsPlainDecimal)

/-! ### Errors -/

/-- `CashuStellarMeltQuoteErrorCode`. -/
inductive CashuStellarMeltQuoteErrorCode where
  | amountOutOfRange
  | invalidExpiry
  | invalidFeeReserve
  | invalidMint
  | invalidObservedAt
  | invalidQuoteId
  | invalidRequest
  | invalidSnapshot
  | invalidState
deriving DecidableEq

structure CashuStellarMeltQuoteError where
  code : CashuStellarMeltQuoteErrorCode
  message : String
deriving DecidableEq

namespace CashuStellarMeltQuoteError

def amountOutOfRange : CashuStellarMeltQuoteError :=
  ⟨.amountOutOfRange, "Cashu Stellar melt amount must be 1 through 25000 USDC minor units."⟩

def invalidRequest : CashuStellarMeltQuoteError :=
  ⟨.invalidRequest,
    "Cashu Stellar melt request must match the bounded testnet USDC SEP-0007 profile."⟩

def invalidSnapshot : CashuStellarMeltQuoteError :=
  ⟨.invalidSnapshot, "Cashu Stellar melt quote input is invalid."⟩

end CashuStellarMeltQuoteError

/-! ### The getters of a URL -/

/-- `URL.protocol`. -/
def urlProtocol (url : UrlRecord) : String :=
  url.scheme ++ ":"

/-- `URL.host`. A port only stands behind a host that is not empty. -/
def urlHost (url : UrlRecord) : String :=
  url.host.getD ""

/-- `URL.hash`, empty for no fragment and for an empty one. -/
def urlHash (url : UrlRecord) : String :=
  if url.fragment.getD "" = "" then "" else "#" ++ url.fragment.getD ""

/-! ### Amounts -/

/-- `STELLAR_DECIMAL_PATTERN`, `^([0-9]+)(?:\.([0-9]{0,7}))?$`, with its two groups. -/
def stellarDecimalPattern (value : String) : Option (List Char × Option (List Char)) :=
  let whole := value.toList.takeWhile isAsciiDigit
  if whole = [] then none
  else
    match value.toList.dropWhile isAsciiDigit with
    | [] => some (whole, none)
    | '.' :: fraction =>
        if fraction.length ≤ 7 ∧ fraction.all isAsciiDigit = true then some (whole, some fraction)
        else none
    | _ :: _ => none

/-- `padEnd(length, "0")`. -/
def padEnd (text : List Char) (length : Nat) : List Char :=
  text ++ List.replicate (length - text.length) '0'

def stroopsPerWholeUsdc : Nat := 10000000
def stellarStroopsPerUnit : Nat := 100000

def stellarAmountMatches (value : String) (amount : MinorUnitAmount) : Bool :=
  match stellarDecimalPattern value with
  | none => false
  | some (whole, fraction) =>
      digitsValue whole * stroopsPerWholeUsdc + digitsValue (padEnd (fraction.getD []) 7) ==
        amount * stellarStroopsPerUnit

/-! ### The request -/

def maxCashuStellarMeltRequestLength : Nat := 4096

def cashuStellarTestnetNetworkPassphrase : String := "Test SDF Network ; September 2015"
def cashuStellarTestnetUsdcAssetCode : String := "USDC"
def cashuStellarTestnetUsdcIssuer : String :=
  "GBBD47IF6LWK7P7MDEVSCWR7DPUWV3NY3DTQEVFL4NAT4AQH3ZLLFLA5"

def allowedSep7Parameters : List String :=
  ["amount", "asset_code", "asset_issuer", "destination", "memo", "memo_type", "network_passphrase"]

def allowedMemoTypes : List String := ["MEMO_HASH", "MEMO_ID", "MEMO_RETURN", "MEMO_TEXT"]

def containsRawControlOrWhitespace (value : String) : Bool :=
  value.toList.any fun c => c.toNat ≤ 0x20 || c.toNat == 0x7f

/-- One turn of the loop over the search parameters. -/
def setParameter (parameters : List (String × String)) (pair : String × String) :
    Except CashuStellarMeltQuoteError (List (String × String)) := do
  ensure (pair.1 ∈ allowedSep7Parameters ∧ parameters.lookup pair.1 = none) .invalidRequest
  return parameters ++ [pair]

def requiredParameter (parameters : List (String × String)) (name : String) :
    Except CashuStellarMeltQuoteError String := do
  let value ← orFail (parameters.lookup name) .invalidRequest
  ensure (value ≠ "") .invalidRequest
  return value

def validateSep7PaymentRequest (parseUrl : String → Option UrlRecord) (value : String)
    (amount : MinorUnitAmount) : Except CashuStellarMeltQuoteError Unit := do
  ensure
    (value ≠ "" ∧ utf16Length value ≤ maxCashuStellarMeltRequestLength ∧
      containsRawControlOrWhitespace value = false)
    .invalidRequest
  let url ← orFail (parseUrl value) .invalidRequest
  ensure
    (urlProtocol url = "web+stellar:" ∧ url.path = "pay" ∧ urlHost url = "" ∧ url.username = "" ∧
      url.password = "" ∧ urlHash url = "")
    .invalidRequest
  let parameters ← url.queryPairs.foldlM setParameter []
  let destination ← requiredParameter parameters "destination"
  let requestAmount ← requiredParameter parameters "amount"
  let assetCode ← requiredParameter parameters "asset_code"
  let assetIssuer ← requiredParameter parameters "asset_issuer"
  let networkPassphrase ← requiredParameter parameters "network_passphrase"
  ensure
    (isValidStellarDestination destination = true ∧
      assetCode = cashuStellarTestnetUsdcAssetCode ∧
      assetIssuer = cashuStellarTestnetUsdcIssuer ∧
      networkPassphrase = cashuStellarTestnetNetworkPassphrase ∧
      stellarAmountMatches requestAmount amount = true)
    .invalidRequest
  let memoType := parameters.lookup "memo_type"
  ensure ((parameters.lookup "memo").isSome = memoType.isSome) .invalidRequest
  ensure (∀ kind ∈ memoType, kind ∈ allowedMemoTypes) .invalidRequest

def cashuStellarSettlementDestination (value : String) :
    Except CashuStellarMeltQuoteError CashuStellarSettlementDestination :=
  if hvalue : isValidStellarDestination value = true then .ok ⟨value, hvalue⟩
  else .error .invalidRequest

/-- A search parameter of a request. -/
def searchParameter (parseUrl : String → Option UrlRecord) (request name : String) : Option String := do
  let url ← parseUrl request
  url.queryPairs.lookup name

/-- `createCashuStellarMeltQuoteRequestV1`, with the destination that
`cashuStellarMeltRequestDestination` reads of the request. -/
def createCashuStellarMeltQuoteRequestV1 (parseUrl : String → Option UrlRecord) (amount : Nat)
    (request : String) : Except CashuStellarMeltQuoteError CashuStellarMeltQuoteRequest := do
  ensure (amount ≤ maxSafeInteger) .amountOutOfRange
  ensure (minCashuStellarMeltAmount ≤ amount ∧ amount ≤ maxCashuStellarMeltAmount) .amountOutOfRange
  validateSep7PaymentRequest parseUrl request amount
  let destination ← cashuStellarSettlementDestination
    ((searchParameter parseUrl request "destination").getD "")
  return { amount, request := { uri := request, destination } }

/-! ### What is accepted -/

theorem stellarDecimalPattern_eq_some {value : String} {whole : List Char}
    {fraction : Option (List Char)} (h : stellarDecimalPattern value = some (whole, fraction)) :
    IsPlainDecimal value whole (fraction.getD []) := by
  have htext : value.toList.takeWhile isAsciiDigit ++ value.toList.dropWhile isAsciiDigit =
      value.toList := List.takeWhile_append_dropWhile
  have hdigits : ∀ c ∈ value.toList.takeWhile isAsciiDigit, isAsciiDigit c = true :=
    List.all_eq_true.mp List.all_takeWhile
  simp only [stellarDecimalPattern] at h
  split at h
  · cases h
  · case isFalse hne =>
    split at h
    · case h_1 hrest =>
      obtain ⟨rfl, rfl⟩ := Prod.mk.inj (Option.some.inj h)
      rw [hrest, List.append_nil] at htext
      exact ⟨hne, hdigits, by simp, by simp, .inl ⟨htext.symm, rfl⟩⟩
    · case h_2 rest hrest =>
      split at h
      · case isTrue hform =>
        obtain ⟨rfl, rfl⟩ := Prod.mk.inj (Option.some.inj h)
        rw [hrest] at htext
        exact ⟨hne, hdigits, List.all_eq_true.mp hform.2, hform.1, .inr htext.symm⟩
      · cases h
    · cases h

theorem digitsValue_padEnd (digits : List Char) (length : Nat) :
    digitsValue (padEnd digits length) = digitsValue digits * 10 ^ (length - digits.length) := by
  simp only [digitsValue, padEnd, List.map_append, List.map_replicate, Nat.sub_self]
  exact numeral_append_zeros _ _

theorem plainDecimal_of_matches {value : String} {amount : MinorUnitAmount}
    (h : stellarAmountMatches value amount = true) :
    ∃ whole fraction, IsPlainDecimal value whole fraction ∧
      digitsValue whole * 10000000 + digitsValue fraction * 10 ^ (7 - fraction.length) =
        amount * 100000 := by
  unfold stellarAmountMatches at h
  split at h
  · cases h
  · case h_2 whole fraction hpattern =>
    refine ⟨whole, fraction.getD [], stellarDecimalPattern_eq_some hpattern, ?_⟩
    rw [← digitsValue_padEnd]
    exact eq_of_beq h

theorem scheme_of_protocol {url : UrlRecord} (h : urlProtocol url = "web+stellar:") :
    url.scheme = "web+stellar" := by
  have hchars : url.scheme.toList ++ [':'] = "web+stellar".toList ++ [':'] := by
    have hlist := congrArg String.toList h
    rwa [urlProtocol, String.toList_append] at hlist
  exact String.toList_inj.mp (List.append_cancel_right hchars)

theorem requiredParameter_eq_ok {parameters : List (String × String)} {name value : String} :
    requiredParameter parameters name = .ok value ↔
      parameters.lookup name = some value ∧ value ≠ "" := by
  simp only [requiredParameter, bind_eq_ok, orFail_eq_ok, ensure_eq_ok, exists_unit, pure_eq_ok,
    Except.ok.injEq]
  constructor
  · intro h
    obtain ⟨found, hfound, hset, rfl⟩ := h
    exact ⟨hfound, hset⟩
  · intro h
    exact ⟨value, h.1, h.2, rfl⟩

/-- What a request that is accepted is. -/
structure AcceptedSep7Request (url : UrlRecord) (amount : MinorUnitAmount) : Prop where
  scheme : url.scheme = "web+stellar"
  path : url.path = "pay"
  fragment : url.fragment.getD "" = ""
  parameters : url.queryPairs.foldlM setParameter [] = .ok url.queryPairs
  destination : ∃ destination, url.queryPairs.lookup "destination" = some destination ∧
    isValidStellarDestination destination = true
  amount : ∃ text, url.queryPairs.lookup "amount" = some text ∧ stellarAmountMatches text amount = true
  assetCode : url.queryPairs.lookup "asset_code" = some cashuStellarTestnetUsdcAssetCode
  assetIssuer : url.queryPairs.lookup "asset_issuer" = some cashuStellarTestnetUsdcIssuer
  networkPassphrase :
    url.queryPairs.lookup "network_passphrase" = some cashuStellarTestnetNetworkPassphrase
  memo : (url.queryPairs.lookup "memo").isSome = (url.queryPairs.lookup "memo_type").isSome
  memoType : ∀ kind ∈ url.queryPairs.lookup "memo_type", kind ∈ allowedMemoTypes

/-- The parameters are kept as they come. -/
theorem setParameters_eq {pairs parameters result : List (String × String)}
    (h : pairs.foldlM setParameter parameters = .ok result) : result = parameters ++ pairs := by
  refine foldlM_ok_induction (motive := fun parameters pairs result => result = parameters ++ pairs)
    ?_ ?_ h
  · intro parameters
    exact (List.append_nil _).symm
  · intro parameters pair next pairs result hstep hrest
    simp only [setParameter, bind_eq_ok, ensure_eq_ok, exists_unit, pure_eq_ok,
      Except.ok.injEq] at hstep
    obtain ⟨-, rfl⟩ := hstep
    rw [hrest, List.append_assoc, List.singleton_append]

theorem accepted_of_validate {parseUrl : String → Option UrlRecord} {value : String}
    {amount : MinorUnitAmount} (h : validateSep7PaymentRequest parseUrl value amount = .ok ()) :
    ∃ url, parseUrl value = some url ∧ AcceptedSep7Request url amount := by
  simp only [validateSep7PaymentRequest, bind_eq_ok, ensure_eq_ok, exists_unit, orFail_eq_ok,
    requiredParameter_eq_ok] at h
  obtain ⟨-, url, hurl, ⟨hprotocol, hpath, -, -, -, hhash⟩, parameters, hparameters, destination,
    ⟨hdestination, -⟩, text, ⟨htext, -⟩, assetCode, ⟨hcode, -⟩, assetIssuer, ⟨hissuer, -⟩, passphrase,
    ⟨hpassphrase, -⟩, ⟨hvalid, rfl, rfl, rfl, hamount⟩, hmemo, hkinds⟩ := h
  obtain rfl : parameters = url.queryPairs := by simpa using setParameters_eq hparameters
  refine ⟨url, hurl, ?_⟩
  exact {
    scheme := scheme_of_protocol hprotocol
    path := hpath
    fragment := by
      by_contra hfragment
      have hchars := congrArg String.toList hhash
      rw [urlHash, if_neg hfragment, String.toList_append] at hchars
      cases hchars
    parameters := hparameters
    destination := ⟨destination, hdestination, hvalid⟩
    amount := ⟨text, htext, hamount⟩
    assetCode := hcode
    assetIssuer := hissuer
    networkPassphrase := hpassphrase
    memo := hmemo
    memoType := hkinds }

theorem cashuStellarSettlementDestination_eq_ok {value : String}
    {destination : CashuStellarSettlementDestination} :
    cashuStellarSettlementDestination value = .ok destination ↔ destination.val = value := by
  unfold cashuStellarSettlementDestination
  constructor
  · intro h
    split at h
    · cases h
      rfl
    · cases h
  · intro h
    subst h
    rw [dif_pos destination.property]

theorem createCashuStellarMeltQuoteRequestV1_eq_ok {parseUrl : String → Option UrlRecord}
    {amount : Nat} {text : String} {request : CashuStellarMeltQuoteRequest}
    (h : createCashuStellarMeltQuoteRequestV1 parseUrl amount text = .ok request) :
    (minCashuStellarMeltAmount ≤ amount ∧ amount ≤ maxCashuStellarMeltAmount) ∧
      request.amount = amount ∧ request.request.uri = text ∧
      request.request.destination.val = (searchParameter parseUrl text "destination").getD "" ∧
      ∃ url, parseUrl text = some url ∧ AcceptedSep7Request url amount := by
  simp only [createCashuStellarMeltQuoteRequestV1, bind_eq_ok, ensure_eq_ok, exists_unit,
    cashuStellarSettlementDestination_eq_ok, pure_eq_ok, Except.ok.injEq] at h
  obtain ⟨-, hrange, hvalid, destination, hdestination, rfl⟩ := h
  exact ⟨hrange, rfl, rfl, hdestination, accepted_of_validate hvalid⟩

end CashMesh.Acquirer
