import CashMesh.Acquirer.Sep7Request
import CashMesh.StellarSettlement.Sep7
/-!
# The requests of both sides

The payment requests that the acquirer accepts, read by the processor. Both read the URL in the same
way and make the same demands on its parameters, so that a request is read as the one that was
accepted; only a fragment that is there and empty is taken on the one side and refused on the other.
-/

namespace CashMesh.StellarSettlement

open CashMesh.Lib
open CashMesh.Acquirer (AcceptedSep7Request CashuStellarMeltQuoteRequest
  CashuStellarSettlementDestination IsAccountAddress IsMuxedAddress Sample.destination_valid
  allowedMemoTypes allowedSep7Parameters containsRawControlOrWhitespace
  createCashuStellarMeltQuoteRequestV1 createCashuStellarMeltQuoteRequestV1_eq_ok
  isValidStellarDestination isValidStellarDestination_iff plainDecimal_of_matches searchParameter
  setParameter utf16Length validateSep7PaymentRequest)

/-! ### The libraries -/

/-- `Strkey::from_str` takes the canonical texts of accounts and of muxed accounts as such. -/
structure Crates.ReadsStrkeys (crates : Crates) : Prop where
  account : ∀ text, crates.strkey text = some .publicKeyEd25519 ↔ IsAccountAddress text
  muxed : ∀ text, crates.strkey text = some .muxedAccountEd25519 ↔ IsMuxedAddress text

/-- A URL has a fragment, which may be empty, exactly when its text has a number sign. -/
def Crates.MarksFragments (crates : Crates) : Prop :=
  ∀ text url, crates.parseUrl text = some url → (url.fragment = none ↔ '#' ∉ text.toList)

/-! ### Parameters -/

theorem setParameter_eq_ok {parameters result : List (String × String)} {pair : String × String} :
    setParameter parameters pair = .ok result ↔ insertParameter parameters pair = .ok result := by
  have hknown : pair.1 ∈ allowedSep7Parameters ↔ pair.1 ∈ sep7Parameters := by
    simp only [allowedSep7Parameters, sep7Parameters, List.mem_cons, List.not_mem_nil, or_false]
    tauto
  simp only [setParameter, insertParameter, bind_eq_ok, ensure_eq_ok, exists_unit, pure_eq_ok,
    Except.ok.injEq, hknown, and_assoc]

theorem setParameters_eq_ok {pairs parameters result : List (String × String)} :
    pairs.foldlM setParameter parameters = .ok result ↔
      pairs.foldlM insertParameter parameters = .ok result := by
  induction pairs generalizing parameters with
  | nil =>
      simp only [List.foldlM_nil, pure_eq_ok, Except.ok.injEq]
  | cons pair pairs ih =>
      simp only [List.foldlM_cons, bind_eq_ok]
      apply exists_congr
      intro next
      rw [setParameter_eq_ok, ih]

theorem supportedMemoTypes_iff {kind : String} :
    kind ∈ supportedMemoTypes ↔ kind ∈ allowedMemoTypes := by
  simp only [supportedMemoTypes, allowedMemoTypes, List.mem_cons, List.not_mem_nil, or_false]
  tauto

theorem not_blank_of_head {value : String} {c : Char} (hhead : value.toList.head? = some c)
    (hspace : isWhitespace c = false) : isBlank value = false := by
  obtain ⟨rest, htext⟩ : ∃ rest, value.toList = c :: rest := by
    cases htext : value.toList with
    | nil =>
        rw [htext] at hhead
        cases hhead
    | cons first rest =>
        rw [htext] at hhead
        exact ⟨rest, by rw [Option.some.inj hhead]⟩
  rw [isBlank, htext, List.all_cons, hspace, Bool.false_and]

theorem address_of_valid {crates : Crates} (hstrkey : crates.ReadsStrkeys) {value : String}
    (hvalid : isValidStellarDestination value = true) : StellarAddress.new crates value = .ok ⟨value⟩ := by
  apply StellarAddress.new_eq_ok.mpr
  rcases isValidStellarDestination_iff.mp hvalid with ⟨haccount, hhead⟩ | ⟨hmuxed, hhead⟩
  · exact ⟨not_blank_of_head hhead (by decide), rfl, .inl ((hstrkey.account value).mpr haccount)⟩
  · exact ⟨not_blank_of_head hhead (by decide), rfl, .inr ((hstrkey.muxed value).mpr hmuxed)⟩

theorem issuer_isAccount : IsAccountAddress circleTestnetUsdcIssuer := by
  have hvalid : isValidStellarDestination circleTestnetUsdcIssuer = true := by decide +kernel
  rcases isValidStellarDestination_iff.mp hvalid with ⟨haccount, -⟩ | ⟨-, hhead⟩
  · exact haccount
  · exact absurd hhead (by decide)

theorem issuer_newAccount {crates : Crates} (hstrkey : crates.ReadsStrkeys) :
    StellarAddress.newAccount crates circleTestnetUsdcIssuer = .ok ⟨circleTestnetUsdcIssuer⟩ :=
  StellarAddress.newAccount_eq_ok.mpr
    ⟨by decide, rfl, (hstrkey.account _).mpr issuer_isAccount⟩

/-! ### Requests -/

theorem exists_minorUnits {amount : Nat} (hrange : 1 ≤ amount ∧ amount ≤ 25000) :
    ∃ cents : UsdcMinorUnits, cents.value.toNat = amount := by
  have hfits : amount < 2 ^ 64 := by omega
  have hvalue : (UInt64.ofNat amount).toNat = amount := UInt64.toNat_ofNat_of_lt' hfits
  refine ⟨⟨.ofNat amount, ?_⟩, hvalue⟩
  intro hzero
  rw [hzero] at hvalue
  have h0 : (0 : UInt64).toNat = 0 := rfl
  omega

/-- The parameters that the acquirer accepts for an amount yield the payment of the amount. -/
theorem payment_of_accepted {crates : Crates} (hstrkey : crates.ReadsStrkeys) {url : UrlRecord}
    {amount : Nat} (haccepted : AcceptedSep7Request url amount)
    (hrange : 1 ≤ amount ∧ amount ≤ 25000) (depositDestination : StellarAddress) :
    ∃ payment, paymentOfParameters crates (.testnetUsdc depositDestination) url.queryPairs = .ok payment ∧
      url.queryPairs.lookup "destination" = some payment.destination.value ∧
      payment.amount.value.toNat = amount ∧ payment.memo = url.queryPairs.lookup "memo" ∧
      payment.memoType = url.queryPairs.lookup "memo_type" := by
  obtain ⟨destination, hdestination, hvalid⟩ := haccepted.destination
  obtain ⟨text, htext, hmatches⟩ := haccepted.amount
  obtain ⟨whole, fraction, hplain, hstroops⟩ := plainDecimal_of_matches hmatches
  obtain ⟨cents, hcents⟩ := exists_minorUnits hrange
  have hdecimal : UsdcMinorUnits.fromStellarDecimal text = .ok cents := by
    have hfits : amount * 100000 < 2 ^ 64 := by
      have hbound := hrange.2
      omega
    have hpaid : (UInt64.ofNat (amount * 100000)).toNat = amount * 100000 :=
      UInt64.toNat_ofNat_of_lt' hfits
    apply fromStellarDecimal_eq_ok.mpr
    refine ⟨⟨.ofNat (amount * 100000)⟩, StellarAmount.parse_eq_ok.mpr ?_, by rw [hpaid, hcents]⟩
    exact ⟨whole, fraction, hplain, by rw [hpaid, hstroops]⟩
  have hlimits : (StellarProfile.testnetUsdc depositDestination).validateAmount cents = true := by
    apply decide_eq_true
    rw [UInt64.le_iff_toNat_le, UInt64.le_iff_toNat_le, hcents]
    exact hrange
  let payment : Sep7Payment := {
    destination := ⟨destination⟩
    amount := cents
    assetCode := "USDC"
    assetIssuer := ⟨circleTestnetUsdcIssuer⟩
    networkPassphrase := stellarTestnetPassphrase
    memo := url.queryPairs.lookup "memo"
    memoType := url.queryPairs.lookup "memo_type" }
  refine ⟨payment, ?_, hdestination, hcents, rfl, rfl⟩
  apply paymentOfParameters_eq_ok.mpr
  refine ⟨⟨hdestination, address_of_valid hstrkey hvalid⟩, ⟨text, htext, hdecimal, hlimits⟩,
    ⟨haccepted.assetCode, show "USDC" ≠ "" by decide, rfl⟩, ⟨haccepted.assetIssuer, issuer_newAccount hstrkey, rfl⟩,
    ⟨haccepted.networkPassphrase, show stellarTestnetPassphrase ≠ "" by decide, rfl⟩, rfl, rfl,
    haccepted.memo, ?_⟩
  intro kind hkind
  exact supportedMemoTypes_iff.mpr (haccepted.memoType kind hkind)

/-- A payment request that the acquirer accepts for an amount is read by the processor, as the same
destination, memo and memo type and as this amount, exactly when it has no number sign. -/
theorem acceptedRequest_parsed {crates : Crates} (hstrkey : crates.ReadsStrkeys)
    (hfragments : crates.MarksFragments) (depositDestination : StellarAddress) {amount : Nat}
    {text : String} {request : CashuStellarMeltQuoteRequest}
    (haccepted : createCashuStellarMeltQuoteRequestV1 crates.parseUrl amount text = .ok request) :
    (∃ payment, parsePaymentRequest crates (.testnetUsdc depositDestination) text = .ok payment ∧
      payment.destination.value = request.request.destination.val ∧
      payment.amount.value.toNat = amount ∧
      payment.memo = searchParameter crates.parseUrl text "memo" ∧
      payment.memoType = searchParameter crates.parseUrl text "memo_type") ↔
    '#' ∉ text.toList := by
  obtain ⟨hrange, -, -, hdestination, url, hurl, hform⟩ :=
    createCashuStellarMeltQuoteRequestV1_eq_ok haccepted
  have hsearch : ∀ name, searchParameter crates.parseUrl text name = url.queryPairs.lookup name := by
    intro name
    rw [searchParameter, hurl]
    rfl
  rw [← hfragments text url hurl]
  constructor
  · intro h
    obtain ⟨payment, hparse, -⟩ := h
    obtain ⟨other, hother, ⟨-, -, hfragment⟩, -⟩ := parsePaymentRequest_eq_ok.mp hparse
    rw [Option.some.inj (hurl.symm.trans hother)]
    exact hfragment
  · intro hfragment
    obtain ⟨payment, hpayment, hlookup, hamount, hmemo, hmemoType⟩ :=
      payment_of_accepted hstrkey hform hrange depositDestination
    obtain ⟨hknown, hnodup, -⟩ := insertParameters_eq_ok.mp (setParameters_eq_ok.mp hform.parameters)
    refine ⟨payment, parsePaymentRequest_eq_ok.mpr ?_, ?_, hamount, ?_, ?_⟩
    · exact ⟨url, hurl, ⟨hform.scheme, hform.path, hfragment⟩, fun pair hpair => (hknown pair hpair).1,
        hnodup, hpayment⟩
    · rw [hdestination, hsearch, hlookup]
      rfl
    · rw [hmemo, hsearch]
    · rw [hmemoType, hsearch]

/-! ### A request with and without an empty fragment -/

namespace AgreementSample

def destination : CashuStellarSettlementDestination :=
  ⟨"GATTMQEODSDX45WZK2JFIYETXWYCU5GRJ5I3Z7P2UDYD6YFVONDM4CX4", Sample.destination_valid⟩

def requestText : List Char :=
  "web+stellar:pay?destination=".toList ++ destination.val.toList ++ "&amount=012.3400000".toList ++
    "&asset_code=USDC&asset_issuer=".toList ++ circleTestnetUsdcIssuer.toList ++
    "&network_passphrase=".toList ++ "Test+SDF+Network+%3B+September+2015".toList

def request : String := .ofList requestText

def markedRequest : String := .ofList (requestText ++ ['#'])

/-- The URL of the request, with a fragment or without. -/
def url (fragment : Option String) : UrlRecord where
  scheme := "web+stellar"
  username := ""
  password := ""
  host := none
  path := "pay"
  queryPairs := [("destination", destination.val), ("amount", "012.3400000"), ("asset_code", "USDC"),
    ("asset_issuer", circleTestnetUsdcIssuer), ("network_passphrase", stellarTestnetPassphrase)]
  fragment

def parseUrl (text : String) : Option UrlRecord :=
  if text.toList = requestText then some (url none)
  else if text.toList = requestText ++ ['#'] then some (url (some ""))
  else none

def crates : Crates where
  strkey text :=
    if isValidStellarDestination text = true then
      if text.toList.head? = some 'M' then some .muxedAccountEd25519 else some .publicKeyEd25519
    else none
  parseUrl := parseUrl
  serializeQuery := encodePairs
  sha256 _ := []
  base64 _ := ""

theorem readsStrkeys : crates.ReadsStrkeys where
  account text := by
    have hvalid := @isValidStellarDestination_iff text
    constructor
    · intro h
      simp only [crates] at h
      split at h
      · case isTrue haccepted =>
        rcases hvalid.mp haccepted with ⟨haccount, -⟩ | ⟨-, hhead⟩
        · exact haccount
        · rw [if_pos hhead] at h
          cases h
      · cases h
    · intro h
      have haccepted := hvalid.mpr (.inl ⟨h, h.head⟩)
      simp [crates, haccepted, h.head]
  muxed text := by
    have hvalid := @isValidStellarDestination_iff text
    constructor
    · intro h
      simp only [crates] at h
      split at h
      · case isTrue haccepted =>
        rcases hvalid.mp haccepted with ⟨-, hhead⟩ | ⟨hmuxed, -⟩
        · rw [if_neg (by rw [hhead]; decide)] at h
          cases h
        · exact hmuxed
      · cases h
    · intro h
      have haccepted := hvalid.mpr (.inr ⟨h, h.head⟩)
      simp [crates, haccepted, h.head]

theorem request_unmarked : '#' ∉ requestText := by
  decide +kernel

theorem request_marked : '#' ∈ requestText ++ ['#'] :=
  List.mem_append_right _ (by decide)

theorem marksFragments : crates.MarksFragments := by
  intro text record hurl
  simp only [crates, parseUrl] at hurl
  split at hurl
  · case isTrue htext =>
    rw [← Option.some.inj hurl, htext]
    exact iff_of_true rfl request_unmarked
  · split at hurl
    · case isTrue htext =>
      rw [← Option.some.inj hurl, htext]
      exact iff_of_false (by decide) (not_not.mpr request_marked)
    · cases hurl

theorem accepted : createCashuStellarMeltQuoteRequestV1 crates.parseUrl 1234 request =
    .ok ⟨1234, ⟨request, destination⟩⟩ := by
  simp only [createCashuStellarMeltQuoteRequestV1, validateSep7PaymentRequest, utf16Length,
    containsRawControlOrWhitespace, searchParameter, crates, parseUrl, request, String.toList_ofList]
  decide +kernel

theorem accepted_marked : createCashuStellarMeltQuoteRequestV1 crates.parseUrl 1234 markedRequest =
    .ok ⟨1234, ⟨markedRequest, destination⟩⟩ := by
  simp only [createCashuStellarMeltQuoteRequestV1, validateSep7PaymentRequest, utf16Length,
    containsRawControlOrWhitespace, searchParameter, crates, parseUrl, markedRequest,
    String.toList_ofList]
  decide +kernel

end AgreementSample

theorem acceptedRequest_parsed_unmarked :
    ∃ payment, parsePaymentRequest AgreementSample.crates
        (.testnetUsdc ⟨AgreementSample.destination.val⟩) AgreementSample.request = .ok payment ∧
      payment.destination.value = AgreementSample.destination.val ∧
      payment.amount.value.toNat = 1234 ∧
      payment.memo = searchParameter AgreementSample.crates.parseUrl AgreementSample.request "memo" ∧
      payment.memoType =
        searchParameter AgreementSample.crates.parseUrl AgreementSample.request "memo_type" :=
  (acceptedRequest_parsed AgreementSample.readsStrkeys AgreementSample.marksFragments
    ⟨AgreementSample.destination.val⟩ AgreementSample.accepted).mpr
    (String.toList_ofList ▸ AgreementSample.request_unmarked)

/-- The empty fragment is taken by the acquirer and refused by the processor. -/
theorem acceptedRequest_refused :
    AgreementSample.crates.ReadsStrkeys ∧ AgreementSample.crates.MarksFragments ∧
      createCashuStellarMeltQuoteRequestV1 AgreementSample.crates.parseUrl 1234
        AgreementSample.markedRequest =
          .ok ⟨1234, ⟨AgreementSample.markedRequest, AgreementSample.destination⟩⟩ ∧
      ∀ payment, parsePaymentRequest AgreementSample.crates
        (.testnetUsdc ⟨AgreementSample.destination.val⟩) AgreementSample.markedRequest ≠ .ok payment := by
  refine ⟨AgreementSample.readsStrkeys, AgreementSample.marksFragments, AgreementSample.accepted_marked, ?_⟩
  intro payment hparse
  obtain ⟨url, hurl, ⟨-, -, hfragment⟩, -⟩ := parsePaymentRequest_eq_ok.mp hparse
  exact (AgreementSample.marksFragments _ _ hurl).mp hfragment
    (String.toList_ofList ▸ AgreementSample.request_marked)

end CashMesh.StellarSettlement
