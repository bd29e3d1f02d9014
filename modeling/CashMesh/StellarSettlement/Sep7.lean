import CashMesh.Lib.FormUrlencoded
import CashMesh.StellarSettlement.Decimals
import CashMesh.StellarSettlement.Profile
/-!
# SEP-0007 payment requests

The payment requests of `sep7.rs`: how one is built for a deposit, printed as a URI, and parsed against
a profile. Parsing keeps the pairs of the query as they come, once none of them is unknown or repeated,
so what a request yields is a statement about looking its parameters up.
-/

namespace CashMesh.StellarSettlement

open CashMesh.Lib

inductive Sep7Error where
  | invalidUri
  | unsupportedOperation
  | unsupportedParameter (key : String)
  | duplicateParameter
  | missingParameter (name : String)
  | wrongAssetCode
  | wrongAssetIssuer
  | wrongNetwork
  | incompleteMemo
  | unsupportedMemoType
  | invalidValue (error : ValueError)
  | invalidProfile (error : ProfileError)
  deriving DecidableEq

def sep7Scheme : String := "web+stellar"

def sep7Operation : String := "pay"

def memoHash : String := "MEMO_HASH"

/-! ### Building and printing -/

/-- The pairs of the query, in the order in which `to_uri` appends them. -/
def Sep7Payment.queryPairs (payment : Sep7Payment) : List (String × String) :=
  [("destination", payment.destination.value),
    ("amount", payment.amount.toDecimal),
    ("asset_code", payment.assetCode),
    ("asset_issuer", payment.assetIssuer.value)] ++
  (match payment.memo with
    | some memo => [("memo", memo)]
    | none => []) ++
  (match payment.memoType with
    | some memoType => [("memo_type", memoType)]
    | none => []) ++
  [("network_passphrase", payment.networkPassphrase)]

/-- `Sep7Payment::to_uri`. -/
def Sep7Payment.toUri (crates : Crates) (payment : Sep7Payment) : String :=
  "web+stellar:pay?" ++ crates.serializeQuery payment.queryPairs

/-- `validate_amount` with the error that it returns. -/
def checkAmountLimits (profile : StellarProfile) (amount : UsdcMinorUnits) : Except Sep7Error Unit :=
  ensure (profile.validateAmount amount = true)
    (Sep7Error.invalidProfile
      (.amountOutsideLimits amount.value profile.minAmount.value profile.maxAmount.value))

/-- `build_deposit_request`. -/
def buildDepositRequest (crates : Crates) (profile : StellarProfile) (quoteId : QuoteReference)
    (amount : UsdcMinorUnits) : Except Sep7Error Sep7Payment := do
  checkAmountLimits profile amount
  let memo := crates.base64 (crates.sha256 quoteId.value)
  .ok {
    destination := profile.depositDestination
    amount
    assetCode := profile.asset.code
    assetIssuer := profile.asset.issuer
    networkPassphrase := profile.network.passphrase
    memo := some memo
    memoType := some memoHash }

/-! ### Parsing -/

def sep7Parameters : List String :=
  ["destination", "amount", "asset_code", "asset_issuer", "network_passphrase", "memo", "memo_type"]

/-- One pair of the query, which must be known and new. -/
def insertParameter (parameters : List (String × String)) (pair : String × String) :
    Except Sep7Error (List (String × String)) := do
  ensure (pair.1 ∈ sep7Parameters) (Sep7Error.unsupportedParameter pair.1)
  ensure (parameters.lookup pair.1 = none) Sep7Error.duplicateParameter
  .ok (parameters ++ [pair])

/-- A parameter that must be there and not empty. -/
def required (parameters : List (String × String)) (name : String) : Except Sep7Error String :=
  orFail ((parameters.lookup name).filter (· ≠ "")) (.missingParameter name)

def supportedMemoTypes : List String := ["MEMO_TEXT", "MEMO_ID", "MEMO_HASH", "MEMO_RETURN"]

/-- The payment of the parameters of a request. -/
def paymentOfParameters (crates : Crates) (profile : StellarProfile)
    (parameters : List (String × String)) : Except Sep7Error Sep7Payment := do
  let rawDestination ← required parameters "destination"
  let destination ← (StellarAddress.new crates rawDestination).mapError Sep7Error.invalidValue
  let rawAmount ← required parameters "amount"
  let amount ← (UsdcMinorUnits.fromStellarDecimal rawAmount).mapError Sep7Error.invalidValue
  checkAmountLimits profile amount
  let assetCode ← required parameters "asset_code"
  ensure (assetCode = profile.asset.code) Sep7Error.wrongAssetCode
  let rawIssuer ← required parameters "asset_issuer"
  let assetIssuer ← (StellarAddress.newAccount crates rawIssuer).mapError Sep7Error.invalidValue
  ensure (assetIssuer = profile.asset.issuer) Sep7Error.wrongAssetIssuer
  let networkPassphrase ← required parameters "network_passphrase"
  ensure (networkPassphrase = profile.network.passphrase) Sep7Error.wrongNetwork
  let memo := parameters.lookup "memo"
  let memoType := parameters.lookup "memo_type"
  ensure (memo.isSome = memoType.isSome) Sep7Error.incompleteMemo
  ensure (∀ kind ∈ memoType, kind ∈ supportedMemoTypes) Sep7Error.unsupportedMemoType
  .ok { destination, amount, assetCode, assetIssuer, networkPassphrase, memo, memoType }

/-- `parse_payment_request`. -/
def parsePaymentRequest (crates : Crates) (profile : StellarProfile) (request : String) :
    Except Sep7Error Sep7Payment := do
  let url ← orFail (crates.parseUrl request) Sep7Error.invalidUri
  ensure (url.scheme = sep7Scheme ∧ url.path = sep7Operation ∧ url.fragment = none)
    Sep7Error.unsupportedOperation
  let parameters ← url.queryPairs.foldlM insertParameter []
  paymentOfParameters crates profile parameters

/-! ### The parameters of a request -/

theorem lookup_eq_none {parameters : List (String × String)} {name : String} :
    parameters.lookup name = none ↔ name ∉ parameters.map Prod.fst := by
  rw [List.lookup_eq_none_iff]
  constructor
  · intro habsent hmem
    obtain ⟨pair, hpair, rfl⟩ := List.mem_map.mp hmem
    exact bne_iff_ne.mp (habsent pair hpair) rfl
  · intro habsent pair hpair
    apply bne_iff_ne.mpr
    rintro rfl
    exact habsent (List.mem_map_of_mem hpair)

theorem insertParameter_eq_ok {parameters result : List (String × String)} {pair : String × String} :
    insertParameter parameters pair = .ok result ↔
      pair.1 ∈ sep7Parameters ∧ pair.1 ∉ parameters.map Prod.fst ∧ result = parameters ++ [pair] := by
  simp only [insertParameter, bind_eq_ok, ensure_eq_ok, exists_unit, lookup_eq_none, Except.ok.injEq]
  rw [eq_comm (a := result)]

theorem insertParameters_eq_ok {pairs parameters result : List (String × String)} :
    pairs.foldlM insertParameter parameters = .ok result ↔
      (∀ pair ∈ pairs, pair.1 ∈ sep7Parameters ∧ pair.1 ∉ parameters.map Prod.fst) ∧
        (pairs.map Prod.fst).Nodup ∧ result = parameters ++ pairs := by
  induction pairs generalizing parameters with
  | nil => simp [eq_comm]
  | cons pair pairs ih =>
    simp only [List.foldlM_cons, bind_eq_ok, insertParameter_eq_ok]
    constructor
    · rintro ⟨_, ⟨hknown, hnew, rfl⟩, hrest⟩
      obtain ⟨hall, hnodup, rfl⟩ := ih.mp hrest
      refine ⟨?_, ?_, by simp⟩
      · intro other hother
        rcases List.mem_cons.mp hother with rfl | hother
        · exact ⟨hknown, hnew⟩
        · have hrest := (hall other hother).2
          rw [List.map_append, List.mem_append, not_or] at hrest
          exact ⟨(hall other hother).1, hrest.1⟩
      · rw [List.map_cons, List.nodup_cons]
        refine ⟨?_, hnodup⟩
        intro hmem
        obtain ⟨other, hother, hname⟩ := List.mem_map.mp hmem
        have hrest := (hall other hother).2
        simp [hname] at hrest
    · rintro ⟨hall, hnodup, rfl⟩
      rw [List.map_cons, List.nodup_cons] at hnodup
      obtain ⟨hknown, hnew⟩ := hall pair (by simp)
      refine ⟨_, ⟨hknown, hnew, rfl⟩, ih.mpr ⟨?_, hnodup.2, by simp⟩⟩
      intro other hother
      obtain ⟨hknown', hnew'⟩ := hall other (by simp [hother])
      refine ⟨hknown', ?_⟩
      rw [List.map_append, List.mem_append, not_or]
      refine ⟨hnew', ?_⟩
      intro hmem
      have hname : other.1 = pair.1 := by simpa using hmem
      exact hnodup.1 (hname ▸ List.mem_map_of_mem hother)

theorem required_eq_ok {parameters : List (String × String)} {name value : String} :
    required parameters name = .ok value ↔ parameters.lookup name = some value ∧ value ≠ "" := by
  simp [required, Option.filter_eq_some_iff]

theorem parsePaymentRequest_eq_ok {crates : Crates} {profile : StellarProfile} {request : String}
    {payment : Sep7Payment} :
    parsePaymentRequest crates profile request = .ok payment ↔
      ∃ url, crates.parseUrl request = some url ∧
        (url.scheme = sep7Scheme ∧ url.path = sep7Operation ∧ url.fragment = none) ∧
        (∀ pair ∈ url.queryPairs, pair.1 ∈ sep7Parameters) ∧
        (url.queryPairs.map Prod.fst).Nodup ∧
        paymentOfParameters crates profile url.queryPairs = .ok payment := by
  simp only [parsePaymentRequest, bind_eq_ok, orFail_eq_ok, ensure_eq_ok, exists_unit,
    insertParameters_eq_ok, List.map_nil, List.not_mem_nil, not_false_eq_true, and_true,
    List.nil_append]
  constructor
  · rintro ⟨url, hurl, hform, _, ⟨hknown, hnodup, rfl⟩, hpayment⟩
    exact ⟨url, hurl, hform, hknown, hnodup, hpayment⟩
  · rintro ⟨url, hurl, hform, hknown, hnodup, hpayment⟩
    exact ⟨url, hurl, hform, url.queryPairs, ⟨hknown, hnodup, rfl⟩, hpayment⟩

theorem paymentOfParameters_eq_ok {crates : Crates} {profile : StellarProfile}
    {parameters : List (String × String)} {payment : Sep7Payment} :
    paymentOfParameters crates profile parameters = .ok payment ↔
      (parameters.lookup "destination" = some payment.destination.value ∧
        StellarAddress.new crates payment.destination.value = .ok payment.destination) ∧
      (∃ amount, parameters.lookup "amount" = some amount ∧
        UsdcMinorUnits.fromStellarDecimal amount = .ok payment.amount ∧
        profile.validateAmount payment.amount = true) ∧
      (parameters.lookup "asset_code" = some payment.assetCode ∧ payment.assetCode ≠ "" ∧
        payment.assetCode = profile.asset.code) ∧
      (parameters.lookup "asset_issuer" = some payment.assetIssuer.value ∧
        StellarAddress.newAccount crates payment.assetIssuer.value = .ok payment.assetIssuer ∧
        payment.assetIssuer = profile.asset.issuer) ∧
      (parameters.lookup "network_passphrase" = some payment.networkPassphrase ∧
        payment.networkPassphrase ≠ "" ∧
        payment.networkPassphrase = profile.network.passphrase) ∧
      (parameters.lookup "memo" = payment.memo ∧ parameters.lookup "memo_type" = payment.memoType ∧
        payment.memo.isSome = payment.memoType.isSome ∧
        ∀ kind ∈ payment.memoType, kind ∈ supportedMemoTypes) := by
  simp only [paymentOfParameters, checkAmountLimits, bind_eq_ok, mapError_eq_ok, ensure_eq_ok,
    exists_unit, required_eq_ok, Except.ok.injEq]
  constructor
  · rintro ⟨rawDestination, ⟨hdestination, -⟩, destination, hnew, rawAmount, ⟨hamount, -⟩, amount,
      hdecimal, hlimits, assetCode, ⟨hcode, hcodeSet⟩, hprofileCode, rawIssuer, ⟨hissuer, -⟩,
      assetIssuer, haccount, hprofileIssuer, networkPassphrase, ⟨hnetwork, hnetworkSet⟩,
      hprofileNetwork, hmemos, hkinds, rfl⟩
    obtain ⟨-, rfl, -⟩ := StellarAddress.new_eq_ok.mp hnew
    obtain ⟨-, rfl, -⟩ := StellarAddress.newAccount_eq_ok.mp haccount
    exact ⟨⟨hdestination, hnew⟩, ⟨rawAmount, hamount, hdecimal, hlimits⟩,
      ⟨hcode, hcodeSet, hprofileCode⟩, ⟨hissuer, haccount, hprofileIssuer⟩,
      ⟨hnetwork, hnetworkSet, hprofileNetwork⟩, rfl, rfl, hmemos, hkinds⟩
  · rintro ⟨⟨hdestination, hnew⟩, ⟨rawAmount, hamount, hdecimal, hlimits⟩,
      ⟨hcode, hcodeSet, hprofileCode⟩, ⟨hissuer, haccount, hprofileIssuer⟩,
      ⟨hnetwork, hnetworkSet, hprofileNetwork⟩, hmemo, hmemoType, hmemos, hkinds⟩
    have hdestinationSet := ne_empty_of_not_blank (StellarAddress.new_eq_ok.mp hnew).1
    have hissuerSet := ne_empty_of_not_blank (StellarAddress.newAccount_eq_ok.mp haccount).1
    have hamountSet : rawAmount ≠ "" := by
      rintro rfl
      have hrefused : UsdcMinorUnits.fromStellarDecimal "" = .error .invalidDecimalAmount := rfl
      rw [hrefused] at hdecimal
      exact Except.noConfusion rfl rfl (heq_of_eq hdecimal)
    refine ⟨_, ⟨hdestination, hdestinationSet⟩, _, hnew, rawAmount, ⟨hamount, hamountSet⟩, _,
      hdecimal, hlimits, _, ⟨hcode, hcodeSet⟩, hprofileCode, _, ⟨hissuer, hissuerSet⟩, _, haccount,
      hprofileIssuer, _, ⟨hnetwork, hnetworkSet⟩, hprofileNetwork, ?_, ?_, ?_⟩
    · rw [hmemo, hmemoType, hmemos]
    · rwa [hmemoType]
    · rw [hmemo, hmemoType]

/-! ### Printing and parsing again -/

/-- A payment that carries what its profile demands and whose texts are read back. -/
structure Sep7Payment.IsReadable (crates : Crates) (profile : StellarProfile)
    (payment : Sep7Payment) : Prop where
  destination : StellarAddress.new crates payment.destination.value = .ok payment.destination
  limits : profile.validateAmount payment.amount = true
  assetCode_ne : payment.assetCode ≠ ""
  assetCode : payment.assetCode = profile.asset.code
  issuer : StellarAddress.newAccount crates payment.assetIssuer.value = .ok payment.assetIssuer
  assetIssuer : payment.assetIssuer = profile.asset.issuer
  networkPassphrase : payment.networkPassphrase = profile.network.passphrase
  memos : payment.memo.isSome = payment.memoType.isSome
  memoType : ∀ kind ∈ payment.memoType, kind ∈ supportedMemoTypes

namespace Sep7Payment

variable {crates : Crates} {profile : StellarProfile} {payment : Sep7Payment}

theorem queryPairs_known : ∀ pair ∈ payment.queryPairs, pair.1 ∈ sep7Parameters := by
  cases hmemo : payment.memo <;> cases htype : payment.memoType <;>
    simp [queryPairs, hmemo, htype, sep7Parameters]

theorem queryPairs_nodup : (payment.queryPairs.map Prod.fst).Nodup := by
  cases hmemo : payment.memo <;> cases htype : payment.memoType <;>
    simp [queryPairs, hmemo, htype]

theorem queryPairs_lookup (payment : Sep7Payment) :
    payment.queryPairs.lookup "destination" = some payment.destination.value ∧
      payment.queryPairs.lookup "amount" = some payment.amount.toDecimal ∧
      payment.queryPairs.lookup "asset_code" = some payment.assetCode ∧
      payment.queryPairs.lookup "asset_issuer" = some payment.assetIssuer.value ∧
      payment.queryPairs.lookup "network_passphrase" = some payment.networkPassphrase ∧
      payment.queryPairs.lookup "memo" = payment.memo ∧
      payment.queryPairs.lookup "memo_type" = payment.memoType := by
  cases hmemo : payment.memo <;> cases htype : payment.memoType <;>
    simp [queryPairs, hmemo, htype, List.lookup_cons]

/-- A printed request is read as its payment exactly when its stroops fit 64 bits and its network
has a passphrase. -/
theorem parse_toUri (hqueries : crates.InvertsQueries)
    (hreadable : payment.IsReadable crates profile) :
    parsePaymentRequest crates profile (payment.toUri crates) = .ok payment ↔
      payment.amount.value.toNat * 100000 < 2 ^ 64 ∧ profile.network.passphrase ≠ "" := by
  obtain ⟨hdestination, hamount, hcode, hissuer, hnetwork, hmemo, hmemoType⟩ :=
    queryPairs_lookup payment
  have hurl := hqueries payment.queryPairs
  rw [parsePaymentRequest_eq_ok, ← fromStellarDecimal_toDecimal, ← hreadable.networkPassphrase]
  constructor
  · rintro ⟨url, hparse, -, -, -, hpayment⟩
    rw [toUri, hurl] at hparse
    obtain rfl := Option.some.inj hparse
    obtain ⟨-, ⟨amount, hlookup, hdecimal, -⟩, -, -, ⟨-, hset, -⟩, -⟩ :=
      paymentOfParameters_eq_ok.mp hpayment
    have hprinted : payment.amount.toDecimal = amount := by
      rw [hamount] at hlookup
      exact Option.some.inj hlookup
    exact ⟨hprinted ▸ hdecimal, hset⟩
  · rintro ⟨hdecimal, hset⟩
    refine ⟨_, hurl, ⟨rfl, rfl, rfl⟩, queryPairs_known, queryPairs_nodup, ?_⟩
    apply paymentOfParameters_eq_ok.mpr
    exact ⟨⟨hdestination, hreadable.destination⟩, ⟨_, hamount, hdecimal, hreadable.limits⟩,
      ⟨hcode, hreadable.assetCode_ne, hreadable.assetCode⟩,
      ⟨hissuer, hreadable.issuer, hreadable.assetIssuer⟩,
      ⟨hnetwork, hset, hreadable.networkPassphrase⟩,
      hmemo, hmemoType, hreadable.memos, hreadable.memoType⟩

end Sep7Payment

theorem StellarAsset.new_eq_ok {crates : Crates} {code issuer : String} {asset : StellarAsset}
    (hnew : StellarAsset.new crates code issuer = .ok asset) :
    asset.code ≠ "" ∧ StellarAddress.newAccount crates asset.issuer.value = .ok asset.issuer := by
  simp only [StellarAsset.new, bind_eq_ok, ensure_eq_ok, exists_unit, mapError_eq_ok,
    Except.ok.injEq] at hnew
  obtain ⟨⟨hlength, -, -⟩, address, haccount, rfl⟩ := hnew
  obtain ⟨-, rfl, -⟩ := StellarAddress.newAccount_eq_ok.mp haccount
  refine ⟨?_, haccount⟩
  intro hempty
  have hcode : code = "" := hempty
  rw [hcode] at hlength
  exact absurd hlength (by decide)

theorem isReadable_of_build {crates : Crates} {profile : StellarProfile}
    (hprofile : profile.IsConstructed crates) {quoteId : QuoteReference} {amount : UsdcMinorUnits}
    {payment : Sep7Payment} (hbuild : buildDepositRequest crates profile quoteId amount = .ok payment) :
    payment.IsReadable crates profile ∧ payment.amount = amount := by
  simp only [buildDepositRequest, checkAmountLimits, bind_eq_ok, ensure_eq_ok, exists_unit,
    Except.ok.injEq] at hbuild
  obtain ⟨hlimits, rfl⟩ := hbuild
  obtain ⟨code, issuer, hasset⟩ := hprofile.asset
  obtain ⟨raw, hdestination⟩ := hprofile.destination
  obtain ⟨hcode, hissuer⟩ := StellarAsset.new_eq_ok hasset
  refine ⟨?_, rfl⟩
  exact {
    destination := by
      obtain ⟨hblank, haddress, hkey⟩ := StellarAddress.new_eq_ok.mp hdestination
      rw [haddress]
      exact StellarAddress.new_eq_ok.mpr ⟨hblank, rfl, hkey⟩
    limits := hlimits
    assetCode_ne := hcode
    assetCode := rfl
    issuer := hissuer
    assetIssuer := rfl
    networkPassphrase := rfl
    memos := rfl
    memoType := show ∀ kind ∈ some memoHash, kind ∈ supportedMemoTypes by decide }

/-- What a request yields is read back, and its amount fits. -/
theorem isReadable_of_parse {crates : Crates} {profile : StellarProfile} {request : String}
    {payment : Sep7Payment} (hparse : parsePaymentRequest crates profile request = .ok payment) :
    payment.IsReadable crates profile ∧ payment.amount.value.toNat * 100000 < 2 ^ 64 ∧
      profile.network.passphrase ≠ "" := by
  obtain ⟨url, -, -, -, -, hpayment⟩ := parsePaymentRequest_eq_ok.mp hparse
  obtain ⟨⟨-, hdestination⟩, ⟨amount, -, hdecimal, hlimits⟩, ⟨-, hcodeSet, hcode⟩,
    ⟨-, haccount, hissuer⟩, ⟨-, hnetworkSet, hnetwork⟩, -, -, hmemos, hkinds⟩ :=
    paymentOfParameters_eq_ok.mp hpayment
  obtain ⟨paid, -, hpaid⟩ := fromStellarDecimal_eq_ok.mp hdecimal
  have hfits : payment.amount.value.toNat * 100000 < 2 ^ 64 := hpaid ▸ paid.stroops.toNat_lt
  exact ⟨⟨hdestination, hlimits, hcodeSet, hcode, haccount, hissuer, hnetwork, hmemos, hkinds⟩,
    hfits, hnetwork ▸ hnetworkSet⟩

/-- A deposit request is read back exactly when its stroops fit 64 bits and its network has a
passphrase, and a request that was read is read back always. -/
theorem sep7_roundTrip {crates : Crates} (hqueries : crates.InvertsQueries) {profile : StellarProfile}
    (hprofile : profile.IsConstructed crates) (payment : Sep7Payment) :
    (∀ quoteId amount, buildDepositRequest crates profile quoteId amount = .ok payment →
      (parsePaymentRequest crates profile (payment.toUri crates) = .ok payment ↔
        amount.value.toNat * 100000 < 2 ^ 64 ∧ profile.network.passphrase ≠ "")) ∧
    (∀ request, parsePaymentRequest crates profile request = .ok payment →
      parsePaymentRequest crates profile (payment.toUri crates) = .ok payment) := by
  constructor
  · intro quoteId amount hbuild
    obtain ⟨hreadable, rfl⟩ := isReadable_of_build hprofile hbuild
    exact payment.parse_toUri hqueries hreadable
  · intro request hparse
    obtain ⟨hreadable, hfits⟩ := isReadable_of_parse hparse
    exact (payment.parse_toUri hqueries hreadable).mpr hfits

/-! ### A deposit of the testnet profile -/

namespace Sep7Sample

def destination : String := "GATTMQEODSDX45WZK2JFIYETXWYCU5GRJ5I3Z7P2UDYD6YFVONDM4CX4"

def quoteId : QuoteReference := ⟨"550e8400-e29b-41d4-a716-446655440000", by decide⟩

/-- The digests of the two texts that are hashed here. -/
def sha256 (text : String) : List UInt8 :=
  if text = quoteId.value then
    [163, 169, 225, 237, 151, 50, 202, 178, 136, 104, 18, 123, 224, 15, 28, 233, 33, 172, 174,
      253, 213, 195, 178, 58, 110, 158, 0, 114, 189, 156, 26, 52]
  else if text = stellarTestnetPassphrase then
    [206, 224, 48, 45, 89, 132, 77, 50, 189, 202, 145, 92, 130, 3, 221, 68, 179, 63, 187, 126,
      220, 25, 5, 30, 163, 122, 190, 223, 40, 236, 212, 114]
  else []

/-- The requests that `to_uri` prints, and the endpoint of the network. -/
def parseUrl (text : String) : Option UrlRecord :=
  if text.toList.take 16 = "web+stellar:pay?".toList then do
    let queryPairs ← decodePairs (.ofList (text.toList.drop 16))
    some {
      scheme := "web+stellar"
      username := ""
      password := ""
      host := none
      path := "pay"
      queryPairs
      fragment := none }
  else if text = stellarTestnetHorizonUrl then
    some {
      scheme := "https"
      username := ""
      password := ""
      host := some "horizon-testnet.stellar.org"
      path := "/"
      queryPairs := []
      fragment := none }
  else none

def crates : Crates where
  strkey text :=
    if text = destination ∨ text = circleTestnetUsdcIssuer then some .publicKeyEd25519 else none
  parseUrl := parseUrl
  serializeQuery := encodePairs
  sha256 := sha256
  base64 bytes := if bytes = sha256 quoteId.value then "o6nh7ZcyyrKIaBJ74A8c6SGsrv3Vw7I6bp4Acr2cGjQ=" else ""

/-- The testnet profile with another upper limit. -/
def profile (maxAmount : UsdcMinorUnits) : StellarProfile :=
  { StellarProfile.testnetUsdc ⟨destination⟩ with maxAmount }

theorem invertsQueries : crates.InvertsQueries := by
  intro pairs
  have hstart : ("web+stellar:pay?" ++ encodePairs pairs).toList =
      "web+stellar:pay?".toList ++ (encodePairs pairs).toList := String.toList_append
  have hlength : "web+stellar:pay?".toList.length = 16 := by decide
  have htake : ("web+stellar:pay?" ++ encodePairs pairs).toList.take 16 =
      "web+stellar:pay?".toList := by
    rw [hstart, ← hlength, List.take_left]
  have hdrop : ("web+stellar:pay?" ++ encodePairs pairs).toList.drop 16 =
      (encodePairs pairs).toList := by
    rw [hstart, ← hlength, List.drop_left]
  show parseUrl ("web+stellar:pay?" ++ encodePairs pairs) = _
  rw [parseUrl, if_pos htake, hdrop, String.ofList_toList, decodePairs_encodePairs]
  rfl

theorem isConstructed (maxAmount : UsdcMinorUnits) : (profile maxAmount).IsConstructed crates where
  network := ⟨stellarTestnetPassphrase, stellarTestnetNetworkId, stellarTestnetHorizonUrl,
    show _ = Except.ok StellarNetwork.testnet by decide +kernel⟩
  asset := ⟨"USDC", circleTestnetUsdcIssuer,
    show _ = Except.ok StellarAsset.testnetUsdc by decide +kernel⟩
  destination := ⟨destination,
    show _ = Except.ok (⟨destination⟩ : StellarAddress) by decide +kernel⟩
  profile := by
    refine ⟨⟨1, by decide⟩, maxAmount, 900, ?_⟩
    have hrange : ¬maxAmount.value < 1 := by
      intro hzero
      apply maxAmount.positive
      apply UInt64.toNat_inj.mp
      have hone : maxAmount.value.toNat < 1 := UInt64.lt_iff_toNat_lt.mp hzero
      have h0 : (0 : UInt64).toNat = 0 := rfl
      omega
    simp only [StellarProfile.new, ensure_of hrange, ok_bind]
    rfl

end Sep7Sample

theorem sep7_roundTrip_testnet :
    ∃ payment, buildDepositRequest Sep7Sample.crates (Sep7Sample.profile ⟨25000, by decide⟩)
        Sep7Sample.quoteId ⟨1234, by decide⟩ = .ok payment ∧
      parsePaymentRequest Sep7Sample.crates (Sep7Sample.profile ⟨25000, by decide⟩)
        (payment.toUri Sep7Sample.crates) = .ok payment := by
  have hbuild := show buildDepositRequest Sep7Sample.crates (Sep7Sample.profile ⟨25000, by decide⟩)
      Sep7Sample.quoteId ⟨1234, by decide⟩ = .ok _ by rfl
  refine ⟨_, hbuild, ?_⟩
  have hprofile := Sep7Sample.isConstructed ⟨25000, by decide⟩
  exact ((sep7_roundTrip Sep7Sample.invertsQueries hprofile _).1 _ _ hbuild).mpr
    ⟨by decide, by decide⟩

/-- A limit above what stroops can count lets a request through that is never read back. -/
theorem sep7_roundTrip_fails :
    Sep7Sample.crates.InvertsQueries ∧
      (Sep7Sample.profile ⟨18446744073709551615, by decide⟩).IsConstructed Sep7Sample.crates ∧
      ∃ payment, buildDepositRequest Sep7Sample.crates
          (Sep7Sample.profile ⟨18446744073709551615, by decide⟩) Sep7Sample.quoteId
          ⟨184467440737096, by decide⟩ = .ok payment ∧
        parsePaymentRequest Sep7Sample.crates
          (Sep7Sample.profile ⟨18446744073709551615, by decide⟩)
          (payment.toUri Sep7Sample.crates) ≠ .ok payment := by
  have hprofile := Sep7Sample.isConstructed ⟨18446744073709551615, by decide⟩
  have hbuild := show buildDepositRequest Sep7Sample.crates
      (Sep7Sample.profile ⟨18446744073709551615, by decide⟩) Sep7Sample.quoteId
      ⟨184467440737096, by decide⟩ = .ok _ by rfl
  refine ⟨Sep7Sample.invertsQueries, hprofile, _, hbuild, ?_⟩
  obtain ⟨hreadable, -⟩ := isReadable_of_build hprofile hbuild
  rw [ne_eq, Sep7Payment.parse_toUri Sep7Sample.invertsQueries hreadable]
  exact fun hfits => absurd hfits.1 (by decide)

end CashMesh.StellarSettlement
