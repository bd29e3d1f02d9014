import CashMesh.StellarSettlement.Addresses
/-!
# The settlement profile

The network, the asset, the deposit account and the limits under which the processor runs, as in
`profile.rs`.
-/

namespace CashMesh.StellarSettlement

open CashMesh.Lib

structure StellarNetwork where
  passphrase : String
  networkId : String
  horizonUrl : String
  deriving DecidableEq

structure StellarAsset where
  code : String
  issuer : StellarAddress
  deriving DecidableEq

structure StellarProfile where
  network : StellarNetwork
  asset : StellarAsset
  depositDestination : StellarAddress
  minAmount : UsdcMinorUnits
  maxAmount : UsdcMinorUnits
  quoteTtlSeconds : UInt64
  deriving DecidableEq

def stellarTestnetPassphrase : String := "Test SDF Network ; September 2015"

def stellarTestnetNetworkId : String :=
  "cee0302d59844d32bdca915c8203dd44b33fbb7edc19051ea37abedf28ecd472"

def stellarTestnetHorizonUrl : String := "https://horizon-testnet.stellar.org"

def circleTestnetUsdcIssuer : String := "GBBD47IF6LWK7P7MDEVSCWR7DPUWV3NY3DTQEVFL4NAT4AQH3ZLLFLA5"

/-- `StellarNetwork::testnet`, the pinned testnet identity. -/
def StellarNetwork.testnet : StellarNetwork :=
  { passphrase := stellarTestnetPassphrase
    networkId := stellarTestnetNetworkId
    horizonUrl := stellarTestnetHorizonUrl }

/-- `StellarAsset::testnet_usdc`, the pinned Circle testnet asset. -/
def StellarAsset.testnetUsdc : StellarAsset :=
  { code := "USDC", issuer := ⟨circleTestnetUsdcIssuer⟩ }

/-- `StellarProfile::testnet_usdc` for a deposit account that has been parsed. -/
def StellarProfile.testnetUsdc (depositDestination : StellarAddress) : StellarProfile :=
  { network := .testnet
    asset := .testnetUsdc
    depositDestination
    minAmount := ⟨1, by decide⟩
    maxAmount := ⟨25000, by decide⟩
    quoteTtlSeconds := 900 }

/-- `validate_amount`: whether an amount is inside the limits. -/
def StellarProfile.validateAmount (profile : StellarProfile) (amount : UsdcMinorUnits) : Bool :=
  decide (profile.minAmount.value ≤ amount.value ∧ amount.value ≤ profile.maxAmount.value)

/-! ### Constructors -/

inductive ProfileError where
  | networkIdMismatch (configured derived : String)
  | insecureHorizonUrl
  | invalidHorizonUrl
  | invalidAssetCode
  | invalidAmountRange
  | invalidQuoteTtl
  | amountOutsideLimits (amount minimum maximum : UInt64)
  | invalidValue (error : ValueError)
  deriving DecidableEq

/-- `char::from_digit` in base sixteen. -/
def hexDigit (n : Nat) : Char :=
  Char.ofNat (if n < 10 then 48 + n else 87 + n)

/-- `network_id_for_passphrase`: the hexadecimal digest. -/
def networkIdForPassphrase (crates : Crates) (passphrase : String) : String :=
  .ofList ((crates.sha256 passphrase).flatMap fun byte =>
    [hexDigit (byte.toNat / 16), hexDigit (byte.toNat % 16)])

/-- `StellarNetwork::new`. -/
def StellarNetwork.new (crates : Crates) (passphrase networkId horizonUrl : String) :
    Except ProfileError StellarNetwork := do
  let networkId := toAsciiLowercase networkId
  let derived := networkIdForPassphrase crates passphrase
  ensure (derived = networkId) (ProfileError.networkIdMismatch networkId derived)
  let parsedUrl ← orFail (crates.parseUrl horizonUrl) ProfileError.invalidHorizonUrl
  ensure (parsedUrl.scheme = "https" ∧ parsedUrl.host ≠ none) ProfileError.insecureHorizonUrl
  .ok { passphrase, networkId, horizonUrl }

def isAsciiUppercase (c : Char) : Bool :=
  'A' ≤ c && c ≤ 'Z'

/-- `StellarAsset::new`. -/
def StellarAsset.new (crates : Crates) (code issuer : String) : Except ProfileError StellarAsset := do
  ensure
    (1 ≤ code.utf8ByteSize ∧ code.utf8ByteSize ≤ 12 ∧
      code.toList.all (fun c => isAsciiUppercase c || ('0' ≤ c && c ≤ '9')) = true)
    ProfileError.invalidAssetCode
  let issuer ← (StellarAddress.newAccount crates issuer).mapError ProfileError.invalidValue
  .ok { code, issuer }

/-- `StellarProfile::new`. -/
def StellarProfile.new (network : StellarNetwork) (asset : StellarAsset)
    (depositDestination : StellarAddress) (minAmount maxAmount : UsdcMinorUnits)
    (quoteTtlSeconds : UInt64) : Except ProfileError StellarProfile := do
  ensure (¬maxAmount.value < minAmount.value) ProfileError.invalidAmountRange
  ensure (quoteTtlSeconds ≠ 0) ProfileError.invalidQuoteTtl
  .ok { network, asset, depositDestination, minAmount, maxAmount, quoteTtlSeconds }

/-- A profile of parts that their constructors made. -/
structure StellarProfile.IsConstructed (crates : Crates) (profile : StellarProfile) : Prop where
  network : ∃ passphrase networkId horizonUrl,
    StellarNetwork.new crates passphrase networkId horizonUrl = .ok profile.network
  asset : ∃ code issuer, StellarAsset.new crates code issuer = .ok profile.asset
  destination : ∃ raw, StellarAddress.new crates raw = .ok profile.depositDestination
  profile : ∃ minAmount maxAmount quoteTtlSeconds,
    StellarProfile.new profile.network profile.asset profile.depositDestination minAmount maxAmount
      quoteTtlSeconds = .ok profile

end CashMesh.StellarSettlement
