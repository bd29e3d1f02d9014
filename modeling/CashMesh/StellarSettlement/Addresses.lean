import CashMesh.Lib.Guarded
import CashMesh.StellarSettlement.Types
/-!
# Addresses and URLs

What the processor takes from the crates that read Stellar keys and URLs, and the addresses that
`types.rs` makes with them. The crates are parameters; what is relied on of them is stated here.
-/

namespace CashMesh.StellarSettlement

open CashMesh.Lib

/-- The kinds of keys that `stellar_strkey` tells apart. -/
inductive Strkey where
  | publicKeyEd25519
  | muxedAccountEd25519
  | other
  deriving DecidableEq

/-- The record that the URL standard's parser makes of a text. -/
structure UrlRecord where
  scheme : String
  username : String
  password : String
  host : Option String
  path : String
  queryPairs : List (String × String)
  fragment : Option String

/-- The functions of other crates: `Strkey::from_str`, `Url::parse`, `form_urlencoded::Serializer`,
`Sha256::digest` of a text and the standard base64 alphabet. -/
structure Crates where
  strkey : String → Option Strkey
  parseUrl : String → Option UrlRecord
  serializeQuery : List (String × String) → String
  sha256 : String → List UInt8
  base64 : List UInt8 → String

/-- Query parsing inverts form-urlencoded serialisation: a request of an opaque path and serialised
pairs is read as these pairs. -/
def Crates.InvertsQueries (crates : Crates) : Prop :=
  ∀ pairs, crates.parseUrl ("web+stellar:pay?" ++ crates.serializeQuery pairs) =
    some {
      scheme := "web+stellar"
      username := ""
      password := ""
      host := none
      path := "pay"
      queryPairs := pairs
      fragment := none }

/-- `StellarAddress::new`. -/
def StellarAddress.new (crates : Crates) (raw : String) : Except ValueError StellarAddress := do
  let value ← nonempty raw "Stellar address"
  match crates.strkey value with
  | some .publicKeyEd25519 | some .muxedAccountEd25519 => .ok ⟨value⟩
  | _ => .error .invalidStellarAddress

/-- `StellarAddress::new_account`. -/
def StellarAddress.newAccount (crates : Crates) (raw : String) : Except ValueError StellarAddress := do
  let value ← nonempty raw "Stellar account"
  match crates.strkey value with
  | some .publicKeyEd25519 => .ok ⟨value⟩
  | _ => .error .invalidStellarAccount

theorem nonempty_eq_ok {raw name value : String} :
    nonempty raw name = .ok value ↔ isBlank raw = false ∧ value = raw := by
  unfold nonempty
  by_cases hblank : isBlank raw = true
  · simp [hblank]
  · simp [hblank, eq_comm]

theorem StellarAddress.new_eq_ok {crates : Crates} {raw : String} {address : StellarAddress} :
    StellarAddress.new crates raw = .ok address ↔
      isBlank raw = false ∧ address = ⟨raw⟩ ∧
        (crates.strkey raw = some .publicKeyEd25519 ∨
          crates.strkey raw = some .muxedAccountEd25519) := by
  simp only [StellarAddress.new, bind_eq_ok, nonempty_eq_ok, and_assoc, exists_and_left,
    exists_eq_left]
  apply and_congr_right
  intro _
  generalize crates.strkey raw = key
  rcases key with _ | (_ | _ | _)
  · simp
  · simp [eq_comm]
  · simp [eq_comm]
  · simp

theorem StellarAddress.newAccount_eq_ok {crates : Crates} {raw : String} {address : StellarAddress} :
    StellarAddress.newAccount crates raw = .ok address ↔
      isBlank raw = false ∧ address = ⟨raw⟩ ∧ crates.strkey raw = some .publicKeyEd25519 := by
  simp only [StellarAddress.newAccount, bind_eq_ok, nonempty_eq_ok, and_assoc, exists_and_left,
    exists_eq_left]
  apply and_congr_right
  intro _
  generalize crates.strkey raw = key
  rcases key with _ | (_ | _ | _)
  · simp
  · simp [eq_comm]
  · simp
  · simp

theorem ne_empty_of_not_blank {value : String} (hvalue : isBlank value = false) : value ≠ "" := by
  rintro rfl
  exact Bool.noConfusion hvalue

end CashMesh.StellarSettlement
