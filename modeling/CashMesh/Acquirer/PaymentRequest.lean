import CashMesh.Acquirer.Domain
/-!
# Payment requests

The NUT-18 payment request of an invoice, with the routes of the operators it accepts, and how it is
put together again from its stored rows. The encoded text of a request is kept as what it encodes,
and its length is not bounded here.
-/

namespace CashMesh.Acquirer

open CashMesh.Lib

/-- A route of an issued request. -/
structure AcceptedOperatorRoute where
  mintUrl : MintUrl
  mode : SettlementMode
  operatorId : OperatorId
  reason : PolicyReason
  tier : OperatorTier
deriving DecidableEq

/-- A route as it is configured. -/
structure CashuOperatorRoute where
  mintUrl : MintUrl
  operatorId : OperatorId
  requestedMode : Option SettlementMode
  tier : OperatorTier
deriving DecidableEq

/-- What the `creqA` text of a request encodes. -/
structure EncodedPaymentRequest where
  invoiceId : InvoiceId
  amount : MinorUnitAmount
  mintUrls : List MintUrl
  transportUrl : String
deriving DecidableEq

structure CashuPaymentRequest where
  amount : MinorUnitAmount
  encodedRequest : EncodedPaymentRequest
  expiresAt : UnixTimestamp
  invoiceId : InvoiceId
  issuedAt : UnixTimestamp
  operators : List AcceptedOperatorRoute
  transportUrl : String
deriving DecidableEq

def maxNut18Operators : Nat := 16

/-- The accepted form of one configured route. -/
def acceptOperatorRoute (route : CashuOperatorRoute) : Option AcceptedOperatorRoute := do
  let (mode, reason) ← evaluateOperatorPolicy route.tier route.requestedMode
  return {
    mintUrl := route.mintUrl
    mode
    operatorId := route.operatorId
    reason
    tier := route.tier }

/-- The accepted routes in the order of their mint URLs. -/
def normalizeOperatorRoutes (routes : List CashuOperatorRoute) :
    Option (List AcceptedOperatorRoute) :=
  if routes ≠ [] ∧ routes.length ≤ maxNut18Operators ∧
      (routes.map (·.operatorId)).Nodup ∧ (routes.map (·.mintUrl)).Nodup then do
    let accepted ← routes.mapM acceptOperatorRoute
    return accepted.insertionSort fun left right => left.mintUrl ≤ right.mintUrl
  else
    none

/-- `createCashuPaymentRequestV1` for an open invoice. -/
def createCashuPaymentRequest (invoice : OpenInvoice) (issuedAt : UnixTimestamp)
    (operators : List CashuOperatorRoute) (transportUrl : String) :
    Option CashuPaymentRequest := do
  let operators ← normalizeOperatorRoutes operators
  let invoice ← (createInvoice invoice).toOption
  if issuedAt ≤ maxSafeInteger ∧ invoice.createdAt ≤ issuedAt ∧ issuedAt < invoice.expiresAt then
    return {
      amount := invoice.amount
      encodedRequest := {
        invoiceId := invoice.id
        amount := invoice.amount
        mintUrls := operators.map (·.mintUrl)
        transportUrl }
      expiresAt := invoice.expiresAt
      invoiceId := invoice.id
      issuedAt
      operators
      transportUrl }
  else
    none

/-- What `createCashuPaymentRequestRouteSetFingerprint` hashes. -/
structure RouteSetFingerprint where
  merchantId : MerchantId
  request : CashuPaymentRequest
  settlementDestination : CashuStellarSettlementDestination
deriving DecidableEq

/-- A row of `invoice_cashu_requests`. -/
structure InvoiceCashuRequestRow where
  invoiceId : InvoiceId
  merchantId : MerchantId
  encodedRequest : EncodedPaymentRequest
  issuedAt : UnixTimestamp
  operatorCount : Nat
  routeSetFingerprint : RouteSetFingerprint
  transportUrl : String
deriving DecidableEq

/-- A row of `invoice_cashu_request_operators`. -/
structure InvoiceRouteRow where
  invoiceId : InvoiceId
  merchantId : MerchantId
  position : Nat
  operatorId : OperatorId
  mintUrl : MintUrl
  mode : SettlementMode
  tier : OperatorTier
  reason : PolicyReason
  settlementDestination : CashuStellarSettlementDestination
deriving DecidableEq

/-- Whether a stored route is the route of the request. -/
def SameOperatorRoute (row : InvoiceRouteRow) (route : AcceptedOperatorRoute) : Prop :=
  row.mintUrl = route.mintUrl ∧ row.mode = route.mode ∧ row.operatorId = route.operatorId ∧
    row.reason = route.reason ∧ row.tier = route.tier

instance (row : InvoiceRouteRow) (route : AcceptedOperatorRoute) :
    Decidable (SameOperatorRoute row route) :=
  inferInstanceAs (Decidable (_ ∧ _))

/-- The request that the stored rows of an invoice describe, if they describe one. -/
def reconstructStoredCashuPaymentRequest (row : InvoiceCashuRequestRow)
    (operatorRows : List InvoiceRouteRow) (invoice : OpenInvoice) : Option CashuPaymentRequest := do
  let firstRow ← operatorRows.head?
  let settlementDestination := firstRow.settlementDestination
  if row.operatorCount = operatorRows.length ∧ row.issuedAt = invoice.createdAt ∧
      (∀ operator ∈ operatorRows, operator.settlementDestination = settlementDestination) ∧
      operatorRows.map (·.position) = List.range operatorRows.length ∧
      (∀ operator ∈ operatorRows, operator.tier ≠ .unlisted) then
    let configuredRoutes := operatorRows.map fun operator : InvoiceRouteRow =>
      { mintUrl := operator.mintUrl
        operatorId := operator.operatorId
        requestedMode := some operator.mode
        tier := operator.tier : CashuOperatorRoute }
    let reconstructed ←
      createCashuPaymentRequest invoice row.issuedAt configuredRoutes row.transportUrl
    if reconstructed.encodedRequest = row.encodedRequest ∧
        reconstructed.transportUrl = row.transportUrl ∧
        row.routeSetFingerprint =
          ⟨invoice.merchantId, reconstructed, settlementDestination⟩ ∧
        List.Forall₂ SameOperatorRoute operatorRows reconstructed.operators then
      return reconstructed
    else
      none
  else
    none

end CashMesh.Acquirer
