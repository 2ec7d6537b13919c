import Orderly.Domain.PaymentService
import Orderly.Process.System

/-!
# StripeAdapter

The gateway over HTTP.  `charge` and `refund` differ in the request they post
and in the texts of a declined reply, so the exchange itself is written once.
A reply's members are read as the strings the code declares them to be; other
JSON in their place counts as absent.

The gateway and the network are the environment.  A request may be applied or
not, and its reply may be lost whether or not it was: the two are chosen
independently.  A reply that does arrive is an OK response exactly when the
request was applied.
-/

namespace Orderly

open Process (Program Signature System)

/-- What is handed to `fetch`.  The body is the parameter list of a
`URLSearchParams`. -/
structure HttpRequest where
  method : String
  url : String
  headers : List (String × String)
  body : List (String × String)
  deriving DecidableEq, Repr

structure HttpResponse where
  ok : Bool

inductive HttpCall where
  | randomUUID
  | breakerAdmits
  | fetch (request : HttpRequest)
  | json (response : HttpResponse)

namespace HttpCall

def Reply : HttpCall → Type
  | randomUUID => Uuid
  | breakerAdmits => Bool
  | fetch _ => HttpResponse
  | json _ => Json

end HttpCall

/-- The signature of the payment infrastructure. -/
def http : Signature where
  Call := HttpCall
  Reply := HttpCall.Reply

abbrev Client (α : Type) := Program http JsError α

def randomUUID : Client Uuid := Program.call (S := http) .randomUUID

def fetch (request : HttpRequest) : Client HttpResponse := Program.call (S := http) (.fetch request)

/-- `response.json()`. -/
def HttpResponse.json (response : HttpResponse) : Client Json := Program.call (S := http) (.json response)

/-- The part of the configuration the adapter reads. -/
structure GatewayConfig where
  paymentGatewayApiKey : String
  paymentGatewayBaseUrl : String

namespace StripeAdapter

/-- `value.key`, which `null` does not have. -/
def property (key : String) : Json → Except JsError (Option Json)
  | .null => .error (.error ("Cannot read properties of null (reading '" ++ key ++ "')"))
  | value => .ok (value.member? key)

def text? : Option Json → Option String
  | some (.str text) => some text
  | _ => none

/-- `new Decimal(amount.amount).times(100).toFixed(0)`. -/
def minorUnits (amount : Money) : Except JsError String := do
  let d ← Decimal.parse amount.amount
  return (d.times (.finite false 100 0)).toFixed 0

def headers (config : GatewayConfig) : List (String × String) :=
  [("Authorization", "Bearer " ++ config.paymentGatewayApiKey),
    ("Content-Type", "application/x-www-form-urlencoded")]

def chargeRequest (config : GatewayConfig) (orderId : Uuid) (amount : Money) (token : String) :
    Except JsError HttpRequest := do
  let units ← minorUnits amount
  return {
    method := "POST"
    url := config.paymentGatewayBaseUrl ++ "/v1/charges"
    headers := headers config
    body := [("amount", units), ("currency", toLowerCase amount.currency), ("source", token),
      ("metadata[orderId]", toString orderId)] }

def refundRequest (config : GatewayConfig) (transactionId : String) (amount : Money) :
    Except JsError HttpRequest := do
  let units ← minorUnits amount
  return {
    method := "POST"
    url := config.paymentGatewayBaseUrl ++ "/v1/refunds"
    headers := headers config
    body := [("charge", transactionId), ("amount", units)] }

def approved (transactionId : Option String) : PaymentResult where
  success := true
  transactionId := transactionId
  errorCode := none
  errorMessage := none

/-- A refused request, with the code and the message of the reply where it has them. -/
def declined (errorCode errorMessage : String) (detail : Option Json) : PaymentResult where
  success := false
  transactionId := none
  errorCode := some ((text? (detail.bind (Json.member? "code"))).getD errorCode)
  errorMessage := some ((text? (detail.bind (Json.member? "message"))).getD errorMessage)

/-- The `try` block of both methods. -/
def post (request : Except JsError HttpRequest) (errorCode errorMessage : String) : Client PaymentResult := do
  let response ← fetch (← request)
  if !response.ok then
    let error ← tryCatch response.json fun _ => return .obj []
    return declined errorCode errorMessage (← property "error" error)
  else
    let data ← response.json
    return approved (text? (← property "id" data))

/-- With the `catch`, which logs the error and rethrows it. -/
def exchange (request : Except JsError HttpRequest) (errorCode errorMessage : String) :
    Client PaymentResult :=
  tryCatch (post request errorCode errorMessage) fun err => throw err

def charge (config : GatewayConfig) (orderId : Uuid) (amount : Money) (token : String) :
    Client PaymentResult := do
  if config.paymentGatewayApiKey = "" then
    return approved (some ("sim_" ++ toString (← randomUUID)))
  else
    exchange (chargeRequest config orderId amount token) "payment_failed" "Payment processing failed"

def refund (config : GatewayConfig) (transactionId : String) (amount : Money) : Client PaymentResult := do
  if config.paymentGatewayApiKey = "" then
    return approved (some ("ref_" ++ toString (← randomUUID)))
  else
    exchange (refundRequest config transactionId amount) "refund_failed" "Refund failed"

def gateway (config : GatewayConfig) : PaymentGateway http where
  charge := charge config
  refund := refund config

end StripeAdapter

/-! ## The gateway behind the adapter -/

/-- The requests that have been applied, newest first. -/
structure Ledger where
  applied : List HttpRequest := []
  nextUuid : Uuid := 0

/-- What becomes of one call.  `lost` is the error a call rejects with when its
reply does not arrive. -/
structure Exchange where
  applied : Bool := true
  lost : Option JsError := none
  body : Json := .obj []
  circuitClosed : Bool := true

namespace Ledger

def perform (ledger : Ledger) (call : HttpCall) (exchange : Exchange) :
    Except JsError call.Reply × Ledger :=
  match call with
  | .randomUUID => (.ok ledger.nextUuid, { ledger with nextUuid := ledger.nextUuid + 1 })
  | .breakerAdmits => (.ok exchange.circuitClosed, ledger)
  | .fetch request =>
      (match exchange.lost with
        | none => .ok { ok := exchange.applied }
        | some error => .error error,
      if exchange.applied then { ledger with applied := request :: ledger.applied } else ledger)
  | .json _ =>
      (match exchange.lost with
        | none => .ok exchange.body
        | some error => .error error, ledger)

end Ledger

/-- `PaymentService.charge` over the adapter, with so many calls again after a
rejection. -/
def payments (config : GatewayConfig) (maxAttempts : Nat) :
    System http JsError Ledger PaymentChargeRequest Exchange PaymentResult where
  program := PaymentService.charge (StripeAdapter.gateway config)
    (CircuitBreaker.execute (Program.call (S := http) .breakerAdmits) maxAttempts)
  perform := Ledger.perform

end Orderly
