import Orderly.Events.OutboxProcessor
import Orderly.Process.Settling

/-!
# WebhookDispatcher

A notification job is dispatched to every active subscription of its event
type.  The deliveries run concurrently and are awaited with
`Promise.allSettled`, so they are routines of a system of their own, answered
in any order; the dispatcher itself issues one call that has them all settled.

The processor of the queue `webhook-delivery` is a thin wrapper, and a job
whose processor throws is tried again.
-/

namespace Orderly

open Process (Program Signature System Config)

/-! ## Blocked addresses -/

namespace UrlPattern

/-- What is left of a text behind a piece of a pattern that matches where it begins. -/
abbrev Piece := List Char → Option (List Char)

def literal (text : String) : Piece := fun url =>
  if text.toList.isPrefixOf url then some (url.drop text.toList.length) else none

def optional (text : String) : Piece := fun url => some ((literal text url).getD url)

/-- One character of a class. -/
def oneOf (allowed : Char → Bool) : Piece
  | [] => none
  | c :: rest => if allowed c then some rest else none

/-- `\d+`, where no digit may follow. -/
def digits : Piece
  | [] => none
  | c :: rest => if c.isDigit then some (rest.dropWhile Char.isDigit) else none

/-- `[0-9a-f]`. -/
def hexDigit : Piece := oneOf fun c => c.isDigit || (decide ('a' ≤ c) && decide (c ≤ 'f'))

/-- `(1[6-9]|2\d|3[01])`. -/
def secondOctet : Piece
  | '1' :: rest => oneOf (fun c => decide ('6' ≤ c) && decide (c ≤ '9')) rest
  | '2' :: rest => oneOf Char.isDigit rest
  | '3' :: rest => oneOf (fun c => c = '0' || c = '1') rest
  | _ => none

/-- `/^https?:\/\/…/`. -/
def test (pieces : List Piece) (url : List Char) : Bool :=
  let all : List Piece := [literal "http", optional "s", literal "://"] ++ pieces
  (all.foldlM (fun rest (piece : Piece) => piece rest) url).isSome

/-- With the flag `i`.  The pattern itself is in lower case. -/
def testIgnoringCase (pieces : List Piece) (url : List Char) : Bool := test pieces (url.map Char.toLower)

end UrlPattern

open UrlPattern in
/-- Private and loopback addresses. -/
def SSRF_BLOCKED_PATTERNS : List (List Char → Bool) := [
  testIgnoringCase [literal "localhost"],
  test [literal "127."],
  test [literal "0.", digits, literal ".", digits, literal ".", digits],
  test [literal "10.", digits, literal ".", digits, literal ".", digits],
  test [literal "172.", secondOctet, literal ".", digits, literal ".", digits],
  test [literal "192.168."],
  test [literal "169.254."],
  test [literal "[::1]"],
  testIgnoringCase [literal "[fc", hexDigit, hexDigit, literal ":"],
  testIgnoringCase [literal "[fd", hexDigit, hexDigit, literal ":"],
  testIgnoringCase [literal "metadata.google.internal"],
  test [literal "169.254.169.254"]]

def isBlockedUrl (url : String) : Bool := SSRF_BLOCKED_PATTERNS.any fun pattern => pattern url.toList

example : ["HTTPS://LocalHost:3000/", "http://172.31.0.9/hook", "http://172.32.0.9/hook"].map isBlockedUrl =
    [true, true, false] := by decide +kernel

/-! ## One delivery -/

structure WebhookPayload where
  eventType : String
  aggregateId : Uuid
  payload : Json
  timestamp : Date

structure SubscriptionRow where
  id : Uuid
  url : String
  eventTypes : List String
  secret : String

/-- What a delivery reads from its surroundings: the configured name of the
signature's header, the texts of identifiers and dates, and `signPayload`. -/
structure WebhookConfig where
  webhookSecretHeader : String
  uuidText : Uuid → String
  toISOString : Date → String
  signPayload : Json → String → String

/-- A row of `webhook_deliveries`. -/
structure WebhookDelivery where
  subscriptionId : Uuid
  eventId : Uuid
  status : Int
  responseBody : String

/-- The arguments of `fetch`. -/
structure WebhookRequest where
  url : String
  method : String
  headers : List (String × String)
  body : String

inductive DeliveryCall where
  | fetch (request : WebhookRequest)
  | text
  | insertDelivery (row : WebhookDelivery)

/-- A response is known by its status until its text is read. -/
def DeliveryCall.Reply : DeliveryCall → Type
  | fetch _ => Nat
  | text => String
  | insertDelivery _ => Unit

/-- The signature of one delivery. -/
def deliveryPorts : Signature where
  Call := DeliveryCall
  Reply := DeliveryCall.Reply

abbrev Delivering (α : Type) := Program deliveryPorts JsError α

/-- `text.slice(0, count)` as it reaches the database, where half a surrogate
pair becomes a replacement character. -/
def sliceTo : Nat → List Char → List Char
  | _, [] => []
  | 0, _ => []
  | 1, c :: _ => [if c.toNat < 0x10000 then c else '\uFFFD']
  | count + 2, c :: rest => c :: sliceTo (if c.toNat < 0x10000 then count + 1 else count) rest

/-- `response.ok`. -/
def responseOk (status : Nat) : Bool := 200 ≤ status && status ≤ 299

namespace WebhookDispatcher

def fetch (request : WebhookRequest) : Delivering Nat := Program.call (S := deliveryPorts) (.fetch request)

/-- `response.text()`. -/
def responseText : Delivering String := Program.call (S := deliveryPorts) .text

/-- The payload as the object that is signed and sent. -/
def payloadJson (config : WebhookConfig) (webhookPayload : WebhookPayload) : Json := .obj [
  ("eventType", .str webhookPayload.eventType),
  ("aggregateId", .str (config.uuidText webhookPayload.aggregateId)),
  ("payload", webhookPayload.payload),
  ("timestamp", .str (config.toISOString webhookPayload.timestamp))]

/-- The request that carries an event to a subscriber. -/
def requestOf (config : WebhookConfig) (sub : SubscriptionRow) (webhookPayload : WebhookPayload) :
    WebhookRequest where
  url := sub.url
  method := "POST"
  headers := [
    ("Content-Type", "application/json"),
    (config.webhookSecretHeader, config.signPayload (payloadJson config webhookPayload) sub.secret),
    ("X-Event-Type", webhookPayload.eventType),
    ("X-Delivery-Timestamp", config.toISOString webhookPayload.timestamp)]
  body := (payloadJson config webhookPayload).stringify

/-- A failed insert is logged. -/
def recordDelivery (subscriptionId : Uuid) (aggregateId : Uuid) (status : Int) (responseBody : String) :
    Delivering Unit :=
  tryCatch (Program.call (S := deliveryPorts) (.insertDelivery {
    subscriptionId
    eventId := aggregateId
    status
    responseBody := String.ofList (sliceTo 2000 responseBody.toList) }))
    fun _ => return ()

/-- The `try` block of a delivery: the values of `httpStatus` and
`responseBody` where it ended, and how it ended. -/
def attemptDelivery (config : WebhookConfig) (sub : SubscriptionRow) (webhookPayload : WebhookPayload) :
    Delivering (Int × String × Except JsError Unit) := do
  match ← (fetch (requestOf config sub webhookPayload)).attempt with
  | .error err => return (-1, "", .error err)
  | .ok status =>
      let responseBody ← tryCatch responseText fun _ => return ""
      recordDelivery sub.id webhookPayload.aggregateId status responseBody
      if responseOk status then return (status, responseBody, .ok ())
      else return (status, responseBody,
        .error (.error ("Webhook delivery failed: HTTP " ++ toString status ++ " from " ++ sub.url)))

def deliver (config : WebhookConfig) (sub : SubscriptionRow) (webhookPayload : WebhookPayload) :
    Delivering Unit :=
  if isBlockedUrl sub.url then return ()
  else do
    match ← attemptDelivery config sub webhookPayload with
    | (_, _, .ok ()) => return ()
    | (httpStatus, responseBody, .error err) =>
        tryCatch (recordDelivery sub.id webhookPayload.aggregateId httpStatus responseBody) fun _ => return ()
        throw err

end WebhookDispatcher

/-! ## Dispatching a job -/

inductive DispatchCall where
  | selectSubscriptions (eventType : String)
  | newDate
  | allSettled (routines : List (Delivering Unit))

def DispatchCall.Reply : DispatchCall → Type
  | selectSubscriptions _ => List SubscriptionRow
  | newDate => Date
  | allSettled _ => List (Except JsError Unit)

/-- The signature of the dispatcher. -/
def dispatchPorts : Signature where
  Call := DispatchCall
  Reply := DispatchCall.Reply

abbrev Dispatching (α : Type) := Program dispatchPorts JsError α

namespace WebhookDispatcher

/-- Individual failures are left in the settled promises, which nobody reads. -/
def dispatch (config : WebhookConfig) (eventType : String) (aggregateId : Uuid) (payload : Json) :
    Dispatching Unit := do
  let subscriptions ← Program.call (S := dispatchPorts) (.selectSubscriptions eventType)
  if subscriptions.length = 0 then return ()
  else
    let timestamp ← Program.call (S := dispatchPorts) .newDate
    let webhookPayload : WebhookPayload := { eventType, aggregateId, payload, timestamp }
    let _ ← Program.call (S := dispatchPorts)
      (.allSettled (subscriptions.map fun sub => deliver config sub webhookPayload))

end WebhookDispatcher

/-- The processor of the notification worker. -/
def notificationWorkerProcessor (config : WebhookConfig) (job : NotificationJob) : Dispatching Unit :=
  tryCatch (WebhookDispatcher.dispatch config job.eventType job.aggregateId job.payload) fun err => throw err

end Orderly
