import Orderly.Api.OrderSchema
import Orderly.Infrastructure.Backend
import Orderly.Process.Execution
import Orderly.System

/-!
# POST /api/v1/orders

A request passes the schema validation of Fastify, the rate limiter, the
idempotency check and the validation with zod before its handler creates the
order.  What is sent passes the `onSend` hook, which stores a success of a
request that the idempotency check has tagged.

Fastify's own validation and SHA-256 are code of others and stand as parameters
here.  Of the response headers only the one that marks a replay is kept.
-/

namespace Orderly

open Process (Program System Config Event Log Thread Move)

/-- What the API gets from its environment. -/
structure ApiConfig where
  /-- Validate and coerce a body against the route's JSON schema, or say what is wrong. -/
  validateSchema : Json → Except String Json
  /-- The hexadecimal SHA-256 digest. -/
  sha256 : String → String
  idempotencyTtlSeconds : Nat
  rateLimitMax : Nat
  rateLimitWindowMs : Nat

/-- A POST.  The body is the parsed one. -/
structure PostOrder where
  requestId : String
  idempotencyKey : Option String
  clientId : Option String
  ip : String
  url : String
  body : Json

structure ApiResponse where
  status : Nat
  body : ResponseBody
  /-- `X-Idempotent-Replay`. -/
  replayed : Bool := false
  deriving DecidableEq, Repr

namespace ApiResponse

/-- `reply.status(problem.status).send(problem)`. -/
def ofProblem (problem : ProblemDetails) : ApiResponse := { status := problem.status, body := .problem problem }

end ApiResponse

/-! ## RateLimiter -/

structure RateLimitResult where
  allowed : Bool
  remaining : Nat
  resetTime : Date

namespace RateLimiter

/-- The key of a client's counter in a window. -/
def key (clientId : String) (windowStart : Date) : String := "rl:" ++ clientId ++ ":" ++ toString windowStart

/-- The `try` block: count the request in its window. -/
def count (config : ApiConfig) (clientId : String) (windowStart resetTime : Date) : Intake RateLimitResult := do
  let current ← Intake.incr (key clientId windowStart)
  if current = 1 then Intake.pexpireat (key clientId windowStart) resetTime
  return { allowed := decide (current ≤ config.rateLimitMax), remaining := config.rateLimitMax - current, resetTime }

/-- Without Redis every request is allowed. -/
def isAllowed (config : ApiConfig) (clientId : String) : Intake RateLimitResult := do
  let now ← Intake.newDate
  let windowStart := now / config.rateLimitWindowMs * config.rateLimitWindowMs
  let resetTime := windowStart + config.rateLimitWindowMs
  tryCatch (count config clientId windowStart resetTime) fun _ =>
    return { allowed := true, remaining := config.rateLimitMax, resetTime }

def tooManyRequests : ProblemDetails where
  type := "https://orderly.example.com/errors/rate-limit"
  title := "Rate Limit Exceeded"
  status := 429
  detail := "Too many requests. Please retry after the indicated time."

end RateLimiter

/-! ## Idempotency -/

namespace IdempotencyStore

/-- `idempotency:{clientId}:{idempotencyKey}`. -/
def key (clientId idempotencyKey : String) : String := "idempotency:" ++ clientId ++ ":" ++ idempotencyKey

/-- A failing read is a miss. -/
def get (clientId idempotencyKey : String) : Intake (Option IdempotencyRecord) :=
  tryCatch (Intake.get (key clientId idempotencyKey)) fun _ => return none

/-- A failing write is ignored. -/
def set (config : ApiConfig) (clientId idempotencyKey : String) (record : IdempotencyRecord) : Intake Unit :=
  tryCatch (Intake.set (key clientId idempotencyKey) record config.idempotencyTtlSeconds) fun _ => return ()

end IdempotencyStore

/-- The tag that makes `onSend` store the response. -/
structure IdempotencyMeta where
  clientId : String
  key : String
  hash : String

/-- `sha256(JSON.stringify(body ?? {}))`. -/
def hashBody (config : ApiConfig) : Json → String
  | .null => config.sha256 (Json.obj []).stringify
  | body => config.sha256 body.stringify

def missingHeaders : ProblemDetails where
  type := "https://orderly.example.com/errors/missing-headers"
  title := "Missing Required Headers"
  status := 400
  detail := "Both Idempotency-Key and X-Client-ID headers are required for mutation endpoints."

def idempotencyMismatch : ProblemDetails where
  type := "https://orderly.example.com/errors/idempotency-mismatch"
  title := "Idempotency Key Conflict"
  status := 409
  detail := "The Idempotency-Key was already used with a different request body. " ++
    "Use a new key for a different request."

/-- A request either gets its answer here or goes on with a tag. -/
def idempotencyMiddleware (config : ApiConfig) (request : PostOrder) (body : Json) :
    Intake (Except ApiResponse IdempotencyMeta) :=
  match request.idempotencyKey, request.clientId with
  | some key, some clientId =>
      if key = "" ∨ clientId = "" then return .error (.ofProblem missingHeaders)
      else do
        match ← IdempotencyStore.get clientId key with
        | some existing =>
            if existing.requestHash ≠ hashBody config body then return .error (.ofProblem idempotencyMismatch)
            else return .error { status := existing.status, body := existing.response, replayed := true }
        | none => return .ok { clientId, key, hash := hashBody config body }
  | _, _ => return .error (.ofProblem missingHeaders)

/-- The `onSend` hook. -/
def onSend (config : ApiConfig) (request : PostOrder) (tag : IdempotencyMeta) (response : ApiResponse) :
    Intake ApiResponse := do
  if 200 ≤ response.status ∧ response.status < 300 then
    IdempotencyStore.set config tag.clientId tag.key {
      requestId := request.requestId
      status := response.status
      response := response.body
      requestHash := tag.hash
      createdAt := ← Intake.newDate }
  return response

/-! ## Errors -/

/-- `validateBody` on a body that zod rejects. -/
def validationError (issues : List Issue) : ProblemDetails where
  type := "https://orderly.example.com/errors/validation-error"
  title := "Validation Error"
  status := 422
  detail := "The request body contains invalid data."
  errors := issues.map fun issue => (".".intercalate issue.path, issue.message)

/-- `errorHandler` on what a parse in a handler throws. -/
def unparsedBody (url : String) (issues : List Issue) : ProblemDetails where
  type := "https://orderly.example.com/errors/validation-error"
  title := "Validation Error"
  status := 422
  detail := "The request body contains invalid data"
  instanceUrl := some url
  errors := issues.map fun issue => (".".intercalate issue.path, issue.message)

/-- `errorHandler` on an error that Fastify's validation throws. -/
def clientError (url message : String) : ProblemDetails where
  type := "https://orderly.example.com/errors/client-error"
  title := "Error"
  status := 400
  detail := if message = "" then "An unexpected error occurred" else message
  instanceUrl := some url

/-- `errorHandler` on any other error. -/
def internalError (url : String) (error : JsError) : ProblemDetails where
  type := "https://orderly.example.com/errors/internal-error"
  title := "Internal Server Error"
  status := 500
  detail := match error with
    | .error message => if message = "" then "An unexpected error occurred" else message
    | .other => "An unexpected error occurred"
  instanceUrl := some url

/-! ## The route -/

def orderResponse (order : Order) : OrderResponse where
  id := order.id
  customerId := order.customerId
  status := order.status
  totalAmount := order.totalAmount.toJSON
  items := order.items.map fun item =>
    { id := item.id, sku := item.sku.value, quantity := item.quantity, unitPrice := item.unitPrice.amount }
  createdAt := order.createdAt
  updatedAt := order.updatedAt

def createOrderRequest (request : PostOrder) (input : CreateOrderInput) : CreateOrderRequest where
  customerId := input.customerId
  items := input.items
  currency := input.currency
  idempotencyKey := request.idempotencyKey
  paymentToken := input.paymentToken

/-- The handler parses the body again, which by now is what zod has returned. -/
def createOrderHandler (request : PostOrder) (body : Json) : Intake ApiResponse :=
  match CreateOrderSchema.parse body with
  | .error issues => return .ofProblem (unparsedBody request.url issues)
  | .ok parsed => do
      let result ← OrderService.createOrder (createOrderRequest request parsed)
      return { status := 201, body := .order (orderResponse result.order) }

/-- From the idempotency check on. -/
def postTagged (config : ApiConfig) (request : PostOrder) (body : Json) (tag : IdempotencyMeta) :
    Intake ApiResponse :=
  match CreateOrderSchema.parse body with
  | .error issues => onSend config request tag (.ofProblem (validationError issues))
  | .ok input => do
      let response ← tryCatch (createOrderHandler request input.toJson)
        fun error => return .ofProblem (internalError request.url error)
      onSend config request tag response

/-- A whole request. -/
def postOrder (config : ApiConfig) (request : PostOrder) : Intake ApiResponse :=
  match config.validateSchema request.body with
  | .error message => return .ofProblem (clientError request.url message)
  | .ok body => do
      let limit ← RateLimiter.isAllowed config (request.clientId.getD request.ip)
      if !limit.allowed then return .ofProblem RateLimiter.tooManyRequests
      match ← idempotencyMiddleware config request body with
      | .error response => return response
      | .ok tag => postTagged config request body tag

/-- Any number of requests against one backend. -/
def api (platform : Platform) (config : ApiConfig) :
    System intake JsError Backend PostOrder Choice ApiResponse where
  program := postOrder config
  perform := Backend.perform platform

/-- A state of the API and its requests. -/
abbrev Serving := Config intake JsError Backend PostOrder ApiResponse

/-- One request. -/
abbrev Posting := Thread intake JsError Backend PostOrder ApiResponse

abbrev IntakeEvent := Event intake JsError Backend

abbrev IntakeLog := Log intake JsError Backend

/-! ## A small backend

Concrete values for the runs that later modules look at. -/

def emptyBackend : Backend where
  world :=
    { db :=
        { orders := .empty
          inventory := .empty
          sagas := .empty
          steps := .empty
          outbox := .empty
          sagas_order := Database.noSagas_order
          steps_saga := Database.noSteps_saga }
      nextUuid := 0
      clock := 0 }
  items := .empty

/-- An API whose schema validation changes nothing and whose digest is the text itself. -/
def plainApi : ApiConfig where
  validateSchema := .ok
  sha256 := id
  idempotencyTtlSeconds := 86400
  rateLimitMax := 100
  rateLimitWindowMs := 60000

/-- An order of five units. -/
def plainBody : Json := .obj [
  ("customerId", .str "customer"),
  ("items", .arr [.obj [("sku", .str "X"), ("quantity", .num "5"), ("unitPrice", .str "2.00")]]),
  ("paymentToken", .str "tok")]

def plainPost (clientId key : String) (body : Json) : PostOrder where
  requestId := "request"
  idempotencyKey := some key
  clientId := some clientId
  ip := "127.0.0.1"
  url := "/api/v1/orders"
  body := body

/-- Answer a request's calls, so many of them, and let each take effect. -/
def serving (index calls : Nat) : List (Move PostOrder Choice) :=
  List.replicate calls (.advance index .serve)

end Orderly
