import Orderly.Domain.Ports

/-!
# PaymentService and the resilience policy

Both are written over an arbitrary signature, because the service is injected
with a gateway.  The saga orchestrator is studied with the gateway port, whose
charge and refund are single calls; the Stripe adapter is a gateway whose
requests go over HTTP.
-/

namespace Orderly

open Process (Program Signature)

variable {S : Signature}

/-- The `PaymentGateway` port. -/
structure PaymentGateway (S : Signature) where
  charge : Uuid → Money → String → Program S JsError PaymentResult
  refund : String → Money → Program S JsError PaymentResult

/-- `execute` of a `ResiliencePolicy`, at the type the payment service uses. -/
abbrev ResiliencePolicy (S : Signature) :=
  Program S JsError PaymentResult → Program S JsError PaymentResult

namespace CircuitBreaker

/-- Call the function again after a rejection, at most `maxAttempts` more times;
the first resolved result is returned, the last rejection is rethrown. -/
def retry : Nat → ResiliencePolicy S
  | 0, fn => fn
  | maxAttempts + 1, fn => tryCatch fn fun _ => retry maxAttempts fn

/-- cockatiel's `BrokenCircuitError`. -/
def brokenCircuit : JsError := .error "Execution prevented because the circuit breaker is open"

/-- `wrap(circuitBreakerPolicy, retryPolicy)`: an open circuit rejects without
calling the function, a closed one retries inside.  Whether the circuit is open
depends on earlier calls and on time, so it is asked of the environment. -/
def execute (admits : Program S JsError Bool) (maxAttempts : Nat) : ResiliencePolicy S :=
  fun fn => do
    if ← admits then retry maxAttempts fn else throw brokenCircuit

/-- The `maxAttempts` of `createPaymentResiliencePolicy`. -/
def maxAttempts : Nat := 3

end CircuitBreaker

structure PaymentChargeRequest where
  orderId : Uuid
  amount : Money
  paymentToken : String

namespace PaymentService

/-- `err instanceof Error ? err.message : fallback`. -/
def errorMessage (fallback : String) : JsError → String
  | .error message => message
  | .other => fallback

def charge (gateway : PaymentGateway S) (resilience : ResiliencePolicy S)
    (request : PaymentChargeRequest) : Program S JsError PaymentResult :=
  tryCatch (resilience (gateway.charge request.orderId request.amount request.paymentToken))
    fun err => return {
      success := false
      transactionId := none
      errorCode := some "circuit_open"
      errorMessage := some (errorMessage "Circuit breaker open" err) }

def refund (gateway : PaymentGateway S) (transactionId : String) (amount : Money) :
    Program S JsError PaymentResult :=
  tryCatch (gateway.refund transactionId amount)
    fun err => return {
      success := false
      transactionId := none
      errorCode := some "refund_error"
      errorMessage := some (errorMessage "Unknown error" err) }

end PaymentService

/-! ## The services the composition root builds -/

/-- The gateway as a port. -/
def gatewayPort : PaymentGateway ports where
  charge orderId amount token := Program.call (S := ports) (.charge orderId amount token)
  refund transactionId amount := Program.call (S := ports) (.refund transactionId amount)

/-- `createPaymentResiliencePolicy()`. -/
def paymentResiliencePolicy : ResiliencePolicy ports :=
  CircuitBreaker.execute (Program.call (S := ports) .breakerAdmits) CircuitBreaker.maxAttempts

end Orderly
