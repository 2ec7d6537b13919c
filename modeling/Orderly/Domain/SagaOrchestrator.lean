import Orderly.Domain.InventoryService
import Orderly.Domain.PaymentService

/-!
# SagaOrchestrator

The forward steps of an order's saga and its compensation, call by call in the
source's order.
-/

namespace Orderly

/-- The data of a saga job. -/
structure SagaContext where
  orderId : Uuid
  customerId : String
  items : List InventoryReservation
  totalAmount : MoneyJson
  paymentToken : String
  deriving DecidableEq

namespace SagaContext

/-- `new Money(context.totalAmount.amount, context.totalAmount.currency)`. -/
def money (context : SagaContext) : Except JsError Money :=
  Money.new context.totalAmount.amount context.totalAmount.currency

/-- `{ items: context.items }`. -/
def itemsPayload (context : SagaContext) : Json :=
  .obj [("items", .arr (context.items.map fun item =>
    .obj [("sku", .str item.sku), ("quantity", .ofNat item.quantity)]))]

/-- `{ orderId: context.orderId }`. -/
def orderPayload (context : SagaContext) : Json := .obj [("orderId", .ofUuid context.orderId)]

/-- The event written with the `PAID` status. -/
def paidEvent (context : SagaContext) (transactionId : Option String) : NewOutboxEvent where
  aggregateType := "order"
  aggregateId := context.orderId
  eventType := "order.paid"
  payload := .obj [
    ("orderId", .ofUuid context.orderId),
    ("transactionId", .ofOption transactionId),
    ("amount", context.totalAmount.toJson),
    ("queue", .str "webhook-delivery")]
  headers := .obj []
  status := .pending
  retryCount := 0

/-- The event written with the `CANCELLED` status. -/
def failedEvent (context : SagaContext) : NewOutboxEvent where
  aggregateType := "order"
  aggregateId := context.orderId
  eventType := "order.failed"
  payload := .obj [
    ("orderId", .ofUuid context.orderId),
    ("reason", .str "Saga compensation executed"),
    ("queue", .str "webhook-delivery")]
  headers := .obj []
  status := .pending
  retryCount := 0

end SagaContext

/-- The truthy `transactionId` member of a step's output, taken to be a string
as the source's `as string | null` does. -/
def transactionIdOf (payload : Json) : Option String :=
  match payload.member? "transactionId" with
  | some (.str id) => if id = "" then none else some id
  | _ => none

namespace SagaOrchestrator

open Process (Program)

variable (platform : Platform)

def beginStep (sagaId : Uuid) (stepName : StepName) (stepOrder : Nat) (input : Json) :
    Service SagaStep := do
  let step := createStep (← uuidv4) sagaId stepName stepOrder input (← newDate)
  SagaRepository.createStep step
  return step

def endStep (step : SagaStep) : Service Unit := SagaRepository.updateStep step

/-- The transaction of CONFIRM_ORDER and EMIT_EVENTS. -/
def confirmOrder (context : SagaContext) (transactionId : Option String) : Service Unit :=
  TransactionManager.begin fun tx => do
    let tx ← OrderRepository.updateStatus context.orderId .paid tx
    OutboxRepository.createWithSql (context.paidEvent transactionId) tx

/-- The transaction that ends a compensation. -/
def cancelOrder (context : SagaContext) : Service Unit :=
  TransactionManager.begin fun tx => do
    let tx ← OrderRepository.updateStatus context.orderId .cancelled tx
    OutboxRepository.createWithSql context.failedEvent tx

/-- The step that `steps.find(...)` takes for a completed payment. -/
def completedPayment (steps : List SagaStep) : Option SagaStep :=
  steps.find? fun s => s.stepName = .processPayment && s.status = .completed

/-- Refund the recorded charge, if there is one, and mark its step. -/
def compensatePayment (context : SagaContext) (steps : List SagaStep) : Service Unit := do
  match (completedPayment steps).bind fun s => transactionIdOf s.outputPayload with
  | none => return ()
  | some transactionId =>
      let refundResult ← PaymentService.refund gatewayPort transactionId (← context.money)
      match steps.find? fun s => s.stepName = .processPayment with
      | none => return ()
      | some refundStep =>
          SagaRepository.updateStep
            (if refundResult.success then markStepCompensated refundStep
            else markStepCompensationFailed refundStep
              (refundResult.errorMessage.getD "Refund failed"))

/-- Release the items and mark the inventory step. -/
def compensateInventory (context : SagaContext) (steps : List SagaStep) : Service Unit := do
  let inventoryReleased ← InventoryService.releaseInventory platform context.items
  match steps.find? fun s => s.stepName = .reserveInventory with
  | none => return ()
  | some inventoryStep =>
      SagaRepository.updateStep
        (if inventoryReleased then markStepCompensated inventoryStep
        else markStepCompensationFailed inventoryStep "Release failed")

/-- From the recorded steps to the terminal status. -/
def undoSteps (context : SagaContext) (steps : List SagaStep) (compensating : SagaInstance) :
    Service SagaInstance := do
  compensatePayment context steps
  compensateInventory platform context steps
  -- a rolled-back transaction is logged and otherwise ignored
  tryCatch (cancelOrder context) fun _ => return ()
  let failed ← completeCompensation compensating (← newDate)
  SagaRepository.update failed
  return failed

def compensate (sagaId : Uuid) (context : SagaContext) (currentSaga : SagaInstance) :
    Service SagaInstance := do
  let compensating ← startCompensation currentSaga
  SagaRepository.update compensating
  let steps ← SagaRepository.getSteps sagaId
  undoSteps platform context steps compensating

/-- From the confirmed payment to the end of the saga. -/
def confirmAndComplete (context : SagaContext) (running : SagaInstance)
    (transactionId : Option String) : Service SagaInstance := do
  let step2 ← beginStep running.id .confirmOrder 2 context.orderPayload
  let step3 ← beginStep running.id .emitEvents 3 context.orderPayload
  confirmOrder context transactionId
  endStep (completeStep step2 (.obj [("status", .str "PAID")]) (← newDate))
  endStep (completeStep step3 (.obj [("outboxEventWritten", .bool true)]) (← newDate))
  let completed ← completeSaga running (← newDate)
  SagaRepository.update completed
  return completed

/-- From the reserved inventory on. -/
def chargeAndComplete (context : SagaContext) (running : SagaInstance) : Service SagaInstance := do
  let step1 ← beginStep running.id .processPayment 1 context.orderPayload
  let paymentResult ← PaymentService.charge gatewayPort paymentResiliencePolicy {
    orderId := context.orderId
    amount := ← context.money
    paymentToken := context.paymentToken }
  if !paymentResult.success then
    endStep (failStep step1 (paymentResult.errorMessage.getD "Payment declined") (← newDate))
    compensate platform running.id context running
  else
    endStep (completeStep step1
      (.obj [("transactionId", .ofOption paymentResult.transactionId)]) (← newDate))
    confirmAndComplete context running paymentResult.transactionId

def startSaga (context : SagaContext) : Service SagaInstance := do
  let saga := createSagaInstance (← uuidv4) context.orderId (← newDate)
  SagaRepository.create saga
  let running ← Orderly.startSaga saga
  SagaRepository.update running
  let step0 ← beginStep running.id .reserveInventory 0 context.itemsPayload
  let reserved ← InventoryService.reserveInventory platform context.items
  if !reserved then
    endStep (failStep step0 "Insufficient inventory or lock contention" (← newDate))
    compensate platform running.id context running
  else
    endStep (completeStep step0 (.obj [("reserved", .bool true)]) (← newDate))
    chargeAndComplete platform context running

end SagaOrchestrator
end Orderly
