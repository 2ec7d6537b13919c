import Orderly.Domain.Intake

/-!
# OrderService

`createOrder` validates the request, writes the order, its items and its event
in one transaction, and only then enqueues the saga.  A failing enqueue is
caught: the order stands, and the caller gets a placeholder for the saga's id.
-/

namespace Orderly

open Process (Program)

/-- A requested item. -/
structure OrderLine where
  sku : String
  quantity : JsNumber
  unitPrice : String
  deriving DecidableEq, Repr

structure CreateOrderRequest where
  customerId : String
  items : List OrderLine
  currency : String
  idempotencyKey : Option String
  paymentToken : String
  deriving DecidableEq, Repr

structure CreateOrderResult where
  order : Order
  sagaId : String

namespace OrderService

/-- `request.items.map((item) => createOrderItem(uuidv4(), …))`. -/
def createItems (orderId : Uuid) (currency : String) : List OrderLine → Intake (List OrderItem)
  | [] => return []
  | line :: rest => do
      let id ← Intake.uuidv4
      let item ← createOrderItem id orderId line.sku line.quantity line.unitPrice currency
      let items ← createItems orderId currency rest
      return item :: items

/-- The event written with the order. -/
def createdEvent (request : CreateOrderRequest) (order : Order) : NewOutboxEvent where
  aggregateType := "order"
  aggregateId := order.id
  eventType := "order.created"
  payload := .obj [
    ("orderId", .ofUuid order.id),
    ("customerId", .str request.customerId),
    ("totalAmount", order.totalAmount.toJSON.toJson),
    ("itemCount", .ofNat order.items.length),
    ("queue", .str "webhook-delivery")]
  headers := .obj [("x-idempotency-key", .str (request.idempotencyKey.getD ""))]
  status := .pending
  retryCount := 0

theorem createdEvent_totalAmount (request : CreateOrderRequest) (order : Order) :
    (createdEvent request order).payload.member? "totalAmount" = some order.totalAmount.toJSON.toJson := by
  simp [createdEvent, Json.member?]

theorem createdEvent_itemCount (request : CreateOrderRequest) (order : Order) :
    (createdEvent request order).payload.member? "itemCount" = some (.ofNat order.items.length) := by
  simp [createdEvent, Json.member?]

/-- `{ sku: i.sku, quantity: i.quantity }`, a positive integer once the items exist. -/
def reservation (line : OrderLine) : InventoryReservation where
  sku := line.sku
  quantity := (line.quantity.integer.getD 0).toNat

/-- The data of the saga's job. -/
def sagaContext (request : CreateOrderRequest) (order : Order) : SagaContext where
  orderId := order.id
  customerId := request.customerId
  items := request.items.map reservation
  totalAmount := order.totalAmount.toJSON
  paymentToken := request.paymentToken

/-- Order and outbox event in one transaction. -/
def writeOrder (request : CreateOrderRequest) (order : Order) : Intake Unit :=
  Intake.TransactionManager.begin fun tx => do
    let tx ← Intake.OrderRepository.createWithSql order tx
    Intake.OutboxRepository.createWithSql (createdEvent request order) tx

def createOrder (request : CreateOrderRequest) : Intake CreateOrderResult := do
  let orderId ← Intake.uuidv4
  let items ← createItems orderId request.currency request.items
  let order ← Orderly.createOrder orderId request.customerId items request.currency request.idempotencyKey
    (← Intake.newDate) (← Intake.newDate)
  writeOrder request order
  let sagaId ← tryCatch (Intake.SagaEnqueuer.enqueue (sagaContext request order)) fun _ => do
    return toString (← Intake.uuidv4)
  return { order, sagaId }

end OrderService
end Orderly
