import Orderly.Domain.Values

/-!
# Orders

The aggregate of `order.ts`, its line items and its table of valid status
transitions.
-/

namespace Orderly

inductive OrderStatus where
  | pending
  | paid
  | fulfilled
  | shipped
  | cancelled
  | compensating
  deriving DecidableEq, Repr

/-- A stock keeping unit. -/
structure SKU where
  value : String
  deriving DecidableEq, Repr

namespace SKU

/-- `[A-Za-z0-9\-_]`. -/
def isValid (c : Char) : Bool := c.isAlphanum || c = '-' || c = '_'

/-- The constructor. -/
def new (value : String) : Except JsError SKU :=
  if value = "" ∨ 64 < jsLength value then .error (.error "SKU must be between 1 and 64 characters")
  else if !value.toList.all isValid then
    .error (.error "SKU must be alphanumeric with hyphens and underscores only")
  else .ok ⟨value⟩

theorem new_value {value : String} {sku : SKU} (made : new value = .ok sku) : sku.value = value := by
  unfold new at made
  split at made
  · cases made
  · split at made
    · cases made
    · cases made
      rfl

end SKU

structure OrderItem where
  id : Uuid
  orderId : Uuid
  sku : SKU
  quantity : Nat
  unitPrice : Money
  deriving DecidableEq

def createOrderItem (id orderId : Uuid) (sku : String) (quantity : JsNumber) (unitPrice currency : String) :
    Except JsError OrderItem :=
  match quantity.integer with
  | some (.ofNat (n + 1)) => do
      return { id, orderId, sku := ← SKU.new sku, quantity := n + 1, unitPrice := ← Money.new unitPrice currency }
  | _ => .error (.error ("OrderItem quantity must be a positive integer, got: " ++ quantity.text))

/-- What a created item consists of. -/
theorem createOrderItem_spec {id orderId : Uuid} {sku : String} {quantity : JsNumber} {unitPrice currency : String}
    {item : OrderItem} (made : createOrderItem id orderId sku quantity unitPrice currency = .ok item) :
    item.id = id ∧ item.orderId = orderId ∧ item.sku.value = sku ∧ quantity.integer = some (item.quantity : Int) ∧
      Money.new unitPrice currency = .ok item.unitPrice := by
  unfold createOrderItem at made
  split at made
  · next n whole =>
      cases valid : SKU.new sku with
      | error error =>
          rw [valid] at made
          cases made
      | ok stockKeepingUnit =>
          cases price : Money.new unitPrice currency with
          | error error =>
              rw [valid, price] at made
              cases made
          | ok money =>
              rw [valid, price] at made
              cases made
              exact ⟨rfl, rfl, SKU.new_value valid, whole, rfl⟩
  · cases made

structure Order where
  id : Uuid
  customerId : String
  status : OrderStatus
  totalAmount : Money
  currency : String
  idempotencyKey : Option String
  items : List OrderItem
  createdAt : Date
  updatedAt : Date

/-- The sum that `items.reduce(...)` computes. -/
def orderTotal (items : List OrderItem) (currency : String) : Except JsError Money := do
  let zero ← Money.zero currency
  items.foldlM (fun sum item => do sum.add (← item.unitPrice.multiply item.quantity)) zero

/-- A total is in the order's currency. -/
theorem orderTotal_currency {items : List OrderItem} {currency : String} {total : Money}
    (summed : orderTotal items currency = .ok total) : total.currency = toUpperCase currency := by
  have folded : ∀ (items : List OrderItem) (sum : Money), sum.currency = toUpperCase currency →
      items.foldlM (fun sum item => do sum.add (← item.unitPrice.multiply item.quantity)) sum = .ok total →
      total.currency = toUpperCase currency := by
    intro items
    induction items with
    | nil =>
        intro sum known summed
        cases summed
        exact known
    | cons item items inductionHypothesis =>
        intro sum known summed
        rw [List.foldlM_cons] at summed
        cases price : item.unitPrice.multiply item.quantity with
        | error error =>
            rw [price] at summed
            cases summed
        | ok price' =>
            cases next : sum.add price' with
            | error error =>
                simp only [price, next, bind, Except.bind] at summed
                cases summed
            | ok next' =>
                simp only [price, next, bind, Except.bind] at summed
                refine inductionHypothesis next' ?_ summed
                rw [Money.add_currency next, known, toUpperCase_toUpperCase]
  unfold orderTotal at summed
  cases start : Money.zero currency with
  | error error =>
      rw [start] at summed
      cases summed
  | ok zero =>
      rw [start] at summed
      exact folded items zero (Money.new_currency start) summed

/-- A new order.  The two dates are what `new Date()` gives at its end. -/
def createOrder (id : Uuid) (customerId : String) (items : List OrderItem) (currency : String)
    (idempotencyKey : Option String) (createdAt updatedAt : Date) : Except JsError Order :=
  if items = [] then .error (.error "Order must have at least one item")
  else do
    let total ← orderTotal items currency
    return {
      id, customerId, status := .pending, totalAmount := total, currency := toUpperCase currency
      idempotencyKey, items, createdAt, updatedAt }

/-- What a created order consists of. -/
theorem createOrder_spec {id : Uuid} {customerId : String} {items : List OrderItem} {currency : String}
    {idempotencyKey : Option String} {createdAt updatedAt : Date} {order : Order}
    (made : createOrder id customerId items currency idempotencyKey createdAt updatedAt = .ok order) :
    ∃ total, orderTotal items currency = .ok total ∧ order = {
      id, customerId, status := .pending, totalAmount := total, currency := toUpperCase currency
      idempotencyKey, items, createdAt, updatedAt } := by
  unfold createOrder at made
  split at made
  · cases made
  · cases sum : orderTotal items currency with
    | error error =>
        rw [sum] at made
        cases made
    | ok total =>
        rw [sum] at made
        cases made
        exact ⟨total, rfl, rfl⟩

/-- The source's `TRANSITIONS`. -/
def transitions : OrderStatus → List OrderStatus
  | .pending => [.paid, .cancelled, .compensating]
  | .paid => [.fulfilled, .compensating]
  | .fulfilled => [.shipped, .compensating]
  | .shipped => []
  | .cancelled => []
  | .compensating => [.cancelled]

def canTransitionTo (order : Order) (newStatus : OrderStatus) : Bool :=
  (transitions order.status).contains newStatus

end Orderly
