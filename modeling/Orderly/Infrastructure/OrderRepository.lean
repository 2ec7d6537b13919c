import Orderly.Domain.Amounts
import Orderly.Infrastructure.Backend

/-!
# Reading an order back

`findById` of the order repository.  A `CHAR(3)` column is filled up with
blanks, and the values are validated again on their way into the aggregate.
-/

namespace Orderly

/-- What a `CHAR` column of this width gives back. -/
def charText (width : Nat) (text : String) : String :=
  String.ofList (text.toList ++ List.replicate (width - text.length) ' ')

namespace OrderRepository

def toItem (currency : String) (row : OrderItemRow) : Except JsError OrderItem := do
  return {
    id := row.id
    orderId := row.orderId
    sku := ← SKU.new row.sku
    quantity := row.quantity
    unitPrice := ← Money.new row.unitPrice currency }

def toDomain (row : OrderRow) (itemRows : List OrderItemRow) : Except JsError Order := do
  let items ← itemRows.mapM (toItem row.currency)
  return {
    id := row.id
    customerId := row.customerId
    status := row.status
    totalAmount := ← Money.new row.totalAmount row.currency
    currency := row.currency
    idempotencyKey := row.idempotencyKey
    items
    createdAt := row.createdAt
    updatedAt := row.updatedAt }

/-- A row of `orders` as it is read. -/
def padded (row : OrderRow) : OrderRow := { row with currency := charText 3 row.currency }

/-- `SELECT * FROM orders`. -/
def selectOrder (backend : Backend) (id : Uuid) : Option OrderRow :=
  (backend.world.db.orders.lookup id).map padded

/-- `SELECT * FROM order_items … ORDER BY id`, with PostgreSQL's order of UUIDs. -/
def selectItems (precedes : Uuid → Uuid → Bool) (backend : Backend) (orderId : Uuid) : List OrderItemRow :=
  (backend.items.rows.filter fun row => row.orderId = orderId).mergeSort fun row other => precedes row.id other.id

def findById (precedes : Uuid → Uuid → Bool) (backend : Backend) (id : Uuid) : Except JsError (Option Order) :=
  match selectOrder backend id with
  | none => .ok none
  | some row => (toDomain row (selectItems precedes backend id)).map some

end OrderRepository

/-! ## What is read -/

/-- A full column holds the text itself. -/
theorem charText_full {text : String} {width : Nat} (full : width ≤ text.length) : charText width text = text := by
  unfold charText
  rw [Nat.sub_eq_zero_of_le full, List.replicate_zero, List.append_nil, String.ofList_toList]

namespace OrderRepository

variable {row : OrderRow} {itemRows : List OrderItemRow} {order : Order}

/-- A currency of three characters is read as it stands. -/
theorem padded_full (full : 3 ≤ row.currency.length) : padded row = row := by
  unfold padded
  rw [charText_full full]

theorem findById_selected {precedes : Uuid → Uuid → Bool} {backend : Backend} {id : Uuid}
    (selected : selectOrder backend id = some row) :
    findById precedes backend id = (toDomain row (selectItems precedes backend id)).map some := by
  unfold findById
  rw [selected]

/-- The item of a row. -/
def itemOf (currency : String) (row : OrderItemRow) : OrderItem where
  id := row.id
  orderId := row.orderId
  sku := ⟨row.sku⟩
  quantity := row.quantity
  unitPrice := { amount := row.unitPrice, currency }

/-- A row whose values are valid is read as it stands. -/
structure Readable (currency : String) (row : OrderItemRow) : Prop where
  sku : SKU.new row.sku = .ok ⟨row.sku⟩
  price : Money.new row.unitPrice currency = .ok { amount := row.unitPrice, currency }

theorem mapM_toItem {currency : String} (readable : ∀ row ∈ itemRows, Readable currency row) :
    itemRows.mapM (toItem currency) = .ok (itemRows.map (itemOf currency)) := by
  induction itemRows with
  | nil => rfl
  | cons row itemRows inductionHypothesis =>
      have valid := readable row List.mem_cons_self
      have rest := inductionHypothesis fun row later => readable row (List.mem_cons_of_mem _ later)
      have first : toItem currency row = .ok (itemOf currency row) := by
        unfold toItem
        rw [valid.sku, valid.price]
        rfl
      rw [List.mapM_cons, first, rest]
      rfl

theorem toDomain_readable (total : Money.new row.totalAmount row.currency =
      .ok { amount := row.totalAmount, currency := row.currency })
    (readable : ∀ item ∈ itemRows, Readable row.currency item) :
    ∃ order, toDomain row itemRows = .ok order ∧
      order.totalAmount = { amount := row.totalAmount, currency := row.currency } ∧
        order.items = itemRows.map (itemOf row.currency) := by
  unfold toDomain
  rw [mapM_toItem readable, total]
  exact ⟨_, rfl, rfl, rfl⟩

end OrderRepository

end Orderly
