import Orderly.Domain.OrderService
import Orderly.Infrastructure.Database

/-!
# The backend of order intake

Beside the database of the sagas, intake writes `order_items`, the queue of
saga jobs and Redis.  A statement that breaks a constraint or does not fit its
columns fails, and a transaction takes effect as a whole or not at all.

Redis forgets: a record or a counter can be gone although it was written, and a
record is not returned after its time to live.
-/

namespace Orderly

open Store (Table)

/-- A row of `order_items`. -/
structure OrderItemRow where
  id : Uuid
  orderId : Uuid
  sku : String
  quantity : Nat
  unitPrice : String
  deriving DecidableEq, Repr

/-- What BullMQ does with a job at the moment. -/
inductive JobState where
  | waiting
  | active
  | delayed
  | completed
  | failed
  deriving DecidableEq, Repr

/-- A job of the queue `saga-execution`. -/
structure SagaJob where
  id : String
  data : SagaContext
  state : JobState := .waiting
  attemptsMade : Nat := 0
  deriving DecidableEq

/-- The unique constraint of `orders.idempotency_key`. -/
def idempotencyKeyViolation : JsError :=
  .error "duplicate key value violates unique constraint \"orders_idempotency_key_key\""

/-- PostgreSQL takes no character of code 0 in a text. -/
def invalidByte : JsError := .error "invalid byte sequence for encoding \"UTF8\": 0x00"

def valueTooLong (type : String) : JsError := .error ("value too long for type " ++ type)

def numericOverflow : JsError := .error "numeric field overflow"

namespace Database

variable (platform : Platform) (db : Database)

/-- The row `INSERT INTO orders` writes. -/
def orderRow (order : Order) : OrderRow where
  id := order.id
  customerId := order.customerId
  status := order.status
  totalAmount := order.totalAmount.amount
  currency := order.currency
  idempotencyKey := order.idempotencyKey
  createdAt := order.createdAt
  updatedAt := order.updatedAt

def itemRow (item : OrderItem) : OrderItemRow where
  id := item.id
  orderId := item.orderId
  sku := item.sku.value
  quantity := item.quantity
  unitPrice := item.unitPrice.amount

/-- A text that can be a parameter. -/
def encodes (text : String) : Bool := text.toList.all fun c => c.toNat ≠ 0

/-- A text that a `VARCHAR` column of this width takes. -/
def fitsText (width : Nat) (text : String) : Bool := text.length ≤ width && encodes text

/-- An amount with two decimals that `NUMERIC(12,2)` takes. -/
def fitsAmount (amount : String) : Bool := amount.length ≤ 13

def orderFits (row : OrderRow) : Bool :=
  fitsText 64 row.customerId && fitsAmount row.totalAmount && fitsText 3 row.currency &&
    row.idempotencyKey.all (fitsText 255)

def itemFits (row : OrderItemRow) : Bool :=
  fitsText 64 row.sku && decide (row.quantity ≤ intMax) && fitsAmount row.unitPrice

/-- Why a row of `orders` is refused: its parameters are read first, then its columns in turn. -/
def orderComplaint (row : OrderRow) : JsError :=
  if !(encodes row.customerId && encodes row.currency && row.idempotencyKey.all encodes) then invalidByte
  else if !fitsText 64 row.customerId then valueTooLong "character varying(64)"
  else if !fitsAmount row.totalAmount then numericOverflow
  else if !fitsText 3 row.currency then valueTooLong "character(3)"
  else valueTooLong "character varying(255)"

/-- What keeps an item from being sent. -/
def itemParameters (row : OrderItemRow) : Option JsError :=
  if !encodes row.sku then some invalidByte
  else if intMax < row.quantity then some (parameterOutOfRange row.quantity)
  else none

/-- What keeps an item from being stored. -/
def itemColumns (row : OrderItemRow) : Option JsError :=
  if !fitsText 64 row.sku then some (valueTooLong "character varying(64)")
  else if !fitsAmount row.unitPrice then some numericOverflow
  else none

/-- Why the rows of one `INSERT` into `order_items` are refused. -/
def itemsComplaint (rows : List OrderItemRow) : JsError :=
  ((rows.findSome? itemParameters).or (rows.findSome? itemColumns)).getD numericOverflow

/-- A row that fits is not what is complained of. -/
theorem itemsComplaint_cons {row : OrderItemRow} (fits : itemFits row = true) (rows : List OrderItemRow) :
    itemsComplaint (row :: rows) = itemsComplaint rows := by
  unfold itemFits at fits
  simp only [Bool.and_eq_true, decide_eq_true_eq] at fits
  rcases fits with ⟨⟨sku, quantity⟩, amount⟩
  have encoded : encodes row.sku = true := (Bool.and_eq_true_iff.mp sku).2
  have sent : itemParameters row = none := by simp [itemParameters, encoded, quantity]
  have stored : itemColumns row = none := by simp [itemColumns, sku, amount]
  simp [itemsComplaint, sent, stored]

/-- `UNIQUE` lets any number of rows without a key stand side by side. -/
def keyTaken (key : Option String) : Bool := key.isSome && db.orders.rows.any fun row => row.idempotencyKey = key

def insertOrder (row : OrderRow) : Except JsError Database :=
  if !orderFits row then .error (orderComplaint row)
  else if db.keyTaken row.idempotencyKey then .error idempotencyKeyViolation
  else match inserted : db.orders.insert row with
    | none => .error uniqueViolation
    | some orders => .ok
        { db with
          orders := orders
          sagas_order := by
            intro saga member
            rw [Table.lookup_insert _ inserted]
            split
            · rfl
            · exact db.sagas_order saga member }

end Database

/-- Everything behind the API: the database with the supply of identifiers and time,
the remaining table, the queue, and what Redis holds under its keys. -/
structure Backend where
  world : World
  items : Table OrderItemRow Uuid OrderItemRow.id
  jobs : List SagaJob := []
  records : List (String × IdempotencyRecord × Date) := []
  counters : List (String × Nat) := []

namespace Backend

variable (platform : Platform) (backend : Backend)

/-- One `INSERT` for all rows, each of which needs its order. -/
def insertItems : List OrderItemRow → Backend → Except JsError Backend
  | [], backend => .ok backend
  | row :: rows, backend =>
      if !Database.itemFits row then .error (Database.itemsComplaint (row :: rows))
      else if (backend.world.db.orders.lookup row.orderId).isNone then .error foreignKeyViolation
      else match backend.items.insert row with
        | none => .error uniqueViolation
        | some items => insertItems rows { backend with items }

/-- The effect of one statement, seen when its transaction commits. -/
def apply : IntakeStatement → Except JsError Backend
  | .insertOrder order =>
      (backend.world.db.insertOrder (Database.orderRow order)).map fun db => { backend with world.db := db }
  | .insertItems items => insertItems (items.map Database.itemRow) backend
  | .insertOutboxEvent id event =>
      match backend.world.db.outbox.insert (Database.outboxRow platform backend.world.clock id event) with
      | none => .error uniqueViolation
      | some outbox => .ok { backend with world.db.outbox := outbox }

/-- All statements of a transaction, or none of them. -/
def commit (backend : Backend) : IntakeTransaction → Except JsError Backend
  | [] => .ok backend
  | statement :: rest => (apply platform backend statement).bind fun backend => commit backend rest

/-- A job whose id the queue knows is not added again. -/
def addJob (jobId : String) (data : SagaContext) : Backend :=
  if backend.jobs.any (fun job => job.id = jobId) then backend
  else { backend with jobs := backend.jobs ++ [{ id := jobId, data }] }

/-- What `GET` finds under a key. -/
def record (key : String) : Option IdempotencyRecord :=
  (backend.records.find? fun entry => entry.1 = key ∧ backend.world.clock < entry.2.2).map fun entry => entry.2.1

def forget (key : String) : Backend :=
  { backend with records := backend.records.filter fun entry => entry.1 ≠ key }

/-- `SET … EX`. -/
def setRecord (key : String) (record : IdempotencyRecord) (ttlSeconds : Nat) : Backend :=
  { backend.forget key with
    records := (key, record, backend.world.clock + 1000 * ttlSeconds) :: (backend.forget key).records }

def counter (key : String) : Nat := ((backend.counters.find? fun entry => entry.1 = key).map Prod.snd).getD 0

def setCounter (key : String) (count : Nat) : Backend :=
  { backend with counters := (key, count) :: backend.counters.filter fun entry => entry.1 ≠ key }

/-- A call that is carried out.  `refuse` means that Redis has lost the key. -/
def effect : (call : IntakeCall) → Choice → Except JsError call.Reply × Backend
  | .uuidv4, _ => (.ok backend.world.nextUuid, { backend with world.nextUuid := backend.world.nextUuid + 1 })
  | .newDate, _ => (.ok backend.world.clock, { backend with world.clock := backend.world.clock + 1 })
  | .execute _, _ => (.ok (), backend)
  | .commit transaction, _ =>
      match commit platform backend transaction with
      | .ok committed => (.ok (), committed)
      | .error error => (.error error, backend)
  | .addJob jobId data, _ => (.ok (), backend.addJob jobId data)
  | .incr key, .refuse => (.ok (1 : Nat), backend.setCounter key 1)
  | .incr key, _ => (.ok (backend.counter key + 1 : Nat), backend.setCounter key (backend.counter key + 1))
  | .pexpireat _ _, _ => (.ok (), backend)
  | .get key, .refuse => (.ok none, backend.forget key)
  | .get key, _ => (.ok (backend.record key), backend)
  | .set key record ttlSeconds, _ => (.ok (), backend.setRecord key record ttlSeconds)

/-- Calls that are no awaits and cannot fail. -/
def isLocal : IntakeCall → Bool
  | .uuidv4 => true
  | .newDate => true
  | _ => false

/-- One call, with the environment's choice. -/
def perform (call : IntakeCall) : Choice → Except JsError call.Reply × Backend
  | .reject error => if isLocal call then backend.effect platform call .serve else (.error error, backend)
  | .lose error =>
      if isLocal call then backend.effect platform call .serve
      else (.error error, (backend.effect platform call .serve).2)
  | choice => backend.effect platform call choice

end Backend

end Orderly
