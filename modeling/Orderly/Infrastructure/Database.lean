import Orderly.Domain.Ports
import Orderly.Store.Table

/-!
# The database behind the repositories

The tables of the migrations, and the statement each repository method sends.
A statement is atomic.  The primary keys and the two foreign keys of the saga
tables are fields of `Database`, so a database that violates them cannot be
built.  Both CHECK constraints of `inventory` hold because its counters are
natural numbers; an `INT` that would overflow aborts the statement instead.
-/

namespace Orderly

open Store (Table)

/-- A row of `orders`.  NUMERIC columns are read as text. -/
structure OrderRow where
  id : Uuid
  customerId : String
  status : OrderStatus
  totalAmount : String
  currency : String
  idempotencyKey : Option String
  createdAt : Date
  updatedAt : Date

structure Database where
  orders : Table OrderRow Uuid OrderRow.id
  inventory : Table InventoryRecord String InventoryRecord.sku
  sagas : Table SagaInstance Uuid SagaInstance.id
  steps : Table SagaStep Uuid SagaStep.id
  outbox : Table OutboxEvent Uuid OutboxEvent.id
  sagas_order : ∀ saga ∈ sagas.rows, (orders.lookup saga.orderId).isSome
  steps_saga : ∀ step ∈ steps.rows, (sagas.lookup step.sagaId).isSome

theorem Database.noSagas_order : ∀ saga ∈ (.empty : Table SagaInstance Uuid SagaInstance.id).rows,
    ((.empty : Table OrderRow Uuid OrderRow.id).lookup saga.orderId).isSome := by
  intro saga member
  cases member

theorem Database.noSteps_saga : ∀ step ∈ (.empty : Table SagaStep Uuid SagaStep.id).rows,
    ((.empty : Table SagaInstance Uuid SagaInstance.id).lookup step.sagaId).isSome := by
  intro step member
  cases member

/-- The largest value of an `INT` column. -/
def intMax : Nat := 2147483647

/-- PostgreSQL's refusal of a sum that is no `INT`. -/
def outOfRange : JsError := .error "integer out of range"

/-- PostgreSQL's refusal of a parameter that is no `INT`. -/
def parameterOutOfRange (value : Nat) : JsError :=
  .error ("value \"" ++ toString value ++ "\" is out of range for type integer")

def uniqueViolation : JsError := .error "duplicate key value violates unique constraint"

def foreignKeyViolation : JsError := .error "insert or update violates foreign key constraint"

namespace Database

variable (platform : Platform) (db : Database)

/-! ## saga_instances and saga_steps -/

/-- The row `INSERT INTO saga_instances` writes. -/
def sagaRow (saga : SagaInstance) : SagaInstance :=
  { saga with metadata := platform.jsonb saga.metadata }

def createSaga (saga : SagaInstance) : Except JsError Database :=
  if order : (db.orders.lookup saga.orderId).isSome then
    match inserted : db.sagas.insert (sagaRow platform saga) with
    | none => .error uniqueViolation
    | some sagas => .ok
        { db with
          sagas := sagas
          sagas_order := by
            intro row member
            rcases (Table.mem_insert inserted).mp member with earlier | rfl
            · exact db.sagas_order row earlier
            · exact order
          steps_saga := by
            intro step member
            rw [Table.lookup_insert _ inserted]
            split
            · rfl
            · exact db.steps_saga step member }
  else .error foreignKeyViolation

/-- The columns `UPDATE saga_instances` sets. -/
def setSaga (saga row : SagaInstance) : SagaInstance :=
  { row with
    status := saga.status
    currentStep := saga.currentStep
    completedAt := saga.completedAt
    metadata := platform.jsonb saga.metadata }

@[simp] theorem setSaga_id (saga row : SagaInstance) : (setSaga platform saga row).id = row.id := rfl

def updateSaga (saga : SagaInstance) : Database :=
  { db with
    sagas := db.sagas.update saga.id (setSaga platform saga) (setSaga_id platform saga)
    sagas_order := by
      intro row member
      rcases Table.mem_update.mp member with ⟨old, earlier, rfl⟩
      have known := db.sagas_order old earlier
      split
      · exact known
      · exact known
    steps_saga := by
      intro step member
      rw [Table.lookup_update_isSome]
      exact db.steps_saga step member }

/-- `toDomainSaga`: `row.metadata ?? {}`. -/
def toDomainSaga (row : SagaInstance) : SagaInstance :=
  { row with metadata := match row.metadata with
      | .null => .obj []
      | metadata => metadata }

def findSagaById (id : Uuid) : Option SagaInstance := (db.sagas.lookup id).map toDomainSaga

/-- The unfinished sagas that were started so many minutes ago, oldest first. -/
def findRunningSagas (now : Date) (olderThanMinutes : Nat) : List SagaInstance :=
  ((db.sagas.rows.filter fun row =>
      (row.status = .running ∨ row.status = .compensating) ∧ row.startedAt + 60000 * olderThanMinutes < now).insertionSort
    fun row other => row.startedAt ≤ other.startedAt).map toDomainSaga

def stepRow (step : SagaStep) : SagaStep :=
  { step with
    inputPayload := platform.jsonb step.inputPayload
    outputPayload := platform.jsonb step.outputPayload }

def createStep (step : SagaStep) : Except JsError Database :=
  if saga : (db.sagas.lookup step.sagaId).isSome then
    match inserted : db.steps.insert (stepRow platform step) with
    | none => .error uniqueViolation
    | some steps => .ok
        { db with
          steps := steps
          steps_saga := by
            intro row member
            rcases (Table.mem_insert inserted).mp member with earlier | rfl
            · exact db.steps_saga row earlier
            · exact saga }
  else .error foreignKeyViolation

/-- The columns `UPDATE saga_steps` sets. -/
def setStep (step row : SagaStep) : SagaStep :=
  { row with
    status := step.status
    outputPayload := platform.jsonb step.outputPayload
    errorMessage := step.errorMessage
    completedAt := step.completedAt
    compensationStatus := step.compensationStatus
    compensationError := step.compensationError }

@[simp] theorem setStep_id (step row : SagaStep) : (setStep platform step row).id = row.id := rfl

def updateStep (step : SagaStep) : Database :=
  { db with
    steps := db.steps.update step.id (setStep platform step) (setStep_id platform step)
    steps_saga := by
      intro row member
      rcases Table.mem_update.mp member with ⟨old, earlier, rfl⟩
      have known := db.steps_saga old earlier
      split
      · exact known
      · exact known }

/-- `WHERE saga_id = … ORDER BY step_order ASC`. -/
def getSteps (sagaId : Uuid) : List SagaStep :=
  (db.steps.rows.filter fun step => step.sagaId = sagaId).insertionSort
    fun a b => a.stepOrder ≤ b.stepOrder

/-! ## inventory -/

/-- `SET quantity_available = quantity_available - …`. -/
def reserveRow (quantity : Nat) (row : InventoryRecord) : InventoryRecord :=
  { row with
    available := row.available - quantity
    reserved := row.reserved + quantity
    version := row.version + 1 }

@[simp] theorem reserveRow_sku (quantity : Nat) (row : InventoryRecord) :
    (reserveRow quantity row).sku = row.sku := rfl

/-- `UPDATE … WHERE sku = … AND quantity_available >= … RETURNING sku`. -/
def reserve (sku : String) (quantity : Nat) : Except JsError (Bool × Database) :=
  if intMax < quantity then .error (parameterOutOfRange quantity)
  else match db.inventory.lookup sku with
    | none => .ok (false, db)
    | some row =>
        if row.available < quantity then .ok (false, db)
        else if intMax < row.reserved + quantity ∨ intMax < row.version + 1 then .error outOfRange
        else .ok (true,
          { db with inventory := db.inventory.update sku (reserveRow quantity) (reserveRow_sku quantity) })

/-- `SET quantity_reserved = GREATEST(0, quantity_reserved - …)`. -/
def releaseRow (quantity : Nat) (row : InventoryRecord) : InventoryRecord :=
  { row with
    available := row.available + quantity
    reserved := row.reserved - quantity
    version := row.version + 1 }

@[simp] theorem releaseRow_sku (quantity : Nat) (row : InventoryRecord) :
    (releaseRow quantity row).sku = row.sku := rfl

/-- `UPDATE … WHERE sku = … RETURNING sku`. -/
def release (sku : String) (quantity : Nat) : Except JsError (Bool × Database) :=
  if intMax < quantity then .error (parameterOutOfRange quantity)
  else match db.inventory.lookup sku with
    | none => .ok (false, db)
    | some row =>
        if intMax < row.available + quantity ∨ intMax < row.version + 1 then .error outOfRange
        else .ok (true,
          { db with inventory := db.inventory.update sku (releaseRow quantity) (releaseRow_sku quantity) })

/-! ## orders and outbox_events -/

/-- The columns `UPDATE orders` sets. -/
def setStatus (now : Date) (status : OrderStatus) (row : OrderRow) : OrderRow :=
  { row with status := status, updatedAt := now }

@[simp] theorem setStatus_id (now : Date) (status : OrderStatus) (row : OrderRow) :
    (setStatus now status row).id = row.id := rfl

def updateOrderStatus (now : Date) (id : Uuid) (status : OrderStatus) : Database :=
  { db with
    orders := db.orders.update id (setStatus now status) (setStatus_id now status)
    sagas_order := by
      intro saga member
      rw [Table.lookup_update_isSome]
      exact db.sagas_order saga member }

def outboxRow (now : Date) (id : Uuid) (event : NewOutboxEvent) : OutboxEvent where
  id := id
  aggregateType := event.aggregateType
  aggregateId := event.aggregateId
  eventType := event.eventType
  payload := platform.jsonb event.payload
  headers := platform.jsonb event.headers
  status := event.status
  retryCount := event.retryCount
  createdAt := now
  processedAt := none

/-- The effect of one statement, seen when its transaction commits. -/
def apply (now : Date) : Statement → Option Database
  | .updateOrderStatus id status => some (db.updateOrderStatus now id status)
  | .insertOutboxEvent id event =>
      (db.outbox.insert (outboxRow platform now id event)).map fun outbox => { db with outbox }

/-- All statements of a transaction, or none of them. -/
def commit (now : Date) (db : Database) : Transaction → Option Database
  | [] => some db
  | statement :: rest => (apply platform db now statement).bind fun db => commit now db rest

end Database

/-! ## Answering the calls of the ports -/

/-- The state the routines share: the database, and the environment's supply of
identifiers and time. -/
structure World where
  db : Database
  nextUuid : Nat
  clock : Date

/-- What the environment decides about one call. -/
inductive Choice where
  /-- The call takes effect and its answer arrives. -/
  | serve
  /-- The call takes effect, but the caller sees a rejection. -/
  | lose (error : JsError)
  /-- The call is rejected and has no effect. -/
  | reject (error : JsError)
  /-- The lock is held elsewhere, the circuit is open, the payment is declined. -/
  | refuse
  /-- The payment gateway's own answer. -/
  | answer (result : PaymentResult)

namespace Call

/-- Calls that are no awaits and cannot fail. -/
def isLocal : Call → Bool
  | uuidv4 => true
  | newDate => true
  | _ => false

end Call

/-- A declined payment. -/
def declined : PaymentResult where
  success := false
  transactionId := none
  errorCode := some "payment_failed"
  errorMessage := some "Payment processing failed"

/-- An approved payment with a new transaction id. -/
def approved (number : Nat) : PaymentResult where
  success := true
  transactionId := some ("ch_" ++ toString number)
  errorCode := none
  errorMessage := none

namespace World

variable (platform : Platform) (world : World)

/-- Keep the database a statement left, or report its error. -/
def settle {α : Type} (result : Except JsError (α × Database)) : Except JsError α × World :=
  match result with
  | .ok (value, db) => (.ok value, { world with db })
  | .error error => (.error error, world)

/-- The gateway's answer to a charge or a refund. -/
def gatewayAnswer : Choice → PaymentResult
  | .answer result => result
  | .refuse => declined
  | _ => approved world.nextUuid

/-- A call that is carried out. -/
def effect : (call : Call) → Choice → Except JsError call.Reply × World
  | .uuidv4, _ => (.ok world.nextUuid, { world with nextUuid := world.nextUuid + 1 })
  | .newDate, _ => (.ok world.clock, { world with clock := world.clock + 1 })
  | .createSaga saga, _ => world.settle ((world.db.createSaga platform saga).map fun db => ((), db))
  | .updateSaga saga, _ => (.ok (), { world with db := world.db.updateSaga platform saga })
  | .findSagaById id, _ => (.ok (world.db.findSagaById id), world)
  | .createStep step, _ => world.settle ((world.db.createStep platform step).map fun db => ((), db))
  | .updateStep step, _ => (.ok (), { world with db := world.db.updateStep platform step })
  | .getSteps sagaId, _ => (.ok (world.db.getSteps sagaId), world)
  | .acquire _ _, .refuse => (.ok none, world)
  | .acquire resourceId _, _ =>
      (.ok (some ⟨world.nextUuid, resourceId⟩), { world with nextUuid := world.nextUuid + 1 })
  | .unlock _, _ => (.ok (), world)
  | .findBySku sku, _ => (.ok (world.db.inventory.lookup sku), world)
  | .reserve sku quantity, _ => world.settle (world.db.reserve sku quantity)
  | .release sku quantity, _ => world.settle (world.db.release sku quantity)
  | .breakerAdmits, .refuse => (.ok false, world)
  | .breakerAdmits, _ => (.ok true, world)
  | .charge _ _ _, choice =>
      (.ok (world.gatewayAnswer choice), { world with nextUuid := world.nextUuid + 1 })
  | .refund _ _, choice =>
      (.ok (world.gatewayAnswer choice), { world with nextUuid := world.nextUuid + 1 })
  | .execute _, _ => (.ok (), world)
  | .commit transaction, _ =>
      match Database.commit platform world.clock world.db transaction with
      | some db => (.ok (), { world with db })
      | none => (.error uniqueViolation, world)

/-- One call, with the environment's choice. -/
def perform (call : Call) : Choice → Except JsError call.Reply × World
  | .reject error => if call.isLocal then world.effect platform call .serve else (.error error, world)
  | .lose error =>
      if call.isLocal then world.effect platform call .serve
      else (.error error, (world.effect platform call .serve).2)
  | choice => world.effect platform call choice

end World

end Orderly
