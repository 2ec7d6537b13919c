import Orderly.Process.Program
import Orderly.Domain.Saga
import Orderly.Domain.Order
import Mathlib.Data.List.Sort

/-!
# Ports

The calls the domain services await, and the routines over them.  Every
repository method, lock operation, gateway request and transaction statement
is one call.  Drawing a UUID and reading the clock are calls too, so that the
environment supplies the values; they never fail.

Logging and metrics are left out: the services await neither and read nothing
back from them.
-/

namespace Orderly

/-- Behaviour of the host language and of the database driver that the code
relies on but does not contain. -/
structure Platform where
  /-- `a.localeCompare(b)`. -/
  localeCompare : String → String → Int
  /-- What a column written through `toJson(value)::jsonb` reads back as. -/
  jsonb : Json → Json
  /-- An empty object never reads back with members. -/
  jsonb_empty : ∀ key, (jsonb (.obj [])).member? key = none

/-- A line of an order, as the inventory sees it. -/
structure InventoryReservation where
  sku : String
  quantity : Nat
  deriving DecidableEq, Repr

/-- `InventoryRecord`, one row of the table `inventory`. -/
structure InventoryRecord where
  sku : String
  available : Nat
  reserved : Nat
  version : Nat
  deriving DecidableEq, Repr

inductive OutboxStatus where
  | pending
  | published
  | failed
  deriving DecidableEq, Repr

structure OutboxEvent where
  id : Uuid
  aggregateType : String
  aggregateId : Uuid
  eventType : String
  payload : Json
  headers : Json
  status : OutboxStatus
  retryCount : Nat
  createdAt : Date
  processedAt : Option Date

/-- `Omit<OutboxEvent, 'id' | 'createdAt' | 'processedAt'>`. -/
structure NewOutboxEvent where
  aggregateType : String
  aggregateId : Uuid
  eventType : String
  payload : Json
  headers : Json
  status : OutboxStatus
  retryCount : Nat

/-- A statement executed inside a transaction. -/
inductive Statement where
  | updateOrderStatus (id : Uuid) (status : OrderStatus)
  | insertOutboxEvent (id : Uuid) (event : NewOutboxEvent)

/-- An open transaction: the statements executed so far, oldest first.  They
take effect together, when the transaction commits. -/
abbrev Transaction := List Statement

/-- `PaymentResult`, also the service's `PaymentChargeResult`. -/
structure PaymentResult where
  success : Bool
  transactionId : Option String
  errorCode : Option String
  errorMessage : Option String
  deriving DecidableEq, Repr

/-- The release function of one acquired lock. -/
structure LockRelease where
  id : Uuid
  resourceId : String
  deriving DecidableEq, Repr

inductive Call where
  | uuidv4
  | newDate
  | createSaga (saga : SagaInstance)
  | updateSaga (saga : SagaInstance)
  | findSagaById (id : Uuid)
  | createStep (step : SagaStep)
  | updateStep (step : SagaStep)
  | getSteps (sagaId : Uuid)
  | acquire (resourceId : String) (ttlMs : Nat)
  | unlock (release : LockRelease)
  | findBySku (sku : String)
  | reserve (sku : String) (quantity : Nat)
  | release (sku : String) (quantity : Nat)
  | breakerAdmits
  | charge (orderId : Uuid) (amount : Money) (token : String)
  | refund (transactionId : String) (amount : Money)
  | execute (statement : Statement)
  | commit (transaction : Transaction)

namespace Call

def Reply : Call → Type
  | uuidv4 => Uuid
  | newDate => Date
  | createSaga _ => Unit
  | updateSaga _ => Unit
  | findSagaById _ => Option SagaInstance
  | createStep _ => Unit
  | updateStep _ => Unit
  | getSteps _ => List SagaStep
  | acquire _ _ => Option LockRelease
  | unlock _ => Unit
  | findBySku _ => Option InventoryRecord
  | reserve _ _ => Bool
  | release _ _ => Bool
  | breakerAdmits => Bool
  | charge _ _ _ => PaymentResult
  | refund _ _ => PaymentResult
  | execute _ => Unit
  | commit _ => Unit

end Call

/-- The signature of the domain's ports. -/
def ports : Process.Signature where
  Call := Call
  Reply := Call.Reply

/-- A routine of the domain layer. -/
abbrev Service (α : Type) := Process.Program ports JsError α

open Process (Program)

def uuidv4 : Service Uuid := Program.call (S := ports) .uuidv4

def newDate : Service Date := Program.call (S := ports) .newDate

/-! ## Repositories -/

namespace SagaRepository

def create (saga : SagaInstance) : Service Unit := Program.call (S := ports) (.createSaga saga)

def update (saga : SagaInstance) : Service Unit := Program.call (S := ports) (.updateSaga saga)

def findById (id : Uuid) : Service (Option SagaInstance) :=
  Program.call (S := ports) (.findSagaById id)

def createStep (step : SagaStep) : Service Unit := Program.call (S := ports) (.createStep step)

def updateStep (step : SagaStep) : Service Unit := Program.call (S := ports) (.updateStep step)

def getSteps (sagaId : Uuid) : Service (List SagaStep) :=
  Program.call (S := ports) (.getSteps sagaId)

end SagaRepository

namespace InventoryRepository

def findBySku (sku : String) : Service (Option InventoryRecord) :=
  Program.call (S := ports) (.findBySku sku)

def reserve (sku : String) (quantity : Nat) : Service Bool :=
  Program.call (S := ports) (.reserve sku quantity)

def release (sku : String) (quantity : Nat) : Service Bool :=
  Program.call (S := ports) (.release sku quantity)

end InventoryRepository

namespace OrderRepository

/-- Executed on the given transaction, which it extends. -/
def updateStatus (id : Uuid) (status : OrderStatus) (tx : Transaction) : Service Transaction := do
  let statement := Statement.updateOrderStatus id status
  Program.call (S := ports) (.execute statement)
  return tx ++ [statement]

end OrderRepository

namespace OutboxRepository

/-- Draw an id and insert the event on the given transaction. -/
def createWithSql (event : NewOutboxEvent) (tx : Transaction) : Service Transaction := do
  let id ← uuidv4
  let statement := Statement.insertOutboxEvent id event
  Program.call (S := ports) (.execute statement)
  return tx ++ [statement]

end OutboxRepository

namespace TransactionManager

/-- `sql.begin(fn)`: an exception of the body rolls back, otherwise the
executed statements are committed as one. -/
def begin (body : Transaction → Service Transaction) : Service Unit := do
  let tx ← body []
  Program.call (S := ports) (.commit tx)

end TransactionManager

namespace LockManager

def acquire (resourceId : String) (ttlMs : Nat) : Service (Option LockRelease) :=
  Program.call (S := ports) (.acquire resourceId ttlMs)

/-- `await Promise.allSettled(releases.map((r) => r()))`: every release function
is called and no rejection is passed on. -/
def allSettled : List LockRelease → Service Unit
  | [] => return ()
  | release :: rest => do
      let _ ← (Program.call (S := ports) (.unlock release)).attempt
      allSettled rest

end LockManager

end Orderly
