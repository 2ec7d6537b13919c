import Orderly.Domain.SagaOrchestrator

/-!
# Intake

The calls that the order service and the API around it await, and what travels
in them: the statements of the transaction that creates an order, the job of
its saga, and the records of the idempotency store.

A record's response is stored as the text the client was sent and parsed again
for a replay, so it is kept as the value it stands for.
-/

namespace Orderly

open Process (Program Signature)

/-! ## Responses -/

/-- An item as the API shows it. -/
structure OrderItemResponse where
  id : Uuid
  sku : String
  quantity : Nat
  unitPrice : String
  deriving DecidableEq, Repr

/-- The object that answers an accepted order. -/
structure OrderResponse where
  id : Uuid
  customerId : String
  status : OrderStatus
  totalAmount : MoneyJson
  items : List OrderItemResponse
  createdAt : Date
  updatedAt : Date
  deriving DecidableEq, Repr

/-- An RFC 7807 problem.  `errors` lists fields with their messages. -/
structure ProblemDetails where
  type : String
  title : String
  status : Nat
  detail : String
  instanceUrl : Option String := none
  errors : List (String × String) := []
  deriving DecidableEq, Repr

inductive ResponseBody where
  | order (response : OrderResponse)
  | problem (problem : ProblemDetails)
  deriving DecidableEq, Repr

/-- What the idempotency store keeps under a key. -/
structure IdempotencyRecord where
  requestId : String
  status : Nat
  response : ResponseBody
  requestHash : String
  createdAt : Date
  deriving DecidableEq, Repr

/-! ## Calls -/

/-- A statement of the transaction that creates an order. -/
inductive IntakeStatement where
  | insertOrder (order : Order)
  | insertItems (items : List OrderItem)
  | insertOutboxEvent (id : Uuid) (event : NewOutboxEvent)

/-- The statements executed so far, oldest first. -/
abbrev IntakeTransaction := List IntakeStatement

inductive IntakeCall where
  | uuidv4
  | newDate
  | execute (statement : IntakeStatement)
  | commit (transaction : IntakeTransaction)
  | addJob (jobId : String) (data : SagaContext)
  | incr (key : String)
  | pexpireat (key : String) (time : Date)
  | get (key : String)
  | set (key : String) (record : IdempotencyRecord) (ttlSeconds : Nat)

namespace IntakeCall

def Reply : IntakeCall → Type
  | uuidv4 => Uuid
  | newDate => Date
  | incr _ => Nat
  | get _ => Option IdempotencyRecord
  | _ => Unit

end IntakeCall

/-- The signature of order intake. -/
def intake : Signature where
  Call := IntakeCall
  Reply := IntakeCall.Reply

abbrev Intake (α : Type) := Program intake JsError α

namespace Intake

def uuidv4 : Intake Uuid := Program.call (S := intake) .uuidv4

def newDate : Intake Date := Program.call (S := intake) .newDate

/-! ### Redis -/

def incr (key : String) : Intake Nat := Program.call (S := intake) (.incr key)

def pexpireat (key : String) (time : Date) : Intake Unit := Program.call (S := intake) (.pexpireat key time)

def get (key : String) : Intake (Option IdempotencyRecord) := Program.call (S := intake) (.get key)

def set (key : String) (record : IdempotencyRecord) (ttlSeconds : Nat) : Intake Unit :=
  Program.call (S := intake) (.set key record ttlSeconds)

/-! ### The repositories, the transaction manager and the queue -/

namespace OrderRepository

/-- Insert the order and, where it has any, all its items at once. -/
def createWithSql (order : Order) (tx : IntakeTransaction) : Intake IntakeTransaction := do
  Program.call (S := intake) (.execute (.insertOrder order))
  let tx := tx ++ [.insertOrder order]
  if order.items.length > 0 then
    Program.call (S := intake) (.execute (.insertItems order.items))
    return tx ++ [.insertItems order.items]
  else return tx

end OrderRepository

namespace OutboxRepository

def createWithSql (event : NewOutboxEvent) (tx : IntakeTransaction) : Intake IntakeTransaction := do
  let id ← uuidv4
  Program.call (S := intake) (.execute (.insertOutboxEvent id event))
  return tx ++ [.insertOutboxEvent id event]

end OutboxRepository

namespace TransactionManager

/-- `sql.begin(fn)`. -/
def begin (body : IntakeTransaction → Intake IntakeTransaction) : Intake Unit := do
  let tx ← body []
  Program.call (S := intake) (.commit tx)

end TransactionManager

namespace SagaEnqueuer

/-- The id that deduplicates by order. -/
def jobId (orderId : Uuid) : String := "saga-" ++ toString orderId

/-- The job's id is the one it was given. -/
def enqueue (context : SagaContext) : Intake String := do
  Program.call (S := intake) (.addJob (jobId context.orderId) context)
  return jobId context.orderId

end SagaEnqueuer

end Intake
end Orderly
