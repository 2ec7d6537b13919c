import Orderly.Process.System
import Orderly.Infrastructure.Database
import Orderly.Api.AdminSagas

/-!
# The running system

Three kinds of routine act on the tables: a saga run, the saga worker's
processor, which is a saga run whose exception goes back to the queue, and the
admin compensation handler.  Any number of each may be in flight.
-/

namespace Orderly

open Process (Program System Config Move Event Log Thread)

/-- The saga worker's processor: it rethrows, so that the queue retries. -/
def processSagaJob (platform : Platform) (job : SagaContext) : Service Unit :=
  tryCatch (do
      let _result ← SagaOrchestrator.startSaga platform job
      return ())
    fun err => throw err

/-- What can be asked of the system. -/
inductive Task where
  | startSaga (context : SagaContext)
  | sagaJob (job : SagaContext)
  | compensateSaga (id : Uuid)
  deriving DecidableEq

inductive Outcome where
  | saga (saga : SagaInstance)
  | jobCompleted
  | reply (reply : AdminSagas.Reply)

def Task.program (platform : Platform) : Task → Service Outcome
  | .startSaga context => do return .saga (← SagaOrchestrator.startSaga platform context)
  | .sagaJob job => do
      processSagaJob platform job
      return .jobCompleted
  | .compensateSaga id => do return .reply (← AdminSagas.compensateSaga platform id)

def orderly (platform : Platform) : System ports JsError World Task Choice Outcome where
  program := Task.program platform
  perform := World.perform platform

/-- An answered call of a routine. -/
abbrev CallEvent := Event ports JsError World

/-- The calls of one routine, newest first. -/
abbrev CallLog := Log ports JsError World

/-- A state of the system. -/
abbrev Running := Config ports JsError World Task Outcome

/-- One routine of the system. -/
abbrev Routine := Thread ports JsError World Task Outcome

/-! ## A small shop

Concrete states for the runs that later modules look at. -/

/-- postgres.js serialises a parameter that the server describes as jsonb with
`JSON.stringify` and parses a jsonb column with `JSON.parse`, so what `toJson`
has already serialised reads back as a string.  Texts compare by code point. -/
def postgresJs : Platform where
  localeCompare a b := if a < b then -1 else if a = b then 0 else 1
  jsonb value := .str value.stringify
  jsonb_empty _ := rfl

/-- A driver that stores a payload as it is. -/
def plainDriver : Platform where
  localeCompare := postgresJs.localeCompare
  jsonb value := value
  jsonb_empty _ := rfl

def pendingOrder (id : Uuid) : OrderRow where
  id := id
  customerId := "customer"
  status := .pending
  totalAmount := "10.00"
  currency := "USD"
  idempotencyKey := none
  createdAt := 0
  updatedAt := 0

/-- Two pending orders, and some units of one SKU. -/
def smallShop (units : Nat) : World where
  db :=
    { orders := ⟨[pendingOrder 0, pendingOrder 1], by decide⟩
      inventory := ⟨[⟨"X", units, 0, 1⟩], by simp⟩
      sagas := .empty
      steps := .empty
      outbox := .empty
      sagas_order := fun _ member => by cases member
      steps_saga := Database.noSteps_saga }
  nextUuid := 100
  clock := 0

def chargedSaga : SagaInstance := { createSagaInstance 7 0 0 with status := .running }

def orderOf (orderId : Uuid) (quantity : Nat) : SagaContext where
  orderId := orderId
  customerId := "customer"
  items := [⟨"X", quantity⟩]
  totalAmount := { amount := "10.00", currency := "USD" }
  paymentToken := "tok"

/-- The step of a reservation. -/
def reserveStep : SagaStep :=
  completeStep (createStep 8 7 .reserveInventory 0 (orderOf 0 5).itemsPayload 0) (.obj [("reserved", .bool true)]) 0

/-- The step of a charge, completed with its transaction id. -/
def chargeStep : SagaStep :=
  completeStep (createStep 9 7 .processPayment 1 (orderOf 0 5).orderPayload 0)
    (.obj [("transactionId", .str "ch_1")]) 0

/-- The shop with a RUNNING saga whose charge has been recorded, as the repository writes it. -/
def chargedShop : World where
  db :=
    { orders := ⟨[pendingOrder 0], by decide⟩
      inventory := ⟨[⟨"X", 0, 5, 2⟩], by simp⟩
      sagas := ⟨[Database.sagaRow postgresJs chargedSaga], by decide⟩
      steps := ⟨[Database.stepRow postgresJs reserveStep, Database.stepRow postgresJs chargeStep], by decide⟩
      outbox := .empty
      sagas_order := by decide
      steps_saga := by decide }
  nextUuid := 100
  clock := 1

/-- Answer a routine's calls, so many of them, and let each take effect. -/
def serve (index calls : Nat) : List (Move Task Choice) :=
  List.replicate calls (.advance index .serve)

end Orderly
