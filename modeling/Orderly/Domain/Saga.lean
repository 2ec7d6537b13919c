import Orderly.Domain.Values

/-!
# Saga instances and steps

The entities of `saga.ts`.  A transition is a pure function to a new value; an
instance transition checks the status of the copy it is given and throws when
that copy is in the wrong state.
-/

namespace Orderly

inductive SagaStatus where
  | pending
  | running
  | completed
  | compensating
  | failed
  deriving DecidableEq, Repr

inductive StepStatus where
  | pending
  | running
  | completed
  | failed
  deriving DecidableEq, Repr

inductive CompensationStatus where
  | pending
  | running
  | completed
  | failed
  deriving DecidableEq, Repr

/-- The step names the orchestrator passes to `beginStep`. -/
inductive StepName where
  | reserveInventory
  | processPayment
  | confirmOrder
  | emitEvents
  deriving DecidableEq, Repr

structure SagaStep where
  id : Uuid
  sagaId : Uuid
  stepName : StepName
  stepOrder : Nat
  status : StepStatus
  inputPayload : Json
  outputPayload : Json
  errorMessage : Option String
  startedAt : Option Date
  completedAt : Option Date
  compensationStatus : CompensationStatus
  compensationError : Option String

structure SagaInstance where
  id : Uuid
  orderId : Uuid
  type : String
  status : SagaStatus
  currentStep : Nat
  startedAt : Date
  completedAt : Option Date
  metadata : Json

namespace SagaStatus

/-- The name used in error messages. -/
def name : SagaStatus → String
  | pending => "PENDING"
  | running => "RUNNING"
  | completed => "COMPLETED"
  | compensating => "COMPENSATING"
  | failed => "FAILED"

/-- No transition function of `saga.ts` accepts a saga in such a status. -/
def Terminal (status : SagaStatus) : Prop := status = completed ∨ status = failed

end SagaStatus

/-! ## Instance transitions -/

def createSagaInstance (id orderId : Uuid) (now : Date) : SagaInstance where
  id := id
  orderId := orderId
  type := "ORDER_FULFILLMENT"
  status := .pending
  currentStep := 0
  startedAt := now
  completedAt := none
  metadata := .obj []

def startSaga (saga : SagaInstance) : Except JsError SagaInstance :=
  if saga.status ≠ .pending then
    .error (.error ("Cannot start saga in status " ++ saga.status.name))
  else .ok { saga with status := .running }

def completeSaga (saga : SagaInstance) (now : Date) : Except JsError SagaInstance :=
  if saga.status ≠ .running then
    .error (.error ("Cannot complete saga in status " ++ saga.status.name))
  else .ok { saga with status := .completed, completedAt := some now }

def startCompensation (saga : SagaInstance) : Except JsError SagaInstance :=
  if saga.status ≠ .running then
    .error (.error ("Cannot compensate saga in status " ++ saga.status.name))
  else .ok { saga with status := .compensating }

def completeCompensation (saga : SagaInstance) (now : Date) : Except JsError SagaInstance :=
  if saga.status ≠ .compensating then
    .error (.error ("Cannot complete compensation in status " ++ saga.status.name))
  else .ok { saga with status := .failed, completedAt := some now }

/-! ## Step transitions -/

def createStep (id sagaId : Uuid) (stepName : StepName) (stepOrder : Nat) (inputPayload : Json)
    (now : Date) : SagaStep where
  id := id
  sagaId := sagaId
  stepName := stepName
  stepOrder := stepOrder
  status := .running
  inputPayload := inputPayload
  outputPayload := .null
  errorMessage := none
  startedAt := some now
  completedAt := none
  compensationStatus := .pending
  compensationError := none

def completeStep (step : SagaStep) (output : Json) (now : Date) : SagaStep :=
  { step with status := .completed, outputPayload := output, completedAt := some now }

def failStep (step : SagaStep) (error : String) (now : Date) : SagaStep :=
  { step with status := .failed, errorMessage := some error, completedAt := some now }

def markStepCompensated (step : SagaStep) : SagaStep :=
  { step with compensationStatus := .completed }

def markStepCompensationFailed (step : SagaStep) (error : String) : SagaStep :=
  { step with compensationStatus := .failed, compensationError := some error }

/-! ## What a successful transition says -/

theorem completeCompensation_ok {saga failed : SagaInstance} {now : Date}
    (ok : completeCompensation saga now = .ok failed) :
    saga.status = .compensating ∧
      failed = { saga with status := .failed, completedAt := some now } := by
  unfold completeCompensation at ok
  split at ok
  · cases ok
  · next accepted => exact ⟨not_not.mp accepted, (Except.ok.inj ok).symm⟩

end Orderly
