import Orderly.Domain.SagaOrchestrator

/-!
# `POST /admin/v1/sagas/:id/compensate`

The handler rebuilds a saga context from the persisted metadata and starts the
compensation without waiting for it, so the reply does not depend on how the
compensation ends.  Requests that `verifyAdminKey` turns away never get here.
-/

namespace Orderly
namespace AdminSagas

open Process (Program)

/-- An `application/problem+json` body. -/
structure ProblemDetails where
  type : String
  title : String
  status : Nat
  detail : String
  url : String

/-- What the handler sends. -/
inductive Reply where
  | problem (details : ProblemDetails)
  | sent (message : String) (orderId : Uuid)

def compensateUrl (id : Uuid) : String := "/admin/v1/sagas/" ++ toString id ++ "/compensate"

def notFound (id : Uuid) : ProblemDetails where
  type := "https://orderly.example.com/errors/not-found"
  title := "Not Found"
  status := 404
  detail := "Saga " ++ toString id ++ " not found"
  url := compensateUrl id

def invalidState (id : Uuid) (status : SagaStatus) : ProblemDetails where
  type := "https://orderly.example.com/errors/invalid-state"
  title := "Invalid State"
  status := 409
  detail := "Cannot compensate saga in status " ++ status.name ++
    ". Only RUNNING sagas can be manually compensated."
  url := compensateUrl id

/-! ## The rebuilt context -/

/-- `meta[key] ?? …`: an absent or null member leaves the default. -/
def metaMember (metadata : Json) (key : String) : Option Json :=
  match metadata.member? key with
  | some .null => none
  | found => found

/-- A member cast to `string`. -/
def textMember (metadata : Json) (key : String) : Option String :=
  match metaMember metadata key with
  | some (.str text) => some text
  | _ => none

/-- A member cast to a number. -/
def numberMember (metadata : Json) (key : String) : Option Nat :=
  match metaMember metadata key with
  | some (.num literal) => literal.toNat?
  | _ => none

/-- A member cast to `Array<{ sku: string; quantity: number }>`. -/
def itemsMember (metadata : Json) : Option (List InventoryReservation) :=
  match metaMember metadata "items" with
  | some (.arr items) => some (items.filterMap fun item =>
      match textMember item "sku", numberMember item "quantity" with
      | some sku, some quantity => some { sku, quantity }
      | _, _ => none)
  | _ => none

/-- A member cast to `{ amount: string; currency: string }`. -/
def totalMember (metadata : Json) : Option MoneyJson :=
  match metaMember metadata "totalAmount" with
  | some total =>
      match textMember total "amount", textMember total "currency" with
      | some amount, some currency => some { amount, currency }
      | _, _ => none
  | none => none

def rebuiltContext (saga : SagaInstance) : SagaContext where
  orderId := saga.orderId
  customerId := (textMember saga.metadata "customerId").getD ""
  items := (itemsMember saga.metadata).getD []
  totalAmount := (totalMember saga.metadata).getD { amount := "0.00", currency := "USD" }
  paymentToken := (textMember saga.metadata "paymentToken").getD ""

def compensateSaga (platform : Platform) (id : Uuid) : Service Reply := do
  match ← SagaRepository.findById id with
  | none => return .problem (notFound id)
  | some saga =>
      if saga.status ≠ .running then return .problem (invalidState id saga.status)
      else
        -- `void … .catch(log)`: the handler looks at no outcome
        let _ ← (SagaOrchestrator.compensate platform saga.id (rebuiltContext saga) saga).attempt
        return .sent ("Compensation triggered for saga " ++ toString saga.id) saga.orderId

/-- Metadata without members gives a context without items and with a zero
total. -/
theorem rebuiltContext_of_empty {saga : SagaInstance}
    (empty : ∀ key, saga.metadata.member? key = none) :
    rebuiltContext saga =
      { orderId := saga.orderId
        customerId := ""
        items := []
        totalAmount := { amount := "0.00", currency := "USD" }
        paymentToken := "" } := by
  simp only [rebuiltContext, textMember, itemsMember, totalMember, metaMember, empty,
    Option.getD_none]

end AdminSagas
end Orderly
