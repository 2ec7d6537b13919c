import Orderly.Api.Orders
import Orderly.Infrastructure.OrderRepository

/-!
# GET /api/v1/orders/:id

`findById` sends two statements, and either sees the tables as they are by
then.  Ids that are no UUIDs never get here.
-/

namespace Orderly

namespace OrderRepository

/-- `findById` where the items are selected later than the order. -/
def findAcross (precedes : Uuid → Uuid → Bool) (first second : Backend) (id : Uuid) : Except JsError (Option Order) :=
  match selectOrder first id with
  | none => .ok none
  | some row => (toDomain row (selectItems precedes second id)).map some

/-- Where nothing happens in between, it is `findById`. -/
theorem findAcross_same (precedes : Uuid → Uuid → Bool) (backend : Backend) (id : Uuid) :
    findAcross precedes backend backend id = findById precedes backend id := rfl

end OrderRepository

namespace OrderRoutes

def orderNotFound (url : String) (id : Uuid) : ProblemDetails where
  type := "https://orderly.example.com/errors/not-found"
  title := "Not Found"
  status := 404
  detail := "Order " ++ toString id ++ " not found"
  instanceUrl := some url

def getOrder (precedes : Uuid → Uuid → Bool) (url : String) (first second : Backend) (id : Uuid) :
    Except JsError ApiResponse := do
  match ← OrderRepository.findAcross precedes first second id with
  | none => return .ofProblem (orderNotFound url id)
  | some order => return { status := 200, body := .order (orderResponse order) }

end OrderRoutes

end Orderly
