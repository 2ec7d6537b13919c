import Orderly.Domain.OrderService

/-!
# CreateOrderSchema

The body of a POST, checked field by field in the schema's order.  Every check
that fails adds an issue with the path of its field, and a body without issues
is read into the order's input; members the schema does not name are dropped.
The route checks a JSON schema made from it as well, which measures differently.
-/

namespace Orderly

/-- A failed check. -/
structure Issue where
  path : List String
  message : String
  deriving DecidableEq, Repr

/-- The type zod names in its messages. -/
def typeName : Json → String
  | .null => "null"
  | .bool _ => "boolean"
  | .num _ => "number"
  | .str _ => "string"
  | .arr _ => "array"
  | .obj _ => "object"

/-- A value that is missing or of another type. -/
def invalidType (path : List String) (expected : String) : Option Json → List Issue
  | none => [⟨path, "Required"⟩]
  | some value => [⟨path, "Expected " ++ expected ++ ", received " ++ typeName value⟩]

/-- Issues of the checks that fail. -/
def failing (path : List String) (checks : List (Bool × String)) : List Issue :=
  checks.filterMap fun check => if check.1 then none else some ⟨path, check.2⟩

def stringIssues (path : List String) (checks : String → List (Bool × String)) : Option Json → List Issue
  | some (.str text) => failing path (checks text)
  | value => invalidType path "string" value

namespace Decimal

/-- The integer a literal stands for, if it stands for one. -/
def integer? : Decimal → Option Int
  | finite negative coefficient exponent =>
      if 0 ≤ exponent then some (signed negative (coefficient * 10 ^ exponent.toNat))
      else if coefficient % 10 ^ (-exponent).toNat = 0 then
        some (signed negative (coefficient / 10 ^ (-exponent).toNat))
      else none
  | _ => none

def isPositive : Decimal → Bool
  | finite negative coefficient _ => !negative && coefficient != 0
  | infinity negative => !negative
  | nan => false

def atMost (bound : Nat) : Decimal → Bool
  | finite negative coefficient exponent =>
      negative || decide (coefficient * 10 ^ exponent.toNat ≤ bound * 10 ^ (-exponent).toNat)
  | infinity negative => negative
  | nan => false

end Decimal

/-- The number of a JSON literal, which JavaScript prints as it is. -/
def decimalOf (literal : String) : Decimal :=
  match Decimal.parse literal with
  | .ok value => value
  | .error _ => .nan

def numberOf (literal : String) : JsNumber := ⟨literal, (decimalOf literal).integer?⟩

/-- `/^\d+\.\d{2}$/`. -/
def isUnitPrice (text : String) : Bool :=
  let (whole, rest) := text.toList.span Decimal.isDigit
  match rest with
  | ['.', a, b] => !whole.isEmpty && Decimal.isDigit a && Decimal.isDigit b
  | _ => false

namespace CreateOrderItemSchema

def skuIssues (path : List String) : Option Json → List Issue :=
  stringIssues path fun text => [
    (decide (1 ≤ jsLength text), "String must contain at least 1 character(s)"),
    (decide (jsLength text ≤ 64), "String must contain at most 64 character(s)"),
    (text != "" && text.toList.all SKU.isValid, "SKU must be alphanumeric with hyphens and underscores")]

def quantityIssues (path : List String) : Option Json → List Issue
  | some (.num literal) => failing path [
      ((decimalOf literal).integer?.isSome, "Expected integer, received float"),
      ((decimalOf literal).isPositive, "Number must be greater than 0"),
      ((decimalOf literal).atMost 1000, "Number must be less than or equal to 1000")]
  | value => invalidType path "number" value

def unitPriceIssues (path : List String) : Option Json → List Issue :=
  stringIssues path fun text => [(isUnitPrice text, "unitPrice must be in format \"29.99\"")]

def issues (path : List String) : Json → List Issue
  | .obj members =>
      skuIssues (path ++ ["sku"]) ((Json.obj members).member? "sku") ++
        quantityIssues (path ++ ["quantity"]) ((Json.obj members).member? "quantity") ++
        unitPriceIssues (path ++ ["unitPrice"]) ((Json.obj members).member? "unitPrice")
  | value => invalidType path "object" (some value)

end CreateOrderItemSchema

/-- The validated body. -/
structure CreateOrderInput where
  customerId : String
  items : List OrderLine
  currency : String
  paymentToken : String
  deriving DecidableEq, Repr

namespace CreateOrderSchema

def boundedString (path : List String) (least most : Nat) : Option Json → List Issue :=
  stringIssues path fun text => [
    (decide (least ≤ jsLength text), "String must contain at least " ++ toString least ++ " character(s)"),
    (decide (jsLength text ≤ most), "String must contain at most " ++ toString most ++ " character(s)")]

def itemsIssues : Option Json → List Issue
  | some (.arr items) =>
      failing ["items"] [
        (decide (1 ≤ items.length), "Array must contain at least 1 element(s)"),
        (decide (items.length ≤ 50), "Array must contain at most 50 element(s)")] ++
        (items.zipIdx.map fun (item, index) => CreateOrderItemSchema.issues ["items", toString index] item).flatten
  | value => invalidType ["items"] "array" value

/-- `.default('USD')` stands in for a missing currency. -/
def currencyIssues : Option Json → List Issue
  | none => []
  | value => stringIssues ["currency"]
      (fun text => [(jsLength text == 3, "String must contain exactly 3 character(s)")]) value

def issues : Json → List Issue
  | .obj members =>
      boundedString ["customerId"] 1 64 ((Json.obj members).member? "customerId") ++
        itemsIssues ((Json.obj members).member? "items") ++
        currencyIssues ((Json.obj members).member? "currency") ++
        boundedString ["paymentToken"] 1 512 ((Json.obj members).member? "paymentToken")
  | value => invalidType [] "object" (some value)

def textOf : Option Json → String
  | some (.str text) => text
  | _ => ""

def lineOf (item : Json) : OrderLine where
  sku := textOf (item.member? "sku")
  quantity := match item.member? "quantity" with
    | some (.num literal) => numberOf literal
    | _ => numberOf ""
  unitPrice := textOf (item.member? "unitPrice")

def input (body : Json) : CreateOrderInput where
  customerId := textOf (body.member? "customerId")
  items := match body.member? "items" with
    | some (.arr items) => items.map lineOf
    | _ => []
  currency := match body.member? "currency" with
    | none => "USD"
    | value => textOf value
  paymentToken := textOf (body.member? "paymentToken")

def parse (body : Json) : Except (List Issue) CreateOrderInput :=
  if (issues body).isEmpty then .ok (input body) else .error (issues body)

end CreateOrderSchema

/-! ## The JSON schema of the route

`zodToJsonSchema(CreateOrderSchema)`, against which Fastify checks a body before
any handler sees it.  Its lengths count characters, where zod counts code units.
A value of another type is coerced before, and a missing currency filled in.
-/

/-- A text of so many characters, at least and at most. -/
def lengthBetween (least most : Nat) (text : String) : Bool :=
  decide (least ≤ text.length) && decide (text.length ≤ most)

/-- `type: 'string'` with its checks. -/
def jsonText (check : String → Bool) : Option Json → Bool
  | some (.str text) => check text
  | _ => false

namespace CreateOrderItemSchema

/-- `type: 'integer'`, `exclusiveMinimum: 0`, `maximum: 1000`. -/
def jsonQuantity : Option Json → Bool
  | some (.num literal) => (decimalOf literal).integer?.isSome && (decimalOf literal).isPositive &&
      (decimalOf literal).atMost 1000
  | _ => false

def jsonSchema : Json → Bool
  | .obj members =>
      jsonText (fun text => lengthBetween 1 64 text && text != "" && text.toList.all SKU.isValid)
        ((Json.obj members).member? "sku") &&
      jsonQuantity ((Json.obj members).member? "quantity") &&
      jsonText isUnitPrice ((Json.obj members).member? "unitPrice")
  | _ => false

end CreateOrderItemSchema

namespace CreateOrderSchema

/-- `minItems: 1`, `maxItems: 50`. -/
def jsonItems : Option Json → Bool
  | some (.arr items) => decide (1 ≤ items.length) && decide (items.length ≤ 50) &&
      items.all CreateOrderItemSchema.jsonSchema
  | _ => false

/-- The one member that is not required. -/
def jsonCurrency : Option Json → Bool
  | none => true
  | value => jsonText (lengthBetween 3 3) value

def jsonSchema : Json → Bool
  | .obj members =>
      jsonText (lengthBetween 1 64) ((Json.obj members).member? "customerId") &&
      jsonItems ((Json.obj members).member? "items") &&
      jsonCurrency ((Json.obj members).member? "currency") &&
      jsonText (lengthBetween 1 512) ((Json.obj members).member? "paymentToken")
  | _ => false

end CreateOrderSchema

namespace CreateOrderInput

/-- The body that validation leaves behind. -/
def toJson (input : CreateOrderInput) : Json :=
  .obj [
    ("customerId", .str input.customerId),
    ("items", .arr (input.items.map fun line =>
      .obj [("sku", .str line.sku), ("quantity", .num line.quantity.text), ("unitPrice", .str line.unitPrice)])),
    ("currency", .str input.currency),
    ("paymentToken", .str input.paymentToken)]

end CreateOrderInput

/-! ## What the schema returns it accepts -/

section Accepted

variable {path path' : List String} {body : Json} {value : Option Json}

theorem failing_eq_nil {checks : List (Bool × String)} :
    failing path checks = [] ↔ ∀ check ∈ checks, check.1 = true := by
  unfold failing
  rw [List.filterMap_eq_nil_iff]
  constructor
  · intro none check member
    have passed := none check member
    cases verdict : check.1 with
    | true => rfl
    | false => simp [verdict] at passed
  · intro all check member
    rw [all check member]
    rfl

theorem stringIssues_eq_nil {checks : String → List (Bool × String)} :
    stringIssues path checks value = [] ↔ ∃ text, value = some (.str text) ∧ ∀ check ∈ checks text, check.1 = true := by
  unfold stringIssues
  split
  · next text =>
      rw [failing_eq_nil]
      constructor
      · exact fun all => ⟨text, rfl, all⟩
      · rintro ⟨other, same, all⟩
        cases same
        exact all
  · next other =>
      constructor
      · intro none
        cases value <;> cases none
      · rintro ⟨text, rfl, _⟩
        exact absurd rfl (other text)

end Accepted

end Orderly
