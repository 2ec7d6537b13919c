import Orderly.Api.Orders
import Orderly.Domain.Amounts

/-!
# What the schema admits

The rules of the schema stand again in the constructors of `SKU`, `Money` and
the order's items.  They agree but for one: the schema counts the characters of
the currency as it is given, and `Money` counts them again once the currency is
in upper case.
-/

namespace Orderly

open Decimal

/-- The longest string that V8 makes, in code units. -/
def maxStringLength : Nat := 2 ^ 29 - 24

/-! ## A line -/

/-- What the schema knows of a line. -/
structure Sellable (line : OrderLine) : Prop where
  sku : line.sku ≠ "" ∧ jsLength line.sku ≤ 64 ∧ line.sku.toList.all SKU.isValid = true
  quantity : ∃ quantity : Nat, line.quantity.integer = some (quantity : Int) ∧ 1 ≤ quantity ∧ quantity ≤ 1000
  price : isUnitPrice line.unitPrice = true

/-- A positive integer literal stands for a number the bound holds for. -/
theorem integer_of_checks {value : Decimal} {bound : Nat} (whole : value.integer?.isSome = true)
    (positive : value.isPositive = true) (within : value.atMost bound = true) :
    ∃ quantity : Nat, value.integer? = some (quantity : Int) ∧ 1 ≤ quantity ∧ quantity ≤ bound := by
  cases value with
  | nan => cases positive
  | infinity negative => cases whole
  | finite negative coefficient exponent =>
      have parts := Bool.and_eq_true_iff.mp positive
      have sign : negative = false := by
        cases negative with
        | false => rfl
        | true => cases parts.1
      subst sign
      have some : 0 < coefficient := Nat.pos_of_ne_zero (bne_iff_ne.mp parts.2)
      have scaled : coefficient * 10 ^ exponent.toNat ≤ bound * 10 ^ (-exponent).toNat := of_decide_eq_true within
      simp only [Decimal.integer?] at whole ⊢
      split at whole
      · next above =>
          have flat : (-exponent).toNat = 0 := by omega
          rw [flat, Nat.pow_zero, Nat.mul_one] at scaled
          rw [if_pos above]
          exact ⟨_, rfl, Nat.mul_pos some (Nat.pow_pos (by decide)), scaled⟩
      · next below =>
          split at whole
          · next divides =>
              have flat : exponent.toNat = 0 := by omega
              rw [flat, Nat.pow_zero, Nat.mul_one] at scaled
              rw [if_neg below, if_pos divides]
              refine ⟨_, rfl, ?_, ?_⟩
              · exact Nat.div_pos (Nat.le_of_dvd some (Nat.dvd_of_mod_eq_zero divides)) (Nat.pow_pos (by decide))
              · apply Nat.div_le_of_le_mul
                rw [Nat.mul_comm]
                exact scaled
          · cases whole

/-- An item without issues is read into such a line. -/
theorem sellable_of_issues {path : List String} {item : Json} (none : CreateOrderItemSchema.issues path item = []) :
    Sellable (CreateOrderSchema.lineOf item) := by
  unfold CreateOrderItemSchema.issues at none
  split at none
  · next members =>
      have parts := List.append_eq_nil_iff.mp none
      have parts' := List.append_eq_nil_iff.mp parts.1
      rcases stringIssues_eq_nil.mp parts'.1 with ⟨sku, given, checks⟩
      rcases stringIssues_eq_nil.mp parts.2 with ⟨price, given', checks'⟩
      constructor
      · have pattern := checks _ (.tail _ (.tail _ (.head _)))
        have most := checks _ (.tail _ (.head _))
        have both := Bool.and_eq_true_iff.mp pattern
        unfold CreateOrderSchema.lineOf
        rw [given]
        exact ⟨bne_iff_ne.mp both.1, of_decide_eq_true most, both.2⟩
      · have quantity := parts'.2
        unfold CreateOrderItemSchema.quantityIssues at quantity
        split at quantity
        · next literal given'' =>
            have passed := failing_eq_nil.mp quantity
            unfold CreateOrderSchema.lineOf
            rw [given'']
            exact integer_of_checks (passed _ (.head _)) (passed _ (.tail _ (.head _)))
              (passed _ (.tail _ (.tail _ (.head _))))
        · unfold invalidType at quantity
          split at quantity <;> cases quantity
      · unfold CreateOrderSchema.lineOf
        rw [given']
        exact checks' _ (.head _)
  · unfold invalidType at none
    cases none

/-! ## The body -/

/-- What the schema knows of its input. -/
structure Admitted (input : CreateOrderInput) : Prop where
  currency : jsLength input.currency = 3
  some : input.items ≠ []
  most : input.items.length ≤ 50
  lines : ∀ line ∈ input.items, Sellable line

theorem admitted_of_parse {body : Json} {input : CreateOrderInput} (accepted : CreateOrderSchema.parse body = .ok input) :
    Admitted input := by
  unfold CreateOrderSchema.parse at accepted
  split at accepted
  · next empty =>
      cases accepted
      have none := List.isEmpty_iff.mp empty
      unfold CreateOrderSchema.issues at none
      split at none
      · next members =>
          have parts := List.append_eq_nil_iff.mp none
          have parts' := List.append_eq_nil_iff.mp parts.1
          have parts'' := List.append_eq_nil_iff.mp parts'.1
          have currency := parts'.2
          have items := parts''.2
          have code : jsLength (CreateOrderSchema.input (.obj members)).currency = 3 := by
            unfold CreateOrderSchema.input
            unfold CreateOrderSchema.currencyIssues at currency
            split at currency
            · next missing =>
                change jsLength "USD" = 3
                decide
            · rcases stringIssues_eq_nil.mp currency with ⟨text, given, checks⟩
              rw [given]
              exact beq_iff_eq.mp (checks _ (.head _))
          unfold CreateOrderSchema.itemsIssues at items
          split at items
          · next listed given =>
              have lengths := failing_eq_nil.mp (List.append_eq_nil_iff.mp items).1
              have each := List.flatten_eq_nil_iff.mp (List.append_eq_nil_iff.mp items).2
              have lines : (CreateOrderSchema.input (.obj members)).items = listed.map CreateOrderSchema.lineOf := by
                unfold CreateOrderSchema.input
                rw [given]
              have least : 1 ≤ listed.length := of_decide_eq_true (lengths _ (.head _))
              refine ⟨code, ?_, ?_, ?_⟩
              · rw [lines]
                apply List.ne_nil_of_length_pos
                rw [List.length_map]
                exact least
              · rw [lines, List.length_map]
                exact of_decide_eq_true (lengths _ (.tail _ (.head _)))
              · rw [lines]
                intro line member
                rcases List.mem_map.mp member with ⟨item, present, rfl⟩
                rcases List.mem_iff_getElem.mp present with ⟨index, below, rfl⟩
                have indexed : (listed[index], index) ∈ listed.zipIdx :=
                  List.mk_mem_zipIdx_iff_getElem?.mpr (List.getElem?_eq_getElem below)
                exact sellable_of_issues (each _ (List.mem_map.mpr ⟨_, indexed, rfl⟩))
          · unfold invalidType at items
            split at items <;> cases items
      · unfold invalidType at none
        cases none
  · cases accepted

/-- The route's schema counts three characters in the currency. -/
theorem currency_of_jsonSchema {body : Json} {input : CreateOrderInput} (typed : CreateOrderSchema.jsonSchema body = true)
    (accepted : CreateOrderSchema.parse body = .ok input) : input.currency.length = 3 := by
  unfold CreateOrderSchema.parse at accepted
  split at accepted
  · next empty =>
      cases accepted
      unfold CreateOrderSchema.jsonSchema at typed
      split at typed
      · next members =>
          have currency := (Bool.and_eq_true_iff.mp (Bool.and_eq_true_iff.mp typed).1).2
          unfold CreateOrderSchema.jsonCurrency at currency
          unfold CreateOrderSchema.input
          split at currency
          · change "USD".length = 3
            decide
          · unfold jsonText at currency
            split at currency
            · next text given =>
                rw [given]
                have bounds := Bool.and_eq_true_iff.mp currency
                exact Nat.le_antisymm (of_decide_eq_true bounds.2) (of_decide_eq_true bounds.1)
            · cases currency
      · cases typed
  · cases accepted

/-! ## The items and the order -/

/-- An admitted price is digits, a point and two digits. -/
theorem unitPrice_pointed {text : String} (price : isUnitPrice text = true) : ∃ whole fraction,
    text = String.ofList (whole ++ '.' :: fraction) ∧ whole ≠ [] ∧ fraction.length = 2 ∧
      (∀ c ∈ whole, Decimal.isDigit c = true) ∧ ∀ c ∈ fraction, Decimal.isDigit c = true := by
  unfold isUnitPrice at price
  rw [List.span_eq_takeWhile_dropWhile] at price
  have digits : ∀ c ∈ text.toList.takeWhile Decimal.isDigit, Decimal.isDigit c = true :=
    List.all_eq_true.mp List.all_takeWhile
  have whole := List.takeWhile_append_dropWhile (p := Decimal.isDigit) (l := text.toList)
  simp only at price
  split at price
  · next a b rest =>
      have parts := Bool.and_eq_true_iff.mp price
      have parts' := Bool.and_eq_true_iff.mp parts.1
      refine ⟨text.toList.takeWhile Decimal.isDigit, [a, b], ?_, ?_, rfl, digits, ?_⟩
      · rw [← rest, whole, String.ofList_toList]
      · intro none
        rw [none] at parts'
        cases parts'.1
      · intro c member
        rcases List.mem_cons.mp member with rfl | later
        · exact parts'.2
        · cases List.mem_singleton.mp later
          exact parts.2
  · cases price

theorem maxStringLength_le : ((maxStringLength + 104 : Nat) : Int) ≤ maxExponent + 3 := by decide

section Building

variable {line : OrderLine} {currency : String} {id orderId : Uuid}

/-- Its amount has fewer digits than the text has characters. -/
theorem unitPrice_units (price : isUnitPrice line.unitPrice = true) (short : jsLength line.unitPrice ≤ maxStringLength) :
    ∃ units, Decimal.parse line.unitPrice = .ok (readUnits units) ∧ units < 10 ^ maxStringLength := by
  rcases unitPrice_pointed price with ⟨whole, fraction, text, some, places, digits, digits'⟩
  refine ⟨ofDigits (whole ++ fraction), ?_, ?_⟩
  · rw [text, parse_pointed some digits digits', places]
    rfl
  · have length := length_le_jsLength line.unitPrice
    rw [text, String.length_ofList, List.length_append, List.length_cons] at length
    rw [text] at short
    refine (ofDigits_lt (List.forall_mem_append.mpr ⟨digits, digits'⟩)).trans_le ?_
    apply Nat.pow_le_pow_right (by decide)
    rw [List.length_append]
    omega

/-- A line that the schema admits becomes an item. -/
theorem createOrderItem_sellable (code : jsLength currency = 3) (sellable : Sellable line)
    (short : jsLength line.unitPrice ≤ maxStringLength) :
    ∃ item, createOrderItem id orderId line.sku line.quantity line.unitPrice currency = .ok item ∧
      priceOf item < 10 ^ maxStringLength ∧ item.quantity ≤ 1000 := by
  rcases unitPrice_units sellable.price short with ⟨units, parsed, bound⟩
  rcases sellable.quantity with ⟨quantity, whole, positive, most⟩
  have readable : Readable units := by
    apply readable_of_lt (by decide) bound
    have within := maxStringLength_le
    omega
  have price := Money.new_of_parse parsed code readable
  have sku : SKU.new line.sku = .ok ⟨line.sku⟩ := by
    unfold SKU.new
    have wide := sellable.sku.2.1
    rw [if_neg (fun wrong => wrong.elim sellable.sku.1 fun long => by omega), sellable.sku.2.2]
    rfl
  cases quantity with
  | zero => cases positive
  | succ n =>
      refine ⟨{ id, orderId, sku := ⟨line.sku⟩, quantity := n + 1, unitPrice := Money.ofUnits units (toUpperCase currency) },
        ?_, ?_, most⟩
      · unfold createOrderItem
        rw [whole]
        change (do return { id, orderId, sku := ← SKU.new line.sku, quantity := n + 1,
                            unitPrice := ← Money.new line.unitPrice currency } : Except JsError OrderItem) = _
        rw [sku, price]
        rfl
      · change hundredths (amountText units) < _
        rw [hundredths_amountText]
        exact bound

end Building

/-- Fifty items add few digits to the longest price. -/
theorem inRange_of_prices {limit : Nat} {items : List OrderItem} (most : items.length ≤ 50)
    (bounds : ∀ item ∈ items, priceOf item < 10 ^ limit ∧ item.quantity ≤ 1000)
    (within : ((limit + 104 : Nat) : Int) ≤ maxExponent + 3) : InRange items 0 := by
  have wide : 10 ^ (limit + 4) = 10000 * 10 ^ limit := by
    rw [Nat.pow_add, Nat.mul_comm]
  refine inRange_of_length (Nat.succ_pos (limit + 3)) (Nat.pow_pos (by decide)) ?_ ?_
  · intro item member
    rcases bounds item member with ⟨price, quantity⟩
    have product : priceOf item * item.quantity ≤ priceOf item * 1000 := Nat.mul_le_mul_left _ quantity
    change _ < 10 ^ (limit + 4) ∧ _ < 10 ^ (limit + 4)
    omega
  · omega

/-- The order and all its money are in one currency, of three characters in upper case. -/
structure OneCurrency (order : Order) : Prop where
  three : jsLength order.currency = 3
  upper : toUpperCase order.currency = order.currency
  total : order.totalAmount.currency = order.currency
  items : ∀ item ∈ order.items, item.unitPrice.currency = order.currency

/-- With these identifiers and dates, all items and the order are created without an
error, and the order is in one currency. -/
def Builds (input : CreateOrderInput) (id : Uuid) (itemId : Nat → Uuid) (idempotencyKey : Option String)
    (createdAt updatedAt : Date) : Prop :=
  ∃ items order,
    List.Forall₂ (fun (entry : OrderLine × Nat) item =>
      createOrderItem (itemId entry.2) id entry.1.sku entry.1.quantity entry.1.unitPrice input.currency = .ok item)
      input.items.zipIdx items ∧
    createOrder id input.customerId items input.currency idempotencyKey createdAt updatedAt = .ok order ∧
    OneCurrency order

section Lists

variable {X Y : Type} {related : X → Y → Prop} {left : List X} {right : List Y}

theorem forall₂_right {Property : Y → Prop} (all : List.Forall₂ related left right)
    (each : ∀ x y, related x y → Property y) : ∀ y ∈ right, Property y := by
  induction all with
  | nil => exact fun y member => by cases member
  | cons head _ inductionHypothesis =>
      intro y member
      rcases List.mem_cons.mp member with rfl | later
      · exact each _ _ head
      · exact inductionHypothesis y later

theorem exists_forall₂ (each : ∀ x ∈ left, ∃ y, related x y) : ∃ right, List.Forall₂ related left right := by
  induction left with
  | nil => exact ⟨[], .nil⟩
  | cons x left inductionHypothesis =>
      rcases each x List.mem_cons_self with ⟨y, head⟩
      rcases inductionHypothesis fun x later => each x (List.mem_cons_of_mem _ later) with ⟨right, tail⟩
      exact ⟨y :: right, .cons head tail⟩

end Lists

section Admission

variable {input : CreateOrderInput} {id : Uuid} {itemId : Nat → Uuid} {idempotencyKey : Option String}
  {createdAt updatedAt : Date}

/-- The total is made in the upper-case currency. -/
theorem Builds.code (builds : Builds input id itemId idempotencyKey createdAt updatedAt) (some : input.items ≠ []) :
    jsLength (toUpperCase input.currency) = 3 := by
  rcases builds with ⟨items, order, created, made, _⟩
  rcases createOrder_spec made with ⟨total, summed, _⟩
  apply orderTotal_code ?_ ?_ summed
  · rintro rfl
    have lengths := created.length_eq
    rw [List.length_zipIdx] at lengths
    exact some (List.length_eq_zero_iff.mp lengths)
  · exact forall₂_right created fun entry item made => (createOrderItem_valid made).2.2

theorem Admitted.builds (admitted : Admitted input)
    (short : ∀ line ∈ input.items, jsLength line.unitPrice ≤ maxStringLength)
    (code : jsLength (toUpperCase input.currency) = 3) : Builds input id itemId idempotencyKey createdAt updatedAt := by
  have creates : ∀ entry ∈ input.items.zipIdx, ∃ item,
      createOrderItem (itemId entry.2) id entry.1.sku entry.1.quantity entry.1.unitPrice input.currency = .ok item ∧
        priceOf item < 10 ^ maxStringLength ∧ item.quantity ≤ 1000 := by
    intro entry member
    have line : entry.1 ∈ input.items := List.fst_mem_of_mem_zipIdx member
    exact createOrderItem_sellable admitted.currency (admitted.lines entry.1 line) (short entry.1 line)
  rcases exists_forall₂ creates with ⟨items, created⟩
  have priced := forall₂_right created fun entry item made => (createOrderItem_valid made.1).2.2
  have bounds := forall₂_right created fun entry item made => made.2
  have lengths := created.length_eq
  rw [List.length_zipIdx] at lengths
  have some : items ≠ [] := by
    rintro rfl
    exact admitted.some (List.length_eq_zero_iff.mp lengths)
  have inRange := inRange_of_prices (lengths ▸ admitted.most) bounds maxStringLength_le
  have summed := orderTotal_inRange admitted.currency code priced inRange
  refine ⟨items, _, created.imp fun entry item made => made.1, createOrder_of_total some summed, ?_⟩
  constructor
  · exact code
  · exact toUpperCase_toUpperCase _
  · rfl
  · intro item member
    rw [(priced item member).price]
    rfl

end Admission

/-- An admitted body becomes an order in one currency if and only if the currency still
has three characters in upper case. -/
theorem builds_iff {body : Json} {input : CreateOrderInput} (accepted : CreateOrderSchema.parse body = .ok input)
    (short : ∀ line ∈ input.items, jsLength line.unitPrice ≤ maxStringLength) (id : Uuid) (itemId : Nat → Uuid)
    (idempotencyKey : Option String) (createdAt updatedAt : Date) :
    Builds input id itemId idempotencyKey createdAt updatedAt ↔ jsLength (toUpperCase input.currency) = 3 := by
  have admitted := admitted_of_parse accepted
  constructor
  · intro builds
    exact builds.code admitted.some
  · exact admitted.builds short

theorem builds_plainBody : Builds (CreateOrderSchema.input plainBody) 0 Nat.succ none 0 0 ↔
    jsLength (toUpperCase (CreateOrderSchema.input plainBody).currency) = 3 := by
  have short : ∀ line ∈ (CreateOrderSchema.input plainBody).items, jsLength line.unitPrice ≤ maxStringLength := by
    decide +kernel
  have accepted : CreateOrderSchema.parse plainBody = .ok (CreateOrderSchema.input plainBody) := rfl
  exact builds_iff accepted short 0 Nat.succ none 0 0

/-- In upper case, `ß` is two characters. -/
def sharpBody : Json := .obj [
  ("customerId", .str "customer"),
  ("items", .arr [.obj [("sku", .str "X"), ("quantity", .num "1"), ("unitPrice", .str "2.00")]]),
  ("currency", .str "ßab"),
  ("paymentToken", .str "tok")]

/-- Both schemas admit the body, and `createOrder` throws. -/
theorem sharp_not_built : CreateOrderSchema.jsonSchema sharpBody = true ∧
    CreateOrderSchema.parse sharpBody = .ok (CreateOrderSchema.input sharpBody) ∧
    ¬ Builds (CreateOrderSchema.input sharpBody) 0 Nat.succ none 0 0 ∧
    ((createOrderItem 1 0 "X" (numberOf "1") "2.00" "ßab").bind fun item =>
      (createOrder 0 "customer" [item] "ßab" none 0 0).map Order.currency) =
      .error (.error "Invalid currency code: SSAB") := by
  refine ⟨by decide +kernel, rfl, ?_, by decide +kernel⟩
  intro builds
  have code := builds.code (by decide +kernel)
  revert code
  decide +kernel

end Orderly
