import Orderly.Domain.DecimalTexts
import Orderly.Domain.Order

/-!
# Sums of money

The amount of a `Money` is the text of a number of hundredths, so that its
products and sums are rounded products and sums of such numbers.  A total below
10^28 hundredths has never been rounded: rounding does not lead from above this
bound to below it.
-/

namespace Orderly

open Decimal

namespace Money

/-- The money of so many hundredths. -/
def ofUnits (units : Nat) (currency : String) : Money := { amount := amountText units, currency }

section Constructor

variable {amount currency : String} {money : Money} {units : Nat}

/-- A currency code as the constructor wants it. -/
theorem new_code (made : new amount currency = .ok money) : jsLength currency = 3 := by
  unfold new at made
  split at made
  · cases made
  · next code => exact not_not.mp fun wrong => code (Or.inr wrong)

theorem new_units (made : new amount currency = .ok money) :
    ∃ units, money = ofUnits units (toUpperCase currency) := by
  unfold new at made
  split at made
  · cases made
  · split at made
    · cases made
    · next d parsed =>
        split at made
        · cases made
        · next proper =>
            split at made
            · cases made
            · next unsigned =>
                have finite : d.isFinite = true := by
                  cases verdict : d.isFinite with
                  | true => rfl
                  | false => exact absurd (by rw [verdict, Bool.not_false, Bool.or_true]) proper
                rcases toFixed_amountText finite (Bool.not_eq_true _ ▸ unsigned) with ⟨units, printed⟩
                cases made
                exact ⟨units, by rw [printed]; rfl⟩

/-- A text of so many hundredths is accepted where they can be read. -/
theorem new_of_parse (parsed : Decimal.parse amount = .ok (readUnits units)) (code : jsLength currency = 3)
    (readable : Readable units) : new amount currency = .ok (ofUnits units (toUpperCase currency)) := by
  have some : currency ≠ "" := by
    rintro rfl
    cases code
  unfold new
  rw [if_neg (fun wrong => wrong.elim some fun wrong => wrong code), parsed]
  rcases readUnits_of_readable readable with ⟨rfl, read⟩ | read
  · rw [read]
    rfl
  · rw [read]
    have printed : (finite false units (-2)).toFixed 2 = amountText units := by
      unfold Decimal.toFixed Decimal.toUnits
      simp [amountText]
    simp only [isNaN, Decimal.isFinite, isNegative, printed]
    rfl

theorem new_amountText (code : jsLength currency = 3) (readable : Readable units) :
    new (amountText units) currency = .ok (ofUnits units (toUpperCase currency)) :=
  new_of_parse (parse_amountText units) code readable

theorem new_unreadable (unreadable : ¬ Readable units) : new (amountText units) currency ≠ .ok money := by
  intro made
  unfold new at made
  rw [parse_amountText, readUnits_unreadable unreadable] at made
  split at made
  · cases made
  · cases made

/-- What is made from the text of an amount is that amount. -/
theorem new_amountText_eq (made : new (amountText units) currency = .ok money) :
    Readable units ∧ jsLength currency = 3 ∧ money = ofUnits units (toUpperCase currency) := by
  have readable : Readable units := by
    by_contra unreadable
    exact new_unreadable unreadable made
  have code := new_code made
  exact ⟨readable, code, Except.ok.inj (made.symm.trans (new_amountText code readable))⟩

end Constructor

section Operations

variable {currency : String} {money : Money} {units units' factor : Nat}

theorem parse_ofUnits (units : Nat) (currency : String) :
    Decimal.parse (ofUnits units currency).amount = .ok (readUnits units) := parse_amountText units

/-- What is not a number is no amount. -/
theorem new_notNumber : new (Decimal.toFixed 2 .nan) currency ≠ .ok money := by
  intro made
  have parsed : Decimal.parse (Decimal.toFixed 2 .nan) = .ok .nan := by decide
  unfold new at made
  rw [parsed] at made
  split at made
  · cases made
  · cases made

theorem multiply_ofUnits (readable : Readable units) :
    (ofUnits units currency).multiply factor = new (amountText (rounded (units * factor))) currency := by
  unfold multiply
  rw [parse_ofUnits, ← times_readUnits readable]
  rfl

theorem multiply_readable (made : (ofUnits units currency).multiply factor = .ok money) : Readable units := by
  by_contra unreadable
  unfold multiply at made
  have none : (Decimal.infinity false).times (.finite false factor 0) = .nan := rfl
  rw [parse_ofUnits, readUnits_unreadable unreadable] at made
  simp only [bind, Except.bind, none] at made
  exact new_notNumber made

theorem add_ofUnits (readable : Readable units) (readable' : Readable units') :
    (ofUnits units currency).add (ofUnits units' currency) = new (amountText (rounded (units + units'))) currency := by
  unfold add
  rw [if_neg (fun different => different rfl), parse_ofUnits, parse_ofUnits, ← plus_readUnits readable readable']
  rfl

theorem add_readable (made : (ofUnits units currency).add (ofUnits units' currency) = .ok money) :
    Readable units ∧ Readable units' := by
  unfold add at made
  rw [if_neg (fun different => different rfl), parse_ofUnits, parse_ofUnits] at made
  constructor
  · by_contra unreadable
    have none : (Decimal.infinity false).plus (readUnits units') = .nan := rfl
    rw [readUnits_unreadable unreadable] at made
    simp only [bind, Except.bind, none] at made
    exact new_notNumber made
  · by_contra unreadable
    have none : (readUnits units).plus (.infinity false) = .nan := by
      cases readUnits units <;> rfl
    rw [readUnits_unreadable unreadable] at made
    simp only [bind, Except.bind, none] at made
    exact new_notNumber made

end Operations

end Money

/-! ## Totals -/

/-- The item has a price in this currency. -/
def Priced (currency : String) (item : OrderItem) : Prop := ∃ units, item.unitPrice = Money.ofUnits units currency

def priceOf (item : OrderItem) : Nat := hundredths item.unitPrice.amount

theorem Priced.price {currency : String} {item : OrderItem} (priced : Priced currency item) :
    item.unitPrice = Money.ofUnits (priceOf item) currency := by
  rcases priced with ⟨units, price⟩
  unfold priceOf
  rw [price]
  change _ = Money.ofUnits (hundredths (amountText units)) currency
  rw [hundredths_amountText]

/-- One step of the sum, with both of its roundings. -/
def sumStep (sum : Nat) (item : OrderItem) : Nat := rounded (sum + rounded (priceOf item * item.quantity))

/-- The exact total of the items. -/
def exactTotal (items : List OrderItem) : Nat := (items.map fun item => item.quantity * priceOf item).sum

theorem exactTotal_cons (item : OrderItem) (items : List OrderItem) :
    exactTotal (item :: items) = priceOf item * item.quantity + exactTotal items := by
  unfold exactTotal
  rw [List.map_cons, List.sum_cons, Nat.mul_comm]

/-- A small result has not been rounded on its way. -/
theorem sum_exact {items : List OrderItem} {sum : Nat} (small : items.foldl sumStep sum < 10 ^ precision) :
    items.foldl sumStep sum = sum + exactTotal items := by
  induction items generalizing sum with
  | nil => rfl
  | cons item items inductionHypothesis =>
      rw [List.foldl_cons] at small ⊢
      have later := inductionHypothesis small
      have within : sumStep sum item < 10 ^ precision := by omega
      have step := rounded_lt within
      have product : _ ∧ rounded (priceOf item * item.quantity) = _ := rounded_lt (by omega)
      rw [later, exactTotal_cons]
      change rounded (sum + rounded (priceOf item * item.quantity)) + _ = _
      rw [step.2, product.2, Nat.add_assoc]

/-- Nothing is rounded where the exact total is small. -/
theorem sum_of_small {items : List OrderItem} {sum : Nat} (small : sum + exactTotal items < 10 ^ precision) :
    items.foldl sumStep sum = sum + exactTotal items := by
  induction items generalizing sum with
  | nil => rfl
  | cons item items inductionHypothesis =>
      rw [exactTotal_cons] at small ⊢
      have step : sumStep sum item = sum + priceOf item * item.quantity := by
        have product : rounded (priceOf item * item.quantity) = _ := rounded_of_lt (by omega)
        unfold sumStep
        rw [product, rounded_of_lt (by omega)]
      rw [List.foldl_cons, step, inductionHypothesis (by omega), Nat.add_assoc]

section Folds

variable {currency : String} {items : List OrderItem} {sum : Nat} {total : Money}

/-- The loop of `createOrder`. -/
def addUp (items : List OrderItem) (sum : Money) : Except JsError Money :=
  items.foldlM (fun sum item => do sum.add (← item.unitPrice.multiply item.quantity)) sum

theorem addUp_cons (item : OrderItem) (items : List OrderItem) (sum : Money) :
    addUp (item :: items) sum = (item.unitPrice.multiply item.quantity).bind fun price =>
      (sum.add price).bind fun sum => addUp items sum := by
  unfold addUp
  rw [List.foldlM_cons]
  cases item.unitPrice.multiply item.quantity <;> rfl

/-- What the loop returns is the rounded sum. -/
theorem addUp_units (fixed : toUpperCase currency = currency) (priced : ∀ item ∈ items, Priced currency item)
    (summed : addUp items (Money.ofUnits sum currency) = .ok total) :
    total = Money.ofUnits (items.foldl sumStep sum) currency := by
  induction items generalizing sum with
  | nil =>
      cases summed
      rfl
  | cons item items inductionHypothesis =>
      have price := (priced item List.mem_cons_self).price
      rw [addUp_cons, price] at summed
      cases multiplied : (Money.ofUnits (priceOf item) currency).multiply item.quantity with
      | error error =>
          rw [multiplied] at summed
          cases summed
      | ok product =>
          have product_eq := multiplied
          rw [Money.multiply_ofUnits (Money.multiply_readable multiplied)] at product_eq
          rcases Money.new_amountText_eq product_eq with ⟨_, _, rfl⟩
          rw [multiplied] at summed
          cases added : (Money.ofUnits sum currency).add
              (Money.ofUnits (rounded (priceOf item * item.quantity)) (toUpperCase currency)) with
          | error error =>
              simp only [Except.bind, added] at summed
              cases summed
          | ok next =>
              simp only [Except.bind, added] at summed
              rw [fixed] at added
              have next_eq := added
              rcases Money.add_readable added with ⟨readable, readable'⟩
              rw [Money.add_ofUnits readable readable'] at next_eq
              rcases Money.new_amountText_eq next_eq with ⟨_, _, rfl⟩
              rw [fixed] at summed
              exact inductionHypothesis (fun item later => priced item (List.mem_cons_of_mem _ later)) summed

/-- Everything the loop reads and writes is in range. -/
def InRange : List OrderItem → Nat → Prop
  | [], _ => True
  | item :: items, sum => Readable sum ∧ Readable (priceOf item) ∧ Readable (rounded (priceOf item * item.quantity)) ∧
      Readable (sumStep sum item) ∧ InRange items (sumStep sum item)

/-- Then the loop does not fail. -/
theorem addUp_inRange (code : jsLength currency = 3) (fixed : toUpperCase currency = currency)
    (priced : ∀ item ∈ items, Priced currency item) (inRange : InRange items sum) :
    addUp items (Money.ofUnits sum currency) = .ok (Money.ofUnits (items.foldl sumStep sum) currency) := by
  induction items generalizing sum with
  | nil => rfl
  | cons item items inductionHypothesis =>
      rcases inRange with ⟨start, price, product, next, rest⟩
      rw [addUp_cons, (priced item List.mem_cons_self).price, Money.multiply_ofUnits price,
        Money.new_amountText code product, fixed]
      simp only [Except.bind]
      rw [Money.add_ofUnits start product]
      change (Money.new (amountText (sumStep sum item)) currency).bind (addUp items) = _
      rw [Money.new_amountText code next, fixed]
      exact inductionHypothesis (fun item later => priced item (List.mem_cons_of_mem _ later)) rest

theorem readable_of_lt {units digits : Nat} (some : 0 < digits) (short : units < 10 ^ digits)
    (within : (digits : Int) ≤ maxExponent + 3) : Readable units := by
  have count := (digitCount_le_iff some).mpr short
  unfold Readable
  omega

theorem readable_of_small {units : Nat} (small : units < 10 ^ precision) : Readable units :=
  readable_of_lt (by decide) small (by decide)

/-- A small total stays in range. -/
theorem inRange_of_small (small : sum + exactTotal items < 10 ^ precision)
    (prices : ∀ item ∈ items, Readable (priceOf item)) : InRange items sum := by
  induction items generalizing sum with
  | nil => trivial
  | cons item items inductionHypothesis =>
      rw [exactTotal_cons] at small
      have product : rounded (priceOf item * item.quantity) = priceOf item * item.quantity := rounded_of_lt (by omega)
      have step : sumStep sum item = sum + priceOf item * item.quantity := by
        unfold sumStep
        rw [product, rounded_of_lt (by omega)]
      refine ⟨readable_of_small (by omega), prices item List.mem_cons_self, ?_, ?_, ?_⟩
      · rw [product]
        exact readable_of_small (by omega)
      · rw [step]
        exact readable_of_small (by omega)
      · rw [step]
        exact inductionHypothesis (by omega) fun item later => prices item (List.mem_cons_of_mem _ later)

/-- Each item adds two digits at most. -/
theorem inRange_of_length {digits : Nat} (some : 0 < digits) (start : sum < 10 ^ digits)
    (products : ∀ item ∈ items, 2 * (priceOf item * item.quantity) < 10 ^ digits ∧ priceOf item < 10 ^ digits)
    (within : ((digits + 2 * items.length : Nat) : Int) ≤ maxExponent + 3) : InRange items sum := by
  induction items generalizing sum digits with
  | nil => trivial
  | cons item items inductionHypothesis =>
      rw [List.length_cons] at within
      rcases products item List.mem_cons_self with ⟨product, price⟩
      have product' := rounded_le (priceOf item * item.quantity)
      have step := rounded_le (sum + rounded (priceOf item * item.quantity))
      have wider : 10 ^ (digits + 2) = 100 * 10 ^ digits := by
        rw [Nat.pow_add, Nat.mul_comm]
      have next : sumStep sum item < 10 ^ (digits + 2) := by
        unfold sumStep
        omega
      refine ⟨readable_of_lt some start (by omega), readable_of_lt some price (by omega),
        readable_of_lt some (by omega) (by omega), readable_of_lt (by omega) next (by omega), ?_⟩
      apply inductionHypothesis (by omega) next
      · intro item later
        have bounds := products item (List.mem_cons_of_mem _ later)
        omega
      · omega

theorem orderTotal_eq (items : List OrderItem) (currency : String) :
    orderTotal items currency = (Money.zero currency).bind (addUp items) := rfl

theorem zero_eq (currency : String) : Money.zero currency = Money.new (amountText 0) currency := rfl

/-- A total is the rounded sum of the items. -/
theorem orderTotal_units (priced : ∀ item ∈ items, Priced (toUpperCase currency) item)
    (summed : orderTotal items currency = .ok total) :
    jsLength currency = 3 ∧ total = Money.ofUnits (items.foldl sumStep 0) (toUpperCase currency) := by
  rw [orderTotal_eq, zero_eq] at summed
  cases zero : Money.new (amountText 0) currency with
  | error error =>
      rw [zero] at summed
      cases summed
  | ok start =>
      rcases Money.new_amountText_eq zero with ⟨_, code, rfl⟩
      rw [zero] at summed
      exact ⟨code, addUp_units (toUpperCase_toUpperCase currency) priced summed⟩

/-- The first product has been made in the order's currency. -/
theorem orderTotal_code (some : items ≠ []) (priced : ∀ item ∈ items, Priced (toUpperCase currency) item)
    (summed : orderTotal items currency = .ok total) : jsLength (toUpperCase currency) = 3 := by
  cases items with
  | nil => exact absurd rfl some
  | cons item items =>
      rw [orderTotal_eq] at summed
      cases zero : Money.zero currency with
      | error error =>
          rw [zero] at summed
          cases summed
      | ok start =>
          rw [zero] at summed
          simp only [Except.bind] at summed
          rw [addUp_cons, (priced item List.mem_cons_self).price] at summed
          cases multiplied : (Money.ofUnits (priceOf item) (toUpperCase currency)).multiply item.quantity with
          | error error =>
              rw [multiplied] at summed
              cases summed
          | ok product =>
              rw [Money.multiply_ofUnits (Money.multiply_readable multiplied)] at multiplied
              exact Money.new_code multiplied

theorem orderTotal_inRange (code : jsLength currency = 3) (code' : jsLength (toUpperCase currency) = 3)
    (priced : ∀ item ∈ items, Priced (toUpperCase currency) item) (inRange : InRange items 0) :
    orderTotal items currency = .ok (Money.ofUnits (items.foldl sumStep 0) (toUpperCase currency)) := by
  rw [orderTotal_eq, zero_eq, Money.new_amountText code (readable_of_small (by decide))]
  exact addUp_inRange code' (toUpperCase_toUpperCase currency) priced inRange

end Folds

theorem createOrder_of_total {id : Uuid} {customerId : String} {items : List OrderItem} {currency : String}
    {idempotencyKey : Option String} {createdAt updatedAt : Date} {total : Money} (some : items ≠ [])
    (summed : orderTotal items currency = .ok total) :
    createOrder id customerId items currency idempotencyKey createdAt updatedAt = .ok {
      id, customerId, status := .pending, totalAmount := total, currency := toUpperCase currency
      idempotencyKey, items, createdAt, updatedAt } := by
  unfold createOrder
  rw [if_neg some, summed]
  rfl

/-- A created item has a valid SKU, a positive quantity and a price. -/
theorem createOrderItem_valid {id orderId : Uuid} {sku : String} {quantity : JsNumber} {unitPrice currency : String}
    {item : OrderItem} (made : createOrderItem id orderId sku quantity unitPrice currency = .ok item) :
    SKU.new item.sku.value = .ok item.sku ∧ 0 < item.quantity ∧ Priced (toUpperCase currency) item := by
  have price := Money.new_units (createOrderItem_spec made).2.2.2.2
  unfold createOrderItem at made
  split at made
  · cases valid : SKU.new sku with
    | error error =>
        rw [valid] at made
        cases made
    | ok stockKeepingUnit =>
        cases money : Money.new unitPrice currency with
        | error error =>
            rw [valid, money] at made
            cases made
        | ok money' =>
            rw [valid, money] at made
            cases made
            refine ⟨?_, Nat.succ_pos _, price⟩
            change SKU.new stockKeepingUnit.value = .ok stockKeepingUnit
            rw [SKU.new_value valid]
            exact valid
  · cases made

end Orderly
