import Mathlib.Algebra.Order.BigOperators.Group.List
import Mathlib.Algebra.Order.Group.Nat
import Orderly.Infrastructure.OrderRepository
import Orderly.Ordering.Admission
import Orderly.Ordering.OneOrder

/-!
# Totals

The total that is committed with an order is the exact sum of its items: a
total that has been rounded on its way has 28 digits, and the column takes
twelve.  It is read back with the order as long as the column of the currency
is full, for a currency of fewer characters comes back with blanks: the schema
of the route lets none of these in.
-/

namespace Orderly

open Process (System Config Thread)
open Decimal

/-- Any number of calls of `createOrder` against one backend. -/
def orderCalls (platform : Platform) :
    System intake JsError Backend CreateOrderRequest Choice CreateOrderResult where
  program := OrderService.createOrder
  perform := Backend.perform platform

abbrev OrderCalls := Config intake JsError Backend CreateOrderRequest CreateOrderResult

abbrev OrderCall := Thread intake JsError Backend CreateOrderRequest CreateOrderResult

/-- The call has committed this order, whatever it has been told of it. -/
def CommittedBy (platform : Platform) (request : CreateOrderRequest) (log : IntakeLog) (order : Order) : Prop :=
  ∃ event ∈ log, ∃ eventId, event.call = .commit (orderTransaction request order eventId) ∧
    Backend.commit platform event.before (orderTransaction request order eventId) = .ok event.after

/-- Whichever way the request's lines are ordered, their items have this total. -/
def Unordered (request : CreateOrderRequest) (totalAmount : String) : Prop :=
  ∀ (lines : List OrderLine) (items : List OrderItem) (id : Uuid) (idempotencyKey : Option String)
    (createdAt updatedAt : Date), lines.Perm request.items →
    List.Forall₂ (fun line item =>
      createOrderItem item.id id line.sku line.quantity line.unitPrice request.currency = .ok item) lines items →
    ∃ order, createOrder id request.customerId items request.currency idempotencyKey createdAt updatedAt = .ok order ∧
      order.totalAmount.amount = totalAmount

/-- The total of a persisted order is the sum of its items, in any order, and it is
read back with their prices. -/
structure ExactTotal (precedes : Uuid → Uuid → Bool) (backend : Backend) (request : CreateOrderRequest)
    (row : OrderRow) : Prop where
  decimals : isUnitPrice row.totalAmount = true ∧ ∀ item ∈ itemsOf backend row.id, isUnitPrice item.unitPrice = true
  sum : hundredths row.totalAmount =
    ((itemsOf backend row.id).map fun item => item.quantity * hundredths item.unitPrice).sum
  unordered : Unordered request row.totalAmount
  found : ∃ order, OrderRepository.findById precedes backend row.id = .ok (some order) ∧
    order.totalAmount.toJSON = totalOf row ∧
      (order.items.map fun item => (item.id, item.unitPrice.amount)).Perm
        ((itemsOf backend row.id).map fun item => (item.id, item.unitPrice))

/-! ## What a commit lets in -/

section Rows

variable {platform : Platform} {before after : Backend}

theorem insertItems_fit {rows : List OrderItemRow} (inserted : Backend.insertItems rows before = .ok after) :
    ∀ row ∈ rows, Database.itemFits row = true := by
  induction rows generalizing before with
  | nil => exact fun row member => by cases member
  | cons head rows inductionHypothesis =>
      unfold Backend.insertItems at inserted
      split at inserted
      · cases inserted
      · next fits =>
          split at inserted
          · cases inserted
          · split at inserted
            · cases inserted
            · intro row member
              rcases List.mem_cons.mp member with rfl | later
              · cases verdict : Database.itemFits row with
                | true => rfl
                | false => exact absurd (by rw [verdict]; rfl) fits
              · exact inductionHypothesis inserted row later

/-- The values of a committed order fit their columns. -/
theorem commit_fits {request : CreateOrderRequest} {order : Order} {eventId : Uuid}
    (committed : Backend.commit platform before (orderTransaction request order eventId) = .ok after) :
    Database.orderFits (Database.orderRow order) = true ∧
      ∀ row ∈ order.items.map Database.itemRow, Database.itemFits row = true := by
  unfold orderTransaction at committed
  simp only [Backend.commit, Backend.apply] at committed
  cases first : before.world.db.insertOrder (Database.orderRow order) with
  | error error =>
      rw [first] at committed
      cases committed
  | ok db =>
      rw [first] at committed
      simp only [Except.map, Except.bind] at committed
      cases second : Backend.insertItems (order.items.map Database.itemRow) { before with world.db := db } with
      | error error =>
          rw [second] at committed
          cases committed
      | ok listed =>
          refine ⟨?_, insertItems_fit second⟩
          unfold Database.insertOrder at first
          split at first
          · cases first
          · next fits =>
              cases verdict : Database.orderFits (Database.orderRow order) with
              | true => rfl
              | false => exact absurd (by rw [verdict]; rfl) fits

theorem fitsText_length {width : Nat} {text : String} (fits : Database.fitsText width text = true) :
    text.length ≤ width := of_decide_eq_true (Bool.and_eq_true_iff.mp fits).1

/-- The two columns that the total and its currency stand in. -/
theorem orderFits_columns {row : OrderRow} (fits : Database.orderFits row = true) :
    Database.fitsAmount row.totalAmount = true ∧ row.currency.length ≤ 3 := by
  have parts := Bool.and_eq_true_iff.mp (Bool.and_eq_true_iff.mp fits).1
  exact ⟨(Bool.and_eq_true_iff.mp parts.1).2, fitsText_length parts.2⟩

/-- A price or total that the column takes is below its bound. -/
theorem small_of_fits {units : Nat} (fits : Database.fitsAmount (amountText units) = true) : units < 10 ^ precision := by
  have length : (amountText units).length ≤ 13 := of_decide_eq_true fits
  rw [length_amountText] at length
  apply (digitCount_le_iff (by decide)).mp
  change digitCount units ≤ 28
  omega

end Rows

/-! ## The order and its rows -/

/-- The order is persisted as it was created. -/
structure Kept (backend : Backend) (request : CreateOrderRequest) (order : Order) : Prop where
  ordered : Ordered request order
  orders : ordersOf backend order.id = [Database.orderRow order]
  items : itemsOf backend order.id = order.items.map Database.itemRow
  orderFits : Database.orderFits (Database.orderRow order) = true
  itemsFit : ∀ row ∈ order.items.map Database.itemRow, Database.itemFits row = true

theorem createOrder_some {id : Uuid} {customerId : String} {items : List OrderItem} {currency : String}
    {idempotencyKey : Option String} {createdAt updatedAt : Date} {order : Order}
    (made : createOrder id customerId items currency idempotencyKey createdAt updatedAt = .ok order) : items ≠ [] := by
  unfold createOrder at made
  split at made
  · cases made
  · next some => exact some

section Sums

variable {request : CreateOrderRequest} {order : Order} {backend : Backend}

theorem Ordered.valid (ordered : Ordered request order) : ∀ item ∈ order.items,
    SKU.new item.sku.value = .ok item.sku ∧ 0 < item.quantity ∧ Priced (toUpperCase request.currency) item :=
  forall₂_right ordered.items fun _ _ made => createOrderItem_valid made

theorem Ordered.currency (ordered : Ordered request order) : order.currency = toUpperCase request.currency := by
  rcases createOrder_spec ordered.made with ⟨total, _, made⟩
  rw [made]

/-- The total is in a currency of three code units, before and after. -/
theorem Ordered.codes (ordered : Ordered request order) :
    jsLength request.currency = 3 ∧ jsLength (toUpperCase request.currency) = 3 ∧
      order.totalAmount = Money.ofUnits (order.items.foldl sumStep 0) (toUpperCase request.currency) := by
  have priced : ∀ item ∈ order.items, Priced (toUpperCase request.currency) item :=
    fun item member => (ordered.valid item member).2.2
  rcases createOrder_spec ordered.made with ⟨total, summed, made⟩
  rcases orderTotal_units priced summed with ⟨code, same⟩
  have amount : order.totalAmount = total := by rw [made]
  exact ⟨code, orderTotal_code (createOrder_some ordered.made) priced summed, amount.trans same⟩

/-- What the column takes has not been rounded. -/
theorem Kept.total (kept : Kept backend request order) :
    order.totalAmount = Money.ofUnits (exactTotal order.items) (toUpperCase request.currency) ∧
      exactTotal order.items < 10 ^ precision := by
  have amount := kept.ordered.codes.2.2
  have fits : Database.fitsAmount order.totalAmount.amount = true := (orderFits_columns kept.orderFits).1
  rw [amount] at fits
  have small := small_of_fits fits
  have exact' := (sum_exact small).trans (Nat.zero_add _)
  rw [exact'] at small amount
  exact ⟨amount, small⟩

/-- What a line adds to the total. -/
def lineTotal (currency : String) (line : OrderLine) : Nat :=
  (line.quantity.integer.getD 0).toNat *
    match Money.new line.unitPrice currency with
    | .ok price => hundredths price.amount
    | .error _ => 0

theorem lineTotal_of_created {id orderId : Uuid} {currency : String} {line : OrderLine} {item : OrderItem}
    (made : createOrderItem id orderId line.sku line.quantity line.unitPrice currency = .ok item) :
    item.quantity * priceOf item = lineTotal currency line := by
  rcases createOrderItem_spec made with ⟨_, _, _, quantity, price⟩
  unfold lineTotal
  rw [quantity, price]
  rfl

theorem exactTotal_lines {id : Uuid} {currency : String} {lines : List OrderLine} {items : List OrderItem}
    (created : List.Forall₂ (fun line item =>
      createOrderItem item.id id line.sku line.quantity line.unitPrice currency = .ok item) lines items) :
    exactTotal items = (lines.map (lineTotal currency)).sum := by
  unfold exactTotal
  induction created with
  | nil => rfl
  | cons made _ inductionHypothesis =>
      rw [List.map_cons, List.sum_cons, inductionHypothesis, lineTotal_of_created made, List.map_cons, List.sum_cons]

/-- A price is no more than the total, for there is one unit at least. -/
theorem priceOf_le {items : List OrderItem} {item : OrderItem} (member : item ∈ items) (some : 0 < item.quantity) :
    priceOf item ≤ exactTotal items := by
  have listed : item.quantity * priceOf item ∈ items.map fun item => item.quantity * priceOf item :=
    List.mem_map.mpr ⟨item, member, rfl⟩
  exact (Nat.le_mul_of_pos_left _ some).trans (List.single_le_sum (fun _ _ => Nat.zero_le _) _ listed)

theorem Kept.unordered (kept : Kept backend request order) : Unordered request (Database.orderRow order).totalAmount := by
  intro lines items id idempotencyKey createdAt updatedAt reordered created
  rcases kept.ordered.codes with ⟨code, code', _⟩
  rcases kept.total with ⟨amount, small⟩
  have valid := forall₂_right created fun line item made => createOrderItem_valid made
  have same : exactTotal items = exactTotal order.items := by
    rw [exactTotal_lines created, exactTotal_lines kept.ordered.items]
    exact (reordered.map _).sum_nat
  rw [← same] at amount small
  have some : items ≠ [] := by
    rintro rfl
    have lengths := created.length_eq.symm.trans (reordered.length_eq.trans kept.ordered.items.length_eq)
    exact createOrder_some kept.ordered.made (List.length_eq_zero_iff.mp lengths.symm)
  have start : 0 + exactTotal items < 10 ^ precision := by
    rw [Nat.zero_add]
    exact small
  have inRange : InRange items 0 := by
    apply inRange_of_small start
    intro item member
    exact readable_of_small (Nat.lt_of_le_of_lt (priceOf_le member (valid item member).2.1) small)
  have summed := orderTotal_inRange code code' (fun item member => (valid item member).2.2) inRange
  refine ⟨_, createOrder_of_total some summed, ?_⟩
  rw [sum_of_small start, Nat.zero_add]
  change _ = order.totalAmount.amount
  rw [amount]

/-- The text of an amount has the form that the schema wants. -/
theorem isUnitPrice_amountText (units : Nat) : isUnitPrice (amountText units) = true := by
  rcases printUnits_positional units with ⟨whole, fraction, printed⟩
  have parts := List.forall_mem_append.mp printed.digits
  rcases List.length_eq_two.mp printed.places with ⟨a, b, rfl⟩
  have some : whole.isEmpty = false := by
    cases whole with
    | nil => exact absurd rfl printed.some
    | cons c whole => rfl
  unfold isUnitPrice amountText
  rw [String.toList_ofList, printed.text, span_pointed parts.1]
  simp [some, parts.2 a (.head _), parts.2 b (.tail _ (.head _))]

theorem Kept.prices (kept : Kept backend request order) : ∀ row ∈ order.items.map Database.itemRow,
    ∃ units, row.unitPrice = amountText units ∧ Decimal.Readable units := by
  intro row member
  have fits := Bool.and_eq_true_iff.mp (kept.itemsFit row member)
  rcases List.mem_map.mp member with ⟨item, present, rfl⟩
  rcases (kept.ordered.valid item present).2.2 with ⟨units, price⟩
  have amount : (Database.itemRow item).unitPrice = amountText units := by
    change item.unitPrice.amount = _
    rw [price]
    rfl
  refine ⟨units, amount, readable_of_small (small_of_fits ?_)⟩
  rw [← amount]
  exact fits.2

theorem Kept.sum (kept : Kept backend request order) : hundredths (Database.orderRow order).totalAmount =
    ((itemsOf backend order.id).map fun item => item.quantity * hundredths item.unitPrice).sum := by
  rw [kept.items, List.map_map]
  change hundredths order.totalAmount.amount = exactTotal order.items
  rw [kept.total.1]
  exact hundredths_amountText _

/-- The row as it comes back. -/
theorem Kept.select (kept : Kept backend request order) :
    OrderRepository.selectOrder backend order.id = some (OrderRepository.padded (Database.orderRow order)) := by
  have listed : Database.orderRow order ∈ ordersOf backend order.id := by
    rw [kept.orders]
    exact List.mem_singleton_self _
  have found : backend.world.db.orders.lookup order.id = some (Database.orderRow order) :=
    Store.Table.lookup_of_mem (List.mem_filter.mp listed).1
  unfold OrderRepository.selectOrder
  rw [found]
  rfl

/-- The total is read back as long as the column of the currency is full. -/
theorem Kept.found (kept : Kept backend request order) (full : (toUpperCase request.currency).length = 3)
    (precedes : Uuid → Uuid → Bool) : ∃ found, OrderRepository.findById precedes backend order.id = .ok (some found) ∧
      found.totalAmount.toJSON = totalOf (Database.orderRow order) ∧
        (found.items.map fun item => (item.id, item.unitPrice.amount)).Perm
          ((itemsOf backend order.id).map fun item => (item.id, item.unitPrice)) := by
  have currency : (Database.orderRow order).currency = toUpperCase request.currency := kept.ordered.currency
  have code := kept.ordered.codes.2.1
  have sorted : (OrderRepository.selectItems precedes backend order.id).Perm (itemsOf backend order.id) :=
    List.mergeSort_perm _ _
  have total : Money.new (Database.orderRow order).totalAmount (Database.orderRow order).currency =
      .ok { amount := (Database.orderRow order).totalAmount, currency := (Database.orderRow order).currency } := by
    rcases kept.total with ⟨amount, small⟩
    have text : (Database.orderRow order).totalAmount = amountText (exactTotal order.items) := by
      change order.totalAmount.amount = _
      rw [amount]
      rfl
    rw [currency, text, Money.new_amountText code (readable_of_small small), toUpperCase_toUpperCase]
    rfl
  have readable : ∀ row ∈ OrderRepository.selectItems precedes backend order.id,
      OrderRepository.Readable (Database.orderRow order).currency row := by
    intro row member
    have listed : row ∈ order.items.map Database.itemRow := by
      rw [← kept.items]
      exact sorted.mem_iff.mp member
    rcases kept.prices row listed with ⟨units, price, readable⟩
    rcases List.mem_map.mp listed with ⟨item, present, rfl⟩
    constructor
    · exact (kept.ordered.valid item present).1
    · rw [currency, price, Money.new_amountText code readable, toUpperCase_toUpperCase]
      rfl
  have selected := kept.select
  rw [OrderRepository.padded_full (by rw [currency, full])] at selected
  rcases OrderRepository.toDomain_readable total readable with ⟨found, read, amount, items⟩
  refine ⟨found, ?_, ?_, ?_⟩
  · rw [OrderRepository.findById_selected selected, read]
    rfl
  · rw [amount]
    rfl
  · rw [items, List.map_map]
    exact sorted.map _

/-- A currency of three characters has three in upper case too: an upper-case letter is
one character at least, and `Money` takes three code units at most. -/
theorem Kept.full (kept : Kept backend request order) (letters : request.currency.length = 3) :
    (toUpperCase request.currency).length = 3 := by
  have code := kept.ordered.codes.2.1
  have most := length_le_jsLength (toUpperCase request.currency)
  have least := length_le_toUpperCase request.currency
  omega

/-- A committed order has its exact total, and is read back with it when its currency fills
the column. -/
theorem Kept.exact (kept : Kept backend request order) (precedes : Uuid → Uuid → Bool)
    (full : (toUpperCase request.currency).length = 3) :
    ExactTotal precedes backend request (Database.orderRow order) where
  decimals := by
    constructor
    · change isUnitPrice order.totalAmount.amount = true
      rw [kept.total.1]
      exact isUnitPrice_amountText _
    · change ∀ item ∈ itemsOf backend order.id, _
      rw [kept.items]
      intro row member
      rcases kept.prices row member with ⟨units, price, _⟩
      rw [price]
      exact isUnitPrice_amountText units
  sum := kept.sum
  unordered := kept.unordered
  found := kept.found full precedes

end Sums

/-! ## All calls -/

/-- The foreign key of `order_items`. -/
def ItemsLinked (backend : Backend) : Prop :=
  ∀ item ∈ backend.items.rows, ∃ row ∈ backend.world.db.orders.rows, row.id = item.orderId

section Steps

variable {platform : Platform} {request : CreateOrderRequest} {order : Order} {before after : Backend}

/-- Both concern two tables only. -/
theorem ItemsLinked.rows (linked : ItemsLinked before)
    (orders : after.world.db.orders.rows = before.world.db.orders.rows) (items : after.items.rows = before.items.rows) :
    ItemsLinked after := by
  unfold ItemsLinked
  rw [items, orders]
  exact linked

theorem Kept.rows (kept : Kept before request order)
    (orders : after.world.db.orders.rows = before.world.db.orders.rows) (items : after.items.rows = before.items.rows) :
    Kept after request order where
  ordered := kept.ordered
  orders := by
    unfold ordersOf
    rw [orders]
    exact kept.orders
  items := by
    unfold itemsOf
    rw [items]
    exact kept.items
  orderFits := kept.orderFits
  itemsFit := kept.itemsFit

theorem Adds.linked (linked : ItemsLinked before) (ordered : Ordered request order)
    (adds : Adds platform request order before after) : ItemsLinked after := by
  unfold ItemsLinked
  rw [adds.items, adds.orders]
  intro item member
  rcases List.mem_append.mp member with earlier | added
  · rcases linked item earlier with ⟨row, listed, same⟩
    exact ⟨row, List.mem_append_left _ listed, same⟩
  · have named := (lists_of_created ordered.items).2.1 item added
    exact ⟨_, List.mem_append_right _ (List.mem_singleton_self _), named.symm⟩

/-- The id of an added order is new. -/
theorem Adds.fresh (adds : Adds platform request order before after) : ordersOf before order.id = [] := by
  have unique := after.world.db.orders.unique
  rw [adds.orders, List.map_append] at unique
  apply List.filter_eq_nil_iff.mpr
  intro row member same
  have apart := (List.nodup_append.mp unique).2.2 row.id (List.mem_map_of_mem member) order.id
    (List.mem_map_of_mem (List.mem_singleton_self _))
  exact apart (of_decide_eq_true same)

/-- A new order is kept as its transaction writes it. -/
theorem Adds.kept (linked : ItemsLinked before) (ordered : Ordered request order)
    (adds : Adds platform request order before after)
    (fits : Database.orderFits (Database.orderRow order) = true ∧
      ∀ row ∈ order.items.map Database.itemRow, Database.itemFits row = true) : Kept after request order where
  ordered := ordered
  orders := by
    unfold ordersOf
    rw [adds.orders]
    apply filter_fresh adds.fresh
    intro row member
    cases List.mem_singleton.mp member
    exact decide_eq_true rfl
  items := by
    have none : itemsOf before order.id = [] := by
      apply List.filter_eq_nil_iff.mpr
      intro item member same
      rcases linked item member with ⟨row, listed, named⟩
      have absent := List.filter_eq_nil_iff.mp adds.fresh row listed
      exact absent (decide_eq_true (named.trans (of_decide_eq_true same)))
    unfold itemsOf
    rw [adds.items]
    apply filter_fresh none
    intro row member
    exact decide_eq_true ((lists_of_created ordered.items).2.1 row member)
  orderFits := fits.1
  itemsFit := fits.2

/-- A later order has another id. -/
theorem Kept.adds {request' : CreateOrderRequest} {order' : Order} (kept : Kept before request order)
    (ordered : Ordered request' order') (adds : Adds platform request' order' before after)
    (jobs : after.jobs = before.jobs) : Kept after request order := by
  have other : order.id ≠ order'.id := by
    intro same
    have fresh := adds.fresh
    rw [← same, kept.orders] at fresh
    cases fresh
  have same := adds.sameFor ordered jobs other
  exact ⟨kept.ordered, same.orders.trans kept.orders, same.items.trans kept.items, kept.orderFits, kept.itemsFit⟩

/-- One call keeps the foreign key and every order, and keeps the order that it commits. -/
theorem kept_cons {config : ApiConfig} {log : IntakeLog} {event : IntakeEvent}
    (intended : Intends request log event.call) (admitted : (api platform config).Admits log event)
    (linked : ItemsLinked event.before) : ItemsLinked event.after ∧
      (∀ request' order', Kept event.before request' order' → Kept event.after request' order') ∧
      ∀ order' eventId, event.call = .commit (orderTransaction request order' eventId) →
        Backend.commit platform event.before (orderTransaction request order' eventId) = .ok event.after →
        Kept event.after request order' := by
  cases intake_admits admitted with
  | committed transaction called done =>
      rw [called] at intended
      rcases intended with ⟨_, order, eventId, ordered, _, rfl⟩
      rcases commit_adds done with ⟨adds, jobs⟩
      refine ⟨adds.linked linked ordered, fun request' order' kept => kept.adds ordered adds jobs, ?_⟩
      intro order' eventId' called' done'
      have same : order = order' := by
        injection called.symm.trans called' with transactions
        injection transactions with head
        injection head
      subst same
      exact adds.kept linked ordered (commit_fits done')
  | queued jobId data called done =>
      rcases addJob_tables event.before jobId data with ⟨orders, items, _⟩
      rw [← done] at orders items
      refine ⟨linked.rows orders items, fun request' order' kept => kept.rows orders items, ?_⟩
      intro order' eventId' called'
      cases called.symm.trans called'
  | aside same silent =>
      refine ⟨linked.rows same.orders same.items, fun request' order' kept => kept.rows same.orders same.items, ?_⟩
      intro order' eventId' called' done'
      have longer := congrArg List.length ((commit_adds done').1.orders.symm.trans same.orders)
      rw [List.length_append, List.length_singleton] at longer
      omega

end Steps

/-- The foreign key holds, and every committed order is kept. -/
structure Booked (platform : Platform) (config : OrderCalls) : Prop where
  linked : ItemsLinked config.shared
  kept : ∀ thread ∈ config.threads, ∀ order, CommittedBy platform thread.task thread.log order →
    Kept config.shared thread.task order

section Runs

variable {platform : Platform} {start : Backend} {reached : OrderCalls}

theorem reaches_orderCalls {Legal : OrderCalls → Process.Move CreateOrderRequest Choice → Prop}
    (reaches : (orderCalls platform).Reaches Legal { shared := start } reached) :
    ∀ thread ∈ reached.threads, (orderCalls platform).Keeps Intends (fun request result => Placed request result.order)
      (fun _ _ => Unconfirmed) thread := by
  apply reaches.contract
  · intro thread member
    cases member
  · intro config request _
    have meets : (OrderService.createOrder request).Meets (api platform plainApi).Admits (Intends request)
        (fun result => Placed request result.order) (fun _ => Unconfirmed) [] :=
      createOrder_meets (fun event member => by cases member) rfl
    exact meets

theorem CommittedBy.cons {request : CreateOrderRequest} {log : IntakeLog} {event : IntakeEvent} {order : Order}
    (committed : CommittedBy platform request (event :: log) order) : CommittedBy platform request log order ∨
      ∃ eventId, event.call = .commit (orderTransaction request order eventId) ∧
        Backend.commit platform event.before (orderTransaction request order eventId) = .ok event.after := by
  rcases committed with ⟨event', member, eventId, called, done⟩
  rcases List.mem_cons.mp member with rfl | earlier
  · exact Or.inr ⟨eventId, called, done⟩
  · exact Or.inl ⟨event', earlier, eventId, called, done⟩

theorem reaches_booked (linked : ItemsLinked start)
    (reaches : (orderCalls platform).Reaches (fun _ _ => True) { shared := start } reached) : Booked platform reached := by
  refine reaches.moving ?_ ?_ ?_
  · exact ⟨linked, fun thread member => by cases member⟩
  · intro earlier later unmoved booked
    constructor
    · rw [unmoved.shared]
      exact booked.linked
    · intro thread member order committed
      rcases unmoved.mem member with ⟨old, present, task, same⟩ | nothing
      · rw [← task, ← same] at committed
        rw [unmoved.shared, ← task]
        exact booked.kept old present order committed
      · rw [nothing] at committed
        rcases committed with ⟨event, member, _⟩
        cases member
  · intro earlier index choice thread call resume reaches' _ listed pending booked
    have keeping := reaches_orderCalls reaches' thread (List.mem_of_getElem? listed)
    have intended := (keeping.answered pending earlier.shared choice).1
    have admitted : (api platform plainApi).Admits thread.log ((orderCalls platform).answer earlier.shared call choice) :=
      ⟨choice, rfl⟩
    rcases kept_cons intended admitted booked.linked with ⟨linked, kept, committed⟩
    refine ⟨linked, ?_⟩
    intro other member order committed'
    rcases List.mem_or_eq_of_mem_set member with present | rfl
    · exact kept _ order (booked.kept other present order committed')
    · rcases committed'.cons with before | ⟨eventId, called, done⟩
      · exact kept _ order (booked.kept thread (List.mem_of_getElem? listed) order before)
      · exact committed order eventId called done

/-- In every state that calls of `createOrder` reach, in any order of their steps, what
one of them has committed has its exact total, and is read back with it, if the body it
was called for has passed the route's schema and zod's. -/
theorem totals_exact (linked : ItemsLinked start)
    (reaches : (orderCalls platform).Reaches (fun _ _ => True) { shared := start } reached)
    {thread : OrderCall} (member : thread ∈ reached.threads) {post : PostOrder} {body : Json} {input : CreateOrderInput}
    (typed : CreateOrderSchema.jsonSchema body = true) (accepted : CreateOrderSchema.parse body = .ok input)
    (task : thread.task = createOrderRequest post input) {order : Order}
    (committed : CommittedBy platform thread.task thread.log order) (precedes : Uuid → Uuid → Bool) :
    ∃ row, ordersOf reached.shared order.id = [row] ∧ ExactTotal precedes reached.shared thread.task row := by
  have kept := (reaches_booked linked reaches).kept thread member order committed
  have currency : thread.task.currency = input.currency := by rw [task]; rfl
  have letters : thread.task.currency.length = 3 := by
    rw [currency]
    exact currency_of_jsonSchema typed accepted
  exact ⟨Database.orderRow order, kept.orders, kept.exact precedes (kept.full letters)⟩

/-- A commit that has been confirmed is one. -/
theorem committedBy_of_confirms
    (reaches : (orderCalls platform).Reaches (fun _ _ => True) { shared := start } reached) {thread : OrderCall}
    (member : thread ∈ reached.threads) (confirmed : thread.log.any confirms = true) :
    ∃ order, CommittedBy platform thread.task thread.log order := by
  rcases List.any_eq_true.mp confirmed with ⟨event, listed, confirms'⟩
  have keeps := reaches_orderCalls reaches thread member
  rcases System.Lawful.admitted keeps.behind listed with ⟨_, earlier, _, intended, admitted⟩
  have admitted' : (api platform plainApi).Admits earlier event := admitted
  cases intake_admits admitted' with
  | committed transaction called done =>
      rw [called] at intended
      rcases intended with ⟨_, order, eventId, _, _, rfl⟩
      exact ⟨order, event, listed, eventId, called, done⟩
  | queued jobId data called _ =>
      rcases event with ⟨call, reply, before, after⟩
      cases called
      cases confirms'
  | aside _ silent => cases silent.symm.trans confirms'

end Runs

/-- A call that is served throughout. -/
def orderedOnce (request : CreateOrderRequest) : OrderCalls :=
  (orderCalls postgresJs).run { shared := emptyBackend } (.start request :: List.replicate 10 (.advance 0 .serve))

theorem emptyBackend_linked : ItemsLinked emptyBackend := fun item member => by cases member

/-- The call for the body of five units. -/
def plainOrder : CreateOrderRequest :=
  createOrderRequest (plainPost "client" "key" plainBody) (CreateOrderSchema.input plainBody)

theorem totals_exact_plainOrder : ∃ thread ∈ (orderedOnce plainOrder).threads, ∃ (order : Order) (row : OrderRow),
    CommittedBy postgresJs thread.task thread.log order ∧
    ordersOf (orderedOnce plainOrder).shared order.id = [row] ∧
      ExactTotal Nat.ble (orderedOnce plainOrder).shared thread.task row := by
  have confirmed : (orderedOnce plainOrder).threads.any (fun thread =>
      decide (thread.task = plainOrder) && thread.log.any confirms) = true := by decide +kernel
  rcases List.any_eq_true.mp confirmed with ⟨thread, member, both⟩
  have parts := Bool.and_eq_true_iff.mp both
  rcases committedBy_of_confirms (System.run_reaches _ _) member parts.2 with ⟨order, committed⟩
  have typed : CreateOrderSchema.jsonSchema plainBody = true := by decide +kernel
  have accepted : CreateOrderSchema.parse plainBody = .ok (CreateOrderSchema.input plainBody) := rfl
  rcases totals_exact emptyBackend_linked (System.run_reaches _ _) member typed accepted (of_decide_eq_true parts.1)
    committed Nat.ble with ⟨row, stored, exact'⟩
  exact ⟨thread, member, order, row, committed, stored, exact'⟩

end Orderly
