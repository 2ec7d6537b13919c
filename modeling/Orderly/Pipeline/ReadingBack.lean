import Orderly.Api.GetOrder
import Orderly.Pipeline.Payments

/-!
# What is read back

A client that has created an order asks for it later, by whatever way the order
has gone meanwhile.  The rows are those of the transaction up to what
`updateStatus` sets, and reading validates them again, so what the client gets is
the aggregate it was told of, with a newer status and with its items in the
database's order.
-/

namespace Orderly

open Process (Move Program System)
open Decimal

/-! ## The rows of a created order -/

/-- The order's rows are as they have been written, up to what `updateStatus` sets. -/
structure OrderStored (request : CreateOrderRequest) (order : Order) (backend : Backend) : Prop where
  written : ∃ backend, Kept backend request order
  row : ∃ row ∈ backend.world.db.orders.rows, Restated (Database.orderRow order) row
  items : itemsOf backend order.id = order.items.map Database.itemRow

section Rows

variable {platform : Platform} {request : CreateOrderRequest} {order : Order} {backend before after : Backend}

theorem Kept.orderStored (kept : Kept backend request order) : OrderStored request order backend where
  written := ⟨backend, kept⟩
  row := by
    have listed : Database.orderRow order ∈ ordersOf backend order.id := by
      rw [kept.orders]
      exact List.mem_singleton_self _
    exact ⟨_, (List.mem_filter.mp listed).1, rfl⟩
  items := kept.items

theorem OrderStored.kept (stored : OrderStored request order before) (kept : OrdersKept before after) :
    OrderStored request order after where
  written := stored.written
  row := by
    rcases stored.row with ⟨row, member, restated⟩
    rcases kept.rows row member with ⟨row', member', later⟩
    exact ⟨row', member', restated.trans later⟩
  items := by
    rcases stored.row with ⟨row, member, restated⟩
    have id : row.id = order.id := by
      rw [restated]
      rfl
    rw [← id, kept.items row member, id]
    exact stored.items

/-- The values that have been written are read as they stand. -/
theorem Kept.readable (kept : Kept backend request order) :
    Money.new order.totalAmount.amount order.currency = .ok order.totalAmount ∧
      ∀ item ∈ order.items, OrderRepository.Readable order.currency (Database.itemRow item) ∧
        OrderRepository.itemOf order.currency (Database.itemRow item) = item := by
  have code := kept.ordered.codes.2.1
  rw [kept.ordered.currency]
  constructor
  · rcases kept.total with ⟨amount, small⟩
    have text : order.totalAmount.amount = amountText (exactTotal order.items) := by
      rw [amount]
      rfl
    rw [text, Money.new_amountText code (readable_of_small small), toUpperCase_toUpperCase, amount]
  · intro item present
    have valid := kept.ordered.valid item present
    have price := valid.2.2.price
    rcases kept.prices _ (List.mem_map_of_mem present) with ⟨units, text, readable⟩
    have read : Money.new item.unitPrice.amount (toUpperCase request.currency) = .ok item.unitPrice := by
      have amount : item.unitPrice.amount = amountText units := text
      have same : amountText (priceOf item) = amountText units := by
        rw [← amount, price]
        rfl
      rw [amount, Money.new_amountText code readable, toUpperCase_toUpperCase, price]
      unfold Money.ofUnits
      rw [same]
    have currency : item.unitPrice = { amount := item.unitPrice.amount, currency := toUpperCase request.currency } := by
      rw [price]
      rfl
    refine ⟨⟨valid.1, read.trans (congrArg Except.ok currency)⟩, ?_⟩
    change { item with unitPrice := { amount := item.unitPrice.amount, currency := toUpperCase request.currency } } = item
    rw [← currency]

/-- Every value of the rows goes into the aggregate. -/
theorem toDomain_exact {row : OrderRow} {itemRows : List OrderItemRow} {total : Money}
    (read : Money.new row.totalAmount row.currency = .ok total)
    (readable : ∀ item ∈ itemRows, OrderRepository.Readable row.currency item) :
    OrderRepository.toDomain row itemRows = .ok {
      id := row.id
      customerId := row.customerId
      status := row.status
      totalAmount := total
      currency := row.currency
      idempotencyKey := row.idempotencyKey
      items := itemRows.map (OrderRepository.itemOf row.currency)
      createdAt := row.createdAt
      updatedAt := row.updatedAt } := by
  unfold OrderRepository.toDomain
  rw [OrderRepository.mapM_toItem readable, read]
  rfl

/-- Reading gives the aggregate back, whatever happens between its two statements. -/
theorem OrderStored.found (stored : OrderStored request order before) (later : OrderStored request order after)
    (full : (toUpperCase request.currency).length = 3) (precedes : Uuid → Uuid → Bool) :
    ∃ row items, ordersOf before order.id = [row] ∧ items.Perm order.items ∧
      OrderRepository.findAcross precedes before after order.id =
        .ok (some { order with items, status := row.status, updatedAt := row.updatedAt }) := by
  rcases stored.written with ⟨written, kept⟩
  rcases stored.row with ⟨row, member, restated⟩
  rcases kept.readable with ⟨total, readable⟩
  have id : row.id = order.id := by
    rw [restated]
    rfl
  have currency : row.currency = order.currency := by
    rw [restated]
    rfl
  have amount : row.totalAmount = order.totalAmount.amount := by
    rw [restated]
    rfl
  have selected : OrderRepository.selectOrder before order.id = some row := by
    unfold OrderRepository.selectOrder
    rw [← id, Store.Table.lookup_of_mem member]
    exact congrArg some (OrderRepository.padded_full (by rw [currency, kept.ordered.currency, full]))
  have sorted : (OrderRepository.selectItems precedes after order.id).Perm (order.items.map Database.itemRow) := by
    rw [← later.items]
    exact List.mergeSort_perm _ _
  have read : Money.new row.totalAmount row.currency = .ok order.totalAmount := by
    rw [amount, currency]
    exact total
  have valid : ∀ item ∈ OrderRepository.selectItems precedes after order.id, OrderRepository.Readable row.currency item := by
    intro item listed
    rcases List.mem_map.mp (sorted.mem_iff.mp listed) with ⟨original, present, rfl⟩
    rw [currency]
    exact (readable original present).1
  refine ⟨row, (OrderRepository.selectItems precedes after order.id).map (OrderRepository.itemOf row.currency), ?_, ?_, ?_⟩
  · rw [← id]
    exact Store.Table.filter_key member
  · have back : (order.items.map Database.itemRow).map (OrderRepository.itemOf row.currency) = order.items := by
      rw [List.map_map, currency]
      exact (List.map_congr_left fun item present => (readable item present).2).trans (List.map_id _)
    exact (sorted.map _).trans (List.Perm.of_eq back)
  · unfold OrderRepository.findAcross
    rw [selected]
    dsimp only
    rw [toDomain_exact read valid, restated]
    rfl

end Rows

/-! ## All runs -/

section Runs

variable {platform : Platform} {Legal : Flowing → Move PipelineTask Choice → Prop} {start : Backend}
  {config later : Flowing}

theorem placed_meets (task : PipelineTask) :
    (task.program platform).Meets (pipeline platform).Admits (fun _ _ => True)
      (fun outcome log => ∀ request result, task = .createOrder request → outcome = .created result →
        Placed request result.order (intakeLog log)) (fun _ _ => True) [] := by
  have others : (∀ request, task ≠ .createOrder request) → (task.program platform).Meets (pipeline platform).Admits
      (fun _ _ => True) (fun outcome log => ∀ request result, task = .createOrder request → outcome = .created result →
        Placed request result.order (intakeLog log)) (fun _ _ => True) [] := by
    intro other
    refine (Program.Meets.anything _ _).weaken ?_ fun _ _ _ => trivial
    exact fun _ _ _ request _ same => absurd same (other request)
  cases task with
  | createOrder request =>
      have created : (OrderService.createOrder request).Meets (api platform plainApi).Admits (Intends request)
          (fun result => Placed request result.order) (fun _ => Unconfirmed) (intakeLog []) :=
        createOrder_meets (fun event member => by cases member) rfl
      refine Program.Meets.bind (Program.Meets.widen (fun _ _ _ => trivial)
        ((Program.Meets.along intake_faithful created).weaken (fun _ _ placed => placed) fun _ _ _ => trivial)) ?_
      rintro result log placed request' result' same returned
      cases same
      cases returned
      exact placed
  | sagaJob jobId => exact others fun request same => by cases same
  | stalled jobId => exact others fun request same => by cases same
  | compensateSaga id => exact others fun request same => by cases same

/-- A request that has returned has placed its order. -/
theorem created_placed (reached : (pipeline platform).Reaches Legal { shared := start } config) {stage : Stage}
    (member : stage ∈ config.threads) {request : CreateOrderRequest} {result : CreateOrderResult}
    (task : stage.task = .createOrder request) (returned : stage.code = .done (.created result)) :
    Placed request result.order (intakeLog stage.log) := by
  have keeps := (reached.contract (fun _ none => by cases none) fun _ task _ => placed_meets task) stage member
  have ahead := keeps.ahead
  rw [returned] at ahead
  exact ahead request result task rfl

/-- A confirmed commit stores its order. -/
theorem confirmed_stored {request : CreateOrderRequest} {order : Order} {eventId : Uuid} {log : PipelineLog}
    {before after : Backend} (linked : ItemsLinked before)
    (issued : Issues platform (.createOrder request) log (.intake (.commit (orderTransaction request order eventId))))
    (admitted : (pipeline platform).Admits log
      ⟨.intake (.commit (orderTransaction request order eventId)), .ok (), before, after⟩) :
    OrderStored request order after := by
  have admitted' : (api platform plainApi).Admits (intakeLog log)
      ⟨.commit (orderTransaction request order eventId), .ok (), before, after⟩ := seen_by_intake admitted _
  rcases issued.of_intake with ⟨_, same, _, order', _, ordered, _, transactions⟩
  cases same
  have orders : order = order' := by
    injection transactions with head
    injection head
  subst orders
  cases intake_admits admitted' with
  | committed transaction called done =>
      cases called
      exact ((commit_adds done).1.kept linked ordered (commit_fits done)).orderStored
  | queued jobId data called done => cases called
  | aside same unconfirmed => cases unconfirmed

/-- The foreign key holds, and every confirmed order is stored. -/
structure AllStored (config : Flowing) : Prop where
  linked : ItemsLinked config.shared
  stored : ∀ stage ∈ config.threads, ∀ request, stage.task = .createOrder request → ∀ order,
    Confirmed request order (intakeLog stage.log) → OrderStored request order config.shared

theorem AllStored.moved {index : Nat} {stage : Stage} {event : PipelineEvent} (rest : Pipeline PipelineOutcome)
    (all : AllStored config) (listed : config.threads[index]? = some stage) (here : event.before = config.shared)
    (admitted : (pipeline platform).Admits stage.log event) (issued : Issues platform stage.task stage.log event.call)
    (behaves : Behaves platform stage.task (event :: stage.log)) :
    AllStored { shared := event.after, threads := config.threads.set index (stage.answered event rest) } := by
  have member := List.mem_of_getElem? listed
  have kept := ordersKept_event issued behaves admitted
  rw [here] at kept
  refine ⟨kept.linked all.linked, ?_⟩
  intro other among request task order confirmed
  rcases List.mem_or_eq_of_mem_set among with earlier | rfl
  · exact (all.stored other earlier request task order confirmed).kept kept
  · replace task : stage.task = .createOrder request := task
    rcases confirmed_cons confirmed with earlier | ⟨eventId, before, after, rfl⟩
    · exact (all.stored stage member request task order earlier).kept kept
    · replace here : before = config.shared := here
      rw [task] at issued
      exact confirmed_stored (here ▸ all.linked) issued admitted

theorem reaches_stored (linked : ItemsLinked start) (reached : (pipeline platform).Reaches Legal { shared := start } config) :
    AllStored config := by
  refine reached.moving ?_ ?_ ?_
  · exact ⟨linked, fun stage member => by cases member⟩
  · intro earlier next unmoved all
    constructor
    · rw [unmoved.shared]
      exact all.linked
    · intro stage member request task order confirmed
      rw [unmoved.shared]
      rcases unmoved.mem member with ⟨old, listed, same, log⟩ | nothing
      · exact all.stored old listed request (same.trans task) order (log ▸ confirmed)
      · rw [nothing] at confirmed
        rcases confirmed with ⟨eventId, before, after, found⟩
        cases found
  · intro earlier index choice stage call resume reached' _ listed pending all
    have answered := (reaches_stages reached' stage (List.mem_of_getElem? listed)).answered pending earlier.shared choice
    exact all.moved _ listed rfl ⟨choice, rfl⟩ answered.1.2 (Stage.Keeping.behaves answered.2)

/-- The orders that there have been are kept. -/
def KeptSince (config later : Flowing) : Prop := OrdersKept config.shared later.shared

theorem reaches_keptSince (reached : (pipeline platform).Reaches Legal { shared := start } config)
    (onwards : (pipeline platform).Reaches Legal config later) : KeptSince config later := by
  refine onwards.moving ?_ ?_ ?_
  · exact .of_rows rfl rfl rfl
  · intro earlier next unmoved kept
    unfold KeptSince at *
    rw [unmoved.shared]
    exact kept
  · intro earlier index choice stage call resume onwards' _ listed pending kept
    have member := List.mem_of_getElem? listed
    have answered := (reaches_stages (reached.trans onwards') stage member).answered pending earlier.shared choice
    have changed : OrdersKept earlier.shared ((pipeline platform).answer earlier.shared call choice).after :=
      @ordersKept_event platform stage ((pipeline platform).answer earlier.shared call choice) answered.1.2
        (Stage.Keeping.behaves answered.2) ⟨choice, rfl⟩
    exact kept.trans changed

/-- Whatever a request has returned is what the client gets back from then on, up to
what its row says of its status and of its last change. -/
theorem read_back (linked : ItemsLinked start) (reached : (pipeline platform).Reaches Legal { shared := start } config)
    (onwards : (pipeline platform).Reaches Legal config later) {stage : Stage} (member : stage ∈ config.threads)
    {request : CreateOrderRequest} {result : CreateOrderResult} (task : stage.task = .createOrder request)
    (returned : stage.code = .done (.created result)) (full : (toUpperCase request.currency).length = 3)
    (precedes : Uuid → Uuid → Bool) (url : String) :
    ∃ row items, ordersOf config.shared result.order.id = [row] ∧ items.Perm result.order.items ∧
      OrderRoutes.getOrder precedes url config.shared later.shared result.order.id =
        .ok { status := 200, body := .order (orderResponse
          { result.order with items, status := row.status, updatedAt := row.updatedAt }) } := by
  have placed := created_placed reached member task returned
  have stored := (reaches_stored linked reached).stored stage member request task result.order placed.2.2
  have afterwards := stored.kept (reaches_keptSince reached onwards)
  rcases stored.found afterwards full precedes with ⟨row, items, current, reordered, found⟩
  refine ⟨row, items, current, reordered, ?_⟩
  unfold OrderRoutes.getOrder
  rw [found]
  rfl

end Runs

/-- A request in a currency of three characters, and the order it has returned. -/
def returned (stage : Stage) : Option CreateOrderResult :=
  match stage.task, stage.code with
  | .createOrder request, .done (.created result) => if (toUpperCase request.currency).length = 3 then some result else none
  | _, _ => none

theorem returned_spec {stage : Stage} {result : CreateOrderResult} (found : returned stage = some result) :
    ∃ request, stage.task = .createOrder request ∧ stage.code = .done (.created result) ∧
      (toUpperCase request.currency).length = 3 := by
  unfold returned at found
  split at found
  · next request result' task code =>
      split at found
      · next full =>
          cases found
          exact ⟨request, task, code, full⟩
      · cases found
  · cases found

/-- A new order, before its saga has begun. -/
def createdFlow : Flowing :=
  (pipeline postgresJs).run { shared := openedShop }
    (.start (.createOrder fiveUnits) :: List.replicate 10 (.advance 0 .serve))

/-- The same when its saga has ended. -/
def endedFlow : Flowing :=
  (pipeline postgresJs).run createdFlow (.start (.sagaJob "saga-100") :: List.replicate 31 (.advance 1 .serve))

/-- The order is read before its saga begins, and its items after it has ended. -/
theorem read_back_ended : ∃ stage ∈ createdFlow.threads, ∃ result, returned stage = some result ∧
    ∃ row items, ordersOf createdFlow.shared result.order.id = [row] ∧ items.Perm result.order.items ∧
      OrderRoutes.getOrder (fun id other => id ≤ other) "/api/v1/orders/100" createdFlow.shared endedFlow.shared
        result.order.id =
          .ok { status := 200, body := .order (orderResponse
            { result.order with items, status := row.status, updatedAt := row.updatedAt }) } := by
  have present : (createdFlow.threads.head?.bind returned).isSome = true := by decide +kernel
  rcases Option.isSome_iff_exists.mp present with ⟨result, found⟩
  rcases Option.bind_eq_some_iff.mp found with ⟨stage, first, given⟩
  rcases returned_spec given with ⟨request, task, code, full⟩
  have reached : (pipeline postgresJs).Reaches (fun _ _ => True) { shared := openedShop } createdFlow :=
    System.run_reaches _ _
  have onwards : (pipeline postgresJs).Reaches (fun _ _ => True) createdFlow endedFlow := System.run_reaches _ _
  have member := List.mem_of_head? first
  exact ⟨stage, member, result, given, read_back openedShop_opened.linked reached onwards member task code full _ _⟩

end Orderly
