import Orderly.Ordering.Tables

/-!
# All or nothing

Wherever `createOrder` stops, the tables and the queue either hold nothing for
the order's id, or the order with all its items, its event and at most the job
of its saga, and these agree with one another and with the request.
-/

namespace Orderly

open Process (System Program)

/-! ## What is recorded for an order -/

def ordersOf (backend : Backend) (id : Uuid) : List OrderRow :=
  backend.world.db.orders.rows.filter fun row => row.id = id

def itemsOf (backend : Backend) (id : Uuid) : List OrderItemRow := backend.items.rows.filter fun row => row.orderId = id

def eventsOf (backend : Backend) (id : Uuid) : List OutboxEvent :=
  backend.world.db.outbox.rows.filter fun event => event.aggregateId = id

def jobsOf (backend : Backend) (id : Uuid) : List SagaJob := backend.jobs.filter fun job => job.data.orderId = id

/-- Nothing is recorded for an order. -/
structure Absent (backend : Backend) (id : Uuid) : Prop where
  orders : ordersOf backend id = []
  items : itemsOf backend id = []
  events : eventsOf backend id = []
  jobs : jobsOf backend id = []

/-- The row of a requested item, with its price normalised. -/
structure Lists (currency : String) (line : OrderLine) (row : OrderItemRow) : Prop where
  sku : row.sku = line.sku
  quantity : line.quantity.integer = some (row.quantity : Int)
  unitPrice : ∃ price, Money.new line.unitPrice currency = .ok price ∧ row.unitPrice = price.amount

/-- The total as the event and the job carry it. -/
def totalOf (row : OrderRow) : MoneyJson := { amount := row.totalAmount, currency := row.currency }

/-- An item as the job carries it. -/
def reservationOf (row : OrderItemRow) : InventoryReservation := { sku := row.sku, quantity := row.quantity }

/-- Everything is recorded for an order, and it agrees with the request. -/
structure Recorded (platform : Platform) (request : CreateOrderRequest) (backend : Backend) (row : OrderRow) : Prop where
  order : ordersOf backend row.id = [row]
  items : List.Forall₂ (Lists request.currency) request.items (itemsOf backend row.id)
  event : ∃ event payload, eventsOf backend row.id = [event] ∧ event.eventType = "order.created" ∧
    event.status = .pending ∧ event.payload = platform.jsonb payload ∧
      payload.member? "totalAmount" = some (totalOf row).toJson ∧
        payload.member? "itemCount" = some (.ofNat (itemsOf backend row.id).length)
  jobs : ∀ job ∈ jobsOf backend row.id,
    job.data.items = (itemsOf backend row.id).map reservationOf ∧ job.data.totalAmount = totalOf row

section Steps

variable {platform : Platform} {config : ApiConfig} {request : CreateOrderRequest} {start state : Backend}
  {log : IntakeLog}

/-- An item's row lists the line it was created from. -/
theorem lists_of_created {id : Uuid} {currency : String} {lines : List OrderLine} {items : List OrderItem}
    (created : List.Forall₂ (fun line item =>
      createOrderItem item.id id line.sku line.quantity line.unitPrice currency = .ok item) lines items) :
    List.Forall₂ (Lists currency) lines (items.map Database.itemRow) ∧
      (∀ row ∈ items.map Database.itemRow, row.orderId = id) ∧
        lines.map OrderService.reservation = (items.map Database.itemRow).map reservationOf := by
  induction created with
  | nil => exact ⟨.nil, nofun, rfl⟩
  | cons made _ inductionHypothesis =>
      rcases createOrderItem_spec made with ⟨_, named, sku, quantity, price⟩
      rcases inductionHypothesis with ⟨lists, names, reserved⟩
      refine ⟨.cons ⟨sku, quantity, _, price, rfl⟩ lists, ?_, ?_⟩
      · intro row member
        rcases List.mem_cons.mp member with rfl | later
        · exact named
        · exact names row later
      · rw [List.map_cons, List.map_cons, List.map_cons, reserved]
        congr 1
        unfold OrderService.reservation reservationOf Database.itemRow
        rw [quantity, sku]
        rfl

/-- The total of an order is in its currency. -/
theorem Ordered.total {order : Order} (ordered : Ordered request order) :
    order.totalAmount.toJSON = totalOf (Database.orderRow order) := by
  rcases createOrder_spec ordered.made with ⟨total, summed, made⟩
  rw [made]
  unfold Money.toJSON totalOf Database.orderRow
  rw [orderTotal_currency summed]

/-- The job of an order's saga. -/
def sagaJob (request : CreateOrderRequest) (order : Order) : SagaJob where
  id := Intake.SagaEnqueuer.jobId order.id
  data := OrderService.sagaContext request order

/-- Nothing has been committed yet, or the order has been, and then its job at most. -/
inductive CreationState (platform : Platform) (request : CreateOrderRequest) (start : Backend) (log : IntakeLog)
    (state : Backend) : Prop where
  | nothing (same : SameTables start state) (unconfirmed : ∀ event ∈ log, confirms event = false)
  | committed (order : Order) (eventId : Uuid) (ordered : Ordered request order) (drawn : orderId log = some order.id)
      (adds : Adds platform request order start state) (once : ∃ event ∈ log, commits event = true)
      (only : ∀ event ∈ log, commits event = true → event.call = .commit (orderTransaction request order eventId))
      (jobs : state.jobs = start.jobs ∨
        (∃ event ∈ log, enqueues event = true) ∧ state.jobs = start.jobs ++ [sagaJob request order])

/-- Each call of the routine goes from one of these states to another. -/
theorem creationState_cons {event : IntakeEvent} (intended : Intends request log event.call)
    (admitted : (api platform config).Admits log event)
    (before : CreationState platform request start log event.before) :
    CreationState platform request start (event :: log) event.after := by
  cases before with
  | nothing same unconfirmed =>
      cases intake_admits admitted with
      | committed transaction called done =>
          rw [called] at intended
          rcases intended with ⟨quiet, order, eventId, ordered, drawn, rfl⟩
          rcases commit_adds done with ⟨adds, jobs⟩
          refine .committed order eventId ordered (orderId_cons drawn) (adds.between same rfl rfl rfl)
            ⟨event, List.mem_cons_self, commits_of_call called⟩ ?_ (Or.inl (jobs.trans same.jobs))
          intro other member commit
          rcases List.mem_cons.mp member with rfl | earlier
          · exact called
          · cases (quiet other earlier).1.symm.trans commit
      | queued jobId data called done =>
          rw [called] at intended
          rcases intended with ⟨_, order, _, _, ⟨eventId, before, after, member⟩, _⟩
          cases unconfirmed _ member
      | aside unchanged silent =>
          refine .nothing (same.trans unchanged) ?_
          intro other member
          rcases List.mem_cons.mp member with rfl | earlier
          · exact silent
          · exact unconfirmed other earlier
  | committed order eventId ordered drawn adds once only jobs =>
      rcases once with ⟨one, present, committing⟩
      -- the transaction is committed once, so the new call is another one
      have first : commits event = false := by
        cases again : commits event with
        | false => rfl
        | true =>
            rcases call_of_commits again with ⟨transaction, called⟩
            rw [called] at intended
            cases (intended.1 one present).1.symm.trans committing
      have only' : ∀ other ∈ event :: log, commits other = true →
          other.call = .commit (orderTransaction request order eventId) := by
        intro other member commit
        rcases List.mem_cons.mp member with rfl | earlier
        · cases first.symm.trans commit
        · exact only other earlier commit
      have still : ∃ event' ∈ event :: log, commits event' = true := ⟨one, List.mem_cons_of_mem _ present, committing⟩
      cases intake_admits admitted with
      | committed transaction called done => cases first.symm.trans (commits_of_call called)
      | queued jobId data called done =>
          rw [called] at intended
          rcases intended with ⟨unqueued, order', _, _, ⟨eventId', _, _, confirmed⟩, rfl, rfl⟩
          -- the confirmed transaction is the only one, so the job is this order's
          have same : order' = order := by
            injection only _ confirmed rfl with transactions
            injection transactions with head
            injection head
          subst same
          have queue : event.before.jobs = start.jobs := by
            rcases jobs with unchanged | ⟨⟨other, member, enqueued⟩, _⟩
            · exact unchanged
            · cases (unqueued other member).symm.trans enqueued
          rw [done]
          refine .committed order' eventId ordered (orderId_cons drawn) ?_ still only' ?_
          · exact (Adds.between (.refl start) adds (addJob_tables _ _ _).1 (addJob_tables _ _ _).2.1
              (addJob_tables _ _ _).2.2)
          · unfold Backend.addJob
            split
            · exact Or.inl queue
            · refine Or.inr ⟨⟨event, List.mem_cons_self, enqueues_of_call called⟩, ?_⟩
              change event.before.jobs ++ _ = _
              rw [queue]
              rfl
      | aside unchanged silent =>
          refine .committed order eventId ordered (orderId_cons drawn)
            (.between (.refl start) adds unchanged.orders unchanged.items unchanged.events) still only' ?_
          rw [unchanged.jobs]
          rcases jobs with same | ⟨⟨other, member, enqueued⟩, grown⟩
          · exact Or.inl same
          · exact Or.inr ⟨⟨other, List.mem_cons_of_mem _ member, enqueued⟩, grown⟩

/-- Tables that are the same hold nothing more for an order. -/
theorem Absent.same {id : Uuid} (absent : Absent start id) (same : SameTables start state) : Absent state id where
  orders := by
    unfold ordersOf
    rw [same.orders]
    exact absent.orders
  items := by
    unfold itemsOf
    rw [same.items]
    exact absent.items
  events := by
    unfold eventsOf
    rw [same.events]
    exact absent.events
  jobs := by
    unfold jobsOf
    rw [same.jobs]
    exact absent.jobs

theorem filter_fresh {Row : Type} {rows added : List Row} {selects : Row → Bool} (absent : rows.filter selects = [])
    (selected : ∀ row ∈ added, selects row = true) : (rows ++ added).filter selects = added := by
  rw [List.filter_append, absent, List.nil_append]
  exact List.filter_eq_self.mpr selected

/-- What a transaction adds to tables without the order is the order. -/
theorem recorded_of_adds {order : Order} (absent : Absent start order.id) (ordered : Ordered request order)
    (adds : Adds platform request order start state)
    (jobs : state.jobs = start.jobs ∨ state.jobs = start.jobs ++ [sagaJob request order]) :
    Recorded platform request state (Database.orderRow order) := by
  rcases lists_of_created ordered.items with ⟨lists, names, reserved⟩
  have items : itemsOf state order.id = order.items.map Database.itemRow := by
    unfold itemsOf
    rw [adds.items]
    apply filter_fresh absent.items
    intro row member
    exact decide_eq_true (names row member)
  constructor
  · change ordersOf state order.id = _
    unfold ordersOf
    rw [adds.orders]
    apply filter_fresh absent.orders
    intro row member
    cases List.mem_singleton.mp member
    exact decide_eq_true rfl
  · change List.Forall₂ _ _ (itemsOf state order.id)
    rw [items]
    exact lists
  · rcases adds.events with ⟨eventId, now, events⟩
    refine ⟨Database.outboxRow platform now eventId (OrderService.createdEvent request order),
      (OrderService.createdEvent request order).payload, ?_, rfl, rfl, rfl, ?_, ?_⟩
    · change eventsOf state order.id = _
      unfold eventsOf
      rw [events]
      apply filter_fresh absent.events
      intro event member
      cases List.mem_singleton.mp member
      exact decide_eq_true rfl
    · rw [← ordered.total]
      exact OrderService.createdEvent_totalAmount request order
    · change _ = some (Json.ofNat (itemsOf state order.id).length)
      rw [items, List.length_map]
      exact OrderService.createdEvent_itemCount request order
  · change ∀ job ∈ jobsOf state order.id, job.data.items = (itemsOf state order.id).map reservationOf ∧ _
    intro job member
    have queued : job = sagaJob request order := by
      unfold jobsOf at member
      rcases jobs with same | grown
      · rw [same] at member
        have none := absent.jobs
        unfold jobsOf at none
        rw [none] at member
        cases member
      · rw [grown, List.filter_append] at member
        have none := absent.jobs
        unfold jobsOf at none
        rw [none, List.nil_append] at member
        exact List.mem_singleton.mp (List.mem_of_mem_filter member)
    rw [queued, items]
    exact ⟨reserved, ordered.total⟩

variable {rest : Intake CreateOrderResult}

/-- Where the routine has got to, its order is in one of the two states. -/
theorem creationState (executes : (api platform config).Executes (OrderService.createOrder request) start log rest state) :
    CreationState platform request start log state := by
  have meets : (OrderService.createOrder request).Meets (api platform config).Admits (Intends request)
      (fun result => Placed request result.order) (fun _ => Unconfirmed) [] :=
    createOrder_meets (fun event member => by cases member) rfl
  apply executes.invariant meets
  · exact .nothing (.refl start) (fun event member => by cases member)
  · intro log event intended admitted before
    exact creationState_cons intended admitted before

/-- The order's id is the next UUID. -/
theorem orderId_next (executes : (api platform config).Executes (OrderService.createOrder request) start log rest state)
    {id : Uuid} (drawn : orderId log = some id) : id = start.world.nextUuid := by
  rcases executes.first with ⟨rfl, _⟩ | ⟨choice, since, rfl, _⟩
  · cases drawn
  · have first : orderId [(api platform config).answer start .uuidv4 choice] = some start.world.nextUuid := by
      cases choice <;> rfl
    have known : ∀ since : IntakeLog, orderId (since ++ [(api platform config).answer start .uuidv4 choice]) =
        some start.world.nextUuid := by
      intro since
      induction since with
      | nil => exact first
      | cons event since inductionHypothesis => exact orderId_cons inductionHypothesis
    rw [known since] at drawn
    exact (Option.some.inj drawn).symm

end Steps

/-- Wherever `createOrder` stops, nothing is recorded for the new order's id, or the
whole order is. -/
theorem created_entirely {platform : Platform} {config : ApiConfig} {request : CreateOrderRequest}
    {start state : Backend} {log : IntakeLog} {rest : Intake CreateOrderResult}
    (unused : Absent start start.world.nextUuid)
    (executes : (api platform config).Executes (OrderService.createOrder request) start log rest state) :
    Absent state start.world.nextUuid ∨
      ∃ row, row.id = start.world.nextUuid ∧ Recorded platform request state row := by
  cases creationState executes with
  | nothing same _ => exact Or.inl (unused.same same)
  | committed order eventId ordered drawn adds once only jobs =>
      have next := orderId_next executes drawn
      refine Or.inr ⟨Database.orderRow order, next, ?_⟩
      rw [← next] at unused
      exact recorded_of_adds unused ordered adds (jobs.imp id And.right)

def fiveUnits : CreateOrderRequest where
  customerId := "customer"
  items := [⟨"X", ⟨"5", some 5⟩, "2.00"⟩]
  currency := "USD"
  idempotencyKey := some "key"
  paymentToken := "tok"

/-- The routine with the calls answered that the choices reach. -/
def ordering (choices : List Choice) : IntakeLog × Intake CreateOrderResult × Backend :=
  (api postgresJs plainApi).execute (OrderService.createOrder fiveUnits) emptyBackend [] choices

example : (ordering (List.replicate 10 .serve)).2.2.jobs.map (fun job => job.data.items) = [[⟨"X", 5⟩]] := by
  decide +kernel

/-- The commit takes effect, but the caller sees a rejection. -/
theorem created_entirely_lost :
    Absent (ordering (List.replicate 8 .serve ++ [.lose .other])).2.2 0 ∨
      ∃ row, row.id = 0 ∧ Recorded postgresJs fiveUnits (ordering (List.replicate 8 .serve ++ [.lose .other])).2.2 row := by
  have unused : Absent emptyBackend emptyBackend.world.nextUuid := ⟨rfl, rfl, rfl, rfl⟩
  exact created_entirely unused (System.executes_execute _ _ _ _)

end Orderly
