import Orderly.Pipeline.Accounting
import Orderly.Pipeline.Announcements
import Orderly.Ordering.Totals

/-!
# A paid order has been paid

The amount that a saga charges comes from its job, and the job's data from the
request.  What ties them to the order is that the columns of an order and of
its items do not change once they are written, so the job of an order carries
the total and the items of its rows.

An order becomes PAID by one kind of transaction only, which a run commits
after its charge has been approved and all items have been reserved.
-/

namespace Orderly

open Process (Move System)

/-! ## The rows of an order -/

/-- The data of a job are those of an order's rows. -/
structure ContextOf (backend : Backend) (row : OrderRow) (context : SagaContext) : Prop where
  order : context.orderId = row.id
  customer : context.customerId = row.customerId
  items : context.items = (itemsOf backend row.id).map reservationOf
  total : context.totalAmount = totalOf row

/-- There is such an order. -/
def OfOrder (backend : Backend) (context : SagaContext) : Prop :=
  ∃ row ∈ backend.world.db.orders.rows, ContextOf backend row context

/-- The row up to what `updateStatus` sets. -/
def Restated (row row' : OrderRow) : Prop := row' = { row with status := row'.status, updatedAt := row'.updatedAt }

/-- Orders and events stay, and only `updateStatus` changes an order. -/
structure OrdersKept (before after : Backend) : Prop where
  rows : ∀ row ∈ before.world.db.orders.rows, ∃ row' ∈ after.world.db.orders.rows, Restated row row'
  items : ∀ row ∈ before.world.db.orders.rows, itemsOf after row.id = itemsOf before row.id
  events : ∀ event ∈ before.world.db.outbox.rows, event ∈ after.world.db.outbox.rows
  linked : ItemsLinked before → ItemsLinked after

section Rows

variable {platform : Platform} {before after : Backend} {request : CreateOrderRequest} {order : Order}
  {context : SagaContext}

theorem OfOrder.kept (kept : OrdersKept before after) (found : OfOrder before context) : OfOrder after context := by
  rcases found with ⟨row, member, of⟩
  rcases kept.rows row member with ⟨row', member', restated⟩
  refine ⟨row', member', ?_⟩
  rw [restated]
  exact ⟨of.order, of.customer, of.items.trans (congrArg _ (kept.items row member).symm), of.total⟩

theorem OrdersKept.of_rows (orders : after.world.db.orders.rows = before.world.db.orders.rows)
    (items : after.items.rows = before.items.rows) (events : after.world.db.outbox.rows = before.world.db.outbox.rows) :
    OrdersKept before after where
  rows row member := ⟨row, orders ▸ member, rfl⟩
  items row _ := by
    unfold itemsOf
    rw [items]
  events event member := events ▸ member
  linked linked := linked.rows orders items

theorem Restated.trans {row row' row'' : OrderRow} (first : Restated row row') (second : Restated row' row'') :
    Restated row row'' := by
  unfold Restated at *
  rw [second, first]

theorem OrdersKept.trans {later : Backend} (first : OrdersKept before after) (second : OrdersKept after later) :
    OrdersKept before later where
  rows row member := by
    rcases first.rows row member with ⟨row', member', restated⟩
    rcases second.rows row' member' with ⟨row'', member'', restated'⟩
    exact ⟨row'', member'', restated.trans restated'⟩
  items row member := by
    rcases first.rows row member with ⟨row', member', restated⟩
    have id : row'.id = row.id := by rw [restated]
    rw [← first.items row member, ← id]
    exact second.items row' member'
  events event member := second.events event (first.events event member)
  linked linked := second.linked (first.linked linked)

/-- A transaction of order intake adds rows. -/
theorem Adds.ordersKept (ordered : Ordered request order) (adds : Adds platform request order before after)
    (jobs : after.jobs = before.jobs) : OrdersKept before after where
  rows row member := by
    refine ⟨row, ?_, rfl⟩
    rw [adds.orders]
    exact List.mem_append_left _ member
  items row member := by
    refine (adds.sameFor ordered jobs ?_).items
    rintro named
    have absent : orderStatus before.world order.id = none := appended_fresh adds.orders
    rw [← named] at absent
    cases absent.symm.trans (orderStatus_of_mem member)
  events event member := by
    rcases adds.events with ⟨eventId, now, events⟩
    rw [events]
    exact List.mem_append_left _ member
  linked linked := adds.linked linked ordered

/-- A transaction of the domain layer changes one status. -/
theorem ordersKept_takes {orderId eventId : Uuid} {status : OrderStatus} {event : NewOutboxEvent} {world : World}
    (takes : Takes platform [.updateOrderStatus orderId status, .insertOutboxEvent eventId event] before.world world) :
    OrdersKept before { before with world } where
  rows row member := by
    rw [(orderTransaction_takes takes).1]
    by_cases named : row.id = orderId
    · refine ⟨Database.setStatus before.world.clock status row, ?_, rfl⟩
      exact List.mem_map.mpr ⟨row, member, if_pos named⟩
    · exact ⟨row, List.mem_map.mpr ⟨row, member, if_neg named⟩, rfl⟩
  items row _ := rfl
  events row member := (Store.Table.mem_insert (orderTransaction_takes takes).2).mpr (Or.inl member)
  linked linked item member := by
    rcases linked item member with ⟨row, listed, same⟩
    rw [(orderTransaction_takes takes).1]
    by_cases named : row.id = orderId
    · exact ⟨_, List.mem_map.mpr ⟨row, listed, if_pos named⟩, same⟩
    · exact ⟨row, List.mem_map.mpr ⟨row, listed, if_neg named⟩, same⟩

/-- The job of a new order carries its rows. -/
theorem Adds.ofOrder (linked : ItemsLinked before) (ordered : Ordered request order)
    (adds : Adds platform request order before after) : OfOrder after (OrderService.sagaContext request order) := by
  rcases lists_of_created ordered.items with ⟨_, named, reserved⟩
  have fresh : itemsOf before order.id = [] := by
    unfold itemsOf
    rw [List.filter_eq_nil_iff]
    intro item member about
    rcases linked item member with ⟨row, listed, same⟩
    have absent : orderStatus before.world order.id = none := appended_fresh adds.orders
    have present := orderStatus_of_mem listed
    rw [same, of_decide_eq_true about, absent] at present
    cases present
  have items : itemsOf after order.id = order.items.map Database.itemRow := by
    unfold itemsOf at fresh ⊢
    rw [adds.items, List.filter_append, fresh, List.nil_append, List.filter_eq_self]
    exact fun item member => decide_eq_true (named item member)
  have customer : request.customerId = order.customerId := by
    rcases createOrder_spec ordered.made with ⟨total, _, made⟩
    rw [made]
  refine ⟨Database.orderRow order, ?_, rfl, customer, ?_, ordered.total⟩
  · rw [adds.orders]
    exact List.mem_append_right _ (List.mem_singleton_self _)
  · change request.items.map OrderService.reservation = (itemsOf after order.id).map reservationOf
    rw [items, reserved]

end Rows

/-! ## One event -/

section Events

variable {platform : Platform} {stage : Stage} {event : PipelineEvent}

/-- No event of the pipeline takes an order, its items or an announcement away. -/
theorem ordersKept_event (issued : Issues platform stage.task stage.log event.call)
    (behaves : Behaves platform stage.task (event :: stage.log)) (admitted : (pipeline platform).Admits stage.log event) :
    OrdersKept event.before event.after := by
  rcases event with ⟨call, reply, before, after⟩
  cases call with
  | intake call =>
      have admitted' : (api platform plainApi).Admits (intakeLog stage.log) ⟨call, reply, before, after⟩ :=
        seen_by_intake admitted _
      cases intake_admits admitted' with
      | committed transaction called done =>
          cases called
          rcases issued.of_intake with ⟨request, _, _, order, eventId, ordered, _, rfl⟩
          exact (commit_adds done).1.ordersKept ordered (commit_adds done).2
      | queued jobId data called done =>
          rcases addJob_tables before jobId data with ⟨orders, items, events⟩
          replace done : after = before.addJob jobId data := done
          rw [← done] at orders items events
          exact .of_rows orders items events
      | aside same _ => exact .of_rows same.orders same.items same.events
  | ports call =>
      rcases seen_by_ports admitted [] with ⟨admitted', rest⟩
      replace rest : after = { before with world := after.world } := rest
      have items : after.items.rows = before.items.rows := by rw [rest]
      rcases admits_iff.mp admitted' with ⟨choice, performed⟩
      cases call with
      | commit transaction =>
          rcases World.commit_answered performed with ⟨unchanged, _⟩ | takes
          · rw [unchanged] at rest
            exact .of_rows (by rw [rest]) items (by rw [rest])
          · rcases issued.of_ports behaves with ⟨task, conduct⟩
            rcases conduct_commits conduct (commit_listed rfl _) with ⟨context, shape⟩
            change OrdersKept before after
            rw [rest]
            cases shape with
            | confirmation transactionId eventId => exact ordersKept_takes takes
            | cancellation eventId => exact ordersKept_takes takes
      | _ =>
          have frame := World.perform_frame performed
          refine .of_rows ?_ items ?_
          · exact congrArg Store.Table.rows (frame.orders fun impossible => by cases impossible)
          · exact congrArg Store.Table.rows (frame.outbox fun impossible => by cases impossible)
  | queue call =>
      rcases queue_changes admitted with ⟨change, unchanged, _⟩
      replace unchanged : after = { before with jobs := before.jobs.map change } := unchanged
      exact .of_rows (by rw [unchanged]) (by rw [unchanged]) (by rw [unchanged])

/-- A job's data are those with which it has been sent. -/
theorem job_sent (issued : Issues platform stage.task stage.log event.call)
    (admitted : (pipeline platform).Admits stage.log event) {job : SagaJob} (member : job ∈ event.after.jobs) :
    (∃ old ∈ event.before.jobs, job.data = old.data) ∨ ∃ request order, stage.task = .createOrder request ∧
      Confirmed request order (intakeLog stage.log) ∧ job.data = OrderService.sagaContext request order := by
  rcases event with ⟨call, reply, before, after⟩
  cases call with
  | intake call =>
      have admitted' : (api platform plainApi).Admits (intakeLog stage.log) ⟨call, reply, before, after⟩ :=
        seen_by_intake admitted _
      replace member : job ∈ after.jobs := member
      cases intake_admits admitted' with
      | committed transaction called done =>
          cases called
          rcases issued.of_intake with ⟨request, _, _, order, eventId, _, _, rfl⟩
          have same : after.jobs = before.jobs := (commit_adds done).2
          exact Or.inl ⟨job, same ▸ member, rfl⟩
      | queued jobId data called done =>
          cases called
          rcases issued.of_intake with ⟨request, task, _, order, _, _, confirmed, rfl, rfl⟩
          replace done : after = before.addJob _ _ := done
          rw [done] at member
          rcases addJob_jobs before (Intake.SagaEnqueuer.jobId order.id) (OrderService.sagaContext request order) with
            unchanged | added
          · exact Or.inl ⟨job, unchanged ▸ member, rfl⟩
          · rw [added] at member
            rcases List.mem_append.mp member with old | new
            · exact Or.inl ⟨job, old, rfl⟩
            · right
              rw [List.mem_singleton.mp new]
              exact ⟨request, order, task, confirmed, rfl⟩
      | aside same _ =>
          have jobs : after.jobs = before.jobs := same.jobs
          exact Or.inl ⟨job, jobs ▸ member, rfl⟩
  | ports call =>
      replace member : job ∈ after.jobs := member
      rw [(seen_by_ports admitted []).2] at member
      exact Or.inl ⟨job, member, rfl⟩
  | queue call =>
      rcases queue_changes admitted with ⟨change, rfl, changes⟩
      rcases List.mem_map.mp member with ⟨old, known, rfl⟩
      exact Or.inl ⟨old, known, changes.data old⟩

/-- A confirmed commit has written the rows that the request's job will carry. -/
theorem confirmed_ofOrder {request : CreateOrderRequest} {order : Order} {eventId : Uuid} {log : PipelineLog}
    {before after : Backend} (linked : ItemsLinked before)
    (issued : Issues platform (.createOrder request) log (.intake (.commit (orderTransaction request order eventId))))
    (admitted : (pipeline platform).Admits log
      ⟨.intake (.commit (orderTransaction request order eventId)), .ok (), before, after⟩) :
    OfOrder after (OrderService.sagaContext request order) := by
  have admitted' : (api platform plainApi).Admits (intakeLog log)
      ⟨.commit (orderTransaction request order eventId), .ok (), before, after⟩ := seen_by_intake admitted _
  rcases issued.of_intake with ⟨_, same, _, order', _, ordered, _, transactions⟩
  cases same
  have orders : order = order' := by
    injection transactions with head
    injection head
  subst orders
  cases intake_admits admitted' with
  | committed transaction called done =>
      cases called
      exact (commit_adds done).1.ofOrder linked ordered
  | queued jobId data called done => cases called
  | aside same unconfirmed => cases unconfirmed

/-- The worker keeps the data it has taken. -/
theorem taken_later {context : SagaContext} (issued : Issues platform stage.task stage.log event.call)
    (took : taken stage.log = some context) : taken (event :: stage.log) = some context := by
  rcases event with ⟨call, reply, before, after⟩
  cases call with
  | intake call => exact took
  | ports call => exact took
  | queue call =>
      cases call with
      | moveToActive jobId =>
          rw [issued.of_taking.2] at took
          cases took
      | moveToCompleted jobId => exact took
      | moveToFailed jobId => exact took
      | moveStalledJobsToWait jobId => exact took

/-- The worker has confirmed the order with the data it has taken. -/
structure ConfirmedBy (platform : Platform) (backend : Backend) (id : Uuid) (context : SagaContext)
    (log : PipelineLog) : Prop where
  took : taken log = some context
  order : context.orderId = id
  announced : ∃ transactionId eventId,
    context.confirmation transactionId eventId ∈ (footprint (portsLog log)).commitCalls ∧
      ∃ event ∈ backend.world.db.outbox.rows, event.eventType = "order.paid" ∧ event.aggregateId = id ∧
        event.payload = platform.jsonb (context.paidEvent transactionId).payload

theorem ConfirmedBy.kept {before after : Backend} {id : Uuid} {context : SagaContext} {log : PipelineLog}
    (confirmed : ConfirmedBy platform before id context log) (kept : OrdersKept before after) :
    ConfirmedBy platform after id context log := by
  rcases confirmed.announced with ⟨transactionId, eventId, called, event, member, told⟩
  exact ⟨confirmed.took, confirmed.order, transactionId, eventId, called, event, kept.events event member, told⟩

/-- What has been committed stays in the log. -/
theorem ConfirmedBy.later {backend : Backend} {id : Uuid} {context : SagaContext}
    (confirmed : ConfirmedBy platform backend id context stage.log)
    (issued : Issues platform stage.task stage.log event.call) :
    ConfirmedBy platform backend id context (event :: stage.log) := by
  rcases confirmed.announced with ⟨transactionId, eventId, called, announced⟩
  refine ⟨taken_later issued confirmed.took, confirmed.order, transactionId, eventId, ?_, announced⟩
  rcases event with ⟨call, reply, before, after⟩
  cases call with
  | intake call => exact called
  | ports call => exact List.mem_append_left _ called
  | queue call => exact called

/-- An order becomes PAID by a confirmation only. -/
theorem paid_event (issued : Issues platform stage.task stage.log event.call)
    (behaves : Behaves platform stage.task (event :: stage.log)) (admitted : (pipeline platform).Admits stage.log event)
    {id : Uuid} (paid : orderStatus event.after.world id = some .paid) :
    orderStatus event.before.world id = some .paid ∨
      ∃ context, ConfirmedBy platform event.after id context (event :: stage.log) := by
  rcases event with ⟨call, reply, before, after⟩
  replace paid : orderStatus after.world id = some .paid := paid
  cases call with
  | intake call =>
      have admitted' : (api platform plainApi).Admits (intakeLog stage.log) ⟨call, reply, before, after⟩ :=
        seen_by_intake admitted _
      left
      change orderStatus before.world id = some .paid
      cases intake_admits admitted' with
      | committed transaction called done =>
          cases called
          rcases issued.of_intake with ⟨request, _, _, order, eventId, ordered, _, rfl⟩
          have statuses := orderStatus_appended (commit_adds done).1.orders id
          replace statuses : orderStatus after.world id =
              (orderStatus before.world id).or (if order.id = id then some order.status else none) := statuses
          rw [paid] at statuses
          cases known : orderStatus before.world id with
          | some status =>
              rw [known] at statuses
              exact statuses.symm
          | none =>
              have pending : order.status = .pending := by
                rcases createOrder_spec ordered.made with ⟨total, _, made⟩
                rw [made]
              rw [known, pending] at statuses
              by_cases own : order.id = id
              · rw [if_pos own] at statuses
                cases statuses
              · rw [if_neg own] at statuses
                cases statuses
      | queued jobId data called done =>
          replace done : after = before.addJob jobId data := done
          rw [done] at paid
          exact (orderStatus_rows (addJob_tables before jobId data).1 id).symm.trans paid
      | aside same _ => exact (orderStatus_rows same.orders id).symm.trans paid
  | ports call =>
      have admitted' := (seen_by_ports admitted []).1
      rcases issued.of_ports behaves with ⟨task, conduct⟩
      cases orderChange admitted' conduct id with
      | unchanged same => exact Or.inl (same.symm.trans paid)
      | committed context transaction status called shape outcome takes present now =>
          right
          cases paid.symm.trans now
          replace called : call = .commit transaction := called
          subst called
          have listed : transaction ∈ (footprint (portsLog
              (⟨.ports (.commit transaction), reply, before, after⟩ :: stage.log))).commitCalls := commit_listed rfl _
          rcases stage with ⟨task, code, log, stopped⟩
          cases task with
          | createOrder request =>
              rcases issued with ⟨_, impossible, _⟩
              cases impossible
          | stalled jobId => cases issued
          | compensateSaga id =>
              rcases handling_commits behaves listed with ⟨_, _, rfl⟩
              cases outcome
          | sagaJob jobId =>
              cases issued with
              | processing _ context took =>
                  cases fulfilling_commits (behaves context took) listed with
                  | cancellation eventId => cases outcome
                  | confirmation transactionId eventId =>
                      cases outcome
                      refine ⟨context, took, rfl, transactionId, eventId, listed, ?_⟩
                      exact ⟨_, (Store.Table.mem_insert (orderTransaction_takes takes).2).mpr (Or.inr rfl), rfl, rfl, rfl⟩
  | queue call =>
      left
      rcases queue_changes admitted with ⟨change, unchanged, _⟩
      replace unchanged : after = { before with jobs := before.jobs.map change } := unchanged
      rw [unchanged] at paid
      exact paid

end Events

/-! ## All runs -/

/-- The jobs carry the rows of their orders. -/
structure Opened (backend : Backend) : Prop where
  linked : ItemsLinked backend
  jobs : ∀ job ∈ backend.jobs, OfOrder backend job.data

/-- The amounts on their way from the rows to the gateway. -/
structure Carried (config : Flowing) : Prop extends Opened config.shared where
  sent : ∀ stage ∈ config.threads, ∀ request, stage.task = .createOrder request → ∀ order,
    Confirmed request order (intakeLog stage.log) → OfOrder config.shared (OrderService.sagaContext request order)
  took : ∀ stage ∈ config.threads, ∀ context, taken stage.log = some context →
    OfOrder config.shared context ∧ ∃ jobId, stage.task = .sagaJob jobId

/-- Somebody has confirmed what is PAID. -/
def AllConfirmed (platform : Platform) (config : Flowing) : Prop :=
  ∀ id, orderStatus config.shared.world id = some .paid →
    ∃ stage ∈ config.threads, ∃ context, ConfirmedBy platform config.shared id context stage.log

/-- A saga run has paid the order: it has reserved the items of its rows, has been answered
one approval of its total, which it has asked for until an answer came, and has announced
that charge, and has taken nothing of it back. -/
structure PaidBy (platform : Platform) (backend : Backend) (row : OrderRow) (context : SagaContext)
    (done : Footprint) : Prop where
  about : ContextOf backend row context
  reserved : done.reserved = InventoryService.sortItems platform ((itemsOf backend row.id).map reservationOf)
  charged : ∃ transactionId amount, Money.new row.totalAmount row.currency = .ok amount ∧
    done.charges = [(transactionId, amount)] ∧
      ∃ event ∈ backend.world.db.outbox.rows, event.eventType = "order.paid" ∧ event.aggregateId = row.id ∧
        event.payload = platform.jsonb (context.paidEvent transactionId).payload
  asked : context.Charging done.chargeCalls
  kept : done.refundCalls = [] ∧ done.releaseCalls = []

section Runs

variable {platform : Platform} {Legal : Flowing → Move PipelineTask Choice → Prop} {start : Backend}
  {config next : Flowing}

theorem Carried.unmoved (carried : Carried config) (unmoved : System.Unmoved config next) : Carried next where
  linked := by
    rw [unmoved.shared]
    exact carried.linked
  jobs := by
    rw [unmoved.shared]
    exact carried.jobs
  sent stage member request task order confirmed := by
    rw [unmoved.shared]
    rcases unmoved.mem member with ⟨old, listed, same, log⟩ | nothing
    · exact carried.sent old listed request (same.trans task) order (log ▸ confirmed)
    · rcases confirmed with ⟨eventId, before, after, found⟩
      rw [nothing] at found
      cases found
  took stage member context took := by
    rw [unmoved.shared]
    rcases unmoved.mem member with ⟨old, listed, same, log⟩ | nothing
    · rw [← same]
      exact carried.took old listed context (log ▸ took)
    · rw [nothing] at took
      cases took

section Moved

variable {index : Nat} {stage : Stage} {event : PipelineEvent} (rest : Pipeline PipelineOutcome)
  (listed : config.threads[index]? = some stage) (here : event.before = config.shared)
  (admitted : (pipeline platform).Admits stage.log event) (issued : Issues platform stage.task stage.log event.call)
  (behaves : Behaves platform stage.task (event :: stage.log))

include listed here admitted issued behaves

theorem Carried.moved (carried : Carried config) :
    Carried { shared := event.after, threads := config.threads.set index (stage.answered event rest) } := by
  have member := List.mem_of_getElem? listed
  have kept := ordersKept_event issued behaves admitted
  rw [here] at kept
  refine ⟨⟨kept.linked carried.linked, ?_⟩, ?_, ?_⟩
  · intro job queued
    rcases job_sent issued admitted queued with ⟨old, earlier, data⟩ | ⟨request, order, task, confirmed, data⟩
    · rw [here] at earlier
      rw [data]
      exact (carried.jobs old earlier).kept kept
    · rw [data]
      exact (carried.sent stage member request task order confirmed).kept kept
  · intro other among request task order confirmed
    rcases List.mem_or_eq_of_mem_set among with earlier | rfl
    · exact (carried.sent other earlier request task order confirmed).kept kept
    · replace task : stage.task = .createOrder request := task
      rcases confirmed_cons confirmed with earlier | ⟨eventId, before, after, rfl⟩
      · exact (carried.sent stage member request task order earlier).kept kept
      · replace here : before = config.shared := here
        rw [task] at issued
        exact confirmed_ofOrder (here ▸ carried.linked) issued admitted
  · intro other among context took
    rcases List.mem_or_eq_of_mem_set among with earlier | rfl
    · have known := carried.took other earlier context took
      exact ⟨known.1.kept kept, known.2⟩
    · rcases taken_cons took with before | ⟨jobId, before, after, rfl⟩
      · have known := carried.took stage member context before
        exact ⟨known.1.kept kept, known.2⟩
      · rcases taken_known admitted with ⟨job, queued, _, rfl⟩
        replace here : before = config.shared := here
        rw [here] at queued
        exact ⟨(carried.jobs job queued).kept kept, jobId, issued.of_taking.1⟩

theorem AllConfirmed.moved (all : AllConfirmed platform config) :
    AllConfirmed platform { shared := event.after, threads := config.threads.set index (stage.answered event rest) } := by
  intro id paid
  have kept := ordersKept_event issued behaves admitted
  have among : stage.answered event rest ∈ config.threads.set index (stage.answered event rest) :=
    List.mem_set (List.getElem?_eq_some_iff.mp listed).1 _
  rcases paid_event issued behaves admitted paid with before | ⟨context, confirmed⟩
  · rw [here] at before kept
    rcases all id before with ⟨other, earlier, context, confirmed⟩
    rcases List.mem_iff_getElem?.mp earlier with ⟨position, found⟩
    by_cases same : index = position
    · subst same
      cases listed.symm.trans found
      exact ⟨_, among, context, (confirmed.kept kept).later issued⟩
    · refine ⟨other, List.mem_of_getElem? (i := position) ?_, context, confirmed.kept kept⟩
      rw [List.getElem?_set_ne same, found]
  · exact ⟨_, among, context, confirmed⟩

end Moved

theorem reaches_carried (opened : Opened start) (reached : (pipeline platform).Reaches Legal { shared := start } config) :
    Carried config := by
  refine reached.moving ?_ ?_ ?_
  · refine ⟨opened, ?_, ?_⟩
    all_goals
      intro stage member
      cases member
  · exact fun earlier next unmoved carried => carried.unmoved unmoved
  · intro earlier index choice stage call resume reached' _ listed pending carried
    have answered := (reaches_stages reached' stage (List.mem_of_getElem? listed)).answered pending earlier.shared choice
    exact carried.moved _ listed rfl ⟨choice, rfl⟩ answered.1.2 (Stage.Keeping.behaves answered.2)

theorem reaches_confirmed (unpaid : ∀ row ∈ start.world.db.orders.rows, row.status ≠ .paid)
    (reached : (pipeline platform).Reaches Legal { shared := start } config) : AllConfirmed platform config := by
  refine reached.moving ?_ ?_ ?_
  · intro id paid
    rcases Option.map_eq_some_iff.mp paid with ⟨row, found, status⟩
    exact absurd status (unpaid row (Store.Table.mem_of_lookup found))
  · intro earlier next unmoved all id paid
    rw [unmoved.shared] at paid ⊢
    rcases all id paid with ⟨stage, member, context, confirmed⟩
    rcases List.mem_iff_getElem?.mp member with ⟨position, found⟩
    rcases unmoved.kept position stage found with ⟨later, listed, _, log⟩
    exact ⟨later, List.mem_of_getElem? listed, context, log ▸ confirmed⟩
  · intro earlier index choice stage call resume reached' _ listed pending all
    have answered := (reaches_stages reached' stage (List.mem_of_getElem? listed)).answered pending earlier.shared choice
    exact all.moved _ listed rfl ⟨choice, rfl⟩ answered.1.2 (Stage.Keeping.behaves answered.2)

/-- What a run has done that confirms its order. -/
theorem fulfilling_confirmed {context : SagaContext} {done : Footprint} {transactionId : Option String} {eventId : Uuid}
    (fulfilling : Fulfilling platform context done)
    (called : context.confirmation transactionId eventId ∈ done.commitCalls) :
    ∃ transactionId' eventId' amount, context.confirmation transactionId eventId = context.confirmation transactionId' eventId' ∧
      context.money = .ok amount ∧ done.reserved = InventoryService.sortItems platform context.items ∧
        done.charges = [(transactionId', amount)] ∧ done.refundCalls = [] ∧ done.releaseCalls = [] := by
  cases fulfilling with
  | idle => cases called
  | creating => cases called
  | created => cases called
  | starting => cases called
  | reserving => cases called
  | charging => cases called
  | charged => cases called
  | confirming new money committed => exact ⟨_, _, _, List.mem_singleton.mp called, money, rfl, rfl, rfl, rfl⟩
  | completing paid' eventId' new money written =>
      exact ⟨_, _, _, List.mem_singleton.mp called, money, rfl, rfl, rfl, rfl⟩
  | compensating new called' answered compensating =>
      rcases compensating_commits compensating called with ⟨other, same⟩
      injection same with head
      injection head with _ impossible
      cases impossible

/-- In every state of every run a PAID order has been paid. -/
theorem paid_is_paid (opened : Opened start) (unpaid : ∀ row ∈ start.world.db.orders.rows, row.status ≠ .paid)
    (reached : (pipeline platform).Reaches Legal { shared := start } config) {row : OrderRow} (member : row ∈ config.shared.world.db.orders.rows) (paid : row.status = .paid) :
    ∃ stage ∈ config.threads, ∃ jobId context, stage.task = .sagaJob jobId ∧ taken stage.log = some context ∧
      PaidBy platform config.shared row context (footprint (portsLog stage.log)) := by
  have status := orderStatus_of_mem member
  rw [paid] at status
  rcases reaches_confirmed unpaid reached row.id status with ⟨stage, among, context, took, named, transactionId, eventId, called, announced⟩
  rcases (reaches_carried opened reached).took stage among context took with ⟨⟨row', member', about⟩, jobId, task⟩
  have same : row' = row := config.shared.world.db.orders.eq_of_key member' member (about.order.symm.trans named)
  subst same
  have behaves := Stage.Keeping.behaves (reaches_stages reached stage among)
  rw [task] at behaves
  rcases fulfilling_confirmed (behaves context took) called with
    ⟨transactionId', eventId', amount, equal, money, reserved, charges, refunds, releases⟩
  refine ⟨stage, among, jobId, context, task, took, about, ?_, ?_, (behaves context took).asked, refunds, releases⟩
  · rw [reserved, about.items]
  · refine ⟨transactionId', amount, ?_, charges, ?_⟩
    · rw [← money]
      unfold SagaContext.money
      rw [about.total]
      rfl
    · have payload : (context.paidEvent transactionId).payload = (context.paidEvent transactionId').payload := by
        injection equal with _ rest
        injection rest with head
        injection head with _ events
        rw [events]
      rw [← payload]
      exact announced

end Runs

/-- A shop that has five units, and no jobs. -/
def openedShop : Backend := { emptyBackend with world := smallShop 5 }

theorem openedShop_opened : Opened openedShop where
  linked item member := by cases member
  jobs job member := by cases member

theorem openedShop_unpaid : ∀ row ∈ openedShop.world.db.orders.rows, row.status ≠ .paid := by
  intro row member
  rcases List.mem_cons.mp member with rfl | member
  · exact fun impossible => by cases impossible
  · rw [List.mem_singleton.mp member]
    exact fun impossible => by cases impossible

/-- An order for its units, whose saga has confirmed it. -/
def paidFlow : Flowing :=
  (pipeline postgresJs).run { shared := openedShop }
    (.start (.createOrder fiveUnits) :: (List.replicate 10 (.advance 0 .serve) ++
      .start (.sagaJob "saga-100") :: List.replicate 31 (.advance 1 .serve)))

theorem paid_is_paid_fiveUnits :
    ∃ row ∈ paidFlow.shared.world.db.orders.rows, row.status = .paid ∧
      ∃ stage ∈ paidFlow.threads, ∃ jobId context, stage.task = .sagaJob jobId ∧ taken stage.log = some context ∧
        PaidBy postgresJs paidFlow.shared row context (footprint (portsLog stage.log)) := by
  have confirmed : paidFlow.shared.world.db.orders.rows.any (fun row => row.status = .paid) = true := by decide +kernel
  rcases List.any_eq_true.mp confirmed with ⟨row, member, status⟩
  have paid := of_decide_eq_true status
  have reached : (pipeline postgresJs).Reaches (fun _ _ => True) { shared := openedShop } paidFlow :=
    System.run_reaches _ _
  exact ⟨row, member, paid, paid_is_paid openedShop_opened openedShop_unpaid reached member paid⟩

end Orderly
