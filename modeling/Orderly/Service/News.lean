import Orderly.Service.Calls
import Orderly.Pipeline.Payments

/-!
# What the outbox says is so

An event of the outbox is written in the transaction that makes it true: the
order's rows are there, or a saga run has reserved and charged before it, or a
routine has begun to compensate the order's saga.  None of this can become
false, because the columns an event quotes are never written again and a
routine does not forget what it has done.
-/

namespace Orderly

open Process (System)

/-- The payload of the event that announces a new order, read off its rows. -/
def createdPayload (backend : Backend) (row : OrderRow) : Json := .obj [
  ("orderId", .ofUuid row.id),
  ("customerId", .str row.customerId),
  ("totalAmount", (totalOf row).toJson),
  ("itemCount", .ofNat (itemsOf backend row.id).length),
  ("queue", .str "webhook-delivery")]

/-- The payload of the event that announces a cancelled order. -/
def failedPayload (id : Uuid) : Json := .obj [
  ("orderId", .ofUuid id),
  ("reason", .str "Saga compensation executed"),
  ("queue", .str "webhook-delivery")]

/-- The event announces the order with what its rows say. -/
structure CreationOf (platform : Platform) (backend : Backend) (row : OrderRow) (event : OutboxEvent) : Prop where
  type : event.eventType = "order.created"
  about : event.aggregateId = row.id
  payload : event.payload = platform.jsonb (createdPayload backend row)

/-- A routine has confirmed the order and announces that, or it has begun to undo
the order's saga and announces that it has failed. -/
inductive Reported (platform : Platform) (log : PipelineLog) (event : OutboxEvent) : Prop where
  | paid (context : SagaContext) (took : taken log = some context) (transactionId : Option String) (eventId : Uuid)
      (called : context.confirmation transactionId eventId ∈ (footprint (portsLog log)).commitCalls)
      (type : event.eventType = "order.paid") (about : event.aggregateId = context.orderId)
      (payload : event.payload = platform.jsonb (context.paidEvent transactionId).payload)
  | failed (saga : SagaInstance) (written : saga ∈ (footprint (portsLog log)).updated)
      (status : saga.status = .compensating) (type : event.eventType = "order.failed")
      (about : event.aggregateId = saga.orderId)
      (payload : event.payload = platform.jsonb (failedPayload saga.orderId))

/-- What the outbox says about an order is so. -/
def AllSo (platform : Platform) (config : Flowing) : Prop :=
  ∀ event ∈ config.shared.world.db.outbox.rows,
    (∃ row ∈ config.shared.world.db.orders.rows, CreationOf platform config.shared row event) ∨
      ∃ stage ∈ config.threads, Reported platform stage.log event

/-! ## One event of the pipeline -/

section Events

variable {platform : Platform} {stage : Stage} {event : PipelineEvent} {news : OutboxEvent}

/-- The job of a new order and its announcement say the same. -/
theorem creation_of {request : CreateOrderRequest} {order : Order} {before after : Backend} {now : Date} {eventId : Uuid}
    (linked : ItemsLinked before) (ordered : Ordered request order) (adds : Adds platform request order before after) :
    ∃ row ∈ after.world.db.orders.rows,
      CreationOf platform after row (Database.outboxRow platform now eventId (OrderService.createdEvent request order)) := by
  rcases adds.ofOrder linked ordered with ⟨row, member, about⟩
  refine ⟨row, member, rfl, about.order, ?_⟩
  have counted : order.items.length = (itemsOf after row.id).length := by
    have lengths : (request.items.map OrderService.reservation).length = ((itemsOf after row.id).map reservationOf).length :=
      congrArg List.length about.items
    rw [List.length_map, List.length_map] at lengths
    exact ordered.items.length_eq.symm.trans lengths
  have named : order.id = row.id := about.order
  have customer : request.customerId = row.customerId := about.customer
  have total : order.totalAmount.toJSON = totalOf row := about.total
  simp only [Database.outboxRow, OrderService.createdEvent, createdPayload, named, customer, total, counted]

/-- A run that cancels its order has begun to compensate. -/
theorem compensating_begun {context : SagaContext} {saga : SagaInstance} {done : Footprint}
    (compensating : Compensating platform context saga done) {transaction : Transaction}
    (member : transaction ∈ done.commitCalls) : saga.compensating ∈ done.updated := by
  cases compensating with
  | entered => cases member
  | announcing => cases member
  | undoing _ undoing => exact List.mem_append_left _ (List.mem_singleton_self _)

theorem fulfilling_begun {context : SagaContext} {done : Footprint} {eventId : Uuid}
    (fulfilling : Fulfilling platform context done) (called : context.cancellation eventId ∈ done.commitCalls) :
    ∃ saga ∈ done.updated, saga.status = .compensating ∧ saga.orderId = context.orderId := by
  have confirmed : ∀ {transactionId eventId'}, context.cancellation eventId ≠ context.confirmation transactionId eventId' := by
    intro transactionId eventId' same
    injection same with head
    injection head with _ impossible
    cases impossible
  cases fulfilling with
  | idle => cases called
  | creating => cases called
  | created => cases called
  | starting => cases called
  | reserving => cases called
  | charging => cases called
  | charged => cases called
  | confirming => exact absurd (List.mem_singleton.mp called) confirmed
  | completing => exact absurd (List.mem_singleton.mp called) confirmed
  | compensating new _ _ compensating =>
      rcases new with ⟨id, now, rfl⟩
      exact ⟨_, List.mem_append_right _ (compensating_begun compensating called), rfl, rfl⟩

theorem handling_begun {id : Uuid} {done : Footprint} {context : SagaContext} {eventId : Uuid}
    (handling : Handling platform id done) (called : context.cancellation eventId ∈ done.commitCalls) :
    ∃ saga ∈ done.updated, saga.status = .compensating ∧ saga.orderId = context.orderId := by
  cases handling with
  | asked => cases called
  | handling found compensating =>
      rcases compensating_commits compensating called with ⟨other, same⟩
      injection same with head
      injection head with about
      exact ⟨_, compensating_begun compensating called, rfl, about.symm⟩

/-- A report stays in the log of its routine. -/
theorem Reported.later (reported : Reported platform stage.log news)
    (issued : Issues platform stage.task stage.log event.call) : Reported platform (event :: stage.log) news := by
  rcases event with ⟨call, reply, before, after⟩
  cases reported with
  | paid context took transactionId eventId called type about payload =>
      refine .paid context (taken_later issued took) transactionId eventId ?_ type about payload
      cases call with
      | intake call => exact called
      | ports call => exact List.mem_append_left _ called
      | queue call => exact called
  | failed saga written status type about payload =>
      refine .failed saga ?_ status type about payload
      cases call with
      | intake call => exact written
      | ports call => exact List.mem_append_left _ written
      | queue call => exact written

/-- What an event of the pipeline adds to the outbox is so. -/
theorem news_event (linked : ItemsLinked event.before) (issued : Issues platform stage.task stage.log event.call)
    (behaves : Behaves platform stage.task (event :: stage.log)) (admitted : (pipeline platform).Admits stage.log event) :
    event.after.world.db.outbox.rows = event.before.world.db.outbox.rows ∨
      ∃ news, event.after.world.db.outbox.rows = event.before.world.db.outbox.rows ++ [news] ∧
        news.status = .pending ∧
          ((∃ row ∈ event.after.world.db.orders.rows, CreationOf platform event.after row news) ∨
            Reported platform (event :: stage.log) news) := by
  rcases event with ⟨call, reply, before, after⟩
  cases call with
  | intake call =>
      have admitted' : (api platform plainApi).Admits (intakeLog stage.log) ⟨call, reply, before, after⟩ :=
        seen_by_intake admitted _
      cases intake_admits admitted' with
      | committed transaction called done =>
          cases called
          rcases issued.of_intake with ⟨request, _, _, order, eventId, ordered, _, rfl⟩
          have adds := (commit_adds done).1
          rcases adds.events with ⟨newsId, now, events⟩
          exact Or.inr ⟨_, events, rfl, Or.inl (creation_of linked ordered adds)⟩
      | queued jobId data called done =>
          replace done : after = before.addJob jobId data := done
          have tables := addJob_tables before jobId data
          rw [← done] at tables
          exact Or.inl tables.2.2
      | aside same _ => exact Or.inl same.events
  | ports call =>
      rcases admits_iff.mp (seen_by_ports admitted []).1 with ⟨choice, performed⟩
      cases call with
      | commit transaction =>
          rcases World.commit_answered performed with ⟨unchanged, _⟩ | takes
          · exact Or.inl (congrArg (fun world => world.db.outbox.rows) unchanged)
          · right
            have listed : transaction ∈ (footprint (portsLog
                (⟨.ports (.commit transaction), reply, before, after⟩ :: stage.log))).commitCalls := commit_listed rfl _
            rcases stage with ⟨task, code, log, stopped⟩
            cases task with
            | createOrder request =>
                rcases issued with ⟨_, impossible, _⟩
                cases impossible
            | stalled jobId => cases issued
            | compensateSaga id =>
                rcases handling_commits behaves listed with ⟨context, eventId, rfl⟩
                rcases handling_begun behaves listed with ⟨saga, written, status, about⟩
                have events := Store.Table.rows_insert (orderTransaction_takes takes).2
                exact ⟨_, events, rfl, Or.inr (.failed saga written status rfl about.symm (about ▸ rfl))⟩
            | sagaJob jobId =>
                cases issued with
                | processing _ context took =>
                    cases fulfilling_commits (behaves context took) listed with
                    | confirmation transactionId eventId =>
                        have events := Store.Table.rows_insert (orderTransaction_takes takes).2
                        exact ⟨_, events, rfl, Or.inr (.paid context took transactionId eventId listed rfl rfl rfl)⟩
                    | cancellation eventId =>
                        rcases fulfilling_begun (behaves context took) listed with ⟨saga, written, status, about⟩
                        have events := Store.Table.rows_insert (orderTransaction_takes takes).2
                        exact ⟨_, events, rfl, Or.inr (.failed saga written status rfl about.symm (about ▸ rfl))⟩
      | _ =>
          have frame := World.perform_frame performed
          exact Or.inl (congrArg Store.Table.rows (frame.outbox fun impossible => by cases impossible))
  | queue call =>
      rcases queue_changes admitted with ⟨change, unchanged, _⟩
      replace unchanged : after = { before with jobs := before.jobs.map change } := unchanged
      exact Or.inl (by rw [unchanged])

end Events

/-! ## All runs -/

/-- The pipeline's books, and the outbox that agrees with them. -/
structure Announcing (platform : Platform) (config : Flowing) : Prop where
  carried : Carried config
  chronicled : Chronicled config
  so : AllSo platform config

theorem CreationOf.restated {platform : Platform} {before after : Backend} {row row' : OrderRow} {event : OutboxEvent}
    (creation : CreationOf platform before row event) (restated : Restated row row')
    (items : itemsOf after row.id = itemsOf before row.id) : CreationOf platform after row' event := by
  have same : createdPayload after row' = createdPayload before row := by
    unfold createdPayload
    rw [restated, ← items]
    rfl
  refine ⟨creation.type, ?_, same ▸ creation.payload⟩
  rw [creation.about, restated]

theorem OfOrder.of_rows {before after : Backend} {context : SagaContext} (found : OfOrder before context)
    (orders : after.world.db.orders.rows = before.world.db.orders.rows) (items : after.items.rows = before.items.rows) :
    OfOrder after context := by
  rcases found with ⟨row, member, about⟩
  have same : itemsOf after row.id = itemsOf before row.id := by
    unfold itemsOf
    rw [items]
  exact ⟨row, orders ▸ member, about.order, about.customer, about.items.trans (congrArg _ same.symm), about.total⟩

section Runs

variable {platform : Platform} {config next : Flowing}

theorem AllSo.unmoved (so : AllSo platform config) (unmoved : System.Unmoved config next) : AllSo platform next := by
  intro event member
  rw [unmoved.shared] at member ⊢
  rcases so event member with created | ⟨stage, among, reported⟩
  · exact Or.inl created
  · rcases List.mem_iff_getElem?.mp among with ⟨position, found⟩
    rcases unmoved.kept position stage found with ⟨later, listed, _, log⟩
    exact Or.inr ⟨later, List.mem_of_getElem? listed, log ▸ reported⟩

theorem AllSo.moved {index : Nat} {stage : Stage} {event : PipelineEvent} (rest : Pipeline PipelineOutcome)
    (so : AllSo platform config) (linked : ItemsLinked config.shared) (listed : config.threads[index]? = some stage)
    (here : event.before = config.shared) (admitted : (pipeline platform).Admits stage.log event)
    (issued : Issues platform stage.task stage.log event.call) (behaves : Behaves platform stage.task (event :: stage.log)) :
    AllSo platform { shared := event.after, threads := config.threads.set index (stage.answered event rest) } := by
  have kept := ordersKept_event issued behaves admitted
  have among : stage.answered event rest ∈ config.threads.set index (stage.answered event rest) :=
    List.mem_set (List.getElem?_eq_some_iff.mp listed).1 _
  have old : ∀ news ∈ event.before.world.db.outbox.rows,
      (∃ row ∈ event.after.world.db.orders.rows, CreationOf platform event.after row news) ∨
        ∃ stage' ∈ config.threads.set index (stage.answered event rest), Reported platform stage'.log news := by
    intro news member
    rw [here] at member
    rcases so news member with ⟨row, present, creation⟩ | ⟨other, earlier, reported⟩
    · rw [← here] at present creation
      rcases kept.rows row present with ⟨row', present', restated⟩
      exact Or.inl ⟨row', present', creation.restated restated (kept.items row present)⟩
    · rcases List.mem_iff_getElem?.mp earlier with ⟨position, found⟩
      by_cases same : index = position
      · subst same
        cases listed.symm.trans found
        exact Or.inr ⟨_, among, reported.later issued⟩
      · refine Or.inr ⟨other, List.mem_of_getElem? (i := position) ?_, reported⟩
        rw [List.getElem?_set_ne same, found]
  intro news member
  replace member : news ∈ event.after.world.db.outbox.rows := member
  rcases news_event (here ▸ linked) issued behaves admitted with same | ⟨added, appended, _, told⟩
  · exact old news (same ▸ member)
  · rw [appended] at member
    rcases List.mem_append.mp member with earlier | new
    · exact old news earlier
    · rw [List.mem_singleton.mp new]
      exact told.imp_right fun reported => ⟨_, among, reported⟩

/-- The processors change nothing that an event says. -/
theorem Announcing.republished {before after : Backend} {threads : List Stage} {change : OutboxEvent → OutboxEvent}
    (announcing : Announcing platform { shared := before, threads })
    (only : after = { before with world.db.outbox := after.world.db.outbox })
    (later : ∀ row : OutboxEvent, row.Later (change row))
    (rows : after.world.db.outbox.rows = before.world.db.outbox.rows.map change) :
    Announcing platform { shared := after, threads } := by
  have orders : ∀ id, orderStatus after.world id = orderStatus before.world id := by
    intro id
    rw [only]
    rfl
  have tells : ∀ id, told after.world id = told before.world id := by
    intro id
    unfold told
    rw [rows, List.filterMap_map]
    congr 1
    funext row
    simp only [Function.comp_apply]
    rw [(later row).same]
  refine ⟨?_, ?_, ?_⟩
  · have orders : after.world.db.orders.rows = before.world.db.orders.rows := by rw [only]
    have items : after.items.rows = before.items.rows := by rw [only]
    have jobs : after.jobs = before.jobs := by rw [only]
    have carried := announcing.carried
    refine ⟨⟨carried.linked.rows orders items, ?_⟩, ?_, ?_⟩
    · exact fun job member => (carried.jobs job (jobs ▸ member)).of_rows orders items
    · exact fun stage member request task order confirmed =>
        (carried.sent stage member request task order confirmed).of_rows orders items
    · exact fun stage member context took =>
        ⟨(carried.took stage member context took).1.of_rows orders items, (carried.took stage member context took).2⟩
  · constructor
    · intro stage member id knows
      rw [orders]
      exact announcing.chronicled.known stage member id knows
    · exact fun id => (announcing.chronicled.history id).kept (orders id) (tells id)
  · intro event member
    replace member : event ∈ after.world.db.outbox.rows := member
    rw [rows] at member
    rcases List.mem_map.mp member with ⟨row, earlier, rfl⟩
    rcases announcing.so row earlier with ⟨order, present, creation⟩ | ⟨stage, among, reported⟩
    · left
      rw [only, (later row).same]
      exact ⟨order, present, creation.type, creation.about, creation.payload⟩
    · right
      rw [(later row).same]
      refine ⟨stage, among, ?_⟩
      cases reported with
      | paid context took transactionId eventId called type about payload =>
          exact .paid context took transactionId eventId called type about payload
      | failed saga written status type about payload => exact .failed saga written status type about payload

end Runs

end Orderly
