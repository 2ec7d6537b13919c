import Orderly.Service.News

/-!
# Webhooks tell the truth

What a subscriber is sent has come a long way: an event of the outbox, read by a
batch, copied into a job, handed to a worker, perhaps several times.  Nothing on
that way changes what it says, and so the truth of the outbox is the truth of
the webhooks.
-/

namespace Orderly

open Process (Move System)

/-! ## On the way -/

/-- What circulates are copies of rows of the outbox. -/
structure Circulating (config : Operating) : Prop where
  read : ∀ thread ∈ config.threads, ∀ event ∈ snapshots (processorLog thread.log),
    ∃ row ∈ config.shared.rows, event.Later row
  copied : ∀ job ∈ config.shared.queued, ∃ row ∈ config.shared.rows, job.id = row.id ∧
    job.data = OutboxProcessor.jobData row ∧ OutboxProcessor.queueName row.payload = .ok job.queueName
  handed : ∀ thread ∈ config.threads, ∀ jobId job, Handed jobId job thread.log →
    ∃ row ∈ config.shared.rows, row.id = jobId ∧ job = OutboxProcessor.jobData row
  selected : ∀ thread ∈ config.threads, ∀ eventType subscriptions,
    Selected eventType subscriptions (dispatcherLog thread.log) →
      subscriptions = config.shared.selectSubscriptions eventType

section Calls

variable {platform : Platform} {webhooks : WebhookConfig} {outboxMaxRetries : Int} {thread : ServerThread}
  {event : ServerEvent}

/-- Whatever is answered, the rows stay, up to what the processors write. -/
theorem Acted.rows (acted : Acted platform webhooks outboxMaxRetries thread event) :
    ∀ row ∈ event.before.rows, ∃ row' ∈ event.after.rows, row.Later row' := by
  intro row member
  cases acted with
  | pipeline call reply before after issued admitted behaves informed only =>
      exact ⟨row, (ordersKept_event issued behaves admitted).events row member, .refl row⟩
  | processor call reply before after admitted warranted republished enqueues =>
      rcases republished.rows with ⟨change, written, rows⟩
      refine ⟨change row, ?_, .of_written (written row)⟩
      change change row ∈ after.rows
      rw [rows]
      exact List.mem_map_of_mem member
  | webhooks call reply before after requeued hands completing =>
      refine ⟨row, ?_, .refl row⟩
      change row ∈ after.rows
      rw [requeued.only]
      exact member
  | dispatcher call reply state selects => exact ⟨row, member, .refl row⟩

/-- A batch reads what is there. -/
theorem Acted.read (acted : Acted platform webhooks outboxMaxRetries thread event) {news : OutboxEvent}
    (read : news ∈ snapshots (processorLog (event :: thread.log))) :
    news ∈ snapshots (processorLog thread.log) ∨ news ∈ event.before.rows := by
  cases acted with
  | pipeline => exact Or.inl read
  | processor call reply before after admitted warranted republished enqueues =>
      rcases List.mem_append.mp read with now | earlier
      · exact Or.inr (readBy_rows admitted news now)
      · exact Or.inl earlier
  | webhooks => exact Or.inl read
  | dispatcher => exact Or.inl read

/-- A job has been there, or copies what its batch has read. -/
theorem Acted.queued (acted : Acted platform webhooks outboxMaxRetries thread event) {job : TargetJob}
    (member : job ∈ event.after.queued) :
    (∃ old ∈ event.before.queued, job.queueName = old.queueName ∧ job.id = old.id ∧ job.data = old.data) ∨
      ∃ news ∈ snapshots (processorLog thread.log), OutboxProcessor.queueName news.payload = .ok job.queueName ∧
        job.data = OutboxProcessor.jobData news ∧ job.id = news.id := by
  cases acted with
  | pipeline call reply before after issued admitted behaves informed only =>
      replace member : job ∈ after.queued := member
      rw [only] at member
      exact Or.inl ⟨job, member, rfl, rfl, rfl⟩
  | processor call reply before after admitted warranted republished enqueues =>
      rcases enqueues.comes job member with earlier | ⟨_, copied⟩
      · exact Or.inl ⟨job, earlier, rfl, rfl, rfl⟩
      · exact Or.inr copied
  | webhooks call reply before after requeued hands completing =>
      rcases requeued.comes job member with ⟨old, earlier, queueName, id, data, _⟩
      exact Or.inl ⟨old, earlier, queueName, id, data⟩
  | dispatcher call reply state selects => exact Or.inl ⟨job, member, rfl, rfl, rfl⟩

/-- A worker is handed a job of the queue. -/
theorem Acted.handed (acted : Acted platform webhooks outboxMaxRetries thread event) {jobId : Uuid}
    {job : NotificationJob} (handed : Handed jobId job (event :: thread.log)) :
    Handed jobId job thread.log ∨ ∃ queued ∈ event.before.queued, queued.id = jobId ∧ queued.data = job := by
  rcases handed with ⟨before, after, member⟩
  rcases List.mem_cons.mp member with rfl | earlier
  · cases acted with
    | webhooks call reply before after requeued hands completing => exact Or.inr (hands jobId job rfl)
  · exact Or.inl ⟨before, after, earlier⟩

/-- A dispatcher reads the subscriptions that are there. -/
theorem Acted.selected (acted : Acted platform webhooks outboxMaxRetries thread event) {eventType : String}
    {subscriptions : List SubscriptionRow} (selected : Selected eventType subscriptions (dispatcherLog (event :: thread.log))) :
    Selected eventType subscriptions (dispatcherLog thread.log) ∨
      subscriptions = event.before.selectSubscriptions eventType := by
  cases acted with
  | pipeline => exact Or.inl selected
  | processor => exact Or.inl selected
  | webhooks => exact Or.inl selected
  | dispatcher call reply state selects =>
      rcases selected with ⟨before, after, member⟩
      rcases List.mem_cons.mp member with same | earlier
      · injection same with called replied start final
        subst called
        cases replied
        exact Or.inr (selects eventType subscriptions rfl)
      · exact Or.inl ⟨before, after, earlier⟩

theorem Acted.subscriptions (acted : Acted platform webhooks outboxMaxRetries thread event) :
    event.after.subscriptions = event.before.subscriptions := by
  cases acted with
  | pipeline call reply before after issued admitted behaves informed only =>
      change after.subscriptions = before.subscriptions
      rw [only]
  | processor call reply before after admitted warranted republished enqueues => exact republished.subscriptions
  | webhooks call reply before after requeued hands completing =>
      change after.subscriptions = before.subscriptions
      rw [requeued.only]
  | dispatcher => rfl

theorem Circulating.moved {config : Operating} {index : Nat} (rest : Server PipelineOutcome)
    (circulating : Circulating config) (listed : config.threads[index]? = some thread)
    (here : event.before = config.shared) (acted : Acted platform webhooks outboxMaxRetries thread event) :
    Circulating { shared := event.after, threads := config.threads.set index (thread.answered event rest) } := by
  have member := List.mem_of_getElem? listed
  have kept : ∀ {row : OutboxEvent}, row ∈ config.shared.rows → ∃ row' ∈ event.after.rows, row.Later row' := by
    intro row present
    rw [← here] at present
    exact acted.rows row present
  constructor
  · intro other among news read
    have held : ∃ row ∈ config.shared.rows, news.Later row := by
      rcases List.mem_or_eq_of_mem_set among with earlier | rfl
      · exact circulating.read other earlier news read
      · rcases acted.read read with before | now
        · exact circulating.read thread member news before
        · exact ⟨news, here ▸ now, .refl news⟩
    rcases held with ⟨row, present, later⟩
    rcases kept present with ⟨row', there, since⟩
    exact ⟨row', there, later.trans since⟩
  · intro job queued
    have held : ∃ row ∈ config.shared.rows, job.id = row.id ∧ job.data = OutboxProcessor.jobData row ∧
        OutboxProcessor.queueName row.payload = .ok job.queueName := by
      rcases acted.queued queued with ⟨old, earlier, queueName, id, data⟩ | ⟨news, read, queueName, data, id⟩
      · rw [here] at earlier
        rw [queueName, id, data]
        exact circulating.copied old earlier
      · rcases circulating.read thread member news read with ⟨row, present, later⟩
        exact ⟨row, present, id.trans later.id.symm, data.trans later.jobData.symm, later.payload ▸ queueName⟩
    rcases held with ⟨row, present, id, data, queueName⟩
    rcases kept present with ⟨row', there, since⟩
    exact ⟨row', there, id.trans since.id.symm, data.trans since.jobData.symm, since.payload ▸ queueName⟩
  · intro other among jobId job handed
    have held : ∃ row ∈ config.shared.rows, row.id = jobId ∧ job = OutboxProcessor.jobData row := by
      rcases List.mem_or_eq_of_mem_set among with earlier | rfl
      · exact circulating.handed other earlier jobId job handed
      · rcases acted.handed handed with before | ⟨queued, present, id, data⟩
        · exact circulating.handed thread member jobId job before
        · rw [here] at present
          rcases circulating.copied queued present with ⟨row, there, named, copied, _⟩
          exact ⟨row, there, named.symm.trans id, data.symm.trans copied⟩
    rcases held with ⟨row, present, id, data⟩
    rcases kept present with ⟨row', there, since⟩
    exact ⟨row', there, since.id.trans id, data.trans since.jobData.symm⟩
  · intro other among eventType subscriptions selected
    have same : event.after.selectSubscriptions eventType = config.shared.selectSubscriptions eventType := by
      unfold Deployment.selectSubscriptions
      rw [acted.subscriptions, here]
    refine Eq.trans ?_ same.symm
    rcases List.mem_or_eq_of_mem_set among with earlier | rfl
    · exact circulating.selected other earlier eventType subscriptions selected
    · rcases acted.selected selected with before | now
      · exact circulating.selected thread member eventType subscriptions before
      · exact here ▸ now

end Calls

/-! ## All runs -/

/-- Nothing has been ordered yet.  There may be stock and subscriptions. -/
structure Unopened (deployment : Deployment) : Prop where
  orders : deployment.backend.world.db.orders.rows = []
  items : deployment.backend.items.rows = []
  events : deployment.rows = []
  jobs : deployment.backend.jobs = []
  queued : deployment.queued = []

theorem Unopened.announcing {platform : Platform} {deployment : Deployment} (fresh : Unopened deployment) :
    Announcing platform { shared := deployment.backend } where
  carried := by
    refine ⟨⟨?_, ?_⟩, ?_, ?_⟩
    · intro item member
      rw [fresh.items] at member
      cases member
    · intro job member
      rw [fresh.jobs] at member
      cases member
    all_goals
      intro stage member
      cases member
  chronicled := by
    refine ⟨?_, nothing_told fresh.orders fresh.events⟩
    intro stage member
    cases member
  so := by
    intro event member
    replace member : event ∈ deployment.rows := member
    rw [fresh.events] at member
    cases member

section Runs

variable {platform : Platform} {webhooks : WebhookConfig} {outboxMaxRetries : Int} {start : Deployment}
  {Legal : Operating → Move ServerTask ServerChoice → Prop} {config : Operating}

theorem reaches_announcing (fresh : Unopened start)
    (reached : (server platform webhooks outboxMaxRetries).Reaches Legal { shared := start } config) :
    Announcing platform (flowOf config) := by
  apply reached.component
  · exact fresh.announcing
  · intro earlier next unmoved holds
    exact ⟨holds.carried.unmoved unmoved, holds.chronicled.unmoved unmoved, holds.so.unmoved unmoved⟩
  · intro earlier index choice thread call resume own reached' listed pending viewed holds
    have answered := acted (reaches_server reached' thread (List.mem_of_getElem? listed)) pending earlier.shared choice
    have here : ((server platform webhooks outboxMaxRetries).answer earlier.shared call choice).before = earlier.shared :=
      rfl
    generalize (server platform webhooks outboxMaxRetries).answer earlier.shared call choice = event at *
    cases answered with
    | pipeline call reply before after issued admitted behaves informed only =>
        cases viewed
        have here : before.backend = earlier.shared.backend := congrArg Deployment.backend here
        have listed : (flowOf earlier).threads[index]? = some (stageOf thread) := System.getElem?_seen listed
        exact ⟨holds.carried.moved _ listed here admitted issued behaves,
          holds.chronicled.moved _ listed here admitted issued behaves informed,
          holds.so.moved _ holds.carried.linked listed here admitted issued behaves⟩
    | processor => cases viewed
    | webhooks => cases viewed
    | dispatcher => cases viewed
  · intro earlier index choice thread call resume reached' listed pending viewed holds
    have answered := acted (reaches_server reached' thread (List.mem_of_getElem? listed)) pending earlier.shared choice
    have here : ((server platform webhooks outboxMaxRetries).answer earlier.shared call choice).before = earlier.shared :=
      rfl
    generalize (server platform webhooks outboxMaxRetries).answer earlier.shared call choice = event at *
    replace holds : Announcing platform { shared := earlier.shared.backend, threads := (flowOf earlier).threads } := holds
    rw [← here] at holds
    cases answered with
    | pipeline => cases viewed
    | processor call reply before after admitted warranted republished enqueues =>
        rcases republished.rows with ⟨change, written, rows⟩
        exact holds.republished republished.only (fun row => .of_written (written row)) rows
    | webhooks call reply before after requeued hands completing =>
        have same : after.backend = before.backend := by rw [requeued.only]
        exact same ▸ holds
    | dispatcher => exact holds

theorem reaches_circulating (fresh : Unopened start)
    (reached : (server platform webhooks outboxMaxRetries).Reaches Legal { shared := start } config) :
    Circulating config := by
  refine reached.moving ?_ ?_ ?_
  · refine ⟨?_, ?_, ?_, ?_⟩
    · intro thread member
      cases member
    · intro job member
      rw [fresh.queued] at member
      cases member
    · intro thread member
      cases member
    · intro thread member
      cases member
  · intro earlier next unmoved circulating
    refine ⟨?_, ?_, ?_, ?_⟩
    · intro thread member event read
      rw [unmoved.shared]
      rcases unmoved.mem member with ⟨old, listed, _, log⟩ | nothing
      · exact circulating.read old listed event (log ▸ read)
      · rw [nothing] at read
        cases read
    · rw [unmoved.shared]
      exact circulating.copied
    · intro thread member jobId job handed
      rw [unmoved.shared]
      rcases unmoved.mem member with ⟨old, listed, _, log⟩ | nothing
      · exact circulating.handed old listed jobId job (log ▸ handed)
      · rw [nothing] at handed
        rcases handed with ⟨_, _, impossible⟩
        cases impossible
    · intro thread member eventType subscriptions selected
      rw [unmoved.shared]
      rcases unmoved.mem member with ⟨old, listed, _, log⟩ | nothing
      · exact circulating.selected old listed eventType subscriptions (log ▸ selected)
      · rw [nothing] at selected
        rcases selected with ⟨_, _, impossible⟩
        cases impossible
  · intro earlier index choice thread call resume reached' _ listed pending circulating
    exact circulating.moved _ listed rfl
      (acted (reaches_server reached' thread (List.mem_of_getElem? listed)) pending earlier.shared choice)

end Runs

/-! ## What a subscriber is sent -/

/-- A saga run has paid the order, and the event quotes the charge whose approval it was
answered. -/
structure PaidWith (platform : Platform) (backend : Backend) (row : OrderRow) (context : SagaContext)
    (done : Footprint) (event : OutboxEvent) : Prop where
  about : ContextOf backend row context
  reserved : done.reserved = InventoryService.sortItems platform ((itemsOf backend row.id).map reservationOf)
  charged : ∃ transactionId amount, Money.new row.totalAmount row.currency = .ok amount ∧
    done.charges = [(transactionId, amount)] ∧ event.payload = platform.jsonb (context.paidEvent transactionId).payload
  asked : context.Charging done.chargeCalls
  kept : done.refundCalls = [] ∧ done.releaseCalls = []

/-- What an event says about an order is so. -/
inductive Truthful (platform : Platform) (config : Flowing) (event : OutboxEvent) : Prop where
  | created (row : OrderRow) (member : row ∈ config.shared.world.db.orders.rows)
      (creation : CreationOf platform config.shared row event)
  | paid (row : OrderRow) (member : row ∈ config.shared.world.db.orders.rows) (type : event.eventType = "order.paid")
      (about : event.aggregateId = row.id) (stage : Stage) (among : stage ∈ config.threads) (jobId : String)
      (context : SagaContext) (task : stage.task = .sagaJob jobId) (took : taken stage.log = some context)
      (paid : PaidWith platform config.shared row context (footprint (portsLog stage.log)) event)
  | failed (row : OrderRow) (member : row ∈ config.shared.world.db.orders.rows) (type : event.eventType = "order.failed")
      (about : event.aggregateId = row.id) (payload : event.payload = platform.jsonb (failedPayload row.id))
      (stage : Stage) (among : stage ∈ config.threads) (saga : SagaInstance)
      (written : saga ∈ (footprint (portsLog stage.log)).updated) (undone : saga.status = .compensating)
      (order : saga.orderId = row.id)

/-- The routine has started these deliveries. -/
def Delivers (thread : ServerThread) (routines : List (Delivering Unit)) : Prop :=
  (∃ reply before after, (⟨.dispatch (.allSettled routines), reply, before, after⟩ : ServerEvent) ∈ thread.log) ∨
    ∃ resume, thread.code = .await (.dispatch (.allSettled routines)) resume

section Truth

variable {platform : Platform} {webhooks : WebhookConfig} {outboxMaxRetries : Int} {start : Deployment}
  {Legal : Operating → Move ServerTask ServerChoice → Prop} {config : Operating}

/-- Each event of the outbox is truthful. -/
theorem Announcing.truthful {flow : Flowing} (announcing : Announcing platform flow)
    (behaves : ∀ stage ∈ flow.threads, Behaves platform stage.task stage.log) {event : OutboxEvent}
    (member : event ∈ flow.shared.world.db.outbox.rows) : Truthful platform flow event := by
  rcases announcing.so event member with ⟨row, present, creation⟩ | ⟨stage, among, reported⟩
  · exact .created row present creation
  cases reported with
  | paid context took transactionId eventId called type about payload =>
      rcases announcing.carried.took stage among context took with ⟨⟨row, present, of⟩, jobId, task⟩
      have fulfilling := behaves stage among
      rw [task] at fulfilling
      rcases fulfilling_confirmed (fulfilling context took) called with
        ⟨transactionId', eventId', amount, equal, money, reserved, charges, refunds, releases⟩
      have quoted : (context.paidEvent transactionId).payload = (context.paidEvent transactionId').payload := by
        injection equal with _ rest
        injection rest with head
        injection head with _ events
        rw [events]
      refine .paid row present type (about.trans of.order) stage among jobId context task took
        ⟨of, ?_, ?_, (fulfilling context took).asked, refunds, releases⟩
      · rw [reserved, of.items]
      · refine ⟨transactionId', amount, ?_, charges, payload.trans (congrArg platform.jsonb quoted)⟩
        rw [← money]
        unfold SagaContext.money
        rw [of.total]
        rfl
  | failed saga written status type about payload =>
      -- what has been told about an order that does not exist is nothing
      have present : (orderStatus flow.shared.world saga.orderId).isSome := by
        by_contra absent
        have silent := (announcing.chronicled.history saga.orderId).silent (Option.not_isSome_iff_eq_none.mp absent)
        have tells : OrderStatus.cancelled ∈ told flow.shared.world saga.orderId := by
          refine List.mem_filterMap.mpr ⟨event, member, ?_⟩
          rw [if_pos about, type]
          rfl
        rw [silent] at tells
        cases tells
      rcases Option.isSome_iff_exists.mp present with ⟨status', known⟩
      rcases Option.map_eq_some_iff.mp known with ⟨row, found, _⟩
      have named : row.id = saga.orderId := Store.Table.lookup_key found
      exact .failed row (Store.Table.mem_of_lookup found) type (about.trans named.symm)
        (payload.trans (congrArg (fun id => platform.jsonb (failedPayload id)) named.symm)) stage among saga written status
        named.symm

/-- A routine starts deliveries for the job it has been handed. -/
theorem sends_served {thread : ServerThread} {routines : List (Delivering Unit)}
    (keeping : thread.Keeping platform webhooks outboxMaxRetries) (sends : Delivers thread routines) :
    ∃ jobId job subscriptions timestamp, thread.task = .notificationJob jobId ∧ Handed jobId job thread.log ∧
      Selected job.eventType subscriptions (dispatcherLog thread.log) ∧
        routines = NotificationOutcomes.routines webhooks subscriptions (job.webhookPayload timestamp) := by
  have served : ∃ earlier, earlier <:+ thread.log ∧
      Serves platform webhooks outboxMaxRetries thread.task earlier (.dispatch (.allSettled routines)) := by
    rcases sends with ⟨reply, before, after, member⟩ | ⟨resume, pending⟩
    · rcases keeping.behind.admitted member with ⟨since, earlier, same, allowed, _⟩
      exact ⟨earlier, ⟨since ++ [_], by rw [same, List.append_assoc]; rfl⟩, allowed.2⟩
    · have ahead := keeping.ahead
      rw [pending] at ahead
      exact ⟨thread.log, List.suffix_refl _, ahead.1.2⟩
  rcases served with ⟨earlier, suffix, served⟩
  rcases thread with ⟨task, code, log, stopped⟩
  cases task with
  | pipeline task =>
      rcases served with ⟨_, impossible, _⟩
      cases impossible
  | processBatch =>
      rcases served with ⟨_, impossible, _⟩
      cases impossible
  | stalledNotification jobId => cases served
  | notificationJob jobId =>
      cases served with
      | dispatching call job handed dispatches =>
          rcases dispatches with ⟨subscriptions, timestamp, ⟨before, after, selected⟩, rfl⟩
          rcases handed with ⟨start, final, member⟩
          refine ⟨jobId, job, subscriptions, timestamp, rfl, ⟨start, final, suffix.subset member⟩, ?_, rfl⟩
          exact ⟨before, after, (suffix.filterMap seenByDispatcher).subset selected⟩

/-- In every state of every run of the server, whatever fails, is lost, is repeated
or is stopped: the deliveries that have been started for a job go to all active
subscriptions of its event type, and carry a truthful event of the outbox. -/
theorem webhooks_truthful (fresh : Unopened start)
    (reached : (server platform webhooks outboxMaxRetries).Reaches Legal { shared := start } config)
    {thread : ServerThread} (member : thread ∈ config.threads) {routines : List (Delivering Unit)}
    (sends : Delivers thread routines) :
    ∃ event ∈ config.shared.rows, thread.task = .notificationJob event.id ∧ Truthful platform (flowOf config) event ∧
      ∃ timestamp, routines = (config.shared.selectSubscriptions event.eventType).map fun sub =>
        WebhookDispatcher.deliver webhooks sub
          { eventType := event.eventType, aggregateId := event.aggregateId, payload := event.payload, timestamp } := by
  have keeping := reaches_server reached
  have circulating := reaches_circulating fresh reached
  rcases sends_served (keeping thread member) sends with
    ⟨jobId, job, subscriptions, timestamp, task, handed, selected, rfl⟩
  rcases circulating.handed thread member jobId job handed with ⟨event, present, rfl, rfl⟩
  have behaves : ∀ stage ∈ (flowOf config).threads, Behaves platform stage.task stage.log := by
    intro stage among
    rcases List.mem_map.mp among with ⟨⟨task, code, log, stopped⟩, listed, rfl⟩
    have stands := ServerThread.Keeping.stands (keeping _ listed)
    cases task with
    | pipeline task => exact stands.1
    | _ => trivial
  refine ⟨event, present, task, (reaches_announcing fresh reached).truthful behaves present, timestamp, ?_⟩
  rw [circulating.selected thread member _ subscriptions selected]
  rfl

end Truth

/-! ## A shop with a subscriber -/

/-- A shop that has five units and a subscriber to paid orders. -/
def newShop : Deployment where
  backend := { emptyBackend with world.db.inventory := (smallShop 5).db.inventory }
  subscriptions := [{
    id := 1
    url := "https://hooks.example.com/orders"
    eventTypes := ["order.paid"]
    secret := "s"
    active := true }]

theorem newShop_unopened : Unopened newShop := ⟨rfl, rfl, rfl, rfl, rfl⟩

def plainWebhooks : WebhookConfig where
  webhookSecretHeader := "X-Webhook-Signature"
  uuidText := toString
  toISOString := toString
  signPayload _ _ := ""

/-- Answer the calls of a routine, so many of them. -/
def answering (index calls : Nat) : List (Move ServerTask ServerChoice) := List.replicate calls (.advance index {})

/-- An order for the units whose saga has confirmed it, the batch that publishes its
events, and the job of the second. -/
def paidDeployment : Operating :=
  (server postgresJs plainWebhooks 5).run { shared := newShop }
    (.start (.pipeline (.createOrder fiveUnits)) :: (answering 0 10 ++ .start (.pipeline (.sagaJob "saga-0")) ::
      (answering 1 31 ++ .start .processBatch :: (answering 2 7 ++ .start (.notificationJob 10) :: answering 3 4))))

/-- The deliveries of a dispatch have settled. -/
def settles : ServerEvent → Bool
  | ⟨.dispatch (.allSettled _), _, _, _⟩ => true
  | _ => false

theorem settles_sends {thread : ServerThread} {event : ServerEvent} (member : event ∈ thread.log)
    (settled : settles event = true) : ∃ routines, Delivers thread routines := by
  rcases event with ⟨call, reply, before, after⟩
  cases call with
  | pipeline call => cases settled
  | outbox call => cases settled
  | webhooks call => cases settled
  | dispatch call =>
      cases call with
      | selectSubscriptions eventType => cases settled
      | newDate => cases settled
      | allSettled routines => exact ⟨routines, Or.inl ⟨reply, before, after, member⟩⟩

theorem webhooks_truthful_paid :
    ∃ thread ∈ paidDeployment.threads, ∃ routines, Delivers thread routines ∧ ∃ event ∈ paidDeployment.shared.rows,
      thread.task = .notificationJob event.id ∧ Truthful postgresJs (flowOf paidDeployment) event ∧
        ∃ timestamp, routines = (paidDeployment.shared.selectSubscriptions event.eventType).map fun sub =>
          WebhookDispatcher.deliver plainWebhooks sub
            { eventType := event.eventType, aggregateId := event.aggregateId, payload := event.payload, timestamp } := by
  have dispatched : paidDeployment.threads.any (fun thread => thread.log.any settles) = true := by decide +kernel
  rcases List.any_eq_true.mp dispatched with ⟨thread, member, some⟩
  rcases List.any_eq_true.mp some with ⟨event, listed, settled⟩
  rcases settles_sends listed settled with ⟨routines, sends⟩
  have reached : (server postgresJs plainWebhooks 5).Reaches (fun _ _ => True) { shared := newShop } paidDeployment :=
    System.run_reaches _ _
  exact ⟨thread, member, routines, sends, webhooks_truthful newShop_unopened reached member sends⟩

end Orderly
