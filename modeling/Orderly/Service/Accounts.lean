import Orderly.Service.Webhooks

/-!
# No announcement is lost

An event leaves the table for a queue and the queue for a worker, and each
hand-over is recorded only after it has taken place: a row is PUBLISHED after its
job is known to the queue, and a job is completed after its deliveries have
settled.  So what can be found nowhere else has been dispatched, although calls
fail, routines stop, and the queues forget their completed jobs.
-/

namespace Orderly

open Process (Move System)

/-! ## The table -/

/-- The outbox and its processors that are part of a server. -/
abbrev publishingOf (config : Operating) : Publishing :=
  config.seen Deployment.outbox seenByProcessor (fun _ => .processBatch) (.done ())

section Table

variable {platform : Platform} {webhooks : WebhookConfig} {outboxMaxRetries : Int} {config next : Publishing}

/-- What accounts for a row is not taken back by a routine that goes on. -/
theorem Accounted.grown {row : OutboxEvent} (accounted : Accounted outboxMaxRetries config row)
    (grows : ∀ thread ∈ config.threads, ∃ later ∈ next.threads, thread.log <:+ later.log) :
    Accounted outboxMaxRetries next row := by
  unfold Accounted at *
  split
  · trivial
  · next published =>
      rw [published] at accounted
      rcases accounted with ⟨thread, member, known⟩
      rcases grows thread member with ⟨later, among, suffix⟩
      exact ⟨later, among, resolved_suffix suffix known⟩
  · next failed =>
      rw [failed] at accounted
      exact accounted

theorem Accounts.unmoved (accounts : Accounts outboxMaxRetries config) (unmoved : System.Unmoved config next) :
    Accounts outboxMaxRetries next where
  rows row member := by
    rw [unmoved.shared] at member
    refine (accounts.rows row member).grown fun thread among => ?_
    rcases List.mem_iff_getElem?.mp among with ⟨position, found⟩
    rcases unmoved.kept position thread found with ⟨later, listed, _, log⟩
    exact ⟨later, List.mem_of_getElem? listed, log ▸ List.suffix_refl _⟩
  read thread member event read := by
    rw [unmoved.shared]
    rcases unmoved.mem member with ⟨old, listed, _, log⟩ | nothing
    · exact accounts.read old listed event (log ▸ read)
    · rw [nothing] at read
      cases read

/-- A statement of a batch keeps the accounts. -/
theorem Accounts.answered {index : Nat} {thread : Publisher} {event : OutboxEventCall} (rest : OutboxRoutine Unit)
    (accounts : Accounts outboxMaxRetries config) (listed : config.threads[index]? = some thread)
    (here : event.before = config.shared) (admitted : (publication platform outboxMaxRetries).Admits thread.log event)
    (warranted : Warranted outboxMaxRetries thread.log event.call) {change : OutboxEvent → OutboxEvent}
    (written : ∀ row, Written event.call row (change row))
    (rows : event.after.events.rows = event.before.events.rows.map change) :
    Accounts outboxMaxRetries
      { shared := event.after, threads := config.threads.set index (thread.answered event rest) } := by
  have member := List.mem_of_getElem? listed
  have grows : ∀ other ∈ config.threads, ∃ later ∈ config.threads.set index (thread.answered event rest),
      other.log <:+ later.log := by
    intro other among
    rcases List.mem_iff_getElem?.mp among with ⟨position, found⟩
    rcases System.getElem?_moved event rest listed found with ⟨later, there, _, suffix⟩
    exact ⟨later, List.mem_of_getElem? there, suffix⟩
  have kept : ∀ row ∈ config.shared.events.rows, ∃ row' ∈ event.after.events.rows, Written event.call row row' := by
    intro row present
    rw [rows, here]
    exact ⟨_, List.mem_map_of_mem present, written row⟩
  constructor
  · intro row' there
    replace there : row' ∈ event.after.events.rows := there
    rw [rows, here] at there
    rcases List.mem_map.mp there with ⟨row, present, rfl⟩
    exact (accounts.written member warranted present (written row)).grown grows
  · intro other among news read
    have held : ∃ row ∈ config.shared.events.rows, row.id = news.id ∧ news.retryCount ≤ row.retryCount := by
      rcases List.mem_or_eq_of_mem_set among with earlier | rfl
      · exact accounts.read other earlier news read
      · rcases List.mem_append.mp read with now | before
        · exact ⟨news, here ▸ readBy_rows admitted news now, rfl, Nat.le_refl _⟩
        · exact accounts.read thread member news before
    rcases held with ⟨row, present, same, counted⟩
    rcases kept row present with ⟨row', there, written⟩
    exact ⟨row', there, written.id.trans same, counted.trans written.retryCount⟩

/-- Rows that come are pending. -/
theorem Accounts.added {outbox : Outbox} (accounts : Accounts outboxMaxRetries config)
    (stays : ∀ row ∈ config.shared.events.rows, row ∈ outbox.events.rows)
    (comes : ∀ row ∈ outbox.events.rows, row ∈ config.shared.events.rows ∨ row.status = .pending) :
    Accounts outboxMaxRetries { shared := outbox, threads := config.threads } where
  rows row member := by
    rcases comes row member with earlier | pending
    · exact (accounts.rows row earlier).grown fun thread among => ⟨thread, among, List.suffix_refl _⟩
    · unfold Accounted
      rw [pending]
      trivial
  read thread member event read := by
    rcases accounts.read thread member event read with ⟨row, present, same, counted⟩
    exact ⟨row, stays row present, same, counted⟩

end Table

section Runs

variable {platform : Platform} {webhooks : WebhookConfig} {outboxMaxRetries : Int} {start : Deployment}
  {Legal : Operating → Move ServerTask ServerChoice → Prop} {config : Operating}

/-- The rows of the outbox are accounted for. -/
theorem reaches_table (fresh : Unopened start)
    (reached : (server platform webhooks outboxMaxRetries).Reaches Legal { shared := start } config) :
    Accounts outboxMaxRetries (publishingOf config) := by
  apply reached.component
  · constructor
    · intro row member
      replace member : row ∈ start.rows := member
      rw [fresh.events] at member
      cases member
    · intro thread member
      cases member
  · exact fun earlier next unmoved accounts => accounts.unmoved unmoved
  · intro earlier index choice thread call resume own reached' listed pending viewed accounts
    have answered := acted (reaches_server reached' thread (List.mem_of_getElem? listed)) pending earlier.shared choice
    have here : ((server platform webhooks outboxMaxRetries).answer earlier.shared call choice).before = earlier.shared :=
      rfl
    generalize (server platform webhooks outboxMaxRetries).answer earlier.shared call choice = event at *
    cases answered with
    | pipeline => cases viewed
    | processor call reply before after admitted warranted republished enqueues =>
        cases viewed
        have here : before.outbox = earlier.shared.outbox := congrArg Deployment.outbox here
        have listed : (publishingOf earlier).threads[index]? =
            some (thread.seen seenByProcessor (fun _ => .processBatch) (.done ())) := System.getElem?_seen listed
        rcases republished.rows with ⟨change, written, rows⟩
        exact accounts.answered _ listed here admitted warranted written rows
    | webhooks => cases viewed
    | dispatcher => cases viewed
  · intro earlier index choice thread call resume reached' listed pending viewed accounts
    have answered := acted (reaches_server reached' thread (List.mem_of_getElem? listed)) pending earlier.shared choice
    have here : ((server platform webhooks outboxMaxRetries).answer earlier.shared call choice).before = earlier.shared :=
      rfl
    have linked := (reaches_announcing fresh reached').carried.linked
    generalize (server platform webhooks outboxMaxRetries).answer earlier.shared call choice = event at *
    replace linked : ItemsLinked earlier.shared.backend := linked
    rw [← here] at linked
    have same : event.after.rows = event.before.rows →
        Accounts outboxMaxRetries { shared := event.after.outbox, threads := (publishingOf earlier).threads } := by
      intro same
      rw [here] at same
      refine accounts.added (fun row member => ?_) fun row member => Or.inl ?_
      · change row ∈ event.after.rows
        rw [same]
        exact member
      · change row ∈ earlier.shared.rows
        rw [← same]
        exact member
    cases answered with
    | pipeline call reply before after issued admitted behaves informed only =>
        rcases news_event linked issued behaves admitted with unchanged | ⟨news, appended, fresh, _⟩
        · exact same unchanged
        · replace appended : after.rows = before.rows ++ [news] := appended
          replace here : before = earlier.shared := here
          rw [here] at appended
          refine accounts.added (fun row member => ?_) fun row member => ?_
          · change row ∈ after.rows
            rw [appended]
            exact List.mem_append_left _ member
          · replace member : row ∈ after.rows := member
            rw [appended] at member
            rcases List.mem_append.mp member with earlier | new
            · exact Or.inl earlier
            · rw [List.mem_singleton.mp new]
              exact Or.inr fresh
    | processor => cases viewed
    | webhooks call reply before after requeued hands completing =>
        have unchanged : after.rows = before.rows := by rw [requeued.only]
        exact same unchanged
    | dispatcher => exact same rfl

end Runs

/-! ## The queue -/

/-- The job with this id has been dispatched by a worker to which it was handed. -/
def DispatchedBy (webhooks : WebhookConfig) (config : Operating) (id : Uuid) : Prop :=
  ∃ thread ∈ config.threads, thread.task = .notificationJob id ∧ ∃ job, Handed id job thread.log ∧
    Dispatched webhooks job (dispatcherLog thread.log)

/-- A job with this id is still to be dispatched, or has been. -/
def Underway (webhooks : WebhookConfig) (config : Operating) (id : Uuid) : Prop :=
  (∃ job ∈ config.shared.queued, job.id = id ∧ job.state ≠ .completed) ∨ DispatchedBy webhooks config id

/-- The books of the queues. -/
structure Settling (webhooks : WebhookConfig) (config : Operating) : Prop where
  completed : ∀ job ∈ config.shared.queued, job.state = .completed → DispatchedBy webhooks config job.id
  enqueued : ∀ thread ∈ config.threads, ∀ id ∈ resolved (processorLog thread.log), Underway webhooks config id

section Queue

variable {platform : Platform} {webhooks : WebhookConfig} {outboxMaxRetries : Int} {thread : ServerThread}
  {event : ServerEvent} {config next : Operating}

theorem Dispatched.later {job : NotificationJob} {log : ServerLog} (dispatched : Dispatched webhooks job (dispatcherLog log))
    {since : ServerLog} (grown : log <:+ since) : Dispatched webhooks job (dispatcherLog since) := by
  have grown := (grown.filterMap seenByDispatcher).subset
  rcases dispatched with ⟨subscriptions, ⟨before, after, selected⟩, outcome⟩
  refine ⟨subscriptions, ⟨before, after, grown selected⟩, outcome.imp_right ?_⟩
  rintro ⟨timestamp, settled, start, final, member⟩
  exact ⟨timestamp, settled, start, final, grown member⟩

theorem DispatchedBy.grown {id : Uuid} (dispatched : DispatchedBy webhooks config id)
    (grows : ∀ thread ∈ config.threads, ∃ later ∈ next.threads, later.task = thread.task ∧ thread.log <:+ later.log) :
    DispatchedBy webhooks next id := by
  rcases dispatched with ⟨thread, member, task, job, ⟨before, after, handed⟩, done⟩
  rcases grows thread member with ⟨later, among, same, grown⟩
  exact ⟨later, among, same.trans task, job, ⟨before, after, grown.subset handed⟩, done.later grown⟩

/-- A job is on its way until it has been dispatched. -/
theorem Settling.moved {index : Nat} (rest : Server PipelineOutcome) (settling : Settling webhooks config)
    (listed : config.threads[index]? = some thread) (here : event.before = config.shared)
    (acted : Acted platform webhooks outboxMaxRetries thread event) :
    Settling webhooks { shared := event.after, threads := config.threads.set index (thread.answered event rest) } := by
  have member := List.mem_of_getElem? listed
  have among : thread.answered event rest ∈ config.threads.set index (thread.answered event rest) :=
    List.mem_set (List.getElem?_eq_some_iff.mp listed).1 _
  have grows : ∀ other ∈ config.threads, ∃ later ∈ config.threads.set index (thread.answered event rest),
      later.task = other.task ∧ other.log <:+ later.log := by
    intro other present
    rcases List.mem_iff_getElem?.mp present with ⟨position, found⟩
    rcases System.getElem?_moved event rest listed found with ⟨later, there, same, suffix⟩
    exact ⟨later, List.mem_of_getElem? there, same, suffix⟩
  -- a worker reports its job only after it has dispatched it
  have reported : ∀ jobId, event.call = .webhooks (.moveToCompleted jobId) → DispatchedBy webhooks
      { shared := event.after, threads := config.threads.set index (thread.answered event rest) } jobId := by
    intro jobId called
    cases acted with
    | pipeline => cases called
    | processor => cases called
    | dispatcher => cases called
    | webhooks call reply before after requeued hands completing =>
        cases called
        rcases completing jobId rfl with ⟨task, job, handed, done⟩
        exact ⟨_, among, task, job, handed.later _, done.later (List.suffix_cons _ _)⟩
  have completed : ∀ job ∈ event.after.queued, job.state = .completed → DispatchedBy webhooks
      { shared := event.after, threads := config.threads.set index (thread.answered event rest) } job.id := by
    have old : ∀ job ∈ event.before.queued, job.state = .completed → DispatchedBy webhooks
        { shared := event.after, threads := config.threads.set index (thread.answered event rest) } job.id := by
      intro job present done
      rw [here] at present
      exact (settling.completed job present done).grown grows
    intro job queued done
    cases acted with
    | pipeline call reply before after issued admitted behaves informed only =>
        refine old job ?_ done
        replace queued : job ∈ after.queued := queued
        rw [only] at queued
        exact queued
    | processor call reply before after admitted warranted republished enqueues =>
        rcases enqueues.comes job queued with earlier | ⟨waiting, _⟩
        · exact old job earlier done
        · cases waiting.symm.trans done
    | webhooks call reply before after requeued hands completing =>
        rcases requeued.comes job queued with ⟨before', earlier, _, id, _, completes⟩
        rcases completes done with already | now
        · exact id ▸ old before' earlier already
        · exact reported job.id (congrArg ServerCall.webhooks now)
    | dispatcher call reply state selects => exact old job queued done
  have onward : ∀ id, Underway webhooks config id → Underway webhooks
      { shared := event.after, threads := config.threads.set index (thread.answered event rest) } id := by
    rintro id (⟨job, present, rfl, open_⟩ | dispatched)
    · rw [← here] at present
      cases acted with
      | pipeline call reply before after issued admitted behaves informed only =>
          refine Or.inl ⟨job, ?_, rfl, open_⟩
          change job ∈ after.queued
          rw [only]
          exact present
      | processor call reply before after admitted warranted republished enqueues =>
          exact Or.inl ⟨job, enqueues.stays job present, rfl, open_⟩
      | webhooks call reply before after requeued hands completing =>
          rcases requeued.stays job present open_ with ⟨later, there, _, id, _, kept⟩ | now
          · exact Or.inl ⟨later, there, id, kept⟩
          · exact Or.inr (reported job.id (congrArg ServerCall.webhooks now))
      | dispatcher call reply state selects => exact Or.inl ⟨job, present, rfl, open_⟩
    · exact Or.inr (dispatched.grown grows)
  refine ⟨completed, ?_⟩
  intro other present id known
  rcases List.mem_or_eq_of_mem_set present with earlier | rfl
  · exact onward id (settling.enqueued other earlier id known)
  · have before : id ∈ resolved (processorLog thread.log) → Underway webhooks
        { shared := event.after, threads := config.threads.set index (thread.answered event rest) } id :=
      fun known => onward id (settling.enqueued thread member id known)
    cases acted with
    | pipeline => exact before known
    | webhooks => exact before known
    | dispatcher => exact before known
    | processor call reply start final admitted warranted republished enqueues =>
        replace known : id ∈ List.filterMap resolvedBy
          (⟨call, reply, start.outbox, final.outbox⟩ :: processorLog thread.log) := known
        rw [List.filterMap_cons] at known
        split at known
        · exact before known
        · next jobId resolves =>
            rcases List.mem_cons.mp known with rfl | known
            · rcases enqueues.known _ _ _ resolves with ⟨job, there, rfl⟩
              by_cases done : job.state = .completed
              · exact Or.inr (completed job there done)
              · exact Or.inl ⟨job, there, rfl, done⟩
            · exact before known

theorem Settling.unmoved (settling : Settling webhooks config) (unmoved : System.Unmoved config next) :
    Settling webhooks next := by
  have grows : ∀ thread ∈ config.threads, ∃ later ∈ next.threads, later.task = thread.task ∧
      thread.log <:+ later.log := by
    intro thread member
    rcases List.mem_iff_getElem?.mp member with ⟨position, found⟩
    rcases unmoved.kept position thread found with ⟨later, listed, same, log⟩
    exact ⟨later, List.mem_of_getElem? listed, same, log ▸ List.suffix_refl _⟩
  constructor
  · rw [unmoved.shared]
    exact fun job queued done => (settling.completed job queued done).grown grows
  · intro thread member id known
    rcases unmoved.mem member with ⟨old, listed, _, log⟩ | nothing
    · refine (settling.enqueued old listed id (log ▸ known)).imp ?_ fun dispatched => dispatched.grown grows
      rw [unmoved.shared]
      exact fun queued => queued
    · rw [nothing] at known
      cases known

end Queue

/-! ## Announcements -/

/-- Where the announcement is: it waits in the table, has used up its retries, is in
the queue that the notification workers serve, or has been dispatched. -/
inductive Announcement (webhooks : WebhookConfig) (outboxMaxRetries : Int) (config : Operating) (event : OutboxEvent) :
    Prop where
  | pending (status : event.status = .pending)
  | exhausted (status : event.status = .failed) (retries : outboxMaxRetries ≤ event.retryCount)
  | queued (status : event.status = .published) (job : TargetJob) (member : job ∈ config.shared.queued)
      (named : job.id = event.id) (served : job.queueName = "webhook-delivery")
      (copied : job.data = OutboxProcessor.jobData event) (kept : job.state ≠ .completed)
  | dispatched (status : event.status = .published) (thread : ServerThread) (member : thread ∈ config.threads)
      (task : thread.task = .notificationJob event.id)
      (done : Dispatched webhooks (OutboxProcessor.jobData event) (dispatcherLog thread.log))

section Announcements

variable {platform : Platform} {webhooks : WebhookConfig} {outboxMaxRetries : Int} {start : Deployment}
  {Legal : Operating → Move ServerTask ServerChoice → Prop} {config : Operating}

theorem reaches_settling (fresh : Unopened start)
    (reached : (server platform webhooks outboxMaxRetries).Reaches Legal { shared := start } config) :
    Settling webhooks config := by
  refine reached.moving ?_ ?_ ?_
  · constructor
    · intro job member
      rw [fresh.queued] at member
      cases member
    · intro thread member
      cases member
  · exact fun earlier next unmoved settling => settling.unmoved unmoved
  · intro earlier index choice thread call resume reached' _ listed pending settling
    exact settling.moved _ listed rfl
      (acted (reaches_server reached' thread (List.mem_of_getElem? listed)) pending earlier.shared choice)

/-- A column of the driver reads back with the queue its payload names. -/
def Routes (platform : Platform) : Prop :=
  ∀ payload : Json, payload.member? "queue" = some (.str "webhook-delivery") →
    OutboxProcessor.queueName (platform.jsonb payload) = .ok "webhook-delivery"

theorem postgresJs_routes : Routes postgresJs := fun _ _ => rfl

/-- Every event of the outbox is for the notification workers. -/
theorem Announcing.routed {flow : Flowing} (routes : Routes platform) (announcing : Announcing platform flow)
    {event : OutboxEvent} (member : event ∈ flow.shared.world.db.outbox.rows) :
    OutboxProcessor.queueName event.payload = .ok "webhook-delivery" := by
  rcases announcing.so event member with ⟨row, _, creation⟩ | ⟨stage, _, reported⟩
  · rw [creation.payload]
    exact routes _ (by simp [createdPayload, Json.member?])
  · cases reported with
    | paid context took transactionId eventId called type about payload =>
        rw [payload]
        exact routes _ (by simp [SagaContext.paidEvent, Json.member?])
    | failed saga written status type about payload =>
        rw [payload]
        exact routes _ (by simp [failedPayload, Json.member?])

/-- Every event of the outbox is accounted for. -/
theorem event_accounted (fresh : Unopened start) (routes : Routes platform)
    (reached : (server platform webhooks outboxMaxRetries).Reaches Legal { shared := start } config)
    {event : OutboxEvent} (member : event ∈ config.shared.rows) :
    Announcement webhooks outboxMaxRetries config event := by
  have accounted := (reaches_table fresh reached).rows event member
  have circulating := reaches_circulating fresh reached
  have unique : ∀ {row : OutboxEvent}, row ∈ config.shared.rows → row.id = event.id → row = event :=
    fun present same => config.shared.backend.world.db.outbox.eq_of_key present member same
  unfold Accounted at accounted
  cases status : event.status with
  | pending => exact .pending status
  | failed =>
      rw [status] at accounted
      exact .exhausted status accounted
  | published =>
      rw [status] at accounted
      rcases accounted with ⟨publisher, among, known⟩
      rcases List.mem_map.mp among with ⟨thread, listed, rfl⟩
      rcases (reaches_settling fresh reached).enqueued thread listed event.id known with
        ⟨job, queued, named, open_⟩ | ⟨worker, present, task, data, handed, done⟩
      · rcases circulating.copied job queued with ⟨row, there, id, copied, routed⟩
        have same := unique there (id.symm.trans named)
        subst same
        have served := (reaches_announcing fresh reached).routed routes member
        exact .queued status job queued named (Except.ok.inj (routed.symm.trans served)) copied open_
      · rcases circulating.handed worker present event.id data handed with ⟨row, there, id, rfl⟩
        have same := unique there id
        subst same
        exact .dispatched status worker present task done

/-- In every state of every run of the server, whatever fails, is lost, is repeated
or is stopped: no announcement is lost, and the status of every order has been
announced. -/
theorem orders_announced (fresh : Unopened start) (routes : Routes platform)
    (reached : (server platform webhooks outboxMaxRetries).Reaches Legal { shared := start } config) :
    (∀ event ∈ config.shared.rows, Announcement webhooks outboxMaxRetries config event) ∧
      ∀ row ∈ config.shared.backend.world.db.orders.rows, ∃ event ∈ config.shared.rows,
        event.aggregateId = row.id ∧ announcedStatus event.eventType = some row.status := by
  refine ⟨fun event member => event_accounted fresh routes reached member, fun row member => ?_⟩
  have history := (reaches_announcing fresh reached).chronicled.history row.id
  have last := history.ends row.status (orderStatus_of_mem member)
  rcases List.mem_filterMap.mp (List.mem_of_getLast? last) with ⟨event, present, announces⟩
  by_cases about : event.aggregateId = row.id
  · rw [if_pos about] at announces
    exact ⟨event, present, about, announces⟩
  · rw [if_neg about] at announces
    cases announces

theorem orders_announced_paid :
    (∀ event ∈ paidDeployment.shared.rows, Announcement plainWebhooks 5 paidDeployment event) ∧
      ∀ row ∈ paidDeployment.shared.backend.world.db.orders.rows, ∃ event ∈ paidDeployment.shared.rows,
        event.aggregateId = row.id ∧ announcedStatus event.eventType = some row.status := by
  have reached : (server postgresJs plainWebhooks 5).Reaches (fun _ _ => True) { shared := newShop } paidDeployment :=
    System.run_reaches _ _
  exact orders_announced newShop_unopened postgresJs_routes reached

end Announcements

end Orderly
