import Orderly.Service.Routines

/-!
# What one answered call does

A call of the pipeline changes the backend, and the outbox only by an event that
it appends.  One of an outbox processor changes three columns of the outbox, or
adds a job.  One of a notification worker changes the states of jobs.
-/

namespace Orderly

open Process (System)

/-! ## Rows of the outbox -/

/-- The row some time later: its status, its retries and its time may differ. -/
structure OutboxEvent.Later (row row' : OutboxEvent) : Prop where
  same : row' = { row with status := row'.status, retryCount := row'.retryCount, processedAt := row'.processedAt }
  retries : row.retryCount ≤ row'.retryCount

namespace OutboxEvent.Later

variable {row row' row'' : OutboxEvent}

theorem refl (row : OutboxEvent) : row.Later row := ⟨rfl, Nat.le_refl _⟩

theorem trans (first : row.Later row') (second : row'.Later row'') : row.Later row'' := by
  refine ⟨?_, first.retries.trans second.retries⟩
  rw [second.same, first.same]

theorem of_written {call : outboxPorts.Call} (written : Written call row row') : row.Later row' := by
  refine ⟨?_, written.retryCount⟩
  cases written <;> rfl

theorem id (later : row.Later row') : row'.id = row.id := by rw [later.same]

theorem payload (later : row.Later row') : row'.payload = row.payload := by rw [later.same]

theorem jobData (later : row.Later row') : OutboxProcessor.jobData row' = OutboxProcessor.jobData row := by
  rw [later.same]
  rfl

end OutboxEvent.Later

/-- The rows of the outbox. -/
abbrev Deployment.rows (deployment : Deployment) : List OutboxEvent := deployment.backend.world.db.outbox.rows

/-! ## The processors -/

section Processors

variable (platform : Platform) {call : OutboxCall} {before after : Deployment} {reply : Except JsError call.Reply}

/-- Of the backend, a batch changes rows of the outbox only. -/
structure Republished (call : OutboxCall) (before after : Deployment) : Prop where
  only : after.backend = { before.backend with world.db.outbox := after.backend.world.db.outbox }
  subscriptions : after.subscriptions = before.subscriptions
  rows : ∃ change, (∀ row, Written call row (change row)) ∧ after.rows = before.rows.map change

/-- A statement other than an insert changes the rows one by one. -/
theorem perform_rows (outbox : Outbox) (choice : OutboxChoice) (inserts : ∀ id event, call ≠ .insert id event) :
    ∃ change, (∀ row, Written call row (change row)) ∧
      (outbox.perform platform call choice).2.events.rows = outbox.events.rows.map change := by
  have unchanged : ∃ change, (∀ row, Written call row (change row)) ∧ outbox.events.rows = outbox.events.rows.map change :=
    ⟨id, .kept call, (List.map_id _).symm⟩
  have updated : ∀ id change (keeps : ∀ row, (change row).id = row.id),
      (∀ row, row.id = id → Written call row (change row)) → ∃ change', (∀ row, Written call row (change' row)) ∧
        (outbox.update id change keeps).events.rows = outbox.events.rows.map change' := by
    intro id change keeps written
    have each : ∀ row, Written call row (if row.id = id then change row else row) := by
      intro row
      split
      · next same => exact written row same
      · exact .kept call row
    exact ⟨_, each, rfl⟩
  have effect : ∀ locked, ∃ change, (∀ row, Written call row (change row)) ∧
      (outbox.effect platform call locked).2.events.rows = outbox.events.rows.map change := by
    intro locked
    cases call with
    | insert id event => exact absurd rfl (inserts id event)
    | markPublished id => exact updated id (Outbox.publishedRow outbox.clock) (fun _ => rfl) fun row same => same ▸ .published _ row
    | markFailed id incrementRetry =>
        simp only [Outbox.effect]
        split
        · exact unchanged
        · exact updated id (Outbox.failedRow outbox.clock incrementRetry) (fun _ => rfl)
            fun row same => same ▸ .failed _ incrementRetry row
    | resetForRetry id =>
        simp only [Outbox.effect]
        split
        · exact unchanged
        · exact updated id Outbox.retriedRow (fun _ => rfl) fun row same => same ▸ .retried row
    | add queueName name data jobId =>
        simp only [Outbox.effect, Outbox.addJob]
        split
        · exact unchanged
        · exact unchanged
    | randomUUID => exact unchanged
    | getPending limit => exact unchanged
    | createQueue name => exact unchanged
  cases choice with
  | serve locked => exact effect locked
  | lose error => exact effect []
  | reject error => exact unchanged

/-- What a batch uses up of identifiers and time: nothing. -/
theorem perform_supply (outbox : Outbox) {log : OutboxLog} (choice : OutboxChoice) (copying : Copying log call) :
    (outbox.perform platform call choice).2.nextUuid = outbox.nextUuid ∧
      (outbox.perform platform call choice).2.clock = outbox.clock := by
  have effect : ∀ locked, (outbox.effect platform call locked).2.nextUuid = outbox.nextUuid ∧
      (outbox.effect platform call locked).2.clock = outbox.clock := by
    intro locked
    cases call with
    | insert id event => exact copying.elim
    | randomUUID => exact copying.elim
    | markFailed id incrementRetry =>
        simp only [Outbox.effect]
        split <;> exact ⟨rfl, rfl⟩
    | resetForRetry id =>
        simp only [Outbox.effect]
        split <;> exact ⟨rfl, rfl⟩
    | add queueName name data jobId =>
        simp only [Outbox.effect, Outbox.addJob]
        split <;> exact ⟨rfl, rfl⟩
    | _ => exact ⟨rfl, rfl⟩
  cases choice with
  | serve locked => exact effect locked
  | lose error => exact effect []
  | reject error => exact ⟨rfl, rfl⟩

theorem enqueue_republishes (deployment : Deployment) (queueName : String) (data : NotificationJob) (jobId : Uuid) :
    Republished call deployment (deployment.enqueue queueName data jobId) := by
  unfold Deployment.enqueue
  split
  · exact ⟨rfl, rfl, id, .kept call, (List.map_id _).symm⟩
  · exact ⟨rfl, rfl, id, .kept call, (List.map_id _).symm⟩

theorem performOutbox_republishes {log : OutboxLog} (deployment : Deployment) (choice : OutboxChoice)
    (copying : Copying log call) : Republished call deployment (deployment.performOutbox platform call choice).2 := by
  by_cases add : ∃ queueName name data jobId, call = .add queueName name data jobId
  · rcases add with ⟨queueName, name, data, jobId, rfl⟩
    cases choice with
    | serve locked => exact enqueue_republishes deployment queueName data jobId
    | lose error => exact enqueue_republishes deployment queueName data jobId
    | reject error => exact ⟨rfl, rfl, id, .kept _, (List.map_id _).symm⟩
  · have other : ∀ queueName name data jobId, call ≠ .add queueName name data jobId :=
      fun queueName name data jobId same => add ⟨queueName, name, data, jobId, same⟩
    rw [performOutbox_other choice other]
    have inserts : ∀ id event, call ≠ .insert id event := by
      rintro id event rfl
      exact copying.elim
    have supply := perform_supply platform deployment.outbox choice copying
    have rows := perform_rows platform deployment.outbox choice inserts
    generalize (deployment.outbox.perform platform call choice).2 = outbox at supply rows
    rcases outbox with ⟨events, jobs, nextUuid, clock⟩
    rcases supply with ⟨rfl, rfl⟩
    exact ⟨rfl, rfl, rows⟩

/-- What a call of the processor does to the queues. -/
structure Enqueues (log : OutboxLog) (call : OutboxCall) (reply : Except JsError call.Reply)
    (before after : Deployment) : Prop where
  stays : ∀ job ∈ before.queued, job ∈ after.queued
  comes : ∀ job ∈ after.queued, job ∈ before.queued ∨ job.state = .waiting ∧
    ∃ event ∈ snapshots log, OutboxProcessor.queueName event.payload = .ok job.queueName ∧
      job.data = OutboxProcessor.jobData event ∧ job.id = event.id
  known : ∀ start final id, resolvedBy ⟨call, reply, start, final⟩ = some id → ∃ job ∈ after.queued, job.id = id

theorem enqueue_enqueues {log : OutboxLog} {queueName name : String} {data : NotificationJob} {jobId : Uuid}
    (deployment : Deployment) (copying : Copying log (OutboxCall.add queueName name data jobId))
    (reply : Except JsError (OutboxCall.add queueName name data jobId).Reply) :
    Enqueues log (.add queueName name data jobId) reply deployment (deployment.enqueue queueName data jobId) := by
  rcases copying with ⟨event, read, named, rfl, rfl⟩
  have resolves : ∀ {jobs : List TargetJob}, (∃ job ∈ jobs, job.id = event.id) → ∀ start final id,
      resolvedBy ⟨.add queueName name (OutboxProcessor.jobData event) event.id, reply, start, final⟩ = some id →
        ∃ job ∈ jobs, job.id = id := by
    intro jobs known start final id resolved
    cases reply with
    | ok value =>
        cases resolved
        exact known
    | error error => cases resolved
  unfold Deployment.enqueue
  split
  · next known =>
      rcases List.mem_map.mp known with ⟨job, member, same⟩
      refine ⟨fun job member => member, fun job member => Or.inl member, resolves ?_⟩
      exact ⟨job, member, (Prod.ext_iff.mp same).2⟩
  · refine ⟨fun job member => List.mem_append_left _ member, ?_, resolves ⟨_, List.mem_concat_self, rfl⟩⟩
    intro job member
    rcases List.mem_append.mp member with earlier | new
    · exact Or.inl earlier
    · rw [List.mem_singleton.mp new]
      exact Or.inr ⟨rfl, event, read, named, rfl, rfl⟩

theorem performOutbox_enqueues {log : OutboxLog} (deployment : Deployment) (choice : OutboxChoice)
    (copying : Copying log call) :
    Enqueues log call (deployment.performOutbox platform call choice).1 deployment
      (deployment.performOutbox platform call choice).2 := by
  have none : ∀ {reply : Except JsError call.Reply} {after : Deployment}, after.queued = deployment.queued →
      (∀ start final id, resolvedBy ⟨call, reply, start, final⟩ ≠ some id) →
        Enqueues log call reply deployment after := by
    intro reply after same unresolved
    refine ⟨fun job member => same ▸ member, fun job member => Or.inl (same ▸ member), ?_⟩
    exact fun start final id resolved => absurd resolved (unresolved start final id)
  cases call with
  | add queueName name data jobId =>
      cases choice with
      | serve locked => exact enqueue_enqueues deployment copying _
      | lose error => exact enqueue_enqueues deployment copying _
      | reject error => exact none rfl fun start final id resolved => by cases resolved
  | _ => exact none rfl fun start final id resolved => by cases resolved

end Processors

/-! ## The notification workers -/

section Queues

variable {call : WebhookQueueCall} {before after : Deployment}

/-- What a call of the worker does to the queues.  Only a job that is reported as
completed becomes completed. -/
structure Requeued (call : WebhookQueueCall) (before after : Deployment) : Prop where
  only : after = { before with queued := after.queued }
  comes : ∀ job ∈ after.queued, ∃ old ∈ before.queued, job.queueName = old.queueName ∧ job.id = old.id ∧
    job.data = old.data ∧ (job.state = .completed → old.state = .completed ∨ call = .moveToCompleted job.id)
  stays : ∀ old ∈ before.queued, old.state ≠ .completed →
    (∃ job ∈ after.queued, job.queueName = old.queueName ∧ job.id = old.id ∧ job.data = old.data ∧
      job.state ≠ .completed) ∨ call = .moveToCompleted old.id

theorem Requeued.refl (call : WebhookQueueCall) (deployment : Deployment) : Requeued call deployment deployment :=
  ⟨rfl, fun job member => ⟨job, member, rfl, rfl, rfl, Or.inl⟩,
    fun old member kept => Or.inl ⟨old, member, rfl, rfl, rfl, kept⟩⟩

/-- What a change of a job keeps. -/
structure TargetJob.Restates (completes : Prop) (job job' : TargetJob) : Prop where
  queueName : job'.queueName = job.queueName
  id : job'.id = job.id
  data : job'.data = job.data
  completed : job'.state = .completed → job.state = .completed ∨ completes

theorem activated_restates (job : TargetJob) : job.Restates False job.activated := by
  unfold TargetJob.activated
  split
  · exact ⟨rfl, rfl, rfl, fun impossible => by cases impossible⟩
  · exact ⟨rfl, rfl, rfl, Or.inl⟩

theorem finished_restates (job : TargetJob) : job.Restates True job.finished := by
  unfold TargetJob.finished
  split
  · exact ⟨rfl, rfl, rfl, fun _ => Or.inr trivial⟩
  · exact ⟨rfl, rfl, rfl, Or.inl⟩

theorem retried_restates (job : TargetJob) : job.Restates False job.retried := by
  unfold TargetJob.retried
  split
  · refine ⟨rfl, rfl, rfl, fun impossible => ?_⟩
    simp only at impossible
    split at impossible <;> cases impossible
  · exact ⟨rfl, rfl, rfl, Or.inl⟩

theorem recovered_restates (tooOften : Bool) (job : TargetJob) : job.Restates False (job.recovered tooOften) := by
  unfold TargetJob.recovered
  split
  · refine ⟨rfl, rfl, rfl, fun impossible => ?_⟩
    cases tooOften <;> cases impossible
  · exact ⟨rfl, rfl, rfl, Or.inl⟩

/-- Changing the job with a given id. -/
theorem changeQueued_requeues {jobId : Uuid} {change : TargetJob → TargetJob} {completes : Prop}
    (deployment : Deployment) (restates : ∀ job : TargetJob, job.Restates completes (change job))
    (completing : completes → call = .moveToCompleted jobId) :
    Requeued call deployment (deployment.changeQueued jobId change) := by
  have each : ∀ job : TargetJob, job.Restates (call = .moveToCompleted job.id)
      (if job.queueName = "webhook-delivery" ∧ job.id = jobId then change job else job) := by
    intro job
    split
    · next named =>
        have kept := restates job
        refine ⟨kept.queueName, kept.id, kept.data, fun completed => ?_⟩
        rw [named.2]
        exact (kept.completed completed).imp_right completing
    · exact ⟨rfl, rfl, rfl, Or.inl⟩
  refine ⟨rfl, ?_, ?_⟩
  · intro job member
    rcases List.mem_map.mp member with ⟨old, earlier, rfl⟩
    have kept := each old
    refine ⟨old, earlier, kept.queueName, kept.id, kept.data, ?_⟩
    rw [kept.id]
    exact kept.completed
  · intro old member open_
    have kept := each old
    by_cases completes : call = .moveToCompleted old.id
    · exact Or.inr completes
    · refine Or.inl ⟨_, List.mem_map_of_mem member, kept.queueName, kept.id, kept.data, fun completed => ?_⟩
      exact (kept.completed completed).elim open_ completes

/-- Only completed jobs are removed. -/
theorem Requeued.remove (requeued : Requeued call before after) (removed : List Uuid) :
    Requeued call before (after.remove removed) := by
  refine ⟨?_, fun job member => requeued.comes job (List.mem_of_mem_filter member), ?_⟩
  · change { after with queued := _ } = _
    rw [requeued.only]
    rfl
  · intro old member open_
    rcases requeued.stays old member open_ with ⟨job, there, queueName, id, data, kept⟩ | completing
    · refine Or.inl ⟨job, List.mem_filter.mpr ⟨there, ?_⟩, queueName, id, data, kept⟩
      exact decide_eq_true fun both => kept both.1
    · exact Or.inr completing

theorem performWebhooks_requeues (deployment : Deployment) (removed : List Uuid) (choice : Choice) :
    Requeued call deployment (deployment.performWebhooks call removed choice).2 := by
  have effect : ∀ choice, Requeued call deployment (deployment.webhookEffect call choice removed).2 := by
    intro choice
    cases call with
    | moveToActive jobId => exact changeQueued_requeues deployment activated_restates fun impossible => impossible.elim
    | moveToCompleted jobId => exact (changeQueued_requeues deployment finished_restates fun _ => rfl).remove removed
    | moveToFailed jobId => exact changeQueued_requeues deployment retried_restates fun impossible => impossible.elim
    | moveStalledJobsToWait jobId =>
        cases choice with
        | refuse => exact changeQueued_requeues deployment (recovered_restates true) fun impossible => impossible.elim
        | _ => exact changeQueued_requeues deployment (recovered_restates false) fun impossible => impossible.elim
  cases choice with
  | reject error => exact .refl call deployment
  | lose error => exact effect .serve
  | serve => exact effect .serve
  | refuse => exact effect .refuse
  | answer result => exact effect (.answer result)

/-- The queue hands over the data of a job it knows. -/
theorem performWebhooks_handed {jobId : Uuid} {job : NotificationJob} {deployment : Deployment} {removed : List Uuid}
    {choice : Choice} (replied : (deployment.performWebhooks (.moveToActive jobId) removed choice).1 = .ok (some job)) :
    ∃ queued ∈ deployment.queued, queued.id = jobId ∧ queued.data = job := by
  have found : deployment.waitingNotification jobId = some job := by
    cases choice with
    | reject error => cases replied
    | lose error => cases replied
    | _ => exact Except.ok.inj replied
  rcases Option.map_eq_some_iff.mp found with ⟨queued, search, rfl⟩
  have chosen := List.find?_some search
  simp only [decide_eq_true_eq] at chosen
  exact ⟨queued, List.mem_of_find?_eq_some search, chosen.2.1, rfl⟩

end Queues

/-! ## All calls -/

/-- What an answered call of a routine is. -/
inductive Acted (platform : Platform) (webhooks : WebhookConfig) (outboxMaxRetries : Int) (thread : ServerThread) :
    ServerEvent → Prop where
  | pipeline (call : PipelineCall) (reply : Except JsError call.Reply) (before after : Deployment)
      (issued : Issues platform (stageOf thread).task (stageOf thread).log call)
      (admitted : (pipeline platform).Admits (stageOf thread).log ⟨call, reply, before.backend, after.backend⟩)
      (behaves : Behaves platform (stageOf thread).task (⟨call, reply, before.backend, after.backend⟩ :: (stageOf thread).log))
      (informed : Informed (stageOf thread).task (⟨call, reply, before.backend, after.backend⟩ :: (stageOf thread).log))
      (only : after = { before with backend := after.backend }) :
      Acted platform webhooks outboxMaxRetries thread ⟨.pipeline call, reply, before, after⟩
  | processor (call : OutboxCall) (reply : Except JsError call.Reply) (before after : Deployment)
      (admitted : (publication platform outboxMaxRetries).Admits (processorLog thread.log)
        ⟨call, reply, before.outbox, after.outbox⟩)
      (warranted : Warranted outboxMaxRetries (processorLog thread.log) call)
      (republished : Republished call before after)
      (enqueues : Enqueues (processorLog thread.log) call reply before after) :
      Acted platform webhooks outboxMaxRetries thread ⟨.outbox call, reply, before, after⟩
  | webhooks (call : WebhookQueueCall) (reply : Except JsError call.Reply) (before after : Deployment)
      (requeued : Requeued call before after)
      (hands : ∀ jobId job, (⟨.webhooks call, reply, before, after⟩ : ServerEvent) =
          ⟨.webhooks (.moveToActive jobId), .ok (some job), before, after⟩ →
        ∃ queued ∈ before.queued, queued.id = jobId ∧ queued.data = job)
      (completing : ∀ jobId, call = .moveToCompleted jobId → thread.task = .notificationJob jobId ∧
        ∃ job, Handed jobId job thread.log ∧ Dispatched webhooks job (dispatcherLog thread.log)) :
      Acted platform webhooks outboxMaxRetries thread ⟨.webhooks call, reply, before, after⟩
  | dispatcher (call : DispatchCall) (reply : Except JsError call.Reply) (state : Deployment)
      (selects : ∀ eventType subscriptions, (⟨.dispatch call, reply, state, state⟩ : ServerEvent) =
          ⟨.dispatch (.selectSubscriptions eventType), .ok subscriptions, state, state⟩ →
        subscriptions = state.selectSubscriptions eventType) :
      Acted platform webhooks outboxMaxRetries thread ⟨.dispatch call, reply, state, state⟩

section Calls

variable {platform : Platform} {webhooks : WebhookConfig} {outboxMaxRetries : Int} {thread : ServerThread}

theorem performDispatch_same (deployment : Deployment) (call : DispatchCall) (choice : ServerChoice) :
    (deployment.performDispatch call choice).2 = deployment := by
  cases call with
  | selectSubscriptions eventType =>
      simp only [Deployment.performDispatch]
      split <;> rfl
  | newDate => rfl
  | allSettled routines => rfl

theorem performDispatch_selects {deployment : Deployment} {eventType : String} {choice : ServerChoice}
    {subscriptions : List SubscriptionRow}
    (replied : (deployment.performDispatch (.selectSubscriptions eventType) choice).1 = .ok subscriptions) :
    subscriptions = deployment.selectSubscriptions eventType := by
  simp only [Deployment.performDispatch] at replied
  split at replied
  · cases replied
  · cases replied
  · exact (Except.ok.inj replied).symm

/-- Every answered call of a routine that keeps its contract is one of these. -/
theorem acted {call : ServerCall} {resume : Except JsError call.Reply → Server PipelineOutcome}
    (keeping : thread.Keeping platform webhooks outboxMaxRetries) (pending : thread.code = .await call resume)
    (shared : Deployment) (choice : ServerChoice) :
    Acted platform webhooks outboxMaxRetries thread
      ((server platform webhooks outboxMaxRetries).answer shared call choice) := by
  rcases keeping.answered pending shared choice with ⟨⟨_, serves⟩, later⟩
  have stands := ServerThread.Keeping.stands later
  have answered : (server platform webhooks outboxMaxRetries).Admits thread.log
      ((server platform webhooks outboxMaxRetries).answer shared call choice) := ⟨choice, rfl⟩
  rcases thread with ⟨task, code, log, stopped⟩
  cases task with
  | pipeline task =>
      rcases serves with ⟨request, rfl, issued⟩
      have seen := seen_by_pipeline answered (pipelineLog log)
      exact .pipeline request _ _ _ issued seen.1 stands.1 stands.2 seen.2
  | processBatch =>
      rcases serves with ⟨request, rfl, warranted, copying⟩
      refine .processor request _ _ _ ?_ warranted ?_ ?_
      · exact seen_by_processor answered (processorLog log)
      · exact performOutbox_republishes platform shared choice.outbox copying
      · exact performOutbox_enqueues platform shared choice.outbox copying
  | notificationJob jobId =>
      cases serves with
      | taking =>
          refine .webhooks (.moveToActive jobId) _ _ _ (performWebhooks_requeues shared choice.removed choice.reply) ?_ ?_
          · intro other job same
            injection same with called replied
            cases called
            exact performWebhooks_handed replied
          · exact fun _ impossible => by cases impossible
      | dispatching request job handed dispatches =>
          have same := performDispatch_same shared request choice
          change Acted platform webhooks outboxMaxRetries _
            ⟨.dispatch request, (shared.performDispatch request choice).1, shared, (shared.performDispatch request choice).2⟩
          rw [same]
          refine .dispatcher request _ shared ?_
          intro eventType subscriptions same
          injection same with called replied
          cases called
          exact performDispatch_selects (eq_of_heq replied)
      | completing job handed dispatched =>
          refine .webhooks (.moveToCompleted jobId) _ _ _ (performWebhooks_requeues shared choice.removed choice.reply) ?_ ?_
          · intro other job same
            injection same with called
            cases called
          · intro other same
            cases same
            exact ⟨rfl, job, handed, dispatched⟩
      | failing =>
          refine .webhooks (.moveToFailed jobId) _ _ _ (performWebhooks_requeues shared choice.removed choice.reply) ?_ ?_
          · intro other job same
            injection same with called
            cases called
          · exact fun _ impossible => by cases impossible
  | stalledNotification jobId =>
      cases serves
      refine .webhooks (.moveStalledJobsToWait jobId) _ _ _
        (performWebhooks_requeues shared choice.removed choice.reply) ?_ ?_
      · intro other job same
        injection same with called
        cases called
      · exact fun _ impossible => by cases impossible

end Calls

end Orderly
