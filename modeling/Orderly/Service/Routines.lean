import Orderly.Infrastructure.Server
import Orderly.Pipeline.Announcements
import Orderly.Publication.Delivery
import Orderly.Publication.Notifications

/-!
# The routines of the server

Each routine keeps the contract of its component, read on what the component
sees.  A batch enqueues nothing but copies of events that it has read.  The
notification worker dispatches nothing but the job it has been handed, and
reports it as completed only after its deliveries have settled.
-/

namespace Orderly

open Process (Faithful Program System)

variable {platform : Platform} {webhooks : WebhookConfig} {outboxMaxRetries : Int} {log : ServerLog}

/-! ## What the components see -/

theorem seen_by_pipeline {call : PipelineCall} {reply : Except JsError call.Reply} {before after : Deployment}
    (admitted : (server platform webhooks outboxMaxRetries).Admits log ⟨.pipeline call, reply, before, after⟩)
    (seen : PipelineLog) : (pipeline platform).Admits seen ⟨call, reply, before.backend, after.backend⟩ ∧
      after = { before with backend := after.backend } := by
  rcases System.admits_iff.mp admitted with ⟨choice, performed⟩
  rcases Prod.ext_iff.mp performed with ⟨replied, rfl⟩
  exact ⟨System.admits_iff.mpr ⟨choice.reply, Prod.ext replied rfl⟩, rfl⟩

theorem pipeline_faithful :
    Faithful pipelineWithin seenByPipeline (server platform webhooks outboxMaxRetries).Admits
      (pipeline platform).Admits := by
  intro log request reply before after admitted
  have same : reply.map (pipelineWithin.answer request) = reply := by
    cases reply <;> rfl
  rw [same]
  exact ⟨before.backend, after.backend, rfl, (seen_by_pipeline admitted _).1⟩

theorem outbox_enqueue (deployment : Deployment) (queueName : String) (data : NotificationJob) (jobId : Uuid) :
    (deployment.enqueue queueName data jobId).outbox = deployment.outbox.addJob queueName jobId := by
  unfold Deployment.enqueue Outbox.addJob
  split
  · rfl
  · simp only [Deployment.outbox, List.map_append, List.map_cons, List.map_nil]

/-- Only `add` gives the queues a job. -/
theorem perform_jobs (platform : Platform) (outbox : Outbox) {call : OutboxCall} (choice : OutboxChoice)
    (other : ∀ queueName name data jobId, call ≠ .add queueName name data jobId) :
    (outbox.perform platform call choice).2.jobs = outbox.jobs := by
  have effect : ∀ locked, (outbox.effect platform call locked).2.jobs = outbox.jobs := by
    intro locked
    cases call with
    | insert id event =>
        simp only [Outbox.effect]
        split <;> rfl
    | markFailed id incrementRetry =>
        simp only [Outbox.effect]
        split <;> rfl
    | resetForRetry id =>
        simp only [Outbox.effect]
        split <;> rfl
    | add queueName name data jobId => exact absurd rfl (other queueName name data jobId)
    | _ => rfl
  cases choice with
  | serve locked => exact effect locked
  | lose error => exact effect []
  | reject error => rfl

theorem performOutbox_other {deployment : Deployment} {call : OutboxCall} (choice : OutboxChoice)
    (other : ∀ queueName name data jobId, call ≠ .add queueName name data jobId) :
    deployment.performOutbox platform call choice =
      ((deployment.outbox.perform platform call choice).1,
        deployment.withOutbox (deployment.outbox.perform platform call choice).2) := by
  cases call with
  | add queueName name data jobId => exact absurd rfl (other queueName name data jobId)
  | _ => rfl

/-- The processors see what their calls do to the outbox. -/
theorem performOutbox_seen (platform : Platform) (deployment : Deployment) (call : OutboxCall) (choice : OutboxChoice) :
    deployment.outbox.perform platform call choice =
      ((deployment.performOutbox platform call choice).1, (deployment.performOutbox platform call choice).2.outbox) := by
  by_cases add : ∃ queueName name data jobId, call = .add queueName name data jobId
  · rcases add with ⟨queueName, name, data, jobId, rfl⟩
    have queued := outbox_enqueue deployment queueName data jobId
    cases choice with
    | serve locked => exact Prod.ext rfl queued.symm
    | lose error => exact Prod.ext rfl queued.symm
    | reject error => rfl
  · have other : ∀ queueName name data jobId, call ≠ .add queueName name data jobId :=
      fun queueName name data jobId same => add ⟨queueName, name, data, jobId, same⟩
    rw [performOutbox_other choice other]
    refine Prod.ext rfl ?_
    have jobs := perform_jobs platform deployment.outbox choice other
    generalize (deployment.outbox.perform platform call choice).2 = outbox at jobs ⊢
    cases outbox
    cases jobs
    rfl

theorem seen_by_processor {call : OutboxCall} {reply : Except JsError call.Reply} {before after : Deployment}
    (admitted : (server platform webhooks outboxMaxRetries).Admits log ⟨.outbox call, reply, before, after⟩)
    (seen : OutboxLog) :
    (publication platform outboxMaxRetries).Admits seen ⟨call, reply, before.outbox, after.outbox⟩ := by
  rcases System.admits_iff.mp admitted with ⟨choice, performed⟩
  replace performed : before.performOutbox platform call choice.outbox = (reply, after) := performed
  refine System.admits_iff.mpr ⟨choice.outbox, ?_⟩
  have same := performOutbox_seen platform before call choice.outbox
  rw [performed] at same
  exact same

theorem processor_faithful :
    Faithful outboxWithin seenByProcessor (server platform webhooks outboxMaxRetries).Admits
      (publication platform outboxMaxRetries).Admits := by
  intro log request reply before after admitted
  have same : reply.map (outboxWithin.answer request) = reply := by
    cases reply <;> rfl
  rw [same]
  exact ⟨before.outbox, after.outbox, rfl, seen_by_processor admitted _⟩

theorem dispatcher_faithful :
    Faithful dispatchWithin seenByDispatcher (server platform webhooks outboxMaxRetries).Admits
      (fun _ _ => True) := by
  intro log request reply before after admitted
  have same : reply.map (dispatchWithin.answer request) = reply := by
    cases reply <;> rfl
  rw [same]
  exact ⟨before, after, rfl, trivial⟩

/-! ## Batches -/

/-- The calls of a batch: it enqueues copies of events that it has read, and inserts none. -/
def Copying (log : OutboxLog) : outboxPorts.Call → Prop
  | .add queueName _ data jobId => ∃ event ∈ snapshots log, OutboxProcessor.queueName event.payload = .ok queueName ∧
      data = OutboxProcessor.jobData event ∧ jobId = event.id
  | .insert _ _ => False
  | .randomUUID => False
  | _ => True

section Batch

variable {log : OutboxLog}

theorem snapshots_later {event : OutboxEvent} (answered : OutboxEventCall) (read : event ∈ snapshots log) :
    event ∈ snapshots (answered :: log) :=
  List.mem_append_right _ read

theorem publish_copies {event : OutboxEvent} (read : event ∈ snapshots log) :
    (OutboxProcessor.publish event).Meets (publication platform outboxMaxRetries).Admits Copying (fun _ _ => True)
      (fun _ _ => True) log := by
  unfold OutboxProcessor.publish
  cases named : OutboxProcessor.queueName event.payload with
  | error error => trivial
  | ok queueName =>
      refine Program.Meets.call_bind trivial (fun _ _ _ _ => trivial) ?_
      intro _ before after _
      refine Program.Meets.call_bind ?_ (fun _ _ _ _ => trivial) ?_
      · exact ⟨event, snapshots_later _ read, named, rfl, rfl⟩
      · intro _ before after _
        refine ⟨trivial, fun reply _ _ _ => ?_⟩
        cases reply <;> trivial

/-- The batch has read all of these events. -/
def ReadAll (events : List OutboxEvent) (log : OutboxLog) : Prop := ∀ event ∈ events, event ∈ snapshots log

theorem processEvents_copies {events : List OutboxEvent} (read : ReadAll events log) :
    (OutboxProcessor.processEvents outboxMaxRetries events).Meets (publication platform outboxMaxRetries).Admits
      Copying (fun _ _ => True) (fun _ _ => True) log := by
  induction events generalizing log with
  | nil => trivial
  | cons event rest inductionHypothesis =>
      have first : (OutboxProcessor.processEvent outboxMaxRetries event).Meets
          (publication platform outboxMaxRetries).Admits Copying (fun _ _ => True) (fun _ _ => True) log := by
        unfold OutboxProcessor.processEvent
        split
        · refine ⟨trivial, fun reply _ _ _ => ?_⟩
          cases reply <;> trivial
        · apply Program.Meets.tryCatch (publish_copies (read event List.mem_cons_self))
          intro error log _
          refine ⟨trivial, fun reply _ _ _ => ?_⟩
          cases reply <;> trivial
      have kept : ReadAll rest log := fun event member => read event (List.mem_cons_of_mem _ member)
      apply Program.Meets.bind
      · refine (first.keeping kept ?_).weaken (fun _ _ returned => returned) fun _ _ _ => trivial
        exact fun log answered _ _ read event member => snapshots_later answered (read event member)
      · intro _ log returned
        exact inductionHypothesis returned.2

theorem processBatch_copies :
    (OutboxProcessor.processBatch outboxMaxRetries).Meets (publication platform outboxMaxRetries).Admits Copying
      (fun _ _ => True) (fun _ _ => True) log := by
  unfold OutboxProcessor.processBatch OutboxRepository.getPending
  refine Program.Meets.call_bind trivial (fun _ _ _ _ => trivial) ?_
  intro events before after _
  apply processEvents_copies
  exact fun event member => List.mem_append_left _ member

end Batch

/-! ## The notification worker -/

abbrev DispatcherLog := Process.Log dispatchPorts JsError Deployment

/-- The subscriptions of an event type have been read. -/
def Selected (eventType : String) (subscriptions : List SubscriptionRow) (log : DispatcherLog) : Prop :=
  ∃ before after, (⟨.selectSubscriptions eventType, .ok subscriptions, before, after⟩ :
    Process.Event dispatchPorts JsError Deployment) ∈ log

/-- What is sent for a job at some time. -/
def NotificationJob.webhookPayload (job : NotificationJob) (timestamp : Date) : WebhookPayload where
  eventType := job.eventType
  aggregateId := job.aggregateId
  payload := job.payload
  timestamp := timestamp

/-- The calls of the dispatcher for a job. -/
def Dispatches (webhooks : WebhookConfig) (job : NotificationJob) (log : DispatcherLog) : dispatchPorts.Call → Prop
  | .selectSubscriptions eventType => eventType = job.eventType
  | .newDate => True
  | .allSettled routines => ∃ subscriptions timestamp, Selected job.eventType subscriptions log ∧
      routines = NotificationOutcomes.routines webhooks subscriptions (job.webhookPayload timestamp)

/-- The job's event type has had no subscription, or the deliveries to all have settled. -/
def Dispatched (webhooks : WebhookConfig) (job : NotificationJob) (log : DispatcherLog) : Prop :=
  ∃ subscriptions, Selected job.eventType subscriptions log ∧ (subscriptions = [] ∨
    ∃ timestamp settled before after, (⟨.allSettled
        (NotificationOutcomes.routines webhooks subscriptions (job.webhookPayload timestamp)), .ok settled, before, after⟩ :
      Process.Event dispatchPorts JsError Deployment) ∈ log)

theorem processor_dispatches {job : NotificationJob} {log : DispatcherLog} :
    (notificationWorkerProcessor webhooks job).Meets (fun _ _ => True) (Dispatches webhooks job)
      (fun _ => Dispatched webhooks job) (fun _ _ => True) log := by
  rw [notificationWorkerProcessor, Program.tryCatch_throw]
  unfold WebhookDispatcher.dispatch
  refine Program.Meets.call_bind rfl (fun _ _ _ _ => trivial) ?_
  intro (subscriptions : List SubscriptionRow) before after _
  have selected : Selected job.eventType subscriptions
      (⟨.selectSubscriptions job.eventType, .ok subscriptions, before, after⟩ :: log) :=
    ⟨before, after, List.mem_cons_self⟩
  split
  · next none => exact ⟨subscriptions, selected, Or.inl (List.length_eq_zero_iff.mp none)⟩
  · refine Program.Meets.call_bind trivial (fun _ _ _ _ => trivial) ?_
    intro timestamp before' after' _
    have later : ∀ event, Selected job.eventType subscriptions
        (event :: ⟨.selectSubscriptions job.eventType, .ok subscriptions, before, after⟩ :: log) :=
      fun event => ⟨before, after, List.mem_cons_of_mem _ List.mem_cons_self⟩
    refine Program.Meets.call_bind ⟨subscriptions, timestamp, later _, rfl⟩ (fun _ _ _ _ => trivial) ?_
    intro settled start final _
    refine ⟨subscriptions, ⟨before, after, List.mem_cons_of_mem _ (List.mem_cons_of_mem _ List.mem_cons_self)⟩, Or.inr ?_⟩
    exact ⟨timestamp, settled, start, final, List.mem_cons_self⟩

/-- The worker has been handed the job. -/
def Handed (jobId : Uuid) (job : NotificationJob) (log : ServerLog) : Prop :=
  ∃ before after, (⟨.webhooks (.moveToActive jobId), .ok (some job), before, after⟩ : ServerEvent) ∈ log

/-- The calls of the notification worker. -/
inductive Notifying (webhooks : WebhookConfig) (jobId : Uuid) (log : ServerLog) : ServerCall → Prop where
  | taking : Notifying webhooks jobId log (.webhooks (.moveToActive jobId))
  | dispatching (call : DispatchCall) (job : NotificationJob) (handed : Handed jobId job log)
      (dispatches : Dispatches webhooks job (dispatcherLog log) call) : Notifying webhooks jobId log (.dispatch call)
  | completing (job : NotificationJob) (handed : Handed jobId job log)
      (dispatched : Dispatched webhooks job (dispatcherLog log)) :
      Notifying webhooks jobId log (.webhooks (.moveToCompleted jobId))
  | failing : Notifying webhooks jobId log (.webhooks (.moveToFailed jobId))

theorem Handed.later {jobId : Uuid} {job : NotificationJob} (handed : Handed jobId job log) (event : ServerEvent) :
    Handed jobId job (event :: log) := by
  rcases handed with ⟨before, after, member⟩
  exact ⟨before, after, List.mem_cons_of_mem _ member⟩

theorem processJob_notifies (jobId : Uuid) :
    (NotificationWorker.processJob webhooks jobId).Meets (server platform webhooks outboxMaxRetries).Admits
      (Notifying webhooks jobId) (fun _ _ => True) (fun _ _ => True) log := by
  unfold NotificationWorker.processJob
  refine Program.Meets.call_bind .taking (fun _ _ _ _ => trivial) ?_
  intro found before after _
  cases found with
  | none => trivial
  | some job =>
      have handed : Handed jobId job (⟨.webhooks (.moveToActive jobId), .ok (some job), before, after⟩ :: log) :=
        ⟨before, after, List.mem_cons_self⟩
      have dispatched : (notificationWorkerProcessor webhooks job).Meets (fun _ _ => True) (Dispatches webhooks job)
          (fun _ => Dispatched webhooks job) (fun _ _ => True)
          (dispatcherLog (⟨.webhooks (.moveToActive jobId), .ok (some job), before, after⟩ :: log)) :=
        processor_dispatches
      have faithful : Faithful dispatchWithin seenByDispatcher (server platform webhooks outboxMaxRetries).Admits
          (fun _ _ => True) := dispatcher_faithful
      have worked := (Program.Meets.along faithful dispatched).guarding handed fun log event _ _ handed => handed.later event
      refine Program.Meets.attempt_bind (Program.Meets.widen ?_ worked) ?_ ?_
      · rintro log call ⟨⟨request, rfl, dispatches⟩, handed⟩
        exact .dispatching request job handed dispatches
      · rintro _ log ⟨dispatched, handed⟩
        refine ⟨.completing job handed dispatched, fun reply _ _ _ => ?_⟩
        cases reply <;> trivial
      · intro error log _
        refine ⟨.failing, fun reply _ _ _ => ?_⟩
        cases reply <;> trivial

/-! ## The contract of each task -/

/-- What a routine has done is among what its task does. -/
def Stands (platform : Platform) : ServerTask → ServerLog → Prop
  | .pipeline task, log => Behaves platform task (pipelineLog log) ∧ Informed task (pipelineLog log)
  | _, _ => True

/-- The calls a task may issue. -/
def Serves (platform : Platform) (webhooks : WebhookConfig) (outboxMaxRetries : Int) :
    ServerTask → ServerLog → ServerCall → Prop
  | .pipeline task, log, call => ∃ request, call = .pipeline request ∧ Issues platform task (pipelineLog log) request
  | .processBatch, log, call => ∃ request, call = .outbox request ∧
      Warranted outboxMaxRetries (processorLog log) request ∧ Copying (processorLog log) request
  | .notificationJob jobId, log, call => Notifying webhooks jobId log call
  | .stalledNotification jobId, _, call => call = .webhooks (.moveStalledJobsToWait jobId)

theorem server_meets (task : ServerTask) :
    (task.program platform webhooks outboxMaxRetries).Meets (server platform webhooks outboxMaxRetries).Admits
      (fun log call => Stands platform task log ∧ Serves platform webhooks outboxMaxRetries task log call)
      (fun _ => Stands platform task) (fun _ => Stands platform task) [] := by
  cases task with
  | pipeline task =>
      have whole := (@stage_meets platform task).both (informed_stage task)
      refine Program.Meets.widen ?_ ((Program.Meets.along pipeline_faithful whole).weaken ?_ ?_)
      · rintro log call ⟨request, rfl, ⟨behaves, issues⟩, informed⟩
        exact ⟨⟨behaves, informed⟩, request, rfl, issues⟩
      · exact fun _ _ returned => ⟨returned.1.1, returned.2⟩
      · exact fun _ _ thrown => ⟨thrown.1.1, thrown.2⟩
  | processBatch =>
      have whole := (@processBatch_meets platform outboxMaxRetries).both processBatch_copies
      have staged : ((OutboxProcessor.processBatch outboxMaxRetries).along outboxWithin).Meets
          (server platform webhooks outboxMaxRetries).Admits
          (fun log call => Stands platform .processBatch log ∧
            Serves platform webhooks outboxMaxRetries .processBatch log call)
          (fun _ _ => True) (fun _ => Stands platform .processBatch) [] := by
        refine Program.Meets.widen ?_ ((Program.Meets.along processor_faithful whole).weaken ?_ ?_)
        · rintro log call ⟨request, rfl, allowed⟩
          exact ⟨trivial, request, rfl, allowed⟩
        · exact fun _ _ _ => trivial
        · exact fun _ _ _ => trivial
      exact Program.Meets.bind staged fun _ _ _ => trivial
  | notificationJob jobId =>
      apply Program.Meets.bind (Program.Meets.widen ?_ (processJob_notifies jobId))
      · exact fun _ _ _ => trivial
      · exact fun log call notifying => ⟨trivial, notifying⟩
  | stalledNotification jobId =>
      refine Program.Meets.call_bind ⟨trivial, rfl⟩ (fun _ _ _ _ => trivial) fun _ _ _ _ => trivial

/-- A routine that keeps its contract. -/
abbrev ServerThread.Keeping (platform : Platform) (webhooks : WebhookConfig) (outboxMaxRetries : Int)
    (thread : ServerThread) : Prop :=
  (server platform webhooks outboxMaxRetries).Keeps
    (fun task log call => Stands platform task log ∧ Serves platform webhooks outboxMaxRetries task log call)
    (fun task _ => Stands platform task) (fun task _ => Stands platform task) thread

theorem ServerThread.Keeping.stands {thread : ServerThread}
    (keeping : thread.Keeping platform webhooks outboxMaxRetries) : Stands platform thread.task thread.log := by
  have ahead := keeping.ahead
  cases code : thread.code with
  | done outcome =>
      rw [code] at ahead
      exact ahead
  | thrown error =>
      rw [code] at ahead
      exact ahead
  | await call resume =>
      rw [code] at ahead
      exact ahead.1.1

theorem reaches_server {Legal : Operating → Process.Move ServerTask ServerChoice → Prop} {start : Deployment}
    {config : Operating} (reached : (server platform webhooks outboxMaxRetries).Reaches Legal { shared := start } config) :
    ∀ thread ∈ config.threads, ServerThread.Keeping platform webhooks outboxMaxRetries thread := by
  apply reached.contract
  · intro thread member
    cases member
  · intro config task _
    exact server_meets task

end Orderly
