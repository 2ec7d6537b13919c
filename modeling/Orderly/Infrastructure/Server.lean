import Orderly.Events.OutboxProcessor
import Orderly.Events.WebhookDispatcher
import Orderly.Infrastructure.SagaWorker
import Orderly.Process.Component

/-!
# The server

One process runs the API, the saga worker, the outbox processor and the
notification worker, and any number of such processes share the database and
the queues.  The pipeline writes the events of the outbox, a batch turns them
into jobs of the target queues, and the notification worker takes those of
`webhook-delivery` and dispatches them.  Here all of these are routines of one
system.

The deliveries of a dispatch write nothing but `webhook_deliveries`, which
nobody reads, and so the environment says how they settle.
-/

namespace Orderly

open Process (Config Embedding Event Log Move Program Signature System Thread)

/-- `defaultJobOptions.attempts`. -/
def notificationAttempts : Nat := 5

/-- A job of a target queue. -/
structure TargetJob where
  queueName : String
  id : Uuid
  data : NotificationJob
  state : JobState := .waiting
  attemptsMade : Nat := 0

namespace TargetJob

/-- A worker takes it. -/
def activated (job : TargetJob) : TargetJob :=
  if job.state = .waiting ∨ job.state = .delayed then { job with state := .active } else job

/-- The processor has returned. -/
def finished (job : TargetJob) : TargetJob := if job.state = .active then { job with state := .completed } else job

/-- The processor has thrown. -/
def retried (job : TargetJob) : TargetJob :=
  if job.state = .active then
    { job with
      state := if job.attemptsMade + 1 < notificationAttempts then .delayed else .failed
      attemptsMade := job.attemptsMade + 1 }
  else job

/-- Its worker no longer renews its lock. -/
def recovered (tooOften : Bool) (job : TargetJob) : TargetJob :=
  if job.state = .active then { job with state := if tooOften then .failed else .waiting } else job

end TargetJob

/-- A row of `webhook_subscriptions`. -/
structure Subscription extends SubscriptionRow where
  active : Bool

/-- What all processes share. -/
structure Deployment where
  backend : Backend
  queued : List TargetJob := []
  subscriptions : List Subscription := []

/-! ## Calls -/

/-- What becomes of a job of the queue `webhook-delivery`. -/
inductive WebhookQueueCall where
  | moveToActive (jobId : Uuid)
  | moveToCompleted (jobId : Uuid)
  | moveToFailed (jobId : Uuid)
  | moveStalledJobsToWait (jobId : Uuid)

def WebhookQueueCall.Reply : WebhookQueueCall → Type
  | moveToActive _ => Option NotificationJob
  | _ => Unit

/-- The calls of all components. -/
inductive ServerCall where
  | pipeline (call : PipelineCall)
  | outbox (call : OutboxCall)
  | webhooks (call : WebhookQueueCall)
  | dispatch (call : DispatchCall)

def ServerCall.Reply : ServerCall → Type
  | pipeline call => call.Reply
  | outbox call => call.Reply
  | webhooks call => call.Reply
  | dispatch call => call.Reply

def serverCalls : Signature where
  Call := ServerCall
  Reply := ServerCall.Reply

abbrev Server (α : Type) := Program serverCalls JsError α

def pipelineWithin : Embedding pipelineCalls serverCalls where
  call := .pipeline
  answer _ reply := reply

def outboxWithin : Embedding outboxPorts serverCalls where
  call := .outbox
  answer _ reply := reply

def dispatchWithin : Embedding dispatchPorts serverCalls where
  call := .dispatch
  answer _ reply := reply

/-- What the environment decides about one call. -/
structure ServerChoice where
  reply : Choice := .serve
  outbox : OutboxChoice := .serve []
  /-- completed jobs that `removeOnComplete` removes -/
  removed : List Uuid := []
  /-- how the deliveries of a dispatch settle -/
  settled : Nat → Except JsError Unit := fun _ => .ok ()

/-! ## What the calls do -/

namespace Deployment

variable (platform : Platform) (deployment : Deployment)

/-- The part of the deployment that the outbox processors work on. -/
def outbox : Outbox where
  events := deployment.backend.world.db.outbox
  jobs := deployment.queued.map fun job => (job.queueName, job.id)
  nextUuid := deployment.backend.world.nextUuid
  clock := deployment.backend.world.clock

/-- The deployment with what a call has made of the table. -/
def withOutbox (outbox : Outbox) : Deployment :=
  { deployment with
    backend.world.db.outbox := outbox.events
    backend.world.nextUuid := outbox.nextUuid
    backend.world.clock := outbox.clock }

/-- A job with the id of a known one is not added again. -/
def enqueue (queueName : String) (data : NotificationJob) (jobId : Uuid) : Deployment :=
  if (queueName, jobId) ∈ deployment.outbox.jobs then deployment
  else { deployment with queued := deployment.queued ++ [{ queueName, id := jobId, data }] }

/-- A call of the outbox processor. -/
def performOutbox : (call : OutboxCall) → OutboxChoice → Except JsError call.Reply × Deployment
  | .add queueName _ data jobId, .serve _ => (.ok (), deployment.enqueue queueName data jobId)
  | .add queueName _ data jobId, .lose error => (.error error, deployment.enqueue queueName data jobId)
  | .add _ _ _ _, .reject error => (.error error, deployment)
  | call, choice =>
      ((deployment.outbox.perform platform call choice).1,
        deployment.withOutbox (deployment.outbox.perform platform call choice).2)

/-- Change the job with a given id. -/
def changeQueued (jobId : Uuid) (change : TargetJob → TargetJob) : Deployment :=
  { deployment with
    queued := deployment.queued.map fun job =>
      if job.queueName = "webhook-delivery" ∧ job.id = jobId then change job else job }

/-- The data of a job that waits to be processed. -/
def waitingNotification (jobId : Uuid) : Option NotificationJob :=
  (deployment.queued.find? fun job =>
    job.queueName = "webhook-delivery" ∧ job.id = jobId ∧ (job.state = .waiting ∨ job.state = .delayed)).map
      TargetJob.data

/-- Completed jobs are removed some time. -/
def remove (removed : List Uuid) : Deployment :=
  { deployment with queued := deployment.queued.filter fun job => ¬(job.state = .completed ∧ job.id ∈ removed) }

/-- A call that is carried out.  `refuse` means that a job has stalled too often. -/
def webhookEffect : (call : WebhookQueueCall) → Choice → List Uuid → Except JsError call.Reply × Deployment
  | .moveToActive jobId, _, _ => (.ok (deployment.waitingNotification jobId), deployment.changeQueued jobId TargetJob.activated)
  | .moveToCompleted jobId, _, removed => (.ok (), (deployment.changeQueued jobId TargetJob.finished).remove removed)
  | .moveToFailed jobId, _, _ => (.ok (), deployment.changeQueued jobId TargetJob.retried)
  | .moveStalledJobsToWait jobId, .refuse, _ => (.ok (), deployment.changeQueued jobId (TargetJob.recovered true))
  | .moveStalledJobsToWait jobId, _, _ => (.ok (), deployment.changeQueued jobId (TargetJob.recovered false))

def performWebhooks (call : WebhookQueueCall) (removed : List Uuid) : Choice → Except JsError call.Reply × Deployment
  | .reject error => (.error error, deployment)
  | .lose error => (.error error, (deployment.webhookEffect call .serve removed).2)
  | choice => deployment.webhookEffect call choice removed

/-- `WHERE active = true AND … = ANY(event_types)`. -/
def selectSubscriptions (eventType : String) : List SubscriptionRow :=
  (deployment.subscriptions.filter fun sub => sub.active ∧ eventType ∈ sub.eventTypes).map
    Subscription.toSubscriptionRow

/-- A call of the dispatcher. -/
def performDispatch : (call : DispatchCall) → ServerChoice → Except JsError call.Reply × Deployment
  | .selectSubscriptions eventType, choice =>
      match choice.reply with
      | .reject error => (.error error, deployment)
      | .lose error => (.error error, deployment)
      | _ => (.ok (deployment.selectSubscriptions eventType), deployment)
  | .newDate, _ => (.ok deployment.backend.world.clock, deployment)
  | .allSettled routines, choice => (.ok ((List.range routines.length).map choice.settled), deployment)

/-- One call of the server. -/
def perform : (call : ServerCall) → ServerChoice → Except JsError call.Reply × Deployment
  | .pipeline call, choice =>
      ((deployment.backend.performPipeline platform call choice.reply).1,
        { deployment with backend := (deployment.backend.performPipeline platform call choice.reply).2 })
  | .outbox call, choice => deployment.performOutbox platform call choice.outbox
  | .webhooks call, choice => deployment.performWebhooks call choice.removed choice.reply
  | .dispatch call, choice => deployment.performDispatch call choice

end Deployment

/-! ## The routines -/

namespace NotificationWorker

def moveToActive (jobId : Uuid) : Server (Option NotificationJob) :=
  Program.call (S := serverCalls) (.webhooks (.moveToActive jobId))

def moveToCompleted (jobId : Uuid) : Server Unit := Program.call (S := serverCalls) (.webhooks (.moveToCompleted jobId))

def moveToFailed (jobId : Uuid) : Server Unit := Program.call (S := serverCalls) (.webhooks (.moveToFailed jobId))

/-- Hand a job to the processor and report how that ended. -/
def processJob (webhooks : WebhookConfig) (jobId : Uuid) : Server Unit := do
  match ← moveToActive jobId with
  | none => return ()
  | some job =>
      match ← ((notificationWorkerProcessor webhooks job).along dispatchWithin).attempt with
      | .ok _ => moveToCompleted jobId
      | .error _ => moveToFailed jobId

end NotificationWorker

inductive ServerTask where
  | pipeline (task : PipelineTask)
  | processBatch
  | notificationJob (jobId : Uuid)
  | stalledNotification (jobId : Uuid)

/-- What the server does with a task, under its configuration. -/
def ServerTask.program (platform : Platform) (webhooks : WebhookConfig) (outboxMaxRetries : Int) :
    ServerTask → Server PipelineOutcome
  | .pipeline task => (task.program platform).along pipelineWithin
  | .processBatch => do
      (OutboxProcessor.processBatch outboxMaxRetries).along outboxWithin
      return .settled
  | .notificationJob jobId => do
      NotificationWorker.processJob webhooks jobId
      return .settled
  | .stalledNotification jobId => do
      Program.call (S := serverCalls) (.webhooks (.moveStalledJobsToWait jobId))
      return .settled

def server (platform : Platform) (webhooks : WebhookConfig) (outboxMaxRetries : Int) :
    System serverCalls JsError Deployment ServerTask ServerChoice PipelineOutcome where
  program := ServerTask.program platform webhooks outboxMaxRetries
  perform := Deployment.perform platform

/-- A state of the server. -/
abbrev Operating := Config serverCalls JsError Deployment ServerTask PipelineOutcome

/-- One routine of the server. -/
abbrev ServerThread := Thread serverCalls JsError Deployment ServerTask PipelineOutcome

abbrev ServerEvent := Event serverCalls JsError Deployment

abbrev ServerLog := Log serverCalls JsError Deployment

/-! ## What each component sees -/

/-- The pipeline sees its own calls on the backend. -/
def seenByPipeline : ServerEvent → Option PipelineEvent
  | ⟨.pipeline call, reply, before, after⟩ => some ⟨call, reply, before.backend, after.backend⟩
  | _ => none

/-- The outbox processor sees its own calls on the outbox. -/
def seenByProcessor : ServerEvent → Option OutboxEventCall
  | ⟨.outbox call, reply, before, after⟩ => some ⟨call, reply, before.outbox, after.outbox⟩
  | _ => none

/-- The dispatcher sees its own calls. -/
def seenByDispatcher : ServerEvent → Option (Event dispatchPorts JsError Deployment)
  | ⟨.dispatch call, reply, before, after⟩ => some ⟨call, reply, before, after⟩
  | _ => none

abbrev pipelineLog (log : ServerLog) : PipelineLog := log.filterMap seenByPipeline

abbrev processorLog (log : ServerLog) : OutboxLog := log.filterMap seenByProcessor

abbrev dispatcherLog (log : ServerLog) : Log dispatchPorts JsError Deployment := log.filterMap seenByDispatcher

/-- What a task is to the pipeline: a task of another component is none of its own. -/
def pipelineTask : ServerTask → PipelineTask
  | .pipeline task => task
  | _ => .stalled ""

/-- A routine of the server as one of the pipeline. -/
abbrev stageOf (thread : ServerThread) : Stage := thread.seen seenByPipeline pipelineTask (.done .settled)

/-- The pipeline that is part of a server. -/
abbrev flowOf (config : Operating) : Flowing :=
  config.seen Deployment.backend seenByPipeline pipelineTask (.done .settled)

end Orderly
