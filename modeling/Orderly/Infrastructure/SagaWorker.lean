import Orderly.Api.Orders
import Orderly.Process.Embedding

/-!
# The saga worker

The queue `saga-execution` stands between the order service, which adds a job
for each order, and the worker, whose processor runs the job's saga.  A job
whose processor returns is completed.  One whose processor throws is tried
again until its attempts are used up, and is then kept as failed.  A job that
stays active after its worker is gone is stalled, and goes back to wait or is
failed.

The pipeline is the whole way of an order: the requests that create orders, the
jobs, and the admin's compensations, over one backend.
-/

namespace Orderly

open Process (Config Embedding Event Log Move Program Signature System Thread)

/-- `attempts: 3`. -/
def sagaAttempts : Nat := 3

namespace SagaJob

/-- A worker takes it. -/
def activated (job : SagaJob) : SagaJob :=
  if job.state = .waiting ∨ job.state = .delayed then { job with state := .active } else job

/-- The processor has returned. -/
def finished (job : SagaJob) : SagaJob := if job.state = .active then { job with state := .completed } else job

/-- The processor has thrown. -/
def retried (job : SagaJob) : SagaJob :=
  if job.state = .active then
    { job with
      state := if job.attemptsMade + 1 < sagaAttempts then .delayed else .failed
      attemptsMade := job.attemptsMade + 1 }
  else job

/-- Its worker no longer renews its lock. -/
def recovered (tooOften : Bool) (job : SagaJob) : SagaJob :=
  if job.state = .active then { job with state := if tooOften then .failed else .waiting } else job

end SagaJob

/-! ## Calls -/

/-- What becomes of a job. -/
inductive QueueCall where
  | moveToActive (jobId : String)
  | moveToCompleted (jobId : String)
  | moveToFailed (jobId : String)
  | moveStalledJobsToWait (jobId : String)

def QueueCall.Reply : QueueCall → Type
  | moveToActive _ => Option SagaContext
  | _ => Unit

/-- The calls of all components. -/
inductive PipelineCall where
  | intake (call : IntakeCall)
  | ports (call : Call)
  | queue (call : QueueCall)

def PipelineCall.Reply : PipelineCall → Type
  | intake call => call.Reply
  | ports call => call.Reply
  | queue call => call.Reply

def pipelineCalls : Signature where
  Call := PipelineCall
  Reply := PipelineCall.Reply

abbrev Pipeline (α : Type) := Program pipelineCalls JsError α

/-- Order intake is a part of the pipeline. -/
def intakeWithin : Embedding intake pipelineCalls where
  call := .intake
  answer _ reply := reply

/-- So is the domain layer. -/
def portsWithin : Embedding ports pipelineCalls where
  call := .ports
  answer _ reply := reply

/-! ## What the queue does -/

namespace Backend

variable (platform : Platform) (backend : Backend)

/-- Change the job with a given id. -/
def changeJob (jobId : String) (change : SagaJob → SagaJob) : Backend :=
  { backend with jobs := backend.jobs.map fun job => if job.id = jobId then change job else job }

/-- The data of a job that waits to be processed. -/
def waitingJob (jobId : String) : Option SagaContext :=
  (backend.jobs.find? fun job => job.id = jobId ∧ (job.state = .waiting ∨ job.state = .delayed)).map SagaJob.data

/-- A call that is carried out.  `refuse` means that a job has stalled too often. -/
def queueEffect : (call : QueueCall) → Choice → Except JsError call.Reply × Backend
  | .moveToActive jobId, _ => (.ok (backend.waitingJob jobId), backend.changeJob jobId SagaJob.activated)
  | .moveToCompleted jobId, _ => (.ok (), backend.changeJob jobId SagaJob.finished)
  | .moveToFailed jobId, _ => (.ok (), backend.changeJob jobId SagaJob.retried)
  | .moveStalledJobsToWait jobId, .refuse => (.ok (), backend.changeJob jobId (SagaJob.recovered true))
  | .moveStalledJobsToWait jobId, _ => (.ok (), backend.changeJob jobId (SagaJob.recovered false))

def performQueue (call : QueueCall) : Choice → Except JsError call.Reply × Backend
  | .reject error => (.error error, backend)
  | .lose error => (.error error, (backend.queueEffect call .serve).2)
  | choice => backend.queueEffect call choice

/-- One call of the pipeline. -/
def performPipeline : (call : PipelineCall) → Choice → Except JsError call.Reply × Backend
  | .intake call, choice => backend.perform platform call choice
  | .ports call, choice =>
      ((backend.world.perform platform call choice).1,
        { backend with world := (backend.world.perform platform call choice).2 })
  | .queue call, choice => backend.performQueue call choice

end Backend

/-! ## The pipeline -/

namespace SagaWorker

def moveToActive (jobId : String) : Pipeline (Option SagaContext) :=
  Program.call (S := pipelineCalls) (.queue (.moveToActive jobId))

def moveToCompleted (jobId : String) : Pipeline Unit :=
  Program.call (S := pipelineCalls) (.queue (.moveToCompleted jobId))

def moveToFailed (jobId : String) : Pipeline Unit :=
  Program.call (S := pipelineCalls) (.queue (.moveToFailed jobId))

/-- Hand a job to the processor and report how that ended. -/
def processJob (platform : Platform) (jobId : String) : Pipeline Unit := do
  match ← moveToActive jobId with
  | none => return ()
  | some context =>
      match ← ((processSagaJob platform context).along portsWithin).attempt with
      | .ok _ => moveToCompleted jobId
      | .error _ => moveToFailed jobId

end SagaWorker

inductive PipelineTask where
  | createOrder (request : CreateOrderRequest)
  | sagaJob (jobId : String)
  | stalled (jobId : String)
  | compensateSaga (id : Uuid)

inductive PipelineOutcome where
  | created (result : CreateOrderResult)
  | reply (reply : AdminSagas.Reply)
  | settled

def PipelineTask.program (platform : Platform) : PipelineTask → Pipeline PipelineOutcome
  | .createOrder request => do return .created (← (OrderService.createOrder request).along intakeWithin)
  | .sagaJob jobId => do
      SagaWorker.processJob platform jobId
      return .settled
  | .stalled jobId => do
      Program.call (S := pipelineCalls) (.queue (.moveStalledJobsToWait jobId))
      return .settled
  | .compensateSaga id => do return .reply (← (AdminSagas.compensateSaga platform id).along portsWithin)

def pipeline (platform : Platform) : System pipelineCalls JsError Backend PipelineTask Choice PipelineOutcome where
  program := PipelineTask.program platform
  perform := Backend.performPipeline platform

/-- A state of the pipeline. -/
abbrev Flowing := Config pipelineCalls JsError Backend PipelineTask PipelineOutcome

/-- One routine of the pipeline. -/
abbrev Stage := Thread pipelineCalls JsError Backend PipelineTask PipelineOutcome

abbrev PipelineEvent := Event pipelineCalls JsError Backend

abbrev PipelineLog := Log pipelineCalls JsError Backend

/-! ## What each component sees -/

/-- Order intake sees its own calls on the backend. -/
def seenByIntake : PipelineEvent → Option IntakeEvent
  | ⟨.intake call, reply, before, after⟩ => some ⟨call, reply, before, after⟩
  | _ => none

/-- The domain layer sees its own calls on the database. -/
def seenByPorts : PipelineEvent → Option CallEvent
  | ⟨.ports call, reply, before, after⟩ => some ⟨call, reply, before.world, after.world⟩
  | _ => none

abbrev intakeLog (log : PipelineLog) : IntakeLog := log.filterMap seenByIntake

abbrev portsLog (log : PipelineLog) : CallLog := log.filterMap seenByPorts

end Orderly
