import Orderly.Infrastructure.SagaWorker
import Orderly.Ordering.Tables
import Orderly.Fulfilment.OrderRows

/-!
# The stages of the pipeline

The contracts of the routines, read on what each component sees of their logs.
A request that creates orders returns only after it has tried to enqueue, and
the worker reports a job as completed only after its saga has returned.
-/

namespace Orderly

open Process (Embedding Faithful Program System)

/-- The data with which the queue has handed over a job. -/
def takenBy : PipelineEvent → Option SagaContext
  | ⟨.queue (.moveToActive _), .ok context, _, _⟩ => context
  | _ => none

def taken (log : PipelineLog) : Option SagaContext := log.findSome? takenBy

/-- What a routine has done is among what its task does. -/
def Behaves (platform : Platform) : PipelineTask → PipelineLog → Prop
  | .createOrder _, _ => True
  | .sagaJob _, log => ∀ context, taken log = some context → Fulfilling platform context (footprint (portsLog log))
  | .stalled _, _ => True
  | .compensateSaga id, log => Handling platform id (footprint (portsLog log))

/-- The calls of the worker. -/
inductive Working (platform : Platform) (jobId : String) (log : PipelineLog) : PipelineCall → Prop where
  | taking (first : log = []) : Working platform jobId log (.queue (.moveToActive jobId))
  | processing (call : Call) (context : SagaContext) (took : taken log = some context) :
      Working platform jobId log (.ports call)
  | completing (context : SagaContext) (row : SagaInstance) (took : taken log = some context)
      (fulfilled : Fulfilled platform context row (footprint (portsLog log))) :
      Working platform jobId log (.queue (.moveToCompleted jobId))
  | failing (context : SagaContext) (took : taken log = some context) :
      Working platform jobId log (.queue (.moveToFailed jobId))

/-- The calls a task may issue. -/
def Issues (platform : Platform) : PipelineTask → PipelineLog → PipelineCall → Prop
  | .createOrder request, log, call => ∃ request', call = .intake request' ∧ Intends request (intakeLog log) request'
  | .sagaJob jobId, log, call => Working platform jobId log call
  | .stalled jobId, _, call => call = .queue (.moveStalledJobsToWait jobId)
  | .compensateSaga _, _, call => ∃ request, call = .ports request

/-- Only requests that create orders issue calls of order intake. -/
theorem Issues.of_intake {platform : Platform} {task : PipelineTask} {log : PipelineLog} {call : IntakeCall}
    (issued : Issues platform task log (.intake call)) :
    ∃ request, task = .createOrder request ∧ Intends request (intakeLog log) call := by
  cases task with
  | createOrder request =>
      rcases issued with ⟨_, same, intended⟩
      cases same
      exact ⟨request, rfl, intended⟩
  | sagaJob jobId => cases issued
  | stalled jobId => cases issued
  | compensateSaga id =>
      rcases issued with ⟨_, impossible⟩
      cases impossible

/-- A call of the domain layer is part of what some task of that layer does. -/
theorem Issues.of_ports {platform : Platform} {task : PipelineTask} {log : PipelineLog} {call : Call}
    {reply : Except JsError call.Reply} {before after : Backend} (issued : Issues platform task log (.ports call))
    (behaves : Behaves platform task (⟨.ports call, reply, before, after⟩ :: log)) :
    ∃ task : Task, Conduct platform task (footprint (⟨call, reply, before.world, after.world⟩ :: portsLog log)) := by
  cases task with
  | createOrder request =>
      rcases issued with ⟨_, impossible, _⟩
      cases impossible
  | sagaJob jobId =>
      cases issued with
      | processing _ context took => exact ⟨.sagaJob context, behaves context took⟩
  | stalled jobId => cases issued
  | compensateSaga id => exact ⟨.compensateSaga id, behaves⟩

/-- The worker takes its job before anything else. -/
theorem Issues.of_taking {platform : Platform} {task : PipelineTask} {log : PipelineLog} {jobId : String}
    (issued : Issues platform task log (.queue (.moveToActive jobId))) : task = .sagaJob jobId ∧ log = [] := by
  cases task with
  | createOrder request =>
      rcases issued with ⟨_, impossible, _⟩
      cases impossible
  | sagaJob other =>
      cases issued with
      | taking first => exact ⟨rfl, first⟩
  | stalled other => cases issued
  | compensateSaga id =>
      rcases issued with ⟨_, impossible⟩
      cases impossible

/-- Only the worker reports a job as completed, and only after its saga has returned. -/
theorem Issues.of_completing {platform : Platform} {task : PipelineTask} {log : PipelineLog} {jobId : String}
    (issued : Issues platform task log (.queue (.moveToCompleted jobId))) :
    task = .sagaJob jobId ∧ ∃ context row, taken log = some context ∧
      Fulfilled platform context row (footprint (portsLog log)) := by
  cases task with
  | createOrder request =>
      rcases issued with ⟨_, impossible, _⟩
      cases impossible
  | sagaJob other =>
      cases issued with
      | completing context row took fulfilled => exact ⟨rfl, context, row, took, fulfilled⟩
  | stalled other => cases issued
  | compensateSaga id =>
      rcases issued with ⟨_, impossible⟩
      cases impossible

/-- An order's job has been sent to the queue. -/
def Enqueued (log : IntakeLog) : Prop := ∃ event ∈ log, enqueues event = true

/-- What holds where a routine returns. -/
def Ends (platform : Platform) (task : PipelineTask) (log : PipelineLog) : Prop :=
  Behaves platform task log ∧ ∀ request, task = .createOrder request → Enqueued (intakeLog log)

/-- What holds where a routine throws. -/
def Breaks (platform : Platform) (task : PipelineTask) (log : PipelineLog) : Prop :=
  Behaves platform task log ∧ ∀ request, task = .createOrder request → Unconfirmed (intakeLog log)

section Contracts

variable {platform : Platform} {log : PipelineLog}

/-! ## What the components see -/

theorem seen_by_intake {config : ApiConfig} {call : IntakeCall} {reply : Except JsError call.Reply}
    {before after : Backend} (admitted : (pipeline platform).Admits log ⟨.intake call, reply, before, after⟩)
    (seen : IntakeLog) : (api platform config).Admits seen ⟨call, reply, before, after⟩ := by
  rcases System.admits_iff.mp admitted with ⟨choice, performed⟩
  exact System.admits_iff.mpr ⟨choice, performed⟩

theorem seen_by_ports {call : Call} {reply : Except JsError call.Reply} {before after : Backend}
    (admitted : (pipeline platform).Admits log ⟨.ports call, reply, before, after⟩) (seen : CallLog) :
    (orderly platform).Admits seen ⟨call, reply, before.world, after.world⟩ ∧
      after = { before with world := after.world } := by
  rcases System.admits_iff.mp admitted with ⟨choice, performed⟩
  rcases Prod.ext_iff.mp performed with ⟨replied, rfl⟩
  exact ⟨System.admits_iff.mpr ⟨choice, Prod.ext replied rfl⟩, rfl⟩

theorem intake_faithful {config : ApiConfig} :
    Faithful intakeWithin seenByIntake (pipeline platform).Admits (api platform config).Admits := by
  intro log request reply before after admitted
  have same : reply.map (intakeWithin.answer request) = reply := by
    cases reply <;> rfl
  rw [same]
  exact ⟨before, after, rfl, seen_by_intake admitted _⟩

theorem ports_faithful :
    Faithful portsWithin seenByPorts (pipeline platform).Admits
      (fun log event => (orderly platform).Admits log event ∧ True) := by
  intro log request reply before after admitted
  have same : reply.map (portsWithin.answer request) = reply := by
    cases reply <;> rfl
  rw [same]
  exact ⟨before.world, after.world, rfl, (seen_by_ports admitted _).1, trivial⟩

/-! ## The requests -/

/-- A request that has not thrown has tried to enqueue its saga. -/
theorem createOrder_enqueues {config : ApiConfig} {request : CreateOrderRequest} {log : IntakeLog} :
    (OrderService.createOrder request).Meets (api platform config).Admits (fun _ _ => True)
      (fun _ => Enqueued) (fun _ _ => True) log := by
  unfold OrderService.createOrder
  apply Program.Meets.bind (.anything _ _)
  intro id log _
  apply Program.Meets.bind (.anything _ _)
  intro items log _
  apply Program.Meets.bind (.anything _ _)
  intro createdAt log _
  apply Program.Meets.bind (.anything _ _)
  intro updatedAt log _
  apply Program.Meets.bind (.anything _ _)
  intro order log _
  apply Program.Meets.bind (.anything _ _)
  intro _ log _
  have sent : (Intake.SagaEnqueuer.enqueue (OrderService.sagaContext request order)).Meets
      (api platform config).Admits (fun _ _ => True) (fun _ => Enqueued) (fun _ => Enqueued) log := by
    apply Program.Meets.call_bind trivial
    · intro error before after _
      exact ⟨_, List.mem_cons_self, rfl⟩
    · intro value before after _
      exact ⟨_, List.mem_cons_self, rfl⟩
  have caught : (tryCatch (Intake.SagaEnqueuer.enqueue (OrderService.sagaContext request order)) fun _ => do
      return toString (← Intake.uuidv4)).Meets (api platform config).Admits (fun _ _ => True) (fun _ => Enqueued)
      (fun _ _ => True) log := by
    apply Program.Meets.tryCatch sent
    rintro error log ⟨event, member, enqueued⟩
    apply Program.Meets.call_bind trivial
    · exact fun _ _ _ _ => trivial
    · exact fun _ _ _ _ => ⟨event, List.mem_cons_of_mem _ member, enqueued⟩
  apply Program.Meets.bind caught
  intro sagaId log enqueued
  exact enqueued

theorem createOrder_stage (request : CreateOrderRequest) :
    ((PipelineTask.createOrder request).program platform).Meets (pipeline platform).Admits
      (fun log call => Behaves platform (.createOrder request) log ∧ Issues platform (.createOrder request) log call)
      (fun _ => Ends platform (.createOrder request)) (fun _ => Breaks platform (.createOrder request)) [] := by
  have quiet : Quiet [] := by
    intro event member
    cases member
  have created : (OrderService.createOrder request).Meets (api platform plainApi).Admits (Intends request)
      (fun result => Placed request result.order) (fun _ => Unconfirmed) (intakeLog []) :=
    createOrder_meets quiet rfl
  have whole := Program.Meets.along intake_faithful (created.both createOrder_enqueues)
  have staged : ((OrderService.createOrder request).along intakeWithin).Meets (pipeline platform).Admits
      (fun log call => Behaves platform (.createOrder request) log ∧ Issues platform (.createOrder request) log call)
      (fun _ log => Enqueued (intakeLog log)) (fun _ => Breaks platform (.createOrder request)) [] := by
    refine Program.Meets.widen ?_ (whole.weaken ?_ ?_)
    · rintro log call ⟨request', rfl, intended⟩
      exact ⟨trivial, request', rfl, intended.1⟩
    · intro result log returned
      exact returned.2
    · intro error log thrown
      exact ⟨trivial, fun _ _ => thrown.1⟩
  apply Program.Meets.bind staged
  intro result log enqueued
  exact ⟨trivial, fun _ _ => enqueued⟩

/-! ## The worker -/

theorem processing_stage (jobId : String) {context : SagaContext} (took : taken log = some context)
    (first : portsLog log = []) :
    ((processSagaJob platform context).along portsWithin).Meets (pipeline platform).Admits
      (fun log call => Behaves platform (.sagaJob jobId) log ∧ Issues platform (.sagaJob jobId) log call)
      (fun _ log => taken log = some context ∧ ∃ row, Fulfilled platform context row (footprint (portsLog log)))
      (fun _ log => taken log = some context ∧ Fulfilling platform context (footprint (portsLog log))) log := by
  have followed := processSagaJob_follows platform context
  rw [← first] at followed
  have kept : ∀ log event, (∃ request, event.call = .ports request ∧
      Fulfilling platform context (footprint (portsLog log))) → (pipeline platform).Admits log event →
      taken log = some context → taken (event :: log) = some context := by
    rintro log ⟨call, reply, before, after⟩ ⟨request, rfl, _⟩ _ took
    exact took
  have whole := (Program.Meets.along ports_faithful followed).guarding took kept
  refine Program.Meets.widen ?_ (whole.weaken ?_ ?_)
  · rintro log call ⟨⟨request, rfl, conduct⟩, took⟩
    refine ⟨fun other same => ?_, .processing request context took⟩
    cases took.symm.trans same
    exact conduct
  · intro _ log returned
    exact ⟨returned.2, returned.1⟩
  · intro error log thrown
    exact ⟨thrown.2, thrown.1.1⟩

theorem processJob_stage (jobId : String) :
    ((PipelineTask.sagaJob jobId).program platform).Meets (pipeline platform).Admits
      (fun log call => Behaves platform (.sagaJob jobId) log ∧ Issues platform (.sagaJob jobId) log call)
      (fun _ => Ends platform (.sagaJob jobId)) (fun _ => Breaks platform (.sagaJob jobId)) [] := by
  have untaken : ∀ {log : PipelineLog}, taken log = none → Behaves platform (.sagaJob jobId) log := by
    intro log nothing context took
    cases nothing.symm.trans took
  have worked : (SagaWorker.processJob platform jobId).Meets (pipeline platform).Admits
      (fun log call => Behaves platform (.sagaJob jobId) log ∧ Issues platform (.sagaJob jobId) log call)
      (fun _ => Behaves platform (.sagaJob jobId)) (fun _ => Behaves platform (.sagaJob jobId)) [] := by
    unfold SagaWorker.processJob
    apply Program.Meets.call_bind ⟨untaken rfl, .taking rfl⟩
    · intro error before after _
      exact untaken rfl
    · intro found before after _
      cases found with
      | none => exact untaken rfl
      | some context =>
          apply Program.Meets.attempt_bind (processing_stage jobId rfl rfl)
          · rintro _ log ⟨took, row, fulfilled⟩
            have behaves : Behaves platform (.sagaJob jobId) log := by
              intro other same
              cases took.symm.trans same
              exact fulfilled_fulfilling fulfilled
            refine ⟨⟨behaves, .completing context row took fulfilled⟩, fun reply before after _ => ?_⟩
            cases reply with
            | ok value => exact behaves
            | error error => exact behaves
          · rintro error log ⟨took, fulfilling⟩
            have behaves : Behaves platform (.sagaJob jobId) log := by
              intro other same
              cases took.symm.trans same
              exact fulfilling
            refine ⟨⟨behaves, .failing context took⟩, fun reply before after _ => ?_⟩
            cases reply with
            | ok value => exact behaves
            | error error => exact behaves
  apply Program.Meets.bind (worked.weaken (fun _ _ returned => returned) _)
  · intro _ log behaves
    exact ⟨behaves, fun _ same => by cases same⟩
  · intro error log behaves
    exact ⟨behaves, fun _ same => by cases same⟩

/-! ## The other routines -/

theorem stalled_stage (jobId : String) :
    ((PipelineTask.stalled jobId).program platform).Meets (pipeline platform).Admits
      (fun log call => Behaves platform (.stalled jobId) log ∧ Issues platform (.stalled jobId) log call)
      (fun _ => Ends platform (.stalled jobId)) (fun _ => Breaks platform (.stalled jobId)) [] := by
  apply Program.Meets.call_bind ⟨trivial, rfl⟩
  · exact fun _ _ _ _ => ⟨trivial, fun _ same => by cases same⟩
  · exact fun _ _ _ _ => ⟨trivial, fun _ same => by cases same⟩

theorem compensateSaga_stage (id : Uuid) :
    ((PipelineTask.compensateSaga id).program platform).Meets (pipeline platform).Admits
      (fun log call => Behaves platform (.compensateSaga id) log ∧ Issues platform (.compensateSaga id) log call)
      (fun _ => Ends platform (.compensateSaga id)) (fun _ => Breaks platform (.compensateSaga id)) [] := by
  have followed : Follows platform (fun _ => True) (Handling platform id) (fun _ => Handling platform id)
      (Handling platform id) (AdminSagas.compensateSaga platform id) (portsLog []) := compensateSaga_follows platform id
  have staged : ((AdminSagas.compensateSaga platform id).along portsWithin).Meets (pipeline platform).Admits
      (fun log call => Behaves platform (.compensateSaga id) log ∧ Issues platform (.compensateSaga id) log call)
      (fun _ => Behaves platform (.compensateSaga id)) (fun _ => Breaks platform (.compensateSaga id)) [] := by
    refine Program.Meets.widen ?_ ((Program.Meets.along ports_faithful followed).weaken ?_ ?_)
    · rintro log call ⟨request, rfl, handling⟩
      exact ⟨handling, request, rfl⟩
    · intro reply log handling
      exact handling
    · intro error log handling
      exact ⟨handling, fun _ same => by cases same⟩
  apply Program.Meets.bind staged
  intro reply log behaves
  exact ⟨behaves, fun _ same => by cases same⟩

/-- The contract of each task. -/
theorem stage_meets (task : PipelineTask) :
    (task.program platform).Meets (pipeline platform).Admits
      (fun log call => Behaves platform task log ∧ Issues platform task log call)
      (fun _ => Ends platform task) (fun _ => Breaks platform task) [] := by
  cases task with
  | createOrder request => exact createOrder_stage request
  | sagaJob jobId => exact processJob_stage jobId
  | stalled jobId => exact stalled_stage jobId
  | compensateSaga id => exact compensateSaga_stage id

end Contracts

/-- A routine that keeps its contract. -/
abbrev Stage.Keeping (platform : Platform) (stage : Stage) : Prop :=
  (pipeline platform).Keeps (fun task log call => Behaves platform task log ∧ Issues platform task log call)
    (fun task _ => Ends platform task) (fun task _ => Breaks platform task) stage

/-- What a routine has done so far is among what its task does. -/
theorem Stage.Keeping.behaves {platform : Platform} {stage : Stage} (keeping : stage.Keeping platform) :
    Behaves platform stage.task stage.log := by
  have ahead := keeping.ahead
  cases code : stage.code with
  | done outcome =>
      rw [code] at ahead
      exact ahead.1
  | thrown error =>
      rw [code] at ahead
      exact ahead.1
  | await call resume =>
      rw [code] at ahead
      exact ahead.1.1

theorem reaches_stages {platform : Platform} {Legal : Flowing → Process.Move PipelineTask Choice → Prop}
    {start : Backend} {config : Flowing} (reached : (pipeline platform).Reaches Legal { shared := start } config) :
    ∀ stage ∈ config.threads, Stage.Keeping platform stage := by
  apply reached.contract
  · intro stage member
    cases member
  · intro config task _
    exact stage_meets task

end Orderly
