import Orderly.Pipeline.Stages
import Orderly.Process.Numbering
import Orderly.Ordering.OneOrder

/-!
# What one event of the pipeline does

An order gets its status PENDING from the request that creates it, and every
later change takes it to another status for good.  Only the worker moves a job
to completed, and only order intake adds one.
-/

namespace Orderly

open Process (System)

/-! ## Jobs -/

/-- What a call of the queue does to each job. -/
structure Changes (call : QueueCall) (change : SagaJob → SagaJob) : Prop where
  id : ∀ job, (change job).id = job.id
  data : ∀ job, (change job).data = job.data
  completes : ∀ job, job.state ≠ .completed → (change job).state = .completed → call = .moveToCompleted job.id

section Jobs

variable {platform : Platform} {log : PipelineLog} {before after : Backend} {call : QueueCall}

theorem Changes.at {jobId : String} {change : SagaJob → SagaJob} (id : ∀ job, (change job).id = job.id)
    (data : ∀ job, (change job).data = job.data)
    (completes : ∀ job, job.state ≠ .completed → (change job).state = .completed → call = .moveToCompleted jobId) :
    Changes call fun job => if job.id = jobId then change job else job := by
  constructor
  · intro job
    split
    · exact id job
    · rfl
  · intro job
    split
    · exact data job
    · rfl
  · intro job open_ completed
    split at completed
    · next same =>
        rw [same]
        exact completes job open_ completed
    · exact absurd completed open_

/-- A call of the queue changes jobs one by one, and nothing else. -/
theorem queueEffect_changes (backend : Backend) (call : QueueCall) (choice : Choice) :
    ∃ change, (backend.queueEffect call choice).2 = { backend with jobs := backend.jobs.map change } ∧
      Changes call change := by
  cases call with
  | moveToActive jobId =>
      refine ⟨_, rfl, .at ?_ ?_ ?_⟩
      all_goals
        intro job
        unfold SagaJob.activated
        split
      · rfl
      · rfl
      · rfl
      · rfl
      · intro _ completed
        cases completed
      · exact fun open_ completed => absurd completed open_
  | moveToCompleted jobId =>
      refine ⟨_, rfl, .at ?_ ?_ fun _ _ _ => rfl⟩
      all_goals
        intro job
        unfold SagaJob.finished
        split
      all_goals rfl
  | moveToFailed jobId =>
      refine ⟨_, rfl, .at ?_ ?_ ?_⟩
      all_goals
        intro job
        unfold SagaJob.retried
        split
      · rfl
      · rfl
      · rfl
      · rfl
      · intro _ completed
        change (if job.attemptsMade + 1 < sagaAttempts then JobState.delayed else .failed) = .completed at completed
        split at completed <;> cases completed
      · exact fun open_ completed => absurd completed open_
  | moveStalledJobsToWait jobId =>
      have stalls : ∀ tooOften, Changes (.moveStalledJobsToWait jobId)
          fun job => if job.id = jobId then SagaJob.recovered tooOften job else job := by
        intro tooOften
        refine .at ?_ ?_ ?_
        all_goals
          intro job
          unfold SagaJob.recovered
          split
        · rfl
        · rfl
        · rfl
        · rfl
        · intro _ completed
          change (if tooOften = true then JobState.failed else .waiting) = .completed at completed
          split at completed <;> cases completed
        · exact fun open_ completed => absurd completed open_
      cases choice with
      | refuse => exact ⟨_, rfl, stalls true⟩
      | _ => exact ⟨_, rfl, stalls false⟩

theorem queue_changes {reply : Except JsError call.Reply}
    (admitted : (pipeline platform).Admits log ⟨.queue call, reply, before, after⟩) :
    ∃ change, after = { before with jobs := before.jobs.map change } ∧ Changes call change := by
  rcases System.admits_iff.mp admitted with ⟨choice, performed⟩
  rcases Prod.ext_iff.mp performed with ⟨replied, rfl⟩
  cases choice with
  | reject error =>
      refine ⟨id, ?_, ⟨fun _ => rfl, fun _ => rfl, fun job open_ completed => absurd completed open_⟩⟩
      rw [List.map_id]
      rfl
  | lose error => exact queueEffect_changes before call .serve
  | serve => exact queueEffect_changes before call .serve
  | refuse => exact queueEffect_changes before call .refuse
  | answer result => exact queueEffect_changes before call (.answer result)

/-- The queue hands over the data of a job it knows. -/
theorem taken_known {jobId : String} {context : SagaContext}
    (admitted : (pipeline platform).Admits log ⟨.queue (.moveToActive jobId), .ok (some context), before, after⟩) :
    ∃ job ∈ before.jobs, job.id = jobId ∧ job.data = context := by
  rcases System.admits_iff.mp admitted with ⟨choice, performed⟩
  have found : before.waitingJob jobId = some context := by
    have replied := (Prod.ext_iff.mp performed).1
    cases choice with
    | reject error => cases replied
    | lose error => cases replied
    | _ => exact Except.ok.inj replied
  rcases Option.map_eq_some_iff.mp found with ⟨job, search, rfl⟩
  have chosen := List.find?_some search
  simp only [decide_eq_true_eq] at chosen
  exact ⟨job, List.mem_of_find?_eq_some search, chosen.1, rfl⟩

end Jobs

/-! ## Statuses -/

section Statuses

variable {platform : Platform} {before after : World}

/-- The order's status has been decided. -/
def Decided (world : World) (id : Uuid) : Prop := ∃ status, orderStatus world id = some status ∧ status ≠ .pending

theorem orderStatus_rows (same : after.db.orders.rows = before.db.orders.rows) (id : Uuid) :
    orderStatus after id = orderStatus before id := by
  unfold orderStatus Store.Table.lookup
  rw [same]

theorem orderStatus_appended {row : OrderRow} (added : after.db.orders.rows = before.db.orders.rows ++ [row]) (id : Uuid) :
    orderStatus after id = (orderStatus before id).or (if row.id = id then some row.status else none) := by
  unfold orderStatus Store.Table.lookup
  rw [added, List.find?_append, List.find?_singleton]
  cases before.db.orders.rows.find? fun row => row.id = id with
  | some old => rfl
  | none =>
      by_cases named : row.id = id
      · simp [named]
      · simp [named]

theorem orderStatus_of_mem {row : OrderRow} (member : row ∈ before.db.orders.rows) :
    orderStatus before row.id = some row.status := by
  unfold orderStatus
  rw [Store.Table.lookup_of_mem member]
  rfl

/-- How an event of a routine can change the status of an order. -/
inductive StatusStep (platform : Platform) (stage : Stage) (event : PipelineEvent) (id : Uuid) : Prop where
  | same (kept : orderStatus event.after.world id = orderStatus event.before.world id)
  | created (request : CreateOrderRequest) (order : Order) (eventId : Uuid) (task : stage.task = .createOrder request)
      (quiet : Quiet (intakeLog stage.log)) (drawn : orderId (intakeLog stage.log) = some id)
      (called : event.call = .intake (.commit (orderTransaction request order eventId)))
      (done : Backend.commit platform event.before (orderTransaction request order eventId) = .ok event.after)
      (absent : orderStatus event.before.world id = none)
  | decided (present : (orderStatus event.before.world id).isSome) (now : Decided event.after.world id)

/-- The transactions of the domain layer decide an order's status. -/
theorem OrderTransaction.decides {context : SagaContext} {transaction : Transaction} {id : Uuid} {status : OrderStatus}
    (shape : OrderTransaction context transaction) (outcome : transaction.outcome = some (id, status)) :
    status ≠ .pending := by
  cases shape with
  | confirmation transactionId eventId =>
      cases outcome
      exact fun same => by cases same
  | cancellation eventId =>
      cases outcome
      exact fun same => by cases same

variable {stage : Stage} {event : PipelineEvent} {id : Uuid}

theorem StatusStep.persists (step : StatusStep platform stage event id)
    (present : (orderStatus event.before.world id).isSome) : (orderStatus event.after.world id).isSome := by
  cases step with
  | same kept =>
      rw [kept]
      exact present
  | created request order eventId task quiet drawn called done absent =>
      rw [absent] at present
      cases present
  | decided _ now =>
      rcases now with ⟨status, now, _⟩
      rw [now]
      rfl

theorem StatusStep.final (step : StatusStep platform stage event id) (decided : Decided event.before.world id) :
    Decided event.after.world id := by
  cases step with
  | same kept =>
      unfold Decided
      rw [kept]
      exact decided
  | created request order eventId task quiet drawn called done absent =>
      rcases decided with ⟨status, known, _⟩
      cases absent.symm.trans known
  | decided _ now => exact now

theorem statusStep (issued : Issues platform stage.task stage.log event.call)
    (behaves : Behaves platform stage.task (event :: stage.log)) (admitted : (pipeline platform).Admits stage.log event)
    (id : Uuid) : StatusStep platform stage event id := by
  rcases event with ⟨call, reply, before, after⟩
  rcases stage with ⟨task, code, log, stopped⟩
  cases call with
  | intake call =>
      have admitted' : (api platform plainApi).Admits (intakeLog log) ⟨call, reply, before, after⟩ :=
        seen_by_intake admitted _
      cases intake_admits admitted' with
      | committed transaction called done =>
          cases called
          rcases issued.of_intake with ⟨request, rfl, quiet, order, eventId, _, drawn, rfl⟩
          have appended := orderStatus_appended (commit_adds done).1.orders id
          cases known : orderStatus before.world id with
          | some status =>
              refine .same (appended.trans ?_)
              change (orderStatus before.world id).or _ = orderStatus before.world id
              rw [known]
              rfl
          | none =>
              by_cases named : order.id = id
              · subst named
                exact .created request order eventId rfl quiet drawn rfl done known
              · refine .same (appended.trans ?_)
                change (orderStatus before.world id).or (if order.id = id then _ else none) = _
                rw [known, if_neg named]
                rfl
      | queued jobId data called done =>
          replace done : after = before.addJob jobId data := done
          refine .same (orderStatus_rows ?_ id)
          change after.world.db.orders.rows = _
          rw [done]
          exact (addJob_tables before jobId data).1
      | aside same _ => exact .same (orderStatus_rows same.orders id)
  | ports call =>
      have admitted' := (seen_by_ports admitted []).1
      rcases issued.of_ports behaves with ⟨task, conduct⟩
      cases orderChange admitted' conduct id with
      | unchanged same => exact .same same
      | committed context transaction status called shape outcome takes present now =>
          exact .decided present ⟨status, now, shape.decides outcome⟩
  | queue call =>
      rcases queue_changes admitted with ⟨change, same, _⟩
      refine .same ?_
      change orderStatus after.world id = orderStatus before.world id
      rw [same]

end Statuses

/-! ## Identifiers -/

section Identifiers

variable {platform : Platform} {log : PipelineLog} {event : PipelineEvent}

theorem World.settle_supply {α : Type} (world : World) (result : Except JsError (α × Database)) :
    (world.settle result).2.nextUuid = world.nextUuid := by
  cases result with
  | error error => rfl
  | ok answer => rfl

/-- The supply of identifiers never goes back. -/
theorem World.supply_grows {before after : World} {choice : Choice} {call : Call} {reply : Except JsError call.Reply}
    (performed : before.perform platform call choice = (reply, after)) : before.nextUuid ≤ after.nextUuid := by
  rcases World.perform_cases performed with ⟨rfl, _⟩ | ⟨served, rfl, _⟩
  · exact Nat.le_refl _
  · cases call with
    | createSaga saga => exact (World.settle_supply before _).ge
    | createStep step => exact (World.settle_supply before _).ge
    | reserve sku quantity => exact (World.settle_supply before _).ge
    | release sku quantity => exact (World.settle_supply before _).ge
    | commit transaction =>
        simp only [World.effect]
        split
        · exact Nat.le_refl _
        · exact Nat.le_refl _
    | acquire resourceId ttlMs => cases served <;> first | exact Nat.le_refl _ | exact Nat.le_succ _
    | breakerAdmits => cases served <;> exact Nat.le_refl _
    | uuidv4 => exact Nat.le_succ _
    | charge orderId amount token => exact Nat.le_succ _
    | refund transactionId amount => exact Nat.le_succ _
    | _ => exact Nat.le_refl _

/-- Each request draws the id of its order itself. -/
theorem pipeline_draws (admitted : (pipeline platform).Admits log event) :
    System.Draws (fun log => orderId (intakeLog log)) (fun backend => backend.world.nextUuid) log event := by
  rcases event with ⟨call, reply, before, after⟩
  cases call with
  | intake call =>
      have seen : (api platform plainApi).Admits (intakeLog log) ⟨call, reply, before, after⟩ :=
        seen_by_intake admitted _
      have supply := supply_admits seen
      refine ⟨supply.le, fun id drawn => ?_⟩
      rcases orderId_next_cons supply drawn with known | ⟨_, next, below⟩
      · exact Or.inl known
      · exact Or.inr ⟨next, below⟩
  | ports call =>
      rcases System.admits_iff.mp (seen_by_ports admitted []).1 with ⟨choice, performed⟩
      exact ⟨World.supply_grows performed, fun id drawn => Or.inl drawn⟩
  | queue call =>
      rcases queue_changes admitted with ⟨change, rfl, _⟩
      exact ⟨Nat.le_refl _, fun id drawn => Or.inl drawn⟩

/-- Where a job of the queue comes from. -/
inductive JobStep (stage : Stage) (event : PipelineEvent) (job : SagaJob) : Prop where
  | known (old : SagaJob) (member : old ∈ event.before.jobs) (id : job.id = old.id) (data : job.data = old.data)
  | enqueued (request : CreateOrderRequest) (order : Order) (drawn : orderId (intakeLog stage.log) = some order.id)
      (confirmed : Confirmed request order (intakeLog stage.log))
      (same : job = { id := Intake.SagaEnqueuer.jobId order.id, data := OrderService.sagaContext request order })
      (called : ∃ jobId data, event.call = .intake (.addJob jobId data))

theorem jobStep {stage : Stage} (issued : Issues platform stage.task stage.log event.call)
    (admitted : (pipeline platform).Admits stage.log event) {job : SagaJob} (member : job ∈ event.after.jobs) :
    JobStep stage event job := by
  rcases event with ⟨call, reply, before, after⟩
  rcases stage with ⟨task, code, log, stopped⟩
  cases call with
  | intake call =>
      have admitted' : (api platform plainApi).Admits (intakeLog log) ⟨call, reply, before, after⟩ :=
        seen_by_intake admitted _
      rcases issued.of_intake with ⟨request, rfl, intended⟩
      have same : ∀ jobs, jobs = before.jobs → job ∈ jobs → JobStep ⟨.createOrder request, code, log, stopped⟩
          ⟨.intake call, reply, before, after⟩ job := by
        rintro jobs rfl known
        exact .known job known rfl rfl
      cases intake_admits admitted' with
      | committed transaction called done =>
          cases called
          rcases intended with ⟨_, order, eventId, _, _, rfl⟩
          exact same _ (commit_adds done).2 member
      | queued jobId data called done =>
          cases called
          rcases intended with ⟨_, order, _, drawn, confirmed, rfl, rfl⟩
          replace done : after =
              before.addJob (Intake.SagaEnqueuer.jobId order.id) (OrderService.sagaContext request order) :=
            done
          subst done
          rcases addJob_jobs before (Intake.SagaEnqueuer.jobId order.id) (OrderService.sagaContext request order) with
            unchanged | added
          · exact same _ unchanged member
          · change job ∈ (before.addJob _ _).jobs at member
            rw [added] at member
            rcases List.mem_append.mp member with old | new
            · exact .known job old rfl rfl
            · exact .enqueued request order drawn confirmed (List.mem_singleton.mp new) ⟨_, _, rfl⟩
      | aside unchanged _ => exact same _ unchanged.jobs member
  | ports call =>
      replace member : job ∈ after.jobs := member
      rw [(seen_by_ports admitted []).2] at member
      exact .known job member rfl rfl
  | queue call =>
      rcases queue_changes admitted with ⟨change, rfl, changes⟩
      rcases List.mem_map.mp member with ⟨old, known, rfl⟩
      exact .known old known (changes.id old) (changes.data old)

end Identifiers

end Orderly
