import Orderly.Domain.DecimalTexts
import Orderly.Pipeline.Steps
import Orderly.Fulfilment.Finality

/-!
# Every order is accounted for

An order that is still PENDING is waited for by somebody: the request that
creates it, its job, or its saga.  Two hand-overs can break the chain.  The
order service drops an order when it fails or stops between the commit and the
enqueue, and leaves it to a recovery that does not exist.  A compensation marks
its saga FAILED although the transaction that cancels the order has failed, and
the worker then completes the job.  Where neither happens, no order is lost.
-/

namespace Orderly

open Process (Move System)

/-! ## The hand-overs -/

/-- An order has been committed, and its job has not been sent. -/
def placing (log : IntakeLog) : Bool := log.any confirms && !log.any enqueues

/-- The call hands the order on, or keeps it. -/
def delivers (platform : Platform) (backend : Backend) : PipelineCall → Choice → Bool
  | .intake (.commit transaction), .lose _ => !(Backend.commit platform backend transaction).isOk
  | .intake (.addJob _ _), .reject _ => false
  | .ports (.updateSaga _), .reject _ => true
  | .ports (.updateSaga row), _ =>
      row.status ≠ .failed || orderStatus backend.world row.orderId ≠ some .pending
  | _, _ => true

/-- No order is dropped by this move. -/
def handsOver (platform : Platform) (config : Flowing) : Move PipelineTask Choice → Bool
  | .start _ => true
  | .stop index =>
      match config.threads[index]? with
      | some stage => !placing (intakeLog stage.log)
      | none => true
  | .advance index choice =>
      match config.threads[index]? with
      | some stage =>
          match stage.code with
          | .await call _ => delivers platform config.shared call choice
          | _ => true
      | none => true

/-- Somebody is to deal with the order. -/
inductive AccountedFor (config : Flowing) (id : Uuid) : Prop where
  | creating (stage : Stage) (member : stage ∈ config.threads) (request : CreateOrderRequest)
      (task : stage.task = .createOrder request) (live : stage.stopped = false) (ongoing : stage.code.finished = false)
      (drawn : orderId (intakeLog stage.log) = some id)
  | queued (job : SagaJob) (member : job ∈ config.shared.jobs) (about : job.data.orderId = id)
      (kept : job.state ≠ .completed)
  | running (saga : SagaInstance) (now : Date) (olderThanMinutes : Nat)
      (reported : saga ∈ config.shared.world.db.findRunningSagas now olderThanMinutes) (about : saga.orderId = id)

/-- Every pending order is accounted for, wherever a run has got. -/
def NoneStranded (Legal : Flowing → Move PipelineTask Choice → Prop) (platform : Platform) (start : Backend) : Prop :=
  ∀ config, (pipeline platform).Reaches Legal { shared := start } config →
    ∀ row ∈ config.shared.world.db.orders.rows, row.status = .pending → AccountedFor config row.id

/-- A job is that of an order which has been created. -/
structure SagaJob.Known (backend : Backend) (job : SagaJob) : Prop where
  named : job.id = Intake.SagaEnqueuer.jobId job.data.orderId
  drawn : job.data.orderId < backend.world.nextUuid
  present : (orderStatus backend.world job.data.orderId).isSome

/-- Jobs belong to orders, and pending orders have jobs. -/
structure Consistent (backend : Backend) : Prop where
  jobs : ∀ job ∈ backend.jobs, job.Known backend
  covered : ∀ id, orderStatus backend.world id = some .pending →
    ∃ job ∈ backend.jobs, job.data.orderId = id ∧ job.state ≠ .completed

/-! ## What a saga that returns has settled -/

/-- The order has been confirmed, or its saga marked FAILED. -/
def Footprint.Concludes (done : Footprint) (id : Uuid) : Prop :=
  (∃ transaction ∈ done.commits, ∃ status, transaction.outcome = some (id, status)) ∨
    ∃ row ∈ done.updated, row.status = .failed ∧ row.orderId = id

section Conclusions

variable {platform : Platform} {event : CallEvent} {context : SagaContext} {row : SagaInstance} {done : Footprint}

theorem fulfilled_concludes (fulfilled : Fulfilled platform context row done) : done.Concludes context.orderId := by
  cases fulfilled with
  | completed new money same => exact Or.inl ⟨_, List.mem_singleton_self _, _, rfl⟩
  | failed new called answered compensated =>
      rcases compensated with ⟨failed, steps, undone, undoing, written, rfl⟩
      rcases new with ⟨id, now, rfl⟩
      refine Or.inr ⟨row, ?_, failed, ?_⟩
      · refine List.mem_append_right _ (List.mem_append_right _ ?_)
        rw [written]
        exact List.mem_singleton_self row
      · cases undoing with
        | refunding => cases written
        | releasing => cases written
        | cancelling => cases written
        | failing now _ _ _ _ _ prefix_ =>
            cases written
            rw [List.mem_singleton.mp (prefix_.subset (List.mem_singleton_self row))]
            rfl

/-- Only an answered commit leaves a committed transaction. -/
theorem commits_event {transaction : Transaction} (member : transaction ∈ (eventFootprint event).commits) :
    ∃ before after, event = ⟨.commit transaction, .ok (), before, after⟩ := by
  rcases event with ⟨call, reply, before, after⟩
  cases call with
  | commit other =>
      cases reply with
      | ok value =>
          cases List.mem_singleton.mp member
          exact ⟨before, after, rfl⟩
      | error error => cases member
  | reserve sku quantity => rcases reply with error | (_ | _) <;> cases member
  | release sku quantity => rcases reply with error | (_ | _) <;> cases member
  | _ =>
      exfalso
      revert member
      cases reply <;> simp only [eventFootprint, setbackOf] <;> (repeat' split) <;> simp

end Conclusions

/-! ## One move -/

section Moves

variable {platform : Platform} {stage : Stage} {event : PipelineEvent} {choice : Choice}

/-- A confirmed commit has written the order. -/
theorem confirmed_present {request : CreateOrderRequest} {order : Order} {eventId : Uuid} {log : PipelineLog}
    {before after : Backend}
    (admitted : (pipeline platform).Admits log
      ⟨.intake (.commit (orderTransaction request order eventId)), .ok (), before, after⟩) :
    (orderStatus after.world order.id).isSome := by
  have admitted' : (api platform plainApi).Admits (intakeLog log)
      ⟨.commit (orderTransaction request order eventId), .ok (), before, after⟩ := seen_by_intake admitted _
  cases intake_admits admitted' with
  | committed transaction called done =>
      cases called
      have appended := orderStatus_appended (commit_adds done).1.orders order.id
      change (orderStatus after.world order.id).isSome
      rw [appended]
      change ((orderStatus before.world order.id).or (if order.id = order.id then some order.status else none)).isSome
      rw [if_pos rfl, Option.isSome_or]
      exact Bool.or_true _
  | queued jobId data called done => cases called
  | aside same unconfirmed => cases unconfirmed

/-- A confirmation decides the status of an order that exists. -/
theorem commits_decides {transaction : Transaction} {before after : World} {task : Task} {log : CallLog} {id : Uuid}
    {status : OrderStatus} (admitted : (orderly platform).Admits [] ⟨.commit transaction, .ok (), before, after⟩)
    (conduct : Conduct platform task (footprint (⟨.commit transaction, .ok (), before, after⟩ :: log)))
    (outcome : transaction.outcome = some (id, status)) (present : (orderStatus before id).isSome) :
    Decided after id := by
  rcases admits_iff.mp admitted with ⟨choice, performed⟩
  rcases conduct_commits conduct (commit_listed rfl log) with ⟨context, shape⟩
  have takes : Takes platform transaction before after := by
    rcases World.commit_answered performed with ⟨_, refused⟩ | takes
    · exact absurd rfl refused
    · exact takes
  have final := shape.decides outcome
  rcases Option.isSome_iff_exists.mp present with ⟨old, known⟩
  refine ⟨status, ?_, final⟩
  cases shape with
  | confirmation transactionId eventId =>
      cases outcome
      have now := orderStatus_takes takes context.orderId
      rw [if_pos rfl, known] at now
      exact now
  | cancellation eventId =>
      cases outcome
      have now := orderStatus_takes takes context.orderId
      rw [if_pos rfl, known] at now
      exact now

end Moves

/-! ## All routines -/

/-- What the routines know of the orders they deal with. -/
structure Grounded (config : Flowing) : Prop where
  jobs : ∀ job ∈ config.shared.jobs, job.Known config.shared
  confirmed : ∀ stage ∈ config.threads, ∀ request order, Confirmed request order (intakeLog stage.log) →
    (orderStatus config.shared.world order.id).isSome
  took : ∀ stage ∈ config.threads, ∀ context, taken stage.log = some context →
    (orderStatus config.shared.world context.orderId).isSome ∧
      ∀ jobId, stage.task = .sagaJob jobId → jobId = Intake.SagaEnqueuer.jobId context.orderId
  concluded : ∀ stage ∈ config.threads, ∀ context, taken stage.log = some context →
    (footprint (portsLog stage.log)).Concludes context.orderId → Decided config.shared.world context.orderId

section Runs

variable {platform : Platform} {start : Backend} {config next : Flowing}

theorem Grounded.unmoved (grounded : Grounded config) (unmoved : System.Unmoved config next) : Grounded next where
  jobs := by
    rw [unmoved.shared]
    exact grounded.jobs
  confirmed stage member request order confirmed := by
    rw [unmoved.shared]
    rcases unmoved.mem member with ⟨old, listed, _, same⟩ | nothing
    · exact grounded.confirmed old listed request order (same ▸ confirmed)
    · rcases confirmed with ⟨eventId, before, after, found⟩
      rw [nothing] at found
      cases found
  took stage member context took := by
    rw [unmoved.shared]
    rcases unmoved.mem member with ⟨old, listed, task, same⟩ | nothing
    · rw [← task]
      exact grounded.took old listed context (same ▸ took)
    · rw [nothing] at took
      cases took
  concluded stage member context took concludes := by
    rw [unmoved.shared]
    rcases unmoved.mem member with ⟨old, listed, _, same⟩ | nothing
    · exact grounded.concluded old listed context (same ▸ took) (same ▸ concludes)
    · rw [nothing] at took
      cases took

/-- A request's commit has been confirmed before, or is confirmed now. -/
theorem confirmed_cons {request : CreateOrderRequest} {order : Order} {event : PipelineEvent} {log : PipelineLog}
    (confirmed : Confirmed request order (intakeLog (event :: log))) :
    Confirmed request order (intakeLog log) ∨ ∃ eventId before after,
      event = ⟨.intake (.commit (orderTransaction request order eventId)), .ok (), before, after⟩ := by
  rcases confirmed with ⟨eventId, before, after, member⟩
  rcases List.mem_filterMap.mp member with ⟨other, listed, seen⟩
  rcases List.mem_cons.mp listed with rfl | earlier
  · right
    rcases other with ⟨call, reply, start, final⟩
    cases call with
    | intake call =>
        cases seen
        exact ⟨eventId, before, after, rfl⟩
    | ports call => cases seen
    | queue call => cases seen
  · exact Or.inl ⟨eventId, before, after, List.mem_filterMap.mpr ⟨other, earlier, seen⟩⟩

/-- A job has been taken before, or is taken now. -/
theorem taken_cons {event : PipelineEvent} {log : PipelineLog} {context : SagaContext}
    (took : taken (event :: log) = some context) :
    taken log = some context ∨ ∃ jobId before after,
      event = ⟨.queue (.moveToActive jobId), .ok (some context), before, after⟩ := by
  unfold taken at took
  rw [List.findSome?_cons] at took
  split at took
  · next found =>
      cases took
      right
      rcases event with ⟨call, reply, before, after⟩
      cases call with
      | intake call => cases found
      | ports call => cases found
      | queue call =>
          cases call with
          | moveToActive jobId =>
              cases reply with
              | ok value =>
                  cases found
                  exact ⟨jobId, before, after, rfl⟩
              | error error => cases found
          | moveToCompleted jobId => cases found
          | moveToFailed jobId => cases found
          | moveStalledJobsToWait jobId => cases found
  · exact Or.inl took

/-- A saga is marked FAILED only when its order is no longer PENDING. -/
def Careful (event : PipelineEvent) : Prop :=
  ∀ row before after, event = ⟨.ports (.updateSaga row), .ok (), before, after⟩ → row.status = .failed →
    orderStatus before.world row.orderId ≠ some .pending

/-- The worker's saga settles the order where it confirms it or marks its saga FAILED. -/
theorem concludes_cons {stage : Stage} {event : PipelineEvent} {context : SagaContext}
    (admitted : (pipeline platform).Admits stage.log event) (issued : Issues platform stage.task stage.log event.call)
    (behaves : Behaves platform stage.task (event :: stage.log)) (careful : Careful event)
    (present : (orderStatus event.before.world context.orderId).isSome)
    (concludes : (footprint (portsLog (event :: stage.log))).Concludes context.orderId) :
    (footprint (portsLog stage.log)).Concludes context.orderId ∨ Decided event.after.world context.orderId := by
  have statuses := statusStep issued behaves admitted context.orderId
  rcases event with ⟨call, reply, before, after⟩
  cases call with
  | intake call => exact Or.inl concludes
  | queue call => exact Or.inl concludes
  | ports call =>
      rcases issued.of_ports behaves with ⟨task, conduct⟩
      have admitted' := (seen_by_ports admitted []).1
      rcases concludes with ⟨transaction, member, status, outcome⟩ | ⟨row, member, failed, about⟩
      · rcases List.mem_append.mp member with earlier | latest
        · exact Or.inl (Or.inl ⟨transaction, earlier, status, outcome⟩)
        · rcases commits_event latest with ⟨_, _, same⟩
          cases same
          exact Or.inr (commits_decides admitted' conduct outcome present)
      · rcases List.mem_append.mp member with earlier | latest
        · exact Or.inl (Or.inr ⟨row, earlier, failed, about⟩)
        · rcases updated_event latest with ⟨_, _, same⟩
          cases same
          right
          rcases Option.isSome_iff_exists.mp present with ⟨status, known⟩
          refine statuses.final ⟨status, known, ?_⟩
          rintro rfl
          exact careful row before after rfl failed (about ▸ known)

theorem Grounded.moved {floor index : Nat} {stage : Stage} {event : PipelineEvent} (rest : Pipeline PipelineOutcome)
    (grounded : Grounded config)
    (distinct : System.Distinct (fun log => orderId (intakeLog log)) (fun backend => backend.world.nextUuid) floor config)
    (listed : config.threads[index]? = some stage) (start : event.before = config.shared)
    (admitted : (pipeline platform).Admits stage.log event) (issued : Issues platform stage.task stage.log event.call)
    (behaves : Behaves platform stage.task (event :: stage.log)) (careful : Careful event) :
    Grounded { shared := event.after, threads := config.threads.set index (stage.answered event rest) } := by
  have member := List.mem_of_getElem? listed
  have statuses := statusStep issued behaves admitted
  have persists : ∀ {id}, (orderStatus config.shared.world id).isSome → (orderStatus event.after.world id).isSome := by
    intro id present
    rw [← start] at present
    exact (statuses id).persists present
  have grows := (pipeline_draws admitted).grows
  rw [start] at grows
  constructor
  · intro job queued
    cases jobStep issued admitted queued with
    | known old earlier id data =>
        rw [start] at earlier
        have known := grounded.jobs old earlier
        constructor
        · rw [id, data]
          exact known.named
        · rw [data]
          exact known.drawn.trans_le grows
        · rw [data]
          exact persists known.present
    | enqueued request order drawn confirmed same called =>
        rw [same]
        constructor
        · rfl
        · exact (distinct.bounds index stage listed order.id drawn).2.trans_le grows
        · exact persists (grounded.confirmed stage member request order confirmed)
  · intro other among request order confirmed
    rcases List.mem_or_eq_of_mem_set among with earlier | rfl
    · exact persists (grounded.confirmed other earlier request order confirmed)
    · rcases confirmed_cons confirmed with before | ⟨eventId, _, _, rfl⟩
      · exact persists (grounded.confirmed stage member request order before)
      · exact confirmed_present admitted
  · intro other among context took
    rcases List.mem_or_eq_of_mem_set among with earlier | rfl
    · have known := grounded.took other earlier context took
      exact ⟨persists known.1, known.2⟩
    · rcases taken_cons took with before | ⟨jobId, before, after, rfl⟩
      · have known := grounded.took stage member context before
        exact ⟨persists known.1, known.2⟩
      · rcases taken_known admitted with ⟨job, queued, rfl, rfl⟩
        replace start : before = config.shared := start
        rw [start] at queued
        have known := grounded.jobs job queued
        refine ⟨persists known.present, fun jobId task => ?_⟩
        cases issued.of_taking.1.symm.trans task
        exact known.named
  · intro other among context took concludes
    rcases List.mem_or_eq_of_mem_set among with earlier | rfl
    · have decided := grounded.concluded other earlier context took concludes
      rw [← start] at decided
      exact (statuses context.orderId).final decided
    · rcases taken_cons took with before | ⟨jobId, _, _, rfl⟩
      · have present := (grounded.took stage member context before).1
        rw [← start] at present
        rcases concludes_cons admitted issued behaves careful present concludes with known | decided
        · have decided := grounded.concluded stage member context before known
          rw [← start] at decided
          exact (statuses context.orderId).final decided
        · exact decided
      · -- the job is taken before anything else is done
        exfalso
        replace concludes : (footprint (portsLog stage.log)).Concludes context.orderId := concludes
        rw [issued.of_taking.2] at concludes
        rcases concludes with ⟨_, member, _⟩ | ⟨_, member, _⟩
        · cases member
        · cases member

theorem handsOver_advance {index : Nat} {choice : Choice} {stage : Stage} {call : PipelineCall}
    {resume : Except JsError call.Reply → Pipeline PipelineOutcome} (listed : config.threads[index]? = some stage)
    (pending : stage.code = .await call resume) (legal : handsOver platform config (.advance index choice) = true) :
    delivers platform config.shared call choice = true := by
  simp only [handsOver, listed, pending] at legal
  exact legal

theorem careful_of_delivers {backend : Backend} {call : PipelineCall} {choice : Choice}
    (delivered : delivers platform backend call choice = true) :
    Careful ((pipeline platform).answer backend call choice) := by
  intro row before after same failed pending
  injection same with called replied start _
  subst called
  subst start
  have settled : ∀ {holds : Bool}, holds = true →
      holds = (decide (row.status ≠ .failed) || decide (orderStatus backend.world row.orderId ≠ some .pending)) → False := by
    rintro _ rfl holds
    rw [failed, pending] at holds
    cases holds
  cases choice with
  | reject error => cases eq_of_heq replied
  | serve => exact settled delivered rfl
  | lose error => exact settled delivered rfl
  | refuse => exact settled delivered rfl
  | answer result => exact settled delivered rfl

/-- A request that has not sent its job finds none in the queue. -/
def Unqueued (config : Flowing) : Prop :=
  ∀ (position : Nat) (stage : Stage), config.threads[position]? = some stage → ∀ id,
    orderId (intakeLog stage.log) = some id → (∀ event ∈ intakeLog stage.log, enqueues event = false) →
      ∀ job ∈ config.shared.jobs, job.data.orderId ≠ id

variable (consistent : Consistent start)
  (reached :
    (pipeline platform).Reaches (fun config move => handsOver platform config move = true) { shared := start } config)

include consistent reached

theorem reaches_grounded : Grounded config := by
  refine reached.moving ?_ ?_ ?_
  · refine ⟨consistent.jobs, ?_, ?_, ?_⟩
    all_goals
      intro stage member
      cases member
  · intro earlier next unmoved grounded
    exact grounded.unmoved unmoved
  · intro earlier index choice stage call resume reached' legal listed pending grounded
    have keeping := reaches_stages reached' stage (List.mem_of_getElem? listed)
    have answered := keeping.answered pending earlier.shared choice
    have delivered := handsOver_advance listed pending legal
    exact grounded.moved _ (reached'.distinct rfl fun log event => pipeline_draws) listed rfl ⟨choice, rfl⟩
      answered.1.2 (Stage.Keeping.behaves answered.2) (careful_of_delivers delivered)

theorem reaches_unqueued : Unqueued config := by
  refine reached.moving ?_ ?_ ?_
  · intro position stage found
    cases found
  · intro earlier next unmoved unqueued position stage found id drawn unsent
    rw [unmoved.shared]
    rcases unmoved.threads position stage found with ⟨old, listed, _, same⟩ | nothing
    · exact unqueued position old listed id (same ▸ drawn) (same ▸ unsent)
    · rw [nothing] at drawn
      cases drawn
  · intro earlier index choice stage call resume reached' legal listed pending unqueued position other found id drawn unsent
      job queued about
    have grounded := reaches_grounded consistent reached'
    have distinct := reached'.distinct rfl fun log event => pipeline_draws
    have keeping := reaches_stages reached' stage (List.mem_of_getElem? listed)
    have issued := (keeping.answered pending earlier.shared choice).1.2
    have admitted : (pipeline platform).Admits stage.log ((pipeline platform).answer earlier.shared call choice) :=
      ⟨choice, rfl⟩
    rcases System.getElem?_set_cases listed found with ⟨_, rfl⟩ | ⟨different, found⟩
    · cases jobStep issued admitted queued with
      | known old member _ data =>
          rcases (pipeline_draws admitted).next id drawn with known | ⟨rfl, _⟩
          · refine unqueued index stage listed id known ?_ old member (data ▸ about)
            intro event among
            rcases List.mem_filterMap.mp among with ⟨seen, among, same⟩
            exact unsent event (List.mem_filterMap.mpr ⟨seen, List.mem_cons_of_mem _ among, same⟩)
          · have below := (grounded.jobs old member).drawn
            rw [← data, about] at below
            exact absurd below (Nat.lt_irrefl _)
      | enqueued request order drawn' confirmed same called =>
          rcases called with ⟨jobId, data, rfl⟩
          have sent := unsent ⟨.addJob jobId data, _, _, _⟩ (List.mem_filterMap.mpr ⟨_, List.mem_cons_self, rfl⟩)
          cases sent
    · cases jobStep issued admitted queued with
      | known old member _ data => exact unqueued position other found id drawn unsent old member (data ▸ about)
      | enqueued request order drawn' confirmed same called =>
          rw [same] at about
          have equal : order.id = id := about
          exact distinct.apart position index other stage found listed different id drawn (equal ▸ drawn')

end Runs

/-! ## From one to the next -/

theorem jobId_injective {id other : Uuid} (same : Intake.SagaEnqueuer.jobId id = Intake.SagaEnqueuer.jobId other) :
    id = other :=
  Decimal.toString_inj ((String.append_right_inj _).mp same)

section HandOvers

variable {platform : Platform} {start : Backend} {config next : Flowing}

theorem placing_iff {log : IntakeLog} :
    placing log = true ↔ (∃ event ∈ log, confirms event = true) ∧ ∀ event ∈ log, enqueues event = false := by
  unfold placing
  rw [Bool.and_eq_true, List.any_eq_true, Bool.not_eq_true', List.any_eq_false]
  simp only [Bool.not_eq_true]

/-- A job that is not completed stays in the queue, unless this event completes it. -/
theorem jobs_kept {stage : Stage} {event : PipelineEvent} {job : SagaJob}
    (issued : Issues platform stage.task stage.log event.call) (admitted : (pipeline platform).Admits stage.log event)
    (member : job ∈ event.before.jobs) (kept : job.state ≠ .completed) :
    (∃ later ∈ event.after.jobs, later.data = job.data ∧ later.state ≠ .completed) ∨
      event.call = .queue (.moveToCompleted job.id) := by
  rcases event with ⟨call, reply, before, after⟩
  cases call with
  | intake call =>
      left
      refine ⟨job, ?_, rfl, kept⟩
      rcases issued.of_intake with ⟨request, _, intended⟩
      have admitted' : (api platform plainApi).Admits (intakeLog stage.log) ⟨call, reply, before, after⟩ :=
        seen_by_intake admitted _
      cases intake_admits admitted' with
      | committed transaction called done =>
          cases called
          rcases intended with ⟨_, order, eventId, _, _, rfl⟩
          have same : after.jobs = before.jobs := (commit_adds done).2
          rw [same]
          exact member
      | queued jobId data called done =>
          replace done : after = before.addJob jobId data := done
          subst done
          rcases addJob_jobs before jobId data with same | added
          · exact same ▸ member
          · rw [added]
            exact List.mem_append_left _ member
      | aside same _ =>
          replace same : after.jobs = before.jobs := same.jobs
          rw [same]
          exact member
  | ports call =>
      left
      refine ⟨job, ?_, rfl, kept⟩
      rw [(seen_by_ports admitted []).2]
      exact member
  | queue call =>
      rcases queue_changes admitted with ⟨change, rfl, changes⟩
      by_cases completed : (change job).state = .completed
      · exact Or.inr (congrArg PipelineCall.queue (changes.completes job kept completed))
      · left
        exact ⟨change job, List.mem_map_of_mem member, changes.data job, completed⟩

/-- Who waits for a pending order. -/
inductive Covered (config : Flowing) (id : Uuid) : Prop where
  | placed (position : Nat) (stage : Stage) (request : CreateOrderRequest) (found : config.threads[position]? = some stage)
      (task : stage.task = .createOrder request) (live : stage.stopped = false)
      (drawn : orderId (intakeLog stage.log) = some id) (unsent : placing (intakeLog stage.log) = true)
  | queued (job : SagaJob) (member : job ∈ config.shared.jobs) (about : job.data.orderId = id)
      (kept : job.state ≠ .completed)

/-- A request that sends its job puts it into the queue. -/
theorem sent_covered {stage : Stage} {event : PipelineEvent} {jobId : String} {data : SagaContext} {id : Uuid}
    {threads : List Stage} (grounded : ∀ job ∈ event.before.jobs, job.Known event.before)
    (fresh : ∀ job ∈ event.before.jobs, job.data.orderId ≠ id) (drawn : orderId (intakeLog stage.log) = some id)
    (issued : Issues platform stage.task stage.log (.intake (.addJob jobId data)))
    (done : event.after = event.before.addJob jobId data) : Covered { shared := event.after, threads } id := by
  rcases issued.of_intake with ⟨request, _, _, order, _, drawn', _, rfl, rfl⟩
  cases drawn.symm.trans drawn'
  apply Covered.queued { id := Intake.SagaEnqueuer.jobId order.id, data := OrderService.sagaContext request order }
  · change _ ∈ event.after.jobs
    rw [done]
    unfold Backend.addJob
    rw [if_neg]
    · exact List.mem_concat_self
    · intro known
      rcases List.any_eq_true.mp known with ⟨job, member, same⟩
      have named := (grounded job member).named
      rw [of_decide_eq_true same] at named
      exact fresh job member (jobId_injective named).symm
  · rfl
  · exact fun completed => by cases completed

/-- A request keeps the id it has drawn. -/
theorem drawn_cons {event : PipelineEvent} {log : PipelineLog} {id : Uuid} (drawn : orderId (intakeLog log) = some id) :
    orderId (intakeLog (event :: log)) = some id := by
  rcases event with ⟨call, reply, before, after⟩
  cases call with
  | intake call => exact orderId_cons drawn
  | ports call => exact drawn
  | queue call => exact drawn

/-- An event that leaves a waiting request as it was. -/
theorem placing_cons {event : PipelineEvent} {log : PipelineLog} (unsent : placing (intakeLog log) = true)
    (other : ∀ jobId data, event.call ≠ .intake (.addJob jobId data)) : placing (intakeLog (event :: log)) = true := by
  rcases event with ⟨call, reply, before, after⟩
  cases call with
  | ports call => exact unsent
  | queue call => exact unsent
  | intake call =>
      rcases placing_iff.mp unsent with ⟨⟨one, member, confirmed⟩, unsent⟩
      refine placing_iff.mpr ⟨⟨one, List.mem_cons_of_mem _ member, confirmed⟩, ?_⟩
      intro event listed
      rcases List.mem_cons.mp listed with rfl | earlier
      · cases call with
        | addJob jobId data => exact absurd rfl (other jobId data)
        | _ => rfl
      · exact unsent event earlier

/-- The queue has got a job that was not rejected. -/
theorem addJob_delivered {backend : Backend} {jobId : String} {data : SagaContext} {choice : Choice}
    (delivered : delivers platform backend (.intake (.addJob jobId data)) choice = true) :
    ((pipeline platform).answer backend (.intake (.addJob jobId data)) choice).after = backend.addJob jobId data := by
  cases choice with
  | reject error => cases delivered
  | _ => rfl

/-- A commit that takes effect is reported, where its reply does not get lost. -/
theorem commit_delivered {backend after : Backend} {transaction : IntakeTransaction} {choice : Choice}
    (delivered : delivers platform backend (.intake (.commit transaction)) choice = true)
    (done : Backend.commit platform backend transaction = .ok after)
    (effective : ((pipeline platform).answer backend (.intake (.commit transaction)) choice).after ≠ backend) :
    ((pipeline platform).answer backend (.intake (.commit transaction)) choice).reply = .ok () := by
  have served : ∀ choice, (backend.effect platform (.commit transaction) choice).1 = .ok () := by
    intro choice
    simp only [Backend.effect]
    rw [done]
  cases choice with
  | reject error => exact absurd rfl effective
  | lose error =>
      simp only [delivers] at delivered
      rw [done] at delivered
      cases delivered
  | serve => exact served .serve
  | refuse => exact served .refuse
  | answer result => exact served (.answer result)

/-- One answered call keeps every pending order covered. -/
theorem Covered.answered {index : Nat} {choice : Choice} {stage : Stage} {call : PipelineCall}
    (rest : Pipeline PipelineOutcome) {id : Uuid} (grounded : Grounded config) (unqueued : Unqueued config)
    (listed : config.threads[index]? = some stage) (live : stage.stopped = false)
    (issued : Issues platform stage.task stage.log call)
    (behaves : Behaves platform stage.task ((pipeline platform).answer config.shared call choice :: stage.log))
    (delivered : delivers platform config.shared call choice = true)
    (covered : orderStatus config.shared.world id = some .pending → Covered config id)
    (pending : orderStatus ((pipeline platform).answer config.shared call choice).after.world id = some .pending) :
    Covered
      { shared := ((pipeline platform).answer config.shared call choice).after
        threads := config.threads.set index
          (stage.answered ((pipeline platform).answer config.shared call choice) rest) } id := by
  have bound : index < config.threads.length := (List.getElem?_eq_some_iff.mp listed).1
  have admitted : (pipeline platform).Admits stage.log ((pipeline platform).answer config.shared call choice) :=
    ⟨choice, rfl⟩
  have statuses := statusStep issued behaves admitted id
  cases statuses with
  | decided _ now =>
      rcases now with ⟨status, now, final⟩
      cases now.symm.trans pending
      exact absurd rfl final
  | created request order eventId task quiet drawn called done absent =>
      replace called : call = .intake (.commit (orderTransaction request order eventId)) := called
      subst called
      have effective : ((pipeline platform).answer config.shared
          (.intake (.commit (orderTransaction request order eventId))) choice).after ≠ config.shared := by
        intro same
        rw [same] at pending
        cases absent.symm.trans pending
      have replied := commit_delivered delivered done effective
      refine .placed index _ request (List.getElem?_set_self bound) task live (orderId_cons drawn) ?_
      refine placing_iff.mpr ⟨⟨_, List.mem_cons_self, ?_⟩, ?_⟩
      · exact congrArg (fun reply => confirms ⟨.commit (orderTransaction request order eventId), reply, config.shared,
          ((pipeline platform).answer config.shared _ choice).after⟩) replied
      · intro event listed
        rcases List.mem_cons.mp listed with rfl | earlier
        · rfl
        · exact (quiet event earlier).2
  | same kept =>
      have before : orderStatus config.shared.world id = some .pending := kept.symm.trans pending
      cases covered before with
      | queued job member about open_ =>
          rcases jobs_kept issued admitted member open_ with ⟨later, queued, data, kept'⟩ | called
          · exact .queued later queued (data ▸ about) kept'
          · -- the saga of a completed job has settled its order
            exfalso
            replace called : call = .queue (.moveToCompleted job.id) := called
            subst called
            rcases issued.of_completing with ⟨task, context, row, took, fulfilled⟩
            have among := List.mem_of_getElem? listed
            have decided := grounded.concluded stage among context took (fulfilled_concludes fulfilled)
            have named := (grounded.jobs job member).named
            have equal := jobId_injective (named.symm.trans ((grounded.took stage among context took).2 _ task))
            rw [← equal, about] at decided
            rcases decided with ⟨status, now, final⟩
            cases now.symm.trans before
            exact absurd rfl final
      | placed position other request found task live' drawn unsent =>
          by_cases same : index = position
          · subst same
            cases listed.symm.trans found
            by_cases sends : ∃ jobId data, call = .intake (.addJob jobId data)
            · rcases sends with ⟨jobId, data, rfl⟩
              have fresh := unqueued index stage listed id drawn (placing_iff.mp unsent).2
              exact sent_covered grounded.jobs fresh drawn issued (addJob_delivered delivered)
            · exact .placed index _ request (List.getElem?_set_self bound) task live' (drawn_cons drawn)
                (placing_cons unsent fun jobId data called => sends ⟨jobId, data, called⟩)
          · exact .placed position other request (by rw [List.getElem?_set_ne same, found]) task live' drawn unsent

/-- What the hand-overs keep. -/
theorem reaches_covered (consistent : Consistent start)
    (reached :
      (pipeline platform).Reaches (fun config move => handsOver platform config move = true) { shared := start } config) :
    ∀ id, orderStatus config.shared.world id = some .pending → Covered config id := by
  refine reached.induct ?_ ?_
  · intro id pending
    rcases consistent.covered id pending with ⟨job, member, about, kept⟩
    exact .queued job member about kept
  · intro earlier move next reached' legal stepped covered id pending
    cases stepped with
    | idle => exact covered id pending
    | started task =>
        cases covered id pending with
        | placed position stage request found task live drawn unsent =>
            have inside : position < earlier.threads.length := (List.getElem?_eq_some_iff.mp found).1
            exact .placed position stage request ((List.getElem?_append_left inside).trans found) task live drawn unsent
        | queued job member about kept => exact .queued job member about kept
    | stopped index =>
        cases covered id pending with
        | placed position stage request found task live drawn unsent =>
            have other : index ≠ position := by
              rintro rfl
              simp only [handsOver, found, unsent] at legal
              cases legal
            have still := System.getElem?_stop index found
            rw [if_neg other] at still
            exact .placed position stage request still task live drawn unsent
        | queued job member about kept => exact .queued job member about kept
    | answered index choice stage call resume listed awaiting live =>
        have grounded := reaches_grounded consistent reached'
        have unqueued := reaches_unqueued consistent reached'
        have keeping := reaches_stages reached' stage (List.mem_of_getElem? listed)
        have answered := keeping.answered awaiting earlier.shared choice
        exact Covered.answered _ grounded unqueued listed live answered.1.2 (Stage.Keeping.behaves answered.2)
          (handsOver_advance listed awaiting legal) (covered id) pending

/-- A request whose order is written and whose job is not sent has not ended. -/
theorem Stage.Keeping.ongoing {stage : Stage} {request : CreateOrderRequest} (keeping : stage.Keeping platform)
    (task : stage.task = .createOrder request) (unsent : placing (intakeLog stage.log) = true) :
    stage.code.finished = false := by
  rcases placing_iff.mp unsent with ⟨⟨one, member, confirmed⟩, unsent⟩
  have ahead := keeping.ahead
  cases code : stage.code with
  | await call resume => rfl
  | done outcome =>
      rw [code] at ahead
      rcases ahead.2 request task with ⟨event, sent, enqueued⟩
      cases (unsent event sent).symm.trans enqueued
  | thrown error =>
      rw [code] at ahead
      cases (ahead.2 request task one member).1.symm.trans confirmed

/-- No order is stranded in a run that drops none at a hand-over. -/
theorem none_stranded (consistent : Consistent start) :
    NoneStranded (fun config move => handsOver platform config move = true) platform start := by
  intro config reached row member pending
  have status := orderStatus_of_mem member
  rw [pending] at status
  cases reaches_covered consistent reached row.id status with
  | queued job queued about kept => exact .queued job queued about kept
  | placed position stage request found task live drawn unsent =>
      have among := List.mem_of_getElem? found
      have keeping := reaches_stages reached stage among
      exact .creating stage among request task live (Stage.Keeping.ongoing keeping task unsent) drawn

end HandOvers

/-! ## Runs -/

/-- A request that creates an order, answered so many times and then as chosen. -/
def orderedFlow (calls : Nat) (choices : List Choice) : Flowing :=
  (pipeline postgresJs).run { shared := emptyBackend }
    (.start (.createOrder fiveUnits) :: (List.replicate calls (.advance 0 .serve) ++ choices.map (.advance 0)))

example : (orderedFlow 10 []).shared.jobs.map SagaJob.state = [.waiting] := by decide +kernel

theorem none_stranded_ordered :
    ∃ row ∈ (orderedFlow 10 []).shared.world.db.orders.rows, row.status = .pending ∧ AccountedFor (orderedFlow 10 []) row.id := by
  have consistent : Consistent emptyBackend := by
    constructor
    · intro job member
      cases member
    · intro id pending
      cases pending
  have legal : (pipeline postgresJs).legitimate (handsOver postgresJs) { shared := emptyBackend }
      (.start (.createOrder fiveUnits) :: (List.replicate 10 (.advance 0 .serve) ++ [].map (.advance 0))) = true := by
    decide +kernel
  have pending : (orderedFlow 10 []).shared.world.db.orders.rows.any (fun row => row.status = .pending) = true := by
    decide +kernel
  rcases List.any_eq_true.mp pending with ⟨row, member, pending⟩
  have status := of_decide_eq_true pending
  exact ⟨row, member, status, none_stranded consistent _ (System.reaches_run legal) row member status⟩

/-- The queue refuses the job of an order that has been committed. -/
theorem stranded : ¬ NoneStranded (fun _ _ => True) postgresJs emptyBackend := by
  intro holds
  let refused : Flowing := orderedFlow 9 [.reject (.error "Connection is closed."), .serve]
  have pending : refused.shared.world.db.orders.rows.any (fun row => row.status = .pending) = true := by decide +kernel
  have ended : refused.threads.all (fun stage => stage.code.finished) = true := by decide +kernel
  have jobs : refused.shared.jobs = [] := by decide +kernel
  have sagas : refused.shared.world.db.sagas.rows.isEmpty = true := by decide +kernel
  rcases List.any_eq_true.mp pending with ⟨row, member, pending⟩
  cases holds refused (System.run_reaches _ _) row member (of_decide_eq_true pending) with
  | creating stage among request task live ongoing drawn =>
      cases (List.all_eq_true.mp ended stage among).symm.trans ongoing
  | queued job among about kept =>
      rw [jobs] at among
      cases among
  | running saga now olderThanMinutes reported about =>
      unfold Database.findRunningSagas at reported
      rw [List.isEmpty_iff.mp sagas] at reported
      cases reported

/-- The worker completes the job of an order that the compensation has failed to cancel. -/
def uncancelledFlow : Flowing :=
  (pipeline postgresJs).run (orderedFlow 10 [])
    (.start (.sagaJob "saga-0") :: (List.replicate 19 (.advance 1 .serve) ++ [.advance 1 (.reject .other)] ++
      List.replicate 3 (.advance 1 .serve)))

example : (uncancelledFlow.shared.jobs.map SagaJob.state,
    uncancelledFlow.shared.world.db.sagas.rows.map SagaInstance.status,
    uncancelledFlow.shared.world.db.orders.rows.map OrderRow.status) = ([.completed], [.failed], [.pending]) := by
  decide +kernel

end Orderly
