import Orderly.Fulfilment.Reruns
import Orderly.Fulfilment.WriteAhead
import Orderly.Pipeline.Attempts
import Orderly.Pipeline.Payments

/-!
# How often an order is charged

Only the worker that has taken an order's job charges for the order, and the amount
is the order's total.  Each time it has taken the job it is answered one approval at
most, but it asks again while no answer comes, so the gateway may have carried out
as many charges as it has been asked for.
-/

namespace Orderly

open Process (Move Program System)

/-- The amount of a charge for an order that the gateway has been asked for. -/
def asksCharge (id : Uuid) : CallEvent → Option Money
  | ⟨.charge orderId amount _, _, _, _⟩ => if orderId = id then some amount else none
  | _ => none

/-- The same where the gateway has answered that it approves. -/
def charged (id : Uuid) : CallEvent → Option Money
  | ⟨.charge orderId amount _, .ok result, _, _⟩ => if orderId = id ∧ result.success then some amount else none
  | _ => none

/-- All charges for an order that have been asked for, whether answered or not. -/
def chargesAsked (id : Uuid) (config : Flowing) : List Money :=
  config.threads.flatMap fun stage => (portsLog stage.log).filterMap (asksCharge id)

/-- All charges for an order whose approval has been answered. -/
def chargesFor (id : Uuid) (config : Flowing) : List Money :=
  config.threads.flatMap fun stage => (portsLog stage.log).filterMap (charged id)

/-! ## What a saga charges -/

/-- A charge is for this order. -/
def Call.Bills (id : Uuid) : Call → Prop
  | .charge orderId _ _ => orderId = id
  | _ => True

section Bills

variable {platform : Platform} {id : Uuid} {context : SagaContext}

theorem Call.Within.bills {call : Call} (within : Call.Within .reserveInventory call) : call.Bills id := by
  cases call with
  | charge orderId amount token =>
      have impossible := within.named .processPayment rfl
      cases impossible
  | _ => trivial

theorem beginStep_bills (sagaId : Uuid) (name : StepName) (order : Nat) (input : Json) :
    (SagaOrchestrator.beginStep sagaId name order input).Issues (Call.Bills id) := by
  refine Program.Issues.bind (Program.Issues.call trivial) fun _ => ?_
  refine Program.Issues.bind (Program.Issues.call trivial) fun _ => ?_
  exact Program.Issues.bind (Program.Issues.call trivial) fun _ => trivial

theorem charge_bills (request : PaymentChargeRequest) :
    (PaymentService.charge gatewayPort paymentResiliencePolicy request).Issues (Call.Bills request.orderId) := by
  have charges : Call.Bills request.orderId (.charge request.orderId request.amount request.paymentToken) := rfl
  have retried : ∀ attempts, (CircuitBreaker.retry attempts
      (gatewayPort.charge request.orderId request.amount request.paymentToken)).Issues (Call.Bills request.orderId) := by
    intro attempts
    induction attempts with
    | zero => exact Program.Issues.call charges
    | succ attempts inductionHypothesis =>
        exact Program.Issues.tryCatch (Program.Issues.call charges) fun _ => inductionHypothesis
  refine Program.Issues.tryCatch ?_ fun _ => trivial
  refine Program.Issues.bind (Program.Issues.call trivial) fun admits => ?_
  cases admits with
  | true => exact retried _
  | false => trivial

theorem compensate_bills (sagaId : Uuid) (saga : SagaInstance) :
    (SagaOrchestrator.compensate platform sagaId context saga).Issues (Call.Bills id) := by
  refine Program.Issues.bind (Program.Issues.ofExcept _) fun compensating => ?_
  refine Program.Issues.bind (Program.Issues.call trivial) fun _ => ?_
  refine Program.Issues.bind (Program.Issues.call trivial) fun steps => ?_
  refine Program.Issues.bind ?_ fun _ => ?_
  · unfold SagaOrchestrator.compensatePayment
    cases (SagaOrchestrator.completedPayment steps).bind fun step => transactionIdOf step.outputPayload with
    | none => trivial
    | some transactionId =>
        refine Program.Issues.bind (Program.Issues.ofExcept _) fun amount => ?_
        refine Program.Issues.bind (Program.Issues.tryCatch (Program.Issues.call trivial) fun _ => trivial) fun result => ?_
        cases steps.find? fun step => step.stepName = .processPayment with
        | none => trivial
        | some step => exact Program.Issues.call trivial
  refine Program.Issues.bind ?_ fun _ => ?_
  · unfold SagaOrchestrator.compensateInventory
    refine Program.Issues.bind ((StepLog.releaseInventory_issues context.items).weaken fun _ within => within.bills) fun released => ?_
    cases steps.find? fun step => step.stepName = .reserveInventory with
    | none => trivial
    | some step => exact Program.Issues.call trivial
  refine Program.Issues.bind ?_ fun _ => ?_
  · exact Program.Issues.tryCatch (StepLog.orderTransaction_issues trivial trivial (fun _ => trivial) fun _ => trivial) fun _ => trivial
  refine Program.Issues.bind (Program.Issues.call trivial) fun _ => ?_
  refine Program.Issues.bind (Program.Issues.ofExcept _) fun _ => ?_
  exact Program.Issues.bind (Program.Issues.call trivial) fun _ => trivial

theorem confirmAndComplete_bills (running : SagaInstance) (transactionId : Option String) :
    (SagaOrchestrator.confirmAndComplete context running transactionId).Issues (Call.Bills id) := by
  refine Program.Issues.bind (beginStep_bills _ _ _ _) fun step2 => ?_
  refine Program.Issues.bind (beginStep_bills _ _ _ _) fun step3 => ?_
  refine Program.Issues.bind ?_ fun _ => ?_
  · exact StepLog.orderTransaction_issues trivial trivial (fun _ => trivial) fun _ => trivial
  refine Program.Issues.bind (Program.Issues.call trivial) fun _ => ?_
  refine Program.Issues.bind (Program.Issues.call trivial) fun _ => ?_
  refine Program.Issues.bind (Program.Issues.call trivial) fun _ => ?_
  refine Program.Issues.bind (Program.Issues.call trivial) fun _ => ?_
  refine Program.Issues.bind (Program.Issues.call trivial) fun _ => ?_
  refine Program.Issues.bind (Program.Issues.ofExcept _) fun _ => ?_
  exact Program.Issues.bind (Program.Issues.call trivial) fun _ => trivial

theorem chargeAndComplete_bills (running : SagaInstance) :
    (SagaOrchestrator.chargeAndComplete platform context running).Issues (Call.Bills context.orderId) := by
  refine Program.Issues.bind (beginStep_bills _ _ _ _) fun step1 => ?_
  refine Program.Issues.bind (Program.Issues.ofExcept _) fun amount => ?_
  refine Program.Issues.bind (charge_bills ⟨context.orderId, amount, context.paymentToken⟩) fun result => ?_
  cases result.success with
  | false =>
      refine Program.Issues.bind (Program.Issues.call trivial) fun _ => ?_
      refine Program.Issues.bind (Program.Issues.call trivial) fun _ => ?_
      exact compensate_bills _ _
  | true =>
      refine Program.Issues.bind (Program.Issues.call trivial) fun _ => ?_
      refine Program.Issues.bind (Program.Issues.call trivial) fun _ => ?_
      exact confirmAndComplete_bills _ _

/-- A saga charges its own order only. -/
theorem processSagaJob_bills (context : SagaContext) :
    (processSagaJob platform context).Issues (Call.Bills context.orderId) := by
  refine Program.Issues.tryCatch (Program.Issues.bind ?_ fun _ => trivial) fun _ => trivial
  refine Program.Issues.bind (Program.Issues.call trivial) fun _ => ?_
  refine Program.Issues.bind (Program.Issues.call trivial) fun _ => ?_
  refine Program.Issues.bind (Program.Issues.call trivial) fun _ => ?_
  refine Program.Issues.bind (Program.Issues.ofExcept _) fun running => ?_
  refine Program.Issues.bind (Program.Issues.call trivial) fun _ => ?_
  refine Program.Issues.bind (beginStep_bills _ _ _ _) fun step0 => ?_
  refine Program.Issues.bind ((StepLog.reserveInventory_issues context.items).weaken fun _ within => within.bills)
    fun reserved => ?_
  cases reserved with
  | false =>
      refine Program.Issues.bind (Program.Issues.call trivial) fun _ => ?_
      refine Program.Issues.bind (Program.Issues.call trivial) fun _ => ?_
      exact compensate_bills _ _
  | true =>
      refine Program.Issues.bind (Program.Issues.call trivial) fun _ => ?_
      refine Program.Issues.bind (Program.Issues.call trivial) fun _ => ?_
      exact chargeAndComplete_bills _

/-- Only a call of the gateway asks for a charge. -/
theorem asksCharge_event {event : CallEvent} {amount : Money} (latest : asksCharge id event = some amount) :
    ∃ token, event.call = .charge id amount token ∧
      (eventFootprint event).chargeCalls = [⟨id, amount, token⟩] := by
  rcases event with ⟨call, reply, before, after⟩
  cases call with
  | charge orderId amount' token =>
      change (if orderId = id then some amount' else none) = some amount at latest
      split at latest
      · next named =>
          cases Option.some.inj latest
          subst named
          refine ⟨token, rfl, ?_⟩
          cases reply with
          | error error => rfl
          | ok result =>
              change (if result.success then _ else _ : Footprint).chargeCalls = _
              split <;> rfl
      · cases latest
  | _ => cases latest

/-- What is approved has been asked for. -/
theorem charged_asks {event : CallEvent} {amount : Money} (latest : charged id event = some amount) :
    asksCharge id event = some amount ∧ ∃ transactionId, (eventFootprint event).charges = [(transactionId, amount)] := by
  rcases event with ⟨call, reply, before, after⟩
  cases call with
  | charge orderId amount' token =>
      cases reply with
      | error error => cases latest
      | ok result =>
          change (if orderId = id ∧ result.success = true then some amount' else none) = some amount at latest
          split at latest
          · next approved =>
              cases Option.some.inj latest
              refine ⟨if_pos approved.1, result.transactionId, ?_⟩
              change (if result.success then _ else _ : Footprint).charges = _
              rw [if_pos approved.2]
          · cases latest
  | _ => cases latest

/-- What a log holds of a kind is not more than what its footprint lists of it, where each
event lists what it holds. -/
theorem filterMap_length_le {X : Type} {kind : CallEvent → Option Money} {list : Footprint → List X}
    (append : ∀ first second : Footprint, list (first ++ second) = list first ++ list second)
    (listed : ∀ event amount, kind event = some amount → (list (eventFootprint event)).length = 1) (log : CallLog) :
    (log.filterMap kind).length ≤ (list (footprint log)).length := by
  induction log with
  | nil => exact Nat.zero_le _
  | cons event log inductionHypothesis =>
      rw [footprint_cons, append, List.length_append]
      cases latest : kind event with
      | none =>
          rw [List.filterMap_cons_none latest]
          exact inductionHypothesis.trans (Nat.le_add_right _ _)
      | some amount =>
          rw [List.filterMap_cons_some latest, listed event amount latest]
          exact Nat.succ_le_succ inductionHypothesis

/-- What has been asked for is among what a run has asked for. -/
theorem asked_listed {log : CallLog} {amount : Money} (member : amount ∈ log.filterMap (asksCharge id)) :
    ∃ token, (⟨id, amount, token⟩ : PaymentChargeRequest) ∈ (footprint log).chargeCalls := by
  rcases List.mem_filterMap.mp member with ⟨event, listed, latest⟩
  rcases asksCharge_event latest with ⟨token, _, own⟩
  rcases footprint_member listed with ⟨before, after, whole⟩
  refine ⟨token, ?_⟩
  rw [whole]
  refine List.mem_append_right _ (List.mem_append_left _ ?_)
  rw [own]
  exact List.mem_singleton_self _

end Bills

/-! ## What each routine charges -/

/-- The worker has charged the order of its job only. -/
def Billed (task : PipelineTask) (log : PipelineLog) : Prop :=
  ∀ jobId, task = .sagaJob jobId → ∀ event ∈ portsLog log,
    ∃ context, taken log = some context ∧ event.call.Bills context.orderId

section Billing

variable {platform : Platform} {stage : Stage}

theorem processing_billed {jobId : String} {context : SagaContext} {log : PipelineLog} (took : taken log = some context)
    (first : portsLog log = []) :
    ((processSagaJob platform context).along portsWithin).Meets (pipeline platform).Admits
      (fun log _ => Billed (.sagaJob jobId) log) (fun _ => Billed (.sagaJob jobId)) (fun _ => Billed (.sagaJob jobId)) log := by
  have billed : ∀ log, (taken log = some context ∧ ∀ event ∈ portsLog log, event.call.Bills context.orderId) →
      Billed (.sagaJob jobId) log := fun log kept _ _ event member => ⟨context, kept.1, kept.2 event member⟩
  have issues : (processSagaJob platform context).Issues (Call.Bills context.orderId) := processSagaJob_bills context
  have meets : ((processSagaJob platform context).along portsWithin).Meets (pipeline platform).Admits
      (fun log _ => Billed (.sagaJob jobId) log)
      (fun _ log => taken log = some context ∧ ∀ event ∈ portsLog log, event.call.Bills context.orderId)
      (fun _ log => taken log = some context ∧ ∀ event ∈ portsLog log, event.call.Bills context.orderId) log := by
    refine issues.along.meets ⟨took, ?_⟩ (fun log call kept _ => billed log kept) ?_
    · rw [first]
      exact fun event member => by cases member
    · rintro log ⟨call, reply, before, after⟩ ⟨took, bills⟩ ⟨request, rfl, own⟩ _
      refine ⟨took, fun event member => ?_⟩
      rcases List.mem_cons.mp member with rfl | earlier
      · exact own
      · exact bills event earlier
  exact meets.weaken (fun _ log kept => billed log kept) fun _ log kept => billed log kept

theorem billed_meets (task : PipelineTask) :
    (task.program platform).Meets (pipeline platform).Admits (fun log _ => Billed task log)
      (fun _ => Billed task) (fun _ => Billed task) [] := by
  have others : ∀ task : PipelineTask, (∀ jobId, task ≠ .sagaJob jobId) →
      (task.program platform).Meets (pipeline platform).Admits (fun log _ => Billed task log)
        (fun _ => Billed task) (fun _ => Billed task) [] := by
    intro task other
    have billed : ∀ log, Billed task log := fun log jobId same => absurd same (other jobId)
    refine Program.Meets.widen (fun log _ _ => billed log) ((Program.Meets.anything _ _).weaken ?_ ?_)
    · exact fun _ log _ => billed log
    · exact fun _ log _ => billed log
  have quiet : ∀ {jobId log}, portsLog log = [] → Billed (.sagaJob jobId) log := by
    intro jobId log nothing _ _ event member
    rw [nothing] at member
    cases member
  cases task with
  | createOrder request => exact others _ fun jobId same => by cases same
  | stalled jobId => exact others _ fun jobId same => by cases same
  | compensateSaga id => exact others _ fun jobId same => by cases same
  | sagaJob jobId =>
      have worked : (SagaWorker.processJob platform jobId).Meets (pipeline platform).Admits
          (fun log _ => Billed (.sagaJob jobId) log) (fun _ => Billed (.sagaJob jobId))
          (fun _ => Billed (.sagaJob jobId)) [] := by
        unfold SagaWorker.processJob
        apply Program.Meets.call_bind (quiet rfl)
        · exact fun _ _ _ _ => quiet rfl
        · intro found before after _
          cases found with
          | none => exact quiet rfl
          | some context =>
              apply Program.Meets.attempt_bind (processing_billed rfl rfl)
              · intro _ log billed
                exact ⟨billed, fun reply before after _ => by cases reply <;> exact billed⟩
              · intro _ log billed
                exact ⟨billed, fun reply before after _ => by cases reply <;> exact billed⟩
      exact Program.Meets.bind worked fun _ log billed => billed

theorem handling_charges {id : Uuid} {done : Footprint} (handling : Handling platform id done) : done.chargeCalls = [] := by
  cases handling with
  | asked => rfl
  | handling _ compensating => exact (compensating_charges compensating).1

/-- A routine without calls of the domain layer charges nothing. -/
theorem silent_ports (keeping : stage.Keeping platform)
    (silent : ∀ log call, Issues platform stage.task log call → ∀ request, call ≠ .ports request) :
    portsLog stage.log = [] := by
  have kept : ∀ log event, (Behaves platform stage.task log ∧ Issues platform stage.task log event.call) →
      (pipeline platform).Admits log event → portsLog log = [] → portsLog (event :: log) = [] := by
    rintro log ⟨call, reply, before, after⟩ ⟨_, issued⟩ _ nothing
    cases call with
    | ports request => exact absurd rfl (silent log _ issued request)
    | intake request => exact nothing
    | queue request => exact nothing
  have silence : ∀ log, System.Lawful (pipeline platform).Admits
      (fun log call => Behaves platform stage.task log ∧ Issues platform stage.task log call) log → portsLog log = [] :=
    fun log lawful => by
      induction log with
      | nil => rfl
      | cons event log inductionHypothesis => exact kept log event lawful.1 lawful.2.1 (inductionHypothesis lawful.2.2)
  exact silence stage.log keeping.behind

/-- A charge for an order has been asked for by the worker that has taken its job. -/
theorem asked_taken {id : Uuid} {amount : Money} (keeping : stage.Keeping platform)
    (billed : Billed stage.task stage.log) (member : amount ∈ (portsLog stage.log).filterMap (asksCharge id)) :
    ∃ jobId context, stage.task = .sagaJob jobId ∧ taken stage.log = some context ∧ context.orderId = id := by
  rcases List.mem_filterMap.mp member with ⟨event, listed, latest⟩
  have behaves := keeping.behaves
  cases task : stage.task with
  | sagaJob jobId =>
      rcases billed jobId task event listed with ⟨context, took, bills⟩
      rcases asksCharge_event latest with ⟨token, called, _⟩
      rw [called] at bills
      exact ⟨jobId, context, rfl, took, Eq.symm bills⟩
  | createOrder request =>
      rw [silent_ports keeping ?_] at listed
      · cases listed
      · rw [task]
        rintro log call ⟨_, rfl, _⟩ request impossible
        cases impossible
  | stalled jobId =>
      rw [silent_ports keeping ?_] at listed
      · cases listed
      · rw [task]
        rintro log call rfl request impossible
        cases impossible
  | compensateSaga sagaId =>
      rw [task] at behaves
      rcases asked_listed member with ⟨token, among⟩
      rw [handling_charges behaves] at among
      cases among

end Billing

/-! ## The charges for an order -/

section Charges

variable {platform : Platform} {Legal : Flowing → Move PipelineTask Choice → Prop} {start : Backend} {config : Flowing}

theorem reaches_billed (reached : (pipeline platform).Reaches Legal { shared := start } config) :
    ∀ stage ∈ config.threads, Billed stage.task stage.log := by
  intro stage member
  exact Process.System.Keeps.standing
    ((reached.contract (fun _ none => by cases none) fun _ task _ => billed_meets task) stage member)

/-- What only the worker of an order's job does, and so often at most each time it has
taken the job, is done no more often than the job has attempts, stalls apart. -/
theorem within_attempts (queued : Queued start)
    (reached : (pipeline platform).Reaches Legal { shared := start } config) (id : Uuid) (most : Nat)
    (of : Stage → List Money)
    (taking : ∀ stage ∈ config.threads, ∀ amount ∈ of stage, ∃ jobId context,
      stage.task = .sagaJob jobId ∧ taken stage.log = some context ∧ context.orderId = id)
    (each : ∀ stage ∈ config.threads, ∀ context, Fulfilling platform context (footprint (portsLog stage.log)) →
      (of stage).length ≤ most) :
    (config.threads.flatMap of).length ≤
      most * (sagaAttempts + System.tally (stallsJob (Intake.SagaEnqueuer.jobId id)) config) := by
  have metered := reaches_metered queued reached
  have once : (config.threads.flatMap of).length ≤ most * System.tally (takesJob (Intake.SagaEnqueuer.jobId id)) config := by
    apply System.length_le_tally
    intro stage member
    cases present : of stage with
    | nil => exact Nat.zero_le _
    | cons amount rest =>
        have among : amount ∈ of stage := by
          rw [present]
          exact List.mem_cons_self
        rcases taking stage member amount among with ⟨jobId, context, task, took, rfl⟩
        have named := reaches_named queued reached stage member context took
        have behaves := (reaches_stages reached stage member).behaves
        have bounded : (of stage).length ≤ most := by
          rw [task] at behaves
          exact each stage member context (behaves context took)
        have counted : takesJob (Intake.SagaEnqueuer.jobId context.orderId)
            (.sagaJob (Intake.SagaEnqueuer.jobId context.orderId)) stage.log = true := by
          refine Bool.and_eq_true_iff.mpr ⟨decide_eq_true rfl, ?_⟩
          rw [took]
          rfl
        rw [named, counted, ← present, Bool.toNat_true, Nat.mul_one]
        exact bounded
  refine once.trans (Nat.mul_le_mul_left most ?_)
  by_cases known : ∃ job ∈ config.shared.jobs, job.id = Intake.SagaEnqueuer.jobId id
  · rcases known with ⟨job, member, named⟩
    have counted := metered.known job member
    have credit := (metered.queued.within job member).credit_le
    rw [named] at counted
    omega
  · rw [metered.unknown _ fun job member named => known ⟨job, member, named⟩]
    exact Nat.zero_le _

/-- All charges that the gateway has been asked for an order are for its total, and there
are no more of them, stalls apart, than its job has attempts and each attempt tries.  Of
the approved ones no more answers have come than there are attempts. -/
theorem charged_within (opened : Opened start) (queued : Queued start)
    (reached : (pipeline platform).Reaches Legal { shared := start } config) (id : Uuid) :
    (chargesAsked id config).length ≤ (CircuitBreaker.maxAttempts + 1) *
        (sagaAttempts + System.tally (stallsJob (Intake.SagaEnqueuer.jobId id)) config) ∧
      (∀ amount ∈ chargesAsked id config, ∃ row ∈ config.shared.world.db.orders.rows,
        row.id = id ∧ Money.new row.totalAmount row.currency = .ok amount) ∧
      chargesFor id config ⊆ chargesAsked id config ∧
      (chargesFor id config).length ≤
        sagaAttempts + System.tally (stallsJob (Intake.SagaEnqueuer.jobId id)) config := by
  have billed := reaches_billed reached
  have asked : ∀ stage ∈ config.threads, ∀ amount ∈ (portsLog stage.log).filterMap (asksCharge id), ∃ jobId context,
      stage.task = .sagaJob jobId ∧ taken stage.log = some context ∧ context.orderId = id :=
    fun stage member amount among => asked_taken (reaches_stages reached stage member) (billed stage member) among
  have approved : ∀ (stage : Stage) amount, amount ∈ (portsLog stage.log).filterMap (charged id) →
      amount ∈ (portsLog stage.log).filterMap (asksCharge id) := by
    intro stage amount among
    rcases List.mem_filterMap.mp among with ⟨event, listed, latest⟩
    exact List.mem_filterMap.mpr ⟨event, listed, (charged_asks latest).1⟩
  refine ⟨?_, ?_, ?_, ?_⟩
  · refine within_attempts queued reached id _ _ asked fun stage _ context fulfilling => ?_
    have fewer := @filterMap_length_le _ (asksCharge id) Footprint.chargeCalls (fun _ _ => rfl)
      (fun event amount latest => by
        rcases asksCharge_event latest with ⟨token, _, own⟩
        rw [own]
        rfl) (portsLog stage.log)
    exact fewer.trans fulfilling.asked.1
  · intro amount among
    rcases List.mem_flatMap.mp among with ⟨stage, member, found⟩
    rcases asked stage member amount found with ⟨jobId, context, task, took, rfl⟩
    rcases ((reaches_carried opened reached).took stage member context took).1 with ⟨row, listed, about⟩
    have behaves := (reaches_stages reached stage member).behaves
    rw [task] at behaves
    rcases asked_listed found with ⟨token, charge⟩
    rcases (behaves context took).asked.2 _ charge with ⟨total, money, same⟩
    have total' : amount = total := congrArg PaymentChargeRequest.amount same
    refine ⟨row, listed, about.order.symm, ?_⟩
    unfold SagaContext.money at money
    rw [about.total, ← total'] at money
    exact money
  · intro amount among
    rcases List.mem_flatMap.mp among with ⟨stage, member, found⟩
    exact List.mem_flatMap.mpr ⟨stage, member, approved stage amount found⟩
  · have answered := within_attempts queued reached id 1 (fun stage => (portsLog stage.log).filterMap (charged id))
      (fun stage member amount among => asked stage member amount (approved stage amount among))
      fun stage _ context fulfilling => ?_
    · rwa [Nat.one_mul] at answered
    · have fewer := @filterMap_length_le _ (charged id) Footprint.charges (fun _ _ => rfl)
        (fun event amount latest => by
          rcases (charged_asks latest).2 with ⟨transactionId, own⟩
          rw [own]
          rfl) (portsLog stage.log)
      exact fewer.trans (fulfilling_bounds fulfilling).1

end Charges

/-- A shop that has ten units, and no jobs. -/
def roomyShop : Backend := { emptyBackend with world := smallShop 10 }

theorem roomyShop_opened : Opened roomyShop where
  linked item member := by cases member
  jobs job member := by cases member

theorem roomyShop_queued : Queued roomyShop where
  single := List.nodup_nil
  within job member := by cases member
  named job member := by cases member

/-- An order whose first attempt fails after the charge, and whose second succeeds.  The
first answer of the gateway is lost, though it has charged. -/
def twiceCharged : Flowing :=
  (pipeline postgresJs).run { shared := roomyShop }
    (.start (.createOrder fiveUnits) :: (List.replicate 10 (.advance 0 .serve) ++
      .start (.sagaJob "saga-100") :: (List.replicate 18 (.advance 1 .serve) ++
        .advance 1 (.lose (.error "timeout")) :: (List.replicate 5 (.advance 1 .serve) ++
        .advance 1 (.reject (.error "connection lost")) :: (List.replicate 4 (.advance 1 .serve) ++
          .start (.sagaJob "saga-100") :: List.replicate 31 (.advance 2 .serve))))))

theorem charged_within_twice : (chargesAsked 100 twiceCharged).length = 3 ∧ (chargesFor 100 twiceCharged).length = 2 ∧
    (chargesAsked 100 twiceCharged).length ≤ (CircuitBreaker.maxAttempts + 1) *
        (sagaAttempts + System.tally (stallsJob (Intake.SagaEnqueuer.jobId 100)) twiceCharged) ∧
      (∀ amount ∈ chargesAsked 100 twiceCharged, ∃ row ∈ twiceCharged.shared.world.db.orders.rows,
        row.id = 100 ∧ Money.new row.totalAmount row.currency = .ok amount) ∧
      chargesFor 100 twiceCharged ⊆ chargesAsked 100 twiceCharged ∧
      (chargesFor 100 twiceCharged).length ≤
        sagaAttempts + System.tally (stallsJob (Intake.SagaEnqueuer.jobId 100)) twiceCharged := by
  have reached : (pipeline postgresJs).Reaches (fun _ _ => True) { shared := roomyShop } twiceCharged :=
    System.run_reaches _ _
  exact ⟨by decide +kernel, by decide +kernel, charged_within roomyShop_opened roomyShop_queued reached 100⟩

end Orderly
