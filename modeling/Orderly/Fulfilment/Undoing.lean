import Orderly.Fulfilment.Footprint
import Orderly.Infrastructure.Effects

/-!
# What a compensation may have done

`Undoing` lists the footprints of `undoSteps`, `Compensating` those of the
whole of `compensate`, and `Handling` those of an admin request.  The three
parts of an undoing follow one another: refund, release, cancellation.  Each
may stop anywhere, and only a rejected inventory statement or an amount that
`Money` refuses keeps a compensation from its terminal write.
-/

namespace Orderly

open Process (Program)

/-- The transaction that ends a compensation, with the id drawn for its event. -/
def SagaContext.cancellation (context : SagaContext) (eventId : Uuid) : Transaction :=
  [.updateOrderStatus context.orderId .cancelled, .insertOutboxEvent eventId context.failedEvent]

/-- The refund that the recorded steps call for. -/
def refundsDue (context : SagaContext) (steps : List SagaStep) : List (String × Money) :=
  match (SagaOrchestrator.completedPayment steps).bind (fun s => transactionIdOf s.outputPayload),
    context.money with
  | some transactionId, .ok amount => [(transactionId, amount)]
  | _, _ => []

namespace SagaInstance

/-- The row `startCompensation` leads to. -/
def compensating (saga : SagaInstance) : SagaInstance := { saga with status := .compensating }

/-- The row `completeCompensation` leads to. -/
def failedAt (saga : SagaInstance) (now : Date) : SagaInstance :=
  { saga with status := .failed, completedAt := some now }

end SagaInstance

/-- The footprints of `undoSteps`. -/
inductive Undoing (platform : Platform) (context : SagaContext) (steps : List SagaStep)
    (saga : SagaInstance) : Footprint → Prop where
  | refunding {refundCalls refunds compensated} (called : refundCalls <+: refundsDue context steps)
      (approved : refunds <+: refundCalls) :
      Undoing platform context steps saga { refundCalls, refunds, compensated }
  | releasing {refunds compensated releaseCalls released faults}
      (approved : refunds <+: refundsDue context steps)
      (called : releaseCalls <+: InventoryService.sortItems platform context.items)
      (answered : released <+: releaseCalls) :
      Undoing platform context steps saga
        { refundCalls := refundsDue context steps, refunds, compensated, releaseCalls, released, faults }
  | cancelling {refunds compensated releaseCalls released commits} (eventId : Uuid)
      (approved : refunds <+: refundsDue context steps)
      (called : releaseCalls <+: InventoryService.sortItems platform context.items)
      (answered : released <+: releaseCalls)
      (committed : commits <+: [context.cancellation eventId]) :
      Undoing platform context steps saga
        { refundCalls := refundsDue context steps, refunds, compensated, releaseCalls, released,
          commitCalls := [context.cancellation eventId], commits }
  | failing {refunds compensated releaseCalls released commitCalls commits updated} (now : Date)
      (approved : refunds <+: refundsDue context steps)
      (called : releaseCalls <+: InventoryService.sortItems platform context.items)
      (answered : released <+: releaseCalls)
      (attempted : commitCalls = [] ∨ ∃ eventId, commitCalls = [context.cancellation eventId])
      (committed : commits <+: commitCalls) (written : updated <+: [saga.failedAt now]) :
      Undoing platform context steps saga
        { refundCalls := refundsDue context steps, refunds, compensated, releaseCalls, released,
          commitCalls, commits, updateCalls := [saga.failedAt now], updated }

/-- The footprints of `compensate`. -/
inductive Compensating (platform : Platform) (context : SagaContext) (saga : SagaInstance) :
    Footprint → Prop where
  | entered : Compensating platform context saga {}
  | announcing (running : saga.status = .running) :
      Compensating platform context saga { updateCalls := [saga.compensating] }
  | undoing {steps undone} (running : saga.status = .running)
      (undoing : Undoing platform context steps saga.compensating undone) :
      Compensating platform context saga
        ({ updateCalls := [saga.compensating], updated := [saga.compensating] } ++ undone)

/-- The footprints of an admin request. -/
inductive Handling (platform : Platform) (id : Uuid) : Footprint → Prop where
  | asked : Handling platform id {}
  | handling {saga done} (found : saga.id = id)
      (compensating : Compensating platform (AdminSagas.rebuiltContext saga) saga done) :
      Handling platform id done

/-! ## The parts of an undoing -/

section Parts

variable {platform : Platform} {Fine : CallEvent → Prop} {Good Throws : Footprint → Prop}
  {log : CallLog} {base : Footprint}

/-- Release functions of locks leave no footprint. -/
theorem allSettled_follows {releases : List LockRelease} (now : footprint log = base)
    (good : Good base) :
    Follows platform Fine Good (fun _ done => done = base) Throws (LockManager.allSettled releases)
      log := by
  induction releases generalizing log with
  | nil => exact Follows.pure now rfl
  | cons release rest inductionHypothesis =>
      refine Follows.attempt_bind now good ?_
      intro reply before after log' _ later
      exact inductionHypothesis (later.trans (by simp [eventFootprint]))

/-- The loop of `releaseInventory` works its way along the items. -/
theorem releaseLoop_follows {items done : List InventoryReservation} {releases : List LockRelease}
    {Returns : List LockRelease × Except JsError Bool → Footprint → Prop}
    (now : footprint log = base ++ { releaseCalls := done, released := done })
    (good : ∀ {releaseCalls released}, releaseCalls <+: done ++ items → released <+: releaseCalls →
      Good (base ++ { releaseCalls, released }))
    (faulted : ∀ {releaseCalls released faults} releases error,
      (∃ event, Fine event ∧ Rejected event) →
      releaseCalls <+: done ++ items → released <+: releaseCalls →
      Returns (releases, .error error) (base ++ { releaseCalls, released, faults }))
    (answered : ∀ {releaseCalls released} releases result,
      releaseCalls <+: done ++ items → released <+: releaseCalls →
      Returns (releases, .ok result) (base ++ { releaseCalls, released })) :
    Follows platform Fine Good Returns Throws (InventoryService.releaseLoop items releases) log := by
  induction items generalizing done releases log with
  | nil => exact Follows.pure now (answered releases true (by simp) (List.prefix_refl _))
  | cons item rest inductionHypothesis =>
      have soFar : done <+: done ++ item :: rest := List.prefix_append _ _
      have oneMore : done ++ [item] <+: done ++ item :: rest :=
        (List.prefix_append_right_inj done).mpr (by simp)
      refine Follows.attempt_bind now (good soFar (List.prefix_refl _)) ?_
      intro reply before after log' fine locked
      replace locked := locked.trans (Footprint.append_empty _)
      rcases reply with error | (_ | release)
      · exact Follows.pure locked (faulted releases error ⟨_, fine, error, rfl⟩ soFar (List.prefix_refl _))
      · exact Follows.pure locked (answered releases false soFar (List.prefix_refl _))
      · refine Follows.attempt_bind locked (good soFar (List.prefix_refl _)) ?_
        intro reply before after log'' fine later
        rcases reply with error | (_ | _)
        · simp only [eventFootprint, Footprint.append_assoc, Footprint.mk_append_mk,
            List.append_nil] at later
          exact Follows.pure later
            (faulted _ error ⟨_, fine, error, rfl⟩ oneMore (List.prefix_append _ _))
        · simp only [eventFootprint, Footprint.append_assoc, Footprint.mk_append_mk,
            List.append_nil] at later
          exact Follows.pure later (answered _ false oneMore (List.prefix_append _ _))
        · simp only [eventFootprint, Footprint.append_assoc, Footprint.mk_append_mk,
            List.append_nil] at later
          apply inductionHypothesis later
          · simpa using @good
          · simpa using @faulted
          · simpa using @answered

/-- `releaseInventory` gives back some of the items, in order, and returns only
when no statement was rejected. -/
theorem releaseInventory_follows {items : List InventoryReservation} (now : footprint log = base)
    (good : ∀ {releaseCalls released faults},
      releaseCalls <+: InventoryService.sortItems platform items → released <+: releaseCalls →
      Good (base ++ { releaseCalls, released, faults }))
    (throws : ∀ {releaseCalls released faults}, (∃ event, Fine event ∧ Rejected event) →
      releaseCalls <+: InventoryService.sortItems platform items → released <+: releaseCalls →
      Throws (base ++ { releaseCalls, released, faults })) :
    Follows platform Fine Good
      (fun _ done => ∃ releaseCalls released,
        releaseCalls <+: InventoryService.sortItems platform items ∧ released <+: releaseCalls ∧
        done = base ++ { releaseCalls, released })
      Throws (InventoryService.releaseInventory platform items) log := by
  unfold InventoryService.releaseInventory
  have loop : Follows platform Fine Good
      (fun result done => ∃ releaseCalls released faults,
        releaseCalls <+: InventoryService.sortItems platform items ∧ released <+: releaseCalls ∧
        done = base ++ { releaseCalls, released, faults } ∧
        match result.2 with
        | .ok _ => faults = []
        | .error _ => ∃ event, Fine event ∧ Rejected event)
      Throws (InventoryService.releaseLoop (InventoryService.sortItems platform items) []) log := by
    apply releaseLoop_follows (now.trans (Footprint.append_empty base).symm)
    · intro releaseCalls released called answered
      exact good called answered
    · intro releaseCalls released faults releases error rejected called answered
      exact ⟨releaseCalls, released, faults, called, answered, rfl, rejected⟩
    · intro releaseCalls released releases result called answered
      exact ⟨releaseCalls, released, [], called, answered, rfl, rfl⟩
  refine Follows.bind loop ?_
  rintro ⟨releases, outcome⟩ log' ⟨releaseCalls, released, faults, called, answered, now', ended⟩
  refine Follows.bind (allSettled_follows now' (good called answered)) ?_
  intro _ log'' settled
  cases outcome with
  | ok result =>
      cases ended
      exact Follows.pure settled ⟨releaseCalls, released, called, answered, rfl⟩
  | error error => exact Follows.thrown settled (throws ended called answered)

/-- The service turns a rejected refund into a refused one. -/
theorem refund_follows {transactionId : String} {amount : Money} (now : footprint log = base)
    (good : Good base) :
    Follows platform Fine Good
      (fun _ done => ∃ refunds, refunds <+: [(transactionId, amount)] ∧
        done = base ++ { refundCalls := [(transactionId, amount)], refunds })
      Throws (PaymentService.refund gatewayPort transactionId amount) log := by
  unfold PaymentService.refund gatewayPort
  refine Follows.tryCatch (fun done => done = base ++ { refundCalls := [(transactionId, amount)] }) ?_ ?_
  · apply Follows.call (.refund transactionId amount) now good
    · intro error before after _
      rfl
    · intro result before after
      cases approved : result.success with
      | true => exact ⟨[(transactionId, amount)], List.prefix_refl _, by simp [eventFootprint, approved]⟩
      | false => exact ⟨[], List.nil_prefix, by simp [eventFootprint, approved]⟩
  · intro error log' caught
    exact Follows.pure caught ⟨[], List.nil_prefix, rfl⟩

variable {context : SagaContext} {steps : List SagaStep} {saga : SagaInstance}

/-- The transaction that sets an order's status and writes the event about it. -/
theorem orderTransaction_follows {orderId : Uuid} {status : OrderStatus} {event : NewOutboxEvent}
    (now : footprint log = base) (good : Good base)
    (rejected : ∀ statement,
      statement = .updateOrderStatus orderId status ∨
        (∃ eventId, statement = .insertOutboxEvent eventId event) →
      Throws (base ++ setbackOf (.execute statement)))
    (undecided : ∀ eventId, Throws (base ++
      { commitCalls := [[.updateOrderStatus orderId status, .insertOutboxEvent eventId event]] })) :
    Follows platform Fine Good
      (fun _ done => ∃ eventId, done = base ++
        { commitCalls := [[.updateOrderStatus orderId status, .insertOutboxEvent eventId event]]
          commits := [[.updateOrderStatus orderId status, .insertOutboxEvent eventId event]] })
      Throws
      (TransactionManager.begin fun tx => do
        let tx ← OrderRepository.updateStatus orderId status tx
        OutboxRepository.createWithSql event tx) log := by
  have body : Follows platform Fine Good
      (fun tx done => done = base ∧ ∃ eventId,
        tx = [.updateOrderStatus orderId status, .insertOutboxEvent eventId event]) Throws
      (do
        let tx ← OrderRepository.updateStatus orderId status []
        OutboxRepository.createWithSql event tx) log := by
    have update : Follows platform Fine Good
        (fun tx done => done = base ∧ tx = [.updateOrderStatus orderId status]) Throws
        (OrderRepository.updateStatus orderId status []) log := by
      unfold OrderRepository.updateStatus
      refine Follows.call_bind now good ?_ ?_
      · intro error before after _
        exact rejected _ (.inl rfl)
      · intro value before after log' _ later
        exact Follows.pure (later.trans (Footprint.append_empty base)) ⟨rfl, rfl⟩
    unfold OutboxRepository.createWithSql
    refine Follows.bind update ?_
    rintro _ log' ⟨later, rfl⟩
    refine Follows.local_bind rfl later good ?_
    intro eventId log'' later
    refine Follows.call_bind later good ?_ ?_
    · intro error before after _
      exact rejected _ (.inr ⟨eventId, rfl⟩)
    · intro value before after log' _ later
      exact Follows.pure (later.trans (Footprint.append_empty base)) ⟨rfl, eventId, rfl⟩
  refine Follows.bind body ?_
  rintro _ log' ⟨later, eventId, rfl⟩
  apply Follows.call (.commit _) later good
  · intro error before after _
    exact undecided eventId
  · intro value before after
    exact ⟨eventId, rfl⟩

/-- Writing a compensation status. -/
theorem updateStep_follows {step : SagaStep} {calls : Footprint}
    (compensated : step.compensationStatus ≠ .pending) (now : footprint log = calls) (good : Good calls)
    (throws : (∃ event, Fine event ∧ Rejected event) → Throws (calls ++ { compensated := [step] })) :
    Follows platform Fine Good (fun _ done => done = calls ++ { compensated := [step] }) Throws
      (SagaRepository.updateStep step) log := by
  apply Follows.call (.updateStep step) now good
  · intro error before after fine
    simpa [eventFootprint, compensated] using throws ⟨_, fine, error, rfl⟩
  · intro value before after
    simp [eventFootprint, compensated]

variable (good : ∀ {undone}, Undoing platform context steps saga undone → Good (base ++ undone))

include good

theorem cancelOrder_follows {refunds : List (String × Money)} {compensated : List SagaStep}
    {releaseCalls released : List InventoryReservation}
    (approved : refunds <+: refundsDue context steps)
    (called : releaseCalls <+: InventoryService.sortItems platform context.items)
    (answered : released <+: releaseCalls)
    (now : footprint log = base ++
      { refundCalls := refundsDue context steps, refunds, compensated, releaseCalls, released }) :
    Follows platform Fine Good
      (fun _ done => ∃ commitCalls commits,
        (commitCalls = [] ∨ ∃ eventId, commitCalls = [context.cancellation eventId]) ∧
        commits <+: commitCalls ∧
        done = base ++
          { refundCalls := refundsDue context steps, refunds, compensated, releaseCalls, released,
            commitCalls, commits })
      Throws (tryCatch (SagaOrchestrator.cancelOrder context) fun _ => return ()) log := by
  have cancelling : ∀ eventId {commits}, commits <+: [context.cancellation eventId] →
      Undoing platform context steps saga
        { refundCalls := refundsDue context steps, refunds, compensated, releaseCalls, released,
          commitCalls := [context.cancellation eventId], commits } := by
    intro eventId commits committed
    exact .cancelling eventId approved called answered committed
  unfold SagaOrchestrator.cancelOrder
  refine Follows.tryCatch (fun done => ∃ commitCalls,
    (commitCalls = [] ∨ ∃ eventId, commitCalls = [context.cancellation eventId]) ∧
    done = base ++
      { refundCalls := refundsDue context steps, refunds, compensated, releaseCalls, released,
        commitCalls }) ?_ ?_
  · refine Follows.weaken (orderTransaction_follows now (good (.releasing approved called answered))
      ?_ ?_) ?_ (fun _ holds => holds)
    · rintro statement (rfl | ⟨eventId, rfl⟩)
      · exact ⟨[], .inl rfl, by simp [setbackOf, Call.strands]⟩
      · exact ⟨[], .inl rfl, by simp [setbackOf, Call.strands, SagaContext.failedEvent]⟩
    · intro eventId
      exact ⟨[context.cancellation eventId], .inr ⟨eventId, rfl⟩, by simp [SagaContext.cancellation]⟩
    · rintro _ _ ⟨eventId, rfl⟩
      exact ⟨[context.cancellation eventId], [context.cancellation eventId], .inr ⟨eventId, rfl⟩,
        List.prefix_refl _, by simp [SagaContext.cancellation]⟩
  · rintro error log' ⟨commitCalls, attempted, later⟩
    exact Follows.pure later ⟨commitCalls, [], attempted, List.nil_prefix, rfl⟩

variable (throws : ∀ {undone}, Undoing platform context steps saga undone →
  (∃ event, Fine event ∧ Rejected event) ∨ (∃ error, context.money = .error error) →
  Throws (base ++ undone))

include throws

theorem compensatePayment_follows (now : footprint log = base) :
    Follows platform Fine Good
      (fun _ done => ∃ refunds compensated, refunds <+: refundsDue context steps ∧
        done = base ++ { refundCalls := refundsDue context steps, refunds, compensated })
      Throws (SagaOrchestrator.compensatePayment context steps) log := by
  have idle : Undoing platform context steps saga {} :=
    .refunding (List.nil_prefix) (List.prefix_refl _)
  unfold SagaOrchestrator.compensatePayment
  split
  · next nothing =>
      refine Follows.pure now ⟨[], [], List.nil_prefix, ?_⟩
      simp [refundsDue, nothing]
  · next transactionId recorded =>
      cases money : context.money with
      | error error =>
          have ended := throws idle (.inr ⟨error, money⟩)
          exact Follows.thrown now (Footprint.append_empty base ▸ ended)
      | ok amount =>
          have due : refundsDue context steps = [(transactionId, amount)] := by
            simp [refundsDue, recorded, money]
          have start := Footprint.append_empty base ▸ good idle
          change Follows platform Fine Good _ _
            (PaymentService.refund gatewayPort transactionId amount >>= _) log
          refine Follows.bind (refund_follows now start) ?_
          rintro result log' ⟨refunds, approved, later⟩
          have refunding : ∀ compensated, Undoing platform context steps saga
              { refundCalls := [(transactionId, amount)], refunds, compensated } := by
            intro compensated
            exact .refunding (due ▸ List.prefix_refl _) approved
          rw [due]
          split
          · exact Follows.pure later ⟨refunds, [], approved, rfl⟩
          · next refundStep _ =>
              refine Follows.weaken (updateStep_follows ?_ later (good (refunding [])) ?_) ?_
                (fun _ holds => holds)
              · split <;> exact CompensationStatus.noConfusion
              · intro rejected
                simpa using throws (refunding _) (.inl rejected)
              · rintro _ _ rfl
                simp only [Footprint.append_assoc, Footprint.mk_append_mk, List.append_nil]
                exact ⟨refunds, _, approved, rfl⟩

theorem compensateInventory_follows {refunds : List (String × Money)} {compensated : List SagaStep}
    (approved : refunds <+: refundsDue context steps)
    (now : footprint log =
      base ++ { refundCalls := refundsDue context steps, refunds, compensated }) :
    Follows platform Fine Good
      (fun _ done => ∃ compensated releaseCalls released,
        releaseCalls <+: InventoryService.sortItems platform context.items ∧ released <+: releaseCalls ∧
        done = base ++
          { refundCalls := refundsDue context steps, refunds, compensated, releaseCalls, released })
      Throws (SagaOrchestrator.compensateInventory platform context steps) log := by
  have releasing : ∀ {compensated releaseCalls released faults},
      releaseCalls <+: InventoryService.sortItems platform context.items → released <+: releaseCalls →
      Undoing platform context steps saga
        { refundCalls := refundsDue context steps, refunds, compensated, releaseCalls, released,
          faults } := by
    intro compensated releaseCalls released faults called answered
    exact .releasing approved called answered
  unfold SagaOrchestrator.compensateInventory
  refine Follows.bind (releaseInventory_follows now ?_ ?_) ?_
  · intro releaseCalls released faults called answered
    simpa using good (releasing called answered)
  · intro releaseCalls released faults rejected called answered
    simpa using throws (releasing called answered) (.inl rejected)
  rintro result log' ⟨releaseCalls, released, called, answered, later⟩
  simp only [Footprint.append_assoc, Footprint.mk_append_mk, List.append_nil, List.nil_append] at later
  split
  · exact Follows.pure later ⟨compensated, releaseCalls, released, called, answered, rfl⟩
  · next inventoryStep _ =>
      refine Follows.weaken (updateStep_follows ?_ later (good (releasing called answered)) ?_) ?_
        (fun _ holds => holds)
      · split <;> exact CompensationStatus.noConfusion
      · intro rejected
        simpa using throws (releasing called answered) (.inl rejected)
      · rintro _ _ rfl
        simp only [Footprint.append_assoc, Footprint.mk_append_mk, List.append_nil]
        exact ⟨_, releaseCalls, released, called, answered, rfl⟩

/-- The whole of `undoSteps`, which returns the row it has written last. -/
theorem undoSteps_follows (compensating : saga.status = .compensating) (now : footprint log = base) :
    Follows platform Fine Good
      (fun row done => row.status = .failed ∧ ∃ undone,
        Undoing platform context steps saga undone ∧ undone.updated = [row] ∧ done = base ++ undone)
      Throws (SagaOrchestrator.undoSteps platform context steps saga) log := by
  unfold SagaOrchestrator.undoSteps
  refine Follows.bind (compensatePayment_follows good throws now) ?_
  rintro _ log₁ ⟨refunds, compensated, approved, now₁⟩
  refine Follows.bind (compensateInventory_follows good throws approved now₁) ?_
  rintro _ log₂ ⟨compensated, releaseCalls, released, called, answered, now₂⟩
  refine Follows.bind (cancelOrder_follows good approved called answered now₂) ?_
  rintro _ log₃ ⟨commitCalls, commits, attempted, committed, now₃⟩
  have ended : ∀ now {updated}, updated <+: [saga.failedAt now] → Undoing platform context steps saga
      { refundCalls := refundsDue context steps, refunds, compensated, releaseCalls, released,
        commitCalls, commits, updateCalls := [saga.failedAt now], updated } := by
    intro now updated written
    exact .failing now approved called answered attempted committed written
  have waiting : Good (base ++
      { refundCalls := refundsDue context steps, refunds, compensated, releaseCalls, released,
        commitCalls, commits }) := by
    rcases attempted with rfl | ⟨eventId, rfl⟩
    · rw [List.prefix_nil.mp committed]
      exact good (.releasing approved called answered)
    · exact good (.cancelling eventId approved called answered committed)
  refine Follows.local_bind rfl now₃ waiting ?_
  intro date log₄ now₄
  have transition : completeCompensation saga date = .ok (saga.failedAt date) := by
    simp [completeCompensation, compensating, SagaInstance.failedAt]
  rw [transition]
  refine Follows.call_bind now₄ waiting ?_ ?_
  · intro error before after fine
    have undone := throws (ended date List.nil_prefix) (.inl ⟨_, fine, error, rfl⟩)
    simpa [eventFootprint] using undone
  · intro value before after log₅ _ now₅
    simp only [eventFootprint, Footprint.append_assoc, Footprint.mk_append_mk, List.append_nil,
      List.nil_append] at now₅
    exact Follows.pure now₅ ⟨rfl, _, ended date (List.prefix_refl _), rfl, rfl⟩

end Parts

/-! ## Compensations -/

/-- What a compensation that returns has written: a terminal row, with no
inventory statement rejected on the way. -/
def Compensated (platform : Platform) (context : SagaContext) (saga row : SagaInstance)
    (done : Footprint) : Prop :=
  row.status = .failed ∧ ∃ steps undone, Undoing platform context steps saga.compensating undone ∧
    undone.updated = [row] ∧
    done = { updateCalls := [saga.compensating], updated := [saga.compensating] } ++ undone

theorem compensate_follows {platform : Platform} {Fine : CallEvent → Prop}
    {Good Throws : Footprint → Prop} {log : CallLog} {base : Footprint} {context : SagaContext}
    {saga : SagaInstance} {sagaId : Uuid}
    (good : ∀ {done}, Compensating platform context saga done → Good (base ++ done))
    (throws : ∀ {done}, Compensating platform context saga done → Throws (base ++ done))
    (now : footprint log = base) :
    Follows platform Fine Good
      (fun row done => saga.status = .running ∧
        ∃ compensated, Compensated platform context saga row compensated ∧ done = base ++ compensated)
      Throws (SagaOrchestrator.compensate platform sagaId context saga) log := by
  rw [← Footprint.append_empty base] at now
  unfold SagaOrchestrator.compensate
  by_cases running : saga.status = .running
  · have transition : startCompensation saga = .ok saga.compensating := by
      simp [startCompensation, running, SagaInstance.compensating]
    rw [transition]
    have undoing : ∀ {steps undone}, Undoing platform context steps saga.compensating undone →
        Compensating platform context saga
          ({ updateCalls := [saga.compensating], updated := [saga.compensating] } ++ undone) :=
      fun undoing => .undoing running undoing
    have started : Compensating platform context saga
        { updateCalls := [saga.compensating], updated := [saga.compensating] } := by
      have begun : Undoing platform context [] saga.compensating {} :=
        .refunding List.nil_prefix (List.prefix_refl _)
      simpa using undoing begun
    refine Follows.call_bind now (good .entered) ?_ ?_
    · intro error before after _
      simpa [eventFootprint] using throws (.announcing running)
    · intro _ before after log₁ _ now₁
      simp only [eventFootprint, Footprint.append_empty] at now₁
      refine Follows.silent_bind (fun _ _ _ => rfl) now₁ (good started) (fun _ => throws started) ?_
      intro steps log₂ now₂
      refine Follows.weaken (undoSteps_follows ?_ ?_ rfl now₂) ?_ (fun _ holds => holds)
      · intro undone holds
        simpa using good (undoing holds)
      · intro undone holds _
        simpa using throws (undoing holds)
      · rintro row done ⟨terminal, undone, holds, written, rfl⟩
        exact ⟨running, _, ⟨terminal, steps, undone, holds, written, rfl⟩, Footprint.append_assoc _ _ _⟩
  · have refused : startCompensation saga =
        .error (.error ("Cannot compensate saga in status " ++ saga.status.name)) := by
      simp [startCompensation, running]
    rw [refused]
    exact Follows.thrown now (throws .entered)

/-- An admin request never leaves the footprints of `Handling`. -/
theorem compensateSaga_follows (platform : Platform) (id : Uuid) :
    Follows platform (fun _ => True) (Handling platform id) (fun _ => Handling platform id)
      (Handling platform id) (AdminSagas.compensateSaga platform id) [] := by
  unfold AdminSagas.compensateSaga
  refine Follows.call_bind footprint_nil .asked ?_ ?_
  · intro error before after _
    exact .asked
  · intro found before after log admitted now
    replace now : footprint log = {} := now
    rcases admits_iff.mp admitted with ⟨choice, performed⟩
    rcases found with _ | saga
    · exact Follows.pure now .asked
    · have same : saga.id = id := by
        have read := (World.findSagaById_answered performed).1
        rcases Option.map_eq_some_iff.mp read.symm with ⟨row, stored, rfl⟩
        change row.id = id
        exact Store.Table.lookup_key stored
      simp only
      split
      · exact Follows.pure now .asked
      · refine Follows.bind (Follows.attempt (Handling platform id) (compensate_follows ?_ ?_ now)) ?_
        · exact fun holds => (Footprint.empty_append _).symm ▸ .handling same holds
        · exact fun holds => (Footprint.empty_append _).symm ▸ .handling same holds
        · intro outcome log' ended
          refine Follows.pure rfl ?_
          rcases outcome with error | row
          · exact ended
          · rcases ended with ⟨running, _, ⟨_, steps, undone, undoing, _, rfl⟩, ended⟩
            rw [ended, Footprint.empty_append]
            exact .handling same (.undoing running undoing)

end Orderly
