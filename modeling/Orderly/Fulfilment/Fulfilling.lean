import Orderly.Fulfilment.Undoing

/-!
# What a saga run may have done

`Fulfilling` lists the footprints of `startSaga`.  A run creates its row, marks
it RUNNING, reserves the items in sorted order, charges, confirms and marks the
row COMPLETED, and a failed reservation or a declined payment turns it to a
compensation.  Every other failure is thrown and ends the run where it stands.
-/

namespace Orderly

open Process (Program)

/-- The transaction of CONFIRM_ORDER and EMIT_EVENTS, with the id drawn for its
event. -/
def SagaContext.confirmation (context : SagaContext) (transactionId : Option String) (eventId : Uuid) :
    Transaction :=
  [.updateOrderStatus context.orderId .paid, .insertOutboxEvent eventId (context.paidEvent transactionId)]

/-- The charge of an order. -/
def SagaContext.chargeRequest (context : SagaContext) (amount : Money) : PaymentChargeRequest where
  orderId := context.orderId
  amount := amount
  paymentToken := context.paymentToken

/-- The charges a run may have asked for: that of its order, and again when no answer
came. -/
def SagaContext.Charging (context : SagaContext) (asked : List PaymentChargeRequest) : Prop :=
  asked.length ≤ CircuitBreaker.maxAttempts + 1 ∧
    ∀ request ∈ asked, ∃ amount, context.money = .ok amount ∧ request = context.chargeRequest amount

theorem SagaContext.Charging.none (context : SagaContext) : context.Charging [] :=
  ⟨Nat.zero_le _, fun request member => by cases member⟩

namespace SagaInstance

/-- The row `startSaga` leads to. -/
def running (saga : SagaInstance) : SagaInstance := { saga with status := .running }

/-- The row `completeSaga` leads to. -/
def completedOn (saga : SagaInstance) (now : Date) : SagaInstance :=
  { saga with status := .completed, completedAt := some now }

/-- A row as `createSagaInstance` makes it for an order. -/
def NewFor (context : SagaContext) (saga : SagaInstance) : Prop :=
  ∃ id now, saga = createSagaInstance id context.orderId now

end SagaInstance

/-- The footprints of `startSaga`. -/
inductive Fulfilling (platform : Platform) (context : SagaContext) : Footprint → Prop where
  | idle : Fulfilling platform context {}
  | creating {saga} (new : SagaInstance.NewFor context saga) :
      Fulfilling platform context { createCalls := [saga] }
  | created {saga} (new : SagaInstance.NewFor context saga) :
      Fulfilling platform context { createCalls := [saga], created := [saga] }
  | starting {saga} (new : SagaInstance.NewFor context saga) :
      Fulfilling platform context { createCalls := [saga], created := [saga], updateCalls := [saga.running] }
  | reserving {saga reserveCalls reserved faults} (new : SagaInstance.NewFor context saga)
      (called : reserveCalls <+: InventoryService.sortItems platform context.items)
      (answered : reserved <+: reserveCalls) :
      Fulfilling platform context
        { createCalls := [saga], created := [saga], updateCalls := [saga.running],
          updated := [saga.running], reserveCalls, reserved, faults }
  | charging {saga chargeCalls} (new : SagaInstance.NewFor context saga) (asked : context.Charging chargeCalls) :
      Fulfilling platform context
        { createCalls := [saga], created := [saga], updateCalls := [saga.running],
          updated := [saga.running], reserveCalls := InventoryService.sortItems platform context.items,
          reserved := InventoryService.sortItems platform context.items, chargeCalls }
  | charged {saga chargeCalls transactionId amount setbacks} (new : SagaInstance.NewFor context saga)
      (money : context.money = .ok amount) (asked : context.Charging chargeCalls) :
      Fulfilling platform context
        { createCalls := [saga], created := [saga], updateCalls := [saga.running],
          updated := [saga.running], reserveCalls := InventoryService.sortItems platform context.items,
          reserved := InventoryService.sortItems platform context.items, chargeCalls,
          charges := [(transactionId, amount)], setbacks }
  | confirming {saga chargeCalls transactionId amount eventId commits} (new : SagaInstance.NewFor context saga)
      (money : context.money = .ok amount)
      (committed : commits <+: [context.confirmation transactionId eventId]) (asked : context.Charging chargeCalls) :
      Fulfilling platform context
        { createCalls := [saga], created := [saga], updateCalls := [saga.running],
          updated := [saga.running], reserveCalls := InventoryService.sortItems platform context.items,
          reserved := InventoryService.sortItems platform context.items, chargeCalls,
          charges := [(transactionId, amount)],
          commitCalls := [context.confirmation transactionId eventId], commits }
  | completing {saga chargeCalls amount now updated} (transactionId : Option String) (eventId : Uuid)
      (new : SagaInstance.NewFor context saga)
      (money : context.money = .ok amount)
      (written : updated <+: [saga.completedOn now]) (asked : context.Charging chargeCalls) :
      Fulfilling platform context
        { createCalls := [saga], created := [saga],
          updateCalls := [saga.running, saga.completedOn now], updated := [saga.running] ++ updated,
          reserveCalls := InventoryService.sortItems platform context.items,
          reserved := InventoryService.sortItems platform context.items, chargeCalls,
          charges := [(transactionId, amount)],
          commitCalls := [context.confirmation transactionId eventId],
          commits := [context.confirmation transactionId eventId] }
  | compensating {saga reserveCalls reserved chargeCalls compensated} (new : SagaInstance.NewFor context saga)
      (called : reserveCalls <+: InventoryService.sortItems platform context.items)
      (answered : reserved <+: reserveCalls)
      (compensating : Compensating platform context saga.running compensated)
      (asked : context.Charging chargeCalls) :
      Fulfilling platform context
        (({ createCalls := [saga], created := [saga], updateCalls := [saga.running],
            updated := [saga.running], reserveCalls, reserved, chargeCalls } : Footprint) ++ compensated)

/-- A compensation charges nothing. -/
theorem compensating_charges {platform : Platform} {context : SagaContext} {saga : SagaInstance}
    {done : Footprint} (compensating : Compensating platform context saga done) :
    done.chargeCalls = [] ∧ done.charges = [] := by
  cases compensating with
  | entered => exact ⟨rfl, rfl⟩
  | announcing => exact ⟨rfl, rfl⟩
  | undoing _ undoing => cases undoing <;> exact ⟨rfl, rfl⟩

/-- Every charge that a run asks for is that of its order. -/
theorem Fulfilling.asked {platform : Platform} {context : SagaContext} {done : Footprint}
    (fulfilling : Fulfilling platform context done) : context.Charging done.chargeCalls := by
  cases fulfilling with
  | idle => exact .none context
  | creating => exact .none context
  | created => exact .none context
  | starting => exact .none context
  | reserving => exact .none context
  | charging _ asked => exact asked
  | charged _ _ asked => exact asked
  | confirming _ _ _ asked => exact asked
  | completing _ _ _ _ _ asked => exact asked
  | @compensating saga reserveCalls reserved chargeCalls compensated _ _ _ compensating asked =>
      change context.Charging (chargeCalls ++ compensated.chargeCalls)
      rw [(compensating_charges compensating).1, List.append_nil]
      exact asked

/-- The footprints with which `startSaga` throws: an approved charge has been
followed by a setback or by a commit. -/
def Interrupted (platform : Platform) (context : SagaContext) (done : Footprint) : Prop :=
  Fulfilling platform context done ∧
    (done.charges = [] ∨ done.setbacks ≠ [] ∨ done.commitCalls ≠ [])

/-- The footprints with which `startSaga` returns a row. -/
inductive Fulfilled (platform : Platform) (context : SagaContext) (row : SagaInstance) :
    Footprint → Prop where
  | completed {saga chargeCalls transactionId amount eventId now} (new : SagaInstance.NewFor context saga)
      (money : context.money = .ok amount) (same : row = saga.completedOn now) (asked : context.Charging chargeCalls) :
      Fulfilled platform context row
        { createCalls := [saga], created := [saga],
          updateCalls := [saga.running, saga.completedOn now],
          updated := [saga.running, saga.completedOn now],
          reserveCalls := InventoryService.sortItems platform context.items,
          reserved := InventoryService.sortItems platform context.items, chargeCalls,
          charges := [(transactionId, amount)],
          commitCalls := [context.confirmation transactionId eventId],
          commits := [context.confirmation transactionId eventId] }
  | failed {saga reserveCalls reserved chargeCalls compensated} (new : SagaInstance.NewFor context saga)
      (called : reserveCalls <+: InventoryService.sortItems platform context.items)
      (answered : reserved <+: reserveCalls)
      (compensated' : Compensated platform context saga.running row compensated)
      (asked : context.Charging chargeCalls) :
      Fulfilled platform context row
        (({ createCalls := [saga], created := [saga], updateCalls := [saga.running],
            updated := [saga.running], reserveCalls, reserved, chargeCalls } : Footprint) ++ compensated)

/-! ## The parts of a run -/

section Parts

variable {platform : Platform} {Fine : CallEvent → Prop} {Good Throws : Footprint → Prop}
  {log : CallLog} {base : Footprint}

/-- The loop of `reserveInventory` works its way along the items, and answers
`true` only when it has come to their end. -/
theorem reserveLoop_follows {items done : List InventoryReservation} {releases : List LockRelease}
    {Returns : List LockRelease × Except JsError Bool → Footprint → Prop}
    (now : footprint log = base ++ { reserveCalls := done, reserved := done })
    (good : ∀ {reserveCalls reserved}, reserveCalls <+: done ++ items → reserved <+: reserveCalls →
      Good (base ++ { reserveCalls, reserved }))
    (faulted : ∀ {reserveCalls reserved faults} releases error,
      reserveCalls <+: done ++ items → reserved <+: reserveCalls →
      Returns (releases, .error error) (base ++ { reserveCalls, reserved, faults }))
    (refused : ∀ {reserveCalls reserved} releases,
      reserveCalls <+: done ++ items → reserved <+: reserveCalls →
      Returns (releases, .ok false) (base ++ { reserveCalls, reserved }))
    (answered : ∀ releases, Returns (releases, .ok true)
      (base ++ { reserveCalls := done ++ items, reserved := done ++ items })) :
    Follows platform Fine Good Returns Throws (InventoryService.reserveLoop items releases) log := by
  induction items generalizing done releases log with
  | nil =>
      refine Follows.pure now ?_
      simpa using answered releases
  | cons item rest inductionHypothesis =>
      have soFar : done <+: done ++ item :: rest := List.prefix_append _ _
      have oneMore : done ++ [item] <+: done ++ item :: rest :=
        (List.prefix_append_right_inj done).mpr (by simp)
      refine Follows.attempt_bind now (good soFar (List.prefix_refl _)) ?_
      intro reply _ _ log₁ _ locked
      replace locked := locked.trans (Footprint.append_empty _)
      rcases reply with error | (_ | release)
      · exact Follows.pure locked (faulted releases error soFar (List.prefix_refl _))
      · exact Follows.pure locked (refused releases soFar (List.prefix_refl _))
      · refine Follows.attempt_bind locked (good soFar (List.prefix_refl _)) ?_
        intro reply _ _ log₂ _ read
        replace read := read.trans (Footprint.append_empty _)
        rcases reply with error | inventory
        · exact Follows.pure read (faulted _ error soFar (List.prefix_refl _))
        · simp only
          split
          · exact Follows.pure read (refused _ soFar (List.prefix_refl _))
          · refine Follows.attempt_bind read (good soFar (List.prefix_refl _)) ?_
            intro reply _ _ log₃ _ later
            rcases reply with error | (_ | _)
            · simp only [eventFootprint, Footprint.append_assoc, Footprint.mk_append_mk,
                List.append_nil] at later
              exact Follows.pure later (faulted _ error oneMore (List.prefix_append _ _))
            · simp only [eventFootprint, Footprint.append_assoc, Footprint.mk_append_mk,
                List.append_nil] at later
              exact Follows.pure later (refused _ oneMore (List.prefix_append _ _))
            · simp only [eventFootprint, Footprint.append_assoc, Footprint.mk_append_mk,
                List.append_nil] at later
              apply inductionHypothesis later
              · simpa using @good
              · simpa using @faulted
              · simpa using @refused
              · simpa using answered

/-- `reserveInventory` answers `true` only when every item has been reserved. -/
theorem reserveInventory_follows {items : List InventoryReservation} (now : footprint log = base)
    (good : ∀ {reserveCalls reserved faults},
      reserveCalls <+: InventoryService.sortItems platform items → reserved <+: reserveCalls →
      Good (base ++ { reserveCalls, reserved, faults }))
    (throws : ∀ {reserveCalls reserved faults},
      reserveCalls <+: InventoryService.sortItems platform items → reserved <+: reserveCalls →
      Throws (base ++ { reserveCalls, reserved, faults })) :
    Follows platform Fine Good
      (fun result done => ∃ reserveCalls reserved,
        reserveCalls <+: InventoryService.sortItems platform items ∧ reserved <+: reserveCalls ∧
        (result = true → reserveCalls = InventoryService.sortItems platform items ∧
          reserved = InventoryService.sortItems platform items) ∧
        done = base ++ { reserveCalls, reserved })
      Throws (InventoryService.reserveInventory platform items) log := by
  unfold InventoryService.reserveInventory
  have loop : Follows platform Fine Good
      (fun result done => ∃ reserveCalls reserved faults,
        reserveCalls <+: InventoryService.sortItems platform items ∧ reserved <+: reserveCalls ∧
        done = base ++ { reserveCalls, reserved, faults } ∧
        ∀ answer, result.2 = .ok answer → faults = [] ∧
          (answer = true → reserveCalls = InventoryService.sortItems platform items ∧
            reserved = InventoryService.sortItems platform items))
      Throws (InventoryService.reserveLoop (InventoryService.sortItems platform items) []) log := by
    apply reserveLoop_follows (now.trans (Footprint.append_empty base).symm)
    · intro reserveCalls reserved called answered
      exact good called answered
    · intro reserveCalls reserved faults releases error called answered
      exact ⟨reserveCalls, reserved, faults, called, answered, rfl, fun _ impossible => by cases impossible⟩
    · intro reserveCalls reserved releases called answered
      refine ⟨reserveCalls, reserved, [], called, answered, rfl, ?_⟩
      intro answer same
      cases same
      exact ⟨rfl, fun impossible => by cases impossible⟩
    · intro releases
      exact ⟨_, _, [], List.prefix_refl _, List.prefix_refl _, rfl, fun _ _ => ⟨rfl, fun _ => ⟨rfl, rfl⟩⟩⟩
  refine Follows.bind loop ?_
  rintro ⟨releases, outcome⟩ log₁ ⟨reserveCalls, reserved, faults, called, answered, now₁, ended⟩
  refine Follows.bind (allSettled_follows now₁ (good called answered)) ?_
  intro _ log₂ settled
  cases outcome with
  | ok result =>
      rcases ended result rfl with ⟨rfl, complete⟩
      exact Follows.pure settled ⟨reserveCalls, reserved, called, answered, complete, rfl⟩
  | error error => exact Follows.thrown settled (throws called answered)

/-- However often the policy calls the gateway again, at most one charge has been
answered with an approval, and then it is the result. -/
theorem charge_follows {request : PaymentChargeRequest} (now : footprint log = base)
    (good : ∀ asked ≤ CircuitBreaker.maxAttempts, Good (base ++ { chargeCalls := List.replicate asked request })) :
    Follows platform Fine Good
      (fun result done => ∃ asked ≤ CircuitBreaker.maxAttempts + 1, done = base ++
        { chargeCalls := List.replicate asked request,
          charges := if result.success then [(result.transactionId, request.amount)] else [] })
      Throws (PaymentService.charge gatewayPort paymentResiliencePolicy request) log := by
  have again : ∀ asked charges, base ++ { chargeCalls := List.replicate asked request } ++
      { chargeCalls := [request], charges } =
        base ++ { chargeCalls := List.replicate (asked + 1) request, charges } := by
    intro asked charges
    rw [Footprint.append_assoc, Footprint.mk_append_mk, List.replicate_succ']
    rfl
  have once : ∀ asked ≤ CircuitBreaker.maxAttempts, ∀ log,
      footprint log = base ++ { chargeCalls := List.replicate asked request } → Follows platform Fine Good
        (fun result done => done = base ++
          { chargeCalls := List.replicate (asked + 1) request,
            charges := if result.success then [(result.transactionId, request.amount)] else [] })
        (fun done => done = base ++ { chargeCalls := List.replicate (asked + 1) request })
        (gatewayPort.charge request.orderId request.amount request.paymentToken) log := by
    intro asked few log now
    apply Follows.call (.charge request.orderId request.amount request.paymentToken) now (good asked few)
    · intro error before after _
      exact again asked []
    · intro value before after
      rw [← again]
      congr 1
      simp only [eventFootprint]
      split <;> rfl
  have retried : ∀ attempts asked, asked + attempts ≤ CircuitBreaker.maxAttempts → ∀ log,
      footprint log = base ++ { chargeCalls := List.replicate asked request } → Follows platform Fine Good
        (fun result done => ∃ asked ≤ CircuitBreaker.maxAttempts + 1, done = base ++
          { chargeCalls := List.replicate asked request,
            charges := if result.success then [(result.transactionId, request.amount)] else [] })
        (fun done => ∃ asked ≤ CircuitBreaker.maxAttempts + 1, done = base ++
          { chargeCalls := List.replicate asked request })
        (CircuitBreaker.retry attempts
          (gatewayPort.charge request.orderId request.amount request.paymentToken)) log := by
    intro attempts
    induction attempts with
    | zero =>
        intro asked few log now
        refine Follows.weaken (once asked few log now) ?_ ?_
        · exact fun result done same => ⟨asked + 1, Nat.succ_le_succ few, same⟩
        · exact fun done same => ⟨asked + 1, Nat.succ_le_succ few, same⟩
    | succ attempts inductionHypothesis =>
        intro asked few log now
        have fewer : asked ≤ CircuitBreaker.maxAttempts := (Nat.le_add_right _ _).trans few
        refine Follows.tryCatch _ (Follows.weaken (once asked fewer log now) ?_ fun _ same => same) ?_
        · exact fun result done same => ⟨asked + 1, Nat.succ_le_succ fewer, same⟩
        · intro error log' caught
          exact inductionHypothesis (asked + 1) (by omega) log' caught
  have unasked : footprint log = base ++ { chargeCalls := List.replicate 0 request } :=
    now.trans (Footprint.append_empty base).symm
  unfold PaymentService.charge paymentResiliencePolicy CircuitBreaker.execute
  refine Follows.tryCatch (fun done => ∃ asked ≤ CircuitBreaker.maxAttempts + 1, done = base ++
    { chargeCalls := List.replicate asked request }) ?_ ?_
  · refine Follows.silent_bind (fun _ _ _ => rfl) unasked (good 0 (Nat.zero_le _)) ?_ ?_
    · exact fun _ => ⟨0, Nat.zero_le _, rfl⟩
    · intro admits log' later
      split
      · exact retried _ 0 (Nat.zero_add _).le log' later
      · exact Follows.thrown later ⟨0, Nat.zero_le _, rfl⟩
  · intro error log' caught
    exact Follows.pure rfl caught

/-- A new step row is written before its step begins. -/
theorem beginStep_follows {sagaId : Uuid} {stepName : StepName} {stepOrder : Nat} {input : Json}
    (now : footprint log = base) (good : Good base)
    (throws : ∀ id date, Throws
      (base ++ setbackOf (.createStep (createStep id sagaId stepName stepOrder input date)))) :
    Follows platform Fine Good
      (fun step done => done = base ∧
        ∃ id date, step = createStep id sagaId stepName stepOrder input date)
      Throws (SagaOrchestrator.beginStep sagaId stepName stepOrder input) log := by
  unfold SagaOrchestrator.beginStep
  refine Follows.local_bind rfl now good ?_
  intro id log₁ now₁
  refine Follows.local_bind rfl now₁ good ?_
  intro date log₂ now₂
  refine Follows.call_bind now₂ good ?_ ?_
  · intro error before after _
    exact throws id date
  · intro _ before after log₃ _ now₃
    exact Follows.pure (now₃.trans (Footprint.append_empty base)) ⟨rfl, id, date, rfl⟩

/-- Recording the end of a step. -/
theorem endStep_follows {step : SagaStep} (forward : step.compensationStatus = .pending)
    (now : footprint log = base) (good : Good base)
    (throws : Throws (base ++ setbackOf (.updateStep step))) :
    Follows platform Fine Good (fun _ done => done = base) Throws (SagaOrchestrator.endStep step)
      log := by
  apply Follows.call (.updateStep step) now good
  · intro error before after _
    simpa [eventFootprint, forward] using throws
  · intro value before after
    simp [eventFootprint, forward]

end Parts

/-! ## A whole run -/

section Run

variable {platform : Platform} {Fine : CallEvent → Prop} {context : SagaContext}
  {saga : SagaInstance} {log : CallLog}

/-- A call that follows the approved charge and is rejected ends the run with
the charge standing. -/
theorem charge_strands {chargeCalls : List PaymentChargeRequest} {transactionId : Option String} {amount : Money}
    {call : Call} (new : SagaInstance.NewFor context saga) (money : context.money = .ok amount)
    (asked : context.Charging chargeCalls) (strands : call.strands = true) :
    Interrupted platform context
      (({ createCalls := [saga], created := [saga], updateCalls := [saga.running],
          updated := [saga.running], reserveCalls := InventoryService.sortItems platform context.items,
          reserved := InventoryService.sortItems platform context.items, chargeCalls,
          charges := [(transactionId, amount)] } : Footprint) ++ setbackOf call) := by
  simp only [setbackOf, strands, if_true, Footprint.mk_append_mk, List.append_nil, List.nil_append]
  exact ⟨.charged new money asked, .inr (.inl (List.cons_ne_nil _ _))⟩

/-- From the confirmed payment on, a rejected call strands the charge until the
transaction has been attempted. -/
theorem confirmAndComplete_follows {chargeCalls : List PaymentChargeRequest} {transactionId : Option String}
    {amount : Money} (new : SagaInstance.NewFor context saga) (money : context.money = .ok amount)
    (asked : context.Charging chargeCalls)
    (now : footprint log =
      { createCalls := [saga], created := [saga], updateCalls := [saga.running],
        updated := [saga.running], reserveCalls := InventoryService.sortItems platform context.items,
        reserved := InventoryService.sortItems platform context.items, chargeCalls,
        charges := [(transactionId, amount)] }) :
    Follows platform Fine (Fulfilling platform context) (Fulfilled platform context)
      (Interrupted platform context)
      (SagaOrchestrator.confirmAndComplete context saga.running transactionId) log := by
  have charged : Fulfilling platform context
      { createCalls := [saga], created := [saga], updateCalls := [saga.running],
        updated := [saga.running], reserveCalls := InventoryService.sortItems platform context.items,
        reserved := InventoryService.sortItems platform context.items, chargeCalls,
        charges := [(transactionId, amount)] } := .charged new money asked
  have confirming : ∀ eventId {commits}, commits <+: [context.confirmation transactionId eventId] →
      Fulfilling platform context
        { createCalls := [saga], created := [saga], updateCalls := [saga.running],
          updated := [saga.running], reserveCalls := InventoryService.sortItems platform context.items,
          reserved := InventoryService.sortItems platform context.items, chargeCalls,
          charges := [(transactionId, amount)],
          commitCalls := [context.confirmation transactionId eventId], commits } :=
    fun eventId _ committed => .confirming new money committed asked
  unfold SagaOrchestrator.confirmAndComplete
  refine Follows.bind (beginStep_follows now charged ?_) ?_
  · exact fun id date => charge_strands new money asked rfl
  rintro _ log₁ ⟨now₁, id₂, date₂, rfl⟩
  refine Follows.bind (beginStep_follows now₁ charged ?_) ?_
  · exact fun id date => charge_strands new money asked rfl
  rintro _ log₂ ⟨now₂, id₃, date₃, rfl⟩
  refine Follows.bind (orderTransaction_follows now₂ charged ?_ ?_) ?_
  · rintro statement (rfl | ⟨eventId, rfl⟩)
    · exact charge_strands new money asked rfl
    · exact charge_strands new money asked rfl
  · intro eventId
    have attempted : Interrupted platform context _ :=
      ⟨confirming eventId List.nil_prefix, .inr (.inr (List.cons_ne_nil _ _))⟩
    simpa [SagaContext.confirmation] using attempted
  rintro _ log₃ ⟨eventId, now₃⟩
  have committed := confirming eventId (List.prefix_refl _)
  have interrupted : Interrupted platform context _ :=
    ⟨committed, .inr (.inr (List.cons_ne_nil _ _))⟩
  simp only [Footprint.mk_append_mk, List.append_nil, List.nil_append] at now₃
  refine Follows.local_bind rfl now₃ committed ?_
  intro date₄ log₄ now₄
  refine Follows.bind (endStep_follows rfl now₄ committed ?_) ?_
  · change Interrupted platform context (_ ++ {})
    rw [Footprint.append_empty]
    exact interrupted
  intro _ log₅ now₅
  refine Follows.local_bind rfl now₅ committed ?_
  intro date₆ log₆ now₆
  refine Follows.bind (endStep_follows rfl now₆ committed ?_) ?_
  · change Interrupted platform context (_ ++ {})
    rw [Footprint.append_empty]
    exact interrupted
  intro _ log₇ now₇
  refine Follows.local_bind rfl now₇ committed ?_
  intro date log₈ now₈
  have transition : completeSaga saga.running date = .ok (saga.completedOn date) := rfl
  rw [transition]
  refine Follows.call_bind now₈ committed ?_ ?_
  · intro error before after _
    have ended : Interrupted platform context _ :=
      ⟨.completing transactionId eventId new money (List.nil_prefix : [] <+: [saga.completedOn date]) asked,
        .inr (.inr (List.cons_ne_nil _ _))⟩
    simpa [eventFootprint, SagaContext.confirmation] using ended
  · intro _ before after log₉ _ now₉
    simp only [eventFootprint, Footprint.mk_append_mk, List.append_nil] at now₉
    exact Follows.pure now₉ (.completed new money rfl asked)

/-- A compensation entered from a run. -/
theorem compensate_interrupts {reserveCalls reserved : List InventoryReservation}
    {chargeCalls : List PaymentChargeRequest} {sagaId : Uuid} (new : SagaInstance.NewFor context saga)
    (called : reserveCalls <+: InventoryService.sortItems platform context.items)
    (answered : reserved <+: reserveCalls) (asked : context.Charging chargeCalls)
    (now : footprint log =
      { createCalls := [saga], created := [saga], updateCalls := [saga.running],
        updated := [saga.running], reserveCalls, reserved, chargeCalls }) :
    Follows platform Fine (Fulfilling platform context) (Fulfilled platform context)
      (Interrupted platform context)
      (SagaOrchestrator.compensate platform sagaId context saga.running) log := by
  refine Follows.weaken (compensate_follows ?_ ?_ now) ?_ (fun _ holds => holds)
  · exact fun compensating => .compensating new called answered compensating asked
  · intro compensated compensating
    refine ⟨.compensating new called answered compensating asked, .inl ?_⟩
    change [] ++ compensated.charges = []
    rw [(compensating_charges compensating).2]
    rfl
  · rintro row done ⟨_, compensated, holds, rfl⟩
    exact .failed new called answered holds asked

/-- From the reserved items on. -/
theorem chargeAndComplete_follows (new : SagaInstance.NewFor context saga)
    (now : footprint log =
      { createCalls := [saga], created := [saga], updateCalls := [saga.running],
        updated := [saga.running], reserveCalls := InventoryService.sortItems platform context.items,
        reserved := InventoryService.sortItems platform context.items }) :
    Follows platform Fine (Fulfilling platform context) (Fulfilled platform context)
      (Interrupted platform context)
      (SagaOrchestrator.chargeAndComplete platform context saga.running) log := by
  have reserved : Fulfilling platform context
      { createCalls := [saga], created := [saga], updateCalls := [saga.running],
        updated := [saga.running], reserveCalls := InventoryService.sortItems platform context.items,
        reserved := InventoryService.sortItems platform context.items } :=
    .reserving new (List.prefix_refl _) (List.prefix_refl _)
  have uncharged : Interrupted platform context _ := ⟨reserved, .inl rfl⟩
  unfold SagaOrchestrator.chargeAndComplete
  refine Follows.bind (beginStep_follows now reserved ?_) ?_
  · intro id date
    change Interrupted platform context (_ ++ {})
    rw [Footprint.append_empty]
    exact uncharged
  rintro _ log₁ ⟨now₁, id₁, date₁, rfl⟩
  cases money : context.money with
  | error error => exact Follows.thrown now₁ uncharged
  | ok amount =>
      change Follows platform Fine _ _ _
        (PaymentService.charge gatewayPort paymentResiliencePolicy (context.chargeRequest amount) >>= _) log₁
      have charging : ∀ count ≤ CircuitBreaker.maxAttempts + 1,
          context.Charging (List.replicate count (context.chargeRequest amount)) := by
        intro count few
        refine ⟨(List.length_replicate ..).trans_le few, fun request member => ?_⟩
        exact ⟨amount, money, List.eq_of_mem_replicate member⟩
      have awaiting : ∀ count ≤ CircuitBreaker.maxAttempts, Fulfilling platform context
          { createCalls := [saga], created := [saga], updateCalls := [saga.running],
            updated := [saga.running], reserveCalls := InventoryService.sortItems platform context.items,
            reserved := InventoryService.sortItems platform context.items,
            chargeCalls := List.replicate count (context.chargeRequest amount) } :=
        fun count few => .charging new (charging count (few.trans (Nat.le_succ _)))
      refine Follows.bind (charge_follows now₁ ?_) ?_
      · intro count few
        simpa using awaiting count few
      rintro result log₂ ⟨count, few, now₂⟩
      have asked := charging count few
      cases approved : result.success with
      | false =>
          simp only [approved, Bool.false_eq_true, if_false, Footprint.mk_append_mk, List.append_nil, List.nil_append]
            at now₂
          simp only [Bool.not_false, if_true]
          have declined : Fulfilling platform context _ := .charging new asked
          refine Follows.local_bind rfl now₂ declined ?_
          intro date₃ log₃ now₃
          refine Follows.bind (endStep_follows rfl now₃ declined ?_) ?_
          · change Interrupted platform context (_ ++ {})
            rw [Footprint.append_empty]
            exact ⟨declined, .inl rfl⟩
          intro _ log₄ now₄
          exact compensate_interrupts new (List.prefix_refl _) (List.prefix_refl _) asked now₄
      | true =>
          simp only [approved, if_true, Footprint.mk_append_mk, List.append_nil, List.nil_append] at now₂
          simp only [Bool.not_true, Bool.false_eq_true, if_false]
          have charged : Fulfilling platform context
              { createCalls := [saga], created := [saga], updateCalls := [saga.running],
                updated := [saga.running], reserveCalls := InventoryService.sortItems platform context.items,
                reserved := InventoryService.sortItems platform context.items,
                chargeCalls := List.replicate count (context.chargeRequest amount),
                charges := [(result.transactionId, amount)] } := .charged new money asked
          refine Follows.local_bind rfl now₂ charged ?_
          intro date₃ log₃ now₃
          refine Follows.bind (endStep_follows rfl now₃ charged ?_) ?_
          · exact charge_strands new money asked rfl
          intro _ log₄ now₄
          exact confirmAndComplete_follows new money asked now₄

/-- A saga run stays within the footprints of `Fulfilling`. -/
theorem startSaga_follows (platform : Platform) (Fine : CallEvent → Prop) (context : SagaContext) :
    Follows platform Fine (Fulfilling platform context) (Fulfilled platform context)
      (Interrupted platform context) (SagaOrchestrator.startSaga platform context) [] := by
  unfold SagaOrchestrator.startSaga
  refine Follows.local_bind rfl footprint_nil .idle ?_
  intro id log₁ now₁
  refine Follows.local_bind rfl now₁ .idle ?_
  intro date log₂ now₂
  have new : SagaInstance.NewFor context (createSagaInstance id context.orderId date) := ⟨id, date, rfl⟩
  generalize named : createSagaInstance id context.orderId date = saga at new
  simp only
  refine Follows.call_bind now₂ .idle ?_ ?_
  · intro error before after _
    exact ⟨.creating new, .inl rfl⟩
  intro _ _ _ log₃ _ now₃
  replace now₃ : footprint log₃ = { createCalls := [saga], created := [saga] } := now₃
  have transition : startSaga saga = .ok saga.running := by
    rw [← named]
    rfl
  rw [transition]
  refine Follows.call_bind now₃ (.created new) ?_ ?_
  · intro error before after _
    exact ⟨.starting new, .inl rfl⟩
  intro _ _ _ log₄ _ now₄
  replace now₄ : footprint log₄ =
    { createCalls := [saga], created := [saga], updateCalls := [saga.running],
        updated := [saga.running] } := now₄
  have reserving : ∀ {reserveCalls reserved faults},
      reserveCalls <+: InventoryService.sortItems platform context.items → reserved <+: reserveCalls →
      Fulfilling platform context
        { createCalls := [saga], created := [saga], updateCalls := [saga.running],
          updated := [saga.running], reserveCalls, reserved, faults } := fun called answered => .reserving new called answered
  have started : Fulfilling platform context
      { createCalls := [saga], created := [saga], updateCalls := [saga.running],
        updated := [saga.running] } :=
    reserving List.nil_prefix (List.prefix_refl _)
  refine Follows.bind (beginStep_follows now₄ started ?_) ?_
  · intro id date
    exact ⟨started, .inl rfl⟩
  rintro _ log₅ ⟨now₅, id₅, date₅, rfl⟩
  refine Follows.bind (reserveInventory_follows now₅ ?_ ?_) ?_
  · intro reserveCalls reserved faults called answered
    simpa using reserving called answered
  · intro reserveCalls reserved faults called answered
    exact ⟨by simpa using reserving called answered, .inl rfl⟩
  rintro result log₆ ⟨reserveCalls, reserved, called, answered, complete, now₆⟩
  simp only [Footprint.mk_append_mk, List.append_nil, List.nil_append] at now₆
  have ended : Fulfilling platform context
      { createCalls := [saga], created := [saga], updateCalls := [saga.running],
        updated := [saga.running], reserveCalls, reserved } :=
    reserving called answered
  cases result with
  | false =>
      simp only [Bool.not_false, if_true]
      refine Follows.local_bind rfl now₆ ended ?_
      intro date₇ log₇ now₇
      refine Follows.bind (endStep_follows rfl now₇ ended ?_) ?_
      · change Interrupted platform context (_ ++ {})
        rw [Footprint.append_empty]
        exact ⟨ended, .inl rfl⟩
      intro _ log₈ now₈
      exact compensate_interrupts new called answered (SagaContext.Charging.none context) now₈
  | true =>
      simp only [Bool.not_true, Bool.false_eq_true, if_false]
      rcases complete rfl with ⟨rfl, rfl⟩
      refine Follows.local_bind rfl now₆ ended ?_
      intro date₇ log₇ now₇
      refine Follows.bind (endStep_follows rfl now₇ ended ?_) ?_
      · change Interrupted platform context (_ ++ {})
        rw [Footprint.append_empty]
        exact ⟨ended, .inl rfl⟩
      intro _ log₈ now₈
      exact chargeAndComplete_follows new now₈

end Run

end Orderly
