import Orderly.Fulfilment.StepLog

/-!
# The step log is a write-ahead log

A walk through `startSaga`, call by call.  While the run goes forward its rows
are known exactly.  From the write of COMPENSATING on, only their cores are,
because a compensation writes back what it has read, with new compensation
fields.
-/

namespace Orderly

open Process (Program System)

namespace StepLog

/-! ## Forward -/

section Forwards

variable {platform : Platform} {view : Json → Json} {context : SagaContext} {sagaId : Uuid} {start : World}
  {log : CallLog}
  {rows : List SagaStep} {α β : Type}

/-- A saga row that is created has this id. -/
def CreatesAs (sagaId : Uuid) (event : CallEvent) : Prop := event.call.createsAs sagaId = true

theorem CreatesAs.created {sagaId : Uuid} {event : CallEvent} (creates : CreatesAs sagaId event) (row : SagaInstance)
    (call : event.call = .createSaga row) : row.id = sagaId := by
  unfold CreatesAs at creates
  rw [call] at creates
  exact of_decide_eq_true creates

/-- A run that is still going forward has left these rows. -/
structure Standing (sagaId : Uuid) (start : World) (rows : List SagaStep) (log : CallLog) : Prop where
  left : rowsAt sagaId start log = rows
  forward : Forward log

/-- From this log on, a routine issues permitted calls only. -/
def Logs (platform : Platform) (view : Json → Json) (context : SagaContext) (sagaId : Uuid) (start : World)
    (Returns : α → CallLog → Prop) (program : Service α) (log : CallLog) : Prop :=
  program.Meets (fun log event => Amid platform sagaId start log event ∧ CreatesAs sagaId event)
    (Permits platform view context sagaId start) Returns (fun _ _ => True) log

theorem Forward.cons {event : CallEvent} (forward : Forward log) (onward : event.call.compensates = false) :
    Forward (event :: log) := by
  intro other member
  rcases List.mem_cons.mp member with rfl | earlier
  · exact onward
  · exact forward other earlier

theorem Standing.frame {event : CallEvent} (standing : Standing sagaId start rows log)
    (admitted : Amid platform sagaId start log event) (other : event.call.area ≠ .steps)
    (onward : event.call.compensates = false) : Standing sagaId start rows (event :: log) :=
  ⟨(rowsAt_frame admitted other).trans standing.left, standing.forward.cons onward⟩

theorem Logs.bind {Middle : α → CallLog → Prop} {Returns : β → CallLog → Prop} {program : Service α}
    {next : α → Service β} (first : Logs platform view context sagaId start Middle program log)
    (second : ∀ value log, Middle value log → Logs platform view context sagaId start Returns (next value) log) :
    Logs platform view context sagaId start Returns (program >>= next) log :=
  Program.Meets.bind first second

/-- A call that leaves the rows alone. -/
theorem Logs.call_bind {request : Call} {next : request.Reply → Service β} {Returns : β → CallLog → Prop}
    (standing : Standing sagaId start rows log) (other : request.area ≠ .steps)
    (onward : request.compensates = false) (permits : Permits platform view context sagaId start log request)
    (answered : ∀ value log', Standing sagaId start rows log' → log <:+ log' →
      request.createsAs sagaId = true →
      Logs platform view context sagaId start Returns (next value) log') :
    Logs platform view context sagaId start Returns (Program.call (S := ports) request >>= next) log := by
  refine Program.Meets.call_bind permits (fun _ _ _ _ => trivial) ?_
  intro value before after admitted
  exact answered value _ (standing.frame admitted.1 other onward) (List.suffix_cons _ _) admitted.2

/-- A call whose answer is the routine's result. -/
theorem Logs.call (request : Call) {Returns : request.Reply → CallLog → Prop}
    (permits : Permits platform view context sagaId start log request)
    (answered : ∀ value before after, Amid platform sagaId start log ⟨request, .ok value, before, after⟩ →
      Returns value (⟨request, .ok value, before, after⟩ :: log)) :
    Logs platform view context sagaId start Returns (Program.call (S := ports) request) log := by
  refine Program.Meets.call permits (fun _ _ _ _ => trivial) ?_
  intro value before after admitted
  exact answered value before after admitted.1

/-- Drawing an id or reading the clock. -/
theorem Logs.local_bind {request : Call} {next : request.Reply → Service β} {Returns : β → CallLog → Prop}
    (isLocal : request.isLocal = true) (standing : Standing sagaId start rows log)
    (answered : ∀ value log', Standing sagaId start rows log' → log <:+ log' →
      Logs platform view context sagaId start Returns (next value) log') :
    Logs platform view context sagaId start Returns (Program.call (S := ports) request >>= next) log := by
  cases request with
  | uuidv4 =>
      exact Logs.call_bind standing (by decide) rfl (fun _ named => by cases named)
        fun value log' now suffix _ => answered value log' now suffix
  | newDate =>
      exact Logs.call_bind standing (by decide) rfl (fun _ named => by cases named)
        fun value log' now suffix _ => answered value log' now suffix
  | _ => cases isLocal

/-- The work of a step: none of its calls touches the rows. -/
theorem Logs.work {program : Service α} {name : StepName} {Returned : α → Footprint → Prop}
    (issues : program.Issues (Call.Within name)) (standing : Standing sagaId start rows log)
    (prepared : Prepared view rows (footprint log) name)
    (follows : Follows platform (fun _ => True) (fun _ => True) Returned (fun _ => True) program log) :
    Logs platform view context sagaId start
      (fun value log' => Standing sagaId start rows log' ∧ log <:+ log' ∧ Returned value (footprint log'))
      program log := by
  have kept : program.Meets (fun log event => Amid platform sagaId start log event ∧ CreatesAs sagaId event)
      (Permits platform view context sagaId start)
      (fun _ log' => Standing sagaId start rows log' ∧ Prepared view rows (footprint log') name ∧ log <:+ log')
      (fun _ log' => Standing sagaId start rows log' ∧ Prepared view rows (footprint log') name ∧ log <:+ log') log := by
    apply issues.meets ⟨standing, prepared, List.suffix_refl log⟩
    · intro log' call ⟨now, ready, _⟩ within
      have demanded : ∀ other, call.stepName = some other →
          Prepared view (rowsAt sagaId start log') (footprint log') other := by
        intro other named
        rw [now.left, within.named other named]
        exact ready
      cases call with
      | createStep step => exact absurd rfl within.steps
      | updateStep step => exact absurd rfl within.steps
      | updateSaga saga => exact absurd rfl within.sagas
      | _ => exact demanded
    · intro log' event ⟨now, ready, suffix⟩ within admitted
      have onward : event.call.compensates = false := by
        have sagas := within.sagas
        cases call : event.call with
        | updateSaga saga =>
            rw [call] at sagas
            exact absurd rfl sagas
        | _ => rfl
      exact ⟨now.frame admitted.1 within.steps onward, ready.outlast (.refl _) _, suffix.trans (List.suffix_cons _ _)⟩
  have known : program.Meets (fun log event => Amid platform sagaId start log event ∧ CreatesAs sagaId event)
      (fun _ _ => True) (fun value log' => Returned value (footprint log')) (fun _ _ => True) log :=
    Program.Meets.narrow (fun _ _ admitted => ⟨admitted.1.1, trivial⟩) follows
  refine ((kept.both known).widen fun _ _ allowed => allowed.1).weaken ?_ fun _ _ _ => trivial
  exact fun _ _ ⟨⟨now, _, suffix⟩, returned⟩ => ⟨now, suffix, returned⟩

/-- A step begins: its row is the next of the plan. -/
theorem beginStep_logs {name : StepName} {order : Nat} {input : Json} (standing : Standing sagaId start rows log)
    (planned : rows.map SagaStep.label ++ [(order, name)] <+: stepPlan) :
    Logs platform view context sagaId start
      (fun step log' => ∃ row, step.id = row.id ∧ row.label = (order, name) ∧ row.status = .running ∧
        Standing sagaId start (rows ++ [row]) log' ∧ log <:+ log')
      (SagaOrchestrator.beginStep sagaId name order input) log := by
  unfold SagaOrchestrator.beginStep
  refine Logs.local_bind rfl standing ?_
  intro (id : Uuid) log₁ now₁ suffix₁
  refine Logs.local_bind rfl now₁ ?_
  intro (date : Date) log₂ now₂ suffix₂
  have permits : Permits platform view context sagaId start log₂
      (.createStep (createStep id sagaId name order input date)) := by
    refine ⟨now₂.forward, rfl, rfl, ?_⟩
    rw [now₂.left]
    exact planned
  refine Program.Meets.call_bind permits (fun _ _ _ _ => trivial) ?_
  intro _ before after ⟨admitted, _⟩
  refine ⟨Database.stepRow platform (createStep id sagaId name order input date), rfl, rfl, rfl,
    ⟨?_, now₂.forward.cons rfl⟩, (suffix₁.trans suffix₂).trans (List.suffix_cons _ _)⟩
  rcases admits_iff.mp admitted.1 with ⟨choice, performed⟩
  have found : stepsOf sagaId before = rows := admitted.2.trans now₂.left
  have own : (createStep id sagaId name order input date).sagaId = sagaId := rfl
  rcases stepsOf_created performed own with ⟨_, refused⟩ | appended
  · exact absurd rfl refused
  · rw [found] at appended
    exact appended

/-- A step ends: its own row is rewritten. -/
theorem endStep_logs (earlier later : List SagaStep) {row changed : SagaStep}
    (standing : Standing sagaId start (earlier ++ row :: later) log) (running : row.status = .running)
    (same : changed.id = row.id)
    (succeeded : changed.status = .completed → Succeeded platform context (footprint log) row.stepName) :
    Logs platform view context sagaId start
      (fun _ log' => Standing sagaId start (earlier ++ Database.setStep platform changed row :: later) log' ∧
        log <:+ log')
      (SagaOrchestrator.endStep changed) log := by
  have unique : ((earlier ++ row :: later).map SagaStep.id).Nodup := by
    rw [← standing.left]
    exact stepsOf_unique _ _
  have permits : Permits platform view context sagaId start log (.updateStep changed) := by
    intro other member named
    rw [standing.left] at member
    have itself : other = row := List.inj_on_of_nodup_map unique member (by simp) (named.trans same)
    subst itself
    exact Or.inr ⟨standing.forward, running, succeeded⟩
  apply Logs.call (.updateStep changed) permits
  intro _ before after admitted
  refine ⟨⟨?_, standing.forward.cons rfl⟩, List.suffix_cons _ _⟩
  rcases admits_iff.mp admitted.1 with ⟨choice, performed⟩
  have found : stepsOf sagaId before = earlier ++ row :: later := admitted.2.trans standing.left
  rcases stepsOf_updated performed with ⟨_, refused⟩ | changes
  · exact absurd rfl refused
  · rw [found, rewritten_one unique same] at changes
    exact changes

end Forwards

/-! ## The calls of the subroutines -/

section Subroutines

variable {platform : Platform} {context : SagaContext}

theorem local_within {name : StepName} {call : Call} (isLocal : call.isLocal = true) : Call.Within name call := by
  cases call with
  | uuidv4 => exact ⟨by decide, by decide, fun _ named => (by cases named), rfl⟩
  | newDate => exact ⟨by decide, by decide, fun _ named => (by cases named), rfl⟩
  | _ => cases isLocal

theorem allSettled_issues (releases : List LockRelease) {name : StepName} :
    (LockManager.allSettled releases).Issues (Call.Within name) := by
  induction releases with
  | nil => trivial
  | cons release rest inductionHypothesis =>
      have unlocks : Call.Within name (.unlock release) :=
        ⟨by simp [Call.area], by simp [Call.area], fun _ named => (by cases named), rfl⟩
      exact Program.Issues.bind (Program.Issues.call unlocks).attempt fun _ => inductionHypothesis

theorem inventory_within {call : Call} (area : call.area = .nothing ∨ call.area = .inventory)
    (named : call.stepName = none ∨ call.stepName = some .reserveInventory) (unrefunded : call.refunds = false) :
    Call.Within .reserveInventory call := by
  refine ⟨?_, ?_, ?_, unrefunded⟩
  · rcases area with area | area <;> rw [area] <;> decide
  · rcases area with area | area <;> rw [area] <;> decide
  · intro other same
    rcases named with named | named
    · rw [named] at same
      cases same
    · exact Option.some.inj (same.symm.trans named)

theorem reserveLoop_issues (items : List InventoryReservation) (releases : List LockRelease) :
    (InventoryService.reserveLoop items releases).Issues (Call.Within .reserveInventory) := by
  induction items generalizing releases with
  | nil => trivial
  | cons item rest inductionHypothesis =>
      refine Program.Issues.bind (Program.Issues.call (inventory_within (.inl rfl) (.inr rfl) rfl)).attempt ?_
      intro acquired
      rcases acquired with error | (_ | release)
      · trivial
      · trivial
      · refine Program.Issues.bind (Program.Issues.call (inventory_within (.inl rfl) (.inr rfl) rfl)).attempt ?_
        intro found
        rcases found with error | inventory
        · trivial
        · dsimp only
          split
          · trivial
          · refine Program.Issues.bind (Program.Issues.call (inventory_within (.inr rfl) (.inr rfl) rfl)).attempt ?_
            intro reserved
            rcases reserved with error | (_ | _)
            · trivial
            · trivial
            · exact inductionHypothesis _

theorem reserveInventory_issues (items : List InventoryReservation) :
    (InventoryService.reserveInventory platform items).Issues (Call.Within .reserveInventory) := by
  refine Program.Issues.bind (reserveLoop_issues _ _) fun result => ?_
  exact Program.Issues.bind (allSettled_issues _) fun _ => Program.Issues.ofExcept _

theorem releaseLoop_issues (items : List InventoryReservation) (releases : List LockRelease) :
    (InventoryService.releaseLoop items releases).Issues (Call.Within .reserveInventory) := by
  induction items generalizing releases with
  | nil => trivial
  | cons item rest inductionHypothesis =>
      refine Program.Issues.bind (Program.Issues.call (inventory_within (.inl rfl) (.inr rfl) rfl)).attempt ?_
      intro acquired
      rcases acquired with error | (_ | release)
      · trivial
      · trivial
      · refine Program.Issues.bind (Program.Issues.call (inventory_within (.inr rfl) (.inl rfl) rfl)).attempt ?_
        intro released
        rcases released with error | (_ | _)
        · trivial
        · trivial
        · exact inductionHypothesis _

theorem releaseInventory_issues (items : List InventoryReservation) :
    (InventoryService.releaseInventory platform items).Issues (Call.Within .reserveInventory) := by
  refine Program.Issues.bind (releaseLoop_issues _ _) fun result => ?_
  exact Program.Issues.bind (allSettled_issues _) fun _ => Program.Issues.ofExcept _

theorem charge_issues (request : PaymentChargeRequest) :
    (PaymentService.charge gatewayPort paymentResiliencePolicy request).Issues (Call.Within .processPayment) := by
  have within : ∀ {call : Call}, call.area = .nothing → call.stepName = some .processPayment →
      call.refunds = false → Call.Within .processPayment call := by
    intro call area named unrefunded
    refine ⟨?_, ?_, fun other same => Option.some.inj (same.symm.trans named), unrefunded⟩
    all_goals
      rw [area]
      decide
  have charges : Call.Within .processPayment (.charge request.orderId request.amount request.paymentToken) :=
    within rfl rfl rfl
  have retried : ∀ attempts, (CircuitBreaker.retry attempts
      (gatewayPort.charge request.orderId request.amount request.paymentToken)).Issues
        (Call.Within .processPayment) := by
    intro attempts
    induction attempts with
    | zero => exact Program.Issues.call charges
    | succ attempts inductionHypothesis =>
        exact Program.Issues.tryCatch (Program.Issues.call charges) fun _ => inductionHypothesis
  refine Program.Issues.tryCatch ?_ fun _ => trivial
  refine Program.Issues.bind (Program.Issues.call (within rfl rfl rfl)) fun admits => ?_
  cases admits with
  | true => exact retried _
  | false => trivial

/-- The transactions of the saga: two statements and their commit. -/
theorem orderTransaction_issues {Only : Call → Prop} {orderId : Uuid} {status : OrderStatus} {event : NewOutboxEvent}
    (draws : Only .uuidv4) (updates : Only (.execute (.updateOrderStatus orderId status)))
    (inserts : ∀ eventId, Only (.execute (.insertOutboxEvent eventId event)))
    (commits : ∀ eventId, Only (.commit [.updateOrderStatus orderId status, .insertOutboxEvent eventId event])) :
    (TransactionManager.begin fun tx => do
      let tx ← OrderRepository.updateStatus orderId status tx
      OutboxRepository.createWithSql event tx).Issues Only := by
  refine ⟨updates, fun reply => ?_⟩
  rcases reply with error | _
  · trivial
  refine ⟨draws, fun reply => ?_⟩
  rcases reply with error | eventId
  · trivial
  refine ⟨inserts eventId, fun reply => ?_⟩
  rcases reply with error | _
  · trivial
  exact ⟨commits eventId, fun reply => Program.Issues.ofExcept reply⟩

end Subroutines

/-! ## Compensation -/

section Backwards

variable {platform : Platform} {view : Json → Json} {context : SagaContext} {sagaId : Uuid} {start : World}
  {log : CallLog}
  {rows steps : List SagaStep} {saga : SagaInstance}

/-- What a compensation issues that has read these steps. -/
def Undoes (view : Json → Json) (steps : List SagaStep) : Call → Prop
  | .createStep _ => False
  | .updateStep step => ∃ read ∈ steps, step.core view = read.core view
  | .updateSaga saga => saga.status ≠ .completed
  | call => ∀ name, call.stepName = some name → name = .reserveInventory

theorem undoes_of_within {call : Call} (within : Call.Within .reserveInventory call) : Undoes view steps call := by
  cases call with
  | createStep step => exact absurd rfl within.steps
  | updateStep step => exact absurd rfl within.steps
  | updateSaga saga => exact absurd rfl within.sagas
  | _ => exact within.named

theorem undoes_of_unnamed {call : Call} (named : call.stepName = none) (steps' : call.area ≠ .steps)
    (sagas : call.area ≠ .sagas) : Undoes view steps call := by
  cases call with
  | createStep step => exact absurd rfl steps'
  | updateStep step => exact absurd rfl steps'
  | updateSaga saga => exact absurd rfl sagas
  | _ => exact fun name same => by cases named.symm.trans same

theorem compensatePayment_issues : (SagaOrchestrator.compensatePayment context steps).Issues (Undoes view steps) := by
  unfold SagaOrchestrator.compensatePayment
  split
  · trivial
  · next transactionId _ =>
      refine Program.Issues.bind (Program.Issues.ofExcept _) fun amount => ?_
      have refunds : Undoes view steps (.refund transactionId amount) :=
        undoes_of_unnamed rfl (by simp [Call.area]) (by simp [Call.area])
      refine Program.Issues.bind (Program.Issues.tryCatch (Program.Issues.call refunds) fun _ => trivial) ?_
      intro result
      split
      · trivial
      · next step found =>
          apply Program.Issues.call
          refine ⟨step, List.mem_of_find?_eq_some found, ?_⟩
          split <;> rfl

theorem compensateInventory_issues :
    (SagaOrchestrator.compensateInventory platform context steps).Issues (Undoes view steps) := by
  refine Program.Issues.bind ((releaseInventory_issues _).weaken fun _ => undoes_of_within) fun released => ?_
  split
  · trivial
  · next step found =>
      apply Program.Issues.call
      refine ⟨step, List.mem_of_find?_eq_some found, ?_⟩
      split <;> rfl

theorem undoSteps_issues :
    (SagaOrchestrator.undoSteps platform context steps saga).Issues (Undoes view steps) := by
  refine Program.Issues.bind compensatePayment_issues fun _ => ?_
  refine Program.Issues.bind compensateInventory_issues fun _ => ?_
  have draws : ∀ {call : Call}, call.isLocal = true → Undoes view steps call :=
    fun isLocal => undoes_of_within (local_within isLocal)
  refine Program.Issues.bind (Program.Issues.tryCatch ?_ fun _ => trivial) fun _ => ?_
  · apply orderTransaction_issues (draws rfl)
    · exact undoes_of_unnamed rfl (by simp [Call.area]) (by simp [Call.area])
    · exact fun eventId => undoes_of_unnamed rfl (by simp [Call.area]) (by simp [Call.area])
    · exact fun eventId => undoes_of_unnamed rfl (by simp [Call.area]) (by simp [Call.area])
  refine Program.Issues.bind (Program.Issues.call (draws rfl)) fun now => ?_
  cases ended : completeCompensation saga now with
  | error error => trivial
  | ok failed =>
      have updates : Undoes view steps (.updateSaga failed) := by
        intro completed
        rw [(completeCompensation_ok ended).2] at completed
        cases completed
      change (SagaRepository.update failed >>= fun _ => pure failed).Issues (Undoes view steps)
      exact Program.Issues.bind (Program.Issues.call updates) fun _ => trivial

/-- Writing a step with the core of a row keeps the row's core. -/
theorem setStep_core (reads : ∀ payload, view (platform.jsonb payload) = view payload) {step row : SagaStep}
    (same : row.core view = step.core view) : (Database.setStep platform step row).core view = row.core view := by
  rcases row with ⟨id, sagaId, name, order, status, input, output, message, started, completed, kept, error⟩
  rcases step with ⟨id', sagaId', name', order', status', input', output', message', started', completed', kept', error'⟩
  simp only [SagaStep.core, SagaStep.mk.injEq] at same
  rcases same with ⟨_, _, _, _, rfl, _, shown, rfl, _, rfl, _⟩
  simp only [SagaStep.core, Database.setStep, reads, shown]

/-- A compensation has begun, with these cores. -/
structure Turned (view : Json → Json) (sagaId : Uuid) (start : World) (cores : List SagaStep) (log : CallLog) : Prop where
  turned : ¬ Forward log
  left : (rowsAt sagaId start log).map (SagaStep.core view) = cores

/-- What a compensation issues is permitted. -/
theorem Turned.permits (reads : ∀ payload, view (platform.jsonb payload) = view payload)
    (turned : Turned view sagaId start (rows.map (SagaStep.core view)) log)
    (reserving : ∃ row ∈ rows, row.stepName = .reserveInventory) (read : ∀ step ∈ steps, step ∈ rows) {call : Call}
    (undoes : Undoes view steps call) : Permits platform view context sagaId start log call := by
  have prepared : (∀ name, call.stepName = some name → name = .reserveInventory) →
      ∀ name, call.stepName = some name → Prepared view (rowsAt sagaId start log) (footprint log) name := by
    intro only name named
    rw [only name named]
    rcases reserving with ⟨row, member, reserves⟩
    have known : row.core view ∈ (rowsAt sagaId start log).map (SagaStep.core view) := by
      rw [turned.left]
      exact List.mem_map_of_mem member
    rcases List.mem_map.mp known with ⟨row', member', same⟩
    exact ⟨row', member', (core_stepName same).trans reserves⟩
  cases call with
  | createStep step => exact undoes.elim
  | updateStep step =>
      intro row member named
      rcases undoes with ⟨found, known, same⟩
      -- the row is the one that was read, because the ids of the cores are those of the rows
      have unique : (((rowsAt sagaId start log).map (SagaStep.core view)).map SagaStep.id).Nodup := by
        rw [List.map_map]
        exact stepsOf_unique sagaId _
      have one : row.core view ∈ (rowsAt sagaId start log).map (SagaStep.core view) := List.mem_map_of_mem member
      have other : found.core view ∈ (rowsAt sagaId start log).map (SagaStep.core view) := by
        rw [turned.left]
        exact List.mem_map_of_mem (read found known)
      have shared : step.id = found.id := core_congr SagaStep.id (fun _ => rfl) same
      have ids : (row.core view).id = (found.core view).id := named.trans shared
      exact Or.inl (setStep_core reads ((List.inj_on_of_nodup_map unique one other ids).trans same.symm))
  | updateSaga saga => exact fun completed => absurd completed undoes
  | _ => exact prepared undoes

theorem undoSteps_logs (reads : ∀ payload, view (platform.jsonb payload) = view payload)
    (turned : Turned view sagaId start (rows.map (SagaStep.core view)) log)
    (reserving : ∃ row ∈ rows, row.stepName = .reserveInventory) (read : ∀ step ∈ steps, step ∈ rows) :
    Logs platform view context sagaId start (fun _ _ => True)
      (SagaOrchestrator.undoSteps platform context steps saga) log := by
  have walked : (SagaOrchestrator.undoSteps platform context steps saga).Meets
      (fun log event => Amid platform sagaId start log event ∧ CreatesAs sagaId event)
      (Permits platform view context sagaId start) (fun _ => Turned view sagaId start (rows.map (SagaStep.core view)))
      (fun _ => Turned view sagaId start (rows.map (SagaStep.core view))) log := by
    apply undoSteps_issues.meets turned
    · exact fun log' call now undoes => now.permits reads reserving read undoes
    · intro log' event now undoes admitted
      have permits : Permits platform view context sagaId start log' event.call :=
        now.permits reads reserving read undoes
      refine ⟨fun forward => now.turned fun other member => forward other (List.mem_cons_of_mem _ member), ?_⟩
      exact (cores_step permits admitted.1 now.turned).trans now.left
  exact walked.weaken (fun _ _ _ => trivial) fun _ _ _ => trivial

/-- From the write of COMPENSATING on, only compensation fields change. -/
theorem compensate_logs (reads : ∀ payload, view (platform.jsonb payload) = view payload)
    (standing : Standing sagaId start rows log) (reserving : ∃ row ∈ rows, row.stepName = .reserveInventory)
    (running : saga.status = .running) :
    Logs platform view context sagaId start (fun _ _ => True)
      (SagaOrchestrator.compensate platform sagaId context saga) log := by
  unfold SagaOrchestrator.compensate startCompensation
  rw [if_neg (fun other => other running)]
  have announces : Permits platform view context sagaId start log (.updateSaga saga.compensating) :=
    fun impossible => by cases impossible
  refine Program.Meets.call_bind announces (fun _ _ _ _ => trivial) ?_
  intro _ before after announced
  have left := (rowsAt_frame announced.1 (by simp [Call.area])).trans standing.left
  refine Program.Meets.call_bind (fun _ named => by cases named) (fun _ _ _ _ => trivial) ?_
  intro (steps : List SagaStep) before' after' found
  have still := (rowsAt_frame found.1 (by simp [Call.area])).trans left
  refine undoSteps_logs reads ⟨fun forward => ?_, by rw [still]⟩ reserving ?_
  · have onward := forward _ (List.mem_cons_of_mem _ List.mem_cons_self)
    exact absurd onward (by simp [Call.compensates])
  intro step member
  rcases admits_iff.mp found.1.1 with ⟨choice, performed⟩
  rw [(World.getSteps_answered performed).1] at member
  have same : stepsOf sagaId before' = rows := found.1.2.trans left
  rw [← same]
  exact mem_getSteps_stepsOf.mp member

end Backwards

/-! ## The whole run -/

section Run

variable {platform : Platform} {view : Json → Json} {context : SagaContext} {sagaId : Uuid} {start : World}
  {log : CallLog}
  {saga : SagaInstance}

theorem confirmOrder_issues (transactionId : Option String) :
    (SagaOrchestrator.confirmOrder context transactionId).Issues (Call.Within .confirmOrder) := by
  have within : ∀ {call : Call} (confirms : Bool), call.area = .nothing ∨ call.area = .orders →
      call.stepName = (if confirms then some .confirmOrder else none) → call.refunds = false →
        Call.Within .confirmOrder call := by
    intro call confirms area stepName unrefunded
    refine ⟨?_, ?_, ?_, unrefunded⟩
    · rcases area with area | area <;> rw [area] <;> decide
    · rcases area with area | area <;> rw [area] <;> decide
    · intro other named
      rw [stepName] at named
      split at named
      · exact (Option.some.inj named).symm
      · cases named
  have executes : ∀ statement, Call.Within .confirmOrder (.execute statement) :=
    fun statement => within statement.confirms (.inl rfl) rfl rfl
  have commits : ∀ transaction, Call.Within .confirmOrder (.commit transaction) :=
    fun transaction => within (transaction.any Statement.confirms) (.inr rfl) rfl rfl
  exact orderTransaction_issues (local_within rfl) (executes _) (fun _ => executes _) fun _ => commits _

theorem footprint_suffix {log' : CallLog} (suffix : log <:+ log') :
    ∃ since, footprint log' = footprint log ++ since := by
  rcases suffix with ⟨since, rfl⟩
  exact ⟨footprint since, footprint_append since log⟩

theorem Succeeded.suffix {name : StepName} {log' : CallLog}
    (succeeded : Succeeded platform context (footprint log) name) (suffix : log <:+ log') :
    Succeeded platform context (footprint log') name := by
  rcases footprint_suffix suffix with ⟨since, same⟩
  rw [same]
  exact succeeded.append since

/-- From the confirmed payment on. -/
theorem confirmAndComplete_logs {first second : SagaStep} {transactionId : Option String} {amount : Money}
    (own : saga.id = sagaId) (standing : Standing sagaId start [first, second] log)
    (firstLabel : first.label = (0, .reserveInventory)) (firstStatus : first.status = .completed)
    (secondLabel : second.label = (1, .processPayment)) (secondStatus : second.status = .completed)
    (output : view second.outputPayload = view (.obj [("transactionId", .ofOption transactionId)]))
    (charged : (transactionId, amount) ∈ (footprint log).charges) :
    Logs platform view context sagaId start (fun _ _ => True)
      (SagaOrchestrator.confirmAndComplete context saga.running transactionId) log := by
  subst own
  have secondName : second.stepName = .processPayment := congrArg Prod.snd secondLabel
  unfold SagaOrchestrator.confirmAndComplete
  refine Logs.bind (beginStep_logs standing ?_) ?_
  · change [first.label, second.label] ++ _ <+: _
    rw [firstLabel, secondLabel]
    exact ⟨[(3, .emitEvents)], rfl⟩
  rintro step₂ log₁ ⟨third, sameThird, thirdLabel, thirdRuns, now₁, suffix₁⟩
  refine Logs.bind (beginStep_logs now₁ ?_) ?_
  · change [first.label, second.label, third.label] ++ _ <+: _
    rw [firstLabel, secondLabel, thirdLabel]
    exact ⟨[], rfl⟩
  rintro step₃ log₂ ⟨fourth, sameFourth, fourthLabel, fourthRuns, now₂, suffix₂⟩
  have thirdName : third.stepName = .confirmOrder := congrArg Prod.snd thirdLabel
  have fourthName : fourth.stepName = .emitEvents := congrArg Prod.snd fourthLabel
  have prepared : Prepared view [first, second, third, fourth] (footprint log₂) .confirmOrder := by
    rcases footprint_suffix (suffix₁.trans suffix₂) with ⟨since, same⟩
    have known : (transactionId, amount) ∈ (footprint log₂).charges := by
      rw [same]
      exact List.mem_append_left _ charged
    exact ⟨⟨third, by simp, thirdName⟩, ⟨fourth, by simp, fourthName⟩, second, by simp, secondName, secondStatus, _,
      known, output⟩
  refine Logs.bind (Logs.work (confirmOrder_issues transactionId) now₂ prepared
    (orderTransaction_follows rfl trivial (fun _ _ => trivial) fun _ => trivial)) ?_
  rintro _ log₃ ⟨now₃, suffix₃, eventId, done⟩
  have committed : Succeeded platform context (footprint log₃) .confirmOrder := by
    refine ⟨transactionId, eventId, ?_⟩
    rw [done]
    exact List.mem_append_right _ (List.mem_singleton_self _)
  refine Logs.local_bind rfl now₃ ?_
  intro (date₄ : Date) log₄ now₄ suffix₄
  refine Logs.bind (endStep_logs [first, second] [fourth] now₄ thirdRuns sameThird fun _ => ?_) ?_
  · rw [thirdName]
    exact committed.suffix suffix₄
  rintro _ log₅ ⟨now₅, suffix₅⟩
  refine Logs.local_bind rfl now₅ ?_
  intro (date₆ : Date) log₆ now₆ suffix₆
  refine Logs.bind (endStep_logs [first, second, _] [] now₆ fourthRuns sameFourth fun _ => ?_) ?_
  · rw [fourthName]
    exact committed.suffix (suffix₄.trans (suffix₅.trans suffix₆))
  rintro _ log₇ ⟨now₇, _⟩
  refine Logs.local_bind rfl now₇ ?_
  intro (date₈ : Date) log₈ now₈ _
  have transition : completeSaga saga.running date₈ = .ok (saga.completedOn date₈) := rfl
  rw [transition]
  refine Program.Meets.call_bind ?_ (fun _ _ _ _ => trivial) fun _ _ _ _ => trivial
  intro _
  rw [now₈.left]
  constructor
  · change [first.label, second.label, third.label, fourth.label] = _
    rw [firstLabel, secondLabel, thirdLabel, fourthLabel]
    rfl
  · intro row member
    simp only [List.cons_append, List.nil_append, List.mem_cons, List.not_mem_nil, or_false] at member
    rcases member with rfl | rfl | rfl | rfl
    · exact firstStatus
    · exact secondStatus
    · rfl
    · rfl

/-- From the reserved inventory on. -/
theorem chargeAndComplete_logs (reads : ∀ payload, view (platform.jsonb payload) = view payload) {first : SagaStep}
    (own : saga.id = sagaId) (standing : Standing sagaId start [first] log)
    (label : first.label = (0, .reserveInventory)) (status : first.status = .completed) :
    Logs platform view context sagaId start (fun _ _ => True)
      (SagaOrchestrator.chargeAndComplete platform context saga.running) log := by
  subst own
  have name : first.stepName = .reserveInventory := congrArg Prod.snd label
  unfold SagaOrchestrator.chargeAndComplete
  refine Logs.bind (beginStep_logs standing ?_) ?_
  · change [first.label] ++ _ <+: _
    rw [label]
    exact ⟨[(2, .confirmOrder), (3, .emitEvents)], rfl⟩
  rintro step₁ log₁ ⟨second, same, secondLabel, runs, now₁, suffix₁⟩
  have secondName : second.stepName = .processPayment := congrArg Prod.snd secondLabel
  rcases money : context.money with error | amount
  · trivial
  have prepared : Prepared view [first, second] (footprint log₁) .processPayment :=
    ⟨⟨second, by simp, secondName⟩, first, by simp, name, status⟩
  change Logs platform view context saga.id start _ (PaymentService.charge gatewayPort paymentResiliencePolicy
    { orderId := context.orderId, amount := amount, paymentToken := context.paymentToken } >>= _) log₁
  refine Logs.bind (Logs.work (charge_issues _) now₁ prepared (charge_follows rfl fun _ _ => trivial)) ?_
  rintro result log₂ ⟨now₂, suffix₂, _, _, done⟩
  cases success : result.success with
  | false =>
      simp only [Bool.not_false, if_true]
      refine Logs.local_bind rfl now₂ ?_
      intro (date₃ : Date) log₃ now₃ _
      refine Logs.bind (endStep_logs [first] [] now₃ runs same fun completed => by cases completed) ?_
      rintro _ log₄ ⟨now₄, _⟩
      exact compensate_logs reads now₄ ⟨first, List.mem_cons_self, name⟩ rfl
  | true =>
      simp only [Bool.not_true, Bool.false_eq_true, if_false]
      have charged : (result.transactionId, amount) ∈ (footprint log₂).charges := by
        rw [done, success]
        exact List.mem_append_right _ (List.mem_singleton_self _)
      refine Logs.local_bind rfl now₂ ?_
      intro (date₃ : Date) log₃ now₃ suffix₃
      have paid : Succeeded platform context (footprint log₂) .processPayment := ⟨_, _, money, charged⟩
      refine Logs.bind (endStep_logs [first] [] now₃ runs same fun _ => ?_) ?_
      · rw [secondName]
        exact paid.suffix suffix₃
      rintro _ log₄ ⟨now₄, suffix₄⟩
      rcases footprint_suffix (suffix₃.trans suffix₄) with ⟨since, grown⟩
      have known : (result.transactionId, amount) ∈ (footprint log₄).charges := by
        rw [grown]
        exact List.mem_append_left _ charged
      exact confirmAndComplete_logs rfl now₄ label status secondLabel rfl (reads _) known

/-- A whole run. -/
theorem startSaga_logs (reads : ∀ payload, view (platform.jsonb payload) = view payload)
    (unused : stepsOf sagaId start = []) :
    Logs platform view context sagaId start (fun _ _ => True) (SagaOrchestrator.startSaga platform context) [] := by
  have standing : Standing sagaId start [] [] := ⟨unused, fun _ member => by cases member⟩
  unfold SagaOrchestrator.startSaga
  refine Logs.local_bind rfl standing ?_
  intro (id : Uuid) log₁ now₁ _
  refine Logs.local_bind rfl now₁ ?_
  intro (date : Date) log₂ now₂ _
  refine Logs.call_bind now₂ (by simp [Call.area]) rfl (fun _ named => by cases named) ?_
  intro _ log₃ now₃ _ named
  obtain rfl : id = sagaId := of_decide_eq_true named
  have transition : startSaga (createSagaInstance id context.orderId date) =
      .ok (createSagaInstance id context.orderId date).running := rfl
  rw [transition]
  refine Logs.call_bind now₃ (by simp [Call.area]) rfl (fun impossible => by cases impossible) ?_
  intro _ log₄ now₄ _ _
  refine Logs.bind (beginStep_logs now₄ ?_) ?_
  · exact ⟨[(1, .processPayment), (2, .confirmOrder), (3, .emitEvents)], rfl⟩
  rintro step₀ log₅ ⟨first, same, label, runs, now₅, _⟩
  have name : first.stepName = .reserveInventory := congrArg Prod.snd label
  refine Logs.bind (Logs.work (reserveInventory_issues _) now₅ ⟨first, List.mem_singleton_self _, name⟩
    (reserveInventory_follows rfl (fun _ _ => trivial) fun _ _ => trivial)) ?_
  rintro reserved log₆ ⟨now₆, _, reserveCalls, taken, _, _, complete, done⟩
  cases reserved with
  | false =>
      simp only [Bool.not_false, if_true]
      refine Logs.local_bind rfl now₆ ?_
      intro (date₇ : Date) log₇ now₇ _
      refine Logs.bind (endStep_logs [] [] now₇ runs same fun completed => by cases completed) ?_
      rintro _ log₈ ⟨now₈, _⟩
      exact compensate_logs reads now₈ ⟨_, List.mem_singleton_self _, name⟩ rfl
  | true =>
      simp only [Bool.not_true, Bool.false_eq_true, if_false]
      refine Logs.local_bind rfl now₆ ?_
      intro (date₇ : Date) log₇ now₇ suffix₇
      have taking : Succeeded platform context (footprint log₆) .reserveInventory := by
        change _ <:+: (footprint log₆).reserved
        rw [done, (complete rfl).2]
        exact (List.suffix_append _ _).isInfix
      refine Logs.bind (endStep_logs [] [] now₇ runs same fun _ => ?_) ?_
      · rw [name]
        exact taking.suffix suffix₇
      rintro _ log₈ ⟨now₈, _⟩
      exact chargeAndComplete_logs reads rfl now₈ label rfl

/-- The calls a routine has issued: the answered ones, and the one it awaits. -/
def issued (log : CallLog) : Service α → List Call
  | .await call _ => call :: log.map Process.Event.call
  | _ => log.map Process.Event.call

/-- The step log of a run is a write-ahead log. -/
structure WriteAhead (platform : Platform) (view : Json → Json) (context : SagaContext) (sagaId : Uuid)
    (start : World) (log : CallLog) (calls : List Call) : Prop where
  /-- the steps are written in the order of the plan, each once -/
  planned : (rowsAt sagaId start log).map SagaStep.label <+: stepPlan
  /-- no call of a step is issued before the rows say what they have to say -/
  prepared : ∀ call ∈ calls, ∀ name, call.stepName = some name →
    Prepared view (rowsAt sagaId start log) (footprint log) name
  /-- a step is recorded as COMPLETED only after its work -/
  succeeded : ∀ row ∈ rowsAt sagaId start log, row.status = .completed →
    Succeeded platform context (footprint log) row.stepName
  /-- a saga is recorded as COMPLETED only after its four steps -/
  completed : ∀ saga, .updateSaga saga ∈ calls → saga.status = .completed → Complete (rowsAt sagaId start log)
  /-- a compensation rewrites nothing but compensation fields -/
  kept : ∀ later event earlier, log = later ++ event :: earlier → event.call.compensates = true →
    (rowsAt sagaId start log).map (SagaStep.core view) = (rowsAt sagaId start earlier).map (SagaStep.core view)

/-- Once a compensation has begun, the cores are those it found. -/
theorem cores_kept (lawful : System.Lawful (Amid platform sagaId start) (Permits platform view context sagaId start) log)
    (later : CallLog) {event : CallEvent} {earlier : CallLog} (split : log = later ++ event :: earlier)
    (compensates : event.call.compensates = true) :
    (rowsAt sagaId start log).map (SagaStep.core view) = (rowsAt sagaId start earlier).map (SagaStep.core view) := by
  induction later generalizing log with
  | nil =>
      subst split
      -- the write that announces the compensation is a write of the saga row
      have area : event.call.area ≠ .steps := by
        cases call : event.call with
        | updateSaga saga => simp [Call.area]
        | _ =>
            rw [call] at compensates
            cases compensates
      exact congrArg _ (rowsAt_frame lawful.2.1 area)
  | cons last later inductionHypothesis =>
      subst split
      have turned : ¬ Forward (later ++ event :: earlier) := by
        intro forward
        have onward := forward event (List.mem_append_right _ List.mem_cons_self)
        rw [compensates] at onward
        cases onward
      exact (cores_step lawful.1 lawful.2.1 turned).trans (inductionHypothesis lawful.2.2 rfl)

/-- Permitted calls keep the log in order. -/
theorem recorded (unused : stepsOf sagaId start = [])
    (lawful : System.Lawful (Amid platform sagaId start) (Permits platform view context sagaId start) log) :
    Recorded platform view context sagaId start log := by
  refine lawful.invariant ?_ fun _ _ permits admitted now => now.step permits admitted
  have none : rowsAt sagaId start [] = [] := unused
  constructor
  · rw [none]
    exact List.nil_prefix
  · rw [none]
    intro row member
    cases member
  · intro event member
    cases member
  · intro event member
    cases member

/-- Whatever happens between the calls of a run, as long as the steps of its saga
are its own. -/
theorem write_ahead {rest : Service SagaInstance} {world : World}
    (reads : ∀ payload, view (platform.jsonb payload) = view payload) (unused : stepsOf sagaId start = [])
    (executes : (orderly platform).ExecutesAmid (stepsOf sagaId) (SagaOrchestrator.startSaga platform context) start
      log rest world)
    (creates : ∀ event ∈ log, CreatesAs sagaId event) :
    WriteAhead platform view context sagaId start log (issued log rest) ∧ stepsOf sagaId world = rowsAt sagaId start log := by
  have meets : Logs platform view context sagaId start (fun _ _ => True) (SagaOrchestrator.startSaga platform context)
      [] := startSaga_logs reads unused
  rcases executes.contract creates meets with ⟨ahead, lawful⟩
  have recorded := recorded unused lawful
  refine ⟨⟨recorded.planned, ?_, recorded.succeeded, ?_, ?_⟩, executes.found⟩
  · intro call member name named
    cases rest with
    | await request resume =>
        rcases List.mem_cons.mp member with rfl | answered
        · exact Permits.prepared ahead.1 named
        · rcases List.mem_map.mp answered with ⟨event, known, rfl⟩
          exact recorded.prepared event known name named
    | _ =>
        rcases List.mem_map.mp member with ⟨event, known, rfl⟩
        exact recorded.prepared event known name named
  · intro saga member status
    cases rest with
    | await request resume =>
        rcases List.mem_cons.mp member with same | answered
        · have permits := ahead.1
          rw [← same] at permits
          exact permits status
        · rcases List.mem_map.mp answered with ⟨event, known, call⟩
          exact recorded.completed event known saga call status
    | _ =>
        rcases List.mem_map.mp member with ⟨event, known, call⟩
        exact recorded.completed event known saga call status
  · intro later event earlier split compensates
    exact cores_kept lawful later split compensates

/-- A run that has just charged the customer. -/
def chargedRun : CallLog × Service SagaInstance × World :=
  (orderly plainDriver).execute (SagaOrchestrator.startSaga plainDriver (orderOf 0 5)) (smallShop 5) []
    (List.replicate 18 .serve)

example : (footprint chargedRun.1).charges.length = 1 := by decide +kernel

/-- Where a payload is stored as it is, all of it is shown. -/
theorem write_ahead_charged :
    WriteAhead plainDriver id (orderOf 0 5) 100 (smallShop 5) chargedRun.1 (issued chargedRun.1 chargedRun.2.1) ∧
      stepsOf 100 chargedRun.2.2 = rowsAt 100 (smallShop 5) chargedRun.1 :=
  write_ahead (fun _ => rfl) rfl (System.executes_execute _ _ _ _).amid (by unfold CreatesAs; decide +kernel)

end Run

end StepLog
end Orderly
