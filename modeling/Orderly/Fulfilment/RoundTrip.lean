import Orderly.Infrastructure.PostgresDriver
import Orderly.Inventory.Reservation
import Orderly.Fulfilment.AutomaticRefunds
import Orderly.Fulfilment.Cancellation
import Orderly.Fulfilment.Finality

/-!
# Recorded payloads

`SagaRepository` serialises a payload before it hands it to a driver that
serialises it again, so a step reads back with the text of its payload in place
of the payload.  A text has no `transactionId`, and a compensation refunds only
what it finds recorded: a charge is never refunded.
-/

namespace Orderly

open Process (Program System)

/-- Every step row has been written by `createStep` or `updateStep`. -/
def WrittenSteps (platform : Platform) (db : Database) : Prop :=
  ∀ row ∈ db.steps.rows, ∃ value, row.outputPayload = platform.jsonb value

/-- The saga's charge has been recorded. -/
def RecordedCharge (platform : Platform) (db : Database) (sagaId : Uuid) (transactionId : String) : Prop :=
  ∃ step ∈ db.getSteps sagaId, step.stepName = .processPayment ∧ step.status = .completed ∧
    step.outputPayload = platform.jsonb (.obj [("transactionId", .str transactionId)])

/-- A refund has been asked for. -/
def Refunds (log : CallLog) (transactionId : String) : Prop :=
  ∃ event ∈ log, ∃ amount, event.call = .refund transactionId amount

/-- A step reads back with the payloads it was written with. -/
def PayloadsSurvive (platform : Platform) : Prop :=
  (∀ (db changed : Database) (step : SagaStep), db.createStep platform step = .ok changed →
      ∀ row ∈ changed.getSteps step.sagaId, row.id = step.id →
        row.inputPayload = step.inputPayload ∧ row.outputPayload = step.outputPayload) ∧
    ∀ (db : Database) (step : SagaStep), ∀ row ∈ (db.updateStep platform step).getSteps step.sagaId,
      row.id = step.id → row.outputPayload = step.outputPayload

/-- A compensation that has failed its saga has asked for the refund of a recorded charge. -/
def ChargesRefunded (platform : Platform) : Prop :=
  ∀ (world : World) (sagaId : Uuid) (context : SagaContext) (saga : SagaInstance) (transactionId : String),
    transactionId ≠ "" → WrittenSteps platform world.db →
    RecordedCharge platform world.db sagaId transactionId → ∀ log rest state,
      (orderly platform).Executes (SagaOrchestrator.compensate platform sagaId context saga) world log rest state →
        PersistsFailed platform log → Refunds log transactionId

section Driver

variable {platform : Platform} (driver : PostgresDriver) (uses : ∀ value, platform.jsonb value = driver.column value)

include uses

/-- A written column never reads back as what was written. -/
theorem column_changes (value : Json) : platform.jsonb value ≠ value := by
  rw [uses, driver.column_eq]
  exact Json.str_stringify_ne value

/-- A new step reads back with other payloads. -/
theorem createStep_changes {db changed : Database} {step row : SagaStep}
    (created : db.createStep platform step = .ok changed) (read : row ∈ changed.getSteps step.sagaId)
    (same : row.id = step.id) : row.inputPayload ≠ step.inputPayload ∧ row.outputPayload ≠ step.outputPayload := by
  have inserted := (Database.createStep_ok created).2.1
  have stored : row ∈ changed.steps.rows := (mem_getSteps.mp read).1
  have found := Store.Table.lookup_insert row.id inserted
  have named : row.id = (Database.stepRow platform step).id := same
  rw [Store.Table.lookup_of_mem stored, if_pos named] at found
  cases found
  exact ⟨column_changes driver uses _, column_changes driver uses _⟩

/-- An updated step reads back with another output. -/
theorem updateStep_changes {db : Database} {step row : SagaStep}
    (read : row ∈ (db.updateStep platform step).getSteps step.sagaId) (same : row.id = step.id) :
    row.outputPayload ≠ step.outputPayload := by
  have stored : row ∈
      (db.steps.update step.id (Database.setStep platform step) (Database.setStep_id platform step)).rows :=
    (mem_getSteps.mp read).1
  rcases Store.Table.mem_update.mp stored with ⟨old, _, rfl⟩
  have named : old.id = step.id := by
    split at same
    · next here => exact here
    · exact same
  rw [if_pos named]
  exact column_changes driver uses _

/-- No transaction id is found in written steps. -/
theorem unrecorded_written {db : Database} (written : WrittenSteps platform db) (sagaId : Uuid) :
    ((SagaOrchestrator.completedPayment (db.getSteps sagaId)).bind fun step => transactionIdOf step.outputPayload) =
      none := by
  cases found : SagaOrchestrator.completedPayment (db.getSteps sagaId) with
  | none => rfl
  | some step =>
      have stored := (mem_getSteps.mp (List.mem_of_find?_eq_some found)).1
      rcases written step stored with ⟨value, payload⟩
      rw [uses, driver.column_eq] at payload
      simp [payload, transactionIdOf, Json.member?]

end Driver

/-! ## Compensations -/

theorem refundsDue_unrecorded {context : SagaContext} {steps : List SagaStep}
    (unrecorded : ((SagaOrchestrator.completedPayment steps).bind fun step => transactionIdOf step.outputPayload) =
      none) : refundsDue context steps = [] := by
  unfold refundsDue
  rw [unrecorded]

/-- The footprints of an undoing that has no refund to make. -/
theorem undoing_refundless {platform : Platform} {context : SagaContext} {steps : List SagaStep}
    {saga : SagaInstance} {done : Footprint}
    (nothing : refundsDue context steps = []) (undoing : Undoing platform context steps saga done) :
    done.refundCalls = [] := by
  cases undoing with
  | refunding called approved => exact List.prefix_nil.mp (nothing ▸ called)
  | releasing => exact nothing
  | cancelling => exact nothing
  | failing => exact nothing

/-- A refund that was asked for is in the footprint. -/
theorem refund_member {log : CallLog} {transactionId : String} (refunds : Refunds log transactionId) :
    (footprint log).refundCalls ≠ [] := by
  rcases refunds with ⟨event, member, amount, called⟩
  exact StepLog.refund_listed member (by rw [called]; rfl)

section Compensation

variable {platform : Platform} {context : SagaContext} {sagaId : Uuid} {saga : SagaInstance} {world state : World}
  {log : CallLog} {rest : Service SagaInstance}

/-- With no refund due, an undoing asks for none. -/
theorem undoSteps_refundless {steps : List SagaStep} (nothing : refundsDue context steps = [])
    (compensating : saga.status = .compensating)
    (executes : (orderly platform).Executes (SagaOrchestrator.undoSteps platform context steps saga) world log rest
      state) (transactionId : String) : ¬ Refunds log transactionId := by
  have follows : Follows platform (fun _ => True) (fun done => done.refundCalls = [])
      (fun _ done => done.refundCalls = []) (fun done => done.refundCalls = [])
      (SagaOrchestrator.undoSteps platform context steps saga) [] := by
    have none : ∀ {undone}, Undoing platform context steps saga undone →
        (({} : Footprint) ++ undone).refundCalls = [] := by
      intro undone undoing
      rw [Footprint.empty_append]
      exact undoing_refundless nothing undoing
    refine Follows.weaken (undoSteps_follows none (fun undoing _ => none undoing) compensating footprint_nil) ?_
      (fun _ holds => holds)
    rintro row _ ⟨_, undone, undoing, _, rfl⟩
    exact none undoing
  have none := executes_conduct executes follows fun _ _ => trivial
  exact fun refunds => refund_member refunds none

/-- A routine that has thrown issues no more calls. -/
theorem thrown_silent {α : Type} {error : JsError} {rest : Service α}
    (executes : (orderly platform).Executes (.thrown error : Service α) world log rest state) : log = [] := by
  have silent : (Program.thrown error : Service α).Meets (orderly platform).Admits (fun _ _ => False)
      (fun _ log => log = []) (fun _ log => log = []) [] := rfl
  have ahead := (executes.meets silent).1
  cases rest with
  | done value => exact ahead
  | thrown error => exact ahead
  | await call resume => exact ahead.1.elim

theorem refunds_append {since : CallLog} {event : CallEvent} {transactionId : String}
    (other : ∀ id amount, event.call ≠ .refund id amount) (refunds : Refunds (since ++ [event]) transactionId) :
    Refunds since transactionId := by
  rcases refunds with ⟨found, member, amount, called⟩
  rcases List.mem_append.mp member with earlier | last
  · exact ⟨found, earlier, amount, called⟩
  · cases List.mem_singleton.mp last
    exact absurd called (other _ _)

/-- The calls from the reading of the steps on. -/
theorem readSteps_refundless (compensating : saga.status = .compensating)
    (nothing : refundsDue context (world.db.getSteps sagaId) = [])
    (executes : (orderly platform).Executes
      (do
        let steps ← SagaRepository.getSteps sagaId
        SagaOrchestrator.undoSteps platform context steps saga) world log rest state)
    (transactionId : String) : ¬ Refunds log transactionId := by
  rcases executes.first with ⟨rfl, _⟩ | ⟨choice, since, rfl, later⟩
  · rintro ⟨event, member, _⟩
    cases member
  · intro refunds
    have asked := refunds_append (fun _ _ same => by cases same) refunds
    unfold System.answer at later
    generalize performed : (orderly platform).perform world (.getSteps sagaId) choice = result at later
    rcases result with ⟨error | steps, after⟩
    · rw [thrown_silent later] at asked
      rcases asked with ⟨event, member, _⟩
      cases member
    · rcases World.getSteps_answered performed with ⟨rfl, rfl⟩
      exact undoSteps_refundless nothing compensating later transactionId asked

/-- A compensation starts by writing the saga and reading its steps. -/
theorem compensate_refundless (nothing : refundsDue context (world.db.getSteps sagaId) = [])
    (executes : (orderly platform).Executes (SagaOrchestrator.compensate platform sagaId context saga) world log rest
      state) (transactionId : String) : ¬ Refunds log transactionId := by
  have none : ¬ Refunds [] transactionId := by
    rintro ⟨event, member, _⟩
    cases member
  unfold SagaOrchestrator.compensate at executes
  by_cases running : saga.status = .running
  · have transition : startCompensation saga = .ok saga.compensating := by
      simp [startCompensation, running, SagaInstance.compensating]
    rw [transition] at executes
    rcases executes.first with ⟨rfl, _⟩ | ⟨choice, since, rfl, later⟩
    · exact none
    · intro refunds
      have asked := refunds_append (fun _ _ same => by cases same) refunds
      unfold System.answer at later
      generalize performed : (orderly platform).perform world (.updateSaga saga.compensating) choice = result at later
      rcases result with ⟨error | answer, after⟩
      · rw [thrown_silent later] at asked
        exact none asked
      · have same : after.db.getSteps sagaId = world.db.getSteps sagaId := by
          unfold Database.getSteps
          rw [(World.perform_frame performed).steps fun same => by cases same]
        exact readSteps_refundless rfl (same ▸ nothing) later transactionId asked
  · have refused : ∃ error, startCompensation saga = .error error := ⟨_, if_pos running⟩
    rcases refused with ⟨error, refused⟩
    rw [refused] at executes
    rw [thrown_silent executes]
    exact none

end Compensation

/-! ## Compensations that end -/

/-- An environment that refuses locks and serves everything else. -/
def reluctant : Environment := fun _ call =>
  match (call : Call) with
  | .acquire _ _ => .refuse
  | _ => .serve

section Reluctant

variable {platform : Platform} {context : SagaContext} {steps : List SagaStep} {saga : SagaInstance}

theorem updateStep_returning (step : SagaStep) :
    (orderly platform).Returning reluctant (SagaRepository.updateStep step) :=
  System.Returning.call fun _ _ => ⟨(), rfl⟩

/-- Refused locks keep a release from its statements, not from returning. -/
theorem releaseInventory_returning (items : List InventoryReservation) :
    (orderly platform).Returning reluctant (InventoryService.releaseInventory platform items) := by
  intro world log
  have looped : ∃ answer world' log', (orderly platform).play reluctant
      (InventoryService.releaseLoop (InventoryService.sortItems platform items) []) world log =
        (.ok ([], .ok answer), world', log') := by
    cases InventoryService.sortItems platform items with
    | nil => exact ⟨true, world, log, rfl⟩
    | cons item rest => exact ⟨false, _, _, rfl⟩
  rcases looped with ⟨answer, world', log', looped⟩
  unfold InventoryService.releaseInventory
  rw [System.play_bind, looped]
  exact ⟨answer, _, rfl⟩

/-- An undoing that finds no transaction id returns. -/
theorem undoSteps_returning
    (unrecorded : ((SagaOrchestrator.completedPayment steps).bind fun step => transactionIdOf step.outputPayload) =
      none) (compensating : saga.status = .compensating) :
    (orderly platform).Returning reluctant (SagaOrchestrator.undoSteps platform context steps saga) := by
  unfold SagaOrchestrator.undoSteps
  refine System.Returning.bind ?_ fun _ => System.Returning.bind ?_ fun _ => System.Returning.bind ?_ fun _ =>
    System.Returning.bind ?_ fun now => ?_
  · unfold SagaOrchestrator.compensatePayment
    rw [unrecorded]
    exact System.Returning.done ()
  · unfold SagaOrchestrator.compensateInventory
    refine System.Returning.bind (releaseInventory_returning context.items) fun released => ?_
    cases steps.find? fun s => s.stepName = .reserveInventory with
    | none => exact System.Returning.done ()
    | some step => exact updateStep_returning _
  · exact System.Returning.tryCatch _ fun _ => System.Returning.done ()
  · exact System.Returning.call fun state _ => ⟨state.clock, rfl⟩
  · have transition : completeCompensation saga now = .ok (saga.failedAt now) := by
      simp [completeCompensation, compensating, SagaInstance.failedAt]
    rw [transition]
    change (orderly platform).Returning reluctant (SagaRepository.update (saga.failedAt now) >>= fun _ => _)
    exact System.Returning.bind (System.Returning.call fun _ _ => ⟨(), rfl⟩) fun _ => System.Returning.done _

/-- A FAILED row whose update was answered. -/
theorem answered_of_updated {log : CallLog} {row : SagaInstance} (member : row ∈ (footprint log).updated)
    (failed : row.status = .failed) : log.any answeredFailed = true := by
  induction log with
  | nil => cases member
  | cons event log inductionHypothesis =>
      rw [List.any_cons, Bool.or_eq_true]
      rcases List.mem_append.mp member with earlier | latest
      · exact Or.inr (inductionHypothesis earlier)
      · rcases updated_event latest with ⟨before, after, rfl⟩
        exact Or.inl (decide_eq_true failed)

/-- Some execution of a compensation writes the FAILED row. -/
theorem compensate_fails {world : World} {sagaId : Uuid} (running : saga.status = .running)
    (unrecorded : ((SagaOrchestrator.completedPayment (world.db.getSteps sagaId)).bind fun step =>
      transactionIdOf step.outputPayload) = none) :
    ∃ log rest state, (orderly platform).Executes (SagaOrchestrator.compensate platform sagaId context saga) world log
      rest state ∧ PersistsFailed platform log := by
  have transition : startCompensation saga = .ok saga.compensating := by
    simp [startCompensation, running, SagaInstance.compensating]
  have returning : ∃ row ended, (orderly platform).play reluctant
      (SagaOrchestrator.compensate platform sagaId context saga) world [] = (.ok row, ended) := by
    unfold SagaOrchestrator.compensate
    rw [transition]
    have undone : (orderly platform).Returning reluctant
        (SagaOrchestrator.undoSteps platform context (world.db.getSteps sagaId) saga.compensating) :=
      undoSteps_returning unrecorded rfl
    exact undone _ _
  rcases returning with ⟨row, ⟨state, log⟩, played⟩
  have executes : (orderly platform).Executes (SagaOrchestrator.compensate platform sagaId context saga) world log
      (.done row) state := by
    have start : (orderly platform).Executes (SagaOrchestrator.compensate platform sagaId context saga) world []
        (SagaOrchestrator.compensate platform sagaId context saga) world := .begun
    have ended : (orderly platform).Executes (SagaOrchestrator.compensate platform sagaId context saga) world
        ((orderly platform).play reluctant (SagaOrchestrator.compensate platform sagaId context saga) world []).2.2
        _ _ := start.play
    rw [played] at ended
    exact ended
  refine ⟨log, .done row, state, executes, persistsFailed_of_answered executes.admits ?_⟩
  have follows : Follows platform (fun _ => True) (fun _ => True)
      (fun row done => row.status = .failed ∧ row ∈ done.updated) (fun _ => True)
      (SagaOrchestrator.compensate platform sagaId context saga) [] := by
    refine Follows.weaken (compensate_follows (fun _ => trivial) (fun _ => trivial) footprint_nil) ?_
      (fun _ holds => holds)
    rintro row done ⟨_, _, ⟨failed, steps, undone, _, written, rfl⟩, rfl⟩
    refine ⟨failed, ?_⟩
    rw [Footprint.empty_append]
    exact List.mem_append_right _ (written ▸ List.mem_singleton_self row)
  have returned := (executes.contract (fun _ _ => trivial) follows).1
  exact answered_of_updated returned.2 returned.1

end Reluctant

/-! ## The driver's payloads -/

/-- No payload survives the driver, every compensation of a RUNNING saga can fail
it, and none ever asks for a refund. -/
theorem payloads_never_survive {platform : Platform} (driver : PostgresDriver)
    (uses : ∀ value, platform.jsonb value = driver.column value) :
    (∀ (db changed : Database) (step : SagaStep), db.createStep platform step = .ok changed →
        ∀ row ∈ changed.getSteps step.sagaId, row.id = step.id →
          row.inputPayload ≠ step.inputPayload ∧ row.outputPayload ≠ step.outputPayload) ∧
      (∀ (db : Database) (step : SagaStep), ∀ row ∈ (db.updateStep platform step).getSteps step.sagaId,
        row.id = step.id → row.outputPayload ≠ step.outputPayload) ∧
      ∀ (world : World) (sagaId : Uuid) (context : SagaContext) (saga : SagaInstance),
        WrittenSteps platform world.db →
          (saga.status = .running → ∃ log rest state,
            (orderly platform).Executes (SagaOrchestrator.compensate platform sagaId context saga) world log rest
              state ∧ PersistsFailed platform log) ∧
          ∀ log rest state,
            (orderly platform).Executes (SagaOrchestrator.compensate platform sagaId context saga) world log rest
              state → ∀ transactionId, ¬ Refunds log transactionId := by
  refine ⟨?_, ?_, ?_⟩
  · intro db changed step created row read same
    exact createStep_changes driver uses created read same
  · intro db step row read same
    exact updateStep_changes driver uses read same
  · intro world sagaId context saga written
    have unrecorded := unrecorded_written driver uses written sagaId
    refine ⟨fun running => compensate_fails running unrecorded, ?_⟩
    intro log rest state executes transactionId
    exact compensate_refundless (refundsDue_unrecorded unrecorded) executes transactionId

theorem chargedShop_written : WrittenSteps postgresJs chargedShop.db := by
  intro row member
  rcases List.mem_cons.mp member with rfl | member
  · exact ⟨reserveStep.outputPayload, rfl⟩
  · rcases List.mem_singleton.mp member with rfl
    exact ⟨chargeStep.outputPayload, rfl⟩

theorem chargedShop_charge : RecordedCharge postgresJs chargedShop.db 7 "ch_1" :=
  ⟨Database.stepRow postgresJs chargeStep,
    mem_getSteps.mpr ⟨List.mem_cons_of_mem _ (List.mem_singleton_self _), rfl⟩, rfl, rfl, rfl⟩

/-- The shop with a recorded charge persists FAILED without a refund. -/
theorem payloads_never_survive_recorded : ∃ log rest state,
    (orderly postgresJs).Executes (SagaOrchestrator.compensate postgresJs 7 (orderOf 0 5) chargedSaga) chargedShop log
      rest state ∧ PersistsFailed postgresJs log ∧ ¬ Refunds log "ch_1" := by
  rcases (payloads_never_survive stringDriver (postgresJs_column stringDriver)).2.2 chargedShop 7 (orderOf 0 5)
    chargedSaga chargedShop_written with ⟨fails, refundless⟩
  rcases fails rfl with ⟨log, rest, state, executes, failed⟩
  exact ⟨log, rest, state, executes, failed, refundless log rest state executes "ch_1"⟩

/-- A recorded charge reads back as a text, and the saga fails without a refund. -/
theorem charge_kept : ¬ PayloadsSurvive postgresJs ∧ ¬ ChargesRefunded postgresJs := by
  constructor
  · intro survive
    have kept := survive.2 chargedShop.db chargeStep _ (mem_getSteps.mpr ⟨List.mem_cons_of_mem _ (List.mem_singleton_self _), rfl⟩) rfl
    cases kept
  · intro refunded
    have unrecorded := unrecorded_written stringDriver (postgresJs_column stringDriver) chargedShop_written 7
    have fails : ∃ log rest state, (orderly postgresJs).Executes
        (SagaOrchestrator.compensate postgresJs 7 (orderOf 0 5) chargedSaga) chargedShop log rest state ∧
          PersistsFailed postgresJs log := compensate_fails rfl unrecorded
    rcases fails with ⟨log, rest, state, executes, failed⟩
    have asked := refunded chargedShop 7 (orderOf 0 5) chargedSaga "ch_1" (by decide) chargedShop_written
      chargedShop_charge log rest state executes failed
    exact compensate_refundless (refundsDue_unrecorded unrecorded) executes "ch_1" asked

end Orderly
