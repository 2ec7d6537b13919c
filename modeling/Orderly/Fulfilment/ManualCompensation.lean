import Orderly.Fulfilment.Alone
import Orderly.Fulfilment.Stock

/-!
# Manual compensation of an interrupted run

The admin handler rebuilds the context from the metadata of the saga row, and
`createSagaInstance` writes no metadata.  The rebuilt context has no items and a
total of 0.00 USD, so the handler releases nothing and refunds nothing but zero.
-/

namespace Orderly

open Store (Table)
open Process (Program System)

/-- Every approved charge of a run has been refunded by a request with its amount,
and the two have together left the stock alone. -/
def Undone (run request : CallLog) : Prop :=
  (∀ charge ∈ (footprint run).charges,
      ∃ refund ∈ (footprint request).refunds, (some refund.1, refund.2) = charge) ∧
    ∀ sku, netAvailable run sku + netAvailable request sku = 0

/-- A run that has stopped anywhere and left its saga RUNNING is undone by a
request all of whose calls succeed. -/
def ManualCompensationUndoes (platform : Platform) (world : World) (context : SagaContext) : Prop :=
  ∀ run rest middle saga,
    (orderly platform).Executes (SagaOrchestrator.startSaga platform context) world run rest middle →
    createdSaga run = some saga → sagaStatus middle saga.id = some .running →
    ∀ request answer final,
      (orderly platform).Executes (AdminSagas.compensateSaga platform saga.id) middle request answer final →
      answer.finished = true → (∀ event ∈ request, fails event = false) → Undone run request

/-- The transaction id that a request finds in the recorded steps. -/
def recordedTransaction (world : World) (id : Uuid) : Option String :=
  (SagaOrchestrator.completedPayment (world.db.getSteps id)).bind fun s => transactionIdOf s.outputPayload

/-- `new Money("0.00", "USD")`. -/
def zeroDollars : Money := { amount := "0.00", currency := "USD" }

theorem zeroDollars_new : Money.new "0.00" "USD" = .ok zeroDollars := by decide

variable {platform : Platform} {world middle state : World} {log : CallLog}

/-! ## What a run persists -/

section Persisted

/-- The row of a saga as a run persists it: the order it was created for, and no
metadata. -/
def PersistedFor (platform : Platform) (world : World) (id orderId : Uuid) : Prop :=
  ∀ row, world.db.sagas.lookup id = some row →
    row.metadata = platform.jsonb (.obj []) ∧ row.orderId = orderId

theorem compensating_metadata {context : SagaContext} {saga : SagaInstance} {done : Footprint}
    (compensating : Compensating platform context saga done) :
    ∀ row ∈ done.updateCalls, row.metadata = saga.metadata := by
  intro row member
  cases compensating with
  | entered => cases member
  | announcing => exact List.mem_singleton.mp member ▸ rfl
  | undoing _ undoing =>
      rcases List.mem_cons.mp member with rfl | later
      · rfl
      · cases undoing with
        | failing now => exact List.mem_singleton.mp later ▸ rfl
        | refunding => cases later
        | releasing => cases later
        | cancelling => cases later

/-- A run sends no metadata. -/
theorem fulfilling_metadata {context : SagaContext} {done : Footprint}
    (fulfilling : Fulfilling platform context done) : ∀ row ∈ done.updateCalls, row.metadata = .obj [] := by
  have started : ∀ {saga}, SagaInstance.NewFor context saga → saga.running.metadata = .obj [] := by
    rintro saga ⟨id, now, rfl⟩
    rfl
  intro row member
  cases fulfilling with
  | idle => cases member
  | creating => cases member
  | created => cases member
  | starting new => exact List.mem_singleton.mp member ▸ started new
  | reserving new => exact List.mem_singleton.mp member ▸ started new
  | charging new => exact List.mem_singleton.mp member ▸ started new
  | charged new => exact List.mem_singleton.mp member ▸ started new
  | confirming new => exact List.mem_singleton.mp member ▸ started new
  | completing _ _ new =>
      rcases List.mem_cons.mp member with rfl | later
      · exact started new
      · rw [List.mem_singleton.mp later]
        exact started new
  | compensating new _ _ compensating =>
      rcases List.mem_cons.mp member with rfl | later
      · exact started new
      · exact (compensating_metadata compensating row later).trans (started new)

/-- An event that updates rows with empty metadata only keeps a persisted row as it
is in these respects. -/
theorem PersistedFor.answered {event : CallEvent} {id orderId : Uuid}
    (admitted : (orderly platform).Admits [] event)
    (empty : ∀ row, event.call = .updateSaga row → row.metadata = .obj [])
    (present : (sagaStatus event.before id).isSome) (persisted : PersistedFor platform event.before id orderId) :
    PersistedFor platform event.after id orderId := by
  rcases event with ⟨call, reply, before, after⟩
  rcases admits_iff.mp admitted with ⟨choice, performed⟩
  cases call with
  | createSaga saga =>
      rcases World.createSaga_answered performed with ⟨same, _⟩ | inserted
      · unfold PersistedFor
        rw [same]
        exact persisted
      · intro row found
        rw [Table.lookup_insert id inserted] at found
        split at found
        · next named =>
            have fresh := Table.insert_fresh inserted
            change before.db.sagas.lookup saga.id = none at fresh
            unfold sagaStatus at present
            rw [named] at present
            change (Option.map _ (before.db.sagas.lookup saga.id)).isSome at present
            rw [fresh] at present
            cases present
        · exact persisted row found
  | updateSaga saga =>
      rcases World.updateSaga_answered performed with ⟨same, _⟩ | update
      · unfold PersistedFor
        rw [same]
        exact persisted
      · intro row found
        have rows : after.db.sagas = before.db.sagas.update saga.id (Database.setSaga platform saga)
            (Database.setSaga_id platform saga) := by
          rw [update]
          rfl
        change after.db.sagas.lookup id = some row at found
        rw [rows, Table.lookup_update] at found
        split at found
        · rcases Option.map_eq_some_iff.mp found with ⟨old, known, rfl⟩
          refine ⟨?_, (persisted old known).2⟩
          change platform.jsonb saga.metadata = platform.jsonb (.obj [])
          rw [empty saga rfl]
        · exact persisted row found
  | _ =>
      have frame := World.perform_frame performed
      have same : after.db.sagas = before.db.sagas := frame.sagas fun same => by cases same
      unfold PersistedFor
      rw [same]
      exact persisted

/-- A run that runs alone leaves its row without metadata. -/
theorem run_persists {context : SagaContext} {rest : Service SagaInstance} {saga : SagaInstance}
    (executes : (orderly platform).Executes (SagaOrchestrator.startSaga platform context) world log rest state)
    (created : createdSaga log = some saga) : PersistedFor platform state saga.id context.orderId := by
  have follows : Follows platform (fun _ => True) (Fulfilling platform context)
      (fun _ => Fulfilling platform context) (Fulfilling platform context)
      (SagaOrchestrator.startSaga platform context) [] :=
    Follows.weaken (startSaga_follows platform _ context) (fun _ _ => fulfilled_fulfilling)
      (fun _ interrupted => interrupted.1)
  have fulfilling := executes_conduct executes follows fun _ _ => trivial
  have new : SagaInstance.NewFor context saga := by
    rcases fulfilling_updates fulfilling with ⟨none, _⟩ | ⟨own, new, one, _⟩
    · unfold createdSaga at created
      rw [none] at created
      cases created
    · unfold createdSaga at created
      rw [one] at created
      cases created
      exact new
  have empty : ∀ event ∈ log, ∀ row, event.call = .updateSaga row → row.metadata = .obj [] :=
    fun event member row call => fulfilling_metadata fulfilling row (update_member member call)
  have admitted := executes.admits
  have chained := executes.chained
  clear executes follows fulfilling
  have both : (sagaStatus state saga.id).isSome ∧ PersistedFor platform state saga.id context.orderId := by
    induction log generalizing state with
    | nil => cases created
    | cons event log inductionHypothesis =>
        rcases chained with ⟨rfl, chained⟩
        rcases createdSaga_cons created with known | ⟨_, before, after, rfl⟩
        · rcases inductionHypothesis known (fun event member => empty event (List.mem_cons_of_mem _ member))
            (fun event member => admitted event (List.mem_cons_of_mem _ member)) chained with ⟨present, persisted⟩
          exact ⟨(statusChange (admitted event List.mem_cons_self) saga.id).persists present,
            persisted.answered (admitted event List.mem_cons_self) (empty event List.mem_cons_self) present⟩
        · have status := (created_status (admitted _ List.mem_cons_self)).2
          refine ⟨by rw [status]; rfl, ?_⟩
          rcases admits_iff.mp (admitted _ List.mem_cons_self) with ⟨choice, performed⟩
          rcases World.createSaga_answered performed with ⟨_, refused⟩ | inserted
          · exact absurd rfl refused
          · intro row found
            have own : saga.id = (Database.sagaRow platform saga).id := rfl
            rw [Table.lookup_insert saga.id inserted, if_pos own] at found
            cases found
            rcases new with ⟨id, now, rfl⟩
            exact ⟨rfl, rfl⟩
  exact both.2

end Persisted

/-! ## What a request does -/

section Requests

variable {id orderId : Uuid}

/-- The context rebuilt from a row without metadata. -/
theorem rebuiltContext_persisted {row : SagaInstance} (empty : row.metadata = platform.jsonb (.obj [])) :
    AdminSagas.rebuiltContext (Database.toDomainSaga row) =
      { orderId := row.orderId, customerId := "", items := [],
        totalAmount := { amount := "0.00", currency := "USD" }, paymentToken := "" } := by
  refine AdminSagas.rebuiltContext_of_empty ?_
  intro key
  unfold Database.toDomainSaga
  split
  · rfl
  · change row.metadata.member? key = none
    rw [empty]
    exact platform.jsonb_empty key

/-- What is due is the recorded transaction, with the amount of the context. -/
theorem refundsDue_recorded {context : SagaContext} {amount : Money} (money : context.money = .ok amount) :
    refundsDue context (world.db.getSteps id) =
      (recordedTransaction world id).toList.map fun transactionId => (transactionId, amount) := by
  unfold refundsDue recordedTransaction
  rw [money]
  cases (SagaOrchestrator.completedPayment (world.db.getSteps id)).bind
      (fun s => transactionIdOf s.outputPayload) with
  | none => rfl
  | some transactionId => rfl

/-- All refunds of a routine without failing calls have been approved. -/
theorem refunds_approved (served : ∀ event ∈ log, fails event = false) :
    (footprint log).refunds = (footprint log).refundCalls := by
  induction log with
  | nil => rfl
  | cons event log inductionHypothesis =>
      have earlier := inductionHypothesis fun other member => served other (List.mem_cons_of_mem _ member)
      have latest : (eventFootprint event).refunds = (eventFootprint event).refundCalls := by
        have succeeds := served event List.mem_cons_self
        rcases event with ⟨call, reply, before, after⟩
        cases call with
        | refund transactionId amount =>
            cases reply with
            | error error => cases succeeds
            | ok result =>
                have approved : result.success = true := by
                  change (!result.success) = false at succeeds
                  simpa using succeeds
                simp [eventFootprint, approved]
        | reserve sku quantity => rcases reply with error | (_ | _) <;> rfl
        | release sku quantity => rcases reply with error | (_ | _) <;> rfl
        | _ => cases reply <;> simp only [eventFootprint, setbackOf] <;> (repeat' split) <;> rfl
      change (footprint log).refunds ++ _ = (footprint log).refundCalls ++ _
      rw [earlier, latest]

/-- A compensation with a context without items that has no failing call refunds
what is due and releases nothing. -/
theorem undoSteps_served {context : SagaContext} {steps : List SagaStep} {saga : SagaInstance}
    {amount : Money} (nothing : context.items = []) (money : context.money = .ok amount)
    (compensating : saga.status = .compensating) :
    Follows platform (fun event => fails event = false) (fun _ => True)
      (fun _ done => done.refundCalls = refundsDue context steps ∧ done.reserved = [] ∧ done.released = [] ∧
        done.faults = [])
      (fun _ => False) (SagaOrchestrator.undoSteps platform context steps saga) [] := by
  refine Follows.weaken (undoSteps_follows (fun _ => trivial) ?_ compensating footprint_nil) ?_
    (fun _ holds => holds)
  · rintro undone _ (⟨event, succeeds, rejected⟩ | ⟨error, failed⟩)
    · exact not_rejected succeeds rejected
    · rw [money] at failed
      cases failed
  · rintro row _ ⟨_, undone, undoing, written, rfl⟩
    rw [Footprint.empty_append]
    cases undoing with
    | failing now _ called answered =>
        have none : InventoryService.sortItems platform context.items = [] := by
          rw [nothing]
          exact List.perm_nil.mp (InventoryService.sortItems_perm platform [])
        rw [none] at called
        have released := List.prefix_nil.mp (List.prefix_nil.mp called ▸ answered)
        exact ⟨rfl, rfl, released, rfl⟩
    | refunding => cases written
    | releasing => cases written
    | cancelling => cases written

/-- The same for the compensation that a handler attempts. -/
theorem attempt_served (context : SagaContext) {steps : List SagaStep} {saga : SagaInstance}
    {amount : Money} {request : CallLog} {sent : AdminSagas.Reply} {answer : Service AdminSagas.Reply} {final : World}
    (nothing : context.items = []) (money : context.money = .ok amount) (compensating : saga.status = .compensating)
    (executes : (orderly platform).Executes
      ((SagaOrchestrator.undoSteps platform context steps saga).attempt >>= fun _ => pure sent)
      middle request answer final)
    (finished : answer.finished = true) (served : ∀ event ∈ request, fails event = false) :
    (footprint request).refundCalls = refundsDue context steps ∧ (footprint request).reserved = [] ∧
      (footprint request).released = [] ∧ (footprint request).faults = [] := by
  have follows : Follows platform (fun event => fails event = false) (fun _ => True)
      (fun _ done => done.refundCalls = refundsDue context steps ∧ done.reserved = [] ∧ done.released = [] ∧
        done.faults = [])
      (fun _ => False)
      ((SagaOrchestrator.undoSteps platform context steps saga).attempt >>= fun _ => pure sent) [] := by
    refine Follows.bind (Follows.attempt (fun _ => False) (undoSteps_served nothing money compensating)) ?_
    rintro (error | row) log holds
    · exact holds.elim
    · exact Follows.pure rfl holds
  have ended := (executes.contract served follows).1
  cases answer with
  | await call resume => cases finished
  | thrown error => exact ended.elim
  | done reply => exact ended

/-- A request without failing calls for a RUNNING saga refunds what the recorded
steps call for. -/
theorem request_served {saga : SagaInstance} {amount : Money} {request : CallLog} {answer : Service AdminSagas.Reply}
    {final : World} (read : middle.db.findSagaById saga.id = some saga) (running : saga.status = .running)
    (nothing : (AdminSagas.rebuiltContext saga).items = [])
    (money : (AdminSagas.rebuiltContext saga).money = .ok amount)
    (executes : (orderly platform).Executes (AdminSagas.compensateSaga platform saga.id) middle request
      answer final) (finished : answer.finished = true)
    (served : ∀ event ∈ request, fails event = false) :
    (footprint request).refundCalls =
        refundsDue (AdminSagas.rebuiltContext saga) (middle.db.getSteps saga.id) ∧
      (footprint request).reserved = [] ∧ (footprint request).released = [] ∧ (footprint request).faults = [] := by
  have transition : startCompensation saga = .ok saga.compensating := by
    unfold startCompensation
    rw [if_neg (not_not.mpr running)]
    rfl
  -- the read
  rcases executes_first executes finished served with ⟨found, world₁, since₁, rfl, admitted₁, executes₁⟩
  have served₁ : ∀ event ∈ since₁, fails event = false :=
    fun event member => served event (List.mem_append_left _ member)
  rcases admits_iff.mp admitted₁ with ⟨choice₁, performed₁⟩
  rcases World.findSagaById_answered performed₁ with ⟨rfl, rfl⟩
  rw [read] at executes₁
  change (orderly platform).Executes (if saga.status ≠ .running then _ else _) world₁ since₁ _ final at executes₁
  rw [if_neg (not_not.mpr running)] at executes₁
  unfold SagaOrchestrator.compensate at executes₁
  rw [transition] at executes₁
  -- the COMPENSATING write
  rcases executes_first executes₁ finished served₁ with ⟨_, world₂, since₂, rfl, admitted₂, executes₂⟩
  have served₂ : ∀ event ∈ since₂, fails event = false :=
    fun event member => served₁ event (List.mem_append_left _ member)
  have kept : world₂.db.getSteps saga.id = world₁.db.getSteps saga.id := by
    rcases admits_iff.mp admitted₂ with ⟨choice₂, performed₂⟩
    have same : world₂.db.steps = world₁.db.steps := (World.perform_frame performed₂).steps fun same => by cases same
    unfold Database.getSteps
    rw [same]
  -- the recorded steps
  rcases executes_first executes₂ finished served₂ with ⟨steps, world₃, since₃, rfl, admitted₃, executes₃⟩
  have served₃ : ∀ event ∈ since₃, fails event = false :=
    fun event member => served₂ event (List.mem_append_left _ member)
  rcases admits_iff.mp admitted₃ with ⟨choice₃, performed₃⟩
  rcases World.getSteps_answered performed₃ with ⟨rfl, rfl⟩
  rcases attempt_served _ nothing money rfl executes₃ finished served₃ with ⟨refunds, reserved, released, faults⟩
  rw [kept] at refunds
  simp only [footprint_append, footprint_cons, footprint_nil]
  exact ⟨refunds, reserved, released, faults⟩

end Requests

/-- What a request without failing calls does after a run that has stopped. -/
theorem stopped_request {context : SagaContext} {run request : CallLog} {rest : Service SagaInstance}
    {saga : SagaInstance} {answer : Service AdminSagas.Reply} {final : World}
    (executes : (orderly platform).Executes (SagaOrchestrator.startSaga platform context) world run rest middle)
    (created : createdSaga run = some saga) (running : sagaStatus middle saga.id = some .running)
    (handled : (orderly platform).Executes (AdminSagas.compensateSaga platform saga.id) middle request
      answer final) (finished : answer.finished = true)
    (served : ∀ event ∈ request, fails event = false) :
    (footprint request).refunds =
        (recordedTransaction middle saga.id).toList.map (fun transactionId => (transactionId, zeroDollars)) ∧
      ∀ sku, netAvailable request sku = 0 := by
  rcases Option.map_eq_some_iff.mp running with ⟨row, found, status⟩
  have key : row.id = saga.id := Table.lookup_key found
  have rebuilt := rebuiltContext_persisted (run_persists executes created row found).1
  have read : middle.db.findSagaById (Database.toDomainSaga row).id = some (Database.toDomainSaga row) := by
    change middle.db.findSagaById row.id = _
    unfold Database.findSagaById
    rw [key, found]
    rfl
  have nothing : (AdminSagas.rebuiltContext (Database.toDomainSaga row)).items = [] := by rw [rebuilt]
  have money : (AdminSagas.rebuiltContext (Database.toDomainSaga row)).money = .ok zeroDollars := by
    rw [rebuilt]
    exact zeroDollars_new
  rw [← key] at handled ⊢
  rcases request_served read status nothing money handled finished served with ⟨refunds, reserved, released, faults⟩
  constructor
  · rw [refunds_approved served, refunds]
    exact refundsDue_recorded money
  · intro sku
    rw [netAvailable_footprint handled.admits faults, released, reserved]
    rfl

/-- A request without failing calls undoes a stopped run exactly when the run holds
no stock and every charge was one of zero dollars whose transaction is recorded. -/
theorem manually_undone_iff {context : SagaContext} {run request : CallLog} {rest : Service SagaInstance}
    {saga : SagaInstance} {answer : Service AdminSagas.Reply} {final : World}
    (executes : (orderly platform).Executes (SagaOrchestrator.startSaga platform context) world run rest middle)
    (created : createdSaga run = some saga) (running : sagaStatus middle saga.id = some .running)
    (handled : (orderly platform).Executes (AdminSagas.compensateSaga platform saga.id) middle request
      answer final) (finished : answer.finished = true)
    (served : ∀ event ∈ request, fails event = false) :
    Undone run request ↔
      (∀ charge ∈ (footprint run).charges, charge.2 = zeroDollars ∧
          ∃ transactionId, charge.1 = some transactionId ∧
            recordedTransaction middle saga.id = some transactionId) ∧
        ∀ sku, netAvailable run sku = 0 := by
  rcases stopped_request executes created running handled finished served with ⟨refunds, stock⟩
  unfold Undone
  refine and_congr ?_ ?_
  · refine forall₂_congr fun charge _ => ?_
    rw [refunds]
    constructor
    · rintro ⟨refund, member, rfl⟩
      rcases List.mem_map.mp member with ⟨transactionId, recorded, rfl⟩
      exact ⟨rfl, transactionId, rfl, Option.mem_toList.mp recorded⟩
    · rintro ⟨amount, transactionId, named, recorded⟩
      refine ⟨(transactionId, zeroDollars), ?_, ?_⟩
      · rw [recorded]
        exact List.mem_singleton_self _
      · rw [← amount, ← named]
  · refine forall_congr' fun sku => ?_
    rw [stock sku, Int.add_zero]

/-! ## Stopping a run of the small shop -/

/-- The run for five units, stopped after so many calls. -/
def stoppedAfter (calls : Nat) : CallLog × Service SagaInstance × World :=
  (orderly postgresJs).execute (SagaOrchestrator.startSaga postgresJs (orderOf 0 5)) (smallShop 5) []
    (List.replicate calls .serve)

/-- The request for its saga. -/
def requestAfter (calls : Nat) : CallLog × Service AdminSagas.Reply × World :=
  (orderly postgresJs).execute (AdminSagas.compensateSaga postgresJs 100) (stoppedAfter calls).2.2 []
    (List.replicate 10 .serve)

/-- An order without items, of zero dollars. -/
def freeOrder : SagaContext := { orderOf 0 5 with items := [], totalAmount := zeroDollars.toJSON }

/-- A run for it that stops when it has recorded its charge, with a driver whose payloads
are read back. -/
def freeRun : CallLog × Service SagaInstance × World :=
  (orderly plainDriver).execute (SagaOrchestrator.startSaga plainDriver freeOrder) (smallShop 5) []
    (List.replicate 17 .serve)

/-- The request for its saga. -/
def freeRequest : CallLog × Service AdminSagas.Reply × World :=
  (orderly plainDriver).execute (AdminSagas.compensateSaga plainDriver 100) freeRun.2.2 [] (List.replicate 12 .serve)

/-- The charge of zero dollars is refunded. -/
theorem manually_undone_free : (footprint freeRun.1).charges.length = 1 ∧ (footprint freeRequest.1).refunds.length = 1 ∧
    Undone freeRun.1 freeRequest.1 := by
  have executes : (orderly plainDriver).Executes (SagaOrchestrator.startSaga plainDriver freeOrder) (smallShop 5)
      freeRun.1 freeRun.2.1 freeRun.2.2 := System.executes_execute _ _ _ _
  have created : createdSaga freeRun.1 = some (createSagaInstance 100 0 0) := rfl
  have handled : (orderly plainDriver).Executes (AdminSagas.compensateSaga plainDriver 100) freeRun.2.2
      freeRequest.1 freeRequest.2.1 freeRequest.2.2 := System.executes_execute _ _ _ _
  refine ⟨by decide +kernel, by decide +kernel, (manually_undone_iff executes created (by decide +kernel) handled
    (by decide +kernel) (by decide +kernel)).mpr ⟨?_, fun sku => ?_⟩⟩
  · have charges : ∀ charge ∈ (footprint freeRun.1).charges,
        charge.2 = zeroDollars ∧ charge.1.isSome = true ∧ recordedTransaction freeRun.2.2 100 = charge.1 := by
      decide +kernel
    intro charge member
    rcases charges charge member with ⟨amount, named, recorded⟩
    rcases Option.isSome_iff_exists.mp named with ⟨transactionId, same⟩
    exact ⟨amount, transactionId, same, recorded.trans same⟩
  · have reserved : (footprint freeRun.1).reserved = [] := by decide +kernel
    have released : (footprint freeRun.1).released = [] := by decide +kernel
    rw [netAvailable_footprint executes.admits (by decide +kernel), reserved, released]
    rfl

/-- A run that stops when it has reserved keeps its units. -/
theorem keeps_reserved_units : ¬ ManualCompensationUndoes postgresJs (smallShop 5) (orderOf 0 5) := by
  intro claimed
  have executes : (orderly postgresJs).Executes (SagaOrchestrator.startSaga postgresJs (orderOf 0 5)) (smallShop 5)
      (stoppedAfter 10).1 (stoppedAfter 10).2.1 (stoppedAfter 10).2.2 := System.executes_execute _ _ _ _
  have created : createdSaga (stoppedAfter 10).1 = some (createSagaInstance 100 0 0) := rfl
  have handled : (orderly postgresJs).Executes (AdminSagas.compensateSaga postgresJs 100) (stoppedAfter 10).2.2
      (requestAfter 10).1 (requestAfter 10).2.1 (requestAfter 10).2.2 := System.executes_execute _ _ _ _
  have undone := claimed _ _ _ _ executes created (by decide +kernel) _ _ _ handled (by decide +kernel)
    (by decide +kernel)
  have returned := undone.2 "X"
  revert returned
  decide +kernel

end Orderly
