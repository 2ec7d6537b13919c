import Orderly.Fulfilment.OrderRows
import Orderly.Fulfilment.WriteAhead

/-!
# What COMPLETED means

A saga row says COMPLETED only after its run has done everything that an order
needs.  The footprints say what the run has done itself, the step log what it
has written down, and that the order is PAID and announced so follows from the
one transaction that the run has committed.

This holds as long as nobody else writes the saga, its steps, the status of its
order or what is announced of it.  What becomes of the announcement in the
outbox is left to others.
-/

namespace Orderly

open Process (Program System)
open StepLog (Complete CreatesAs rowsAt)

/-- What has been announced of how an order ended. -/
def outcomesOf (orderId : Uuid) (world : World) : List (String × Json) :=
  world.db.outbox.rows.filterMap fun event =>
    if event.aggregateId = orderId ∧ (event.eventType = "order.paid" ∨ event.eventType = "order.failed") then
      some (event.eventType, event.payload)
    else none

/-- What a run has to itself. -/
@[ext] structure OwnPart where
  saga : Option SagaStatus
  steps : List SagaStep
  order : Option OrderStatus
  outcomes : List (String × Json)

def ownPart (sagaId orderId : Uuid) (world : World) : OwnPart where
  saga := sagaStatus world sagaId
  steps := stepsOf sagaId world
  order := orderStatus world orderId
  outcomes := outcomesOf orderId world

/-- Every forward effect of a saga has happened, once, and none has been taken back.  Of the
charge one approval has been answered; it was asked for again while answers were lost. -/
structure DoneOnce (platform : Platform) (context : SagaContext) (sagaId : Uuid) (done : Footprint)
    (world : World) : Prop where
  reserved : done.reserveCalls = InventoryService.sortItems platform context.items ∧
    done.reserved = InventoryService.sortItems platform context.items
  charged : ∃ transactionId amount, context.money = .ok amount ∧ done.charges = [(transactionId, amount)] ∧
    outcomesOf context.orderId world =
      [("order.paid", platform.jsonb (context.paidEvent transactionId).payload)]
  asked : context.Charging done.chargeCalls
  paid : orderStatus world context.orderId = some .paid
  steps : Complete (stepsOf sagaId world)
  kept : done.refundCalls = [] ∧ done.releaseCalls = []

section Completion

variable {platform : Platform} {context : SagaContext} {sagaId : Uuid} {start : World} {log : CallLog} {event : CallEvent}
  {Allowed : CallLog → Call → Prop}

/-! ## What the run itself has done -/

/-- The rows that a run creates are new. -/
theorem fulfilling_creates {done : Footprint} (fulfilling : Fulfilling platform context done) {row : SagaInstance}
    (member : row ∈ done.createCalls) : row.status = .pending := by
  have new : ∀ {saga : SagaInstance}, SagaInstance.NewFor context saga → row ∈ [saga] → row.status = .pending := by
    rintro saga ⟨id, now, rfl⟩ made
    rw [List.mem_singleton.mp made]
    rfl
  cases fulfilling with
  | idle => cases member
  | creating made => exact new made member
  | created made => exact new made member
  | starting made => exact new made member
  | reserving made => exact new made member
  | charging made => exact new made member
  | charged made => exact new made member
  | confirming made => exact new made member
  | completing _ _ made => exact new made member
  | compensating made _ _ compensating =>
      rcases List.mem_append.mp member with created | compensated
      · exact new made created
      · cases compensating with
        | entered => cases compensated
        | announcing => cases compensated
        | undoing _ undoing => cases undoing <;> cases compensated

/-- Only the last write of a run that has done everything says COMPLETED. -/
theorem fulfilling_completed {done : Footprint} (fulfilling : Fulfilling platform context done) {row : SagaInstance}
    (written : row ∈ done.updateCalls) (completed : row.status = .completed) :
    ∃ transactionId eventId amount, context.money = .ok amount ∧
      done.reserveCalls = InventoryService.sortItems platform context.items ∧
      done.reserved = InventoryService.sortItems platform context.items ∧ done.charges = [(transactionId, amount)] ∧
      done.commitCalls = [context.confirmation transactionId eventId] ∧
      done.commits = [context.confirmation transactionId eventId] ∧ done.refundCalls = [] ∧ done.releaseCalls = [] := by
  have started : ∀ {saga : SagaInstance}, row ∈ [saga.running] → False := by
    intro saga member
    rw [List.mem_singleton.mp member] at completed
    cases completed
  cases fulfilling with
  | idle => cases written
  | creating => cases written
  | created => cases written
  | starting => exact (started written).elim
  | reserving => exact (started written).elim
  | charging => exact (started written).elim
  | charged => exact (started written).elim
  | confirming => exact (started written).elim
  | completing transactionId eventId made money =>
      exact ⟨transactionId, eventId, _, money, rfl, rfl, rfl, rfl, rfl, rfl, rfl⟩
  | compensating made _ _ compensating =>
      rcases List.mem_append.mp written with earlier | later
      · exact (started earlier).elim
      · rcases (compensating_updates compensating).2 row later with ⟨_, status | status⟩
        all_goals
          rw [status] at completed
          cases completed

theorem create_listed {row : SagaInstance} (member : event ∈ log) (call : event.call = .createSaga row) :
    row ∈ (footprint log).createCalls := by
  rcases footprint_member member with ⟨before, after, same⟩
  rcases event with ⟨_, reply, _, _⟩
  cases call
  rw [same]
  refine List.mem_append_right _ (List.mem_append_left _ ?_)
  cases reply <;> exact List.mem_singleton_self row

theorem update_listed {row : SagaInstance} (member : event ∈ log) (call : event.call = .updateSaga row) :
    row ∈ (footprint log).updateCalls := by
  rcases footprint_member member with ⟨before, after, same⟩
  rcases event with ⟨_, reply, _, _⟩
  cases call
  rw [same]
  refine List.mem_append_right _ (List.mem_append_left _ ?_)
  cases reply <;> exact List.mem_singleton_self row

/-! ## What the rows say -/

/-- An event of a run that has its saga and its order to itself. -/
abbrev Owning (platform : Platform) (sagaId orderId : Uuid) (start : World) : CallLog → CallEvent → Prop :=
  (orderly platform).AdmitsAmid (ownPart sagaId orderId) start

/-- The row says what the run has written. -/
theorem completed_written {orderId : Uuid} (fresh : sagaStatus start sagaId = none)
    (lawful : System.Lawful (Owning platform sagaId orderId start) Allowed log)
    (creates : ∀ event ∈ log, ∀ row, event.call = .createSaga row → row.status = .pending)
    (completed : sagaStatus (System.latest start log) sagaId = some .completed) :
    ∃ event ∈ log, ∃ row : SagaInstance, event.call = .updateSaga row ∧ row.status = .completed := by
  induction log with
  | nil => cases fresh.symm.trans completed
  | cons event log inductionHypothesis =>
      rcases lawful with ⟨_, ⟨admitted, found⟩, earlier⟩
      have before : sagaStatus event.before sagaId = sagaStatus (System.latest start log) sagaId :=
        congrArg OwnPart.saga found
      replace completed : sagaStatus event.after sagaId = some .completed := completed
      cases statusChange admitted sagaId with
      | unchanged same =>
          rcases inductionHypothesis earlier (fun other member => creates other (List.mem_cons_of_mem _ member))
            (before.symm.trans (same.symm.trans completed)) with ⟨other, member, writes⟩
          exact ⟨other, List.mem_cons_of_mem _ member, writes⟩
      | inserted row call _ _ now =>
          rw [creates event List.mem_cons_self row call] at now
          cases now.symm.trans completed
      | updated row call _ _ now =>
          exact ⟨event, List.mem_cons_self, row, call, Option.some.inj (now.symm.trans completed)⟩

/-- What the order's rows say, as far as the run has committed. -/
structure Settles (platform : Platform) (context : SagaContext) (start : World) (log : CallLog) : Prop where
  silent : (footprint log).commitCalls = [] → (footprint log).commits = [] ∧
    orderStatus (System.latest start log) context.orderId = orderStatus start context.orderId ∧
      outcomesOf context.orderId (System.latest start log) = outcomesOf context.orderId start
  confirmed : ∀ transactionId eventId, (footprint log).commitCalls = [context.confirmation transactionId eventId] →
    (footprint log).commits = [context.confirmation transactionId eventId] →
      orderStatus (System.latest start log) context.orderId = some .paid ∧
        outcomesOf context.orderId (System.latest start log) =
          outcomesOf context.orderId start ++ [("order.paid", platform.jsonb (context.paidEvent transactionId).payload)]

/-- A call that commits nothing. -/
theorem uncommitted (other : event.call.area ≠ .orders) :
    (eventFootprint event).commitCalls = [] ∧ (eventFootprint event).commits = [] := by
  rcases event with ⟨call, reply, before, after⟩
  cases call with
  | commit transaction => exact absurd rfl other
  | reserve sku quantity => rcases reply with error | (_ | _) <;> exact ⟨rfl, rfl⟩
  | release sku quantity => rcases reply with error | (_ | _) <;> exact ⟨rfl, rfl⟩
  | _ => cases reply <;> simp only [eventFootprint, setbackOf] <;> (repeat' split) <;> simp

theorem outcomesOf_confirmed {before after : World} {transactionId : Option String} {eventId : Uuid}
    (takes : Takes platform (context.confirmation transactionId eventId) before after) :
    outcomesOf context.orderId after = outcomesOf context.orderId before ++
      [("order.paid", platform.jsonb (context.paidEvent transactionId).payload)] := by
  unfold outcomesOf
  rw [Store.Table.rows_insert (orderTransaction_takes takes).2, List.filterMap_append]
  congr 1
  rw [List.filterMap_cons_some (b := ("order.paid", platform.jsonb (context.paidEvent transactionId).payload))]
  · rfl
  · exact if_pos ⟨rfl, Or.inl rfl⟩

section Step

variable {sagaId : Uuid} (found : Owning platform sagaId context.orderId start log event)
  (settles : Settles platform context start log)

include found settles

/-- A call that is no commit settles nothing. -/
theorem Settles.aside (other : event.call.area ≠ .orders) : Settles platform context start (event :: log) := by
  rcases uncommitted other with ⟨calls, commits⟩
  rcases admits_iff.mp found.1 with ⟨choice, performed⟩
  have frame := World.perform_frame performed
  have order : orderStatus event.after context.orderId = orderStatus (System.latest start log) context.orderId :=
    (orderStatus_of_orders (frame.orders other) _).trans (congrArg OwnPart.order found.2)
  have outcomes : outcomesOf context.orderId event.after = outcomesOf context.orderId (System.latest start log) := by
    have before : outcomesOf context.orderId event.before = outcomesOf context.orderId (System.latest start log) :=
      congrArg OwnPart.outcomes found.2
    rw [← before]
    unfold outcomesOf
    rw [frame.outbox other]
  have sameCalls : (footprint (event :: log)).commitCalls = (footprint log).commitCalls := by
    change (footprint log).commitCalls ++ (eventFootprint event).commitCalls = _
    rw [calls, List.append_nil]
  have sameCommits : (footprint (event :: log)).commits = (footprint log).commits := by
    change (footprint log).commits ++ (eventFootprint event).commits = _
    rw [commits, List.append_nil]
  constructor
  · intro nothing
    rw [sameCalls] at nothing
    rcases settles.silent nothing with ⟨silent, status, told⟩
    exact ⟨sameCommits.trans silent, order.trans status, outcomes.trans told⟩
  · intro transactionId eventId calling committing
    rw [sameCalls] at calling
    rw [sameCommits] at committing
    rcases settles.confirmed transactionId eventId calling committing with ⟨status, told⟩
    exact ⟨order.trans status, outcomes.trans told⟩

/-- An answered confirmation settles the order. -/
theorem Settles.commit (present : (orderStatus start context.orderId).isSome) {transaction : Transaction}
    (called : event.call = .commit transaction) : Settles platform context start (event :: log) := by
  rcases event with ⟨call, reply, before, after⟩
  cases called
  have calls : (footprint (⟨.commit transaction, reply, before, after⟩ :: log)).commitCalls =
      (footprint log).commitCalls ++ [transaction] := by
    cases reply <;> rfl
  constructor
  · intro nothing
    rw [calls] at nothing
    exact absurd nothing (List.append_ne_nil_of_right_ne_nil _ (List.cons_ne_nil _ _))
  · intro transactionId eventId calling committing
    rw [calls] at calling
    have alone : (footprint log).commitCalls ++ [transaction] = [] ++ [context.confirmation transactionId eventId] := calling
    have parts := List.append_inj' alone rfl
    rcases settles.silent parts.1 with ⟨silent, status, told⟩
    cases parts.2
    cases reply with
    | error error =>
        change (footprint log).commits ++ [] = _ at committing
        rw [silent] at committing
        cases committing
    | ok value =>
        rcases admits_iff.mp found.1 with ⟨choice, performed⟩
        rcases World.commit_answered performed with ⟨_, refused⟩ | takes
        · exact absurd rfl refused
        have known : orderStatus before context.orderId = orderStatus start context.orderId :=
          (congrArg OwnPart.order found.2).trans status
        have outcomes : outcomesOf context.orderId before = outcomesOf context.orderId start :=
          (congrArg OwnPart.outcomes found.2).trans told
        constructor
        · have now := orderStatus_takes takes context.orderId
          rcases Option.isSome_iff_exists.mp present with ⟨old, was⟩
          rw [if_pos rfl, known, was] at now
          exact now
        · rw [← outcomes]
          exact outcomesOf_confirmed takes

end Step

theorem settled {sagaId : Uuid} (present : (orderStatus start context.orderId).isSome)
    (lawful : System.Lawful (Owning platform sagaId context.orderId start) Allowed log) :
    Settles platform context start log := by
  induction log with
  | nil =>
      constructor
      · exact fun _ => ⟨rfl, rfl, rfl⟩
      · intro transactionId eventId impossible
        cases impossible
  | cons event log inductionHypothesis =>
      rcases lawful with ⟨_, found, earlier⟩
      have known := inductionHypothesis earlier
      cases called : event.call with
      | commit transaction => exact known.commit found present called
      | _ => exact known.aside found (by rw [called]; simp [Call.area])

/-! ## A whole run -/

/-- Whatever others do, a run does what `startSaga` does. -/
theorem run_fulfilling {Part : Type} {part : World → Part} {rest : Service SagaInstance} {world : World}
    (executes : (orderly platform).ExecutesAmid part (SagaOrchestrator.startSaga platform context) start log rest world) :
    Fulfilling platform context (footprint log) := by
  have follows : (SagaOrchestrator.startSaga platform context).Meets
      (fun log event => (orderly platform).AdmitsAmid part start log event ∧ True)
      (fun log _ => Fulfilling platform context (footprint log))
      (fun _ log => Fulfilling platform context (footprint log))
      (fun _ log => Fulfilling platform context (footprint log)) [] := by
    refine Program.Meets.narrow (fun _ _ admitted => ⟨admitted.1.1, admitted.2⟩)
      ((startSaga_follows platform (fun _ => True) context).weaken ?_ ?_)
    · exact fun _ _ fulfilled => fulfilled_fulfilling fulfilled
    · exact fun _ interrupted => interrupted.1
  exact executes.standing (fun _ _ => trivial) follows

/-- Wherever a run stands whose saga and order nobody else touches, whatever its calls
answer: if the saga row says COMPLETED, every forward effect has happened, once. -/
theorem completed_once {rest : Service SagaInstance} {world : World}
    (present : (orderStatus start context.orderId).isSome) (untold : outcomesOf context.orderId start = [])
    (fresh : sagaStatus start sagaId = none)
    (executes : (orderly platform).ExecutesAmid (ownPart sagaId context.orderId)
      (SagaOrchestrator.startSaga platform context) start log rest world)
    (creates : ∀ event ∈ log, CreatesAs sagaId event) (completed : sagaStatus world sagaId = some .completed) :
    DoneOnce platform context sagaId (footprint log) world := by
  have fulfilling := run_fulfilling executes
  have lawful := (executes.contract (fun _ _ => trivial) (Program.Meets.anything _ _)).2
  have found := executes.found
  have status : sagaStatus (System.latest start log) sagaId = some .completed :=
    (congrArg OwnPart.saga found).symm.trans completed
  rcases completed_written fresh lawful (fun event member row call =>
    fulfilling_creates fulfilling (create_listed member call)) status with ⟨event, member, row, call, said⟩
  rcases fulfilling_completed fulfilling (update_listed member call) said with
    ⟨transactionId, eventId, amount, money, reserveCalls, reserved, charges, commitCalls, commits, refunds, releases⟩
  have confirmed := (settled present lawful).confirmed transactionId eventId commitCalls commits
  -- a saga that is not there has no steps
  have unused : stepsOf sagaId start = [] := by
    apply List.filter_eq_nil_iff.mpr
    intro step listed about
    have stored := start.db.steps_saga step listed
    rw [of_decide_eq_true about] at stored
    rw [Option.map_eq_none_iff.mp fresh] at stored
    cases stored
  have alone : (orderly platform).ExecutesAmid (stepsOf sagaId) (SagaOrchestrator.startSaga platform context) start log
      rest world := executes.coarser fun _ _ same => congrArg OwnPart.steps same
  have written : StepLog.WriteAhead platform (fun _ => .null) context sagaId start log (StepLog.issued log rest) ∧
      stepsOf sagaId world = StepLog.rowsAt sagaId start log := StepLog.write_ahead (fun _ => rfl) unused alone creates
  rcases written with ⟨writeAhead, steps⟩
  refine ⟨⟨reserveCalls, reserved⟩, ⟨transactionId, amount, money, charges, ?_⟩, fulfilling.asked, ?_, ?_, refunds,
    releases⟩
  · rw [untold] at confirmed
    exact (congrArg OwnPart.outcomes found).trans confirmed.2
  · exact (congrArg OwnPart.order found).trans confirmed.1
  · rw [steps]
    refine writeAhead.completed row ?_ said
    have issued : .updateSaga row ∈ log.map Process.Event.call := List.mem_map.mpr ⟨event, member, call⟩
    cases rest with
    | done value => exact issued
    | thrown error => exact issued
    | await call resume => exact List.mem_cons_of_mem _ issued

/-- A run that is served to its end. -/
def servedRun : CallLog × Service SagaInstance × World :=
  (orderly postgresJs).execute (SagaOrchestrator.startSaga postgresJs (orderOf 0 5)) (smallShop 5) []
    (List.replicate 36 .serve)

theorem completed_once_served : sagaStatus servedRun.2.2 100 = some .completed ∧
    DoneOnce postgresJs (orderOf 0 5) 100 (footprint servedRun.1) servedRun.2.2 := by
  have completed : sagaStatus servedRun.2.2 100 = some .completed := by decide +kernel
  have creates : ∀ event ∈ servedRun.1, CreatesAs 100 event := by
    unfold CreatesAs
    decide +kernel
  exact ⟨completed, completed_once rfl rfl rfl (System.executes_execute _ _ _ _).amid creates completed⟩

end Completion

end Orderly
