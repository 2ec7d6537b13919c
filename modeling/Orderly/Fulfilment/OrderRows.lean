import Orderly.Fulfilment.SagaRows

/-!
# Who writes which order row

The persisted status of an order changes only when a transaction commits, and
the routines commit two kinds of transactions: the confirmation of a paid order
and the cancellation that ends a compensation.  Neither looks at the status it
overwrites.  A routine commits for the order of a saga that it has inserted, or has
read as RUNNING.
-/

namespace Orderly

open Store (Table)
open Process (Move Program System)

/-- The persisted status of an order. -/
def orderStatus (world : World) (id : Uuid) : Option OrderStatus :=
  (world.db.orders.lookup id).map OrderRow.status

/-- The outbox holds an event of that type about that order. -/
def Announced (world : World) (eventType : String) (orderId : Uuid) : Prop :=
  ∃ event ∈ world.db.outbox.rows, event.eventType = eventType ∧ event.aggregateId = orderId

/-- The order whose status a transaction sets, and the status. -/
def Transaction.outcome : Transaction → Option (Uuid × OrderStatus)
  | .updateOrderStatus id status :: _ => some (id, status)
  | _ => none

variable {platform : Platform}

/-! ## What a transaction does -/

section Effects

variable {before after : World} {orderId eventId : Uuid} {status : OrderStatus} {event : NewOutboxEvent}

theorem orderStatus_takes
    (takes : Takes platform [.updateOrderStatus orderId status, .insertOutboxEvent eventId event]
      before after) (id : Uuid) :
    orderStatus after id =
      if id = orderId then (orderStatus before id).map fun _ => status else orderStatus before id := by
  unfold orderStatus
  rw [(orderTransaction_takes takes).1, Table.lookup_update]
  split
  · cases before.db.orders.lookup id <;> rfl
  · rfl

theorem announced_takes
    (takes : Takes platform [.updateOrderStatus orderId status, .insertOutboxEvent eventId event]
      before after) : Announced after event.eventType event.aggregateId := by
  refine ⟨_, (Table.mem_insert (orderTransaction_takes takes).2).mpr (Or.inr rfl), rfl, rfl⟩

theorem orderStatus_of_orders (same : after.db.orders = before.db.orders) (id : Uuid) :
    orderStatus after id = orderStatus before id := by
  unfold orderStatus
  rw [same]

end Effects

/-! ## What the routines commit -/

/-- The transactions of the routines: one status, and the event about it. -/
inductive OrderTransaction (context : SagaContext) : Transaction → Prop where
  | confirmation (transactionId : Option String) (eventId : Uuid) :
      OrderTransaction context (context.confirmation transactionId eventId)
  | cancellation (eventId : Uuid) : OrderTransaction context (context.cancellation eventId)

theorem compensating_commits {context : SagaContext} {saga : SagaInstance} {done : Footprint}
    (compensating : Compensating platform context saga done) {transaction : Transaction}
    (member : transaction ∈ done.commitCalls) :
    ∃ eventId, transaction = context.cancellation eventId := by
  cases compensating with
  | entered => cases member
  | announcing => cases member
  | undoing _ undoing =>
      cases undoing with
      | refunding => cases member
      | releasing => cases member
      | cancelling eventId => exact ⟨eventId, List.mem_singleton.mp member⟩
      | failing now _ _ _ attempted =>
          change transaction ∈ [] ++ _ at member
          rcases attempted with rfl | ⟨eventId, rfl⟩
          · cases member
          · exact ⟨eventId, List.mem_singleton.mp member⟩

theorem fulfilling_commits {context : SagaContext} {done : Footprint}
    (fulfilling : Fulfilling platform context done) {transaction : Transaction}
    (member : transaction ∈ done.commitCalls) : OrderTransaction context transaction := by
  cases fulfilling with
  | idle => cases member
  | creating => cases member
  | created => cases member
  | starting => cases member
  | reserving => cases member
  | charging => cases member
  | charged => cases member
  | confirming => exact List.mem_singleton.mp member ▸ .confirmation _ _
  | completing => exact List.mem_singleton.mp member ▸ .confirmation _ _
  | compensating _ _ _ compensating =>
      rcases compensating_commits compensating member with ⟨eventId, rfl⟩
      exact .cancellation eventId

theorem handling_commits {id : Uuid} {done : Footprint} (handling : Handling platform id done)
    {transaction : Transaction} (member : transaction ∈ done.commitCalls) :
    ∃ context eventId, transaction = SagaContext.cancellation context eventId := by
  cases handling with
  | asked => cases member
  | handling found compensating => exact ⟨_, compensating_commits compensating member⟩

/-- Every commit of a routine sets one status and announces it. -/
theorem conduct_commits {task : Task} {done : Footprint} (conduct : Conduct platform task done)
    {transaction : Transaction} (member : transaction ∈ done.commitCalls) :
    ∃ context, OrderTransaction context transaction := by
  cases task with
  | startSaga context => exact ⟨context, fulfilling_commits conduct member⟩
  | sagaJob job => exact ⟨job, fulfilling_commits conduct member⟩
  | compensateSaga id =>
      rcases handling_commits conduct member with ⟨context, eventId, rfl⟩
      exact ⟨context, .cancellation eventId⟩

/-- A commit is listed, whatever its answer. -/
theorem commit_listed {event : CallEvent} {transaction : Transaction} (call : event.call = .commit transaction)
    (log : CallLog) : transaction ∈ (footprint (event :: log)).commitCalls := by
  rcases event with ⟨_, reply, before, after⟩
  cases call
  refine List.mem_append_right _ ?_
  cases reply <;> exact List.mem_singleton_self _

/-- How an event can change the status of an order. -/
inductive OrderChange (platform : Platform) (event : CallEvent) (id : Uuid) : Prop where
  | unchanged (same : orderStatus event.after id = orderStatus event.before id)
  | committed (context : SagaContext) (transaction : Transaction) (status : OrderStatus)
      (call : event.call = .commit transaction) (shape : OrderTransaction context transaction)
      (outcome : transaction.outcome = some (id, status)) (takes : Takes platform transaction event.before event.after)
      (present : (orderStatus event.before id).isSome)
      (now : orderStatus event.after id = some status)

theorem orderChange {task : Task} {event : CallEvent} {log : CallLog}
    (admitted : (orderly platform).Admits [] event)
    (conduct : Conduct platform task (footprint (event :: log))) (id : Uuid) :
    OrderChange platform event id := by
  rcases event with ⟨call, reply, before, after⟩
  rcases admits_iff.mp admitted with ⟨choice, performed⟩
  cases call with
  | commit transaction =>
      rcases World.commit_answered performed with ⟨rfl, _⟩ | takes
      · exact .unchanged rfl
      · rcases conduct_commits conduct (commit_listed rfl log) with ⟨context, shape⟩
        have settle : ∀ (status : OrderStatus) (eventId : Uuid) (event : NewOutboxEvent),
            transaction = [.updateOrderStatus context.orderId status, .insertOutboxEvent eventId event] →
            OrderChange platform ⟨.commit transaction, reply, before, after⟩ id := by
          rintro status eventId event rfl
          have change := orderStatus_takes takes id
          by_cases named : id = context.orderId
          · subst named
            rw [if_pos rfl] at change
            cases present : orderStatus before context.orderId with
            | none =>
                rw [present] at change
                exact .unchanged (change.trans present.symm)
            | some old =>
                rw [present] at change
                exact .committed context _ status rfl shape rfl takes (by rw [present]; rfl) change
          · rw [if_neg named] at change
            exact .unchanged change
        cases shape with
        | confirmation transactionId eventId => exact settle .paid eventId _ rfl
        | cancellation eventId => exact settle .cancelled eventId _ rfl
  | _ =>
      have frame := World.perform_frame performed
      exact .unchanged (orderStatus_of_orders (frame.orders fun same => by cases same) id)

/-! ## The orders a routine has taken up -/

/-- An answer that lets a routine go on with a saga: its row has been inserted, or read
and found RUNNING. -/
def shows : CallEvent → Option SagaInstance
  | ⟨.createSaga saga, .ok _, _, _⟩ => some saga
  | ⟨.findSagaById _, .ok (some saga), _, _⟩ => if saga.status = .running then some saga else none
  | _ => none

/-- The routine has seen a saga of the order. -/
def KnowsOrder (id : Uuid) (log : CallLog) : Prop := ∃ event ∈ log, ∃ saga, shows event = some saga ∧ saga.orderId = id

/-- A routine commits only for orders it knows. -/
def CommitsKnown (log : CallLog) : Prop :=
  ∀ transaction ∈ (footprint log).commitCalls, ∀ id status, transaction.outcome = some (id, status) → KnowsOrder id log

section Knowledge

variable {log : CallLog} {id : Uuid}

theorem KnowsOrder.later (knows : KnowsOrder id log) (event : CallEvent) : KnowsOrder id (event :: log) := by
  rcases knows with ⟨seen, member, saga, shown, about⟩
  exact ⟨seen, List.mem_cons_of_mem _ member, saga, shown, about⟩

theorem outcome_order {context : SagaContext} {transaction : Transaction} {status : OrderStatus}
    (shape : OrderTransaction context transaction) (outcome : transaction.outcome = some (id, status)) :
    id = context.orderId := by
  cases shape with
  | confirmation transactionId eventId =>
      cases outcome
      rfl
  | cancellation eventId =>
      cases outcome
      rfl

/-- A created row comes from an answered insert. -/
theorem created_shown {saga : SagaInstance} (created : saga ∈ (footprint log).created) :
    ∃ event ∈ log, shows event = some saga := by
  induction log with
  | nil => cases created
  | cons event log inductionHypothesis =>
      rcases List.mem_append.mp created with earlier | latest
      · rcases inductionHypothesis earlier with ⟨seen, member, shown⟩
        exact ⟨seen, List.mem_cons_of_mem _ member, shown⟩
      · rcases created_event latest with ⟨before, after, rfl⟩
        exact ⟨_, List.mem_cons_self, rfl⟩

/-- What commits has created its saga before. -/
theorem fulfilling_created {context : SagaContext} {done : Footprint} (fulfilling : Fulfilling platform context done)
    {transaction : Transaction} (member : transaction ∈ done.commitCalls) :
    ∃ saga ∈ done.created, saga.orderId = context.orderId := by
  have made : ∀ {saga : SagaInstance}, SagaInstance.NewFor context saga → saga.orderId = context.orderId := by
    rintro saga ⟨id, now, rfl⟩
    rfl
  cases fulfilling with
  | idle => cases member
  | creating => cases member
  | created => cases member
  | starting => cases member
  | reserving => cases member
  | charging => cases member
  | charged => cases member
  | confirming new => exact ⟨_, List.mem_singleton_self _, made new⟩
  | completing _ _ new => exact ⟨_, List.mem_singleton_self _, made new⟩
  | compensating new => exact ⟨_, List.mem_append_left _ (List.mem_singleton_self _), made new⟩

/-- A saga run knows its order. -/
theorem fulfilling_known {context : SagaContext} (fulfilling : Fulfilling platform context (footprint log)) :
    CommitsKnown log := by
  intro transaction member id status outcome
  rcases fulfilling_created fulfilling member with ⟨saga, created, about⟩
  rcases created_shown created with ⟨event, seen, shown⟩
  exact ⟨event, seen, saga, shown, about.trans (outcome_order (fulfilling_commits fulfilling member) outcome).symm⟩

/-- An admin request has read its saga. -/
theorem compensating_known {saga : SagaInstance} (knows : KnowsOrder saga.orderId log)
    (compensating : Compensating platform (AdminSagas.rebuiltContext saga) saga (footprint log)) :
    CommitsKnown log := by
  intro transaction member id status outcome
  rcases compensating_commits compensating member with ⟨eventId, rfl⟩
  cases outcome
  exact knows

theorem compensateSaga_known (platform : Platform) (id : Uuid) :
    (AdminSagas.compensateSaga platform id).Meets (fun log event => (orderly platform).Admits log event ∧ True)
      (fun log _ => CommitsKnown log) (fun _ => CommitsKnown) (fun _ => CommitsKnown) [] := by
  have quiet : ∀ {log : CallLog}, footprint log = {} → CommitsKnown log := by
    intro log nothing transaction member
    rw [nothing] at member
    cases member
  unfold AdminSagas.compensateSaga
  refine Program.Meets.call_bind (quiet rfl) (fun _ _ _ _ => quiet rfl) ?_
  intro (found : Option SagaInstance) before after _
  rcases found with _ | saga
  · exact quiet rfl
  simp only
  split
  · exact quiet rfl
  next running =>
    generalize read : (⟨.findSagaById id, .ok (some saga), before, after⟩ : CallEvent) = event
    have shown : shows event = some saga := by
      rw [← read]
      exact if_pos (not_not.mp running)
    have knows : KnowsOrder saga.orderId [event] := ⟨event, List.mem_singleton_self _, saga, shown, rfl⟩
    have now : footprint [event] = {} := by
      rw [← read]
      rfl
    have followed : Follows platform (fun _ => True) (Compensating platform (AdminSagas.rebuiltContext saga) saga)
        (fun _ => Compensating platform (AdminSagas.rebuiltContext saga) saga)
        (Compensating platform (AdminSagas.rebuiltContext saga) saga)
        (SagaOrchestrator.compensate platform saga.id (AdminSagas.rebuiltContext saga) saga)
        [event] := by
      refine Follows.weaken (compensate_follows ?_ ?_ now) ?_ (fun _ holds => holds)
      · exact fun holds => (Footprint.empty_append _).symm ▸ holds
      · exact fun holds => (Footprint.empty_append _).symm ▸ holds
      · rintro row done ⟨running, _, ⟨_, steps, undone, undoing, _, rfl⟩, rfl⟩
        rw [Footprint.empty_append]
        exact .undoing running undoing
    have guarded := Program.Meets.guarding followed knows fun log event _ _ knows => knows.later event
    have whole : (SagaOrchestrator.compensate platform saga.id (AdminSagas.rebuiltContext saga) saga).Meets
        (fun log event => (orderly platform).Admits log event ∧ True) (fun log _ => CommitsKnown log)
        (fun _ => CommitsKnown) (fun _ => CommitsKnown) [event] :=
      Program.Meets.widen (fun _ _ allowed => compensating_known allowed.2 allowed.1)
        (guarded.weaken (fun _ _ returned => compensating_known returned.2 returned.1)
          fun _ _ thrown => compensating_known thrown.2 thrown.1)
    exact Program.Meets.attempt_bind whole (fun _ _ known => known) fun _ _ known => known

end Knowledge

end Orderly
