import Orderly.Pipeline.Steps

/-!
# What the outbox tells about an order

Each change of an order's status is written in one transaction with the event
that announces it.  What the outbox has told about an order is therefore its
history: nothing before it exists, then that it has been created, and last what
its row says now.

Beside the transactions this rests on the foreign key of `saga_instances`.  A
routine commits only for the order of a saga that it has inserted or read, so
no event is written for an order that does not exist.
-/

namespace Orderly

open Process (Move Program System)

/-! ## The sagas a routine knows -/

section Knowledge

variable {platform : Platform}

/-- An admin request of the pipeline. -/
def Informed (task : PipelineTask) (log : PipelineLog) : Prop :=
  ∀ id, task = .compensateSaga id → CommitsKnown (portsLog log)

theorem informed_stage (task : PipelineTask) :
    (task.program platform).Meets (pipeline platform).Admits (fun log _ => Informed task log)
      (fun _ => Informed task) (fun _ => Informed task) [] := by
  have others : (∀ id, task ≠ .compensateSaga id) → (task.program platform).Meets (pipeline platform).Admits
      (fun log _ => Informed task log) (fun _ => Informed task) (fun _ => Informed task) [] := by
    intro other
    have informed : ∀ log, Informed task log := fun log id same => absurd same (other id)
    exact Program.Meets.widen (fun log _ _ => informed log)
      ((Program.Meets.anything _ _).weaken (fun _ log _ => informed log) fun _ log _ => informed log)
  cases task with
  | createOrder request => exact others fun _ same => by cases same
  | sagaJob jobId => exact others fun _ same => by cases same
  | stalled jobId => exact others fun _ same => by cases same
  | compensateSaga id =>
      have known : (AdminSagas.compensateSaga platform id).Meets
          (fun log event => (orderly platform).Admits log event ∧ True) (fun log _ => CommitsKnown log)
          (fun _ => CommitsKnown) (fun _ => CommitsKnown) (portsLog []) := compensateSaga_known platform id
      have whole := Program.Meets.along ports_faithful known
      refine Program.Meets.bind (Program.Meets.widen ?_ (whole.weaken (fun _ _ returned => returned) ?_)) ?_
      · rintro log call ⟨request, rfl, commits⟩ other _
        exact commits
      · exact fun _ _ thrown _ _ => thrown
      · exact fun _ _ returned _ _ => returned

/-- A routine that commits has seen a saga of the order. -/
theorem commit_known {stage : Stage} {event : PipelineEvent} {call : Call}
    (issued : Issues platform stage.task stage.log (.ports call))
    (behaves : Behaves platform stage.task (event :: stage.log)) (informed : Informed stage.task (event :: stage.log))
    (seen : event.call = .ports call) : CommitsKnown (portsLog (event :: stage.log)) := by
  rcases stage with ⟨task, code, log, stopped⟩
  cases task with
  | createOrder request =>
      rcases issued with ⟨_, impossible, _⟩
      cases impossible
  | sagaJob jobId =>
      cases issued with
      | processing _ context took =>
          rcases event with ⟨called, reply, before, after⟩
          cases seen
          exact fulfilling_known (behaves context took)
  | stalled jobId => cases issued
  | compensateSaga id => exact informed id rfl

/-- An order whose saga has been seen exists. -/
theorem shown_present {event : CallEvent} {saga : SagaInstance} (admitted : (orderly platform).Admits [] event)
    (shown : shows event = some saga) : (orderStatus event.after saga.orderId).isSome := by
  rcases event with ⟨call, reply, before, after⟩
  rcases admits_iff.mp admitted with ⟨choice, performed⟩
  have stored : ∀ {row : SagaInstance} {world : World}, row ∈ world.db.sagas.rows → row.orderId = saga.orderId →
      (orderStatus world saga.orderId).isSome := by
    intro row world member about
    have present := world.db.sagas_order row member
    rw [about] at present
    unfold orderStatus
    rw [Option.isSome_map]
    exact present
  cases call with
  | createSaga created =>
      cases reply with
      | error error => cases shown
      | ok value =>
          cases shown
          rcases World.createSaga_answered performed with ⟨_, refused⟩ | inserted
          · exact absurd rfl refused
          · exact stored ((Store.Table.mem_insert inserted).mpr (Or.inr rfl)) rfl
  | findSagaById id =>
      cases reply with
      | error error => cases shown
      | ok found =>
          cases found with
          | none => cases shown
          | some read =>
              have same : read = saga := by
                change (if read.status = .running then some read else none) = some saga at shown
                split at shown
                · exact Option.some.inj shown
                · cases shown
              subst same
              rcases World.findSagaById_answered performed with ⟨found, rfl⟩
              rcases Option.map_eq_some_iff.mp found.symm with ⟨row, looked, same⟩
              exact stored (Store.Table.mem_of_lookup looked) (same ▸ rfl)
  | _ => cases shown

end Knowledge

/-! ## What the outbox tells -/

/-- The status that an event of this type announces. -/
def announcedStatus (eventType : String) : Option OrderStatus :=
  if eventType = "order.created" then some .pending
  else if eventType = "order.paid" then some .paid
  else if eventType = "order.failed" then some .cancelled
  else none

/-- What the outbox has told about an order, oldest first. -/
def told (world : World) (id : Uuid) : List OrderStatus :=
  world.db.outbox.rows.filterMap fun event => if event.aggregateId = id then announcedStatus event.eventType else none

/-- The outbox tells the history of an order. -/
structure TellsHistory (world : World) (id : Uuid) : Prop where
  /-- nothing about an order that does not exist -/
  silent : orderStatus world id = none → told world id = []
  /-- first that it has been created, and that only once -/
  begins : ∀ status, orderStatus world id = some status → ∃ later, told world id = .pending :: later ∧ .pending ∉ later
  /-- last what its row says -/
  ends : ∀ status, orderStatus world id = some status → (told world id).getLast? = some status

section Histories

variable {before after : World} {id : Uuid} {status : OrderStatus}

theorem told_appended {event : OutboxEvent} (added : after.db.outbox.rows = before.db.outbox.rows ++ [event]) (id : Uuid) :
    told after id = told before id ++
      (if event.aggregateId = id then announcedStatus event.eventType else none).toList := by
  unfold told
  rw [added, List.filterMap_append]
  cases told : (if event.aggregateId = id then announcedStatus event.eventType else none) with
  | none => simp [told]
  | some status => simp [told]

/-- An event of another order says nothing about this one. -/
theorem told_elsewhere {event : OutboxEvent} (added : after.db.outbox.rows = before.db.outbox.rows ++ [event])
    (other : event.aggregateId ≠ id) : told after id = told before id := by
  rw [told_appended added, if_neg other]
  exact List.append_nil _

theorem told_about {event : OutboxEvent} (added : after.db.outbox.rows = before.db.outbox.rows ++ [event])
    (own : event.aggregateId = id) (announces : announcedStatus event.eventType = some status) :
    told after id = told before id ++ [status] := by
  rw [told_appended added, if_pos own, announces]
  rfl

/-- Empty tables tell the history of no order. -/
theorem nothing_told {world : World} (orders : world.db.orders.rows = []) (outbox : world.db.outbox.rows = [])
    (id : Uuid) : TellsHistory world id := by
  have absent : orderStatus world id = none := by
    unfold orderStatus Store.Table.lookup
    rw [orders]
    rfl
  constructor
  · intro _
    unfold told
    rw [outbox]
    rfl
  · intro status known
    cases absent.symm.trans known
  · intro status known
    cases absent.symm.trans known

theorem TellsHistory.kept (history : TellsHistory before id) (same : orderStatus after id = orderStatus before id)
    (untold : told after id = told before id) : TellsHistory after id where
  silent absent := untold.trans (history.silent (same.symm.trans absent))
  begins status now := by
    rw [untold]
    exact history.begins status (same.symm.trans now)
  ends status now := by
    rw [untold]
    exact history.ends status (same.symm.trans now)

theorem TellsHistory.created (history : TellsHistory before id) (absent : orderStatus before id = none)
    (now : orderStatus after id = some .pending) (tells : told after id = told before id ++ [.pending]) :
    TellsHistory after id := by
  have alone : told after id = [.pending] := by
    rw [tells, history.silent absent]
    rfl
  constructor
  · intro absent'
    cases absent'.symm.trans now
  · intro status _
    exact ⟨[], alone, List.not_mem_nil⟩
  · intro status known
    cases known.symm.trans now
    rw [alone]
    rfl

theorem TellsHistory.decided (history : TellsHistory before id) (present : (orderStatus before id).isSome)
    (now : orderStatus after id = some status) (final : status ≠ .pending)
    (tells : told after id = told before id ++ [status]) : TellsHistory after id := by
  rcases Option.isSome_iff_exists.mp present with ⟨old, known⟩
  constructor
  · intro absent
    cases absent.symm.trans now
  · intro _ _
    rcases history.begins old known with ⟨later, earlier, once⟩
    refine ⟨later ++ [status], by rw [tells, earlier, List.cons_append], ?_⟩
    intro again
    rcases List.mem_append.mp again with member | member
    · exact once member
    · exact final (List.mem_singleton.mp member).symm
  · intro other known'
    cases known'.symm.trans now
    rw [tells]
    exact List.getLast?_concat

end Histories

/-! ## One event -/

section Events

variable {platform : Platform} {stage : Stage} {event : PipelineEvent}

/-- A row that is appended was not there. -/
theorem appended_fresh {before after : World} {row : OrderRow}
    (added : after.db.orders.rows = before.db.orders.rows ++ [row]) : orderStatus before row.id = none := by
  have unique := after.db.orders.unique
  rw [added, List.map_append] at unique
  have apart := (List.nodup_append.mp unique).2.2
  have absent : row.id ∉ before.db.orders.rows.map OrderRow.id :=
    fun member => apart row.id member row.id (List.mem_singleton_self _) rfl
  unfold orderStatus
  rw [Store.Table.lookup_eq_none.mpr absent]
  rfl

/-- The transaction of a new order tells that it has been created. -/
theorem history_created {request : CreateOrderRequest} {order : Order} {before after : Backend}
    (ordered : Ordered request order) (adds : Adds platform request order before after)
    (history : ∀ id, TellsHistory before.world id) (id : Uuid) : TellsHistory after.world id := by
  have pending : order.status = .pending := by
    rcases createOrder_spec ordered.made with ⟨total, _, made⟩
    rw [made]
  rcases adds.events with ⟨eventId, now, events⟩
  have statuses := orderStatus_appended adds.orders id
  by_cases own : order.id = id
  · subst own
    have absent : orderStatus before.world order.id = none := appended_fresh adds.orders
    refine (history order.id).created absent ?_ (told_about events rfl rfl)
    rw [statuses, absent]
    change (if order.id = order.id then some order.status else none) = some .pending
    rw [if_pos rfl, pending]
  · refine (history id).kept ?_ (told_elsewhere events own)
    rw [statuses]
    change (orderStatus before.world id).or (if order.id = id then _ else none) = _
    rw [if_neg own]
    cases orderStatus before.world id <;> rfl

/-- A transaction of the domain layer tells the status it sets. -/
theorem history_decided {context : SagaContext} {transaction : Transaction} {before after : World}
    (shape : OrderTransaction context transaction) (takes : Takes platform transaction before after)
    (present : (orderStatus before context.orderId).isSome) (history : ∀ id, TellsHistory before id) (id : Uuid) :
    TellsHistory after id := by
  have settle : ∀ (status : OrderStatus) (eventId : Uuid) (event : NewOutboxEvent), status ≠ .pending →
      event.aggregateId = context.orderId → announcedStatus event.eventType = some status →
      transaction = [.updateOrderStatus context.orderId status, .insertOutboxEvent eventId event] →
      TellsHistory after id := by
    rintro status eventId event final about announces rfl
    have events := Store.Table.rows_insert (orderTransaction_takes takes).2
    have statuses := orderStatus_takes takes id
    by_cases own : id = context.orderId
    · subst own
      rcases Option.isSome_iff_exists.mp present with ⟨old, known⟩
      rw [if_pos rfl, known] at statuses
      exact (history _).decided present statuses final (told_about events about announces)
    · rw [if_neg own] at statuses
      exact (history id).kept statuses (told_elsewhere events fun same => own (same.symm.trans about))
  cases shape with
  | confirmation transactionId eventId => exact settle .paid eventId _ (by decide) rfl rfl rfl
  | cancellation eventId => exact settle .cancelled eventId _ (by decide) rfl rfl rfl

/-- Every event of the pipeline keeps the histories. -/
theorem history_step (issued : Issues platform stage.task stage.log event.call)
    (behaves : Behaves platform stage.task (event :: stage.log)) (informed : Informed stage.task (event :: stage.log))
    (admitted : (pipeline platform).Admits stage.log event)
    (known : ∀ id, KnowsOrder id (portsLog stage.log) → (orderStatus event.before.world id).isSome)
    (history : ∀ id, TellsHistory event.before.world id) (id : Uuid) : TellsHistory event.after.world id := by
  have same : ∀ {after : World}, after.db.orders.rows = event.before.world.db.orders.rows →
      after.db.outbox.rows = event.before.world.db.outbox.rows → TellsHistory after id := by
    intro after orders events
    refine (history id).kept (orderStatus_rows orders id) ?_
    unfold told
    rw [events]
  rcases event with ⟨call, reply, before, after⟩
  cases call with
  | intake call =>
      have admitted' : (api platform plainApi).Admits (intakeLog stage.log) ⟨call, reply, before, after⟩ :=
        seen_by_intake admitted _
      cases intake_admits admitted' with
      | committed transaction called done =>
          cases called
          rcases issued.of_intake with ⟨request, _, _, order, eventId, ordered, _, rfl⟩
          exact history_created ordered (commit_adds done).1 history id
      | queued jobId data called done =>
          replace done : after = before.addJob jobId data := done
          have tables := addJob_tables before jobId data
          rw [← done] at tables
          exact same tables.1 tables.2.2
      | aside unchanged _ => exact same unchanged.orders unchanged.events
  | ports call =>
      have admitted' := (seen_by_ports admitted []).1
      rcases admits_iff.mp admitted' with ⟨choice, performed⟩
      cases call with
      | commit transaction =>
          rcases World.commit_answered performed with ⟨unchanged, _⟩ | takes
          · exact same (by rw [unchanged]) (by rw [unchanged])
          · have commits := commit_known issued behaves informed rfl
            rcases issued.of_ports behaves with ⟨task, conduct⟩
            rcases conduct_commits conduct (commit_listed rfl _) with ⟨context, shape⟩
            have outcome : ∃ status, transaction.outcome = some (context.orderId, status) := by
              cases shape with
              | confirmation transactionId eventId => exact ⟨_, rfl⟩
              | cancellation eventId => exact ⟨_, rfl⟩
            rcases outcome with ⟨status, outcome⟩
            rcases commits transaction (commit_listed rfl _) _ _ outcome with ⟨seen, member, saga, shown, about⟩
            -- the commit itself shows nothing
            rcases List.mem_cons.mp member with rfl | earlier
            · cases shown
            · exact history_decided shape takes (known _ ⟨seen, earlier, saga, shown, about⟩) history id
      | _ =>
          have frame := World.perform_frame performed
          exact same (congrArg Store.Table.rows (frame.orders fun impossible => by cases impossible))
            (congrArg Store.Table.rows (frame.outbox fun impossible => by cases impossible))
  | queue call =>
      rcases queue_changes admitted with ⟨change, unchanged, _⟩
      replace unchanged : after = { before with jobs := before.jobs.map change } := unchanged
      exact same (by rw [unchanged]) (by rw [unchanged])

end Events

/-! ## All runs -/

/-- The histories are told, and the orders that routines know exist. -/
structure Chronicled (config : Flowing) : Prop where
  known : ∀ stage ∈ config.threads, ∀ id, KnowsOrder id (portsLog stage.log) →
    (orderStatus config.shared.world id).isSome
  history : ∀ id, TellsHistory config.shared.world id

section Runs

variable {platform : Platform} {Legal : Flowing → Move PipelineTask Choice → Prop} {start : Backend}
  {config next : Flowing}

/-- A routine has seen the saga before, or sees it now. -/
theorem known_cons {event : PipelineEvent} {log : PipelineLog} {id : Uuid}
    (knows : KnowsOrder id (portsLog (event :: log))) : KnowsOrder id (portsLog log) ∨
      ∃ call reply before after saga, event = ⟨.ports call, reply, before, after⟩ ∧
        shows ⟨call, reply, before.world, after.world⟩ = some saga ∧ saga.orderId = id := by
  rcases knows with ⟨seen, member, saga, shown, about⟩
  rcases List.mem_filterMap.mp member with ⟨answered, listed, viewed⟩
  rcases List.mem_cons.mp listed with rfl | earlier
  · right
    rcases answered with ⟨call, reply, before, after⟩
    cases call with
    | intake call => cases viewed
    | ports call =>
        cases viewed
        exact ⟨call, reply, before, after, saga, rfl, shown, about⟩
    | queue call => cases viewed
  · exact Or.inl ⟨seen, List.mem_filterMap.mpr ⟨answered, earlier, viewed⟩, saga, shown, about⟩

theorem Chronicled.unmoved (chronicled : Chronicled config) (unmoved : System.Unmoved config next) :
    Chronicled next where
  known stage member id knows := by
    rw [unmoved.shared]
    rcases unmoved.mem member with ⟨old, listed, _, same⟩ | nothing
    · exact chronicled.known old listed id (same ▸ knows)
    · rw [nothing] at knows
      rcases knows with ⟨_, impossible, _⟩
      cases impossible
  history id := by
    rw [unmoved.shared]
    exact chronicled.history id

theorem Chronicled.moved {index : Nat} {stage : Stage} {event : PipelineEvent} (rest : Pipeline PipelineOutcome)
    (chronicled : Chronicled config) (listed : config.threads[index]? = some stage) (start : event.before = config.shared)
    (admitted : (pipeline platform).Admits stage.log event) (issued : Issues platform stage.task stage.log event.call)
    (behaves : Behaves platform stage.task (event :: stage.log)) (informed : Informed stage.task (event :: stage.log)) :
    Chronicled { shared := event.after, threads := config.threads.set index (stage.answered event rest) } := by
  have member := List.mem_of_getElem? listed
  have persists : ∀ {id}, (orderStatus config.shared.world id).isSome → (orderStatus event.after.world id).isSome := by
    intro id present
    rw [← start] at present
    exact (statusStep issued behaves admitted id).persists present
  constructor
  · intro other among id knows
    rcases List.mem_or_eq_of_mem_set among with earlier | rfl
    · exact persists (chronicled.known other earlier id knows)
    · rcases known_cons knows with before | ⟨call, reply, before, after, saga, rfl, shown, rfl⟩
      · exact persists (chronicled.known stage member id before)
      · exact shown_present (seen_by_ports admitted []).1 shown
  · apply history_step issued behaves informed admitted
    · rw [start]
      exact chronicled.known stage member
    · rw [start]
      exact chronicled.history

theorem reaches_informed (reached : (pipeline platform).Reaches Legal { shared := start } config) :
    ∀ stage ∈ config.threads, (pipeline platform).Keeps (fun task log _ => Informed task log)
      (fun task _ => Informed task) (fun task _ => Informed task) stage := by
  apply reached.contract
  · intro stage member
    cases member
  · intro earlier task _
    exact informed_stage task

/-- In every state of every run, whatever fails, is lost or is stopped, the outbox
tells the history of every order. -/
theorem outbox_tells_history (initial : ∀ id, TellsHistory start.world id)
    (reached : (pipeline platform).Reaches Legal { shared := start } config) (id : Uuid) :
    TellsHistory config.shared.world id := by
  have chronicled : Chronicled config := by
    refine reached.moving ?_ ?_ ?_
    · refine ⟨?_, initial⟩
      intro stage member
      cases member
    · exact fun earlier next unmoved holds => holds.unmoved unmoved
    · intro earlier index choice stage call resume reached' _ listed pending holds
      have among := List.mem_of_getElem? listed
      have answered := (reaches_stages reached' stage among).answered pending earlier.shared choice
      have informed := ((reaches_informed reached' stage among).answered pending earlier.shared choice).2.standing
      exact holds.moved _ listed rfl ⟨choice, rfl⟩ answered.1.2 (Stage.Keeping.behaves answered.2) informed
  exact chronicled.history id

/-- A new order whose saga has cancelled it, because its SKU is unknown. -/
theorem outbox_tells_cancelled :
    TellsHistory ((pipeline postgresJs).run { shared := emptyBackend }
      (.start (.createOrder fiveUnits) :: (List.replicate 10 (.advance 0 .serve) ++
        .start (.sagaJob "saga-0") :: List.replicate 30 (.advance 1 .serve)))).shared.world 0 :=
  outbox_tells_history (nothing_told rfl rfl) (System.run_reaches _ _) 0

end Runs

end Orderly
