import Orderly.Api.Orders

/-!
# Creating an order

The contract of `createOrder`: which transaction it commits, which job it
enqueues, and what is known where it returns or throws.  The order's id is the
first UUID that the routine draws.
-/

namespace Orderly

open Process (Program System)

/-- An order as the request describes it. -/
structure Ordered (request : CreateOrderRequest) (order : Order) : Prop where
  items : List.Forall₂ (fun line item =>
    createOrderItem item.id order.id line.sku line.quantity line.unitPrice request.currency = .ok item)
    request.items order.items
  made : createOrder order.id request.customerId order.items request.currency request.idempotencyKey
    order.createdAt order.updatedAt = .ok order

/-- The statements of the transaction. -/
def orderTransaction (request : CreateOrderRequest) (order : Order) (eventId : Uuid) : IntakeTransaction :=
  [.insertOrder order, .insertItems order.items, .insertOutboxEvent eventId (OrderService.createdEvent request order)]

/-! ## What a log tells -/

def drawnBy : IntakeEvent → Option Uuid
  | ⟨.uuidv4, .ok id, _, _⟩ => some id
  | _ => none

/-- The first UUID of a log, which lists the newest event first. -/
def orderId (log : IntakeLog) : Option Uuid := (log.filterMap drawnBy).getLast?

def commits : IntakeEvent → Bool
  | ⟨.commit _, _, _, _⟩ => true
  | _ => false

/-- A commit whose success has been reported. -/
def confirms : IntakeEvent → Bool
  | ⟨.commit _, .ok _, _, _⟩ => true
  | _ => false

def enqueues : IntakeEvent → Bool
  | ⟨.addJob _ _, _, _, _⟩ => true
  | _ => false

/-- Nothing has been committed or enqueued. -/
def Quiet (log : IntakeLog) : Prop := ∀ event ∈ log, commits event = false ∧ enqueues event = false

/-- No commit has been confirmed, and nothing has been enqueued. -/
def Unconfirmed (log : IntakeLog) : Prop := ∀ event ∈ log, confirms event = false ∧ enqueues event = false

/-- The order's transaction has been confirmed. -/
def Confirmed (request : CreateOrderRequest) (order : Order) (log : IntakeLog) : Prop :=
  ∃ eventId before after, ⟨.commit (orderTransaction request order eventId), .ok (), before, after⟩ ∈ log

/-- The calls a routine that creates an order may issue. -/
def Intends (request : CreateOrderRequest) (log : IntakeLog) : intake.Call → Prop
  | .commit transaction => Quiet log ∧
      ∃ order eventId, Ordered request order ∧ orderId log = some order.id ∧
        transaction = orderTransaction request order eventId
  | .addJob jobId data => (∀ event ∈ log, enqueues event = false) ∧
      ∃ order, Ordered request order ∧ orderId log = some order.id ∧ Confirmed request order log ∧
        jobId = Intake.SagaEnqueuer.jobId order.id ∧ data = OrderService.sagaContext request order
  | .incr _ | .pexpireat _ _ | .get _ | .set _ _ _ => False
  | _ => True

section Logs

variable {log : IntakeLog} {event : IntakeEvent}

theorem Quiet.cons (quiet : Quiet log) (aside : commits event = false ∧ enqueues event = false) :
    Quiet (event :: log) := by
  intro other member
  rcases List.mem_cons.mp member with rfl | earlier
  · exact aside
  · exact quiet other earlier

theorem Unconfirmed.cons (unconfirmed : Unconfirmed log) (aside : confirms event = false ∧ enqueues event = false) :
    Unconfirmed (event :: log) := by
  intro other member
  rcases List.mem_cons.mp member with rfl | earlier
  · exact aside
  · exact unconfirmed other earlier

theorem commits_of_call {transaction : IntakeTransaction} (called : event.call = .commit transaction) :
    commits event = true := by
  rcases event with ⟨call, reply, before, after⟩
  cases called
  rfl

theorem call_of_commits (commit : commits event = true) : ∃ transaction, event.call = .commit transaction := by
  rcases event with ⟨call, reply, before, after⟩
  cases call with
  | commit transaction => exact ⟨transaction, rfl⟩
  | _ => cases commit

theorem enqueues_of_call {jobId : String} {data : SagaContext} (called : event.call = .addJob jobId data) :
    enqueues event = true := by
  rcases event with ⟨call, reply, before, after⟩
  cases called
  rfl

theorem confirms_of_commits (uncommitted : commits event = false) : confirms event = false := by
  rcases event with ⟨call, reply, before, after⟩
  cases call with
  | commit transaction => cases uncommitted
  | _ => rfl

theorem Quiet.unconfirmed (quiet : Quiet log) : Unconfirmed log :=
  fun event member => ⟨confirms_of_commits (quiet event member).1, (quiet event member).2⟩

theorem orderId_cons {id : Uuid} (drawn : orderId log = some id) : orderId (event :: log) = some id := by
  unfold orderId at *
  rw [List.filterMap_cons]
  split
  · exact drawn
  · next later _ =>
      rw [List.getLast?_cons, drawn]
      rfl

theorem orderId_first {id : Uuid} (undrawn : orderId log = none) (draws : drawnBy event = some id) :
    orderId (event :: log) = some id := by
  have nothing : log.filterMap drawnBy = [] := List.getLast?_eq_none_iff.mp undrawn
  unfold orderId
  rw [List.filterMap_cons_some draws, nothing]
  rfl

theorem orderId_aside (aside : drawnBy event = none) : orderId (event :: log) = orderId log := by
  unfold orderId
  rw [List.filterMap_cons_none aside]

end Logs

/-! ## The contract -/

section Contract

variable {platform : Platform} {config : ApiConfig} {request : CreateOrderRequest} {log : IntakeLog} {id : Uuid}

/-- Before the transaction is committed. -/
def Drafting (id : Uuid) (log : IntakeLog) : Prop := Quiet log ∧ orderId log = some id

theorem Drafting.cons {event : IntakeEvent} (drafting : Drafting id log)
    (aside : commits event = false ∧ enqueues event = false) : Drafting id (event :: log) :=
  ⟨drafting.1.cons aside, orderId_cons drafting.2⟩

/-- A UUID is always drawn. -/
theorem uuid_answered {before after : Backend} {error : JsError} :
    ¬ (api platform config).Admits log ⟨.uuidv4, .error error, before, after⟩ := by
  intro admitted
  rcases System.admits_iff.mp admitted with ⟨choice, performed⟩
  cases choice <;> cases (Prod.ext_iff.mp performed).1

theorem date_answered {before after : Backend} {error : JsError} :
    ¬ (api platform config).Admits log ⟨.newDate, .error error, before, after⟩ := by
  intro admitted
  rcases System.admits_iff.mp admitted with ⟨choice, performed⟩
  cases choice <;> cases (Prod.ext_iff.mp performed).1

theorem createItems_meets {lines : List OrderLine} {currency : String} (drafting : Drafting id log) :
    (OrderService.createItems id currency lines).Meets (api platform config).Admits (Intends request)
      (fun items log => Drafting id log ∧ List.Forall₂ (fun line item =>
        createOrderItem item.id id line.sku line.quantity line.unitPrice currency = .ok item) lines items)
      (fun _ => Unconfirmed) log := by
  induction lines generalizing log with
  | nil => exact ⟨drafting, .nil⟩
  | cons line lines inductionHypothesis =>
      apply Program.Meets.call_bind trivial
      · intro error before after admitted
        exact absurd admitted uuid_answered
      · intro itemId before after _
        have drawn : Drafting id (⟨.uuidv4, .ok itemId, before, after⟩ :: log) := drafting.cons ⟨rfl, rfl⟩
        cases made : createOrderItem itemId id line.sku line.quantity line.unitPrice currency with
        | error error => exact drawn.1.unconfirmed
        | ok item =>
            apply Program.Meets.bind (inductionHypothesis drawn)
            rintro items log ⟨drafting, made'⟩
            refine ⟨drafting, .cons ?_ made'⟩
            have named : item.id = itemId := (createOrderItem_spec made).1
            rw [named]
            exact made

/-- An order has items. -/
theorem Ordered.nonempty {order : Order} (ordered : Ordered request order) : 0 < order.items.length := by
  have made := ordered.made
  unfold Orderly.createOrder at made
  split at made
  · cases made
  · next some => exact List.length_pos_iff.mpr some

/-- The transaction has been confirmed and nothing has been enqueued yet. -/
def OrderWritten (request : CreateOrderRequest) (order : Order) (log : IntakeLog) : Prop :=
  Confirmed request order log ∧ (∀ event ∈ log, enqueues event = false) ∧ orderId log = some order.id

theorem writeOrder_meets {order : Order} (ordered : Ordered request order) (drafting : Drafting order.id log) :
    (OrderService.writeOrder request order).Meets (api platform config).Admits (Intends request)
      (fun _ => OrderWritten request order) (fun _ => Unconfirmed) log := by
  have both : (Intake.OrderRepository.createWithSql order []).Meets (api platform config).Admits (Intends request)
      (fun tx log => Drafting order.id log ∧ tx = [.insertOrder order, .insertItems order.items])
      (fun _ => Unconfirmed) log := by
    unfold Intake.OrderRepository.createWithSql
    apply Program.Meets.call_bind trivial
    · intro error before after _
      exact (drafting.cons ⟨rfl, rfl⟩).1.unconfirmed
    · intro value before after _
      have inserted : Drafting order.id (⟨.execute (.insertOrder order), .ok value, before, after⟩ :: log) :=
        drafting.cons ⟨rfl, rfl⟩
      rw [if_pos ordered.nonempty]
      apply Program.Meets.call_bind trivial
      · intro error before after _
        exact (inserted.cons ⟨rfl, rfl⟩).1.unconfirmed
      · intro value before after _
        exact ⟨inserted.cons ⟨rfl, rfl⟩, rfl⟩
  have all : (Intake.OrderRepository.createWithSql order [] >>= fun tx =>
      Intake.OutboxRepository.createWithSql (OrderService.createdEvent request order) tx).Meets
      (api platform config).Admits (Intends request)
      (fun tx log => Drafting order.id log ∧ ∃ eventId, tx = orderTransaction request order eventId)
      (fun _ => Unconfirmed) log := by
    apply Program.Meets.bind both
    rintro tx log ⟨drafting, rfl⟩
    unfold Intake.OutboxRepository.createWithSql
    apply Program.Meets.call_bind trivial
    · intro error before after admitted
      exact absurd admitted uuid_answered
    · intro eventId before after _
      have drawn : Drafting order.id (⟨.uuidv4, .ok eventId, before, after⟩ :: log) := drafting.cons ⟨rfl, rfl⟩
      apply Program.Meets.call_bind trivial
      · intro error before after _
        exact (drawn.cons ⟨rfl, rfl⟩).1.unconfirmed
      · intro value before after _
        exact ⟨drawn.cons ⟨rfl, rfl⟩, eventId, rfl⟩
  apply Program.Meets.bind all
  rintro tx log ⟨drafting, eventId, rfl⟩
  refine ⟨⟨drafting.1, order, eventId, ordered, drafting.2, rfl⟩, fun reply before after _ => ?_⟩
  cases reply with
  | ok value =>
      refine ⟨⟨eventId, before, after, List.mem_cons_self⟩, ?_, orderId_cons drafting.2⟩
      intro event member
      rcases List.mem_cons.mp member with rfl | earlier
      · rfl
      · exact (drafting.1 event earlier).2
  | error error => exact drafting.1.unconfirmed.cons ⟨rfl, rfl⟩

/-- The order has been written, whatever became of its job. -/
def Placed (request : CreateOrderRequest) (order : Order) (log : IntakeLog) : Prop :=
  Ordered request order ∧ orderId log = some order.id ∧ Confirmed request order log

theorem Confirmed.cons {order : Order} {event : IntakeEvent} (confirmed : Confirmed request order log) :
    Confirmed request order (event :: log) := by
  rcases confirmed with ⟨eventId, before, after, member⟩
  exact ⟨eventId, before, after, List.mem_cons_of_mem _ member⟩

/-- A routine that has committed and drawn nothing before creates at most one order,
and enqueues its saga only when the commit has been confirmed. -/
theorem createOrder_meets (quiet : Quiet log) (undrawn : orderId log = none) :
    (OrderService.createOrder request).Meets (api platform config).Admits (Intends request)
      (fun result => Placed request result.order) (fun _ => Unconfirmed) log := by
  unfold OrderService.createOrder
  apply Program.Meets.call_bind trivial
  · intro error before after admitted
    exact absurd admitted uuid_answered
  intro id before after _
  have drafting : Drafting id (⟨.uuidv4, .ok id, before, after⟩ :: log) :=
    ⟨quiet.cons ⟨rfl, rfl⟩, orderId_first undrawn rfl⟩
  apply Program.Meets.bind (createItems_meets drafting)
  rintro items log ⟨drafting, created⟩
  apply Program.Meets.call_bind trivial
  · intro error before after admitted
    exact absurd admitted date_answered
  intro createdAt before after _
  have once : Drafting id (⟨.newDate, .ok createdAt, before, after⟩ :: log) := drafting.cons ⟨rfl, rfl⟩
  apply Program.Meets.call_bind trivial
  · intro error before after admitted
    exact absurd admitted date_answered
  intro updatedAt before after _
  have twice : Drafting id (⟨.newDate, .ok updatedAt, before, after⟩ :: _) := once.cons ⟨rfl, rfl⟩
  cases made : Orderly.createOrder id request.customerId items request.currency request.idempotencyKey createdAt
      updatedAt with
  | error error => exact twice.1.unconfirmed
  | ok order =>
      have fields : order.id = id ∧ order.items = items ∧ order.createdAt = createdAt ∧ order.updatedAt = updatedAt := by
        rcases createOrder_spec made with ⟨total, _, rfl⟩
        exact ⟨rfl, rfl, rfl, rfl⟩
      rcases fields with ⟨rfl, rfl, rfl, rfl⟩
      have ordered : Ordered request order := ⟨created, made⟩
      apply Program.Meets.bind (writeOrder_meets ordered twice)
      rintro _ log ⟨confirmed, unqueued, drawn⟩
      -- whatever the enqueue answers, the order has been placed
      have enqueued : (tryCatch (Intake.SagaEnqueuer.enqueue (OrderService.sagaContext request order)) fun _ => do
          return toString (← Intake.uuidv4)).Meets (api platform config).Admits (Intends request)
          (fun _ => Placed request order) (fun _ => Unconfirmed) log := by
        have attempted : (Intake.SagaEnqueuer.enqueue (OrderService.sagaContext request order)).Meets
            (api platform config).Admits (Intends request) (fun _ => Placed request order)
            (fun _ => Placed request order) log := by
          apply Program.Meets.call_bind
          · exact ⟨unqueued, order, ordered, drawn, confirmed, rfl, rfl⟩
          · intro error before after _
            exact ⟨ordered, orderId_cons drawn, confirmed.cons⟩
          · intro value before after _
            exact ⟨ordered, orderId_cons drawn, confirmed.cons⟩
        apply Program.Meets.tryCatch attempted
        intro error log placed
        apply Program.Meets.call_bind trivial
        · intro error before after admitted
          exact absurd admitted uuid_answered
        · intro value before after _
          exact ⟨ordered, orderId_cons placed.2.1, placed.2.2.cons⟩
      apply Program.Meets.bind enqueued
      intro sagaId log placed
      exact placed

end Contract

end Orderly
