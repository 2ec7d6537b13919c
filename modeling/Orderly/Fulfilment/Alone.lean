import Orderly.Fulfilment.OrderRows
import Orderly.Process.Execution

/-!
# Routines running alone

What a routine leaves behind when nothing else touches the tables.  The order's
status and the outbox change only where a commit takes effect, so the log says
what the tables hold.
-/

namespace Orderly

open Store (Table)
open Process (Program System)

variable {platform : Platform} {α : Type} {program rest : Service α} {world state : World}
  {log : CallLog}

/-- A contract with one postcondition for every end holds of the log so far. -/
theorem executes_conduct {Fine : CallEvent → Prop} {Good : Footprint → Prop}
    (executes : (orderly platform).Executes program world log rest state)
    (follows : Follows platform Fine Good (fun _ => Good) Good program [])
    (fine : ∀ event ∈ log, Fine event) : Good (footprint log) := by
  have ahead := (executes.contract fine follows).1
  cases rest with
  | done value => exact ahead
  | thrown error => exact ahead
  | await call resume => exact ahead.1

/-- A call that throws or reports failure. -/
def fails : CallEvent → Bool
  | ⟨.acquire _ _, .ok none, _, _⟩ => true
  | ⟨.reserve _ _, .ok false, _, _⟩ => true
  | ⟨.release _ _, .ok false, _, _⟩ => true
  | ⟨.breakerAdmits, .ok false, _, _⟩ => true
  | ⟨.charge _ _ _, .ok result, _, _⟩ => !result.success
  | ⟨.refund _ _, .ok result, _, _⟩ => !result.success
  | ⟨_, .error _, _, _⟩ => true
  | _ => false

/-- A call that does not fail is not rejected. -/
theorem not_rejected {event : CallEvent} (succeeds : fails event = false) : ¬ Rejected event := by
  rintro ⟨error, rejected⟩
  rcases event with ⟨call, reply, before, after⟩
  change reply = .error error at rejected
  subst rejected
  cases call <;> cases succeeds

/-- The first call of a routine that has ended without a failing call. -/
theorem executes_first {call : Call} {resume : Except JsError call.Reply → Service α}
    (executes : (orderly platform).Executes (.await call resume) world log rest state)
    (finished : rest.finished = true) (served : ∀ event ∈ log, fails event = false) :
    ∃ reply after since, log = since ++ [⟨call, .ok reply, world, after⟩] ∧
      (orderly platform).Admits [] ⟨call, .ok reply, world, after⟩ ∧
      (orderly platform).Executes (resume (.ok reply)) after since rest state := by
  rcases executes.first with ⟨_, rfl⟩ | ⟨choice, since, rfl, later⟩
  · cases finished
  · have succeeds := not_rejected (served _ (List.mem_append_right _ (List.mem_singleton_self _)))
    have admitted : (orderly platform).Admits [] ((orderly platform).answer world call choice) := ⟨choice, rfl⟩
    unfold System.answer at later succeeds admitted ⊢
    generalize (orderly platform).perform world call choice = performed at later succeeds admitted ⊢
    rcases performed with ⟨error | reply, after⟩
    · exact absurd ⟨error, rfl⟩ succeeds
    · exact ⟨reply, after, since, rfl, admitted, later⟩

/-! ## Orders -/

/-- The order has that status and the event about it has been written. -/
def Settled (world : World) (orderId : Uuid) (status : OrderStatus) (eventType : String) : Prop :=
  orderStatus world orderId = some status ∧ Announced world eventType orderId

/-- A transaction that sets an order's status and writes the event about it. -/
def Transaction.Settles (transaction : Transaction) (orderId : Uuid) (status : OrderStatus)
    (eventType : String) : Prop :=
  ∃ eventId event, transaction = [.updateOrderStatus orderId status, .insertOutboxEvent eventId event] ∧
    event.eventType = eventType ∧ event.aggregateId = orderId

theorem SagaContext.confirmation_settles (context : SagaContext) (transactionId : Option String)
    (eventId : Uuid) :
    (context.confirmation transactionId eventId).Settles context.orderId .paid "order.paid" :=
  ⟨eventId, context.paidEvent transactionId, rfl, rfl, rfl⟩

theorem SagaContext.cancellation_settles (context : SagaContext) (eventId : Uuid) :
    (context.cancellation eventId).Settles context.orderId .cancelled "order.failed" :=
  ⟨eventId, context.failedEvent, rfl, rfl, rfl⟩

/-- An answered commit whose transaction has taken effect. -/
def Commits (platform : Platform) (event : CallEvent) : Prop :=
  ∃ transaction, event.call = .commit transaction ∧ Takes platform transaction event.before event.after

/-- A commit anywhere in a log is listed. -/
theorem commit_member {event : CallEvent} {transaction : Transaction} (member : event ∈ log)
    (call : event.call = .commit transaction) : transaction ∈ (footprint log).commitCalls := by
  rcases List.append_of_mem member with ⟨since, earlier, rfl⟩
  rw [footprint_append]
  exact List.mem_append_left _ (commit_listed call earlier)

/-- An update anywhere in a log is listed. -/
theorem update_member {event : CallEvent} {row : SagaInstance} (member : event ∈ log)
    (call : event.call = .updateSaga row) : row ∈ (footprint log).updateCalls := by
  rcases List.append_of_mem member with ⟨since, earlier, rfl⟩
  rw [footprint_append]
  refine List.mem_append_left _ ?_
  rw [(update_footprint call earlier).1]
  exact List.mem_concat_self

/-- An answered commit. -/
def answeredCommit : CallEvent → Bool
  | ⟨.commit _, .ok _, _, _⟩ => true
  | _ => false

/-- An answered commit has taken effect. -/
theorem commits_of_answered (admitted : ∀ event ∈ log, (orderly platform).Admits [] event)
    (answered : log.any answeredCommit = true) : ∃ event ∈ log, Commits platform event := by
  rcases List.any_eq_true.mp answered with ⟨event, member, replied⟩
  refine ⟨event, member, ?_⟩
  have performed := admitted event member
  unfold answeredCommit at replied
  split at replied
  · next transaction value before after =>
      rcases admits_iff.mp performed with ⟨choice, performed⟩
      rcases World.commit_answered performed with ⟨_, refused⟩ | takes
      · exact absurd rfl refused
      · exact ⟨transaction, rfl, takes⟩
  · cases replied

/-- An event that commits nothing leaves the orders and the outbox alone. -/
theorem unchanged_of_not_commits {event : CallEvent} (admitted : (orderly platform).Admits [] event)
    (uncommitted : ¬ Commits platform event) :
    event.after.db.orders = event.before.db.orders ∧ event.after.db.outbox = event.before.db.outbox := by
  rcases event with ⟨call, reply, before, after⟩
  rcases admits_iff.mp admitted with ⟨choice, performed⟩
  cases call with
  | commit transaction =>
      rcases World.commit_answered performed with ⟨rfl, _⟩ | takes
      · exact ⟨rfl, rfl⟩
      · exact absurd ⟨transaction, rfl, takes⟩ uncommitted
  | _ =>
      have frame := World.perform_frame performed
      exact ⟨frame.orders fun same => (by cases same), frame.outbox fun same => (by cases same)⟩

section Outcomes

variable {orderId : Uuid} {status : OrderStatus} {eventType : String}

theorem Transaction.Settles.takes {transaction : Transaction} {before after : World}
    (settles : transaction.Settles orderId status eventType) (takes : Takes platform transaction before after) :
    orderStatus after orderId = (orderStatus before orderId).map (fun _ => status) ∧
      Announced after eventType orderId := by
  rcases settles with ⟨eventId, event, rfl, type, about⟩
  have update := orderStatus_takes takes orderId
  have announced := announced_takes takes
  rw [if_pos rfl] at update
  rw [type, about] at announced
  exact ⟨update, announced⟩

/-- Where all commits settle the order in one way, it ends up so exactly when one
of them takes effect on an existing order, or when it was so before. -/
theorem settled_iff (chained : System.Chained world log state)
    (admitted : ∀ event ∈ log, (orderly platform).Admits [] event)
    (commits : ∀ event ∈ log, ∀ transaction, event.call = .commit transaction →
      transaction.Settles orderId status eventType) :
    (orderStatus state orderId).isSome = (orderStatus world orderId).isSome ∧
      (Settled state orderId status eventType ↔
        ((orderStatus world orderId).isSome ∧ ∃ event ∈ log, Commits platform event) ∨
          Settled world orderId status eventType) := by
  induction log generalizing state with
  | nil =>
      cases chained
      refine ⟨rfl, Or.inr, ?_⟩
      rintro (⟨_, event, member, _⟩ | settled)
      · cases member
      · exact settled
  | cons event log inductionHypothesis =>
      rcases chained with ⟨rfl, chained⟩
      rcases inductionHypothesis chained (fun event member => admitted event (List.mem_cons_of_mem _ member))
        (fun event member => commits event (List.mem_cons_of_mem _ member)) with ⟨present, settled⟩
      by_cases committed : Commits platform event
      · rcases committed with ⟨transaction, call, takes⟩
        rcases (commits event List.mem_cons_self transaction call).takes takes with ⟨update, announced⟩
        constructor
        · rw [update, Option.isSome_map, present]
        · unfold Settled
          rw [update]
          constructor
          · rintro ⟨now, _⟩
            left
            refine ⟨?_, event, List.mem_cons_self, transaction, call, takes⟩
            rw [← present]
            rcases Option.map_eq_some_iff.mp now with ⟨old, known, _⟩
            rw [known]
            rfl
          · intro before
            refine ⟨?_, announced⟩
            have known : (orderStatus event.before orderId).isSome := by
              rw [present]
              rcases before with ⟨known, _⟩ | ⟨known, _⟩
              · exact known
              · rw [known]
                rfl
            rcases Option.isSome_iff_exists.mp known with ⟨old, known⟩
            rw [known]
            rfl
      · rcases unchanged_of_not_commits (admitted event List.mem_cons_self) committed with ⟨orders, outbox⟩
        have same : Settled event.after orderId status eventType ↔ Settled event.before orderId status eventType := by
          unfold Settled Announced
          rw [orderStatus_of_orders orders, outbox]
        constructor
        · rw [orderStatus_of_orders orders]
          exact present
        · rw [same, settled]
          constructor
          · rintro (⟨known, other, member, effective⟩ | before)
            · exact Or.inl ⟨known, other, List.mem_cons_of_mem _ member, effective⟩
            · exact Or.inr before
          · rintro (⟨known, other, member, effective⟩ | before)
            · rcases List.mem_cons.mp member with rfl | earlier
              · exact absurd effective committed
              · exact Or.inl ⟨known, other, earlier, effective⟩
            · exact Or.inr before

end Outcomes

end Orderly
