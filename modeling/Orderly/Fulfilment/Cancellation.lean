import Orderly.Fulfilment.Alone

/-!
# FAILED and the cancelled order

`compensate` catches whatever its cancelling transaction throws and goes on to
the FAILED write, so FAILED says that the cancellation has been attempted.  It
has happened exactly when the transaction took effect on an existing order.
-/

namespace Orderly

open Process (Program System)

/-- A compensation has overwritten its row with FAILED. -/
def PersistsFailed (platform : Platform) (log : CallLog) : Prop :=
  ∃ event ∈ log, ∃ row : SagaInstance, event.call = .updateSaga row ∧ row.status = .failed ∧
    event.after.db = event.before.db.updateSaga platform row

/-- FAILED means that the order is CANCELLED and that this has been announced. -/
def FailedMeansCancelled (platform : Platform) (context : SagaContext) (log : CallLog) (state : World) :
    Prop :=
  PersistsFailed platform log → Settled state context.orderId .cancelled "order.failed"

variable {platform : Platform} {context : SagaContext} {sagaId : Uuid} {saga : SagaInstance}
  {world state : World} {log : CallLog} {rest : Service SagaInstance}

/-- A compensation that runs alone has a footprint of `Compensating`. -/
theorem compensate_conduct
    (executes : (orderly platform).Executes (SagaOrchestrator.compensate platform sagaId context saga)
      world log rest state) : Compensating platform context saga (footprint log) := by
  have follows : Follows platform (fun _ => True) (Compensating platform context saga)
      (fun _ => Compensating platform context saga) (Compensating platform context saga)
      (SagaOrchestrator.compensate platform sagaId context saga) [] := by
    refine Follows.weaken (compensate_follows ?_ ?_ footprint_nil) ?_ (fun _ holds => holds)
    · exact fun compensating => (Footprint.empty_append _).symm ▸ compensating
    · exact fun compensating => (Footprint.empty_append _).symm ▸ compensating
    · rintro row _ ⟨running, _, ⟨_, steps, undone, undoing, _, rfl⟩, rfl⟩
      rw [Footprint.empty_append]
      exact .undoing running undoing
  exact executes_conduct executes follows fun _ _ => trivial

/-- After a FAILED write the order is CANCELLED and announced exactly when the
cancelling transaction has taken effect on an existing order, or when it was so
before. -/
theorem failed_cancelled_iff
    (executes : (orderly platform).Executes (SagaOrchestrator.compensate platform sagaId context saga)
      world log rest state) :
    FailedMeansCancelled platform context log state ↔
      (PersistsFailed platform log →
        ((orderStatus world context.orderId).isSome ∧ ∃ event ∈ log, Commits platform event) ∨
          Settled world context.orderId .cancelled "order.failed") := by
  have compensating := compensate_conduct executes
  have commits : ∀ event ∈ log, ∀ transaction, event.call = .commit transaction →
      transaction.Settles context.orderId .cancelled "order.failed" := by
    intro event member transaction call
    rcases compensating_commits compensating (commit_member member call) with ⟨eventId, rfl⟩
    exact context.cancellation_settles eventId
  have settled := (settled_iff executes.chained executes.admits commits).2
  unfold FailedMeansCancelled
  rw [settled]

/-! ## Two compensations of one saga -/

/-- An answered FAILED write. -/
def answeredFailed : CallEvent → Bool
  | ⟨.updateSaga row, .ok _, _, _⟩ => row.status = .failed
  | _ => false

theorem persistsFailed_of_answered (admitted : ∀ event ∈ log, (orderly platform).Admits [] event)
    (answered : log.any answeredFailed = true) : PersistsFailed platform log := by
  rcases List.any_eq_true.mp answered with ⟨event, member, failed⟩
  have performed := admitted event member
  rcases event with ⟨call, reply, before, after⟩
  unfold answeredFailed at failed
  split at failed
  · next row value before after same =>
      cases same
      rcases admits_iff.mp performed with ⟨choice, performed⟩
      rcases World.updateSaga_answered performed with ⟨_, refused⟩ | update
      · exact absurd rfl refused
      · exact ⟨_, member, row, rfl, of_decide_eq_true failed, update⟩
  · cases failed

/-- A compensation all of whose calls succeed. -/
theorem failed_cancelled_served :
    FailedMeansCancelled postgresJs (orderOf 0 5)
      ((orderly postgresJs).execute (SagaOrchestrator.compensate postgresJs 7 (orderOf 0 5) chargedSaga)
        chargedShop [] (List.replicate 20 .serve)).1
      ((orderly postgresJs).execute (SagaOrchestrator.compensate postgresJs 7 (orderOf 0 5) chargedSaga)
        chargedShop [] (List.replicate 20 .serve)).2.2 := by
  have executes := System.executes_execute (orderly postgresJs)
    (SagaOrchestrator.compensate postgresJs 7 (orderOf 0 5) chargedSaga) chargedShop (List.replicate 20 .serve)
  have committed := commits_of_answered executes.admits (by decide +kernel)
  exact (failed_cancelled_iff executes).mpr fun _ => Or.inl ⟨by decide +kernel, committed⟩

/-- The cancelling transaction is rolled back, and FAILED is written all the
same. -/
theorem failed_without_cancellation :
    ¬ ∀ log rest state, (orderly postgresJs).Executes
        (SagaOrchestrator.compensate postgresJs 7 (orderOf 0 5) chargedSaga) chargedShop log rest state →
      FailedMeansCancelled postgresJs (orderOf 0 5) log state := by
  intro claimed
  have executes := System.executes_execute (orderly postgresJs)
    (SagaOrchestrator.compensate postgresJs 7 (orderOf 0 5) chargedSaga) chargedShop
    (List.replicate 9 .serve ++ .reject (.error "connection lost") :: List.replicate 10 .serve)
  have failed := persistsFailed_of_answered executes.admits (by decide +kernel)
  have cancelled := (claimed _ _ _ executes failed).1
  revert cancelled
  decide +kernel

end Orderly
