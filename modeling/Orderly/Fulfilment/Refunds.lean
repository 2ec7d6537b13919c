import Orderly.Fulfilment.AutomaticRefunds
import Orderly.Fulfilment.RoundTrip

/-!
# Refunds by overlapping requests

Each request reads the saga, finds it RUNNING and writes COMPENSATING, and nothing
between the read and the write notices another request that has done the same.  No
check keeps two of them from refunding the same charge.  What does is the record:
a refund is asked for only with a transaction id that has been read back from a
step, and no step that the repository has written reads back with one.
-/

namespace Orderly

open Process (Move Program System)
open StepLog (FindsPayment RefundsFound compensate_refunds startSaga_refunds unrefunded_meets)

/-- Admin requests for one saga, scheduled in any way. -/
def requestsFor (id : Uuid) (_ : Running) : Move Task Choice → Bool
  | .start task => task = .compensateSaga id
  | _ => true

/-- How often a transaction's refund has been asked for. -/
def refundsAsked (config : Running) (transactionId : String) : Nat :=
  (config.threads.map fun thread =>
    ((footprint thread.log).refundCalls.filter (·.1 = transactionId)).length).sum

/-- The recorded charge of a saga is refunded at most once, however the requests for it
overlap. -/
def RefundedOnce (platform : Platform) (world : World) (id : Uuid) : Prop :=
  ∀ transactionId, RecordedCharge platform world.db id transactionId →
    ∀ config, (orderly platform).Reaches (fun config move => requestsFor id config move = true) { shared := world } config →
      refundsAsked config transactionId ≤ 1

section Requests

variable {platform : Platform}

/-! ## What each routine refunds -/

theorem compensateSaga_refunds {Admits : CallLog → CallEvent → Prop} (id : Uuid) :
    (AdminSagas.compensateSaga platform id).Meets Admits (RefundsFound fun _ => True) (fun _ _ => True)
      (fun _ _ => True) [] := by
  unfold AdminSagas.compensateSaga
  refine Program.Meets.call_bind (fun refunds => by cases refunds) (fun _ _ _ _ => trivial) ?_
  intro found before after _
  cases found with
  | none => trivial
  | some saga =>
      simp only
      split
      · trivial
      · next running =>
          apply Program.Meets.attempt_bind (compensate_refunds (not_not.mp running) trivial)
          · exact fun _ _ _ => trivial
          · exact fun _ _ _ => trivial

/-- Whatever its task, a routine refunds only a payment that it has found recorded. -/
theorem task_refunds {Admits : CallLog → CallEvent → Prop} (task : Task) :
    (task.program platform).Meets Admits (RefundsFound fun _ => True) (fun _ _ => True) (fun _ _ => True) [] := by
  have saga : ∀ context, (SagaOrchestrator.startSaga platform context).Meets Admits (RefundsFound fun _ => True)
      (fun _ _ => True) (fun _ _ => True) [] := fun context => startSaga_refunds fun _ _ _ _ _ => trivial
  cases task with
  | startSaga context => exact Program.Meets.bind (saga context) fun _ _ _ => trivial
  | sagaJob job =>
      have worked : (processSagaJob platform job).Meets Admits (RefundsFound fun _ => True) (fun _ _ => True)
          (fun _ _ => True) [] :=
        Program.Meets.tryCatch (Program.Meets.bind (saga job) fun _ _ _ => trivial) fun _ _ _ => trivial
      exact Program.Meets.bind worked fun _ _ _ => trivial
  | compensateSaga id => exact Program.Meets.bind (compensateSaga_refunds id) fun _ _ _ => trivial

/-- Other calls leave no refund. -/
theorem refundless_event {event : CallEvent} (other : event.call.refunds = false) :
    (eventFootprint event).refundCalls = [] := by
  rcases event with ⟨call, reply, before, after⟩
  cases call with
  | refund transactionId amount => cases other
  | reserve sku quantity => rcases reply with error | (_ | _) <;> rfl
  | release sku quantity => rcases reply with error | (_ | _) <;> rfl
  | _ => cases reply <;> simp only [eventFootprint, setbackOf] <;> (repeat' split) <;> rfl

/-- Every refund of a footprint has been asked for. -/
theorem refund_asked {log : CallLog} {refund : String × Money} (listed : refund ∈ (footprint log).refundCalls) :
    ∃ event ∈ log, event.call.refunds = true := by
  induction log with
  | nil => cases listed
  | cons event log inductionHypothesis =>
      rcases List.mem_append.mp listed with earlier | latest
      · rcases inductionHypothesis earlier with ⟨other, member, asks⟩
        exact ⟨other, List.mem_cons_of_mem _ member, asks⟩
      · refine ⟨event, List.mem_cons_self, ?_⟩
        cases asks : event.call.refunds with
        | true => rfl
        | false =>
            rw [refundless_event asks] at latest
            cases latest

/-! ## Written steps -/

/-- What the repository does to the steps leaves written rows. -/
theorem WrittenSteps.event {event : CallEvent} (admitted : (orderly platform).Admits [] event)
    (written : WrittenSteps platform event.before.db) : WrittenSteps platform event.after.db := by
  rcases event with ⟨call, reply, before, after⟩
  rcases admits_iff.mp admitted with ⟨choice, performed⟩
  cases call with
  | createStep step =>
      rcases World.createStep_answered performed with ⟨same, _⟩ | inserted
      · exact same ▸ written
      · intro row member
        rcases (Store.Table.mem_insert inserted).mp member with earlier | rfl
        · exact written row earlier
        · exact ⟨step.outputPayload, rfl⟩
  | updateStep step =>
      rcases World.updateStep_answered performed with ⟨same, _⟩ | updated
      · exact same ▸ written
      · intro row member
        change row ∈ after.db.steps.rows at member
        rw [updated] at member
        change row ∈ (before.db.steps.update step.id (Database.setStep platform step)
          (Database.setStep_id platform step)).rows at member
        rcases Store.Table.mem_update.mp member with ⟨old, earlier, rfl⟩
        split
        · exact ⟨step.outputPayload, rfl⟩
        · exact written old earlier
  | _ =>
      have same : after.db.steps = before.db.steps :=
        (World.perform_frame performed).steps fun impossible => by cases impossible
      intro row member
      exact written row (same ▸ member)

/-- The tables hold written steps, and so did they whenever a routine looked. -/
structure AlwaysWritten (platform : Platform) (config : Running) : Prop where
  now : WrittenSteps platform config.shared.db
  before : ∀ thread ∈ config.threads, ∀ event ∈ thread.log, WrittenSteps platform event.before.db

variable {world : World} {Legal : Running → Move Task Choice → Prop} {config : Running}

theorem reaches_written (written : WrittenSteps platform world.db)
    (reached : (orderly platform).Reaches Legal { shared := world } config) : AlwaysWritten platform config := by
  refine reached.moving ?_ ?_ ?_
  · exact ⟨written, fun thread member => by cases member⟩
  · intro earlier next unmoved always
    refine ⟨unmoved.shared ▸ always.now, fun thread member event listed => ?_⟩
    rcases unmoved.mem member with ⟨old, among, _, log⟩ | nothing
    · exact always.before old among event (log ▸ listed)
    · rw [nothing] at listed
      cases listed
  · intro earlier index choice thread call resume _ _ listed _ always
    have admitted : (orderly platform).Admits [] ((orderly platform).answer earlier.shared call choice) := ⟨choice, rfl⟩
    refine ⟨WrittenSteps.event admitted always.now, fun other member event among => ?_⟩
    rcases List.mem_or_eq_of_mem_set member with before | rfl
    · exact always.before other before event among
    · rcases List.mem_cons.mp among with rfl | before
      · exact always.now
      · exact always.before thread (List.mem_of_getElem? listed) event before

/-! ## No refund -/

variable (driver : PostgresDriver) (uses : ∀ value, platform.jsonb value = driver.column value)

include uses

/-- From tables that the repository has written, no routine ever asks for a refund,
whatever else is going on. -/
theorem no_refund (written : WrittenSteps platform world.db)
    (reached : (orderly platform).Reaches Legal { shared := world } config) {thread : Routine}
    (member : thread ∈ config.threads) : (footprint thread.log).refundCalls = [] := by
  have keeps := reached.contract (fun thread member => by cases member) (fun _ task _ => task_refunds task) thread member
  have always := (reaches_written written reached).before thread member
  have behind : System.Lawful (orderly platform).Admits (fun log call => RefundsFound (fun _ => True) log call) thread.log :=
    System.Keeps.behind keeps
  by_contra asked
  rcases List.exists_mem_of_ne_nil _ asked with ⟨refund, listed⟩
  rcases refund_asked listed with ⟨event, among, asks⟩
  rcases behind.admitted among with ⟨since, earlier, same, found, _⟩
  rcases found asks with ⟨sagaId, steps, before, after, _, read, recorded⟩
  have inside : (⟨.getSteps sagaId, .ok steps, before, after⟩ : CallEvent) ∈ thread.log := by
    rw [same]
    exact List.mem_append_right _ (List.mem_cons_of_mem _ read)
  rcases behind.admitted inside with ⟨_, _, _, _, admitted⟩
  rcases admits_iff.mp admitted with ⟨choice, performed⟩
  rw [(World.getSteps_answered performed).1, unrecorded_written driver uses (always _ inside)] at recorded
  cases recorded

/-- A recorded charge is refunded at most once, however many requests for its saga
overlap in whatever way. -/
theorem refunded_once (written : WrittenSteps platform world.db) (id : Uuid) : RefundedOnce platform world id := by
  intro transactionId _ config reached
  have none : refundsAsked config transactionId = 0 := by
    unfold refundsAsked
    apply List.sum_eq_zero
    intro count member
    rcases List.mem_map.mp member with ⟨thread, listed, rfl⟩
    rw [no_refund driver uses written reached listed]
    rfl
  rw [none]
  exact Nat.zero_le 1

end Requests

/-- Two requests that have both read RUNNING before either writes. -/
def overlappingRequests : Running :=
  (orderly postgresJs).run { shared := chargedShop }
    (.start (.compensateSaga 7) :: .start (.compensateSaga 7) :: serve 0 1 ++ serve 1 1 ++ serve 0 40 ++ serve 1 40)

theorem refunded_once_overlapping : RecordedCharge postgresJs chargedShop.db 7 "ch_1" ∧
    (overlappingRequests.threads.map fun thread => (footprint thread.log).updated.map (·.status)) =
      [[.compensating, .failed], [.compensating, .failed]] ∧
    refundsAsked overlappingRequests "ch_1" ≤ 1 := by
  have reached : (orderly postgresJs).Reaches (fun config move => requestsFor 7 config move = true)
      { shared := chargedShop } overlappingRequests := System.reaches_run (by decide +kernel)
  exact ⟨chargedShop_charge, by decide +kernel,
    refunded_once stringDriver (postgresJs_column stringDriver) chargedShop_written 7 "ch_1" chargedShop_charge _ reached⟩

end Orderly
