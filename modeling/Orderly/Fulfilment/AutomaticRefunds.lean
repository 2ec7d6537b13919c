import Orderly.Fulfilment.Completion

/-!
# What a run gives back

A compensation refunds the payment that it finds COMPLETED among the steps of its
saga.  A run compensates after a failed reservation or a declined charge only, so
it finds none: what the customer has paid is given back by an admin, or not at all.
-/

namespace Orderly
namespace StepLog

open Process (Program System)

/-- A completed payment with its transaction id has been found among the steps of a saga. -/
def FindsPayment (Own : Uuid → Prop) (log : CallLog) : Prop :=
  ∃ sagaId steps before after, Own sagaId ∧ (⟨.getSteps sagaId, .ok steps, before, after⟩ : CallEvent) ∈ log ∧
    ((SagaOrchestrator.completedPayment steps).bind fun step => transactionIdOf step.outputPayload).isSome

/-- A refund is asked for only where such a payment has been found. -/
def RefundsFound (Own : Uuid → Prop) (log : CallLog) (call : Call) : Prop := call.refunds = true → FindsPayment Own log

/-- The call asks for no refund. -/
abbrev Unrefunded (call : Call) : Prop := call.refunds = false

section Contracts

variable {platform : Platform} {context : SagaContext} {sagaId : Uuid} {log : CallLog} {steps : List SagaStep}
  {saga : SagaInstance} {α : Type} {Admits : CallLog → CallEvent → Prop} {Own : Uuid → Prop}

theorem unrefunded_meets {program : Service α} (issues : program.Issues Unrefunded) :
    program.Meets Admits (RefundsFound Own) (fun _ _ => True) (fun _ _ => True) log := by
  apply issues.meets trivial
  · intro log call _ none refunds
    cases none.symm.trans refunds
  · exact fun _ _ _ _ _ => trivial

/-- Where no transaction id is found a compensation refunds nothing. -/
theorem undoSteps_unrefunded
    (unpaid : ((SagaOrchestrator.completedPayment steps).bind fun step => transactionIdOf step.outputPayload) = none) :
    (SagaOrchestrator.undoSteps platform context steps saga).Issues Unrefunded := by
  refine Program.Issues.bind ?_ fun _ => ?_
  · unfold SagaOrchestrator.compensatePayment
    rw [unpaid]
    trivial
  refine Program.Issues.bind ?_ fun _ => ?_
  · refine Program.Issues.bind ((releaseInventory_issues _).weaken fun _ within => within.unrefunded) fun released => ?_
    split
    · trivial
    · exact Program.Issues.call rfl
  refine Program.Issues.bind (Program.Issues.tryCatch ?_ fun _ => trivial) fun _ => ?_
  · exact orderTransaction_issues rfl rfl (fun _ => rfl) fun _ => rfl
  refine Program.Issues.bind (Program.Issues.call rfl) fun now => ?_
  refine Program.Issues.bind (Program.Issues.ofExcept _) fun failed => ?_
  exact Program.Issues.bind (Program.Issues.call rfl) fun _ => trivial

theorem compensate_refunds (running : saga.status = .running) (own : Own sagaId) :
    (SagaOrchestrator.compensate platform sagaId context saga).Meets Admits (RefundsFound Own) (fun _ _ => True)
      (fun _ _ => True) log := by
  unfold SagaOrchestrator.compensate startCompensation
  rw [if_neg (fun other => other running)]
  refine Program.Meets.call_bind (fun refunds => by cases refunds) (fun _ _ _ _ => trivial) ?_
  intro _ before after _
  refine Program.Meets.call_bind (fun refunds => by cases refunds) (fun _ _ _ _ => trivial) ?_
  intro (steps : List SagaStep) before' after' _
  cases found : (SagaOrchestrator.completedPayment steps).bind fun step => transactionIdOf step.outputPayload with
  | none => exact unrefunded_meets (undoSteps_unrefunded found)
  | some transactionId =>
      have finds : FindsPayment Own (⟨.getSteps sagaId, .ok steps, before', after'⟩ ::
          ⟨.updateSaga saga.compensating, .ok (), before, after⟩ :: log) :=
        ⟨sagaId, steps, before', after', own, List.mem_cons_self, by rw [found]; rfl⟩
      have issues : (SagaOrchestrator.undoSteps platform context steps saga.compensating).Issues
          (Undoes (fun _ => .null) steps) := undoSteps_issues
      have walked : (SagaOrchestrator.undoSteps platform context steps saga.compensating).Meets Admits
          (RefundsFound Own) (fun _ => FindsPayment Own) (fun _ => FindsPayment Own)
          (⟨.getSteps sagaId, .ok steps, before', after'⟩ ::
            ⟨.updateSaga saga.compensating, .ok (), before, after⟩ :: log) := by
        apply issues.meets finds
        · exact fun _ _ finds _ _ => finds
        · rintro log event ⟨sagaId, steps, before, after, own, member, paid⟩ _ _
          exact ⟨sagaId, steps, before, after, own, List.mem_cons_of_mem _ member, paid⟩
      exact walked.weaken (fun _ _ _ => trivial) fun _ _ _ => trivial

theorem beginStep_unrefunded {name : StepName} {order : Nat} {input : Json} :
    (SagaOrchestrator.beginStep sagaId name order input).Issues Unrefunded := by
  refine Program.Issues.bind (Program.Issues.call rfl) fun id => ?_
  refine Program.Issues.bind (Program.Issues.call rfl) fun now => ?_
  exact Program.Issues.bind (Program.Issues.call rfl) fun _ => trivial

theorem endStep_unrefunded {step : SagaStep} : (SagaOrchestrator.endStep step).Issues Unrefunded :=
  Program.Issues.call rfl

/-- Once the payment is recorded, everything that fails is thrown. -/
theorem confirmAndComplete_unrefunded {transactionId : Option String} :
    (SagaOrchestrator.confirmAndComplete context saga transactionId).Issues Unrefunded := by
  refine Program.Issues.bind beginStep_unrefunded fun step2 => ?_
  refine Program.Issues.bind beginStep_unrefunded fun step3 => ?_
  refine Program.Issues.bind ((confirmOrder_issues _).weaken fun _ within => within.unrefunded) fun _ => ?_
  refine Program.Issues.bind (Program.Issues.call rfl) fun now => ?_
  refine Program.Issues.bind endStep_unrefunded fun _ => ?_
  refine Program.Issues.bind (Program.Issues.call rfl) fun now => ?_
  refine Program.Issues.bind endStep_unrefunded fun _ => ?_
  refine Program.Issues.bind (Program.Issues.call rfl) fun now => ?_
  refine Program.Issues.bind (Program.Issues.ofExcept _) fun completed => ?_
  exact Program.Issues.bind (Program.Issues.call rfl) fun _ => trivial

theorem chargeAndComplete_refunds (running : saga.status = .running) (own : Own saga.id) :
    (SagaOrchestrator.chargeAndComplete platform context saga).Meets Admits (RefundsFound Own) (fun _ _ => True)
      (fun _ _ => True) log := by
  refine Program.Meets.bind (unrefunded_meets beginStep_unrefunded) fun step1 log _ => ?_
  refine Program.Meets.bind (unrefunded_meets (Program.Issues.ofExcept _)) fun amount log _ => ?_
  refine Program.Meets.bind
    (unrefunded_meets ((charge_issues _).weaken fun _ within => within.unrefunded)) fun result log _ => ?_
  split
  · refine Program.Meets.bind (unrefunded_meets (Program.Issues.call rfl)) fun now log _ => ?_
    refine Program.Meets.bind (unrefunded_meets endStep_unrefunded) fun _ log _ => ?_
    exact compensate_refunds running own
  · refine Program.Meets.bind (unrefunded_meets (Program.Issues.call rfl)) fun now log _ => ?_
    refine Program.Meets.bind (unrefunded_meets endStep_unrefunded) fun _ log _ => ?_
    exact unrefunded_meets confirmAndComplete_unrefunded

/-- A run refunds only a payment that it has found among its steps. -/
theorem startSaga_refunds
    (creates : ∀ log event, Admits log event → ∀ row, event.call = .createSaga row → Own row.id) :
    (SagaOrchestrator.startSaga platform context).Meets Admits (RefundsFound Own) (fun _ _ => True)
      (fun _ _ => True) [] := by
  unfold SagaOrchestrator.startSaga
  refine Program.Meets.bind (unrefunded_meets (Program.Issues.call rfl)) fun (id : Uuid) log _ => ?_
  refine Program.Meets.bind (unrefunded_meets (Program.Issues.call rfl)) fun (date : Date) log _ => ?_
  refine Program.Meets.call_bind (fun refunds => by cases refunds) (fun _ _ _ _ => trivial) ?_
  intro _ before after admitted
  have own : Own id := creates _ _ admitted _ rfl
  have transition : startSaga (createSagaInstance id context.orderId date) =
      .ok (createSagaInstance id context.orderId date).running := rfl
  rw [transition]
  refine Program.Meets.call_bind (fun refunds => by cases refunds) (fun _ _ _ _ => trivial) ?_
  intro _ _ _ _
  refine Program.Meets.bind (unrefunded_meets beginStep_unrefunded) fun step0 log _ => ?_
  refine Program.Meets.bind
    (unrefunded_meets ((reserveInventory_issues _).weaken fun _ within => within.unrefunded)) fun reserved log _ => ?_
  cases reserved with
  | false =>
      refine Program.Meets.bind (unrefunded_meets (Program.Issues.call rfl)) fun now log _ => ?_
      refine Program.Meets.bind (unrefunded_meets endStep_unrefunded) fun _ log _ => ?_
      exact compensate_refunds rfl own
  | true =>
      refine Program.Meets.bind (unrefunded_meets (Program.Issues.call rfl)) fun now log _ => ?_
      refine Program.Meets.bind (unrefunded_meets endStep_unrefunded) fun _ log _ => ?_
      exact chargeAndComplete_refunds rfl own

end Contracts

/-! ## A whole run -/

section Run

variable {platform : Platform} {context : SagaContext} {sagaId : Uuid} {start : World} {log : CallLog}

/-- A run that has been charged for has not refunded. -/
theorem fulfilling_refunds {done : Footprint} (fulfilling : Fulfilling platform context done) :
    done.refundCalls = [] ∨ done.charges = [] := by
  cases fulfilling with
  | compensating _ _ _ compensating =>
      right
      have none := (compensating_charges compensating).2
      exact none
  | _ => exact Or.inl rfl

/-- A refund is listed, whatever its answer. -/
theorem refund_listed {event : CallEvent} (member : event ∈ log) (asks : event.call.refunds = true) :
    (footprint log).refundCalls ≠ [] := by
  rcases footprint_member member with ⟨before, after, same⟩
  rcases event with ⟨call, reply, first, last⟩
  cases call with
  | refund transactionId amount =>
      have listed : (transactionId, amount) ∈
          (eventFootprint ⟨.refund transactionId amount, reply, first, last⟩).refundCalls := by
        cases reply with
        | error error => exact List.mem_singleton_self _
        | ok result =>
            simp only [eventFootprint]
            split <;> exact List.mem_singleton_self _
      rw [same]
      exact List.ne_nil_of_mem (List.mem_append_right _ (List.mem_append_left _ listed))
  | _ => cases asks

/-- What has been found COMPLETED has been charged. -/
theorem charged_of_found (unused : stepsOf sagaId start = [])
    (lawful : System.Lawful (Amid platform sagaId start) (Permits platform (fun _ => .null) context sagaId start) log)
    (finds : FindsPayment (· = sagaId) log) : (footprint log).charges ≠ [] := by
  rcases finds with ⟨sagaId, steps, before, after, rfl, member, recorded⟩
  have paid := Option.isSome_of_isSome_bind recorded
  rcases lawful.admitted member with ⟨since, earlier, rfl, _, admitted, found⟩
  rcases Option.isSome_iff_exists.mp paid with ⟨payment, chosen⟩
  unfold SagaOrchestrator.completedPayment at chosen
  have listed := List.mem_of_find?_eq_some chosen
  have verdict := List.find?_some chosen
  simp only [Bool.and_eq_true, decide_eq_true_eq] at verdict
  rcases admits_iff.mp admitted with ⟨choice, performed⟩
  rw [(World.getSteps_answered performed).1] at listed
  have stored : payment ∈ rowsAt sagaId start earlier := by
    rw [rowsAt, ← found]
    exact mem_getSteps_stepsOf.mp listed
  have behind : System.Lawful (Amid platform sagaId start) (Permits platform (fun _ => .null) context sagaId start) earlier :=
    lawful.earlier.2.2
  have succeeded := (StepLog.recorded unused behind).succeeded payment stored verdict.2
  rw [verdict.1] at succeeded
  rcases succeeded with ⟨transactionId, amount, _, charged⟩
  rw [footprint_append, footprint_cons]
  exact List.ne_nil_of_mem (List.mem_append_left _ (List.mem_append_left _ charged))

/-- Wherever a run stands that has its steps to itself, whatever its calls answer, it
has never asked the gateway for a refund. -/
theorem never_refunds {rest : Service SagaInstance} {world : World} (unused : stepsOf sagaId start = [])
    (executes : (orderly platform).ExecutesAmid (stepsOf sagaId) (SagaOrchestrator.startSaga platform context) start
      log rest world)
    (creates : ∀ event ∈ log, CreatesAs sagaId event) : ∀ call ∈ issued log rest, Unrefunded call := by
  have answered : ∀ {log : CallLog} {rest : Service SagaInstance} {world : World},
      (orderly platform).ExecutesAmid (stepsOf sagaId) (SagaOrchestrator.startSaga platform context) start log rest
        world →
      (∀ event ∈ log, CreatesAs sagaId event) → ∀ event ∈ log, Unrefunded event.call := by
    intro log rest world executes creates event member
    by_contra asks
    replace asks : event.call.refunds = true := (Bool.not_eq_false _).mp asks
    have meets : Logs platform (fun _ => .null) context sagaId start (fun _ _ => True) (SagaOrchestrator.startSaga platform context)
        [] := startSaga_logs (fun _ => rfl) unused
    have lawful := (executes.contract creates meets).2
    have refunding : (SagaOrchestrator.startSaga platform context).Meets
        (fun log event => Amid platform sagaId start log event ∧ CreatesAs sagaId event) (RefundsFound (· = sagaId))
        (fun _ _ => True) (fun _ _ => True) [] := startSaga_refunds fun _ _ admitted => admitted.2.created
    rcases (executes.contract creates refunding).2.admitted member with ⟨since, earlier, split, found, _⟩
    rcases found asks with ⟨_, steps, before, after, own, read, paid⟩
    have finds : FindsPayment (· = sagaId) log := by
      refine ⟨_, steps, before, after, own, ?_, paid⟩
      rw [split]
      exact List.mem_append_right _ (List.mem_cons_of_mem _ read)
    rcases fulfilling_refunds (run_fulfilling executes) with refunds | charges
    · exact refund_listed member asks refunds
    · exact charged_of_found unused lawful finds charges
  intro call member
  have earlier : call ∈ log.map Process.Event.call → Unrefunded call := by
    intro listed
    rcases List.mem_map.mp listed with ⟨event, among, rfl⟩
    exact answered executes creates event among
  cases rest with
  | done value => exact earlier member
  | thrown error => exact earlier member
  | await request resume =>
      rcases List.mem_cons.mp member with rfl | listed
      · -- a refund that is awaited can be answered
        cases asks : call.refunds with
        | false => exact asks
        | true =>
            refine answered (executes.answered .serve) ?_ ((orderly platform).answer world call .serve) List.mem_cons_self
            intro event among
            rcases List.mem_cons.mp among with rfl | before
            · cases call with
              | refund transactionId amount => rfl
              | _ => cases asks
            · exact creates event before
      · exact earlier listed

/-- A run whose charge is declined. -/
def declinedRun : CallLog × Service SagaInstance × World :=
  (orderly postgresJs).execute (SagaOrchestrator.startSaga postgresJs (orderOf 0 5)) (smallShop 5) []
    (List.replicate 17 .serve ++ .refuse :: List.replicate 14 .serve)

theorem never_refunds_declined : sagaStatus declinedRun.2.2 100 = some .failed ∧
    ∀ call ∈ issued declinedRun.1 declinedRun.2.1, Unrefunded call := by
  have creates : ∀ event ∈ declinedRun.1, CreatesAs 100 event := by
    unfold CreatesAs
    decide +kernel
  exact ⟨by decide +kernel, never_refunds rfl (System.executes_execute _ _ _ _).amid creates⟩

end Run
end StepLog
end Orderly
