import Orderly.Fulfilment.Alone

/-!
# Failures after a charge

`startSaga` compensates when a step reports failure and lets every exception
through.  After an approved charge nothing reports failure any more, so from
there on each rejected call, up to the commit that sets the order to PAID, ends
the run with the charge neither confirmed nor refunded.
-/

namespace Orderly

open Store (Table)
open Process (Program System)

/-- The charge has been refunded by the run, or its step is recorded as one whose
compensation has failed. -/
def ChargeUndone (log : CallLog) (state : World) (charge : Option String × Money) : Prop :=
  (∃ refund ∈ (footprint log).refunds, (some refund.1, refund.2) = charge) ∨
    ∃ saga, createdSaga log = some saga ∧ ∃ step ∈ state.db.getSteps saga.id,
      step.stepName = .processPayment ∧ step.compensationStatus = .failed

/-- The order has been confirmed, or every charge has been undone. -/
def ConfirmedOrUndone (context : SagaContext) (log : CallLog) (state : World) : Prop :=
  Settled state context.orderId .paid "order.paid" ∨
    ∀ charge ∈ (footprint log).charges, ChargeUndone log state charge

/-- A rejected call between an approved charge and the commit that confirms the
order. -/
def rejectedBeforeCommit : CallEvent → Bool
  | ⟨call, .error _, _, _⟩ => call.strands
  | _ => false

/-- An event that keeps an approved charge from being confirmed. -/
def Strands (platform : Platform) (event : CallEvent) : Prop :=
  rejectedBeforeCommit event = true ∨
    ∃ transaction orderId, event.call = .commit transaction ∧
      transaction.outcome = some (orderId, .paid) ∧ ¬ Takes platform transaction event.before event.after

/-- Every run of `startSaga` in which one call fails ends with a confirmed order or
without charges that stand. -/
def FailuresAreCompensated (platform : Platform) (world : World) (context : SagaContext) : Prop :=
  ∀ log rest state,
    (orderly platform).Executes (SagaOrchestrator.startSaga platform context) world log rest state →
    rest.finished = true → (log.filter fails).length = 1 → ConfirmedOrUndone context log state

variable {platform : Platform} {context : SagaContext} {world state : World} {log : CallLog}

/-! ## What a log lists -/

theorem setbacks_event (event : CallEvent) :
    (eventFootprint event).setbacks ≠ [] ↔ rejectedBeforeCommit event = true := by
  rcases event with ⟨call, reply, before, after⟩
  cases call with
  | createStep step =>
      cases reply with
      | ok value =>
          simp only [eventFootprint, rejectedBeforeCommit]
          split <;> simp
      | error error =>
          simp only [eventFootprint, rejectedBeforeCommit, setbackOf]
          by_cases pending : step.compensationStatus = .pending
          · cases strands : (Call.createStep step).strands <;> simp [pending]
          · simp [pending, Call.strands]
  | updateStep step =>
      cases reply with
      | ok value =>
          simp only [eventFootprint, rejectedBeforeCommit]
          split <;> simp
      | error error =>
          simp only [eventFootprint, rejectedBeforeCommit, setbackOf]
          by_cases pending : step.compensationStatus = .pending
          · cases strands : (Call.updateStep step).strands <;> simp [pending]
          · simp [pending, Call.strands]
  | execute statement =>
      cases reply with
      | ok value => simp [eventFootprint, rejectedBeforeCommit]
      | error error =>
          simp only [eventFootprint, rejectedBeforeCommit, setbackOf]
          cases strands : (Call.execute statement).strands <;> simp
  | reserve sku quantity => rcases reply with error | (_ | _) <;> simp [eventFootprint, rejectedBeforeCommit, Call.strands]
  | release sku quantity => rcases reply with error | (_ | _) <;> simp [eventFootprint, rejectedBeforeCommit, Call.strands]
  | _ =>
      cases reply <;> simp only [eventFootprint, rejectedBeforeCommit, Call.strands] <;> (repeat' split) <;> simp

theorem setbacks_log : (footprint log).setbacks ≠ [] ↔ ∃ event ∈ log, rejectedBeforeCommit event = true := by
  induction log with
  | nil => simp
  | cons event log inductionHypothesis =>
      have split : (footprint (event :: log)).setbacks =
          (footprint log).setbacks ++ (eventFootprint event).setbacks := rfl
      rw [split, ne_eq, List.append_eq_nil_iff, not_and_or, ← ne_eq, ← ne_eq, inductionHypothesis, setbacks_event]
      constructor
      · rintro (⟨other, member, rejected⟩ | rejected)
        · exact ⟨other, List.mem_cons_of_mem _ member, rejected⟩
        · exact ⟨event, List.mem_cons_self, rejected⟩
      · rintro ⟨other, member, rejected⟩
        rcases List.mem_cons.mp member with rfl | earlier
        · exact Or.inr rejected
        · exact Or.inl ⟨other, earlier, rejected⟩

/-- A listed commit has been answered. -/
theorem commit_event {transaction : Transaction} (listed : transaction ∈ (footprint log).commitCalls) :
    ∃ event ∈ log, event.call = .commit transaction := by
  induction log with
  | nil => cases listed
  | cons event log inductionHypothesis =>
      rcases List.mem_append.mp listed with earlier | latest
      · rcases inductionHypothesis earlier with ⟨other, member, call⟩
        exact ⟨other, List.mem_cons_of_mem _ member, call⟩
      · refine ⟨event, List.mem_cons_self, ?_⟩
        rcases event with ⟨call, reply, before, after⟩
        cases call with
        | commit other =>
            cases reply with
            | ok value => rw [List.mem_singleton.mp latest]
            | error error => rw [List.mem_singleton.mp latest]
        | reserve sku quantity => rcases reply with error | (_ | _) <;> cases latest
        | release sku quantity => rcases reply with error | (_ | _) <;> cases latest
        | _ =>
            exfalso
            revert latest
            cases reply <;> simp only [eventFootprint, setbackOf] <;> (repeat' split) <;> simp

/-- With one commit listed, one event has committed. -/
theorem commit_unique (single : (footprint log).commitCalls.length ≤ 1) {event other : CallEvent}
    {transaction transaction' : Transaction} (member : event ∈ log) (member' : other ∈ log)
    (call : event.call = .commit transaction) (call' : other.call = .commit transaction') : event = other := by
  induction log with
  | nil => cases member
  | cons head log inductionHypothesis =>
      have split : (footprint (head :: log)).commitCalls =
          (footprint log).commitCalls ++ (eventFootprint head).commitCalls := rfl
      rw [split, List.length_append] at single
      have alone : ∀ {transaction}, head.call = .commit transaction → (footprint log).commitCalls = [] := by
        intro transaction call
        have latest := List.length_pos_of_mem (commit_listed call [])
        change 0 < ([] ++ (eventFootprint head).commitCalls).length at latest
        rw [List.nil_append] at latest
        exact List.length_eq_zero_iff.mp (by omega)
      rcases List.mem_cons.mp member with rfl | earlier
      · rcases List.mem_cons.mp member' with rfl | earlier'
        · rfl
        · have listed := commit_member earlier' call'
          rw [alone call] at listed
          cases listed
      · rcases List.mem_cons.mp member' with rfl | earlier'
        · have listed := commit_member earlier call
          rw [alone call'] at listed
          cases listed
        · exact inductionHypothesis (by omega) earlier earlier'

/-! ## Step rows of the run's own saga -/

/-- The compensation of no step of the saga has been marked. -/
def Unmarked (world : World) (id : Uuid) : Prop :=
  ∀ row ∈ world.db.steps.rows, row.sagaId = id → row.compensationStatus = .pending

/-- Writes of step rows whose compensation is pending mark nothing. -/
theorem Unmarked.answered {event : CallEvent} (admitted : (orderly platform).Admits [] event)
    (plain : (eventFootprint event).compensated = []) {id : Uuid} (unmarked : Unmarked event.before id) :
    Unmarked event.after id := by
  rcases event with ⟨call, reply, before, after⟩
  rcases admits_iff.mp admitted with ⟨choice, performed⟩
  cases call with
  | createStep step =>
      have sent : step.compensationStatus = .pending := by
        by_contra marked
        cases reply <;> simp [eventFootprint, marked] at plain
      rcases World.createStep_answered performed with ⟨same, _⟩ | inserted
      · unfold Unmarked
        rw [same]
        exact unmarked
      · intro row member named
        rcases (Table.mem_insert inserted).mp member with earlier | rfl
        · exact unmarked row earlier named
        · exact sent
  | updateStep step =>
      have sent : step.compensationStatus = .pending := by
        by_contra marked
        cases reply <;> simp [eventFootprint, marked] at plain
      rcases World.updateStep_answered performed with ⟨same, _⟩ | update
      · unfold Unmarked
        rw [same]
        exact unmarked
      · intro row member named
        have listed : row ∈ (before.db.steps.update step.id (Database.setStep platform step)
            (Database.setStep_id platform step)).rows := by
          change row ∈ after.db.steps.rows at member
          rw [update] at member
          exact member
        rcases Table.mem_update.mp listed with ⟨old, earlier, rfl⟩
        split
        · exact sent
        · next other =>
            rw [if_neg other] at named
            exact unmarked old earlier named
  | _ =>
      have frame := World.perform_frame performed
      have same : after.db.steps = before.db.steps := frame.steps fun same => by cases same
      unfold Unmarked
      rw [same]
      exact unmarked

/-- The saga that a run has created has no marked step as long as the run has
sent none. -/
theorem created_unmarked {saga : SagaInstance} (chained : System.Chained world log state)
    (admitted : ∀ event ∈ log, (orderly platform).Admits [] event) (plain : (footprint log).compensated = [])
    (created : createdSaga log = some saga) : Unmarked state saga.id := by
  induction log generalizing state with
  | nil => cases created
  | cons event log inductionHypothesis =>
      rcases chained with ⟨rfl, chained⟩
      have parts := List.append_eq_nil_iff.mp plain
      rcases createdSaga_cons created with earlier | ⟨_, before, after, rfl⟩
      · have unmarked := inductionHypothesis chained
          (fun event member => admitted event (List.mem_cons_of_mem _ member)) parts.1 earlier
        exact unmarked.answered (admitted event List.mem_cons_self) parts.2
      · -- a row that is new has no steps yet
        have unmarked : Unmarked before saga.id := by
          intro row member named
          have known := before.db.steps_saga row member
          have fresh := (created_status (admitted _ List.mem_cons_self)).1
          rw [named] at known
          unfold sagaStatus at fresh
          rw [Option.map_eq_none_iff.mp fresh] at known
          cases known
        exact unmarked.answered (admitted _ List.mem_cons_self) rfl

/-- The order of a created saga exists. -/
theorem created_order {saga : SagaInstance} (admitted : ∀ event ∈ log, (orderly platform).Admits [] event)
    (created : createdSaga log = some saga) :
    ∃ since earlier before after, log = since ++ ⟨.createSaga saga, .ok (), before, after⟩ :: earlier ∧
      (orderStatus after saga.orderId).isSome := by
  induction log with
  | nil => cases created
  | cons event log inductionHypothesis =>
      rcases createdSaga_cons created with known | ⟨_, before, after, rfl⟩
      · rcases inductionHypothesis (fun event member => admitted event (List.mem_cons_of_mem _ member)) known with
          ⟨since, earlier, before, after, rfl, present⟩
        exact ⟨event :: since, earlier, before, after, rfl, present⟩
      · refine ⟨[], log, before, after, rfl, ?_⟩
        rcases admits_iff.mp (admitted _ List.mem_cons_self) with ⟨choice, performed⟩
        rcases World.createSaga_answered performed with ⟨_, refused⟩ | inserted
        · exact absurd rfl refused
        · have member := (Table.mem_insert inserted).mpr (Or.inr rfl)
          have known := after.db.sagas_order _ member
          unfold orderStatus
          rw [Option.isSome_map]
          exact known

/-! ## Runs -/

section Runs

variable {done : Footprint}

/-- A run without an approved charge has neither a setback nor a confirmation. -/
theorem uncharged_confirmation (fulfilling : Fulfilling platform context done) (uncharged : done.charges = []) :
    done.setbacks = [] ∧ ∀ transaction ∈ done.commitCalls, ∀ orderId,
      transaction.outcome ≠ some (orderId, .paid) := by
  cases fulfilling with
  | idle => exact ⟨rfl, fun transaction member => by cases member⟩
  | creating => exact ⟨rfl, fun transaction member => by cases member⟩
  | created => exact ⟨rfl, fun transaction member => by cases member⟩
  | starting => exact ⟨rfl, fun transaction member => by cases member⟩
  | reserving => exact ⟨rfl, fun transaction member => by cases member⟩
  | charging => exact ⟨rfl, fun transaction member => by cases member⟩
  | charged => cases uncharged
  | confirming => cases uncharged
  | completing => cases uncharged
  | compensating _ _ _ compensating =>
      constructor
      · cases compensating with
        | entered => rfl
        | announcing => rfl
        | undoing _ undoing => cases undoing <;> rfl
      · intro transaction member orderId paid
        rcases compensating_commits compensating member with ⟨eventId, rfl⟩
        have cancels : OrderStatus.cancelled = .paid := congrArg Prod.snd (Option.some.inj paid)
        cases cancels

/-- What a run with an approved charge has done besides. -/
structure Charged (context : SagaContext) (done : Footprint) : Prop where
  unrefunded : done.refunds = []
  unmarked : done.compensated = []
  created : ∃ saga, SagaInstance.NewFor context saga ∧ done.created = [saga]
  confirmation : ∀ transaction ∈ done.commitCalls, ∃ transactionId eventId,
    transaction = context.confirmation transactionId eventId
  single : done.commitCalls.length ≤ 1
  setbacks : done.setbacks ≠ [] → done.commitCalls = []

theorem charged_phase (fulfilling : Fulfilling platform context done) (charges : done.charges ≠ []) :
    Charged context done := by
  cases fulfilling with
  | idle => exact absurd rfl charges
  | creating => exact absurd rfl charges
  | created => exact absurd rfl charges
  | starting => exact absurd rfl charges
  | reserving => exact absurd rfl charges
  | charging => exact absurd rfl charges
  | charged new =>
      exact ⟨rfl, rfl, ⟨_, new, rfl⟩, fun transaction member => (by cases member), Nat.zero_le _, fun _ => rfl⟩
  | confirming new =>
      exact ⟨rfl, rfl, ⟨_, new, rfl⟩, fun transaction member => ⟨_, _, List.mem_singleton.mp member⟩,
        Nat.le_refl _, fun none => absurd rfl none⟩
  | completing _ _ new =>
      exact ⟨rfl, rfl, ⟨_, new, rfl⟩, fun transaction member => ⟨_, _, List.mem_singleton.mp member⟩,
        Nat.le_refl _, fun none => absurd rfl none⟩
  | compensating _ _ _ compensating =>
      refine absurd ?_ charges
      change [] ++ _ = []
      rw [(compensating_charges compensating).2]
      rfl

/-- A run that returns has no charge, or a commit after it. -/
theorem fulfilled_interrupted {row : SagaInstance} (fulfilled : Fulfilled platform context row done) :
    Interrupted platform context done := by
  refine ⟨fulfilled_fulfilling fulfilled, ?_⟩
  cases fulfilled with
  | completed => exact Or.inr (Or.inr (List.cons_ne_nil _ _))
  | failed new called answered compensated =>
      rcases compensated with ⟨_, steps, undone, undoing, _, rfl⟩
      left
      cases undoing <;> rfl

variable {rest : Service SagaInstance}

/-- A run that has ended has no charge, or a setback or a commit after it. -/
theorem finished_interrupted
    (executes : (orderly platform).Executes (SagaOrchestrator.startSaga platform context) world log rest state)
    (finished : rest.finished = true) : Interrupted platform context (footprint log) := by
  have ahead := (executes.contract (fun _ _ => trivial)
    (startSaga_follows platform (fun _ => True) context)).1
  cases rest with
  | await call resume => cases finished
  | thrown error => exact ahead
  | done row => exact fulfilled_interrupted ahead

/-- With an approved charge, the order ends up confirmed exactly when it was
before or no event has stranded the charge. -/
theorem charged_confirmed_iff (chained : System.Chained world log state)
    (admitted : ∀ event ∈ log, (orderly platform).Admits [] event) (charged : Charged context (footprint log))
    (ended : (footprint log).setbacks ≠ [] ∨ (footprint log).commitCalls ≠ []) :
    Settled state context.orderId .paid "order.paid" ↔
      Settled world context.orderId .paid "order.paid" ∨ ∀ event ∈ log, ¬ Strands platform event := by
  rcases charged.created with ⟨saga, ⟨id, now, rfl⟩, created⟩
  have creates : createdSaga log = some (createSagaInstance id context.orderId now) := by
    unfold createdSaga
    rw [created]
    rfl
  have commits : ∀ event ∈ log, ∀ transaction, event.call = .commit transaction →
      transaction.Settles context.orderId .paid "order.paid" := by
    intro event member transaction call
    rcases charged.confirmation transaction (commit_member member call) with ⟨transactionId, eventId, rfl⟩
    exact context.confirmation_settles transactionId eventId
  have present : (orderStatus world context.orderId).isSome := by
    rcases created_order admitted creates with ⟨since, earlier, before, after, rfl, present⟩
    have sofar := settled_iff (System.Chained.upTo chained)
      (fun event member => admitted event (List.mem_append_right _ member))
      (fun event member => commits event (List.mem_append_right _ member))
    rw [← sofar.1]
    exact present
  rw [(settled_iff chained admitted commits).2]
  have confirmed : (∃ event ∈ log, Commits platform event) ↔ ∀ event ∈ log, ¬ Strands platform event := by
    constructor
    · rintro ⟨event, member, transaction, call, takes⟩ other member' strands
      have listed := commit_member member call
      rcases strands with rejected | ⟨transaction', orderId, call', _, undone⟩
      · have none := charged.setbacks (setbacks_log.mpr ⟨other, member', rejected⟩)
        rw [none] at listed
        cases listed
      · have same := commit_unique charged.single member member' call call'
        subst same
        have equal := call.symm.trans call'
        cases equal
        exact undone takes
    · intro unhindered
      have committed : (footprint log).commitCalls ≠ [] := by
        rcases ended with setbacks | committed
        · rcases setbacks_log.mp setbacks with ⟨event, member, rejected⟩
          exact absurd (Or.inl rejected) (unhindered event member)
        · exact committed
      rcases List.exists_mem_of_ne_nil _ committed with ⟨transaction, listed⟩
      rcases commit_event listed with ⟨event, member, call⟩
      refine ⟨event, member, transaction, call, ?_⟩
      by_contra undone
      rcases charged.confirmation transaction listed with ⟨transactionId, eventId, rfl⟩
      exact unhindered event member (Or.inr ⟨_, context.orderId, call, rfl, undone⟩)
  rw [confirmed]
  constructor
  · rintro (⟨_, unhindered⟩ | before)
    · exact Or.inr unhindered
    · exact Or.inl before
  · rintro (before | unhindered)
    · exact Or.inr before
    · exact Or.inl ⟨present, unhindered⟩

end Runs

/-- A run that has ended has confirmed its order or undone its charges exactly
when no event stood between an approved charge and its confirmation, or the order
had been confirmed before. -/
theorem confirmed_or_undone_iff {rest : Service SagaInstance}
    (executes : (orderly platform).Executes (SagaOrchestrator.startSaga platform context) world log rest state)
    (finished : rest.finished = true) :
    ConfirmedOrUndone context log state ↔
      Settled world context.orderId .paid "order.paid" ∨ ∀ event ∈ log, ¬ Strands platform event := by
  have interrupted := finished_interrupted executes finished
  have admitted := executes.admits
  by_cases charges : (footprint log).charges = []
  · have nothing : ConfirmedOrUndone context log state := by
      right
      rw [charges]
      intro charge member
      cases member
    refine ⟨fun _ => Or.inr ?_, fun _ => nothing⟩
    rcases uncharged_confirmation interrupted.1 charges with ⟨setbacks, confirmations⟩
    rintro event member (rejected | ⟨transaction, orderId, call, paid, _⟩)
    · exact setbacks_log.mpr ⟨event, member, rejected⟩ setbacks
    · exact confirmations transaction (commit_member member call) orderId paid
  · have charged := charged_phase interrupted.1 charges
    have ended : (footprint log).setbacks ≠ [] ∨ (footprint log).commitCalls ≠ [] :=
      interrupted.2.resolve_left charges
    rw [← charged_confirmed_iff executes.chained admitted charged ended]
    refine ⟨?_, Or.inl⟩
    rintro (confirmed | undone)
    · exact confirmed
    · rcases List.exists_mem_of_ne_nil _ charges with ⟨charge, member⟩
      rcases undone charge member with ⟨refund, refunded, _⟩ | ⟨saga, created, step, listed, _, failed⟩
      · rw [charged.unrefunded] at refunded
        cases refunded
      · have unmarked := created_unmarked executes.chained admitted charged.unmarked created
        have stored : step ∈ state.db.steps.rows ∧ step.sagaId = saga.id := by
          simpa [Database.getSteps] using listed
        have pending := unmarked step stored.1 stored.2
        rw [failed] at pending
        cases pending

/-- Neither an event that succeeds nor one of these calls stands in between. -/
theorem not_strands {event : CallEvent} (admitted : (orderly platform).Admits [] event)
    (fine : fails event = false ∨ event.call.strands = false ∧ event.call.area ≠ .orders) : ¬ Strands platform event := by
  rcases event with ⟨call, reply, before, after⟩
  rcases fine with succeeds | ⟨harmless, aside⟩
  · have served := not_rejected succeeds
    cases reply with
    | error error => exact absurd ⟨error, rfl⟩ served
    | ok value =>
        rintro (rejected | ⟨transaction, orderId, call', _, undone⟩)
        · cases rejected
        · change call = .commit transaction at call'
          subst call'
          rcases admits_iff.mp admitted with ⟨choice, performed⟩
          rcases World.commit_answered performed with ⟨_, refused⟩ | takes
          · exact refused rfl
          · exact undone takes
  · rintro (rejected | ⟨transaction, orderId, call', _, _⟩)
    · cases reply with
      | ok value => cases rejected
      | error error => cases harmless.symm.trans rejected
    · change call = .commit transaction at call'
      subst call'
      exact aside rfl

/-- The answer to the first charge is lost, and it is asked for again. -/
def chargedAgain : CallLog × Service SagaInstance × World :=
  (orderly postgresJs).execute (SagaOrchestrator.startSaga postgresJs (orderOf 0 5)) (smallShop 5) []
    (List.replicate 17 .serve ++ .lose (.error "timeout") :: List.replicate 40 .serve)

theorem confirmed_or_undone_retried : chargedAgain.1.any fails = true ∧
    ConfirmedOrUndone (orderOf 0 5) chargedAgain.1 chargedAgain.2.2 := by
  have executes : (orderly postgresJs).Executes (SagaOrchestrator.startSaga postgresJs (orderOf 0 5)) (smallShop 5)
      chargedAgain.1 chargedAgain.2.1 chargedAgain.2.2 := System.executes_execute _ _ _ _
  have fine : ∀ event ∈ chargedAgain.1,
      fails event = false ∨ event.call.strands = false ∧ event.call.area ≠ .orders := by decide +kernel
  exact ⟨by decide +kernel, (confirmed_or_undone_iff executes (by decide +kernel)).mpr
    (Or.inr fun event member => not_strands (executes.admits event member) (fine event member))⟩

/-- The write that records the approved charge is rejected, and every other call
succeeds. -/
def unrecordedCharge : CallLog × Service SagaInstance × World :=
  (orderly postgresJs).execute (SagaOrchestrator.startSaga postgresJs (orderOf 0 5)) (smallShop 5) []
    (List.replicate 19 .serve ++ [.reject (.error "connection lost")])

example : unrecordedCharge.2.1.finished = true := by decide +kernel

theorem strands_charge : ¬ FailuresAreCompensated postgresJs (smallShop 5) (orderOf 0 5) := by
  intro claimed
  have executes : (orderly postgresJs).Executes (SagaOrchestrator.startSaga postgresJs (orderOf 0 5)) (smallShop 5)
      unrecordedCharge.1 unrecordedCharge.2.1 unrecordedCharge.2.2 :=
    System.executes_execute _ _ _ _
  have charges : (footprint unrecordedCharge.1).charges ≠ [] := by decide +kernel
  have refunds : (footprint unrecordedCharge.1).refunds = [] := by decide +kernel
  have unmarked : (createdSaga unrecordedCharge.1).all (fun saga =>
      (unrecordedCharge.2.2.db.getSteps saga.id).all fun step => step.compensationStatus ≠ .failed) = true := by
    decide +kernel
  rcases claimed _ _ _ executes (by decide +kernel) (by decide +kernel) with confirmed | undone
  · have paid := confirmed.1
    revert paid
    decide +kernel
  · rcases List.exists_mem_of_ne_nil _ charges with ⟨charge, member⟩
    rcases undone charge member with ⟨refund, refunded, _⟩ | ⟨saga, created, step, listed, _, marked⟩
    · rw [refunds] at refunded
      cases refunded
    · rw [created] at unmarked
      have pending := List.all_eq_true.mp unmarked step listed
      exact of_decide_eq_true pending marked

end Orderly
