import Orderly.Fulfilment.Fulfilling
import Orderly.Process.Apart

/-!
# The step log

A run records its steps in `saga_steps`: a row is written before the work of its
step begins, and rewritten when the work has ended.  `Permits` says which calls
the rows allow at a given point, and every permitted call keeps the log in
order.

A run has the rows of its saga to itself.  Everything else may change between
its calls.  Payloads are compared through a view, which shows of a payload what
the driver gives back of it: everything, where it reads back what was written,
and nothing in the worst case.
-/

namespace Orderly

open Store (Table)
open Process (Program System)

/-- The persisted steps of a saga, in the order in which they were written. -/
def stepsOf (sagaId : Uuid) (world : World) : List SagaStep :=
  world.db.steps.rows.filter fun step => step.sagaId = sagaId

/-- The orders and names with which `startSaga` begins its steps. -/
def stepPlan : List (Nat × StepName) :=
  [(0, .reserveInventory), (1, .processPayment), (2, .confirmOrder), (3, .emitEvents)]

namespace SagaStep

/-- The order and the name of a step. -/
def label (step : SagaStep) : Nat × StepName := (step.stepOrder, step.stepName)

/-- A step without its compensation fields, and of its payloads what `view`
shows. -/
def core (view : Json → Json) (step : SagaStep) : SagaStep :=
  { step with
    inputPayload := view step.inputPayload
    outputPayload := view step.outputPayload
    compensationStatus := .pending
    compensationError := none }

end SagaStep

/-- The rows of a saga after an `updateStep`. -/
def rewritten (platform : Platform) (step : SagaStep) (rows : List SagaStep) : List SagaStep :=
  rows.map fun row => if row.id = step.id then Database.setStep platform step row else row

/-! ## What one call does to the rows -/

section Rows

variable {platform : Platform} {sagaId : Uuid} {before after : World} {choice : Choice}

theorem stepsOf_unique (sagaId : Uuid) (world : World) : ((stepsOf sagaId world).map SagaStep.id).Nodup :=
  world.db.steps.unique.sublist (List.filter_sublist.map _)

theorem mem_getSteps_stepsOf {world : World} {step : SagaStep} :
    step ∈ world.db.getSteps sagaId ↔ step ∈ stepsOf sagaId world := by
  rw [mem_getSteps, stepsOf, List.mem_filter, decide_eq_true_eq]

theorem stepsOf_of_steps (same : after.db.steps = before.db.steps) :
    stepsOf sagaId after = stepsOf sagaId before := by
  unfold stepsOf
  rw [same]

/-- Only the calls on step rows change them. -/
theorem stepsOf_frame {call : Call} {reply : Except JsError call.Reply}
    (performed : before.perform platform call choice = (reply, after)) (other : call.area ≠ .steps) :
    stepsOf sagaId after = stepsOf sagaId before :=
  stepsOf_of_steps ((World.perform_frame performed).steps other)

theorem stepsOf_created {step : SagaStep} {reply : Except JsError Unit}
    (performed : before.perform platform (.createStep step) choice = (reply, after)) (own : step.sagaId = sagaId) :
    (stepsOf sagaId after = stepsOf sagaId before ∧ reply ≠ .ok ()) ∨
      stepsOf sagaId after = stepsOf sagaId before ++ [Database.stepRow platform step] := by
  rcases World.createStep_answered performed with ⟨same, refused⟩ | inserted
  · exact Or.inl ⟨stepsOf_of_steps (by rw [same]), refused⟩
  · right
    unfold stepsOf
    rw [Table.rows_insert inserted, List.filter_append]
    congr 1
    exact List.filter_cons_of_pos (decide_eq_true own)

theorem stepsOf_updated {step : SagaStep} {reply : Except JsError Unit}
    (performed : before.perform platform (.updateStep step) choice = (reply, after)) :
    (stepsOf sagaId after = stepsOf sagaId before ∧ reply ≠ .ok ()) ∨
      stepsOf sagaId after = rewritten platform step (stepsOf sagaId before) := by
  rcases World.updateStep_answered performed with ⟨same, refused⟩ | update
  · exact Or.inl ⟨stepsOf_of_steps (by rw [same]), refused⟩
  · right
    have kept : ∀ row : SagaStep,
        (if row.id = step.id then Database.setStep platform step row else row).sagaId = row.sagaId := by
      intro row
      split <;> rfl
    unfold stepsOf rewritten
    rw [update]
    change List.filter _ (List.map _ before.db.steps.rows) = _
    rw [List.filter_map]
    congr 1
    apply List.filter_congr
    intro row _
    rw [Function.comp_apply, kept]

/-- An update of one row among others. -/
theorem rewritten_one {step changed : SagaStep} {earlier later : List SagaStep}
    (unique : ((earlier ++ step :: later).map SagaStep.id).Nodup) (same : changed.id = step.id) :
    rewritten platform changed (earlier ++ step :: later) =
      earlier ++ Database.setStep platform changed step :: later := by
  rw [List.map_append, List.map_cons] at unique
  have apart := List.nodup_append.mp unique
  have others : ∀ rows : List SagaStep, (∀ row ∈ rows, row.id ≠ step.id) →
      rewritten platform changed rows = rows := by
    intro rows different
    conv_rhs => rw [← List.map_id rows]
    apply List.map_congr_left
    intro row member
    exact if_neg (same ▸ different row member)
  have before : ∀ row ∈ earlier, row.id ≠ step.id := by
    intro row member
    exact apart.2.2 row.id (List.mem_map_of_mem member) step.id List.mem_cons_self
  have after : ∀ row ∈ later, row.id ≠ step.id := by
    intro row member named
    exact (List.nodup_cons.mp apart.2.1).1 (named ▸ List.mem_map_of_mem member)
  calc rewritten platform changed (earlier ++ step :: later)
      = rewritten platform changed earlier ++
          (if step.id = changed.id then Database.setStep platform changed step else step) ::
            rewritten platform changed later := by
        unfold rewritten
        rw [List.map_append, List.map_cons]
    _ = earlier ++ Database.setStep platform changed step :: later := by
        rw [others earlier before, others later after, if_pos same.symm]

end Rows

/-! ## The calls of a step -/

/-- The statements of the transaction that confirms an order. -/
def Statement.confirms : Statement → Bool
  | .updateOrderStatus _ status => status = .paid
  | .insertOutboxEvent _ event => event.eventType = "order.paid"

namespace Call

/-- The step whose work a call belongs to.  CONFIRM_ORDER and EMIT_EVENTS share
their transaction, and the locks are those of RESERVE_INVENTORY also where the
items are released. -/
def stepName : Call → Option StepName
  | acquire _ _ => some .reserveInventory
  | findBySku _ => some .reserveInventory
  | reserve _ _ => some .reserveInventory
  | breakerAdmits => some .processPayment
  | charge _ _ _ => some .processPayment
  | execute statement => if statement.confirms then some .confirmOrder else none
  | commit transaction => if transaction.any Statement.confirms then some .confirmOrder else none
  | _ => none

/-- With this write a compensation begins. -/
def compensates : Call → Bool
  | updateSaga saga => saga.status = .compensating
  | _ => false

/-- A saga row that is created has this id. -/
def createsAs (sagaId : Uuid) : Call → Bool
  | createSaga saga => saga.id = sagaId
  | _ => true

/-- A refund is asked for. -/
def refunds : Call → Bool
  | refund _ _ => true
  | _ => false

/-- A call of the work of one step, or of none. -/
structure Within (name : StepName) (call : Call) : Prop where
  steps : call.area ≠ .steps
  sagas : call.area ≠ .sagas
  named : ∀ other, call.stepName = some other → other = name
  unrefunded : call.refunds = false

end Call

namespace StepLog

/-- What the rows say before a call of a step is issued. -/
def Prepared (view : Json → Json) (rows : List SagaStep) (done : Footprint) : StepName → Prop
  | .reserveInventory => ∃ row ∈ rows, row.stepName = .reserveInventory
  | .processPayment =>
      (∃ row ∈ rows, row.stepName = .processPayment) ∧
        ∃ row ∈ rows, row.stepName = .reserveInventory ∧ row.status = .completed
  | _ =>
      (∃ row ∈ rows, row.stepName = .confirmOrder) ∧ (∃ row ∈ rows, row.stepName = .emitEvents) ∧
        ∃ row ∈ rows, row.stepName = .processPayment ∧ row.status = .completed ∧
          ∃ charge ∈ done.charges, view row.outputPayload = view (.obj [("transactionId", .ofOption charge.1)])

/-- The work of a step has succeeded. -/
def Succeeded (platform : Platform) (context : SagaContext) (done : Footprint) : StepName → Prop
  | .reserveInventory => InventoryService.sortItems platform context.items <:+: done.reserved
  | .processPayment => ∃ transactionId amount, context.money = .ok amount ∧ (transactionId, amount) ∈ done.charges
  | _ => ∃ transactionId eventId, context.confirmation transactionId eventId ∈ done.commits

/-- Rows that keep their labels, and their cores once they are COMPLETED. -/
def Outlast (view : Json → Json) (rows later : List SagaStep) : Prop :=
  ∀ row ∈ rows, ∃ row' ∈ later,
    row'.label = row.label ∧ (row.status = .completed → row'.core view = row.core view)

section Monotone

variable {platform : Platform} {view : Json → Json} {context : SagaContext} {rows later : List SagaStep}
  {done : Footprint} {name : StepName}

theorem Outlast.refl (rows : List SagaStep) : Outlast view rows rows :=
  fun row member => ⟨row, member, rfl, fun _ => rfl⟩

theorem Outlast.named (outlast : Outlast view rows later) (known : ∃ row ∈ rows, row.stepName = name) :
    ∃ row ∈ later, row.stepName = name := by
  rcases known with ⟨row, member, named⟩
  rcases outlast row member with ⟨row', member', label, _⟩
  exact ⟨row', member', (congrArg Prod.snd label).trans named⟩

theorem Outlast.completed (outlast : Outlast view rows later) {row : SagaStep} (member : row ∈ rows)
    (completed : row.status = .completed) : ∃ row' ∈ later, row'.core view = row.core view := by
  rcases outlast row member with ⟨row', member', _, core⟩
  exact ⟨row', member', core completed⟩

/-- Steps with one core agree in every field that is no compensation field. -/
theorem core_congr {α : Type} {row other : SagaStep} (field : SagaStep → α)
    (blind : ∀ step, field (step.core view) = field step) (same : other.core view = row.core view) : field other = field row :=
  (blind other).symm.trans ((congrArg field same).trans (blind row))

theorem core_status {row other : SagaStep} (same : other.core view = row.core view) : other.status = row.status :=
  core_congr SagaStep.status (fun _ => rfl) same

theorem core_stepName {row other : SagaStep} (same : other.core view = row.core view) : other.stepName = row.stepName :=
  core_congr SagaStep.stepName (fun _ => rfl) same

/-- What the rows said they go on saying. -/
theorem Prepared.outlast (prepared : Prepared view rows done name) (outlast : Outlast view rows later) (since : Footprint) :
    Prepared view later (done ++ since) name := by
  have paid : (∃ row ∈ rows, row.stepName = .confirmOrder) ∧ (∃ row ∈ rows, row.stepName = .emitEvents) ∧
      (∃ row ∈ rows, row.stepName = .processPayment ∧ row.status = .completed ∧
        ∃ charge ∈ done.charges, view row.outputPayload = view (.obj [("transactionId", .ofOption charge.1)])) →
      (∃ row ∈ later, row.stepName = .confirmOrder) ∧ (∃ row ∈ later, row.stepName = .emitEvents) ∧
        ∃ row ∈ later, row.stepName = .processPayment ∧ row.status = .completed ∧
          ∃ charge ∈ (done ++ since).charges, view row.outputPayload = view (.obj [("transactionId", .ofOption charge.1)]) := by
    rintro ⟨confirming, emitting, row, member, named, completed, charge, charged, output⟩
    rcases outlast.completed member completed with ⟨row', member', core⟩
    refine ⟨outlast.named confirming, outlast.named emitting, row', member', (core_stepName core).trans named,
      (core_status core).trans completed, charge, ?_, (congrArg SagaStep.outputPayload core).trans output⟩
    exact List.mem_append_left _ charged
  cases name with
  | reserveInventory => exact outlast.named prepared
  | processPayment =>
      rcases prepared with ⟨paying, row, member, named, completed⟩
      rcases outlast.completed member completed with ⟨row', member', core⟩
      exact ⟨outlast.named paying, row', member', (core_stepName core).trans named,
        (core_status core).trans completed⟩
  | confirmOrder => exact paid prepared
  | emitEvents => exact paid prepared

theorem Succeeded.append (succeeded : Succeeded platform context done name) (since : Footprint) :
    Succeeded platform context (done ++ since) name := by
  cases name with
  | reserveInventory => exact succeeded.trans (List.prefix_append _ _).isInfix
  | processPayment =>
      rcases succeeded with ⟨transactionId, amount, money, charged⟩
      exact ⟨transactionId, amount, money, List.mem_append_left _ charged⟩
  | confirmOrder =>
      rcases succeeded with ⟨transactionId, eventId, committed⟩
      exact ⟨transactionId, eventId, List.mem_append_left _ committed⟩
  | emitEvents =>
      rcases succeeded with ⟨transactionId, eventId, committed⟩
      exact ⟨transactionId, eventId, List.mem_append_left _ committed⟩

end Monotone

/-! ## The calls that the rows allow -/

section Permits

variable (platform : Platform) (view : Json → Json) (context : SagaContext) (sagaId : Uuid)

/-- The rows as a run has left them. -/
def rowsAt (start : World) (log : CallLog) : List SagaStep := stepsOf sagaId (System.latest start log)

/-- No compensation has begun. -/
def Forward (log : CallLog) : Prop := ∀ event ∈ log, event.call.compensates = false

/-- Four steps, all COMPLETED. -/
def Complete (rows : List SagaStep) : Prop :=
  rows.map SagaStep.label = stepPlan ∧ ∀ row ∈ rows, row.status = .completed

/-- The calls that may follow a log. -/
def Permits (start : World) (log : CallLog) : Call → Prop
  | .createStep step =>
      Forward log ∧ step.sagaId = sagaId ∧ step.status = .running ∧
        (rowsAt sagaId start log).map SagaStep.label ++ [step.label] <+: stepPlan
  | .updateStep step => ∀ row ∈ rowsAt sagaId start log, row.id = step.id →
      (Database.setStep platform step row).core view = row.core view ∨
        (Forward log ∧ row.status = .running ∧
          (step.status = .completed → Succeeded platform context (footprint log) row.stepName))
  | .updateSaga saga => saga.status = .completed → Complete (rowsAt sagaId start log)
  | call => ∀ name, call.stepName = some name → Prepared view (rowsAt sagaId start log) (footprint log) name

/-- What holds of the rows at every point. -/
structure Recorded (start : World) (log : CallLog) : Prop where
  planned : (rowsAt sagaId start log).map SagaStep.label <+: stepPlan
  succeeded : ∀ row ∈ rowsAt sagaId start log, row.status = .completed →
    Succeeded platform context (footprint log) row.stepName
  prepared : ∀ event ∈ log, ∀ name, event.call.stepName = some name →
    Prepared view (rowsAt sagaId start log) (footprint log) name
  completed : ∀ event ∈ log, ∀ saga, event.call = .updateSaga saga → saga.status = .completed →
    Complete (rowsAt sagaId start log)

end Permits

section Steps

variable {platform : Platform} {view : Json → Json} {context : SagaContext} {sagaId : Uuid} {start : World}
  {log : CallLog} {event : CallEvent}

/-- An event of a run that has the rows of its saga to itself. -/
abbrev Amid (platform : Platform) (sagaId : Uuid) (start : World) : CallLog → CallEvent → Prop :=
  (orderly platform).AdmitsAmid (stepsOf sagaId) start

/-- A call of another table leaves the rows alone. -/
theorem rowsAt_frame (admitted : Amid platform sagaId start log event) (other : event.call.area ≠ .steps) :
    rowsAt sagaId start (event :: log) = rowsAt sagaId start log := by
  rcases admits_iff.mp admitted.1 with ⟨choice, performed⟩
  exact (stepsOf_frame performed other).trans admitted.2

/-- How a permitted call can change the rows. -/
theorem rowsAt_step (permits : Permits platform view context sagaId start log event.call)
    (admitted : Amid platform sagaId start log event) :
    rowsAt sagaId start (event :: log) = rowsAt sagaId start log ∨
      (∃ step, event.call = .createStep step ∧
        rowsAt sagaId start (event :: log) = rowsAt sagaId start log ++ [Database.stepRow platform step]) ∨
      ∃ step, event.call = .updateStep step ∧
        rowsAt sagaId start (event :: log) = rewritten platform step (rowsAt sagaId start log) := by
  by_cases steps : event.call.area = .steps
  · rcases event with ⟨call, reply, before, after⟩
    rcases admitted with ⟨admitted, found⟩
    rcases admits_iff.mp admitted with ⟨choice, performed⟩
    change stepsOf sagaId before = rowsAt sagaId start log at found
    change stepsOf sagaId after = _ ∨ (∃ step, call = _ ∧ stepsOf sagaId after = _) ∨
      ∃ step, call = _ ∧ stepsOf sagaId after = _
    rw [← found]
    cases call with
    | createStep step =>
        rcases stepsOf_created performed permits.2.1 with ⟨same, _⟩ | appended
        · exact Or.inl same
        · exact Or.inr (Or.inl ⟨step, rfl, appended⟩)
    | updateStep step =>
        rcases stepsOf_updated performed with ⟨same, _⟩ | changed
        · exact Or.inl same
        · exact Or.inr (Or.inr ⟨step, rfl, changed⟩)
    | _ => cases steps
  · exact Or.inl (rowsAt_frame admitted steps)

/-- A permitted call finds its step prepared. -/
theorem Permits.prepared {call : Call} {name : StepName} (permits : Permits platform view context sagaId start log call)
    (named : call.stepName = some name) : Prepared view (rowsAt sagaId start log) (footprint log) name := by
  cases call <;> first | exact permits name named | cases named

/-- A row that is rewritten keeps its name, and its core if it was COMPLETED. -/
theorem rewritten_kept {step row : SagaStep} (permits : Permits platform view context sagaId start log (.updateStep step))
    (member : row ∈ rowsAt sagaId start log) {row' : SagaStep}
    (same : row' = if row.id = step.id then Database.setStep platform step row else row) :
    row'.label = row.label ∧ (row.status = .completed → row'.core view = row.core view) := by
  subst same
  split
  · next named =>
      refine ⟨rfl, fun completed => ?_⟩
      rcases permits row member named with core | ⟨_, running, _⟩
      · exact core
      · rw [completed] at running
        cases running
  · exact ⟨rfl, fun _ => rfl⟩

/-- No permitted call takes back what the rows say. -/
theorem outlast_step (permits : Permits platform view context sagaId start log event.call)
    (admitted : Amid platform sagaId start log event) :
    Outlast view (rowsAt sagaId start log) (rowsAt sagaId start (event :: log)) := by
  rcases rowsAt_step permits admitted with same | ⟨step, _, appended⟩ | ⟨step, call, changed⟩
  · rw [same]
    exact .refl _
  · rw [appended]
    exact fun row member => ⟨row, List.mem_append_left _ member, rfl, fun _ => rfl⟩
  · rw [changed]
    rw [call] at permits
    exact fun row member => ⟨_, List.mem_map_of_mem member, rewritten_kept permits member rfl⟩

theorem labels_rewritten {step : SagaStep} (rows : List SagaStep) :
    (rewritten platform step rows).map SagaStep.label = rows.map SagaStep.label := by
  unfold rewritten
  rw [List.map_map]
  apply List.map_congr_left
  intro row _
  change SagaStep.label (if _ then _ else _) = _
  split <;> rfl

/-- Complete rows stay complete. -/
theorem complete_step (permits : Permits platform view context sagaId start log event.call)
    (admitted : Amid platform sagaId start log event) (complete : Complete (rowsAt sagaId start log)) :
    Complete (rowsAt sagaId start (event :: log)) := by
  rcases rowsAt_step permits admitted with same | ⟨step, call, _⟩ | ⟨step, call, changed⟩
  · rw [same]
    exact complete
  · rw [call] at permits
    have longer := permits.2.2.2.length_le
    rw [complete.1, List.length_append] at longer
    exact absurd longer (Nat.not_succ_le_self _)
  · rw [call] at permits
    rw [changed]
    refine ⟨(labels_rewritten _).trans complete.1, ?_⟩
    intro row' member
    rcases List.mem_map.mp member with ⟨row, known, rfl⟩
    have kept := (rewritten_kept permits known rfl).2 (complete.2 row known)
    exact (core_status kept).trans (complete.2 row known)

/-- Every permitted call keeps the log in order. -/
theorem Recorded.step (permits : Permits platform view context sagaId start log event.call)
    (admitted : Amid platform sagaId start log event) (recorded : Recorded platform view context sagaId start log) :
    Recorded platform view context sagaId start (event :: log) where
  planned := by
    rcases rowsAt_step permits admitted with same | ⟨step, call, appended⟩ | ⟨step, _, changed⟩
    · rw [same]
      exact recorded.planned
    · rw [call] at permits
      rw [appended, List.map_append]
      exact permits.2.2.2
    · rw [changed, labels_rewritten]
      exact recorded.planned
  succeeded := by
    have earlier : ∀ row ∈ rowsAt sagaId start log, row.status = .completed →
        Succeeded platform context (footprint (event :: log)) row.stepName :=
      fun row member completed => (recorded.succeeded row member completed).append _
    intro row member completed
    rcases rowsAt_step permits admitted with same | ⟨step, call, appended⟩ | ⟨step, call, changed⟩
    · rw [same] at member
      exact earlier row member completed
    · rw [call] at permits
      rw [appended] at member
      rcases List.mem_append.mp member with known | new
      · exact earlier row known completed
      · rw [List.mem_singleton.mp new] at completed
        have running : step.status = .completed := completed
        rw [permits.2.2.1] at running
        cases running
    · rw [call] at permits
      rw [changed] at member
      rcases List.mem_map.mp member with ⟨old, known, rfl⟩
      split at completed
      · next named =>
          rw [if_pos named]
          rcases permits old known named with core | ⟨_, _, succeeded⟩
          · exact earlier old known ((core_status core).symm.trans completed)
          · exact (succeeded completed).append _
      · next other =>
          rw [if_neg other]
          exact earlier old known completed
  prepared := by
    intro other member name named
    rcases List.mem_cons.mp member with rfl | earlier
    · exact (permits.prepared named).outlast (outlast_step permits admitted) _
    · exact (recorded.prepared other earlier name named).outlast (outlast_step permits admitted) _
  completed := by
    intro other member saga call status
    rcases List.mem_cons.mp member with rfl | earlier
    · have now := permits
      rw [call] at now
      exact complete_step permits admitted (now status)
    · exact complete_step permits admitted (recorded.completed other earlier saga call status)

/-- Once a compensation has begun, every permitted call keeps the cores. -/
theorem cores_step (permits : Permits platform view context sagaId start log event.call)
    (admitted : Amid platform sagaId start log event) (turned : ¬ Forward log) :
    (rowsAt sagaId start (event :: log)).map (SagaStep.core view) =
      (rowsAt sagaId start log).map (SagaStep.core view) := by
  rcases rowsAt_step permits admitted with same | ⟨step, call, _⟩ | ⟨step, call, changed⟩
  · rw [same]
  · rw [call] at permits
    exact absurd permits.1 turned
  · rw [call] at permits
    rw [changed]
    unfold rewritten
    rw [List.map_map]
    apply List.map_congr_left
    intro row member
    change SagaStep.core view (if _ then _ else _) = _
    split
    · next named =>
        rcases permits row member named with core | ⟨forward, _⟩
        · exact core
        · exact absurd forward turned
    · rfl

end Steps

end StepLog
end Orderly
