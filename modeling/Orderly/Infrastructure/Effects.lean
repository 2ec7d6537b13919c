import Orderly.System

/-!
# What an answered call says about the world

`World.perform` in the form the proofs use: a call is either rejected without
an effect, or its effect takes place and the answer may still be lost.  Each
table is touched by its own calls only.
-/

namespace Orderly

open Store (Table)

variable {platform : Platform} {before after : World} {choice : Choice}

/-- An event that the system can add to a log. -/
theorem admits_iff {log : CallLog} {call : Call} {reply : Except JsError call.Reply} :
    (orderly platform).Admits log ⟨call, reply, before, after⟩ ↔
      ∃ choice, before.perform platform call choice = (reply, after) :=
  Process.System.admits_iff

/-! ## Tables -/

/-- The table a call may change. -/
inductive Area where
  | nothing
  | sagas
  | steps
  | inventory
  | orders
  deriving DecidableEq

def Call.area : Call → Area
  | .createSaga _ => .sagas
  | .updateSaga _ => .sagas
  | .createStep _ => .steps
  | .updateStep _ => .steps
  | .reserve _ _ => .inventory
  | .release _ _ => .inventory
  | .commit _ => .orders
  | _ => .nothing

/-- Two databases agree outside one area.  The outbox counts as orders. -/
structure SameExcept (area : Area) (old new : Database) : Prop where
  sagas : area ≠ .sagas → new.sagas = old.sagas
  steps : area ≠ .steps → new.steps = old.steps
  inventory : area ≠ .inventory → new.inventory = old.inventory
  orders : area ≠ .orders → new.orders = old.orders
  outbox : area ≠ .orders → new.outbox = old.outbox

theorem SameExcept.refl (area : Area) (db : Database) : SameExcept area db db :=
  ⟨fun _ => rfl, fun _ => rfl, fun _ => rfl, fun _ => rfl, fun _ => rfl⟩

theorem SameExcept.trans {area : Area} {first second third : Database}
    (earlier : SameExcept area first second) (later : SameExcept area second third) :
    SameExcept area first third where
  sagas other := (later.sagas other).trans (earlier.sagas other)
  steps other := (later.steps other).trans (earlier.steps other)
  inventory other := (later.inventory other).trans (earlier.inventory other)
  orders other := (later.orders other).trans (earlier.orders other)
  outbox other := (later.outbox other).trans (earlier.outbox other)

namespace Database

variable {db changed : Database}

theorem createSaga_ok {saga : SagaInstance} (ok : db.createSaga platform saga = .ok changed) :
    SameExcept .sagas db changed ∧ db.sagas.insert (sagaRow platform saga) = some changed.sagas := by
  unfold createSaga at ok
  split at ok
  · split at ok
    · cases ok
    · next sagas inserted =>
        cases ok
        exact ⟨⟨fun other => absurd rfl other, fun _ => rfl, fun _ => rfl, fun _ => rfl, fun _ => rfl⟩,
          inserted⟩
  · cases ok

theorem createStep_ok {step : SagaStep} (ok : db.createStep platform step = .ok changed) :
    SameExcept .steps db changed ∧ db.steps.insert (stepRow platform step) = some changed.steps ∧
      (db.sagas.lookup step.sagaId).isSome := by
  unfold createStep at ok
  split at ok
  · next known =>
      split at ok
      · cases ok
      · next steps inserted =>
          cases ok
          exact ⟨⟨fun _ => rfl, fun other => absurd rfl other, fun _ => rfl, fun _ => rfl,
            fun _ => rfl⟩, inserted, known⟩
  · cases ok

/-- A reservation that answered `true` has moved units of one SKU. -/
theorem reserve_ok {sku : String} {quantity : Nat} {answer : Bool}
    (ok : db.reserve sku quantity = .ok (answer, changed)) :
    SameExcept .inventory db changed ∧
      ((answer = false ∧ changed = db) ∨
        (answer = true ∧ ∃ row, db.inventory.lookup sku = some row ∧ quantity ≤ row.available ∧
          changed.inventory = db.inventory.update sku (reserveRow quantity) (reserveRow_sku quantity))) := by
  unfold reserve at ok
  split at ok
  · cases ok
  · split at ok
    · cases ok
      exact ⟨SameExcept.refl _ _, Or.inl ⟨rfl, rfl⟩⟩
    · next row found =>
        split at ok
        · cases ok
          exact ⟨SameExcept.refl _ _, Or.inl ⟨rfl, rfl⟩⟩
        · next enough =>
            split at ok
            · cases ok
            · cases ok
              refine ⟨⟨fun _ => rfl, fun _ => rfl, fun other => absurd rfl other, fun _ => rfl,
                fun _ => rfl⟩, Or.inr ⟨rfl, row, found, Nat.not_lt.mp enough, rfl⟩⟩

/-- A release that answered `true` has moved units of one SKU. -/
theorem release_ok {sku : String} {quantity : Nat} {answer : Bool}
    (ok : db.release sku quantity = .ok (answer, changed)) :
    SameExcept .inventory db changed ∧
      ((answer = false ∧ changed = db) ∨
        (answer = true ∧ ∃ row, db.inventory.lookup sku = some row ∧
          changed.inventory = db.inventory.update sku (releaseRow quantity) (releaseRow_sku quantity))) := by
  unfold release at ok
  split at ok
  · cases ok
  · split at ok
    · cases ok
      exact ⟨SameExcept.refl _ _, Or.inl ⟨rfl, rfl⟩⟩
    · next row found =>
        split at ok
        · cases ok
        · cases ok
          exact ⟨⟨fun _ => rfl, fun _ => rfl, fun other => absurd rfl other, fun _ => rfl,
            fun _ => rfl⟩, Or.inr ⟨rfl, row, found, rfl⟩⟩

theorem apply_frame {now : Date} {statement : Statement}
    (applied : apply platform db now statement = some changed) : SameExcept .orders db changed := by
  cases statement with
  | updateOrderStatus id status =>
      cases applied
      exact ⟨fun _ => rfl, fun _ => rfl, fun _ => rfl, fun other => absurd rfl other, fun _ => rfl⟩
  | insertOutboxEvent id event =>
      rcases Option.map_eq_some_iff.mp applied with ⟨outbox, _, rfl⟩
      exact ⟨fun _ => rfl, fun _ => rfl, fun _ => rfl, fun _ => rfl, fun other => absurd rfl other⟩

theorem commit_frame {now : Date} {transaction : Transaction}
    (committed : commit platform now db transaction = some changed) : SameExcept .orders db changed := by
  induction transaction generalizing db with
  | nil =>
      cases committed
      exact SameExcept.refl _ _
  | cons statement rest inductionHypothesis =>
      rcases Option.bind_eq_some_iff.mp committed with ⟨middle, applied, later⟩
      exact (apply_frame applied).trans (inductionHypothesis later)

end Database

/-! ## Steps -/

/-- The steps read of a saga are its rows. -/
theorem mem_getSteps {db : Database} {sagaId : Uuid} {step : SagaStep} :
    step ∈ db.getSteps sagaId ↔ step ∈ db.steps.rows ∧ step.sagaId = sagaId := by
  unfold Database.getSteps
  rw [(List.perm_insertionSort _ _).mem_iff, List.mem_filter, decide_eq_true_eq]

/-! ## Stock -/

namespace Database

/-- `quantity_available` of a SKU. -/
def quantityAvailable (db : Database) (sku : String) : Nat :=
  ((db.inventory.lookup sku).map InventoryRecord.available).getD 0

/-- `quantity_reserved` of a SKU. -/
def quantityReserved (db : Database) (sku : String) : Nat :=
  ((db.inventory.lookup sku).map InventoryRecord.reserved).getD 0

variable {db changed : Database} {sku : String} {quantity : Nat} {row : InventoryRecord}

theorem reserve_quantities (found : db.inventory.lookup sku = some row)
    (update : changed.inventory =
      db.inventory.update sku (reserveRow quantity) (reserveRow_sku quantity)) (other : String) :
    changed.quantityAvailable other =
        db.quantityAvailable other - (if other = sku then quantity else 0) ∧
      changed.quantityReserved other =
        db.quantityReserved other + (if other = sku then quantity else 0) := by
  unfold quantityAvailable quantityReserved
  rw [update, Table.lookup_update]
  by_cases same : other = sku
  · subst same
    simp [found, reserveRow]
  · simp [same]

theorem release_quantities (found : db.inventory.lookup sku = some row)
    (update : changed.inventory =
      db.inventory.update sku (releaseRow quantity) (releaseRow_sku quantity)) (other : String) :
    changed.quantityAvailable other =
        db.quantityAvailable other + (if other = sku then quantity else 0) ∧
      changed.quantityReserved other =
        db.quantityReserved other - (if other = sku then quantity else 0) := by
  unfold quantityAvailable quantityReserved
  rw [update, Table.lookup_update]
  by_cases same : other = sku
  · subst same
    simp [found, releaseRow]
  · simp [same]

end Database

/-! ## Calls -/

namespace World

/-- The two ways a call can go. -/
theorem perform_cases {call : Call} {reply : Except JsError call.Reply}
    (performed : before.perform platform call choice = (reply, after)) :
    (after = before ∧ ∃ error, reply = .error error) ∨
      ∃ served, after = (before.effect platform call served).2 ∧
        (reply = (before.effect platform call served).1 ∨ ∃ error, reply = .error error) := by
  cases choice with
  | reject error =>
      simp only [perform] at performed
      split at performed
      · exact Or.inr ⟨.serve, (congrArg Prod.snd performed).symm, Or.inl (congrArg Prod.fst performed).symm⟩
      · cases performed
        exact Or.inl ⟨rfl, error, rfl⟩
  | lose error =>
      simp only [perform] at performed
      split at performed
      · exact Or.inr ⟨.serve, (congrArg Prod.snd performed).symm, Or.inl (congrArg Prod.fst performed).symm⟩
      · cases performed
        exact Or.inr ⟨.serve, rfl, Or.inr ⟨error, rfl⟩⟩
  | serve => exact Or.inr ⟨.serve, (congrArg Prod.snd performed).symm, Or.inl (congrArg Prod.fst performed).symm⟩
  | refuse => exact Or.inr ⟨.refuse, (congrArg Prod.snd performed).symm, Or.inl (congrArg Prod.fst performed).symm⟩
  | answer result =>
      exact Or.inr ⟨.answer result, (congrArg Prod.snd performed).symm,
        Or.inl (congrArg Prod.fst performed).symm⟩

/-- The database a settled statement leaves. -/
theorem settle_db {α : Type} {area : Area} {result : Except JsError (α × Database)}
    (ok : ∀ value db, result = .ok (value, db) → SameExcept area before.db db) :
    SameExcept area before.db (before.settle result).2.db := by
  cases result with
  | error error => exact SameExcept.refl _ _
  | ok answer => exact ok answer.1 answer.2 rfl

theorem effect_createSaga (world : World) (saga : SagaInstance) :
    world.effect platform (.createSaga saga) choice =
      world.settle ((world.db.createSaga platform saga).map fun db => ((), db)) := rfl

theorem effect_createStep (world : World) (step : SagaStep) :
    world.effect platform (.createStep step) choice =
      world.settle ((world.db.createStep platform step).map fun db => ((), db)) := rfl

theorem effect_reserve (world : World) (sku : String) (quantity : Nat) :
    world.effect platform (.reserve sku quantity) choice = world.settle (world.db.reserve sku quantity) := rfl

theorem effect_release (world : World) (sku : String) (quantity : Nat) :
    world.effect platform (.release sku quantity) choice = world.settle (world.db.release sku quantity) := rfl

theorem effect_commit (platform : Platform) (world : World) (transaction : Transaction) (choice : Choice) :
    (∃ db, Database.commit platform world.clock world.db transaction = some db ∧
        world.effect platform (.commit transaction) choice = (.ok (), { world with db })) ∨
      (Database.commit platform world.clock world.db transaction = none ∧
        world.effect platform (.commit transaction) choice = (.error uniqueViolation, world)) := by
  cases committed : Database.commit platform world.clock world.db transaction with
  | some db => exact Or.inl ⟨db, rfl, by simp only [effect, committed]⟩
  | none => exact Or.inr ⟨rfl, by simp only [effect, committed]⟩

theorem effect_frame (platform : Platform) (world : World) (call : Call) (choice : Choice) :
    SameExcept call.area world.db (world.effect platform call choice).2.db := by
  cases call with
  | createSaga saga =>
      apply settle_db
      intro value db ok
      rcases created : world.db.createSaga platform saga with error | changed
      · rw [created] at ok
        cases ok
      · rw [created] at ok
        cases ok
        exact (Database.createSaga_ok created).1
  | createStep step =>
      apply settle_db
      intro value db ok
      rcases created : world.db.createStep platform step with error | changed
      · rw [created] at ok
        cases ok
      · rw [created] at ok
        cases ok
        exact (Database.createStep_ok created).1
  | updateSaga saga =>
      exact ⟨fun other => absurd rfl other, fun _ => rfl, fun _ => rfl, fun _ => rfl, fun _ => rfl⟩
  | updateStep step =>
      exact ⟨fun _ => rfl, fun other => absurd rfl other, fun _ => rfl, fun _ => rfl, fun _ => rfl⟩
  | reserve sku quantity => exact settle_db fun value db ok => (Database.reserve_ok ok).1
  | release sku quantity => exact settle_db fun value db ok => (Database.release_ok ok).1
  | commit transaction =>
      rcases effect_commit platform world transaction choice with ⟨db, committed, same⟩ | ⟨_, same⟩
      · rw [same]
        exact Database.commit_frame committed
      · rw [same]
        exact SameExcept.refl _ _
  | acquire resourceId ttlMs => cases choice <;> exact SameExcept.refl _ _
  | breakerAdmits => cases choice <;> exact SameExcept.refl _ _
  | uuidv4 => exact SameExcept.refl _ _
  | newDate => exact SameExcept.refl _ _
  | findSagaById id => exact SameExcept.refl _ _
  | getSteps sagaId => exact SameExcept.refl _ _
  | unlock release => exact SameExcept.refl _ _
  | findBySku sku => exact SameExcept.refl _ _
  | charge orderId amount token => exact SameExcept.refl _ _
  | refund transactionId amount => exact SameExcept.refl _ _
  | execute statement => exact SameExcept.refl _ _

/-- Each call keeps to its own table. -/
theorem perform_frame {call : Call} {reply : Except JsError call.Reply}
    (performed : before.perform platform call choice = (reply, after)) :
    SameExcept call.area before.db after.db := by
  rcases perform_cases performed with ⟨rfl, _⟩ | ⟨served, rfl, _⟩
  · exact SameExcept.refl _ _
  · exact effect_frame platform before call served

/-- A read answers from the current table. -/
theorem findSagaById_answered {id : Uuid} {found : Option SagaInstance}
    (performed : before.perform platform (.findSagaById id) choice = (.ok found, after)) :
    found = before.db.findSagaById id ∧ after = before := by
  rcases perform_cases performed with ⟨_, _, lost⟩ | ⟨served, rfl, replied | ⟨_, lost⟩⟩
  · cases lost
  · exact ⟨Except.ok.inj replied, rfl⟩
  · cases lost

theorem getSteps_answered {sagaId : Uuid} {found : List SagaStep}
    (performed : before.perform platform (.getSteps sagaId) choice = (.ok found, after)) :
    found = before.db.getSteps sagaId ∧ after = before := by
  rcases perform_cases performed with ⟨_, _, lost⟩ | ⟨served, rfl, replied | ⟨_, lost⟩⟩
  · cases lost
  · exact ⟨Except.ok.inj replied, rfl⟩
  · cases lost

/-- The insert either happens or leaves the table alone; an answer means that
it has happened. -/
theorem createSaga_answered {saga : SagaInstance} {reply : Except JsError Unit}
    (performed : before.perform platform (.createSaga saga) choice = (reply, after)) :
    (after.db = before.db ∧ reply ≠ .ok ()) ∨
      before.db.sagas.insert (Database.sagaRow platform saga) = some after.db.sagas := by
  rcases perform_cases performed with ⟨rfl, error, rfl⟩ | ⟨served, rfl, replied⟩
  · exact Or.inl ⟨rfl, fun same => by cases same⟩
  · simp only [effect_createSaga] at replied ⊢
    rcases created : before.db.createSaga platform saga with error | changed
    · refine Or.inl ⟨rfl, ?_⟩
      rintro rfl
      rw [created] at replied
      rcases replied with replied | ⟨_, replied⟩ <;> cases replied
    · exact Or.inr (Database.createSaga_ok created).2

theorem updateSaga_answered {saga : SagaInstance} {reply : Except JsError Unit}
    (performed : before.perform platform (.updateSaga saga) choice = (reply, after)) :
    (after.db = before.db ∧ reply ≠ .ok ()) ∨ after.db = before.db.updateSaga platform saga := by
  rcases perform_cases performed with ⟨rfl, error, rfl⟩ | ⟨served, rfl, _⟩
  · exact Or.inl ⟨rfl, fun same => by cases same⟩
  · exact Or.inr rfl

theorem createStep_answered {step : SagaStep} {reply : Except JsError Unit}
    (performed : before.perform platform (.createStep step) choice = (reply, after)) :
    (after.db = before.db ∧ reply ≠ .ok ()) ∨
      before.db.steps.insert (Database.stepRow platform step) = some after.db.steps := by
  rcases perform_cases performed with ⟨rfl, error, rfl⟩ | ⟨served, rfl, replied⟩
  · exact Or.inl ⟨rfl, fun same => by cases same⟩
  · simp only [effect_createStep] at replied ⊢
    rcases created : before.db.createStep platform step with error | changed
    · refine Or.inl ⟨rfl, ?_⟩
      rintro rfl
      rw [created] at replied
      rcases replied with replied | ⟨_, replied⟩ <;> cases replied
    · exact Or.inr (Database.createStep_ok created).2.1

theorem updateStep_answered {step : SagaStep} {reply : Except JsError Unit}
    (performed : before.perform platform (.updateStep step) choice = (reply, after)) :
    (after.db = before.db ∧ reply ≠ .ok ()) ∨ after.db = before.db.updateStep platform step := by
  rcases perform_cases performed with ⟨rfl, error, rfl⟩ | ⟨served, rfl, _⟩
  · exact Or.inl ⟨rfl, fun same => by cases same⟩
  · exact Or.inr rfl

/-- A reservation moves units from available to reserved, or does nothing. -/
theorem reserve_answered {sku : String} {quantity : Nat} {reply : Except JsError Bool}
    (performed : before.perform platform (.reserve sku quantity) choice = (reply, after)) :
    (after.db = before.db ∧ reply ≠ .ok true) ∨
      (reply ≠ .ok false ∧ quantity ≤ before.db.quantityAvailable sku ∧ ∀ other,
        after.db.quantityAvailable other =
            before.db.quantityAvailable other - (if other = sku then quantity else 0) ∧
          after.db.quantityReserved other =
            before.db.quantityReserved other + (if other = sku then quantity else 0)) := by
  rcases perform_cases performed with ⟨rfl, error, rfl⟩ | ⟨served, rfl, replied⟩
  · exact Or.inl ⟨rfl, fun same => by cases same⟩
  · simp only [effect_reserve] at replied ⊢
    rcases result : before.db.reserve sku quantity with error | ⟨answer, changed⟩
    · refine Or.inl ⟨rfl, ?_⟩
      rintro rfl
      rw [result] at replied
      rcases replied with replied | ⟨_, replied⟩ <;> cases replied
    · rw [result] at replied
      rcases (Database.reserve_ok result).2 with ⟨rfl, rfl⟩ | ⟨rfl, row, found, enough, update⟩
      · refine Or.inl ⟨rfl, ?_⟩
        rintro rfl
        rcases replied with replied | ⟨_, replied⟩ <;> cases replied
      · refine Or.inr ⟨?_, ?_, fun other => Database.reserve_quantities found update other⟩
        · rintro rfl
          rcases replied with replied | ⟨_, replied⟩ <;> cases replied
        · simpa [Database.quantityAvailable, found] using enough

/-- A release moves units back, with `quantity_reserved` clamped at zero, or
does nothing. -/
theorem release_answered {sku : String} {quantity : Nat} {reply : Except JsError Bool}
    (performed : before.perform platform (.release sku quantity) choice = (reply, after)) :
    (after.db = before.db ∧ reply ≠ .ok true) ∨
      (reply ≠ .ok false ∧ ∀ other,
        after.db.quantityAvailable other =
            before.db.quantityAvailable other + (if other = sku then quantity else 0) ∧
          after.db.quantityReserved other =
            before.db.quantityReserved other - (if other = sku then quantity else 0)) := by
  rcases perform_cases performed with ⟨rfl, error, rfl⟩ | ⟨served, rfl, replied⟩
  · exact Or.inl ⟨rfl, fun same => by cases same⟩
  · simp only [effect_release] at replied ⊢
    rcases result : before.db.release sku quantity with error | ⟨answer, changed⟩
    · refine Or.inl ⟨rfl, ?_⟩
      rintro rfl
      rw [result] at replied
      rcases replied with replied | ⟨_, replied⟩ <;> cases replied
    · rw [result] at replied
      rcases (Database.release_ok result).2 with ⟨rfl, rfl⟩ | ⟨rfl, row, found, update⟩
      · refine Or.inl ⟨rfl, ?_⟩
        rintro rfl
        rcases replied with replied | ⟨_, replied⟩ <;> cases replied
      · refine Or.inr ⟨?_, fun other => Database.release_quantities found update other⟩
        rintro rfl
        rcases replied with replied | ⟨_, replied⟩ <;> cases replied

end World

/-! ## Transactions -/

/-- The transaction has been committed between two states. -/
def Takes (platform : Platform) (transaction : Transaction) (before after : World) : Prop :=
  ∃ db, Database.commit platform before.clock before.db transaction = some db ∧
    after = { before with db }

namespace World

theorem commit_answered {transaction : Transaction} {reply : Except JsError Unit}
    (performed : before.perform platform (.commit transaction) choice = (reply, after)) :
    (after = before ∧ reply ≠ .ok ()) ∨ Takes platform transaction before after := by
  rcases perform_cases performed with ⟨rfl, error, rfl⟩ | ⟨served, rfl, replied⟩
  · exact Or.inl ⟨rfl, fun same => by cases same⟩
  · rcases effect_commit platform before transaction served with ⟨db, committed, same⟩ | ⟨_, same⟩
    · rw [same]
      exact Or.inr ⟨db, committed, rfl⟩
    · rw [same] at replied ⊢
      refine Or.inl ⟨rfl, ?_⟩
      rintro rfl
      rcases replied with replied | ⟨_, replied⟩ <;> cases replied

end World

/-- What the transaction that sets an order's status does to the tables. -/
theorem orderTransaction_takes {orderId eventId : Uuid} {status : OrderStatus} {event : NewOutboxEvent}
    (takes : Takes platform [.updateOrderStatus orderId status, .insertOutboxEvent eventId event]
      before after) :
    after.db.orders = before.db.orders.update orderId (Database.setStatus before.clock status)
        (Database.setStatus_id before.clock status) ∧
      before.db.outbox.insert (Database.outboxRow platform before.clock eventId event) =
        some after.db.outbox := by
  rcases takes with ⟨db, committed, rfl⟩
  simp only [Database.commit, Database.apply, Option.bind_some, Option.bind_eq_some_iff,
    Option.map_eq_some_iff] at committed
  rcases committed with ⟨_, ⟨outbox, inserted, rfl⟩, same⟩
  cases same
  exact ⟨rfl, inserted⟩

end Orderly
