import Orderly.Ordering.Creation

/-!
# What order intake writes

A commit that takes effect adds one row to `orders`, the rows of all items and
one event, and an enqueue adds one job or none.  Every other call leaves the
tables and the queue as they are.
-/

namespace Orderly

open Process (System)

/-- The rows a transaction adds. -/
structure Adds (platform : Platform) (request : CreateOrderRequest) (order : Order) (before after : Backend) : Prop where
  unused : before.world.db.keyTaken order.idempotencyKey = false
  orders : after.world.db.orders.rows = before.world.db.orders.rows ++ [Database.orderRow order]
  items : after.items.rows = before.items.rows ++ order.items.map Database.itemRow
  events : ∃ eventId now, after.world.db.outbox.rows = before.world.db.outbox.rows ++
    [Database.outboxRow platform now eventId (OrderService.createdEvent request order)]

/-- The tables and the queue are as before. -/
structure SameTables (before after : Backend) : Prop where
  orders : after.world.db.orders.rows = before.world.db.orders.rows
  items : after.items.rows = before.items.rows
  events : after.world.db.outbox.rows = before.world.db.outbox.rows
  jobs : after.jobs = before.jobs

theorem SameTables.refl (backend : Backend) : SameTables backend backend := ⟨rfl, rfl, rfl, rfl⟩

theorem SameTables.trans {first second third : Backend} (one : SameTables first second)
    (two : SameTables second third) : SameTables first third :=
  ⟨two.orders.trans one.orders, two.items.trans one.items, two.events.trans one.events, two.jobs.trans one.jobs⟩

theorem SameTables.taken {before after : Backend} (same : SameTables before after) (key : Option String) :
    after.world.db.keyTaken key = before.world.db.keyTaken key := by
  unfold Database.keyTaken
  rw [same.orders]

/-- What is added to the same tables and followed by no change of the tables is added. -/
theorem Adds.between {platform : Platform} {request : CreateOrderRequest} {order : Order}
    {start before after state : Backend} (earlier : SameTables start before)
    (adds : Adds platform request order before after) (orders : state.world.db.orders.rows = after.world.db.orders.rows)
    (items : state.items.rows = after.items.rows) (events : state.world.db.outbox.rows = after.world.db.outbox.rows) :
    Adds platform request order start state where
  unused := (earlier.taken _).symm.trans adds.unused
  orders := by rw [orders, adds.orders, earlier.orders]
  items := by rw [items, adds.items, earlier.items]
  events := by
    rcases adds.events with ⟨eventId, now, added⟩
    exact ⟨eventId, now, by rw [events, added, earlier.events]⟩

section Statements

variable {platform : Platform} {before after : Backend}

theorem insert_rows {Row Key : Type} {key : Row → Key} [DecidableEq Key] {table added : Store.Table Row Key key}
    {row : Row} (inserted : table.insert row = some added) : added.rows = table.rows ++ [row] := by
  unfold Store.Table.insert at inserted
  split at inserted
  · cases inserted
  · cases inserted
    rfl

theorem insertOrder_spec {db added : Database} {row : OrderRow} (inserted : db.insertOrder row = .ok added) :
    db.keyTaken row.idempotencyKey = false ∧ added.orders.rows = db.orders.rows ++ [row] ∧ added.outbox = db.outbox := by
  unfold Database.insertOrder at inserted
  split at inserted
  · cases inserted
  · split at inserted
    · cases inserted
    · next free =>
        split at inserted
        · cases inserted
        · next orders fresh =>
            cases inserted
            exact ⟨Bool.eq_false_iff.mpr free, insert_rows fresh, rfl⟩

theorem insertItems_spec {rows : List OrderItemRow} (inserted : Backend.insertItems rows before = .ok after) :
    after.items.rows = before.items.rows ++ rows ∧ after.world = before.world ∧ after.jobs = before.jobs := by
  induction rows generalizing before with
  | nil =>
      cases inserted
      exact ⟨(List.append_nil _).symm, rfl, rfl⟩
  | cons row rows inductionHypothesis =>
      unfold Backend.insertItems at inserted
      split at inserted
      · cases inserted
      · split at inserted
        · cases inserted
        · split at inserted
          · cases inserted
          · next items fresh =>
              rcases inductionHypothesis inserted with ⟨added, world, jobs⟩
              refine ⟨?_, world, jobs⟩
              rw [added]
              change items.rows ++ rows = _
              rw [insert_rows fresh, List.append_assoc]
              rfl

/-- What no statement of a transaction touches. -/
structure Untouched (before after : Backend) : Prop where
  supply : after.world.nextUuid = before.world.nextUuid
  clock : after.world.clock = before.world.clock
  sagas : after.world.db.sagas = before.world.db.sagas
  jobs : after.jobs = before.jobs
  records : after.records = before.records
  counters : after.counters = before.counters

theorem Untouched.refl (backend : Backend) : Untouched backend backend := ⟨rfl, rfl, rfl, rfl, rfl, rfl⟩

theorem Untouched.trans {first second third : Backend} (one : Untouched first second)
    (two : Untouched second third) : Untouched first third where
  supply := two.supply.trans one.supply
  clock := two.clock.trans one.clock
  sagas := two.sagas.trans one.sagas
  jobs := two.jobs.trans one.jobs
  records := two.records.trans one.records
  counters := two.counters.trans one.counters

theorem insertItems_untouched {rows : List OrderItemRow} (inserted : Backend.insertItems rows before = .ok after) :
    Untouched before after := by
  induction rows generalizing before with
  | nil =>
      cases inserted
      exact .refl _
  | cons row rows inductionHypothesis =>
      unfold Backend.insertItems at inserted
      split at inserted
      · cases inserted
      · split at inserted
        · cases inserted
        · split at inserted
          · cases inserted
          · next items fresh =>
              have first : Untouched before { before with items } := ⟨rfl, rfl, rfl, rfl, rfl, rfl⟩
              exact first.trans (inductionHypothesis inserted)

theorem apply_untouched {statement : IntakeStatement} (applied : Backend.apply platform before statement = .ok after) :
    Untouched before after := by
  cases statement with
  | insertOrder order =>
      simp only [Backend.apply] at applied
      cases inserted : before.world.db.insertOrder (Database.orderRow order) with
      | error error =>
          rw [inserted] at applied
          cases applied
      | ok db =>
          rw [inserted] at applied
          cases applied
          refine ⟨rfl, rfl, ?_, rfl, rfl, rfl⟩
          change db.sagas = _
          unfold Database.insertOrder at inserted
          split at inserted
          · cases inserted
          · split at inserted
            · cases inserted
            · split at inserted
              · cases inserted
              · cases inserted
                rfl
  | insertItems items => exact insertItems_untouched applied
  | insertOutboxEvent id event =>
      simp only [Backend.apply] at applied
      split at applied
      · cases applied
      · cases applied
        exact ⟨rfl, rfl, rfl, rfl, rfl, rfl⟩

theorem commit_untouched {transaction : IntakeTransaction}
    (committed : Backend.commit platform before transaction = .ok after) : Untouched before after := by
  induction transaction generalizing before with
  | nil =>
      cases committed
      exact .refl _
  | cons statement rest inductionHypothesis =>
      unfold Backend.commit at committed
      cases applied : Backend.apply platform before statement with
      | error error =>
          rw [applied] at committed
          cases committed
      | ok middle =>
          rw [applied] at committed
          exact (apply_untouched applied).trans (inductionHypothesis committed)

/-- The transaction of an order that takes effect. -/
theorem commit_adds {request : CreateOrderRequest} {order : Order} {eventId : Uuid}
    (committed : Backend.commit platform before (orderTransaction request order eventId) = .ok after) :
    Adds platform request order before after ∧ after.jobs = before.jobs := by
  unfold orderTransaction at committed
  simp only [Backend.commit, Backend.apply] at committed
  cases first : before.world.db.insertOrder (Database.orderRow order) with
  | error error =>
      rw [first] at committed
      cases committed
  | ok db =>
      rw [first] at committed
      simp only [Except.map, Except.bind] at committed
      cases second : Backend.insertItems (order.items.map Database.itemRow) { before with world.db := db } with
      | error error =>
          rw [second] at committed
          cases committed
      | ok listed =>
          rw [second] at committed
          simp only at committed
          split at committed
          · cases committed
          · next written =>
              split at written
              · cases written
              · next outbox third =>
                  cases written
                  cases committed
                  rcases insertOrder_spec first with ⟨unused, orders, unchanged⟩
                  rcases insertItems_spec second with ⟨items, world, jobs⟩
                  refine ⟨?_, jobs⟩
                  constructor
                  · exact unused
                  · change listed.world.db.orders.rows = _
                    rw [world]
                    exact orders
                  · exact items
                  · refine ⟨eventId, listed.world.clock, ?_⟩
                    change outbox.rows = _
                    rw [insert_rows third, world]
                    change db.outbox.rows ++ _ = _
                    rw [unchanged]

end Statements

theorem addJob_tables (backend : Backend) (jobId : String) (data : SagaContext) :
    (backend.addJob jobId data).world.db.orders.rows = backend.world.db.orders.rows ∧
      (backend.addJob jobId data).items.rows = backend.items.rows ∧
        (backend.addJob jobId data).world.db.outbox.rows = backend.world.db.outbox.rows := by
  unfold Backend.addJob
  split
  · exact ⟨rfl, rfl, rfl⟩
  · exact ⟨rfl, rfl, rfl⟩

/-- What an answered call has done to the tables and the queue. -/
inductive IntakeEffect (platform : Platform) (event : IntakeEvent) : Prop where
  | committed (transaction : IntakeTransaction) (called : event.call = .commit transaction)
      (done : Backend.commit platform event.before transaction = .ok event.after)
  | queued (jobId : String) (data : SagaContext) (called : event.call = .addJob jobId data)
      (done : event.after = event.before.addJob jobId data)
  | aside (same : SameTables event.before event.after) (unconfirmed : confirms event = false)

section Events

variable {platform : Platform} {config : ApiConfig} {log : IntakeLog} {event : IntakeEvent}

/-- A commit takes effect, or it fails and leaves everything as it is. -/
theorem perform_commit (platform : Platform) (before : Backend) (transaction : IntakeTransaction) (choice : Choice) :
    Backend.commit platform before transaction = .ok (before.perform platform (.commit transaction) choice).2 ∨
      (before.perform platform (.commit transaction) choice).2 = before ∧
        ∃ error, (before.perform platform (.commit transaction) choice).1 = .error error := by
  have carried : ∀ choice,
      Backend.commit platform before transaction = .ok (before.effect platform (.commit transaction) choice).2 ∨
        (before.effect platform (.commit transaction) choice).2 = before ∧
          ∃ error, (before.effect platform (.commit transaction) choice).1 = .error error := by
    intro choice
    simp only [Backend.effect]
    split
    · next committed done => exact Or.inl done
    · next error failed => exact Or.inr ⟨rfl, error, rfl⟩
  cases choice with
  | reject error => exact Or.inr ⟨rfl, error, rfl⟩
  | lose error =>
      rcases carried .serve with done | ⟨same, _⟩
      · exact Or.inl done
      · exact Or.inr ⟨same, error, rfl⟩
  | serve => exact carried .serve
  | refuse => exact carried .refuse
  | answer result => exact carried (.answer result)

theorem perform_addJob (platform : Platform) (before : Backend) (jobId : String) (data : SagaContext) (choice : Choice) :
    (before.perform platform (.addJob jobId data) choice).2 = before.addJob jobId data ∨
      (before.perform platform (.addJob jobId data) choice).2 = before := by
  cases choice with
  | reject error => exact Or.inr rfl
  | _ => exact Or.inl rfl

/-- Any other call leaves the tables and the queue alone. -/
theorem perform_tables (before : Backend) {call : IntakeCall} (choice : Choice)
    (commit : ∀ transaction, call ≠ .commit transaction) (addJob : ∀ jobId data, call ≠ .addJob jobId data) :
    SameTables before (before.perform platform call choice).2 := by
  have carried : ∀ choice, SameTables before (before.effect platform call choice).2 := by
    intro choice
    cases call with
    | commit transaction => exact absurd rfl (commit transaction)
    | addJob jobId data => exact absurd rfl (addJob jobId data)
    | incr key => cases choice <;> exact ⟨rfl, rfl, rfl, rfl⟩
    | get key => cases choice <;> exact ⟨rfl, rfl, rfl, rfl⟩
    | _ => exact ⟨rfl, rfl, rfl, rfl⟩
  cases choice with
  | reject error =>
      simp only [Backend.perform]
      split
      · exact carried .serve
      · exact .refl before
  | lose error =>
      simp only [Backend.perform]
      split
      · exact carried .serve
      · exact carried .serve
  | serve => exact carried .serve
  | refuse => exact carried .refuse
  | answer result => exact carried (.answer result)

theorem intake_admits (admitted : (api platform config).Admits log event) : IntakeEffect platform event := by
  rcases event with ⟨call, reply, before, after⟩
  rcases System.admits_iff.mp admitted with ⟨choice, performed⟩
  rcases Prod.ext_iff.mp performed with ⟨replied, rfl⟩
  cases call with
  | commit transaction =>
      rcases perform_commit platform before transaction choice with done | ⟨same, error, failed⟩
      · exact .committed transaction rfl done
      · cases failed.symm.trans replied
        refine .aside ?_ rfl
        change SameTables before (before.perform platform (.commit transaction) choice).2
        rw [same]
        exact .refl before
  | addJob jobId data =>
      rcases perform_addJob platform before jobId data choice with done | same
      · exact .queued jobId data rfl done
      · refine .aside ?_ rfl
        change SameTables before (before.perform platform (.addJob jobId data) choice).2
        rw [same]
        exact .refl before
  | _ => exact .aside (perform_tables before choice nofun nofun) rfl

end Events

end Orderly
