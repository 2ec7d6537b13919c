import Orderly.Ordering.Observations

/-!
# Isolated clients

A client's own request is answered by what the client observes and by nothing
else.  Two runs of it, from backends that the client cannot tell apart, draw
other identifiers but agree in everything else, call by call.
-/

namespace Orderly

open Process (Program System)

/-! ## Identifiers -/

/-- The identifiers in the tables have been drawn. -/
structure Numbered (backend : Backend) : Prop where
  orders : ∀ id ∈ backend.world.db.orders.rows.map OrderRow.id, id < backend.world.nextUuid
  items : ∀ id ∈ backend.items.rows.map OrderItemRow.id, id < backend.world.nextUuid
  events : ∀ id ∈ backend.world.db.outbox.rows.map OutboxEvent.id, id < backend.world.nextUuid

/-- Different identifiers that have been drawn but are not in the tables. -/
structure Drafts (ids : List Uuid) (backend : Backend) : Prop where
  apart : ids.Nodup
  below : ∀ id ∈ ids, id < backend.world.nextUuid
  orders : ∀ id ∈ ids, id ∉ backend.world.db.orders.rows.map OrderRow.id
  items : ∀ id ∈ ids, id ∉ backend.items.rows.map OrderItemRow.id
  events : ∀ id ∈ ids, id ∉ backend.world.db.outbox.rows.map OutboxEvent.id

/-- The backend after a UUID has been drawn. -/
def Backend.drawn (backend : Backend) : Backend := { backend with world.nextUuid := backend.world.nextUuid + 1 }

/-- The backend after the date has been read. -/
def Backend.ticked (backend : Backend) : Backend := { backend with world.clock := backend.world.clock + 1 }

section Identifiers

variable {backend : Backend} {ids : List Uuid}

theorem Drafts.nil (backend : Backend) : Drafts [] backend := by
  constructor
  · exact List.nodup_nil
  all_goals
    intro id member
    cases member

theorem Drafts.perm {others : List Uuid} (drafts : Drafts ids backend) (same : ids.Perm others) :
    Drafts others backend where
  apart := same.nodup_iff.mp drafts.apart
  below id member := drafts.below id (same.mem_iff.mpr member)
  orders id member := drafts.orders id (same.mem_iff.mpr member)
  items id member := drafts.items id (same.mem_iff.mpr member)
  events id member := drafts.events id (same.mem_iff.mpr member)

theorem Numbered.drawn (numbered : Numbered backend) : Numbered backend.drawn where
  orders id member := Nat.lt_succ_of_lt (numbered.orders id member)
  items id member := Nat.lt_succ_of_lt (numbered.items id member)
  events id member := Nat.lt_succ_of_lt (numbered.events id member)

theorem Numbered.ticked (numbered : Numbered backend) : Numbered backend.ticked :=
  ⟨numbered.orders, numbered.items, numbered.events⟩

theorem Drafts.ticked (drafts : Drafts ids backend) : Drafts ids backend.ticked :=
  ⟨drafts.apart, drafts.below, drafts.orders, drafts.items, drafts.events⟩

theorem Drafts.drawn (drafts : Drafts ids backend) (numbered : Numbered backend) :
    Drafts (backend.world.nextUuid :: ids) backend.drawn where
  apart := List.nodup_cons.mpr ⟨fun member => absurd (drafts.below _ member) (Nat.lt_irrefl _), drafts.apart⟩
  below id member := by
    rcases List.mem_cons.mp member with rfl | earlier
    · exact Nat.lt_succ_self _
    · exact Nat.lt_succ_of_lt (drafts.below id earlier)
  orders id member := by
    rcases List.mem_cons.mp member with rfl | earlier
    · exact fun used => absurd (numbered.orders _ used) (Nat.lt_irrefl _)
    · exact drafts.orders id earlier
  items id member := by
    rcases List.mem_cons.mp member with rfl | earlier
    · exact fun used => absurd (numbered.items _ used) (Nat.lt_irrefl _)
    · exact drafts.items id earlier
  events id member := by
    rcases List.mem_cons.mp member with rfl | earlier
    · exact fun used => absurd (numbered.events _ used) (Nat.lt_irrefl _)
    · exact drafts.events id earlier

end Identifiers

/-! ## Orders up to ids -/

/-- The order without what is generated. -/
def Order.blank (order : Order) : Order :=
  { order with id := 0, items := order.items.map OrderItem.blank, createdAt := 0, updatedAt := 0 }

theorem createOrderItem_blank (id orderId : Uuid) (sku : String) (quantity : JsNumber) (unitPrice currency : String) :
    (createOrderItem id orderId sku quantity unitPrice currency).map OrderItem.blank =
      createOrderItem 0 0 sku quantity unitPrice currency := by
  unfold createOrderItem
  split
  · cases SKU.new sku with
    | error error => rfl
    | ok stockKeepingUnit =>
        cases Money.new unitPrice currency with
        | error error => rfl
        | ok price => rfl
  · rfl

theorem orderTotal_blank (items : List OrderItem) (currency : String) :
    orderTotal (items.map OrderItem.blank) currency = orderTotal items currency := by
  unfold orderTotal
  congr 1
  funext zero
  rw [List.foldlM_map]
  rfl

/-- The order is created from the items without what is generated. -/
theorem createOrder_blank (id : Uuid) (customerId : String) (items : List OrderItem) (currency : String)
    (idempotencyKey : Option String) (createdAt updatedAt : Date) :
    (createOrder id customerId items currency idempotencyKey createdAt updatedAt).map Order.blank =
      createOrder 0 customerId (items.map OrderItem.blank) currency idempotencyKey 0 0 := by
  unfold createOrder
  rw [orderTotal_blank]
  by_cases none : items = []
  · subst none
    rfl
  · rw [if_neg none, if_neg (by simpa using none)]
    cases orderTotal items currency with
    | error error => rfl
    | ok total => rfl

theorem orderResponse_blank (order : Order) : (orderResponse order).blank = orderResponse order.blank := by
  unfold OrderResponse.blank orderResponse Order.blank
  simp only [List.map_map]
  rfl

/-! ## The transaction -/

/-- Why the transaction of an order fails, its identifiers being new. -/
def objection (taken : Bool) (order : Order) : Option JsError :=
  if !Database.orderFits (Database.orderRow order) then some (Database.orderComplaint (Database.orderRow order))
  else if taken then some idempotencyKeyViolation
  else if (order.items.map Database.itemRow).all Database.itemFits then none
  else some (Database.itemsComplaint (order.items.map Database.itemRow))

theorem objection_blank (taken : Bool) (order : Order) : objection taken order.blank = objection taken order := by
  have items : (order.blank.items.map Database.itemRow).all Database.itemFits =
      (order.items.map Database.itemRow).all Database.itemFits := by
    unfold Order.blank
    rw [List.map_map, List.all_map, List.all_map]
    rfl
  have complaint : Database.itemsComplaint (order.blank.items.map Database.itemRow) =
      Database.itemsComplaint (order.items.map Database.itemRow) := by
    unfold Order.blank Database.itemsComplaint
    rw [List.map_map, List.findSome?_map, List.findSome?_map, List.findSome?_map, List.findSome?_map]
    rfl
  unfold objection
  rw [items, complaint]
  rfl

theorem insert_new {Row Key : Type} {key : Row → Key} [DecidableEq Key] {table : Store.Table Row Key key} {row : Row}
    (fresh : key row ∉ table.rows.map key) : ∃ added, table.insert row = some added := by
  unfold Store.Table.insert
  rw [dif_neg fresh]
  exact ⟨_, rfl⟩

/-- Rows with new ids and a known order are inserted if they fit. -/
theorem insertItems_new {rows : List OrderItemRow} {backend : Backend}
    (known : ∀ row ∈ rows, (backend.world.db.orders.lookup row.orderId).isSome = true)
    (fresh : (backend.items.rows.map OrderItemRow.id ++ rows.map OrderItemRow.id).Nodup) :
    if rows.all Database.itemFits then ∃ after, Backend.insertItems rows backend = .ok after
    else Backend.insertItems rows backend = .error (Database.itemsComplaint rows) := by
  induction rows generalizing backend with
  | nil => exact ⟨backend, rfl⟩
  | cons row rows inductionHypothesis =>
      unfold Backend.insertItems
      cases fits : Database.itemFits row with
      | false => simp [fits]
      | true =>
          have present := known row List.mem_cons_self
          have new : row.id ∉ backend.items.rows.map OrderItemRow.id := by
            intro used
            exact List.disjoint_of_nodup_append fresh used List.mem_cons_self
          rcases insert_new new with ⟨items, inserted⟩
          have fresh' : (items.rows.map OrderItemRow.id ++ rows.map OrderItemRow.id).Nodup := by
            rw [insert_rows inserted, List.map_append, List.append_assoc]
            exact fresh
          have known' : ∀ other ∈ rows, (backend.world.db.orders.lookup other.orderId).isSome = true :=
            fun other member => known other (List.mem_cons_of_mem _ member)
          have rest : if rows.all Database.itemFits then
              ∃ after, Backend.insertItems rows { backend with items } = .ok after
            else Backend.insertItems rows { backend with items } = .error (Database.itemsComplaint rows) :=
            inductionHypothesis known' fresh'
          have found : (backend.world.db.orders.lookup row.orderId).isNone = false := by
            rw [← Option.not_isSome, present]
            rfl
          simp only [fits, found, inserted, Bool.not_true, Bool.false_eq_true, if_false, List.all_cons, Bool.true_and,
            Database.itemsComplaint_cons fits]
          exact rest

/-- A row with a new id is inserted if it fits and its key is free. -/
theorem insertOrder_new {db : Database} {row : OrderRow} (fresh : row.id ∉ db.orders.rows.map OrderRow.id) :
    if !Database.orderFits row then db.insertOrder row = .error (Database.orderComplaint row)
    else if db.keyTaken row.idempotencyKey then db.insertOrder row = .error idempotencyKeyViolation
    else ∃ added, db.insertOrder row = .ok added := by
  unfold Database.insertOrder
  split
  · rfl
  · split
    · rfl
    · split
      · next full =>
          rcases insert_new fresh with ⟨orders, inserted⟩
          cases full.symm.trans inserted
      · exact ⟨_, rfl⟩

/-- The transaction of an order with new identifiers succeeds unless something objects to it. -/
theorem commit_objection {platform : Platform} {request : CreateOrderRequest} {order : Order} {eventId : Uuid}
    {backend : Backend} (belongs : ∀ item ∈ order.items, item.orderId = order.id)
    (drafts : Drafts (eventId :: (order.items.map OrderItem.id ++ [order.id])) backend) :
    match objection (backend.world.db.keyTaken order.idempotencyKey) order with
    | some error => Backend.commit platform backend (orderTransaction request order eventId) = .error error
    | none => ∃ after, Backend.commit platform backend (orderTransaction request order eventId) = .ok after := by
  have first := @insertOrder_new backend.world.db (Database.orderRow order) (drafts.orders order.id (by simp))
  have key : (Database.orderRow order).idempotencyKey = order.idempotencyKey := rfl
  rw [key] at first
  unfold objection orderTransaction
  simp only [Backend.commit, Backend.apply]
  cases fits : Database.orderFits (Database.orderRow order) with
  | false =>
      simp only [fits, Bool.not_false, if_true] at first ⊢
      rw [first]
      rfl
  | true =>
      cases taken : backend.world.db.keyTaken order.idempotencyKey with
      | true =>
          simp only [fits, taken, Bool.not_true, Bool.false_eq_true, if_false, if_true] at first ⊢
          rw [first]
          rfl
      | false =>
          simp only [fits, taken, Bool.not_true, Bool.false_eq_true, if_false] at first ⊢
          rcases first with ⟨added, inserted⟩
          rcases insertOrder_spec inserted with ⟨_, orders, outbox⟩
          have known : ∀ row ∈ order.items.map Database.itemRow, (added.orders.lookup row.orderId).isSome = true := by
            intro row member
            rcases List.mem_map.mp member with ⟨item, listed, rfl⟩
            have present : Database.orderRow order ∈ added.orders.rows := by
              rw [orders]
              exact List.mem_append_right _ (List.mem_singleton_self _)
            have found := Store.Table.lookup_of_mem present
            change (added.orders.lookup item.orderId).isSome = true
            rw [belongs item listed]
            exact Option.isSome_of_eq_some found
          have fresh : (backend.items.rows.map OrderItemRow.id ++
              (order.items.map Database.itemRow).map OrderItemRow.id).Nodup := by
            rw [List.map_map]
            change (_ ++ order.items.map OrderItem.id).Nodup
            have apart := (List.nodup_cons.mp drafts.apart).2
            refine List.nodup_append.mpr ⟨backend.items.unique, (List.nodup_append.mp apart).1, ?_⟩
            rintro used listed new drawn rfl
            exact drafts.items used (List.mem_cons_of_mem _ (List.mem_append_left _ drawn)) listed
          have second : if (order.items.map Database.itemRow).all Database.itemFits then
              ∃ after, Backend.insertItems (order.items.map Database.itemRow)
                { backend with world.db := added } = .ok after
            else Backend.insertItems (order.items.map Database.itemRow) { backend with world.db := added } =
              .error (Database.itemsComplaint (order.items.map Database.itemRow)) := insertItems_new known fresh
          rw [inserted]
          simp only [Except.map, Except.bind]
          cases all : (order.items.map Database.itemRow).all Database.itemFits with
          | false =>
              simp only [all, Bool.false_eq_true, if_false] at second ⊢
              rw [second]
          | true =>
              simp only [all, if_true] at second ⊢
              rcases second with ⟨listed, written⟩
              have same : listed.world.db.outbox = backend.world.db.outbox := by
                rw [(insertItems_spec written).2.1]
                exact outbox
              have fresh : eventId ∉ listed.world.db.outbox.rows.map OutboxEvent.id := by
                rw [same]
                exact drafts.events eventId List.mem_cons_self
              have third : ∃ events, listed.world.db.outbox.insert (Database.outboxRow platform listed.world.clock
                  eventId (OrderService.createdEvent request order)) = some events := insert_new fresh
              rcases third with ⟨events, announced⟩
              rw [written]
              simp only [announced]
              exact ⟨_, rfl⟩

/-- The identifiers a statement writes. -/
def IntakeStatement.ids : IntakeStatement → List Uuid
  | .insertOrder order => [order.id]
  | .insertItems items => items.map OrderItem.id
  | .insertOutboxEvent id _ => [id]

theorem apply_numbered {platform : Platform} {backend after : Backend} {statement : IntakeStatement}
    (numbered : Numbered backend) (drawn : ∀ id ∈ statement.ids, id < backend.world.nextUuid)
    (applied : Backend.apply platform backend statement = .ok after) : Numbered after := by
  cases statement with
  | insertOrder order =>
      simp only [Backend.apply] at applied
      cases inserted : backend.world.db.insertOrder (Database.orderRow order) with
      | error error =>
          rw [inserted] at applied
          cases applied
      | ok added =>
          rw [inserted] at applied
          cases applied
          rcases insertOrder_spec inserted with ⟨_, orders, outbox⟩
          constructor
          · intro id member
            change id ∈ added.orders.rows.map OrderRow.id at member
            rw [orders, List.map_append] at member
            rcases List.mem_append.mp member with earlier | new
            · exact numbered.orders id earlier
            · exact drawn id new
          · exact numbered.items
          · intro id member
            change id ∈ added.outbox.rows.map OutboxEvent.id at member
            rw [outbox] at member
            exact numbered.events id member
  | insertItems items =>
      rcases insertItems_spec applied with ⟨rows, world, _⟩
      constructor
      · intro id member
        rw [world] at member ⊢
        exact numbered.orders id member
      · intro id member
        rw [rows, List.map_append, List.map_map] at member
        rw [world]
        rcases List.mem_append.mp member with earlier | new
        · exact numbered.items id earlier
        · exact drawn id new
      · intro id member
        rw [world] at member ⊢
        exact numbered.events id member
  | insertOutboxEvent eventId event =>
      simp only [Backend.apply] at applied
      split at applied
      · cases applied
      · next outbox inserted =>
          cases applied
          refine ⟨numbered.orders, numbered.items, ?_⟩
          intro id member
          change id ∈ outbox.rows.map OutboxEvent.id at member
          rw [insert_rows inserted, List.map_append] at member
          rcases List.mem_append.mp member with earlier | new
          · exact numbered.events id earlier
          · exact drawn id new

theorem commit_numbered {platform : Platform} {backend after : Backend} {transaction : IntakeTransaction}
    (numbered : Numbered backend) (drawn : ∀ statement ∈ transaction, ∀ id ∈ statement.ids, id < backend.world.nextUuid)
    (committed : Backend.commit platform backend transaction = .ok after) : Numbered after := by
  induction transaction generalizing backend with
  | nil =>
      cases committed
      exact numbered
  | cons statement rest inductionHypothesis =>
      unfold Backend.commit at committed
      cases applied : Backend.apply platform backend statement with
      | error error =>
          rw [applied] at committed
          cases committed
      | ok middle =>
          rw [applied] at committed
          have next := apply_numbered numbered (drawn statement List.mem_cons_self) applied
          apply inductionHypothesis next ?_ committed
          intro other member id written
          rw [(apply_untouched applied).supply]
          exact drawn other (List.mem_cons_of_mem _ member) id written

/-! ## The client's own requests -/

/-- Two backends in which a client's request has got as far, with the identifiers it has drawn. -/
structure Steady (client : String) (keys : String → Prop) (ids ids' : List Uuid) (backend other : Backend) : Prop where
  alike : Alike client keys backend other
  clock : backend.world.clock = other.world.clock
  numbered : Numbered backend
  numbered' : Numbered other
  drafts : Drafts ids backend
  drafts' : Drafts ids' other

section Own

variable {platform : Platform} {config : ApiConfig} {client : String} {keys : String → Prop} {ids ids' : List Uuid}
  {backend other : Backend}

theorem Steady.settled (steady : Steady client keys ids ids' backend other) : Steady client keys [] [] backend other :=
  ⟨steady.alike, steady.clock, steady.numbered, steady.numbered', .nil _, .nil _⟩

theorem Steady.drawn (steady : Steady client keys ids ids' backend other) :
    Steady client keys (backend.world.nextUuid :: ids) (other.world.nextUuid :: ids') backend.drawn other.drawn where
  alike := ⟨steady.alike.taken, steady.alike.records, steady.alike.counters⟩
  clock := steady.clock
  numbered := steady.numbered.drawn
  numbered' := steady.numbered'.drawn
  drafts := steady.drafts.drawn steady.numbered
  drafts' := steady.drafts'.drawn steady.numbered'

theorem Steady.ticked (steady : Steady client keys ids ids' backend other) :
    Steady client keys ids ids' backend.ticked other.ticked where
  alike := ⟨steady.alike.taken, steady.alike.records, steady.alike.counters⟩
  clock := congrArg Nat.succ steady.clock
  numbered := steady.numbered.ticked
  numbered' := steady.numbered'.ticked
  drafts := steady.drafts.ticked
  drafts' := steady.drafts'.ticked

theorem Steady.perm {others others' : List Uuid} (steady : Steady client keys ids ids' backend other)
    (same : ids.Perm others) (same' : ids'.Perm others') : Steady client keys others others' backend other where
  alike := steady.alike
  clock := steady.clock
  numbered := steady.numbered
  numbered' := steady.numbered'
  drafts := steady.drafts.perm same
  drafts' := steady.drafts'.perm same'

section Calls

variable {α β : Type} {Returns : α → β → Backend → Backend → Prop} {Throws : JsError → JsError → Backend → Backend → Prop}

theorem newDate_couples {next : Date → Intake α} {next' : Date → Intake β}
    (onwards : (api platform config).Couples .serve Returns Throws (next backend.world.clock)
      (next' other.world.clock) backend.ticked other.ticked) :
    (api platform config).Couples .serve Returns Throws (Intake.newDate >>= next) (Intake.newDate >>= next')
      backend other := onwards

theorem incr_couples {key key' : String} {next : Nat → Intake α} {next' : Nat → Intake β}
    (onwards : (api platform config).Couples .serve Returns Throws (next (backend.counter key + 1))
      (next' (other.counter key' + 1)) (backend.setCounter key (backend.counter key + 1))
      (other.setCounter key' (other.counter key' + 1))) :
    (api platform config).Couples .serve Returns Throws (Intake.incr key >>= next) (Intake.incr key' >>= next')
      backend other := onwards

end Calls

/-- Errors do not depend on the identifiers either. -/
def SameError (client : String) (keys : String → Prop) (error error' : JsError) (backend other : Backend) : Prop :=
  error = error' ∧ Steady client keys [] [] backend other

theorem createItems_couples {lines : List OrderLine} {currency : String} {orderId orderId' : Uuid}
    (steady : Steady client keys ids ids' backend other) :
    (api platform config).Couples .serve
      (fun items items' backend other => items.map OrderItem.blank = items'.map OrderItem.blank ∧
        (∀ item ∈ items, item.orderId = orderId) ∧ (∀ item ∈ items', item.orderId = orderId') ∧
          Steady client keys (items.map OrderItem.id ++ ids) (items'.map OrderItem.id ++ ids') backend other)
      (SameError client keys) (OrderService.createItems orderId currency lines)
      (OrderService.createItems orderId' currency lines) backend other := by
  induction lines generalizing ids ids' backend other with
  | nil => exact ⟨rfl, nofun, nofun, steady⟩
  | cons line lines inductionHypothesis =>
      unfold OrderService.createItems
      apply System.Couples.await
      change (api platform config).Couples _ _ _
        (liftM (createOrderItem backend.world.nextUuid orderId line.sku line.quantity line.unitPrice currency) >>= _)
        (liftM (createOrderItem other.world.nextUuid orderId' line.sku line.quantity line.unitPrice currency) >>= _)
        backend.drawn other.drawn
      have same := (createOrderItem_blank backend.world.nextUuid orderId line.sku line.quantity line.unitPrice
        currency).trans (createOrderItem_blank other.world.nextUuid orderId' line.sku line.quantity line.unitPrice
          currency).symm
      cases made : createOrderItem backend.world.nextUuid orderId line.sku line.quantity line.unitPrice currency with
      | error error =>
          cases made' : createOrderItem other.world.nextUuid orderId' line.sku line.quantity line.unitPrice currency with
          | error error' =>
              rw [made, made'] at same
              exact ⟨Except.error.inj same, steady.drawn.settled⟩
          | ok item' =>
              rw [made, made'] at same
              cases same
      | ok item =>
          cases made' : createOrderItem other.world.nextUuid orderId' line.sku line.quantity line.unitPrice currency with
          | error error' =>
              rw [made, made'] at same
              cases same
          | ok item' =>
              rw [made, made'] at same
              have blank : item.blank = item'.blank := Except.ok.inj same
              rcases createOrderItem_spec made with ⟨named, belongs, _⟩
              rcases createOrderItem_spec made' with ⟨named', belongs', _⟩
              have drawn := steady.drawn
              rw [← named, ← named'] at drawn
              apply System.Couples.bind (inductionHypothesis drawn)
              rintro items items' backend other ⟨blanks, all, all', steady⟩
              refine ⟨?_, ?_, ?_, ?_⟩
              · rw [List.map_cons, List.map_cons, blank, blanks]
              · intro each member
                rcases List.mem_cons.mp member with rfl | later
                · exact belongs
                · exact all each later
              · intro each member
                rcases List.mem_cons.mp member with rfl | later
                · exact belongs'
                · exact all' each later
              · exact steady.perm List.perm_middle List.perm_middle

/-- The transaction of an order writes the identifiers drawn for it. -/
theorem ids_drawn {request : CreateOrderRequest} {order : Order} {eventId : Uuid}
    (drafts : Drafts (eventId :: (order.items.map OrderItem.id ++ [order.id])) backend) :
    ∀ statement ∈ orderTransaction request order eventId, ∀ id ∈ statement.ids, id < backend.world.nextUuid := by
  intro statement member id written
  apply drafts.below
  unfold orderTransaction at member
  simp only [List.mem_cons, List.not_mem_nil, or_false] at member
  rcases member with rfl | rfl | rfl
  · exact List.mem_cons_of_mem _ (List.mem_append_right _ written)
  · exact List.mem_cons_of_mem _ (List.mem_append_left _ written)
  · rw [List.mem_singleton.mp written]
    exact List.mem_cons_self

/-- Committing the order: it fails for the same reason, or both orders are written. -/
theorem commit_couples {order order' : Order} {eventId eventId' : Uuid} {request : CreateOrderRequest}
    (same : order.blank = order'.blank) (belongs : ∀ item ∈ order.items, item.orderId = order.id)
    (belongs' : ∀ item ∈ order'.items, item.orderId = order'.id)
    (mine : ∀ key, order.idempotencyKey = some key → keys key)
    (steady : Steady client keys (eventId :: (order.items.map OrderItem.id ++ [order.id]))
      (eventId' :: (order'.items.map OrderItem.id ++ [order'.id])) backend other) :
    (api platform config).Couples .serve (fun _ _ => Steady client keys [] []) (SameError client keys)
      (Program.call (S := intake) (.commit (orderTransaction request order eventId)))
      (Program.call (S := intake) (.commit (orderTransaction request order' eventId'))) backend other := by
  have key : order.idempotencyKey = order'.idempotencyKey := by
    change order.blank.idempotencyKey = order'.blank.idempotencyKey
    rw [same]
  have taken : backend.world.db.keyTaken order.idempotencyKey = other.world.db.keyTaken order'.idempotencyKey := by
    rw [← key]
    cases given : order.idempotencyKey with
    | none => rfl
    | some key => exact steady.alike.taken key (mine key given)
  have verdict := @commit_objection platform request order eventId backend belongs steady.drafts
  have verdict' := @commit_objection platform request order' eventId' other belongs' steady.drafts'
  rw [taken, ← objection_blank, same, objection_blank] at verdict
  apply System.Couples.await
  simp only [api, Backend.perform, Backend.effect]
  cases objects : objection (other.world.db.keyTaken order'.idempotencyKey) order' with
  | some error =>
      rw [objects] at verdict verdict'
      simp only at verdict verdict'
      rw [verdict, verdict']
      exact ⟨rfl, steady.settled⟩
  | none =>
      rw [objects] at verdict verdict'
      rcases verdict with ⟨after, committed⟩
      rcases verdict' with ⟨after', committed'⟩
      rw [committed, committed']
      have untouched := commit_untouched committed
      have untouched' := commit_untouched committed'
      refine ⟨⟨?_, ?_, ?_⟩, ?_, ?_, ?_, .nil _, .nil _⟩
      · intro own mine
        have earlier := steady.alike.taken own mine
        unfold Database.keyTaken at earlier ⊢
        rw [(commit_adds committed).1.orders, (commit_adds committed').1.orders, List.any_append, List.any_append,
          Bool.and_or_distrib_left, Bool.and_or_distrib_left, earlier]
        congr 2
        change (decide (order.idempotencyKey = some own) || false) = (decide (order'.idempotencyKey = some own) || false)
        rw [key]
      · intro own mine
        have earlier := steady.alike.records own mine
        unfold recordsUnder at earlier ⊢
        rw [untouched.records, untouched'.records]
        exact earlier
      · intro windowStart
        have earlier := steady.alike.counters windowStart
        unfold Backend.counter at earlier ⊢
        rw [untouched.counters, untouched'.counters]
        exact earlier
      · rw [untouched.clock, untouched'.clock]
        exact steady.clock
      · exact commit_numbered steady.numbered (ids_drawn steady.drafts) committed
      · exact commit_numbered steady.numbered' (ids_drawn steady.drafts') committed'

theorem writeOrder_couples {order order' : Order} {request : CreateOrderRequest} (same : order.blank = order'.blank)
    (nonempty : 0 < order.items.length) (belongs : ∀ item ∈ order.items, item.orderId = order.id)
    (belongs' : ∀ item ∈ order'.items, item.orderId = order'.id)
    (mine : ∀ key, order.idempotencyKey = some key → keys key)
    (steady : Steady client keys (order.items.map OrderItem.id ++ [order.id])
      (order'.items.map OrderItem.id ++ [order'.id]) backend other) :
    (api platform config).Couples .serve (fun _ _ => Steady client keys [] []) (SameError client keys)
      (OrderService.writeOrder request order) (OrderService.writeOrder request order') backend other := by
  have lengths : order.items.length = order'.items.length := by
    have blanks : order.items.map OrderItem.blank = order'.items.map OrderItem.blank := congrArg Order.items same
    simpa using congrArg List.length blanks
  have nonempty' : 0 < order'.items.length := lengths ▸ nonempty
  unfold OrderService.writeOrder Intake.TransactionManager.begin Intake.OrderRepository.createWithSql
  apply System.Couples.await
  rw [if_pos nonempty, if_pos nonempty']
  apply System.Couples.await
  apply System.Couples.await
  apply System.Couples.await
  exact commit_couples same belongs belongs' mine steady.drawn

/-- A job that is added, or not, stays out of the client's sight. -/
theorem addJob_unseen (backend : Backend) (jobId : String) (data : SagaContext) :
    Alike client keys backend (backend.addJob jobId data) ∧
      (backend.addJob jobId data).world = backend.world ∧ (Numbered backend → Numbered (backend.addJob jobId data)) := by
  unfold Backend.addJob
  split
  · exact ⟨.refl backend, rfl, id⟩
  · exact ⟨.of_same rfl rfl rfl, rfl, fun numbered => ⟨numbered.orders, numbered.items, numbered.events⟩⟩

theorem enqueue_couples {context context' : SagaContext} (steady : Steady client keys [] [] backend other) :
    (api platform config).Couples .serve (fun _ _ => Steady client keys [] []) (SameError client keys)
      (tryCatch (Intake.SagaEnqueuer.enqueue context) fun _ => do return toString (← Intake.uuidv4))
      (tryCatch (Intake.SagaEnqueuer.enqueue context') fun _ => do return toString (← Intake.uuidv4))
      backend other := by
  have added : (api platform config).Couples .serve (fun _ _ => Steady client keys [] []) (fun _ _ _ _ => False)
      (Intake.SagaEnqueuer.enqueue context) (Intake.SagaEnqueuer.enqueue context') backend other := by
    apply System.Couples.await
    rcases @addJob_unseen client keys backend (Intake.SagaEnqueuer.jobId context.orderId) context with
      ⟨alike, world, numbered⟩
    rcases @addJob_unseen client keys other (Intake.SagaEnqueuer.jobId context'.orderId) context' with
      ⟨alike', world', numbered'⟩
    refine ⟨(alike.symm.trans steady.alike).trans alike', ?_, numbered steady.numbered, numbered' steady.numbered',
      .nil _, .nil _⟩
    change (backend.addJob _ context).world.clock = (other.addJob _ context').world.clock
    rw [world, world']
    exact steady.clock
  apply System.Couples.tryCatch added
  intro error error' backend other impossible
  exact impossible.elim

/-- Creating an order, twice. -/
theorem createOrder_couples {request : CreateOrderRequest} (mine : ∀ key, request.idempotencyKey = some key → keys key)
    (steady : Steady client keys [] [] backend other) :
    (api platform config).Couples .serve
      (fun result result' backend other => result.order.blank = result'.order.blank ∧
        Steady client keys [] [] backend other) (SameError client keys)
      (OrderService.createOrder request) (OrderService.createOrder request) backend other := by
  unfold OrderService.createOrder
  apply System.Couples.await
  have drawn := steady.drawn
  apply System.Couples.bind (createItems_couples drawn)
  rintro items items' backend' other' ⟨blanks, belongs, belongs', steady⟩
  apply System.Couples.await
  apply System.Couples.await
  have dated := steady.ticked.ticked
  change (api platform config).Couples _ _ _
    (liftM (Orderly.createOrder backend.world.nextUuid request.customerId items request.currency request.idempotencyKey
      backend'.world.clock backend'.ticked.world.clock) >>= _)
    (liftM (Orderly.createOrder other.world.nextUuid request.customerId items' request.currency request.idempotencyKey
      other'.world.clock other'.ticked.world.clock) >>= _) backend'.ticked.ticked other'.ticked.ticked
  have same := (createOrder_blank backend.world.nextUuid request.customerId items request.currency
    request.idempotencyKey backend'.world.clock backend'.ticked.world.clock).trans ((congrArg (fun items =>
      Orderly.createOrder 0 request.customerId items request.currency request.idempotencyKey 0 0) blanks).trans
        (createOrder_blank other.world.nextUuid request.customerId items' request.currency request.idempotencyKey
          other'.world.clock other'.ticked.world.clock).symm)
  cases made : Orderly.createOrder backend.world.nextUuid request.customerId items request.currency
      request.idempotencyKey backend'.world.clock backend'.ticked.world.clock with
  | error error =>
      cases made' : Orderly.createOrder other.world.nextUuid request.customerId items' request.currency
          request.idempotencyKey other'.world.clock other'.ticked.world.clock with
      | error error' =>
          rw [made, made'] at same
          exact ⟨Except.error.inj same, dated.settled⟩
      | ok order' =>
          rw [made, made'] at same
          cases same
  | ok order =>
      cases made' : Orderly.createOrder other.world.nextUuid request.customerId items' request.currency
          request.idempotencyKey other'.world.clock other'.ticked.world.clock with
      | error error' =>
          rw [made, made'] at same
          cases same
      | ok order' =>
          rw [made, made'] at same
          have blank : order.blank = order'.blank := Except.ok.inj same
          have nonempty : 0 < items.length := by
            unfold Orderly.createOrder at made
            split at made
            · cases made
            · next some => exact List.length_pos_iff.mpr some
          rcases createOrder_spec made with ⟨total, _, rfl⟩
          rcases createOrder_spec made' with ⟨total', _, rfl⟩
          apply System.Couples.bind (writeOrder_couples blank nonempty belongs belongs' mine dated)
          intro _ _ backend other settled
          apply System.Couples.bind (enqueue_couples settled)
          intro _ _ backend other settled
          exact ⟨blank, settled⟩

theorem Steady.setRecord {key : String} {record record' : IdempotencyRecord} {ttlSeconds : Nat}
    (steady : Steady client keys [] [] backend other) (same : record.blank = record'.blank) :
    Steady client keys [] [] (backend.setRecord key record ttlSeconds) (other.setRecord key record' ttlSeconds) where
  alike := by
    refine ⟨steady.alike.taken, fun own mine => ?_, steady.alike.counters⟩
    rw [recordsUnder_set, recordsUnder_set, same, steady.clock, steady.alike.records own mine]
  clock := steady.clock
  numbered := ⟨steady.numbered.orders, steady.numbered.items, steady.numbered.events⟩
  numbered' := ⟨steady.numbered'.orders, steady.numbered'.items, steady.numbered'.events⟩
  drafts := .nil _
  drafts' := .nil _

theorem Steady.setCounter {key : String} {count : Nat} (steady : Steady client keys [] [] backend other) :
    Steady client keys [] [] (backend.setCounter key count) (other.setCounter key count) where
  alike := by
    refine ⟨steady.alike.taken, steady.alike.records, fun windowStart => ?_⟩
    rw [counter_set, counter_set, steady.alike.counters windowStart]
  clock := steady.clock
  numbered := ⟨steady.numbered.orders, steady.numbered.items, steady.numbered.events⟩
  numbered' := ⟨steady.numbered'.orders, steady.numbered'.items, steady.numbered'.events⟩
  drafts := .nil _
  drafts' := .nil _

/-- Answers that agree in all but what is generated. -/
def SameAnswer (client : String) (keys : String → Prop) (response response' : ApiResponse) (backend other : Backend) :
    Prop :=
  response.blank = response'.blank ∧ Steady client keys [] [] backend other

theorem createOrderHandler_couples {post : PostOrder} {body : Json}
    (mine : ∀ key, post.idempotencyKey = some key → keys key) (steady : Steady client keys [] [] backend other) :
    (api platform config).Couples .serve (SameAnswer client keys) (SameError client keys)
      (createOrderHandler post body) (createOrderHandler post body) backend other := by
  unfold createOrderHandler
  split
  · exact ⟨rfl, steady⟩
  · next parsed _ =>
      apply System.Couples.bind (createOrder_couples mine steady)
      rintro result result' backend other ⟨same, steady⟩
      refine ⟨?_, steady⟩
      change ({ status := 201, body := .order (orderResponse result.order).blank } : ApiResponse) =
        { status := 201, body := .order (orderResponse result'.order).blank }
      rw [orderResponse_blank, orderResponse_blank, same]

theorem set_couples {clientId key : String} {record record' : IdempotencyRecord} (same : record.blank = record'.blank)
    (steady : Steady client keys [] [] backend other) :
    (api platform config).Couples .serve (fun _ _ => Steady client keys [] []) (fun _ _ _ _ => False)
      (IdempotencyStore.set config clientId key record) (IdempotencyStore.set config clientId key record')
      backend other := by
  have sent : (api platform config).Couples .serve (fun _ _ => Steady client keys [] []) (fun _ _ _ _ => False)
      (Intake.set (IdempotencyStore.key clientId key) record config.idempotencyTtlSeconds)
      (Intake.set (IdempotencyStore.key clientId key) record' config.idempotencyTtlSeconds) backend other := by
    apply System.Couples.await
    exact steady.setRecord same
  apply System.Couples.tryCatch sent
  intro error error' backend other impossible
  exact impossible.elim

/-- What a client's lookup finds is the same up to what is generated. -/
theorem get_couples {key : String} (mine : keys key) (steady : Steady client keys [] [] backend other) :
    (api platform config).Couples .serve
      (fun existing existing' backend other =>
        existing.map IdempotencyRecord.blank = existing'.map IdempotencyRecord.blank ∧
          Steady client keys [] [] backend other)
      (fun _ _ _ _ => False) (IdempotencyStore.get client key) (IdempotencyStore.get client key) backend other := by
  have same : (backend.record (IdempotencyStore.key client key)).map IdempotencyRecord.blank =
      (other.record (IdempotencyStore.key client key)).map IdempotencyRecord.blank := by
    rw [record_under, record_under, steady.alike.records key mine, steady.clock]
  have got : (api platform config).Couples .serve
      (fun existing existing' backend other =>
        existing.map IdempotencyRecord.blank = existing'.map IdempotencyRecord.blank ∧
          Steady client keys [] [] backend other) (fun _ _ _ _ => False)
      (Intake.get (IdempotencyStore.key client key)) (Intake.get (IdempotencyStore.key client key)) backend other := by
    apply System.Couples.await
    exact ⟨same, steady⟩
  apply System.Couples.tryCatch got
  intro error error' backend other impossible
  exact impossible.elim

theorem onSend_couples {post : PostOrder} {tag : IdempotencyMeta} {response response' : ApiResponse}
    (same : response.blank = response'.blank)
    (steady : Steady client keys [] [] backend other) :
    (api platform config).Couples .serve (SameAnswer client keys) (fun _ _ _ _ => False)
      (onSend config post tag response) (onSend config post tag response') backend other := by
  have status : response.status = response'.status := by
    change response.blank.status = response'.blank.status
    rw [same]
  have body : response.body.blank = response'.body.blank := congrArg ApiResponse.body same
  unfold onSend
  rw [← status]
  split
  · apply newDate_couples
    refine System.Couples.bind (set_couples ?_ steady.ticked) ?_
    · unfold IdempotencyRecord.blank
      rw [body]
    · intro _ _ backend other steady
      exact ⟨same, steady⟩
  · exact ⟨same, steady⟩

theorem isAllowed_couples (steady : Steady client keys [] [] backend other) :
    (api platform config).Couples .serve
      (fun limit limit' backend other => limit = limit' ∧ Steady client keys [] [] backend other)
      (fun _ _ _ _ => False) (RateLimiter.isAllowed config client) (RateLimiter.isAllowed config client)
      backend other := by
  have counted : ∀ windowStart resetTime, (api platform config).Couples .serve
      (fun limit limit' backend other => limit = limit' ∧ Steady client keys [] [] backend other)
      (fun _ _ _ _ => False) (RateLimiter.count config client windowStart resetTime)
      (RateLimiter.count config client windowStart resetTime) backend.ticked other.ticked := by
    intro windowStart resetTime
    unfold RateLimiter.count
    apply incr_couples
    have next := @Steady.setCounter client keys backend.ticked other.ticked (RateLimiter.key client windowStart)
      (other.ticked.counter (RateLimiter.key client windowStart) + 1) steady.ticked
    rw [steady.ticked.alike.counters windowStart]
    split
    · apply System.Couples.await
      exact ⟨rfl, next⟩
    · exact ⟨rfl, next⟩
  unfold RateLimiter.isAllowed
  apply newDate_couples
  rw [steady.clock]
  apply System.Couples.tryCatch (counted _ _)
  intro error error' backend other impossible
  exact impossible.elim

/-- The lookup either answers both runs alike or sends both on with the tag. -/
theorem idempotencyMiddleware_couples {post : PostOrder} {body : Json} (given : post.clientId = some client)
    (mine : ∀ key, post.idempotencyKey = some key → keys key) (steady : Steady client keys [] [] backend other) :
    (api platform config).Couples .serve
      (fun outcome outcome' backend other => Steady client keys [] [] backend other ∧
        match outcome, outcome' with
        | .error response, .error response' => response.blank = response'.blank
        | .ok tag, .ok tag' => tag = tag'
        | _, _ => False)
      (fun _ _ _ _ => False) (idempotencyMiddleware config post body) (idempotencyMiddleware config post body)
      backend other := by
  unfold idempotencyMiddleware
  rw [given]
  split
  · next key clientId keyed same =>
      cases same
      split
      · exact ⟨steady, rfl⟩
      · apply System.Couples.bind (get_couples (mine key keyed) steady)
        rintro existing existing' backend other ⟨same, steady⟩
        cases existing with
        | none =>
            cases existing' with
            | none => exact ⟨steady, rfl⟩
            | some record' => cases same
        | some record =>
            cases existing' with
            | none => cases same
            | some record' =>
                have blank : record.blank = record'.blank := Option.some.inj same
                have hash : record.requestHash = record'.requestHash := by
                  change record.blank.requestHash = record'.blank.requestHash
                  rw [blank]
                have status : record.status = record'.status := by
                  change record.blank.status = record'.blank.status
                  rw [blank]
                have response : record.response.blank = record'.response.blank :=
                  congrArg IdempotencyRecord.response blank
                simp only [hash]
                split
                · exact ⟨steady, rfl⟩
                · refine ⟨steady, ?_⟩
                  change ({ status := record.status, body := record.response.blank, replayed := true } : ApiResponse) =
                    { status := record'.status, body := record'.response.blank, replayed := true }
                  rw [status, response]
  · exact ⟨steady, rfl⟩

theorem postTagged_couples {post : PostOrder} {body : Json} {tag : IdempotencyMeta}
    (mine : ∀ key, post.idempotencyKey = some key → keys key) (steady : Steady client keys [] [] backend other) :
    (api platform config).Couples .serve (SameAnswer client keys) (fun _ _ _ _ => False)
      (postTagged config post body tag) (postTagged config post body tag) backend other := by
  unfold postTagged
  split
  · exact onSend_couples rfl steady
  · next input _ =>
      have handled : (api platform config).Couples .serve (SameAnswer client keys) (fun _ _ _ _ => False)
          (tryCatch (createOrderHandler post input.toJson) fun error =>
            return ApiResponse.ofProblem (internalError post.url error))
          (tryCatch (createOrderHandler post input.toJson) fun error =>
            return ApiResponse.ofProblem (internalError post.url error)) backend other := by
        apply System.Couples.tryCatch (createOrderHandler_couples mine steady)
        rintro error error' backend other ⟨rfl, steady⟩
        exact ⟨rfl, steady⟩
      apply System.Couples.bind handled
      rintro response response' backend other ⟨same, steady⟩
      exact onSend_couples same steady

/-- A request of the client is answered by what the client observes. -/
theorem postOrder_couples {post : PostOrder} (given : post.clientId = some client)
    (mine : ∀ key, post.idempotencyKey = some key → keys key) (steady : Steady client keys [] [] backend other) :
    (api platform config).Couples .serve (SameAnswer client keys) (fun _ _ _ _ => False)
      (postOrder config post) (postOrder config post) backend other := by
  unfold postOrder
  split
  · exact ⟨rfl, steady⟩
  · next body _ =>
      rw [given]
      apply System.Couples.bind (isAllowed_couples steady)
      rintro limit limit' backend other ⟨rfl, steady⟩
      split
      · exact ⟨rfl, steady⟩
      · apply System.Couples.bind (idempotencyMiddleware_couples given mine steady)
        rintro outcome outcome' backend other ⟨steady, agree⟩
        cases outcome with
        | error response =>
            cases outcome' with
            | error response' => exact ⟨agree, steady⟩
            | ok tag' => exact agree.elim
        | ok tag =>
            cases outcome' with
            | error response' => exact agree.elim
            | ok tag' =>
                subst agree
                exact postTagged_couples mine steady

/-! ## Whole sequences -/

/-- A client's request from two backends that look the same to the client. -/
theorem serveOne_couples {arrival : Arrival} (given : arrival.post.clientId = some client)
    (mine : ∀ key, arrival.post.idempotencyKey = some key → keys key) (alike : Alike client keys backend other)
    (numbered : Numbered backend) (numbered' : Numbered other) :
    (serveOne platform config backend arrival).1.map ApiResponse.blank =
        (serveOne platform config other arrival).1.map ApiResponse.blank ∧
      Alike client keys (serveOne platform config backend arrival).2 (serveOne platform config other arrival).2 ∧
        Numbered (serveOne platform config backend arrival).2 ∧ Numbered (serveOne platform config other arrival).2 := by
  have steady : Steady client keys [] [] (backend.arriving arrival.date) (other.arriving arrival.date) :=
    ⟨(Alike.arriving _).symm.trans (alike.trans (.arriving _)), rfl,
      ⟨numbered.orders, numbered.items, numbered.events⟩, ⟨numbered'.orders, numbered'.items, numbered'.events⟩,
      .nil _, .nil _⟩
  have coupled : (api platform config).Couples .serve (SameAnswer client keys) (fun _ _ _ _ => False)
      (postOrder config arrival.post) (postOrder config arrival.post) (backend.arriving arrival.date)
      (other.arriving arrival.date) := postOrder_couples given mine steady
  unfold System.Couples at coupled
  unfold serveOne
  rcases one : (api platform config).complete .serve (postOrder config arrival.post) (backend.arriving arrival.date)
    with ⟨outcome, after⟩
  rcases two : (api platform config).complete .serve (postOrder config arrival.post) (other.arriving arrival.date)
    with ⟨outcome', after'⟩
  rw [one, two] at coupled
  cases outcome with
  | error error =>
      cases outcome' with
      | error error' => exact coupled.elim
      | ok response' => exact coupled.elim
  | ok response =>
      cases outcome' with
      | error error' => exact coupled.elim
      | ok response' =>
          rcases coupled with ⟨same, after⟩
          exact ⟨congrArg Except.ok same, after.alike, after.numbered, after.numbered'⟩

/-- Every request keeps its identifiers to the supply: compare it with itself. -/
theorem serveOne_numbered {arrival : Arrival} (given : arrival.post.clientId = some client)
    (numbered : Numbered backend) : Numbered (serveOne platform config backend arrival).2 := by
  have twice := @serveOne_couples platform config client (fun key => arrival.post.idempotencyKey = some key) backend
    backend arrival given (fun _ keyed => keyed) (.refl backend) numbered numbered
  exact twice.2.2.1

end Own

/-- No request of the first client that is fit to order carries an idempotency key of the
second, or shares a key of the second in the store. -/
def KeysDisjoint (config : ApiConfig) (first second : String) (arrivals : List Arrival) : Prop :=
  ∀ one ∈ arrivals, ∀ two ∈ arrivals, one.post.clientId = some first → two.post.clientId = some second →
    Orderable config one.post →
      one.post.idempotencyKey ≠ two.post.idempotencyKey ∧ lookupKey one.post ≠ lookupKey two.post

section Sequences

variable {platform : Platform} {config : ApiConfig} {client stranger : String} {keys : String → Prop}

theorem answersTo_own {arrival : Arrival} {answer : Except JsError ApiResponse}
    {served : List (Arrival × Except JsError ApiResponse)} (given : arrival.post.clientId = some client) :
    answersTo client ((arrival, answer) :: served) = answer.map ApiResponse.blank :: answersTo client served := by
  unfold answersTo
  simp only [List.filter_cons, given, decide_true, if_true, List.map_cons]

theorem answersTo_other {arrival : Arrival} {answer : Except JsError ApiResponse}
    {served : List (Arrival × Except JsError ApiResponse)} (other : arrival.post.clientId ≠ some client) :
    answersTo client ((arrival, answer) :: served) = answersTo client served := by
  unfold answersTo
  simp only [List.filter_cons, other, decide_false, Bool.false_eq_true, if_false]

/-- The requests of another client are removed one by one. -/
theorem answers_isolated {arrivals : List Arrival} {backend other : Backend} (different : stranger ≠ client)
    (each : ∀ arrival ∈ arrivals,
      (arrival.post.clientId = some client ∧ ∀ key, arrival.post.idempotencyKey = some key → keys key) ∨
        arrival.post.clientId = some stranger ∧ Strange config client keys arrival.post)
    (alike : Alike client keys backend other) (numbered : Numbered backend) (numbered' : Numbered other) :
    answersTo client (serveAll platform config backend arrivals) =
      answersTo client (serveAll platform config other
        (arrivals.filter fun arrival => arrival.post.clientId = some client)) := by
  induction arrivals generalizing backend other with
  | nil => rfl
  | cons arrival rest inductionHypothesis =>
      have later := fun arrival member => each arrival (List.mem_cons_of_mem _ member)
      rcases each arrival List.mem_cons_self with ⟨given, mine⟩ | ⟨given, strange⟩
      · have kept : (arrival :: rest).filter (fun arrival => arrival.post.clientId = some client) =
            arrival :: rest.filter fun arrival => arrival.post.clientId = some client :=
          List.filter_cons_of_pos (by simpa using given)
        rw [kept, serveAll, serveAll, answersTo_own given, answersTo_own given]
        rcases @serveOne_couples platform config client keys backend other arrival given mine alike numbered numbered'
          with ⟨same, alike, numbered, numbered'⟩
        rw [same, inductionHypothesis later alike numbered numbered']
      · have other' : arrival.post.clientId ≠ some client := by
          rw [given]
          exact fun same => different (Option.some.inj same)
        have removed : (arrival :: rest).filter (fun arrival => arrival.post.clientId = some client) =
            rest.filter fun arrival => arrival.post.clientId = some client :=
          List.filter_cons_of_neg (by simpa using other')
        rw [removed, serveAll, answersTo_other other']
        have unseen := @alike_serveOne platform config client stranger keys backend arrival given different strange
        exact inductionHypothesis later (unseen.symm.trans alike) (serveOne_numbered given numbered) numbered'

end Sequences

/-- Where no order of one client touches the other's keys, the other client is answered as
if the first were not there. -/
theorem isolated {platform : Platform} {config : ApiConfig} {start : Backend} {arrivals : List Arrival}
    {first second : String} (different : first ≠ second) (numbered : Numbered start)
    (both : ∀ arrival ∈ arrivals, arrival.post.clientId = some first ∨ arrival.post.clientId = some second)
    (disjoint : KeysDisjoint config first second arrivals) :
    answersTo second (serveAll platform config start arrivals) =
      answersTo second (serveAll platform config start
        (arrivals.filter fun arrival => arrival.post.clientId = some second)) := by
  refine @answers_isolated platform config second first (fun key => ∃ two ∈ arrivals,
    two.post.clientId = some second ∧ two.post.idempotencyKey = some key) arrivals start start different ?_
      (.refl start) numbered numbered
  intro arrival member
  rcases both arrival member with given | given
  · refine Or.inr ⟨given, ?_⟩
    rintro valid key ⟨two, listed, given', keyed⟩
    rcases disjoint arrival member two listed given given' valid with ⟨keys, slots⟩
    have slot : lookupKey two.post = some (IdempotencyStore.key second key) := by
      unfold lookupKey
      rw [given', keyed]
    exact ⟨keyed ▸ keys, slot ▸ slots⟩
  · exact Or.inl ⟨given, fun key keyed => ⟨arrival, member, given, keyed⟩⟩

def arrivalOf (clientId key : String) : Arrival := { date := 0, post := plainPost clientId key plainBody }

theorem numbered_empty : Numbered emptyBackend := by
  constructor
  all_goals
    intro id member
    cases member

/-- Two clients with a key each. -/
theorem isolated_apart :
    answersTo "b" (serveAll postgresJs plainApi emptyBackend [arrivalOf "a" "one", arrivalOf "b" "two"]) =
      answersTo "b" (serveAll postgresJs plainApi emptyBackend
        ([arrivalOf "a" "one", arrivalOf "b" "two"].filter fun arrival => arrival.post.clientId = some "b")) := by
  refine @isolated _ _ _ _ "a" "b" (by decide) numbered_empty ?_ ?_
  · intro arrival member
    simp only [List.mem_cons, List.not_mem_nil, or_false] at member
    rcases member with rfl | rfl
    · exact Or.inl rfl
    · exact Or.inr rfl
  · intro one member two member' given given' _
    simp only [List.mem_cons, List.not_mem_nil, or_false] at member member'
    rcases member with rfl | rfl
    · rcases member' with rfl | rfl
      · exact absurd given' (by decide)
      · exact ⟨by decide, by decide⟩
    · exact absurd given (by decide)

def statusesOf (answers : List (Except JsError ApiResponse)) : List (Option Nat) :=
  answers.map fun answer => answer.toOption.map ApiResponse.status

/-- With one idempotency key the second client's order is refused. -/
theorem leaks :
    answersTo "b" (serveAll postgresJs plainApi emptyBackend [arrivalOf "a" "key", arrivalOf "b" "key"]) ≠
      answersTo "b" (serveAll postgresJs plainApi emptyBackend
        ([arrivalOf "a" "key", arrivalOf "b" "key"].filter fun arrival => arrival.post.clientId = some "b")) := by
  intro same
  have refused : statusesOf (answersTo "b" (serveAll postgresJs plainApi emptyBackend
      [arrivalOf "a" "key", arrivalOf "b" "key"])) = [some 500] := by
    decide +kernel
  have created : statusesOf (answersTo "b" (serveAll postgresJs plainApi emptyBackend
      ([arrivalOf "a" "key", arrivalOf "b" "key"].filter fun arrival => arrival.post.clientId = some "b"))) =
      [some 201] := by
    decide +kernel
  rw [same, created] at refused
  cases refused

end Orderly
