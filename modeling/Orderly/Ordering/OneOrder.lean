import Orderly.Ordering.AllOrNothing
import Orderly.Ordering.Requests

/-!
# One order per idempotency key

Any number of requests may pass the idempotency check with the same key.  What
each of them can still write bears the id that it has drawn itself, and the
transaction that writes the order stands behind the unique constraint on the
key.  The event is part of that transaction, and the job of the saga is only
enqueued after it.
-/

namespace Orderly

open Process (System)

/-! ## What a call leaves of another order -/

/-- What is recorded for an order is as before. -/
structure SameFor (id : Uuid) (before after : Backend) : Prop where
  orders : ordersOf after id = ordersOf before id
  items : itemsOf after id = itemsOf before id
  events : eventsOf after id = eventsOf before id
  jobs : jobsOf after id = jobsOf before id

section Frames

variable {platform : Platform} {request : CreateOrderRequest} {order : Order} {before after : Backend} {id : Uuid}

theorem SameTables.sameFor (same : SameTables before after) (id : Uuid) : SameFor id before after where
  orders := by unfold ordersOf; rw [same.orders]
  items := by unfold itemsOf; rw [same.items]
  events := by unfold eventsOf; rw [same.events]
  jobs := by unfold jobsOf; rw [same.jobs]

theorem Absent.sameFor (absent : Absent before id) (same : SameFor id before after) : Absent after id where
  orders := same.orders.trans absent.orders
  items := same.items.trans absent.items
  events := same.events.trans absent.events
  jobs := same.jobs.trans absent.jobs

theorem filter_others {Row : Type} {rows added : List Row} {selects : Row → Bool}
    (others : ∀ row ∈ added, selects row = false) : (rows ++ added).filter selects = rows.filter selects := by
  have nothing : added.filter selects = [] :=
    List.filter_eq_nil_iff.mpr fun row member => Bool.eq_false_iff.mp (others row member)
  rw [List.filter_append, nothing, List.append_nil]

/-- A transaction concerns the order it writes. -/
theorem Adds.sameFor (ordered : Ordered request order) (adds : Adds platform request order before after)
    (jobs : after.jobs = before.jobs) (other : id ≠ order.id) : SameFor id before after where
  orders := by
    unfold ordersOf
    rw [adds.orders]
    apply filter_others
    intro row member
    rw [List.mem_singleton.mp member]
    exact decide_eq_false (Ne.symm other)
  items := by
    unfold itemsOf
    rw [adds.items]
    apply filter_others
    intro row member
    have named := (lists_of_created ordered.items).2.1 row member
    rw [named]
    exact decide_eq_false (Ne.symm other)
  events := by
    rcases adds.events with ⟨eventId, now, events⟩
    unfold eventsOf
    rw [events]
    apply filter_others
    intro event member
    rw [List.mem_singleton.mp member]
    exact decide_eq_false (Ne.symm other)
  jobs := by
    unfold jobsOf
    rw [jobs]

/-- A job is added for its order, or not at all. -/
theorem addJob_jobs (backend : Backend) (jobId : String) (data : SagaContext) :
    (backend.addJob jobId data).jobs = backend.jobs ∨
      (backend.addJob jobId data).jobs = backend.jobs ++ [{ id := jobId, data }] := by
  unfold Backend.addJob
  split
  · exact Or.inl rfl
  · exact Or.inr rfl

theorem addJob_sameFor {jobId : String} {data : SagaContext} (other : id ≠ data.orderId) :
    SameFor id before (before.addJob jobId data) := by
  rcases addJob_tables before jobId data with ⟨orders, items, events⟩
  constructor
  · unfold ordersOf
    rw [orders]
  · unfold itemsOf
    rw [items]
  · unfold eventsOf
    rw [events]
  · unfold jobsOf
    rcases addJob_jobs before jobId data with same | added
    · rw [same]
    · rw [added]
      apply filter_others
      intro job member
      rw [List.mem_singleton.mp member]
      exact decide_eq_false (Ne.symm other)

end Frames

/-! ## The supply of identifiers -/

/-- A call draws the next UUID, or leaves the supply as it is. -/
inductive Supply (event : IntakeEvent) : Prop where
  | drawn (draws : drawnBy event = some event.before.world.nextUuid)
      (next : event.after.world.nextUuid = event.before.world.nextUuid + 1)
  | kept (undrawn : drawnBy event = none) (same : event.after.world.nextUuid = event.before.world.nextUuid)

theorem Supply.le {event : IntakeEvent} (supply : Supply event) :
    event.before.world.nextUuid ≤ event.after.world.nextUuid := by
  cases supply with
  | drawn _ next => omega
  | kept _ same => omega

section Steps

variable {platform : Platform} {config : ApiConfig} {post : PostOrder} {log : IntakeLog} {event : IntakeEvent}
  {key : Option String}

theorem supply_admits (admitted : (api platform config).Admits log event) : Supply event := by
  rcases event with ⟨call, reply, before, after⟩
  rcases System.admits_iff.mp admitted with ⟨choice, performed⟩
  rcases Prod.ext_iff.mp performed with ⟨replied, rfl⟩
  cases call with
  | uuidv4 =>
      apply Supply.drawn
      · cases choice <;> cases replied <;> rfl
      · cases choice <;> rfl
  | commit transaction =>
      refine .kept rfl ?_
      rcases perform_commit platform before transaction choice with done | ⟨same, _⟩
      · exact (commit_untouched done).supply
      · change (before.perform platform (.commit transaction) choice).2.world.nextUuid = _
        rw [same]
  | addJob jobId data =>
      refine .kept rfl ?_
      change (before.perform platform (.addJob jobId data) choice).2.world.nextUuid = _
      rcases perform_addJob platform before jobId data choice with done | same
      · rw [done]
        unfold Backend.addJob
        split
        · rfl
        · rfl
      · rw [same]
  | _ => exact .kept rfl (by cases choice <;> rfl)

/-- The order's id after one more call. -/
theorem orderId_next_cons {id : Uuid} (supply : Supply event) (drawn : orderId (event :: log) = some id) :
    orderId log = some id ∨ orderId log = none ∧ id = event.before.world.nextUuid ∧
      id < event.after.world.nextUuid := by
  cases known : orderId log with
  | some earlier => exact Or.inl ((orderId_cons known).symm.trans drawn)
  | none =>
      cases supply with
      | drawn draws next =>
          cases (orderId_first known draws).symm.trans drawn
          refine Or.inr ⟨rfl, rfl, ?_⟩
          rw [next]
          exact Nat.lt_succ_self _
      | kept undrawn _ => cases ((orderId_aside undrawn).trans known).symm.trans drawn

/-! ## One request -/

/-- How far a request of some key has got with the order of the id it has drawn. -/
inductive Standing (backend : Backend) (key : Option String) (log : IntakeLog) : Prop where
  | pending (absent : ∀ id, orderId log = some id → Absent backend id)
      (unconfirmed : ∀ event ∈ log, confirms event = false)
  | placed (row : OrderRow) (drawn : orderId log = some row.id) (order : ordersOf backend row.id = [row])
      (keyed : row.idempotencyKey = key) (event : (eventsOf backend row.id).length = 1)
      (jobs : jobsOf backend row.id = [] ∨
        (jobsOf backend row.id).length = 1 ∧ ∃ event ∈ log, enqueues event = true)
      (committed : ∃ event ∈ log, commits event = true)

/-- Where nothing of a request's order has changed, the request stands where it stood. -/
theorem Standing.elsewhere {before after : Backend} (standing : Standing before key log)
    (same : ∀ id, orderId log = some id → SameFor id before after) : Standing after key log := by
  cases standing with
  | pending absent unconfirmed =>
      exact .pending (fun id drawn => (absent id drawn).sameFor (same id drawn)) unconfirmed
  | placed row drawn order keyed events jobs committed =>
      have kept := same row.id drawn
      refine .placed row drawn (kept.orders.trans order) keyed ?_ ?_ committed
      · rw [kept.events]
        exact events
      · rw [kept.jobs]
        exact jobs

/-- A request writes nothing for an order whose id it has not drawn. -/
theorem sameFor_other {id : Uuid} (intended : PostIntends config post log event.call)
    (admitted : (api platform config).Admits log event) (other : orderId log ≠ some id) :
    SameFor id event.before event.after := by
  cases intake_admits admitted with
  | committed transaction called done =>
      rw [called] at intended
      rcases intended with ⟨_, _, request, _, _, _, order, eventId, ordered, drawn, rfl⟩
      rcases commit_adds done with ⟨adds, jobs⟩
      apply adds.sameFor ordered jobs
      rintro rfl
      exact other drawn
  | queued jobId data called done =>
      rw [called] at intended
      rcases intended with ⟨request, _, order, _, drawn, _, _, rfl⟩
      rw [done]
      apply addJob_sameFor
      intro same
      exact other (drawn.trans (congrArg some same.symm))
  | aside same _ => exact same.sameFor id

/-- One call of a request, while no identifier has been used before it is drawn. -/
theorem standing_cons (intended : PostIntends config post log event.call)
    (admitted : (api platform config).Admits log event)
    (unused : Absent event.before event.before.world.nextUuid)
    (standing : Standing event.before post.idempotencyKey log) :
    Standing event.after post.idempotencyKey (event :: log) := by
  cases standing with
  | pending absent unconfirmed =>
      cases intake_admits admitted with
      | committed transaction called done =>
          rw [called] at intended
          rcases intended with ⟨_, key, request, given, carried, _, order, eventId, ordered, drawn, rfl⟩
          rcases commit_adds done with ⟨adds, jobs⟩
          have fresh := absent order.id drawn
          have recorded := recorded_of_adds fresh ordered adds (Or.inl jobs)
          refine .placed (Database.orderRow order) (orderId_cons drawn) recorded.order ?_ ?_ ?_
            ⟨event, List.mem_cons_self, commits_of_call called⟩
          · rcases createOrder_spec ordered.made with ⟨total, _, made⟩
            rw [given, ← carried, made]
            rfl
          · rcases recorded.event with ⟨created, payload, events, _⟩
            rw [events]
            rfl
          · refine Or.inl ?_
            have none := fresh.jobs
            unfold jobsOf at *
            rw [jobs]
            exact none
      | queued jobId data called done =>
          rw [called] at intended
          rcases intended with ⟨request, _, order, _, _, ⟨eventId, before, after, member⟩, _⟩
          cases unconfirmed _ member
      | aside same silent =>
          apply Standing.pending
          · intro id drawn
            rcases orderId_next_cons (supply_admits admitted) drawn with known | ⟨_, rfl, _⟩
            · exact (absent id known).same same
            · exact unused.same same
          · intro other member
            rcases List.mem_cons.mp member with rfl | earlier
            · exact silent
            · exact unconfirmed other earlier
  | placed row drawn order keyed events jobs committed =>
      rcases committed with ⟨one, present, committing⟩
      have still : ∃ event' ∈ event :: log, commits event' = true := ⟨one, List.mem_cons_of_mem _ present, committing⟩
      cases intake_admits admitted with
      | committed transaction called done =>
          rw [called] at intended
          rcases intended with ⟨_, _, request, _, _, quiet, _⟩
          cases (quiet one present).1.symm.trans committing
      | queued jobId data called done =>
          rw [called] at intended
          rcases intended with ⟨request, unqueued, own, _, drawn', _, rfl, rfl⟩
          have same : own.id = row.id := Option.some.inj (drawn'.symm.trans drawn)
          have queue : jobsOf event.before row.id = [] := by
            rcases jobs with none | ⟨_, other, member, enqueued⟩
            · exact none
            · cases (unqueued other member).symm.trans enqueued
          rcases addJob_tables event.before (Intake.SagaEnqueuer.jobId own.id)
            (OrderService.sagaContext request own) with ⟨orders, _, outbox⟩
          rw [← done] at orders outbox
          refine .placed row (orderId_cons drawn) ?_ keyed ?_ ?_ still
          · unfold ordersOf at *
            rw [orders]
            exact order
          · unfold eventsOf at *
            rw [outbox]
            exact events
          · rw [done]
            unfold jobsOf at *
            rcases addJob_jobs event.before (Intake.SagaEnqueuer.jobId own.id)
              (OrderService.sagaContext request own) with unchanged | added
            · rw [unchanged]
              exact Or.inl queue
            · have selected : decide ((OrderService.sagaContext request own).orderId = row.id) = true :=
                decide_eq_true same
              refine Or.inr ⟨?_, event, List.mem_cons_self, enqueues_of_call called⟩
              rw [added, filter_fresh queue]
              · rfl
              · intro job member
                rw [List.mem_singleton.mp member]
                exact selected
      | aside same silent =>
          have kept := same.sameFor row.id
          refine .placed row (orderId_cons drawn) (kept.orders.trans order) keyed ?_ ?_ still
          · rw [kept.events]
            exact events
          · rw [kept.jobs]
            exact jobs.imp_right fun queued => ⟨queued.1, queued.2.imp fun other found =>
              ⟨List.mem_cons_of_mem _ found.1, found.2⟩⟩

/-! ## The unique constraint -/

/-- No two rows carry the same key, where one of them is newer than the floor. -/
def KeysApart (floor : Uuid) (backend : Backend) : Prop :=
  ∀ row ∈ backend.world.db.orders.rows, ∀ other ∈ backend.world.db.orders.rows, floor ≤ row.id →
    row.idempotencyKey.isSome = true → other.idempotencyKey = row.idempotencyKey → other = row

theorem not_taken {db : Database} {key : Option String} (free : db.keyTaken key = false) (some : key.isSome = true) :
    ∀ row ∈ db.orders.rows, row.idempotencyKey ≠ key := by
  intro row member same
  have taken : db.keyTaken key = true :=
    Bool.and_eq_true_iff.mpr ⟨some, List.any_eq_true.mpr ⟨row, member, decide_eq_true same⟩⟩
  cases free.symm.trans taken

theorem keysApart_cons {floor : Uuid} (intended : PostIntends config post log event.call)
    (admitted : (api platform config).Admits log event) (apart : KeysApart floor event.before) :
    KeysApart floor event.after := by
  cases intake_admits admitted with
  | committed transaction called done =>
      rw [called] at intended
      rcases intended with ⟨_, _, request, _, _, _, order, eventId, ordered, drawn, rfl⟩
      have adds := (commit_adds done).1
      have free : event.before.world.db.keyTaken (Database.orderRow order).idempotencyKey = false := adds.unused
      unfold KeysApart
      rw [adds.orders]
      intro row member other member' newer carried same
      rcases List.mem_append.mp member with old | new
      · rcases List.mem_append.mp member' with old' | new'
        · exact apart row old other old' newer carried same
        · cases List.mem_singleton.mp new'
          rw [← same] at carried
          exact absurd same.symm (not_taken free carried row old)
      · cases List.mem_singleton.mp new
        rcases List.mem_append.mp member' with old' | new'
        · exact absurd same (not_taken free carried other old')
        · exact List.mem_singleton.mp new'
  | queued jobId data called done =>
      unfold KeysApart
      rw [done, (addJob_tables _ _ _).1]
      exact apart
  | aside same _ =>
      unfold KeysApart
      rw [same.orders]
      exact apart

end Steps

/-! ## All requests -/

/-- What no request breaks, counting the identifiers from the first that the run has drawn. -/
structure Intact (floor : Uuid) (config : Serving) : Prop where
  floor_le : floor ≤ config.shared.world.nextUuid
  unused : ∀ id, config.shared.world.nextUuid ≤ id → Absent config.shared id
  keys : KeysApart floor config.shared
  drawn : ∀ (position : Nat) (thread : Posting), config.threads[position]? = some thread → ∀ id, orderId thread.log = some id →
    floor ≤ id ∧ id < config.shared.world.nextUuid
  apart : ∀ (position other : Nat) (thread thread' : Posting), config.threads[position]? = some thread →
    config.threads[other]? = some thread' → position ≠ other →
    ∀ id, orderId thread.log = some id → orderId thread'.log ≠ some id
  standing : ∀ (position : Nat) (thread : Posting), config.threads[position]? = some thread →
    Standing config.shared thread.task.idempotencyKey thread.log

section Runs

variable {platform : Platform} {config : ApiConfig} {start : Backend} {floor : Uuid} {reached next : Serving}

theorem Intact.unmoved (intact : Intact floor reached) (unmoved : Process.System.Unmoved reached next) :
    Intact floor next where
  floor_le := by
    rw [unmoved.shared]
    exact intact.floor_le
  unused := by
    rw [unmoved.shared]
    exact intact.unused
  keys := by
    rw [unmoved.shared]
    exact intact.keys
  drawn position thread found id drawn := by
    rcases unmoved.threads position thread found with ⟨old, earlier, _, same⟩ | nothing
    · rw [unmoved.shared]
      exact intact.drawn position old earlier id (same ▸ drawn)
    · rw [nothing] at drawn
      cases drawn
  apart position other thread thread' found found' different id drawn drawn' := by
    rcases unmoved.threads position thread found with ⟨old, earlier, _, same⟩ | nothing
    · rcases unmoved.threads other thread' found' with ⟨old', earlier', _, same'⟩ | nothing
      · exact intact.apart position other old old' earlier earlier' different id (same ▸ drawn) (same' ▸ drawn')
      · rw [nothing] at drawn'
        cases drawn'
    · rw [nothing] at drawn
      cases drawn
  standing position thread found := by
    rcases unmoved.threads position thread found with ⟨old, earlier, task, same⟩ | nothing
    · rw [unmoved.shared, ← task, ← same]
      exact intact.standing position old earlier
    · rw [nothing]
      apply Standing.pending
      · intro id drawn
        cases drawn
      · intro event member
        cases member

theorem Intact.moved {index : Nat} {thread moved : Posting} {event : IntakeEvent} (intact : Intact floor reached)
    (listed : reached.threads[index]? = some thread) (before : event.before = reached.shared)
    (task : moved.task = thread.task) (log : moved.log = event :: thread.log)
    (intended : PostIntends config thread.task thread.log event.call)
    (admitted : (api platform config).Admits thread.log event) :
    Intact floor { shared := event.after, threads := reached.threads.set index moved } := by
  have supply := supply_admits admitted
  have le := supply.le
  rw [before] at le
  -- an identifier that the request has not drawn is not touched
  have others : ∀ id, orderId thread.log ≠ some id → SameFor id reached.shared event.after := by
    intro id other
    rw [← before]
    exact sameFor_other intended admitted other
  have fresh : ∀ id, reached.shared.world.nextUuid ≤ id → orderId thread.log ≠ some id := by
    intro id above drawn
    exact absurd (intact.drawn index thread listed id drawn).2 (Nat.not_lt.mpr above)
  have own : ∀ id, orderId moved.log = some id → orderId thread.log = some id ∨
      id = reached.shared.world.nextUuid ∧ id < event.after.world.nextUuid := by
    intro id drawn
    rw [log] at drawn
    rcases orderId_next_cons supply drawn with known | ⟨_, next, below⟩
    · exact Or.inl known
    · exact Or.inr ⟨by rw [next, before], below⟩
  constructor
  · exact intact.floor_le.trans le
  · intro id above
    have above' : reached.shared.world.nextUuid ≤ id := le.trans above
    exact (intact.unused id above').sameFor (others id (fresh id above'))
  · apply keysApart_cons intended admitted
    rw [before]
    exact intact.keys
  · intro position other found id drawn
    change floor ≤ id ∧ id < event.after.world.nextUuid
    rcases System.getElem?_set_cases listed found with ⟨_, rfl⟩ | ⟨_, found⟩
    · rcases own id drawn with known | ⟨rfl, below⟩
      · have bounds := intact.drawn index thread listed id known
        exact ⟨bounds.1, bounds.2.trans_le le⟩
      · exact ⟨intact.floor_le, below⟩
    · have bounds := intact.drawn position other found id drawn
      exact ⟨bounds.1, bounds.2.trans_le le⟩
  · intro position other first second found found' different id drawn drawn'
    rcases System.getElem?_set_cases listed found with ⟨rfl, rfl⟩ | ⟨_, earlier⟩
    · rcases System.getElem?_set_cases listed found' with ⟨same, _⟩ | ⟨_, earlier'⟩
      · exact different same.symm
      · rcases own id drawn with known | ⟨rfl, _⟩
        · exact intact.apart position other thread second listed earlier' different id known drawn'
        · exact (intact.drawn other second earlier' _ drawn').2.ne rfl
    · rcases System.getElem?_set_cases listed found' with ⟨rfl, rfl⟩ | ⟨_, earlier'⟩
      · rcases own id drawn' with known | ⟨rfl, _⟩
        · exact intact.apart position other first thread earlier listed different id drawn known
        · exact (intact.drawn position first earlier _ drawn).2.ne rfl
      · exact intact.apart position other first second earlier earlier' different id drawn drawn'
  · intro position other found
    rcases System.getElem?_set_cases listed found with ⟨_, rfl⟩ | ⟨different, found⟩
    · have standing := intact.standing index thread listed
      have unused := intact.unused _ le_rfl
      rw [← before] at standing unused
      rw [task, log]
      exact standing_cons intended admitted unused standing
    · apply (intact.standing position other found).elsewhere
      intro id drawn
      exact others id (intact.apart position index other thread found listed different id drawn)

theorem reaches_intact (unused : ∀ id, start.world.nextUuid ≤ id → Absent start id)
    (reaches : (api platform config).Reaches (fun _ _ => True) { shared := start } reached) :
    Intact start.world.nextUuid reached := by
  refine reaches.moving ?_ ?_ ?_
  · constructor
    · exact le_rfl
    · exact unused
    · intro row member other _ newer _ _
      have none := (unused row.id newer).orders
      have listed : row ∈ ordersOf start row.id := List.mem_filter.mpr ⟨member, decide_eq_true rfl⟩
      rw [none] at listed
      cases listed
    all_goals
      intros
      contradiction
  · intro earlier later unmoved intact
    exact intact.unmoved unmoved
  · intro earlier index choice thread call resume reaches' _ listed pending intact
    have keeping := reaches_posting reaches' thread (List.mem_of_getElem? listed)
    have answered := keeping.answered pending earlier.shared choice
    exact intact.moved listed rfl rfl rfl answered.1 ⟨choice, rfl⟩

/-- The order of this id stems from a request with this key. -/
def stems (config : Serving) (key : String) (id : Uuid) : Bool :=
  config.threads.any fun thread =>
    decide (thread.task.idempotencyKey = some key) && decide (orderId thread.log = some id)

theorem stems_iff {key : String} {id : Uuid} : stems reached key id = true ↔
    ∃ (position : Nat) (thread : Posting), reached.threads[position]? = some thread ∧ thread.task.idempotencyKey = some key ∧
      orderId thread.log = some id := by
  unfold stems
  rw [List.any_eq_true]
  constructor
  · rintro ⟨thread, member, holds⟩
    rcases List.mem_iff_getElem?.mp member with ⟨position, found⟩
    have parts := Bool.and_eq_true_iff.mp holds
    exact ⟨position, thread, found, of_decide_eq_true parts.1, of_decide_eq_true parts.2⟩
  · rintro ⟨position, thread, found, given, drawn⟩
    exact ⟨thread, List.mem_of_getElem? found,
      Bool.and_eq_true_iff.mpr ⟨decide_eq_true given, decide_eq_true drawn⟩⟩

/-- What is recorded for an id that stems from a key is one order's. -/
theorem Intact.recorded (intact : Intact floor reached) {key : String} {id : Uuid}
    (from_key : stems reached key id = true) :
    Absent reached.shared id ∨
      (∃ row ∈ reached.shared.world.db.orders.rows, row.id = id ∧ floor ≤ id ∧ row.idempotencyKey = some key) ∧
        (ordersOf reached.shared id).length = 1 ∧ (eventsOf reached.shared id).length = 1 ∧
          (jobsOf reached.shared id).length ≤ 1 := by
  rcases stems_iff.mp from_key with ⟨position, thread, found, given, drawn⟩
  cases intact.standing position thread found with
  | pending absent _ => exact Or.inl (absent id drawn)
  | placed row drawn' order keyed event jobs _ =>
      cases drawn.symm.trans drawn'
      refine Or.inr ⟨⟨row, ?_, rfl, (intact.drawn position thread found _ drawn).1, keyed.trans given⟩, ?_, event, ?_⟩
      · have listed : row ∈ ordersOf reached.shared row.id := by
          rw [order]
          exact List.mem_singleton_self row
        exact (List.mem_filter.mp listed).1
      · rw [order]
        rfl
      · rcases jobs with none | ⟨single, _⟩
        · rw [none]
          exact Nat.zero_le 1
        · exact single.le

/-- Of the ids that stem from one key, one at most has anything recorded. -/
theorem Intact.one (intact : Intact floor reached) {key : String} {id other : Uuid}
    (from_key : stems reached key id = true) (from_key' : stems reached key other = true)
    (present : ¬ Absent reached.shared id) (present' : ¬ Absent reached.shared other) : other = id := by
  rcases intact.recorded from_key with absent | ⟨⟨row, listed, rfl, newer, carried⟩, _⟩
  · exact absurd absent present
  · rcases intact.recorded from_key' with absent | ⟨⟨row', listed', rfl, _, carried'⟩, _⟩
    · exact absurd absent present'
    · have same : row' = row := by
        apply intact.keys row listed row' listed' newer
        · rw [carried]
          rfl
        · exact carried'.trans carried.symm
      rw [same]

/-- Entries that all belong to one id, of which each has one at most, are one at most. -/
theorem filter_length_le_one {Row : Type} {rows : List Row} {selects : Row → Bool} (id : Row → Uuid)
    (one : ∀ row ∈ rows, ∀ other ∈ rows, selects row = true → selects other = true → id other = id row)
    (each : ∀ row ∈ rows, selects row = true → (rows.filter fun other => id other = id row).length ≤ 1) :
    (rows.filter selects).length ≤ 1 := by
  cases chosen : rows.filter selects with
  | nil => exact Nat.zero_le 1
  | cons row rest =>
      have present : row ∈ rows ∧ selects row = true := by
        apply List.mem_filter.mp
        rw [chosen]
        exact List.mem_cons_self
      have each := each row present.1 present.2
      rw [← chosen, ← List.countP_eq_length_filter]
      rw [← List.countP_eq_length_filter] at each
      refine le_trans (List.countP_mono_left ?_) each
      intro other member selected
      exact decide_eq_true (one row present.1 other member present.2 selected)

/-- At most one order, one `order.created` event and one saga job stem from the
requests that carry one key. -/
theorem one_order (unused : ∀ id, start.world.nextUuid ≤ id → Absent start id)
    (reaches : (api platform config).Reaches (fun _ _ => True) { shared := start } reached) (key : String) :
    (reached.shared.world.db.orders.rows.filter fun row => stems reached key row.id).length ≤ 1 ∧
      (reached.shared.world.db.outbox.rows.filter fun event =>
        event.eventType = "order.created" && stems reached key event.aggregateId).length ≤ 1 ∧
        (reached.shared.jobs.filter fun job => stems reached key job.data.orderId).length ≤ 1 := by
  have intact := reaches_intact unused reaches
  have counts : ∀ id, stems reached key id = true → (ordersOf reached.shared id).length ≤ 1 ∧
      (eventsOf reached.shared id).length ≤ 1 ∧ (jobsOf reached.shared id).length ≤ 1 := by
    intro id from_key
    rcases intact.recorded from_key with absent | ⟨_, orders, events, jobs⟩
    · rw [absent.orders, absent.events, absent.jobs]
      exact ⟨Nat.zero_le 1, Nat.zero_le 1, Nat.zero_le 1⟩
    · exact ⟨orders.le, events.le, jobs⟩
  have ordered : ∀ row ∈ reached.shared.world.db.orders.rows, ¬ Absent reached.shared row.id := by
    intro row member absent
    exact List.filter_eq_nil_iff.mp absent.orders row member (decide_eq_true rfl)
  have announced : ∀ event ∈ reached.shared.world.db.outbox.rows, ¬ Absent reached.shared event.aggregateId := by
    intro event member absent
    exact List.filter_eq_nil_iff.mp absent.events event member (decide_eq_true rfl)
  have queued : ∀ job ∈ reached.shared.jobs, ¬ Absent reached.shared job.data.orderId := by
    intro job member absent
    exact List.filter_eq_nil_iff.mp absent.jobs job member (decide_eq_true rfl)
  refine ⟨?_, ?_, ?_⟩
  · apply filter_length_le_one OrderRow.id
    · intro row member other member' from_key from_key'
      exact intact.one from_key from_key' (ordered row member) (ordered other member')
    · intro row member from_key
      exact (counts row.id from_key).1
  · apply filter_length_le_one OutboxEvent.aggregateId
    · intro event member other member' created created'
      exact intact.one (Bool.and_eq_true_iff.mp created).2 (Bool.and_eq_true_iff.mp created').2
        (announced event member) (announced other member')
    · intro event member created
      exact (counts event.aggregateId (Bool.and_eq_true_iff.mp created).2).2.1
  · apply filter_length_le_one fun job : SagaJob => job.data.orderId
    · intro job member other member' from_key from_key'
      exact intact.one from_key from_key' (queued job member) (queued other member')
    · intro job member from_key
      exact (counts job.data.orderId from_key).2.2

end Runs

/-- Two requests with one key that both find no record. -/
def racing : Serving :=
  (api postgresJs plainApi).run { shared := emptyBackend }
    ([.start (plainPost "client" "key" plainBody), .start (plainPost "client" "key" plainBody)] ++ serving 0 4 ++
      serving 1 3 ++ serving 0 12 ++ serving 1 9)

example : racing.shared.jobs.map SagaJob.id = ["saga-0"] := by decide +kernel

theorem one_order_racing :
    (racing.shared.world.db.orders.rows.filter fun row => stems racing "key" row.id).length ≤ 1 ∧
      (racing.shared.world.db.outbox.rows.filter fun event =>
        event.eventType = "order.created" && stems racing "key" event.aggregateId).length ≤ 1 ∧
        (racing.shared.jobs.filter fun job => stems racing "key" job.data.orderId).length ≤ 1 := by
  have unused : ∀ id, emptyBackend.world.nextUuid ≤ id → Absent emptyBackend id := fun _ _ => ⟨rfl, rfl, rfl, rfl⟩
  exact one_order unused (System.run_reaches _ _) "key"

end Orderly
