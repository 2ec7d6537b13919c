import Orderly.Publication.Single
import Mathlib.Algebra.BigOperators.Group.List.Basic
import Mathlib.Data.List.Sort
import Mathlib.Algebra.Order.BigOperators.Group.List
import Mathlib.Algebra.Order.Group.Nat

/-!
# Draining

A single processor whose statements succeed handles every event it has read.  A
handled event leaves PENDING or has one retry fewer left, whatever the queues
answer, so what is left to do in the whole table goes down with each of them.
-/

namespace Orderly

open Process (Program System)

namespace Outbox

/-- The table and the queues after so many batches. -/
def batches (platform : Platform) (outboxMaxRetries : Int) (environments : Nat → OutboxEnvironment)
    (outbox : Outbox) : Nat → Outbox
  | 0 => outbox
  | count + 1 =>
      ((outbox.batches platform outboxMaxRetries environments count).batch platform outboxMaxRetries
        (environments count)).2.1

/-- The PENDING events. -/
def pending (outbox : Outbox) : List OutboxEvent := outbox.events.rows.filter fun row => row.status = .pending

/-- What is left to do about a PENDING event: the retries it has left, and giving
it up. -/
def rounds (outboxMaxRetries : Int) (row : OutboxEvent) : Nat :=
  if row.status = .pending then (outboxMaxRetries - row.retryCount).toNat + 1 else 0

/-- And about all of them. -/
def budget (outboxMaxRetries : Int) (outbox : Outbox) : Nat :=
  (outbox.events.rows.map (rounds outboxMaxRetries)).sum

end Outbox

/-- The event that an answered statement ends the work on. -/
def handledBy : OutboxEventCall → Option Uuid
  | ⟨.markPublished id, .ok _, _, _⟩ => some id
  | ⟨.markFailed id _, .ok _, _, _⟩ => some id
  | ⟨.resetForRetry id, .ok _, _, _⟩ => some id
  | _ => none

/-- The events a batch has handled. -/
def handled (log : OutboxLog) : List Uuid := log.filterMap handledBy

/-- A statement that succeeds, with no row locked by others. -/
def Succeeds (platform : Platform) (event : OutboxEventCall) : Prop :=
  (∃ value, event.reply = .ok value) ∧ (event.reply, event.after) = event.before.effect platform event.call []

/-- Nobody else is at the table, and no statement of the batch fails. -/
def Undisturbed (platform : Platform) (log : OutboxLog) : Prop :=
  ∀ event ∈ log, event.call.inRepository = true → Succeeds platform event

/-- A handled event leaves PENDING, or it has been retried once more. -/
def Progresses (row later : OutboxEvent) : Prop :=
  later.status ≠ .pending ∨ later.status = .pending ∧ later.retryCount = row.retryCount + 1

/-- What a batch does to the table. -/
structure Handles (before : Outbox) (log : OutboxLog) (after : Outbox) : Prop where
  count : (handled log).length = min 100 before.pending.length
  distinct : (handled log).Nodup
  pending : ∀ id ∈ handled log, ∃ row later, before.events.lookup id = some row ∧ row.status = .pending ∧
    after.events.lookup id = some later ∧ Progresses row later
  others : ∀ id, id ∉ handled log → after.events.lookup id = before.events.lookup id

section Steps

variable {platform : Platform} {outboxMaxRetries : Int} {start state : Outbox} {log : OutboxLog}
  {event : OutboxEventCall}

/-! ## What is left to do -/

namespace Outbox

theorem events_addJob (queueName : String) (jobId : Uuid) : (state.addJob queueName jobId).events = state.events := by
  unfold addJob
  split
  · rfl
  · rfl

/-- The queues do not touch the table. -/
theorem events_perform {call : OutboxCall} (queued : call.inRepository = false) (choice : OutboxChoice) :
    (state.perform platform call choice).2.events = state.events := by
  cases call with
  | createQueue name =>
      cases choice with
      | _ => rfl
  | add queueName name data jobId =>
      cases choice with
      | serve locked => exact events_addJob queueName jobId
      | lose error => exact events_addJob queueName jobId
      | reject error => rfl
  | _ => cases queued

/-- What a change of one row takes off the budget. -/
theorem budget_update (outboxMaxRetries : Int) {row : OutboxEvent} {id : Uuid} (found : state.events.lookup id = some row)
    (waiting : row.status = .pending) {change : OutboxEvent → OutboxEvent}
    (keeps : ∀ row, (change row).id = row.id)
    (less : (change row).status = .pending → (change row).retryCount = row.retryCount + 1 ∧
      row.retryCount < outboxMaxRetries) :
    (state.update id change keeps).budget outboxMaxRetries + 1 ≤ state.budget outboxMaxRetries := by
  have total := Store.Table.sum_update found change keeps (rounds outboxMaxRetries)
  have whole : rounds outboxMaxRetries row = (outboxMaxRetries - row.retryCount).toNat + 1 := if_pos waiting
  change (((state.events.update id change keeps).rows.map (rounds outboxMaxRetries)).sum : Nat) + 1 ≤
    (state.events.rows.map (rounds outboxMaxRetries)).sum
  by_cases again : (change row).status = .pending
  · have rest : rounds outboxMaxRetries (change row) = (outboxMaxRetries - (change row).retryCount).toNat + 1 :=
      if_pos again
    rcases less again with ⟨counted, within⟩
    rw [counted] at rest
    omega
  · have rest : rounds outboxMaxRetries (change row) = 0 := if_neg again
    omega

/-- Nothing is left to do where no event is PENDING. -/
theorem budget_eq_zero (none : state.pending = []) : state.budget outboxMaxRetries = 0 := by
  refine List.sum_eq_zero ?_
  intro value member
  rcases List.mem_map.mp member with ⟨row, listed, rfl⟩
  refine if_neg fun waiting => ?_
  have member : row ∈ state.pending := List.mem_filter.mpr ⟨listed, decide_eq_true waiting⟩
  rw [none] at member
  cases member

/-- And something where one is. -/
theorem pending_of_budget (outboxMaxRetries : Int) (none : state.budget outboxMaxRetries = 0) : state.pending = [] := by
  refine List.eq_nil_iff_forall_not_mem.mpr ?_
  intro row member
  rcases List.mem_filter.mp member with ⟨listed, waiting⟩
  have part : rounds outboxMaxRetries row ≤ state.budget outboxMaxRetries :=
    List.le_sum_of_mem (List.mem_map_of_mem listed)
  rw [none, rounds, if_pos (of_decide_eq_true waiting)] at part
  omega

/-- A poll reads PENDING events, each of them once. -/
theorem getPending_spec (state : Outbox) (locked : List Uuid) (limit : Nat) :
    (∀ row ∈ state.getPending locked limit, state.events.lookup row.id = some row ∧ row.status = .pending) ∧
      ((state.getPending locked limit).map OutboxEvent.id).Nodup := by
  constructor
  · intro row member
    have taken := List.mem_of_mem_take member
    have listed := List.mem_filter.mp ((List.mem_insertionSort _).mp taken)
    exact ⟨Store.Table.lookup_of_mem listed.1, (of_decide_eq_true listed.2).1⟩
  · have sorted := (List.perm_insertionSort (fun a b : OutboxEvent => a.createdAt ≤ b.createdAt)
      (state.events.rows.filter fun event => event.status = .pending ∧ event.id ∉ locked)).map OutboxEvent.id
    refine ((List.take_sublist _ _).map _).nodup (sorted.nodup_iff.mpr ?_)
    exact (List.filter_sublist.map _).nodup state.events.unique

/-- A poll reads a hundred events, or all there are. -/
theorem length_getPending (limit : Nat) : (state.getPending [] limit).length = min limit state.pending.length := by
  unfold getPending pending
  rw [List.length_take, List.length_insertionSort]
  simp

end Outbox

/-! ## The course of a batch -/

/-- How far a batch has got whose statements succeed. -/
structure Course (outboxMaxRetries : Int) (start : Outbox) (log : OutboxLog) (state : Outbox) : Prop where
  unread : log = [] → state = start
  read : log ≠ [] → snapshots log = start.getPending [] 100
  split : (snapshots log).map OutboxEvent.id = (handled log).reverse ++ (remainder log).map OutboxEvent.id
  behind : ∀ id ∈ handled log, ∃ row later, start.events.lookup id = some row ∧ row.status = .pending ∧
    state.events.lookup id = some later ∧ Progresses row later
  others : ∀ id, id ∉ handled log → state.events.lookup id = start.events.lookup id
  spent : state.budget outboxMaxRetries + (handled log).length ≤ start.budget outboxMaxRetries

/-- A batch is on its course as long as no statement has failed. -/
def OnCourse (platform : Platform) (outboxMaxRetries : Int) (start : Outbox) (log : OutboxLog) (state : Outbox) :
    Prop :=
  Undisturbed platform log → Course outboxMaxRetries start log state

namespace Course

theorem begun : Course outboxMaxRetries start [] start := by
  constructor
  · intro _
    rfl
  · intro nonempty
    exact absurd rfl nonempty
  · rfl
  · intro id none
    cases none
  · intro id _
    rfl
  · exact Nat.le_refl _

/-- The events that are left are as they have been read. -/
theorem ahead (course : Course outboxMaxRetries start log state) {row : OutboxEvent} {rest : List OutboxEvent}
    (now : remainder log = row :: rest) : start.events.lookup row.id = some row ∧ row.status = .pending ∧
      state.events.lookup row.id = some row ∧ row.id ∉ handled log := by
  have begun : log ≠ [] := by
    rintro rfl
    cases now
  have whole := course.split
  rw [course.read begun, now] at whole
  rcases start.getPending_spec [] 100 with ⟨known, distinct⟩
  have member : row ∈ start.getPending [] 100 := by
    rw [← course.read begun]
    refine List.mem_of_mem_drop (i := log.countP finishes) ?_
    change row ∈ remainder log
    rw [now]
    exact List.mem_cons_self
  have fresh : row.id ∉ handled log := by
    intro handled
    rw [whole] at distinct
    exact (List.nodup_append.mp distinct).2.2 _ (List.mem_reverse.mpr handled) _ List.mem_cons_self rfl
  have found := (known row member).1
  exact ⟨found, (known row member).2, (course.others row.id fresh).trans found, fresh⟩

/-- A call that neither reads nor finishes, nor touches the table. -/
theorem aside (course : Course outboxMaxRetries start log state) (begun : log ≠ []) (unread : readBy event = [])
    (unfinished : finishes event = false) (unhandled : handledBy event = none)
    (same : event.after.events = state.events) : Course outboxMaxRetries start (event :: log) event.after := by
  have reads : snapshots (event :: log) = snapshots log := by
    rw [snapshots, List.flatMap_cons, unread]
    rfl
  have handles : handled (event :: log) = handled log := List.filterMap_cons_none unhandled
  have budget : event.after.budget outboxMaxRetries = state.budget outboxMaxRetries := by
    unfold Outbox.budget
    rw [same]
  constructor
  · intro none
    cases none
  · intro _
    rw [reads]
    exact course.read begun
  · rw [reads, handles, remainder_other unread unfinished]
    exact course.split
  · rw [handles, same]
    exact course.behind
  · rw [handles, same]
    exact course.others
  · rw [handles, budget]
    exact course.spent

/-- A finishing statement changes the row of its event. -/
theorem finishing (course : Course outboxMaxRetries start log state) {row : OutboxEvent} {rest : List OutboxEvent}
    (now : remainder log = row :: rest) (unread : readBy event = []) (finished : finishes event = true)
    (handles : handledBy event = some row.id) (change : OutboxEvent → OutboxEvent)
    (keeps : ∀ row, (change row).id = row.id) (after : event.after = state.update row.id change keeps)
    (progress : (change row).status ≠ .pending ∨ (change row).status = .pending ∧
      (change row).retryCount = row.retryCount + 1 ∧ row.retryCount < outboxMaxRetries) :
    Course outboxMaxRetries start (event :: log) event.after := by
  rcases course.ahead now with ⟨known, waiting, found, fresh⟩
  have begun : log ≠ [] := by
    rintro rfl
    cases now
  have reads : snapshots (event :: log) = snapshots log := by
    rw [snapshots, List.flatMap_cons, unread]
    rfl
  have grown : handled (event :: log) = row.id :: handled log := List.filterMap_cons_some handles
  have looked : ∀ id, event.after.events.lookup id =
      if id = row.id then (state.events.lookup id).map change else state.events.lookup id := by
    intro id
    rw [after]
    exact Store.Table.lookup_update _ _ _ _ keeps
  constructor
  · intro none
    cases none
  · intro _
    rw [reads]
    exact course.read begun
  · rw [reads, course.split, grown, now, remainder_finished unread finished now]
    simp
  · intro id member
    rw [grown] at member
    rcases List.mem_cons.mp member with rfl | earlier
    · refine ⟨row, change row, known, waiting, ?_, ?_⟩
      · rw [looked, if_pos rfl, found]
        rfl
      · rcases progress with left | ⟨again, counted, _⟩
        · exact Or.inl left
        · exact Or.inr ⟨again, counted⟩
    · rw [looked, if_neg fun same : id = row.id => fresh (same ▸ earlier)]
      exact course.behind id earlier
  · intro id other
    rw [grown, List.mem_cons, not_or] at other
    rw [looked, if_neg other.1]
    exact course.others id other.2
  · have less := Outbox.budget_update outboxMaxRetries found waiting keeps fun again => by
      rcases progress with left | ⟨_, counted, within⟩
      · exact absurd again left
      · exact ⟨counted, within⟩
    have spent := course.spent
    rw [grown, after, List.length_cons]
    omega

/-- The poll, which comes first. -/
theorem polled (course : Course outboxMaxRetries start [] state) :
    Course outboxMaxRetries start [⟨.getPending 100, .ok (state.getPending [] 100), state, state⟩] state := by
  have same : state = start := course.unread rfl
  subst same
  constructor
  · intro none
    cases none
  · intro _
    exact List.append_nil _
  · rfl
  · intro id none
    cases none
  · intro id _
    rfl
  · exact Nat.le_refl _

/-- A call of a queue. -/
theorem queue (course : Course outboxMaxRetries start log event.before) (begun : log ≠ [])
    (queued : event.call.inRepository = false)
    (admitted : (publication platform outboxMaxRetries).Admits log event) :
    Course outboxMaxRetries start (event :: log) event.after := by
  rcases admitted with ⟨choice, same⟩
  have kept : event.after.events = event.before.events := by
    rw [same]
    exact Outbox.events_perform queued choice
  rcases event with ⟨call, reply, before, after⟩
  cases call with
  | createQueue name => exact course.aside begun rfl rfl rfl kept
  | add queueName name data jobId => exact course.aside begun rfl rfl rfl kept
  | _ => cases queued

/-- One call of the batch. -/
theorem step (course : Course outboxMaxRetries start log event.before)
    (inTurn : InTurn outboxMaxRetries log event.call)
    (admitted : (publication platform outboxMaxRetries).Admits log event)
    (succeeds : event.call.inRepository = true → Succeeds platform event) :
    Course outboxMaxRetries start (event :: log) event.after := by
  by_cases queued : event.call.inRepository = false
  · refine course.queue ?_ queued admitted
    rintro rfl
    rcases event with ⟨call, reply, before, after⟩
    cases call with
    | createQueue name => exact inTurn rfl
    | add queueName name data jobId =>
        rcases inTurn with ⟨row, rest, none, _⟩
        cases none
    | _ => cases queued
  · rcases succeeds (Bool.not_eq_false _ ▸ queued) with ⟨⟨value, answered⟩, effect⟩
    rcases event with ⟨call, reply, before, after⟩
    replace effect : (reply, after) = before.effect platform call [] := effect
    cases call with
    | randomUUID => exact inTurn.elim
    | insert id event => exact inTurn.elim
    | getPending limit =>
        rcases inTurn with ⟨rfl, rfl⟩
        cases effect
        exact polled course
    | markPublished id =>
        rcases inTurn with ⟨row, rest, now, rfl⟩
        cases effect
        refine course.finishing now rfl rfl rfl (Outbox.publishedRow before.clock) (fun _ => rfl) rfl (Or.inl ?_)
        exact nofun
    | markFailed id incrementRetry =>
        rcases inTurn with ⟨rfl, row, rest, now, rfl⟩
        cases effect
        refine course.finishing now rfl rfl rfl (Outbox.failedRow before.clock false) (fun _ => rfl) rfl (Or.inl ?_)
        exact nofun
    | resetForRetry id =>
        rcases inTurn with ⟨row, rest, now, rfl, within, _⟩
        simp only [Outbox.effect] at effect
        split at effect
        · cases effect
          cases answered
        · cases effect
          exact course.finishing now rfl rfl rfl Outbox.retriedRow (fun _ => rfl) rfl (Or.inr ⟨rfl, rfl, within⟩)
    | createQueue name => exact absurd rfl queued
    | add queueName name data jobId => exact absurd rfl queued

end Course

end Steps

/-! ## Batches -/

section Batches

variable {platform : Platform} {outboxMaxRetries : Int} {environment : OutboxEnvironment} {outbox : Outbox}

theorem course_batch
    (undisturbed : Undisturbed platform (outbox.batch platform outboxMaxRetries environment).2.2) :
    Course outboxMaxRetries outbox (outbox.batch platform outboxMaxRetries environment).2.2
      (outbox.batch platform outboxMaxRetries environment).2.1 := by
  have onCourse : OnCourse platform outboxMaxRetries outbox
      (outbox.batch platform outboxMaxRetries environment).2.2
      (outbox.batch platform outboxMaxRetries environment).2.1 := by
    apply (Outbox.batch_executes platform outboxMaxRetries environment outbox).invariant processBatch_inTurn
    · intro _
      exact .begun
    · intro log event inTurn admitted before undisturbed
      have earlier := before fun earlier member => undisturbed earlier (List.mem_cons_of_mem _ member)
      exact earlier.step inTurn admitted (undisturbed event List.mem_cons_self)
  exact onCourse undisturbed

/-- It polls and goes through all it has read. -/
theorem batch_finishes
    (undisturbed : Undisturbed platform (outbox.batch platform outboxMaxRetries environment).2.2) :
    (outbox.batch platform outboxMaxRetries environment).2.2 ≠ [] ∧
      remainder (outbox.batch platform outboxMaxRetries environment).2.2 = [] := by
  have executes := Outbox.batch_executes platform outboxMaxRetries environment outbox
  constructor
  · intro none
    rw [none] at executes
    have unstarted := executes.unanswered
    cases outcome : (outbox.batch platform outboxMaxRetries environment).1 with
    | ok value =>
        rw [outcome] at unstarted
        cases unstarted
    | error error =>
        rw [outcome] at unstarted
        cases unstarted
  · have ends := (executes.meets processBatch_inTurn).1
    cases outcome : (outbox.batch platform outboxMaxRetries environment).1 with
    | ok value =>
        rw [outcome] at ends
        exact ends
    | error error =>
        rw [outcome] at ends
        rcases ends with ⟨event, earlier, error, same, statement, failed⟩
        rcases undisturbed event (same ▸ List.mem_cons_self) statement with ⟨⟨value, answered⟩, _⟩
        cases failed.symm.trans answered

/-- A batch handles as many events as it can read. -/
theorem handles_batch
    (undisturbed : Undisturbed platform (outbox.batch platform outboxMaxRetries environment).2.2) :
    Handles outbox (outbox.batch platform outboxMaxRetries environment).2.2
      (outbox.batch platform outboxMaxRetries environment).2.1 := by
  have course := course_batch undisturbed
  rcases batch_finishes undisturbed with ⟨begun, finished⟩
  have all := course.split
  rw [course.read begun, finished, List.map_nil, List.append_nil] at all
  have distinct := (outbox.getPending_spec [] 100).2
  rw [all] at distinct
  have counted := congrArg List.length all
  rw [List.length_map, Outbox.length_getPending, List.length_reverse] at counted
  exact ⟨counted.symm, List.nodup_reverse.mp distinct, course.behind, course.others⟩

/-- And takes as much off the budget. -/
theorem budget_batch
    (undisturbed : Undisturbed platform (outbox.batch platform outboxMaxRetries environment).2.2) :
    (outbox.batch platform outboxMaxRetries environment).2.1.budget outboxMaxRetries +
      min 100 outbox.pending.length ≤ outbox.budget outboxMaxRetries := by
  rw [← (handles_batch undisturbed).count]
  exact (course_batch undisturbed).spent

/-- After so many batches, at least as many rounds are over. -/
theorem budget_batches {environments : Nat → OutboxEnvironment} {count : Nat}
    (undisturbed : ∀ earlier < count, Undisturbed platform
      ((outbox.batches platform outboxMaxRetries environments earlier).batch platform outboxMaxRetries
        (environments earlier)).2.2) :
    (outbox.batches platform outboxMaxRetries environments count).budget outboxMaxRetries ≤
      outbox.budget outboxMaxRetries - count := by
  induction count with
  | zero => exact Nat.le_refl _
  | succ count inductionHypothesis =>
      have before := inductionHypothesis fun earlier within => undisturbed earlier (Nat.lt_succ_of_lt within)
      have spent := budget_batch (undisturbed count (Nat.lt_succ_self count))
      change (outbox.batches platform outboxMaxRetries environments (count + 1)).budget outboxMaxRetries + _ ≤ _
        at spent
      by_cases none : (outbox.batches platform outboxMaxRetries environments count).pending = []
      · rw [Outbox.budget_eq_zero none] at spent
        omega
      · have some := List.length_pos_iff.mpr none
        omega

/-- Every batch handles as many PENDING events as fit, and after as many batches as
there are rounds left no event is PENDING. -/
theorem outbox_drains (platform : Platform) (outboxMaxRetries : Int) (outbox : Outbox)
    (environments : Nat → OutboxEnvironment) (count : Nat)
    (undisturbed : ∀ earlier < count, Undisturbed platform
      ((outbox.batches platform outboxMaxRetries environments earlier).batch platform outboxMaxRetries
        (environments earlier)).2.2) :
    (∀ earlier < count, Handles (outbox.batches platform outboxMaxRetries environments earlier)
      ((outbox.batches platform outboxMaxRetries environments earlier).batch platform outboxMaxRetries
        (environments earlier)).2.2 (outbox.batches platform outboxMaxRetries environments (earlier + 1))) ∧
      (outbox.budget outboxMaxRetries ≤ count →
        (outbox.batches platform outboxMaxRetries environments count).pending = []) := by
  constructor
  · intro earlier within
    exact handles_batch (undisturbed earlier within)
  · intro enough
    have left := budget_batches undisturbed
    apply Outbox.pending_of_budget outboxMaxRetries
    omega

/-- An environment that serves every statement, and none of them overflows. -/
theorem undisturbed_of_served
    (served : ∀ earlier call, OutboxCall.inRepository call = true → environment earlier call = .serve [])
    (answered : (outbox.batch platform outboxMaxRetries environment).2.2.all
      (fun event => !event.call.inRepository || event.reply.isOk) = true) :
    Undisturbed platform (outbox.batch platform outboxMaxRetries environment).2.2 := by
  intro event member statement
  have replied := List.all_eq_true.mp answered event member
  rw [statement] at replied
  rcases System.play_answers member with none | ⟨earlier, same⟩
  · cases none
  · rw [served earlier event.call statement] at same
    rcases event with ⟨call, reply, before, after⟩
    injection same with _ replies _ afters
    refine ⟨?_, Prod.ext replies afters⟩
    cases reply with
    | ok value => exact ⟨value, rfl⟩
    | error error => cases replied

/-- A queue that never takes a job. -/
def refusing : OutboxEnvironment := fun _ call =>
  match call with
  | .add _ _ _ _ => .reject (.error "Connection is closed.")
  | _ => .serve []

/-- The event of the small outbox is retried twice and given up. -/
theorem outbox_drains_refused :
    smallOutbox.budget 2 = 3 ∧ (smallOutbox.batches postgresJs 2 (fun _ => refusing) 3).pending = [] := by
  refine ⟨by decide, (outbox_drains postgresJs 2 smallOutbox (fun _ => refusing) 3 ?_).2 (by decide)⟩
  intro earlier within
  apply undisturbed_of_served
  · intro log call statement
    cases call with
    | add queueName name data jobId => cases statement
    | _ => rfl
  · revert within
    revert earlier
    decide +kernel

end Batches

end Orderly
