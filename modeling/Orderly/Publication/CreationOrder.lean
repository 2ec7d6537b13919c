import Orderly.Publication.PublishedFinal
import Orderly.Publication.Draining

/-!
# Creation order

A batch reads the oldest PENDING events and enqueues them in that order.  An
event that a queue refuses stays PENDING for a later batch, but the batch goes
on, so a later event of the same aggregate may be enqueued before it.  Where
that does not happen, the events of each aggregate are enqueued in creation
order.
-/

namespace Orderly

open Process (Program System)

/-- Two events of one aggregate, the first of which was created earlier. -/
def Precedes (earlier later : OutboxEvent) : Prop :=
  earlier.aggregateType = later.aggregateType ∧ earlier.aggregateId = later.aggregateId ∧
    earlier.createdAt < later.createdAt

/-- Of two enqueued events of an aggregate, the one created earlier was enqueued first. -/
def InCreationOrder (outbox : Outbox) : Prop :=
  ∀ (first second : Nat) (queue queue' : String) (earlier later : OutboxEvent),
    earlier ∈ outbox.events.rows → later ∈ outbox.events.rows → Precedes earlier later →
    outbox.jobs[first]? = some (queue, earlier.id) → outbox.jobs[second]? = some (queue', later.id) →
    first < second

/-- The job that a call has added to a queue. -/
def addedBy : OutboxEventCall → Option (String × Uuid)
  | ⟨.add queueName _ _ jobId, _, before, after⟩ =>
      if (queueName, jobId) ∉ before.jobs ∧ (queueName, jobId) ∈ after.jobs then some (queueName, jobId)
      else none
  | _ => none

/-- After an event was refused, the batch enqueues no later event of its aggregate. -/
def HoldsBack : OutboxLog → Prop
  | [] => True
  | event :: earlier => HoldsBack earlier ∧ ∀ job, addedBy event = some job →
      ∀ refusal ∈ refused earlier, ∀ row ∈ snapshots earlier, row.id = job.2 → ¬ Precedes refusal row

/-- A poll that is answered passes over no row. -/
def PollsAll : OutboxEventCall → Prop
  | ⟨.getPending limit, .ok rows, before, _⟩ => rows = before.getPending [] limit
  | _ => True

/-- Nobody else locks the rows that a batch polls. -/
def Unlocked (environment : OutboxEnvironment) : Prop :=
  ∀ earlier limit locked, environment earlier (.getPending limit) = .serve locked → locked = []

/-- What a single processor and the services get to: batches, one after the other,
and events written in between. -/
inductive Polled (platform : Platform) (outboxMaxRetries : Int) (Fair : OutboxLog → Prop) (start : Outbox) :
    Outbox → Prop where
  | start : Polled platform outboxMaxRetries Fair start start
  | batch {outbox : Outbox} (environment : OutboxEnvironment) :
      Polled platform outboxMaxRetries Fair start outbox → Unlocked environment →
      Fair (outbox.batch platform outboxMaxRetries environment).2.2 →
      Polled platform outboxMaxRetries Fair start (outbox.batch platform outboxMaxRetries environment).2.1
  | write {outbox : Outbox} (id : Uuid) (event : NewOutboxEvent) :
      Polled platform outboxMaxRetries Fair start outbox →
      (∀ row ∈ outbox.events.rows, row.createdAt < outbox.clock) →
      Polled platform outboxMaxRetries Fair start (outbox.effect platform (.insert id event) []).2

namespace OutboxEvent

/-- The columns that no statement of a batch changes. -/
def written (row : OutboxEvent) : Uuid × String × Uuid × Date × Json :=
  (row.id, row.aggregateType, row.aggregateId, row.createdAt, row.payload)

variable {a a' b b' : OutboxEvent}

theorem id_written (same : a.written = b.written) : a.id = b.id := congrArg Prod.fst same

theorem payload_written (same : a.written = b.written) : a.payload = b.payload :=
  congrArg (fun columns => columns.2.2.2.2) same

theorem precedes_written (first : a.written = a'.written) (second : b.written = b'.written)
    (precedes : Precedes a b) : Precedes a' b' := by
  simp only [written, Prod.mk.injEq] at first second
  unfold Precedes at *
  rw [← first.2.1, ← first.2.2.1, ← first.2.2.2.1, ← second.2.1, ← second.2.2.1, ← second.2.2.2.1]
  exact precedes

end OutboxEvent

/-- An event that may still be enqueued: it is PENDING or in hand, its payload names
a queue, and its job is not there. -/
def Waits (log : OutboxLog) (outbox : Outbox) (row : OutboxEvent) : Prop :=
  (statusAt outbox row.id = some .pending ∨ row ∈ remainder log) ∧
    ∃ queueName, OutboxProcessor.queueName row.payload = .ok queueName ∧ (queueName, row.id) ∉ outbox.jobs

/-- The jobs are in order, and nothing that may still be enqueued belongs before
one of them.  The rows are those at the start of a batch. -/
structure Sequenced (start : Outbox) (log : OutboxLog) (outbox : Outbox) : Prop where
  named : ∀ job ∈ outbox.jobs, ∃ row ∈ start.events.rows, row.id = job.2 ∧
    OutboxProcessor.queueName row.payload = .ok job.1
  ordered : outbox.jobs.Pairwise fun job job' => ∀ row ∈ start.events.rows, ∀ row' ∈ start.events.rows,
    row.id = job.2 → row'.id = job'.2 → ¬ Precedes row' row
  waiting : ∀ row ∈ start.events.rows, ∀ row' ∈ start.events.rows, Precedes row row' → Waits log outbox row →
    ∀ job ∈ outbox.jobs, job.2 ≠ row'.id

/-- How a batch goes through what it has read. -/
structure Turns (start : Outbox) (log : OutboxLog) (outbox : Outbox) : Prop where
  sequenced : Sequenced start log outbox
  rows : outbox.events.rows.map OutboxEvent.written = start.events.rows.map OutboxEvent.written
  unread : log = [] → outbox = start
  reads : ∀ row ∈ snapshots log, row ∈ start.events.rows
  sorted : (snapshots log).Pairwise fun row row' => row.createdAt ≤ row'.createdAt
  distinct : ((snapshots log).map OutboxEvent.id).Nodup
  oldest : ∀ row ∈ start.events.rows, statusAt outbox row.id = some .pending → row ∉ snapshots log →
    ∀ row' ∈ snapshots log, row'.createdAt ≤ row.createdAt
  behind : ∀ row ∈ snapshots log, row ∉ remainder log → Waits log outbox row → row ∈ refused log
  jobs : ∀ job ∈ queued log, job ∈ outbox.jobs

/-- What is taken off a sorted list comes before the rest. -/
theorem take_oldest {rows : List OutboxEvent} (sorted : rows.Pairwise fun a b => a.createdAt ≤ b.createdAt)
    (limit : Nat) {row row' : OutboxEvent} (member : row ∈ rows) (unread : row ∉ rows.take limit)
    (read : row' ∈ rows.take limit) : row'.createdAt ≤ row.createdAt := by
  rw [← List.take_append_drop limit rows] at sorted member
  rcases List.mem_append.mp member with taken | dropped
  · exact absurd taken unread
  · exact (List.pairwise_append.mp sorted).2.2 row' read row dropped

/-- A poll reads the oldest PENDING events in creation order. -/
theorem Outbox.getPending_oldest (outbox : Outbox) (limit : Nat) :
    ((outbox.getPending [] limit).Pairwise fun a b => a.createdAt ≤ b.createdAt) ∧
      ∀ row ∈ outbox.events.rows, row.status = .pending → row ∉ outbox.getPending [] limit →
        ∀ row' ∈ outbox.getPending [] limit, row'.createdAt ≤ row.createdAt := by
  have sorted := List.pairwise_insertionSort (fun a b : OutboxEvent => a.createdAt ≤ b.createdAt)
    (outbox.events.rows.filter fun event => event.status = .pending ∧ event.id ∉ ([] : List Uuid))
  constructor
  · exact sorted.sublist (List.take_sublist _ _)
  · intro row listed waiting unread row' read
    refine take_oldest sorted limit ?_ unread read
    refine (List.mem_insertionSort _).mpr (List.mem_filter.mpr ⟨listed, ?_⟩)
    simp [waiting]

section Steps

variable {platform : Platform} {outboxMaxRetries : Int} {start before after : Outbox} {log : OutboxLog}
  {event : OutboxEventCall} {row : OutboxEvent} {rest : List OutboxEvent}

namespace Turns

/-- A call that leaves the queues as they are and at most ends the work on the
current event. -/
theorem quiet (turns : Turns start log before) (now : remainder log = row :: rest)
    (unread : readBy event = []) (jobs : after.jobs = before.jobs)
    (rows : after.events.rows.map OutboxEvent.written = before.events.rows.map OutboxEvent.written)
    (others : ∀ id, id ≠ row.id → statusAt after id = statusAt before id)
    (known : ∀ job ∈ queuedBy event, job ∈ before.jobs)
    (finished : finishes event = true → Waits (event :: log) after row → row ∈ refused log) :
    Turns start (event :: log) after := by
  have begun : log ≠ [] := by
    rintro rfl
    cases now
  have reads : snapshots (event :: log) = snapshots log := by
    rw [snapshots, List.flatMap_cons, unread]
    rfl
  have left : (remainder (event :: log)).Sublist (remainder log) := by
    rw [remainder_cons unread]
    exact List.drop_sublist _ _
  have member : row ∈ remainder log := by
    rw [now]
    exact List.mem_cons_self
  have listed : row ∈ start.events.rows := turns.reads row ((remainder_sublist log).mem member)
  have waits : ∀ other ∈ start.events.rows, Waits (event :: log) after other → Waits log before other := by
    rintro other known ⟨open', queueName, named, missing⟩
    refine ⟨?_, queueName, named, jobs ▸ missing⟩
    by_cases same : other.id = row.id
    · exact Or.inr (start.events.eq_of_key known listed same ▸ member)
    · rcases open' with waiting | ahead
      · exact Or.inl ((others other.id same).symm.trans waiting)
      · exact Or.inr (left.mem ahead)
  constructor
  · constructor
    · rw [jobs]
      exact turns.sequenced.named
    · rw [jobs]
      exact turns.sequenced.ordered
    · rw [jobs]
      intro a inside b inside' precedes waiting
      exact turns.sequenced.waiting a inside b inside' precedes (waits a inside waiting)
  · exact rows.trans turns.rows
  · intro none
    cases none
  · rw [reads]
    exact turns.reads
  · rw [reads]
    exact turns.sorted
  · rw [reads]
    exact turns.distinct
  · rw [reads]
    intro a inside waiting unread'
    refine turns.oldest a inside ?_ unread'
    refine (others a.id ?_).symm.trans waiting
    intro same
    exact unread' (start.events.eq_of_key inside listed same ▸ (remainder_sublist log).mem member)
  · rw [reads]
    intro a inside gone waiting
    refine List.mem_append_right _ ?_
    by_cases earlier : a ∈ remainder log
    · cases ends : finishes event with
      | false =>
          rw [remainder_other unread ends] at gone
          exact absurd earlier gone
      | true =>
          rw [remainder_finished unread ends now] at gone
          rw [now] at earlier
          rcases List.mem_cons.mp earlier with rfl | later
          · exact finished ends waiting
          · exact absurd later gone
    · exact turns.behind a inside earlier (waits a (turns.reads a inside) waiting)
  · intro job member
    rcases List.mem_filterMap.mp member with ⟨source, inside, adds⟩
    rw [jobs]
    rcases List.mem_cons.mp inside with rfl | earlier
    · exact known job adds
    · exact turns.jobs job (List.mem_filterMap.mpr ⟨source, earlier, adds⟩)

/-- A call that adds the job of the current event, which no earlier refusal holds back. -/
theorem enqueued (turns : Turns start log before) (now : remainder log = row :: rest) {queueName : String}
    (named : OutboxProcessor.queueName row.payload = .ok queueName) (unread : readBy event = [])
    (unfinished : finishes event = false) (missing : (queueName, row.id) ∉ before.jobs)
    (jobs : after.jobs = before.jobs ++ [(queueName, row.id)]) (events : after.events = before.events)
    (known : ∀ job ∈ queuedBy event, job = (queueName, row.id))
    (free : ∀ refusal ∈ refused log, ¬ Precedes refusal row) : Turns start (event :: log) after := by
  have begun : log ≠ [] := by
    rintro rfl
    cases now
  have reads : snapshots (event :: log) = snapshots log := by
    rw [snapshots, List.flatMap_cons, unread]
    rfl
  have left : remainder (event :: log) = remainder log := remainder_other unread unfinished
  have member : row ∈ remainder log := by
    rw [now]
    exact List.mem_cons_self
  have listed : row ∈ start.events.rows := turns.reads row ((remainder_sublist log).mem member)
  have waits : ∀ other, Waits (event :: log) after other → Waits log before other := by
    rintro other ⟨open', queueName', named', absent⟩
    rw [left, statusAt, events] at open'
    refine ⟨open', queueName', named', fun present => absent ?_⟩
    rw [jobs]
    exact List.mem_append_left _ present
  have waiting : Waits log before row := ⟨Or.inr member, queueName, named, missing⟩
  have first : ∀ other ∈ start.events.rows, Precedes other row → ¬ Waits log before other := by
    intro other inside precedes waits
    by_cases read : other ∈ snapshots log
    · by_cases ahead : other ∈ remainder log
      · have sorted := turns.sorted.sublist (remainder_sublist log)
        rw [now] at sorted ahead
        rcases List.mem_cons.mp ahead with rfl | later
        · exact lt_irrefl _ precedes.2.2
        · exact absurd precedes.2.2 (not_lt_of_ge ((List.pairwise_cons.mp sorted).1 other later))
      · exact free other (turns.behind other read ahead waits) precedes
    · rcases waits.1 with pending | ahead
      · have older := turns.oldest other inside pending read row ((remainder_sublist log).mem member)
        exact absurd precedes.2.2 (not_lt_of_ge older)
      · exact read ((remainder_sublist log).mem ahead)
  constructor
  · constructor
    · rw [jobs]
      intro job inside
      rcases List.mem_append.mp inside with old | new
      · exact turns.sequenced.named job old
      · cases List.mem_singleton.mp new
        exact ⟨row, listed, rfl, named⟩
    · rw [jobs]
      refine List.pairwise_append.mpr ⟨turns.sequenced.ordered, List.pairwise_singleton _ _, ?_⟩
      intro job old job' new a inside b inside' ofJob ofRow
      cases List.mem_singleton.mp new
      cases start.events.eq_of_key inside' listed ofRow
      intro precedes
      exact turns.sequenced.waiting row listed a inside precedes waiting job old ofJob.symm
    · rw [jobs]
      intro a inside b inside' precedes open' job present
      rcases List.mem_append.mp present with old | new
      · exact turns.sequenced.waiting a inside b inside' precedes (waits a open') job old
      · cases List.mem_singleton.mp new
        intro same
        cases start.events.eq_of_key inside' listed same.symm
        exact first a inside precedes (waits a open')
  · rw [events]
    exact turns.rows
  · intro none
    cases none
  · rw [reads]
    exact turns.reads
  · rw [reads]
    exact turns.sorted
  · rw [reads]
    exact turns.distinct
  · rw [reads]
    intro a inside open'
    rw [statusAt, events] at open'
    exact turns.oldest a inside open'
  · rw [reads, left]
    intro a inside gone open'
    exact List.mem_append_right _ (turns.behind a inside gone (waits a open'))
  · intro job inside
    rcases List.mem_filterMap.mp inside with ⟨source, from', adds⟩
    rw [jobs]
    rcases List.mem_cons.mp from' with rfl | earlier
    · rw [known job adds]
      exact List.mem_append_right _ (List.mem_singleton.mpr rfl)
    · exact List.mem_append_left _ (turns.jobs job (List.mem_filterMap.mpr ⟨source, earlier, adds⟩))

/-- The first call, which reads some of the oldest events. -/
theorem polled (turns : Turns start [] start) (unfinished : finishes event = false) (unqueued : queuedBy event = none)
    (pending : ∀ row ∈ readBy event, row ∈ start.events.rows ∧ row.status = .pending)
    (sorted : (readBy event).Pairwise fun row row' => row.createdAt ≤ row'.createdAt)
    (distinct : ((readBy event).map OutboxEvent.id).Nodup)
    (oldest : ∀ row ∈ start.events.rows, row.status = .pending → row ∉ readBy event →
      ∀ row' ∈ readBy event, row'.createdAt ≤ row.createdAt) : Turns start [event] start := by
  have reads : snapshots [event] = readBy event := List.append_nil _
  have left : remainder [event] = readBy event := by
    unfold remainder
    rw [reads, List.countP_cons_of_neg (by rw [unfinished]; exact Bool.false_ne_true)]
    rfl
  have waits : ∀ row, Waits [event] start row → Waits [] start row := by
    rintro row ⟨open', named⟩
    refine ⟨Or.inl ?_, named⟩
    rcases open' with waiting | ahead
    · exact waiting
    · rw [left] at ahead
      rw [statusAt_of_mem (pending row ahead).1, (pending row ahead).2]
  constructor
  · constructor
    · exact turns.sequenced.named
    · exact turns.sequenced.ordered
    · intro a inside b inside' precedes open'
      exact turns.sequenced.waiting a inside b inside' precedes (waits a open')
  · rfl
  · intro none
    cases none
  · rw [reads]
    exact fun row inside => (pending row inside).1
  · rw [reads]
    exact sorted
  · rw [reads]
    exact distinct
  · rw [reads]
    intro row inside waiting unread
    refine oldest row inside ?_ unread
    rw [statusAt_of_mem inside] at waiting
    exact Option.some.inj waiting
  · rw [reads, left]
    intro row inside gone
    exact absurd inside gone
  · intro job member
    rcases List.mem_filterMap.mp member with ⟨source, inside, adds⟩
    rw [List.mem_singleton.mp inside, unqueued] at adds
    cases adds

/-- A statement that changes at most the row of the current event. -/
theorem updated (turns : Turns start log before) (now : remainder log = row :: rest) (unread : readBy event = [])
    (unqueued : queuedBy event = none) (change : OutboxEvent → OutboxEvent)
    (keeps : ∀ row, (change row).id = row.id)
    (written : ∀ row, (change row).written = row.written)
    (changed : after = before.update row.id change keeps ∨ after = before)
    (finished : finishes event = true → Waits (event :: log) after row → row ∈ refused log) :
    Turns start (event :: log) after := by
  refine turns.quiet now unread ?_ ?_ ?_ ?_ finished
  · rcases changed with rfl | rfl
    · rfl
    · rfl
  · rcases changed with rfl | rfl
    · change (before.events.update row.id change keeps).rows.map OutboxEvent.written = _
      unfold Store.Table.update
      rw [List.map_map]
      refine List.map_congr_left fun other _ => ?_
      change OutboxEvent.written (if other.id = row.id then change other else other) = _
      split
      · exact written other
      · rfl
    · rfl
  · intro id different
    rcases changed with rfl | rfl
    · exact statusAt_update_other different
    · rfl
  · rw [unqueued]
    intro job none
    cases none

/-- Rows that are no longer PENDING or in hand do not wait. -/
theorem not_waits (turns : Turns start log before) (now : remainder log = row :: rest) (unread : readBy event = [])
    (finished : finishes event = true) (settled : statusAt after row.id ≠ some .pending) :
    ¬ Waits (event :: log) after row := by
  rintro ⟨open', _⟩
  rcases open' with waiting | ahead
  · exact settled waiting
  · rw [remainder_finished unread finished now] at ahead
    have distinct := turns.distinct.sublist ((remainder_sublist log).map OutboxEvent.id)
    rw [now] at distinct
    exact (List.nodup_cons.mp distinct).1 (List.mem_map_of_mem ahead)

/-- An event that has been put back has been refused, unless it waits for nothing. -/
theorem refused_of_tried (turns : Turns start log before) (now : remainder log = row :: rest)
    (tried : Tried log row) (jobs : after.jobs = before.jobs) (waits : Waits (event :: log) after row) :
    row ∈ refused log := by
  have listed : row ∈ start.events.rows := by
    refine turns.reads row ((remainder_sublist log).mem ?_)
    rw [now]
    exact List.mem_cons_self
  rcases waits with ⟨_, queueName, named, missing⟩
  rcases tried with ⟨error, unnamed⟩ | turned | ⟨queueName', known⟩
  · cases named.symm.trans unnamed
  · exact turned
  · have present := turns.jobs _ known
    rcases turns.sequenced.named _ present with ⟨source, inside, same, named'⟩
    cases start.events.eq_of_key inside listed same
    cases named.symm.trans named'
    rw [jobs] at missing
    exact absurd present missing

/-- A poll, which may fail. -/
theorem poll (turns : Turns start [] before) {reply : Except JsError (List OutboxEvent)}
    (admitted : (publication platform outboxMaxRetries).Admits [] ⟨.getPending 100, reply, before, after⟩)
    (polls : PollsAll ⟨.getPending 100, reply, before, after⟩) :
    Turns start [⟨.getPending 100, reply, before, after⟩] after := by
  have same : before = start := turns.unread rfl
  subst same
  rcases System.admits_iff.mp admitted with ⟨choice, performed⟩
  have kept : after = before := by
    cases choice with
    | serve locked => exact (Prod.mk.inj performed).2.symm
    | lose error => exact (Prod.mk.inj performed).2.symm
    | reject error => exact (Prod.mk.inj performed).2.symm
  subst kept
  cases reply with
  | error error =>
      apply turns.polled rfl rfl
      · intro row none
        cases none
      · exact List.Pairwise.nil
      · exact List.nodup_nil
      · intro row _ _ _ row' none
        cases none
  | ok rows =>
      have same : rows = after.getPending [] 100 := polls
      subst same
      rcases after.getPending_spec [] 100 with ⟨known, distinct⟩
      rcases Outbox.getPending_oldest after 100 with ⟨sorted, oldest⟩
      apply turns.polled rfl rfl
      · intro row member
        exact ⟨Store.Table.mem_of_lookup (known row member).1, (known row member).2⟩
      · exact sorted
      · exact distinct
      · exact oldest

/-- A retry is counted unless it overflows. -/
theorem reset_cases (platform : Platform) (before : Outbox) (id : Uuid) (locked : List Uuid) :
    (before.effect platform (.resetForRetry id) locked).2 = before.update id Outbox.retriedRow (fun _ => rfl) ∨
      (before.effect platform (.resetForRetry id) locked).2 = before := by
  simp only [Outbox.effect]
  split
  · exact Or.inr rfl
  · exact Or.inl rfl

/-- One call of the batch. -/
theorem step (turns : Turns start log event.before) (inTurn : InTurn outboxMaxRetries log event.call)
    (admitted : (publication platform outboxMaxRetries).Admits log event) (polls : PollsAll event)
    (holdsBack : HoldsBack (event :: log)) : Turns start (event :: log) event.after := by
  rcases event with ⟨call, reply, before, after⟩
  rcases System.admits_iff.mp admitted with ⟨choice, performed⟩
  cases call with
  | randomUUID => exact inTurn.elim
  | insert id event => exact inTurn.elim
  | getPending limit =>
      rcases inTurn with ⟨rfl, rfl⟩
      exact turns.poll admitted polls
  | createQueue name =>
      rcases List.exists_cons_of_ne_nil inTurn with ⟨row, rest, now⟩
      have kept : after = before := by
        cases choice with
        | serve locked => exact (Prod.mk.inj performed).2.symm
        | lose error => exact (Prod.mk.inj performed).2.symm
        | reject error => exact (Prod.mk.inj performed).2.symm
      refine turns.updated now rfl rfl id (fun _ => rfl) (fun _ => rfl) (Or.inr kept) ?_
      intro finished
      cases finished
  | add queueName name data jobId =>
      rcases inTurn with ⟨row, rest, now, rfl, named⟩
      have kept : after = before ∨ after = before.addJob queueName row.id := by
        cases choice with
        | serve locked => exact Or.inr (Prod.mk.inj performed).2.symm
        | lose error => exact Or.inr (Prod.mk.inj performed).2.symm
        | reject error => exact Or.inl (Prod.mk.inj performed).2.symm
      by_cases new : (queueName, row.id) ∉ before.jobs ∧ (queueName, row.id) ∈ after.jobs
      · have grown : after = before.addJob queueName row.id := by
          rcases kept with same | grown
          · rw [same] at new
            exact absurd new.2 new.1
          · exact grown
        have jobs : after.jobs = before.jobs ++ [(queueName, row.id)] := by
          rw [grown, Outbox.addJob, if_neg new.1]
        refine turns.enqueued now named rfl rfl new.1 jobs (grown ▸ Outbox.events_addJob queueName row.id) ?_ ?_
        · intro job adds
          rw [queuedBy, if_pos new.2] at adds
          exact (Option.some.inj adds).symm
        · intro refusal refused
          refine holdsBack.2 (queueName, row.id) (if_pos new) refusal refused row ?_ rfl
          refine (remainder_sublist log).mem ?_
          rw [now]
          exact List.mem_cons_self
      · have same : after.jobs = before.jobs := by
          rcases kept with rfl | grown
          · rfl
          · rw [grown, Outbox.addJob]
            split
            · rfl
            · next missing =>
                rw [grown] at new
                exact absurd ⟨missing, Outbox.mem_addJob queueName row.id⟩ new
        refine turns.quiet now rfl same ?_ ?_ ?_ fun finished => (by cases finished)
        · rcases kept with rfl | grown
          · rfl
          · rw [grown, Outbox.events_addJob]
        · intro id _
          rcases kept with rfl | grown
          · rfl
          · rw [grown, statusAt, statusAt, Outbox.events_addJob]
        · intro job adds
          rw [queuedBy] at adds
          split at adds
          · next present =>
              cases adds
              exact same ▸ present
          · cases adds
  | markPublished id =>
      rcases inTurn with ⟨row, rest, now, rfl⟩
      cases choice with
      | serve locked =>
          cases performed
          refine turns.updated now rfl rfl (Outbox.publishedRow before.clock) (fun _ => rfl) (fun _ => rfl)
            (Or.inl rfl) fun _ waits => absurd waits (turns.not_waits now rfl rfl ?_)
          exact statusAt_update_ne fun _ same => (by cases same)
      | lose error =>
          cases performed
          exact turns.updated now rfl rfl (Outbox.publishedRow before.clock) (fun _ => rfl) (fun _ => rfl)
            (Or.inl rfl) fun finished => (by cases finished)
      | reject error =>
          cases performed
          exact turns.updated now rfl rfl id (fun _ => rfl) (fun _ => rfl) (Or.inr rfl) fun finished => (by cases finished)
  | markFailed id incrementRetry =>
      rcases inTurn with ⟨rfl, row, rest, now, rfl⟩
      cases choice with
      | serve locked =>
          cases performed
          refine turns.updated now rfl rfl (Outbox.failedRow before.clock false) (fun _ => rfl) (fun _ => rfl)
            (Or.inl rfl) fun _ waits => absurd waits (turns.not_waits now rfl rfl ?_)
          exact statusAt_update_ne fun _ same => (by cases same)
      | lose error =>
          cases performed
          exact turns.updated now rfl rfl (Outbox.failedRow before.clock false) (fun _ => rfl) (fun _ => rfl)
            (Or.inl rfl) fun finished => (by cases finished)
      | reject error =>
          cases performed
          exact turns.updated now rfl rfl id (fun _ => rfl) (fun _ => rfl) (Or.inr rfl) fun finished => (by cases finished)
  | resetForRetry id =>
      rcases inTurn with ⟨row, rest, now, rfl, _, tried⟩
      have kept : after = before.update row.id Outbox.retriedRow (fun _ => rfl) ∨ after = before := by
        have reached := (congrArg Prod.snd performed).symm
        cases choice with
        | serve locked => exact (reset_cases platform before row.id locked).imp reached.trans reached.trans
        | lose error => exact (reset_cases platform before row.id []).imp reached.trans reached.trans
        | reject error => exact Or.inr reached
      refine turns.updated now rfl rfl Outbox.retriedRow (fun _ => rfl) (fun _ => rfl) kept fun _ waits => ?_
      refine turns.refused_of_tried now tried ?_ waits
      rcases kept with rfl | rfl
      · rfl
      · rfl

end Turns

end Steps

/-! ## Batches -/

section Batches

variable {platform : Platform} {outboxMaxRetries : Int} {environment : OutboxEnvironment} {outbox start : Outbox}

/-- A batch is in turn as long as it has held back what it had to. -/
def InTurns (start : Outbox) (log : OutboxLog) (outbox : Outbox) : Prop :=
  (∀ event ∈ log, PollsAll event) → HoldsBack log → Turns start log outbox

/-- Every poll of a batch passes over no row. -/
theorem pollsAll_batch (unlocked : Unlocked environment) :
    ∀ event ∈ (outbox.batch platform outboxMaxRetries environment).2.2, PollsAll event := by
  intro event member
  rcases System.play_answers member with none | ⟨earlier, same⟩
  · cases none
  · rcases event with ⟨call, reply, before, after⟩
    cases call with
    | getPending limit =>
        cases reply with
        | error error => exact trivial
        | ok rows =>
            injection same with _ replies
            cases decided : environment earlier (.getPending limit) with
            | serve locked =>
                rw [decided, unlocked earlier limit locked decided] at replies
                exact Except.ok.inj replies
            | lose error =>
                rw [decided] at replies
                cases replies
            | reject error =>
                rw [decided] at replies
                cases replies
    | _ => exact trivial

theorem Turns.begun (sequenced : Sequenced outbox [] outbox) : Turns outbox [] outbox := by
  constructor
  · exact sequenced
  · rfl
  · intro _
    rfl
  · intro row none
    cases none
  · exact List.Pairwise.nil
  · exact List.nodup_nil
  · intro row _ _ _ row' none
    cases none
  · intro row none
    cases none
  · intro job none
    cases none

theorem turns_batch (sequenced : Sequenced outbox [] outbox) (unlocked : Unlocked environment)
    (holdsBack : HoldsBack (outbox.batch platform outboxMaxRetries environment).2.2) :
    Turns outbox (outbox.batch platform outboxMaxRetries environment).2.2
      (outbox.batch platform outboxMaxRetries environment).2.1 := by
  have inTurns : InTurns outbox (outbox.batch platform outboxMaxRetries environment).2.2
      (outbox.batch platform outboxMaxRetries environment).2.1 := by
    apply (Outbox.batch_executes platform outboxMaxRetries environment outbox).invariant processBatch_inTurn
    · intro _ _
      exact .begun sequenced
    · intro log event inTurn admitted before polls holdsBack
      have earlier := before (fun earlier member => polls earlier (List.mem_cons_of_mem _ member)) holdsBack.1
      exact earlier.step inTurn admitted (polls event List.mem_cons_self) holdsBack
  exact inTurns (pollsAll_batch unlocked) holdsBack

/-- The rows at the end of a batch are those at its start, written as they were. -/
theorem Turns.written (turns : Turns start log outbox) {row : OutboxEvent} (member : row ∈ outbox.events.rows) :
    ∃ row' ∈ start.events.rows, row'.written = row.written := by
  have listed := List.mem_map_of_mem (f := OutboxEvent.written) member
  rw [turns.rows] at listed
  exact List.mem_map.mp listed

theorem Turns.kept (turns : Turns start log outbox) {row : OutboxEvent} (member : row ∈ start.events.rows) :
    ∃ row' ∈ outbox.events.rows, row'.written = row.written := by
  have listed := List.mem_map_of_mem (f := OutboxEvent.written) member
  rw [← turns.rows] at listed
  exact List.mem_map.mp listed

/-- What holds during a batch of the rows at its start holds afterwards. -/
theorem Turns.ended (turns : Turns start log outbox) : Sequenced outbox [] outbox := by
  constructor
  · intro job inside
    rcases turns.sequenced.named job inside with ⟨row, member, same, named⟩
    rcases turns.kept member with ⟨row', member', written⟩
    refine ⟨row', member', (OutboxEvent.id_written written).trans same, ?_⟩
    rw [OutboxEvent.payload_written written]
    exact named
  · refine turns.sequenced.ordered.imp ?_
    intro job job' apart a inside b inside' ofJob ofJob' precedes
    rcases turns.written inside with ⟨a', member, written⟩
    rcases turns.written inside' with ⟨b', member', written'⟩
    refine apart a' member b' member' ((OutboxEvent.id_written written).trans ofJob)
      ((OutboxEvent.id_written written').trans ofJob') ?_
    exact OutboxEvent.precedes_written written'.symm written.symm precedes
  · rintro a inside b inside' precedes ⟨open', queueName, named, missing⟩ job present same
    rcases turns.written inside with ⟨a', member, written⟩
    rcases turns.written inside' with ⟨b', member', written'⟩
    have waits : Waits log outbox a' := by
      refine ⟨Or.inl ?_, queueName, ?_, ?_⟩
      · rw [OutboxEvent.id_written written]
        rcases open' with waiting | none
        · exact waiting
        · cases none
      · rw [OutboxEvent.payload_written written]
        exact named
      · rw [OutboxEvent.id_written written]
        exact missing
    refine turns.sequenced.waiting a' member b' member'
      (OutboxEvent.precedes_written written.symm written'.symm precedes) waits job present ?_
    exact same.trans (OutboxEvent.id_written written').symm

/-- A new event is the youngest, and no queue has its job. -/
theorem Sequenced.insert (sequenced : Sequenced outbox [] outbox) (id : Uuid) (event : NewOutboxEvent)
    (younger : ∀ row ∈ outbox.events.rows, row.createdAt < outbox.clock) :
    Sequenced (outbox.effect platform (.insert id event) []).2 []
      (outbox.effect platform (.insert id event) []).2 := by
  simp only [Outbox.effect]
  split
  · next events inserted =>
      have rows := Store.Table.rows_insert inserted
      have old : ∀ row ∈ events.rows, ∀ job ∈ outbox.jobs, row.id = job.2 → row ∈ outbox.events.rows := by
        intro row member job present same
        rcases sequenced.named job present with ⟨row', member', same', _⟩
        have listed : row' ∈ events.rows := by
          rw [rows]
          exact List.mem_append_left _ member'
        exact events.eq_of_key member listed (same.trans same'.symm) ▸ member'
      constructor
      · intro job present
        rcases sequenced.named job present with ⟨row, member, same, named⟩
        refine ⟨row, ?_, same, named⟩
        change row ∈ events.rows
        rw [rows]
        exact List.mem_append_left _ member
      · refine sequenced.ordered.imp_of_mem ?_
        intro job job' present present' apart a inside b inside' ofJob ofJob'
        exact apart a (old a inside job present ofJob) b (old b inside' job' present' ofJob') ofJob ofJob'
      · rintro a inside b inside' precedes ⟨open', named⟩ job present same
        have earlier := old b inside' job present same.symm
        have listed : a ∈ outbox.events.rows ∨ a = Database.outboxRow platform outbox.clock id event :=
          (Store.Table.mem_insert inserted).mp inside
        rcases listed with known | rfl
        · refine sequenced.waiting a known b earlier precedes ⟨Or.inl ?_, named⟩ job present same
          rcases open' with waiting | none
          · rw [statusAt_insert inserted, if_neg ?_] at waiting
            · exact waiting
            · intro fresh
              have absent := Store.Table.insert_fresh inserted
              rw [← fresh, Store.Table.lookup_of_mem known] at absent
              cases absent
          · cases none
        · exact absurd precedes.2.2 (not_lt_of_gt (younger b earlier))
  · exact sequenced

/-- Jobs in sequence are in creation order. -/
theorem Sequenced.inCreationOrder (sequenced : Sequenced outbox [] outbox) : InCreationOrder outbox := by
  intro first second queue queue' earlier later inside inside' precedes atFirst atSecond
  rcases List.getElem?_eq_some_iff.mp atFirst with ⟨within, job⟩
  rcases List.getElem?_eq_some_iff.mp atSecond with ⟨within', job'⟩
  rcases Nat.lt_trichotomy first second with before | same | after
  · exact before
  · subst same
    have named := congrArg Prod.snd (job.symm.trans job')
    cases outbox.events.eq_of_key inside inside' named
    exact absurd precedes.2.2 (lt_irrefl _)
  · have apart := List.pairwise_iff_getElem.mp sequenced.ordered second first within' within after
    rw [job, job'] at apart
    exact absurd precedes (apart later inside' earlier inside rfl rfl)

/-- Where no event is enqueued after the same batch has had to leave an earlier
event of its aggregate, every aggregate's events are enqueued in creation order. -/
theorem enqueued_in_order (platform : Platform) (outboxMaxRetries : Int) {start outbox : Outbox}
    (empty : start.jobs = []) (polled : Polled platform outboxMaxRetries HoldsBack start outbox) :
    InCreationOrder outbox := by
  have sequenced : Sequenced outbox [] outbox := by
    induction polled with
    | start =>
        constructor
        · rw [empty]
          intro job none
          cases none
        · rw [empty]
          exact List.Pairwise.nil
        · rw [empty]
          intro a _ b _ _ _ job none
          cases none
    | batch environment _ unlocked holdsBack inductionHypothesis =>
        exact (turns_batch inductionHypothesis unlocked holdsBack).ended
    | write id event _ younger inductionHypothesis => exact inductionHypothesis.insert id event younger
  exact sequenced.inCreationOrder

/-- A batch in which nothing is refused has nothing to hold back. -/
theorem holdsBack_of_accepted {log : OutboxLog} (accepted : (refused log).isEmpty = true) : HoldsBack log := by
  induction log with
  | nil => exact trivial
  | cons event earlier inductionHypothesis =>
      rcases List.append_eq_nil_iff.mp (List.isEmpty_iff.mp accepted) with ⟨_, none⟩
      refine ⟨inductionHypothesis (List.isEmpty_iff.mpr none), ?_⟩
      rw [none]
      intro job _ refusal member
      cases member

/-- Calls that add no job hold nothing back. -/
theorem holdsBack_of_unadded {log earlier : OutboxLog} (holdsBack : HoldsBack earlier)
    (unadded : ∀ event ∈ log, addedBy event = none) : HoldsBack (log ++ earlier) := by
  induction log with
  | nil => exact holdsBack
  | cons event log inductionHypothesis =>
      refine ⟨inductionHypothesis fun other member => unadded other (List.mem_cons_of_mem _ member), ?_⟩
      intro job added
      cases (unadded event List.mem_cons_self).symm.trans added

end Batches

/-- An order that has been created and paid. -/
def paidOrder : Outbox where
  events := ⟨[orderCreated 0, { orderCreated 1 with eventType := "order.paid", createdAt := 1 }], by decide⟩

/-- Queues that take every job. -/
def accepting : OutboxEnvironment := fun _ _ => .serve []

/-- Queues that do not take the job of one event. -/
def rejecting (id : Uuid) : OutboxEnvironment := fun _ call =>
  match call with
  | .add _ _ _ jobId => if jobId = id then .reject (.error "Connection is closed.") else .serve []
  | _ => .serve []

theorem accepting_unlocked : Unlocked accepting := by
  intro earlier limit locked same
  cases same
  rfl

theorem rejecting_unlocked (id : Uuid) : Unlocked (rejecting id) := by
  intro earlier limit locked same
  cases same
  rfl

/-- The queue fails on `order.paid`, which has no younger event behind it, and takes it from
the next batch. -/
def paidLater : Outbox := ((paidOrder.batch postgresJs 5 (rejecting 1)).2.1.batch postgresJs 5 accepting).2.1

theorem enqueued_in_order_refused : (refused (paidOrder.batch postgresJs 5 (rejecting 1)).2.2).length = 1 ∧
    paidLater.jobs.map Prod.snd = [0, 1] ∧ InCreationOrder paidLater := by
  have split : (paidOrder.batch postgresJs 5 (rejecting 1)).2.2 =
      (paidOrder.batch postgresJs 5 (rejecting 1)).2.2.take 2 ++ (paidOrder.batch postgresJs 5 (rejecting 1)).2.2.drop 2 :=
    (List.take_append_drop _ _).symm
  have first : Polled postgresJs 5 HoldsBack paidOrder (paidOrder.batch postgresJs 5 (rejecting 1)).2.1 := by
    refine .batch (rejecting 1) .start (rejecting_unlocked 1) ?_
    rw [split]
    exact holdsBack_of_unadded (holdsBack_of_accepted (by decide +kernel)) (by decide +kernel)
  have polled : Polled postgresJs 5 HoldsBack paidOrder paidLater :=
    .batch accepting first accepting_unlocked (holdsBack_of_accepted (by decide +kernel))
  exact ⟨by decide +kernel, by decide +kernel, enqueued_in_order postgresJs 5 rfl polled⟩

/-- The queue fails on `order.created`, and takes `order.paid` in the same batch. -/
theorem enqueued_out_of_order : ¬∀ (platform : Platform) (outboxMaxRetries : Int) (start outbox : Outbox),
    start.jobs = [] → (start.events.rows.map OutboxEvent.createdAt).Nodup →
    Polled platform outboxMaxRetries (fun _ => True) start outbox → InCreationOrder outbox := by
  intro ordered
  have begun : Polled postgresJs 5 (fun _ => True) paidOrder paidOrder := .start
  have first := Polled.batch (rejecting 0) begun (rejecting_unlocked 0) trivial
  have second := Polled.batch accepting first accepting_unlocked trivial
  have inOrder := ordered postgresJs 5 paidOrder _ rfl (by decide) second 1 0 "webhook-delivery" "webhook-delivery"
  have created := List.getElem_mem (l := ((paidOrder.batch postgresJs 5 (rejecting 0)).2.1.batch postgresJs 5
    accepting).2.1.events.rows) (n := 0) (by decide +kernel)
  have paid := List.getElem_mem (l := ((paidOrder.batch postgresJs 5 (rejecting 0)).2.1.batch postgresJs 5
    accepting).2.1.events.rows) (n := 1) (by decide +kernel)
  have reversed := inOrder _ _ created paid
  unfold Precedes at reversed
  exact absurd (reversed (by decide +kernel) (by decide +kernel) (by decide +kernel)) (Nat.not_lt_zero 1)

end Orderly
