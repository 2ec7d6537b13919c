import Orderly.Events.OutboxProcessor

/-!
# Batches

What a batch still has to process can be read off its log: the events it has
read, without as many as its finishing statements have been answered.  The
contract of a batch says which event each of its statements is about.
-/

namespace Orderly

open Process (Program System)

/-- The status of an event's row. -/
def statusAt (outbox : Outbox) (id : Uuid) : Option OutboxStatus := (outbox.events.lookup id).map OutboxEvent.status

theorem statusAt_of_mem {outbox : Outbox} {row : OutboxEvent} (member : row ∈ outbox.events.rows) :
    statusAt outbox row.id = some row.status := by
  rw [statusAt, Store.Table.lookup_of_mem member]
  rfl

/-- A poll finds rows that are PENDING and not locked. -/
theorem Outbox.mem_getPending {outbox : Outbox} {locked : List Uuid} {limit : Nat} {row : OutboxEvent}
    (found : row ∈ outbox.getPending locked limit) :
    row ∈ outbox.events.rows ∧ row.status = .pending ∧ row.id ∉ locked := by
  have sorted := (List.perm_insertionSort _ _).mem_iff.mp (List.mem_of_mem_take found)
  rcases List.mem_filter.mp sorted with ⟨present, selected⟩
  exact ⟨present, of_decide_eq_true selected⟩

/-- It finds no row twice. -/
theorem Outbox.nodup_getPending (outbox : Outbox) (locked : List Uuid) (limit : Nat) :
    ((outbox.getPending locked limit).map OutboxEvent.id).Nodup := by
  have unique : (outbox.events.rows.filter fun event => event.status = .pending ∧ event.id ∉ locked).map
      OutboxEvent.id |>.Nodup := outbox.events.unique.sublist (List.filter_sublist.map _)
  have sorted := ((List.perm_insertionSort (fun a b : OutboxEvent => a.createdAt ≤ b.createdAt)
    (outbox.events.rows.filter fun event => event.status = .pending ∧ event.id ∉ locked)).map OutboxEvent.id).nodup_iff.mpr
      unique
  exact sorted.sublist ((List.take_sublist limit _).map _)

/-- The events an answered call has read. -/
def readBy : OutboxEventCall → List OutboxEvent
  | ⟨.getPending _, .ok events, _, _⟩ => events
  | _ => []

/-- The events a log has read. -/
def snapshots (log : OutboxLog) : List OutboxEvent := log.flatMap readBy

/-- The answered statement that ends the work on one event. -/
def finishes : OutboxEventCall → Bool
  | ⟨.markPublished _, .ok _, _, _⟩ => true
  | ⟨.markFailed _ _, .ok _, _, _⟩ => true
  | ⟨.resetForRetry _, .ok _, _, _⟩ => true
  | _ => false

/-- The unprocessed remainder of the batch. -/
def remainder (log : OutboxLog) : List OutboxEvent := (snapshots log).drop (log.countP finishes)

/-- The event an enqueue that resolved was for. -/
def resolvedBy : OutboxEventCall → Option Uuid
  | ⟨.add _ _ _ jobId, .ok _, _, _⟩ => some jobId
  | _ => none

/-- The events with a resolved enqueue. -/
def resolved (log : OutboxLog) : List Uuid := log.filterMap resolvedBy

/-- The event that the batch is at. -/
def AtEvent (log : OutboxLog) (id : Uuid) : Prop :=
  ∃ event rest, remainder log = event :: rest ∧ event.id = id

/-- The statements a batch or a write may issue. -/
def Warranted (outboxMaxRetries : Int) (log : OutboxLog) : outboxPorts.Call → Prop
  | .getPending _ => log = []
  | .markPublished id => AtEvent log id ∧ id ∈ resolved log
  | .markFailed id incrementRetry =>
      incrementRetry = false ∧
        ∃ event rest, remainder log = event :: rest ∧ event.id = id ∧ outboxMaxRetries ≤ event.retryCount
  | .resetForRetry id => AtEvent log id
  | .insert _ event => event.status = .pending ∧ event.retryCount = 0
  | _ => True

/-! ## How a remainder changes -/

section Remainders

variable {log : OutboxLog} {event : OutboxEventCall}

theorem remainder_cons (unread : readBy event = []) :
    remainder (event :: log) = (remainder log).drop (finishes event).toNat := by
  unfold remainder snapshots
  rw [List.flatMap_cons, unread, List.nil_append, List.countP_cons, List.drop_drop]
  cases finishes event <;> simp

/-- Most calls neither read events nor finish one. -/
theorem remainder_other (unread : readBy event = []) (unfinished : finishes event = false) :
    remainder (event :: log) = remainder log := by
  rw [remainder_cons unread, unfinished]
  rfl

/-- An answered finishing statement goes on to the next event. -/
theorem remainder_finished {row : OutboxEvent} {rest : List OutboxEvent} (unread : readBy event = [])
    (finished : finishes event = true) (now : remainder log = row :: rest) :
    remainder (event :: log) = rest := by
  rw [remainder_cons unread, finished, now]
  rfl

end Remainders

/-! ## The contract of a batch -/

section Contract

variable {platform : Platform} {outboxMaxRetries : Int} {log : OutboxLog} {row : OutboxEvent}
  {rest : List OutboxEvent}

/-- A finishing statement ends the work on the current event or is rejected. -/
theorem finishing_meets {call : OutboxCall} {Throws : JsError → OutboxLog → Prop}
    (now : remainder log = row :: rest) (warranted : Warranted outboxMaxRetries log call)
    (unread : ∀ reply before after, readBy ⟨call, reply, before, after⟩ = [])
    (finished : ∀ value before after, finishes ⟨call, .ok value, before, after⟩ = true)
    (failed : ∀ error before after, finishes ⟨call, .error error, before, after⟩ = false)
    (throws : ∀ error before after, remainder (⟨call, .error error, before, after⟩ :: log) = row :: rest →
      Throws error (⟨call, .error error, before, after⟩ :: log)) :
    (Program.call (S := outboxPorts) call).Meets (publication platform outboxMaxRetries).Admits
      (Warranted outboxMaxRetries) (fun _ log => remainder log = rest) Throws log := by
  apply Program.Meets.call warranted
  · intro error before after _
    apply throws
    rw [remainder_other (unread _ _ _) (failed _ _ _), now]
  · intro value before after _
    exact remainder_finished (unread _ _ _) (finished _ _ _) now

/-- A rejection anywhere in the `try` block leaves the batch at its event. -/
theorem publish_meets (now : remainder log = row :: rest) :
    (OutboxProcessor.publish row).Meets (publication platform outboxMaxRetries).Admits
      (Warranted outboxMaxRetries) (fun _ log => remainder log = rest)
      (fun _ log => remainder log = row :: rest) log := by
  unfold OutboxProcessor.publish
  cases OutboxProcessor.queueName row.payload with
  | error error => exact now
  | ok queueName =>
      apply Program.Meets.call_bind trivial
      · intro error before after _
        exact (remainder_other rfl rfl).trans now
      · intro value before after _
        have created : remainder (⟨.createQueue queueName, .ok value, before, after⟩ :: log) = row :: rest :=
          (remainder_other rfl rfl).trans now
        apply Program.Meets.call_bind trivial
        · intro error before after _
          exact (remainder_other rfl rfl).trans created
        · intro value' before' after' _
          have added : remainder (⟨.add queueName row.eventType (OutboxProcessor.jobData row) row.id, .ok value',
              before', after'⟩ :: ⟨.createQueue queueName, .ok value, before, after⟩ :: log) = row :: rest :=
            (remainder_other rfl rfl).trans created
          apply finishing_meets added
          · exact ⟨⟨row, rest, added, rfl⟩, List.mem_cons_self⟩
          · intro reply before after
            rfl
          · intro value before after
            rfl
          · intro error before after
            rfl
          · intro error before after kept
            exact kept

/-- The call answered last was rejected. -/
def JustRejected (log : OutboxLog) : Prop :=
  ∃ event earlier error, log = event :: earlier ∧ event.reply = .error error

theorem processEvent_meets (now : remainder log = row :: rest) :
    (OutboxProcessor.processEvent outboxMaxRetries row).Meets (publication platform outboxMaxRetries).Admits
      (Warranted outboxMaxRetries) (fun _ log => remainder log = rest) (fun _ log => JustRejected log) log := by
  unfold OutboxProcessor.processEvent
  split
  · next exceeded =>
      apply finishing_meets now
      · exact ⟨rfl, row, rest, now, rfl, exceeded⟩
      · intro reply before after
        rfl
      · intro value before after
        rfl
      · intro error before after
        rfl
      · intro error before after _
        exact ⟨_, log, error, rfl, rfl⟩
  · apply Program.Meets.tryCatch (publish_meets now)
    intro error log kept
    apply finishing_meets kept
    · exact ⟨row, rest, kept, rfl⟩
    · intro reply before after
      rfl
    · intro value before after
      rfl
    · intro error before after
      rfl
    · intro error before after _
      exact ⟨_, log, error, rfl, rfl⟩

theorem processEvents_meets {events : List OutboxEvent} (now : remainder log = events) :
    (OutboxProcessor.processEvents outboxMaxRetries events).Meets (publication platform outboxMaxRetries).Admits
      (Warranted outboxMaxRetries) (fun _ log => remainder log = []) (fun _ log => JustRejected log) log := by
  induction events generalizing log with
  | nil => exact now
  | cons row rest inductionHypothesis =>
      apply Program.Meets.bind (processEvent_meets now)
      intro _ log later
      exact inductionHypothesis later

theorem processBatch_meets :
    (OutboxProcessor.processBatch outboxMaxRetries).Meets (publication platform outboxMaxRetries).Admits
      (Warranted outboxMaxRetries) (fun _ log => remainder log = []) (fun _ log => JustRejected log) [] := by
  unfold OutboxProcessor.processBatch OutboxRepository.getPending
  apply Program.Meets.call_bind
  · exact (rfl : ([] : OutboxLog) = [])
  · intro error before after _
    exact ⟨_, [], error, rfl, rfl⟩
  · intro events before after _
    apply processEvents_meets
    exact List.append_nil events

/-- The contract of every batch and every write: it ends with nothing left to
process, or throws what a call has rejected with. -/
theorem outboxTask_meets (task : OutboxTask) :
    (task.program outboxMaxRetries).Meets (publication platform outboxMaxRetries).Admits
      (Warranted outboxMaxRetries) (fun _ log => remainder log = []) (fun _ log => JustRejected log) [] := by
  cases task with
  | processBatch => exact processBatch_meets
  | write aggregateType aggregateId eventType payload headers =>
      unfold OutboxTask.program
      apply Program.Meets.call_bind
      · trivial
      · intro error before after _
        exact ⟨_, [], error, rfl, rfl⟩
      · intro id before after _
        refine ⟨⟨rfl, rfl⟩, fun reply before after _ => ?_⟩
        cases reply with
        | ok value => exact (rfl : ([] : List OutboxEvent) = [])
        | error error => exact ⟨_, _, error, rfl, rfl⟩

end Contract

/-- A batch or a write that keeps its contract. -/
abbrev Publisher.Keeping (platform : Platform) (outboxMaxRetries : Int) (thread : Publisher) : Prop :=
  (publication platform outboxMaxRetries).Keeps (fun _ => Warranted outboxMaxRetries)
    (fun _ _ log => remainder log = []) (fun _ _ log => JustRejected log) thread

theorem reaches_warranted {platform : Platform} {outboxMaxRetries : Int} {outbox : Outbox} {config : Publishing}
    {Legal : Publishing → Process.Move OutboxTask OutboxChoice → Prop}
    (reached : (publication platform outboxMaxRetries).Reaches Legal { shared := outbox } config) :
    ∀ thread ∈ config.threads, Publisher.Keeping platform outboxMaxRetries thread := by
  apply reached.contract
  · intro thread member
    cases member
  · intro config task _
    exact outboxTask_meets task

end Orderly
