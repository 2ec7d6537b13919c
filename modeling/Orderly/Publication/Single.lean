import Orderly.Process.Execution
import Orderly.Publication.Batches

/-!
# One batch alone

A single processor polls again when its batch is over, so nothing else is at the
table while a batch runs.  The contract of such a batch says about each event it
goes on from whether a queue has its job or has refused it.
-/

namespace Orderly

open Process (Program System)

/-- The statements of the repository, as opposed to the calls of the queues. -/
def OutboxCall.inRepository : OutboxCall → Bool
  | createQueue _ => false
  | add _ _ _ _ => false
  | _ => true

/-- What decides about the calls of a batch. -/
abbrev OutboxEnvironment := OutboxLog → outboxPorts.Call → OutboxChoice

namespace Outbox

/-- One batch, with the log of its calls. -/
def batch (platform : Platform) (outboxMaxRetries : Int) (environment : OutboxEnvironment) (outbox : Outbox) :
    Except JsError Unit × Outbox × OutboxLog :=
  (publication platform outboxMaxRetries).play environment (OutboxProcessor.processBatch outboxMaxRetries) outbox []

end Outbox

/-- The job that a queue has after a call that adds it. -/
def queuedBy : OutboxEventCall → Option (String × Uuid)
  | ⟨.add queueName _ _ jobId, _, _, after⟩ =>
      if (queueName, jobId) ∈ after.jobs then some (queueName, jobId) else none
  | _ => none

/-- The jobs a batch has added or found. -/
def queued (log : OutboxLog) : List (String × Uuid) := log.filterMap queuedBy

/-- The event for which a queue could not be used, or has not taken the job. -/
def refusedBy (earlier : OutboxLog) : OutboxEventCall → List OutboxEvent
  | ⟨.createQueue _, .error _, _, _⟩ => (remainder earlier).take 1
  | ⟨.add queueName _ _ jobId, .error _, _, after⟩ =>
      if (queueName, jobId) ∈ after.jobs then [] else (remainder earlier).take 1
  | _ => []

/-- The events that have been refused in a batch. -/
def refused : OutboxLog → List OutboxEvent
  | [] => []
  | event :: earlier => refusedBy earlier event ++ refused earlier

/-- Its payload names no queue, a queue has refused it, or a queue has its job. -/
def Tried (log : OutboxLog) (row : OutboxEvent) : Prop :=
  (∃ error, OutboxProcessor.queueName row.payload = .error error) ∨ row ∈ refused log ∨
    ∃ queueName, (queueName, row.id) ∈ queued log

/-- The statements a batch may issue, and what it knows when it does. -/
def InTurn (outboxMaxRetries : Int) (log : OutboxLog) : outboxPorts.Call → Prop
  | .getPending limit => log = [] ∧ limit = 100
  | .createQueue _ => remainder log ≠ []
  | .add queueName _ _ jobId => ∃ row rest, remainder log = row :: rest ∧ row.id = jobId ∧
      OutboxProcessor.queueName row.payload = .ok queueName
  | .markPublished id => AtEvent log id
  | .markFailed id incrementRetry => incrementRetry = false ∧ AtEvent log id
  | .resetForRetry id => ∃ row rest, remainder log = row :: rest ∧ row.id = id ∧
      row.retryCount < outboxMaxRetries ∧ Tried log row
  | _ => False

/-- The call answered last was a statement of the repository that failed. -/
def StatementFailed (log : OutboxLog) : Prop :=
  ∃ event earlier error, log = event :: earlier ∧ event.call.inRepository = true ∧ event.reply = .error error

section Contract

variable {platform : Platform} {outboxMaxRetries : Int} {log : OutboxLog} {row : OutboxEvent}
  {rest : List OutboxEvent}

theorem Tried.later (tried : Tried log row) (event : OutboxEventCall) : Tried (event :: log) row := by
  rcases tried with unnamed | turned | ⟨queueName, known⟩
  · exact Or.inl unnamed
  · exact Or.inr (Or.inl (List.mem_append_right _ turned))
  · refine Or.inr (Or.inr ⟨queueName, ?_⟩)
    rcases List.mem_filterMap.mp known with ⟨earlier, member, adds⟩
    exact List.mem_filterMap.mpr ⟨earlier, List.mem_cons_of_mem _ member, adds⟩

theorem mem_take_one {rows : List OutboxEvent} (same : rows = row :: rest) : row ∈ rows.take 1 := by
  rw [same]
  exact List.mem_cons_self

theorem Outbox.mem_addJob {outbox : Outbox} (queueName : String) (jobId : Uuid) :
    (queueName, jobId) ∈ (outbox.addJob queueName jobId).jobs := by
  unfold Outbox.addJob
  split
  · next known => exact known
  · exact List.mem_append_right _ (List.mem_singleton.mpr rfl)

/-- A queue that resolves has the job. -/
theorem mem_of_added {queueName name : String} {data : NotificationJob} {jobId : Uuid} {value : Unit}
    {before after : Outbox} (admitted : (publication platform outboxMaxRetries).Admits log
      ⟨.add queueName name data jobId, .ok value, before, after⟩) : (queueName, jobId) ∈ after.jobs := by
  rcases System.admits_iff.mp admitted with ⟨choice, performed⟩
  cases choice with
  | serve locked =>
      cases performed
      exact Outbox.mem_addJob queueName jobId
  | lose error => cases performed
  | reject error => cases performed

/-- A finishing statement ends the work on its event, or fails. -/
theorem finishing_inTurn {call : OutboxCall} {Throws : JsError → OutboxLog → Prop}
    (now : remainder log = row :: rest) (inTurn : InTurn outboxMaxRetries log call)
    (unread : ∀ reply before after, readBy ⟨call, reply, before, after⟩ = [])
    (finished : ∀ value before after, finishes ⟨call, .ok value, before, after⟩ = true)
    (throws : ∀ error before after, Throws error (⟨call, .error error, before, after⟩ :: log)) :
    (Program.call (S := outboxPorts) call).Meets (publication platform outboxMaxRetries).Admits
      (InTurn outboxMaxRetries) (fun _ log => remainder log = rest) Throws log := by
  apply Program.Meets.call inTurn
  · intro error before after _
    exact throws error before after
  · intro value before after _
    exact remainder_finished (unread _ _ _) (finished _ _ _) now

/-- The `try` block ends with its event published, or at the event it has tried. -/
theorem publish_inTurn (now : remainder log = row :: rest) :
    (OutboxProcessor.publish row).Meets (publication platform outboxMaxRetries).Admits (InTurn outboxMaxRetries)
      (fun _ log => remainder log = rest) (fun _ log => remainder log = row :: rest ∧ Tried log row) log := by
  unfold OutboxProcessor.publish
  cases named : OutboxProcessor.queueName row.payload with
  | error error => exact ⟨now, Or.inl ⟨error, named⟩⟩
  | ok queueName =>
      have left : remainder log ≠ [] := by
        rw [now]
        exact List.cons_ne_nil row rest
      apply Program.Meets.call_bind left
      · intro error before after _
        refine ⟨(remainder_other rfl rfl).trans now, Or.inr (Or.inl (List.mem_append_left _ ?_))⟩
        exact mem_take_one now
      · intro value before after _
        have created : remainder (⟨.createQueue queueName, .ok value, before, after⟩ :: log) = row :: rest :=
          (remainder_other rfl rfl).trans now
        apply Program.Meets.call_bind ⟨row, rest, created, rfl, named⟩
        · intro error before' after' _
          refine ⟨(remainder_other rfl rfl).trans created, ?_⟩
          by_cases known : (queueName, row.id) ∈ after'.jobs
          · refine Or.inr (Or.inr ⟨queueName, List.mem_filterMap.mpr ⟨_, List.mem_cons_self, if_pos known⟩⟩)
          · refine Or.inr (Or.inl (List.mem_append_left _ ?_))
            rw [refusedBy, if_neg known]
            exact mem_take_one created
        · intro value' before' after' admitted
          have added : remainder (⟨.add queueName row.eventType (OutboxProcessor.jobData row) row.id, .ok value',
              before', after'⟩ :: ⟨.createQueue queueName, .ok value, before, after⟩ :: log) = row :: rest :=
            (remainder_other rfl rfl).trans created
          have known : Tried (⟨.add queueName row.eventType (OutboxProcessor.jobData row) row.id, .ok value',
              before', after'⟩ :: ⟨.createQueue queueName, .ok value, before, after⟩ :: log) row := by
            refine Or.inr (Or.inr ⟨queueName, List.mem_filterMap.mpr ⟨_, List.mem_cons_self, if_pos ?_⟩⟩)
            exact mem_of_added admitted
          apply finishing_inTurn added
          · exact ⟨row, rest, added, rfl⟩
          · intro reply before after
            rfl
          · intro value before after
            rfl
          · intro error before after
            exact ⟨(remainder_other rfl rfl).trans added, known.later _⟩

theorem processEvent_inTurn (now : remainder log = row :: rest) :
    (OutboxProcessor.processEvent outboxMaxRetries row).Meets (publication platform outboxMaxRetries).Admits
      (InTurn outboxMaxRetries) (fun _ log => remainder log = rest) (fun _ log => StatementFailed log) log := by
  unfold OutboxProcessor.processEvent
  split
  · apply finishing_inTurn now
    · exact ⟨rfl, row, rest, now, rfl⟩
    · intro reply before after
      rfl
    · intro value before after
      rfl
    · intro error before after
      exact ⟨_, log, error, rfl, rfl, rfl⟩
  · next within =>
      apply Program.Meets.tryCatch (publish_inTurn now)
      intro error log tried
      apply finishing_inTurn tried.1
      · exact ⟨row, rest, tried.1, rfl, lt_of_not_ge within, tried.2⟩
      · intro reply before after
        rfl
      · intro value before after
        rfl
      · intro error before after
        exact ⟨_, log, error, rfl, rfl, rfl⟩

theorem processEvents_inTurn {events : List OutboxEvent} (now : remainder log = events) :
    (OutboxProcessor.processEvents outboxMaxRetries events).Meets (publication platform outboxMaxRetries).Admits
      (InTurn outboxMaxRetries) (fun _ log => remainder log = []) (fun _ log => StatementFailed log) log := by
  induction events generalizing log with
  | nil => exact now
  | cons row rest inductionHypothesis =>
      apply Program.Meets.bind (processEvent_inTurn now)
      intro _ log later
      exact inductionHypothesis later

/-- A batch goes on to its end unless a statement of the repository fails. -/
theorem processBatch_inTurn :
    (OutboxProcessor.processBatch outboxMaxRetries).Meets (publication platform outboxMaxRetries).Admits
      (InTurn outboxMaxRetries) (fun _ log => remainder log = []) (fun _ log => StatementFailed log) [] := by
  unfold OutboxProcessor.processBatch OutboxRepository.getPending
  apply Program.Meets.call_bind
  · exact ⟨rfl, rfl⟩
  · intro error before after _
    exact ⟨_, [], error, rfl, rfl, rfl⟩
  · intro events before after _
    apply processEvents_inTurn
    exact List.append_nil events

end Contract

/-- What a batch has done is an execution of it that has ended. -/
theorem Outbox.batch_executes (platform : Platform) (outboxMaxRetries : Int) (environment : OutboxEnvironment)
    (outbox : Outbox) :
    (publication platform outboxMaxRetries).Executes (OutboxProcessor.processBatch outboxMaxRetries) outbox
      (outbox.batch platform outboxMaxRetries environment).2.2
      (Program.ofExcept (outbox.batch platform outboxMaxRetries environment).1)
      (outbox.batch platform outboxMaxRetries environment).2.1 :=
  System.Executes.begun.play

end Orderly
