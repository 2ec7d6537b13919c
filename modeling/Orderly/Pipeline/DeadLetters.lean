import Orderly.Api.AdminDlq
import Orderly.Process.Execution

/-!
# Jobs that an administrator retries or removes

BullMQ finds a job in any state, refuses to retry one that has not failed, and
removes any that no worker has locked.  So only the search decides whether a
job that waits is removed.
-/

namespace Orderly

open Process (Program System)

namespace Queues

/-- Let a queue have something else, or nothing, under an id. -/
def put (queues : Queues) (queueName jobId : String) (job : Option QueuedJob) : Queues :=
  Function.update queues queueName (Function.update (queues queueName) jobId job)

/-- A job in the given state is moved back to the waiting ones. -/
def retry (queues : Queues) (queueName jobId : String) (state : JobState) : Except JsError Unit × Queues :=
  match queues queueName jobId with
  | none => (.error (.error ("Missing key for job " ++ jobId ++ ". reprocessJob")), queues)
  | some job =>
      if job.state = state then (.ok (), queues.put queueName jobId (some { job with state := .waiting }))
      else (.error (.error ("Job " ++ jobId ++ " is not in the failed state. reprocessJob")), queues)

/-- A job that no worker has locked is deleted. -/
def remove (queues : Queues) (queueName jobId : String) : Except JsError Unit × Queues :=
  match queues queueName jobId with
  | none => (.ok (), queues)
  | some job =>
      if job.isLocked then
        (.error (.error ("Job " ++ jobId ++ " could not be removed because it is locked by another worker")), queues)
      else (.ok (), queues.put queueName jobId none)

/-- A call that is carried out. -/
def effect (queues : Queues) : (call : DlqCall) → Except JsError call.Reply × Queues
  | .newQueue _ => (.ok (), queues)
  | .getJob queueName jobId => (.ok (queues queueName jobId), queues)
  | .retry queueName jobId state => queues.retry queueName jobId state
  | .remove queueName jobId => queues.remove queueName jobId
  | .close _ => (.ok (), queues)

def perform (queues : Queues) (call : DlqCall) : Choice → Except JsError call.Reply × Queues
  | .reject error => (.error error, queues)
  | .lose error => (.error error, (queues.effect call).2)
  | _ => queues.effect call

end Queues

/-- A request to one of the two routes. -/
inductive DlqTask where
  | retryJob (request : AdminDlq.DlqRequest)
  | deleteJob (request : AdminDlq.DlqRequest)

/-- The handlers on the queues of one Redis. -/
def deadLetters (adminApiKey : String) : System dlqCalls JsError Queues DlqTask Choice AdminDlq.Reply where
  program
    | .retryJob request => AdminDlq.retryJob adminApiKey request
    | .deleteJob request => AdminDlq.deleteJob adminApiKey request
  perform := Queues.perform

namespace Queues

variable {queues : Queues} {queueName jobId : String} {job : QueuedJob}

theorem put_same (changed : Option QueuedJob) : queues.put queueName jobId changed queueName jobId = changed := by
  unfold put
  rw [Function.update_self, Function.update_self]

/-- Everything else is as it was. -/
theorem put_other {queueName' jobId' : String} (changed : Option QueuedJob)
    (other : ¬ (queueName' = queueName ∧ jobId' = jobId)) :
    queues.put queueName jobId changed queueName' jobId' = queues queueName' jobId' := by
  unfold put
  by_cases same : queueName' = queueName
  · subst same
    rw [Function.update_self, Function.update_of_ne fun same => other ⟨rfl, same⟩]
  · rw [Function.update_of_ne same]

theorem retry_eq (found : queues queueName jobId = some job) (state : JobState) :
    (queues.retry queueName jobId state).2 =
      if job.state = state then queues.put queueName jobId (some { job with state := .waiting }) else queues := by
  unfold retry
  rw [found]
  dsimp only
  split
  · rfl
  · rfl

theorem remove_eq (found : queues queueName jobId = some job) : (queues.remove queueName jobId).2 =
    if job.isLocked then queues else queues.put queueName jobId none := by
  unfold remove
  rw [found]
  dsimp only
  split
  · rfl
  · rfl

/-- A call takes effect or nothing changes. -/
theorem perform_either (call : DlqCall) (choice : Choice) :
    (queues.perform call choice).2 = queues ∨ (queues.perform call choice).2 = (queues.effect call).2 := by
  cases choice with
  | reject error => exact Or.inl rfl
  | serve => exact Or.inr rfl
  | lose error => exact Or.inr rfl
  | refuse => exact Or.inr rfl
  | answer result => exact Or.inr rfl

/-- What is answered comes from the effect. -/
theorem perform_reply {call : DlqCall} {choice : Choice} {reply : call.Reply}
    (answered : (queues.perform call choice).1 = .ok reply) : (queues.effect call).1 = .ok reply := by
  cases choice with
  | reject error => cases answered
  | serve => exact answered
  | lose error => cases answered
  | refuse => exact answered
  | answer result => exact answered

end Queues

namespace AdminDlq

/-- Only jobs that had failed have been removed or queued again. -/
def Spares (before after : Queues) : Prop :=
  ∀ queueName jobId, after queueName jobId = before queueName jobId ∨
    ∃ job, before queueName jobId = some job ∧ job.state = .failed ∧
      (after queueName jobId = none ∨ after queueName jobId = some { job with state := .waiting })

/-- The first job with the id, queue by queue, and its queue. -/
def firstJob (queues : Queues) (jobId : String) (queueNames : List String) : Option (String × QueuedJob) :=
  queueNames.findSome? fun queueName => (queues queueName jobId).map (queueName, ·)

section Frame

variable {queues : Queues} {queueName jobId : String} {job : QueuedJob}

theorem Spares.refl (queues : Queues) : Spares queues queues := fun _ _ => Or.inl rfl

/-- Putting a job away or back is fine exactly when it had failed. -/
theorem spares_put {changed : Option QueuedJob} (found : queues queueName jobId = some job)
    (different : changed ≠ some job) (change : changed = none ∨ changed = some { job with state := .waiting }) :
    Spares queues (queues.put queueName jobId changed) ↔ job.state = .failed := by
  constructor
  · intro spares
    rcases spares queueName jobId with same | ⟨old, listed, failed, _⟩
    · rw [Queues.put_same, found] at same
      exact absurd same different
    · cases found.symm.trans listed
      exact failed
  · intro failed queueName' jobId'
    by_cases same : queueName' = queueName ∧ jobId' = jobId
    · obtain ⟨rfl, rfl⟩ := same
      rw [Queues.put_same]
      exact Or.inr ⟨job, found, failed, change⟩
    · exact Or.inl (Queues.put_other changed same)

theorem retry_spares (found : queues queueName jobId = some job) :
    Spares queues (queues.retry queueName jobId .failed).2 := by
  rw [Queues.retry_eq found]
  split
  · next failed =>
      refine (spares_put found ?_ (Or.inr rfl)).mpr failed
      intro same
      have waiting := congrArg QueuedJob.state (Option.some.inj same)
      rw [failed] at waiting
      cases waiting
  · exact .refl queues

theorem remove_spares (found : queues queueName jobId = some job) :
    Spares queues (queues.remove queueName jobId).2 ↔ job.isLocked = true ∨ job.state = .failed := by
  rw [Queues.remove_eq found]
  split
  · next locked => exact iff_of_true (.refl queues) (Or.inl locked)
  · next unlocked => rw [spares_put found (Option.some_ne_none job).symm (Or.inl rfl), or_iff_right unlocked]

end Frame

/-! ## The search -/

section Search

variable {adminApiKey : String} {queues : Queues} {request : DlqRequest} {act : String → DlqCall}
  {Holds : Queues → Prop} {message : String → String}

/-- What does not depend on the contents changes nothing. -/
theorem throughout_newQueue {next : Unit → Dlq Reply} (queueName : String) :
    (deadLetters adminApiKey).Throughout Holds (newQueue queueName >>= next) queues ↔
      (deadLetters adminApiKey).Throughout Holds (next ()) queues :=
  System.Throughout.reading_iff (fun choice => (Queues.perform_either _ choice).elim id id) (fun _ _ _ => rfl)
    ⟨.serve, rfl⟩

theorem throughout_close {next : Unit → Dlq Reply} (queueName : String) :
    (deadLetters adminApiKey).Throughout Holds (close queueName >>= next) queues ↔
      (deadLetters adminApiKey).Throughout Holds (next ()) queues :=
  System.Throughout.reading_iff (fun choice => (Queues.perform_either _ choice).elim id id) (fun _ _ _ => rfl)
    ⟨.serve, rfl⟩

theorem throughout_getJob {next : Option QueuedJob → Dlq Reply} (queueName jobId : String) :
    (deadLetters adminApiKey).Throughout Holds (getJob queueName jobId >>= next) queues ↔
      (deadLetters adminApiKey).Throughout Holds (next (queues queueName jobId)) queues :=
  System.Throughout.reading_iff (fun choice => (Queues.perform_either _ choice).elim id id)
    (fun _ _ answered => (Except.ok.inj (Queues.perform_reply answered)).symm) ⟨.serve, rfl⟩

/-- The search ends with what is done to the first job that has the id. -/
theorem throughout_actOnFirst {act : String → Dlq Unit} {effect : String → Queues}
    (acts : ∀ queueName (next : Unit → Dlq Reply),
      (∀ reached, (deadLetters adminApiKey).Throughout Holds (next ()) reached ↔ Holds reached) →
      ((deadLetters adminApiKey).Throughout Holds (act queueName >>= next) queues ↔
        Holds queues ∧ Holds (effect queueName))) (queueNames : List String) :
    (deadLetters adminApiKey).Throughout Holds (actOnFirst request act message queueNames) queues ↔
      Holds queues ∧ ∀ found, firstJob queues request.jobId queueNames = some found → Holds (effect found.1) := by
  induction queueNames with
  | nil => exact ⟨fun holds => ⟨holds, fun found none => nomatch none⟩, And.left⟩
  | cons queueName queueNames inductionHypothesis =>
      change (deadLetters adminApiKey).Throughout Holds (newQueue queueName >>= _) queues ↔ _
      rw [throughout_newQueue, throughout_getJob]
      unfold firstJob
      rw [List.findSome?_cons]
      cases found : queues queueName request.jobId with
      | none =>
          change (deadLetters adminApiKey).Throughout Holds (close queueName >>= _) queues ↔ _
          rw [throughout_close]
          exact inductionHypothesis
      | some job =>
          change (deadLetters adminApiKey).Throughout Holds (act queueName >>= _) queues ↔ _
          rw [acts queueName]
          · refine and_congr_right fun _ => ⟨fun holds found same => ?_, fun holds => holds (queueName, job) rfl⟩
            cases same
            exact holds
          · intro reached
            exact throughout_close queueName

theorem throughout_retry (queueName : String) (next : Unit → Dlq Reply)
    (ends : ∀ reached, (deadLetters adminApiKey).Throughout Holds (next ()) reached ↔ Holds reached) :
    (deadLetters adminApiKey).Throughout Holds (retry queueName request.jobId .failed >>= next) queues ↔
      Holds queues ∧ Holds (queues.retry queueName request.jobId .failed).2 :=
  System.Throughout.acting_iff (Queues.perform_either _) ⟨.serve, rfl⟩ fun _ => ends

theorem throughout_remove (queueName : String) (next : Unit → Dlq Reply)
    (ends : ∀ reached, (deadLetters adminApiKey).Throughout Holds (next ()) reached ↔ Holds reached) :
    (deadLetters adminApiKey).Throughout Holds (remove queueName request.jobId >>= next) queues ↔
      Holds queues ∧ Holds (queues.remove queueName request.jobId).2 :=
  System.Throughout.acting_iff (Queues.perform_either _) ⟨.serve, rfl⟩ fun _ => ends

theorem firstJob_listed {jobId : String} {queueNames : List String} {found : String × QueuedJob}
    (first : firstJob queues jobId queueNames = some found) : queues found.1 jobId = some found.2 := by
  rcases List.exists_of_findSome?_eq_some first with ⟨queueName, _, hit⟩
  rcases Option.map_eq_some_iff.mp hit with ⟨job, listed, rfl⟩
  exact listed

end Search

/-- **Queueing again touches failed jobs only, and removing does so exactly where the first job with the id, queue by
queue, has failed or is locked.** -/
theorem touches_failed_only (adminApiKey : String) (queues : Queues) (request : DlqRequest) :
    (∀ log rest reached,
      (deadLetters adminApiKey).Executes (retryJob adminApiKey request) queues log rest reached →
        Spares queues reached) ∧
    ((∀ log rest reached,
      (deadLetters adminApiKey).Executes (deleteJob adminApiKey request) queues log rest reached →
        Spares queues reached) ↔
      verifyAdminKey adminApiKey request.apiKey ≠ none ∨
        ∀ found, firstJob queues request.jobId (targetQueues request) = some found →
          found.2.isLocked = true ∨ found.2.state = .failed) := by
  rw [← System.Throughout.iff_executes, ← System.Throughout.iff_executes]
  unfold retryJob deleteJob
  cases verifyAdminKey adminApiKey request.apiKey with
  | some details => exact ⟨Spares.refl queues, fun _ => Or.inl (Option.some_ne_none details), fun _ => Spares.refl queues⟩
  | none =>
      dsimp only
      rw [throughout_actOnFirst throughout_retry, throughout_actOnFirst throughout_remove,
        and_iff_right (Spares.refl queues), and_iff_right (Spares.refl queues), or_iff_right fun differs => differs rfl]
      constructor
      · intro found first
        exact retry_spares (firstJob_listed first)
      · refine forall_congr' fun found => ?_
        refine forall_congr' fun first => ?_
        exact remove_spares (firstJob_listed first)

/-- A webhook that waits to be delivered. -/
def waitingWebhook : QueuedJob where
  name := "order.paid"
  data := .obj [("eventType", .str "order.paid")]
  state := .waiting
  attemptsMade := 0

def oneWebhook : Queues := fun queueName jobId =>
  if queueName = "webhook-delivery" ∧ jobId = "7" then some waitingWebhook else none

/-- A job that waits is deleted. -/
theorem waiting_webhook_deleted : ∃ log rest reached,
    (deadLetters "key").Executes
      (deleteJob "key" { apiKey := some "key", jobId := "7", queue := none, url := "/admin/v1/7" })
      oneWebhook log rest reached ∧
    oneWebhook "webhook-delivery" "7" = some waitingWebhook ∧ waitingWebhook.state = .waiting ∧
    reached "webhook-delivery" "7" = none :=
  ⟨_, _, _, System.executes_execute _ _ _ (List.replicate 10 .serve), rfl, rfl, by decide +kernel⟩

end AdminDlq
end Orderly
