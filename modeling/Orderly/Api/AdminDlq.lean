import Orderly.Infrastructure.Backend

/-!
# `POST /retry/:jobId` and `DELETE /:jobId` of the dead-letter routes

The admin server registers them directly under `/admin/v1`.  Both handlers look
for a job by its id, in the queue that the request names or in every managed one,
and act on the first they find.  They do not look at its state.
-/

namespace Orderly

open Process (Program Signature)

/-- A job of any queue. -/
structure QueuedJob where
  name : String
  data : Json
  state : JobState
  attemptsMade : Nat
  /-- A worker holds its lock. -/
  isLocked : Bool := false

/-- The jobs of every queue by their ids. -/
abbrev Queues := String → String → Option QueuedJob

/-- What a handler asks of BullMQ. -/
inductive DlqCall where
  | newQueue (queueName : String)
  | getJob (queueName jobId : String)
  | retry (queueName jobId : String) (state : JobState)
  | remove (queueName jobId : String)
  | close (queueName : String)

def DlqCall.Reply : DlqCall → Type
  | getJob _ _ => Option QueuedJob
  | _ => Unit

/-- The signature of the handlers. -/
def dlqCalls : Signature where
  Call := DlqCall
  Reply := DlqCall.Reply

abbrev Dlq (α : Type) := Program dlqCalls JsError α

namespace AdminDlq

/-- `MANAGED_QUEUES`. -/
def managedQueues : List String := ["payment-processing", "inventory-release", "webhook-delivery"]

/-- An `application/problem+json` body. -/
structure ProblemDetails where
  type : String
  title : String
  status : Nat
  detail : String
  url : Option String := none

/-- What a handler sends. -/
inductive Reply where
  | problem (details : ProblemDetails)
  | sent (message : String)

/-- The parts of a request that the handlers read. -/
structure DlqRequest where
  apiKey : Option String
  jobId : String
  queue : Option String
  url : String

/-! ## Admission -/

def unauthorized : ProblemDetails where
  type := "https://orderly.example.com/errors/unauthorized"
  title := "Unauthorized"
  status := 401
  detail := "X-API-Key header is required for admin endpoints."

def forbidden : ProblemDetails where
  type := "https://orderly.example.com/errors/forbidden"
  title := "Forbidden"
  status := 403
  detail := "Invalid admin API key."

/-- What is sent to a request that is turned away.  Two texts are the same when their bytes are. -/
def verifyAdminKey (adminApiKey : String) : Option String → Option ProblemDetails
  | none => some unauthorized
  | some provided =>
      if provided = "" then some unauthorized
      else if adminApiKey = provided then none
      else some forbidden

/-! ## Handlers -/

def notFound (request : DlqRequest) : ProblemDetails where
  type := "https://orderly.example.com/errors/not-found"
  title := "Not Found"
  status := 404
  detail := "Job " ++ request.jobId ++ " not found in any managed queue"
  url := some request.url

/-- An empty parameter is as good as none. -/
def targetQueues (request : DlqRequest) : List String :=
  match request.queue with
  | some queue => if queue = "" then managedQueues else [queue]
  | none => managedQueues

def newQueue (queueName : String) : Dlq Unit := Program.call (S := dlqCalls) (.newQueue queueName)

def getJob (queueName jobId : String) : Dlq (Option QueuedJob) :=
  Program.call (S := dlqCalls) (.getJob queueName jobId)

def retry (queueName jobId : String) (state : JobState) : Dlq Unit :=
  Program.call (S := dlqCalls) (.retry queueName jobId state)

def remove (queueName jobId : String) : Dlq Unit := Program.call (S := dlqCalls) (.remove queueName jobId)

def close (queueName : String) : Dlq Unit := Program.call (S := dlqCalls) (.close queueName)

/-- Act on the first job with the id, queue by queue. -/
def actOnFirst (request : DlqRequest) (act : String → Dlq Unit) (message : String → String) : List String → Dlq Reply
  | [] => return .problem (notFound request)
  | queueName :: queueNames => do
      newQueue queueName
      match ← getJob queueName request.jobId with
      | some _ =>
          act queueName
          close queueName
          return .sent (message queueName)
      | none =>
          close queueName
          actOnFirst request act message queueNames

/-- `POST /retry/:jobId`. -/
def retryJob (adminApiKey : String) (request : DlqRequest) : Dlq Reply :=
  match verifyAdminKey adminApiKey request.apiKey with
  | some details => return .problem details
  | none =>
      actOnFirst request (fun queueName => retry queueName request.jobId .failed)
        (fun queueName => "Job " ++ request.jobId ++ " re-queued in " ++ queueName) (targetQueues request)

/-- `DELETE /:jobId`. -/
def deleteJob (adminApiKey : String) (request : DlqRequest) : Dlq Reply :=
  match verifyAdminKey adminApiKey request.apiKey with
  | some details => return .problem details
  | none =>
      actOnFirst request (fun queueName => remove queueName request.jobId)
        (fun queueName => "Job " ++ request.jobId ++ " removed from " ++ queueName) (targetQueues request)

end AdminDlq

end Orderly
