import Orderly.System

/-!
# OutboxProcessor

A batch reads up to a hundred pending events and goes through what it has read.
Every repository method is a statement of its own, outside any transaction, so
the row locks of `FOR UPDATE SKIP LOCKED` are gone when `getPending` returns;
all they do is let a statement pass over rows that another statement holds at
that moment.

An instance polls again when its batch is over, and the services go on writing
events.  Batches and writes are the routines of the system, any number of each.
-/

namespace Orderly

open Process (Program Signature System Config Event Log Thread Move)

/-- The data of a job in a target queue. -/
structure NotificationJob where
  aggregateType : String
  aggregateId : Uuid
  eventType : String
  payload : Json
  headers : Json

inductive OutboxCall where
  | randomUUID
  | insert (id : Uuid) (event : NewOutboxEvent)
  | getPending (limit : Nat)
  | markPublished (id : Uuid)
  | markFailed (id : Uuid) (incrementRetry : Bool)
  | resetForRetry (id : Uuid)
  | createQueue (name : String)
  | add (queueName : String) (name : String) (data : NotificationJob) (jobId : Uuid)

namespace OutboxCall

def Reply : OutboxCall → Type
  | randomUUID => Uuid
  | getPending _ => List OutboxEvent
  | _ => Unit

end OutboxCall

/-- The signature of the outbox repository and the queues. -/
def outboxPorts : Signature where
  Call := OutboxCall
  Reply := OutboxCall.Reply

abbrev OutboxRoutine (α : Type) := Program outboxPorts JsError α

namespace OutboxRepository

def getPending (limit : Nat) : OutboxRoutine (List OutboxEvent) :=
  Program.call (S := outboxPorts) (.getPending limit)

def markPublished (id : Uuid) : OutboxRoutine Unit := Program.call (S := outboxPorts) (.markPublished id)

def markFailed (id : Uuid) (incrementRetry : Bool) : OutboxRoutine Unit :=
  Program.call (S := outboxPorts) (.markFailed id incrementRetry)

def resetForRetry (id : Uuid) : OutboxRoutine Unit := Program.call (S := outboxPorts) (.resetForRetry id)

end OutboxRepository

namespace OutboxProcessor

/-- `event.payload['queue']` where it is a string.  `null` has no members. -/
def queueName : Json → Except JsError String
  | .null => .error (.error "Cannot read properties of null (reading 'queue')")
  | payload => match payload.member? "queue" with
      | some (.str name) => .ok name
      | _ => .ok "webhook-delivery"

/-- A queue the instance has not used yet is created first, which may throw. -/
def getQueue (name : String) : OutboxRoutine Unit := Program.call (S := outboxPorts) (.createQueue name)

/-- The data of the job an event becomes. -/
def jobData (event : OutboxEvent) : NotificationJob where
  aggregateType := event.aggregateType
  aggregateId := event.aggregateId
  eventType := event.eventType
  payload := event.payload
  headers := event.headers

/-- The `try` block of one event. -/
def publish (event : OutboxEvent) : OutboxRoutine Unit := do
  let queueName ← queueName event.payload
  getQueue queueName
  Program.call (S := outboxPorts) (.add queueName event.eventType (jobData event) event.id)
  OutboxRepository.markPublished event.id

/-- The body of the loop. -/
def processEvent (outboxMaxRetries : Int) (event : OutboxEvent) : OutboxRoutine Unit :=
  if outboxMaxRetries ≤ event.retryCount then OutboxRepository.markFailed event.id false
  else tryCatch (publish event) fun _ => OutboxRepository.resetForRetry event.id

def processEvents (outboxMaxRetries : Int) : List OutboxEvent → OutboxRoutine Unit
  | [] => return ()
  | event :: rest => do
      processEvent outboxMaxRetries event
      processEvents outboxMaxRetries rest

def processBatch (outboxMaxRetries : Int) : OutboxRoutine Unit := do
  let events ← OutboxRepository.getPending 100
  processEvents outboxMaxRetries events

end OutboxProcessor

/-! ## The table and the queues -/

/-- Jobs are compared by their queue and their id. -/
instance : LawfulBEq (String × Uuid) := inferInstance

/-- What the processors share: the table, the jobs of the target queues, and the
supply of identifiers and time. -/
structure Outbox where
  events : Store.Table OutboxEvent Uuid OutboxEvent.id
  jobs : List (String × Uuid) := []
  nextUuid : Nat := 0
  clock : Date := 0

namespace Outbox

variable (outbox : Outbox)

/-- `WHERE status = 'PENDING' ORDER BY created_at ASC LIMIT … FOR UPDATE SKIP
LOCKED`, where another statement holds some rows. -/
def getPending (locked : List Uuid) (limit : Nat) : List OutboxEvent :=
  ((outbox.events.rows.filter fun event => event.status = .pending ∧ event.id ∉ locked).insertionSort
    fun a b => a.createdAt ≤ b.createdAt).take limit

/-- The columns `markPublished` sets. -/
def publishedRow (now : Date) (row : OutboxEvent) : OutboxEvent :=
  { row with status := .published, processedAt := some now }

/-- Those of `markFailed`. -/
def failedRow (now : Date) (incrementRetry : Bool) (row : OutboxEvent) : OutboxEvent :=
  { row with
    status := .failed
    retryCount := if incrementRetry then row.retryCount + 1 else row.retryCount
    processedAt := some now }

/-- Those of `resetForRetry`. -/
def retriedRow (row : OutboxEvent) : OutboxEvent :=
  { row with status := .pending, retryCount := row.retryCount + 1 }

/-- `UPDATE outbox_events … WHERE id = …`. -/
def update (id : Uuid) (change : OutboxEvent → OutboxEvent)
    (keeps : ∀ row, (change row).id = row.id) : Outbox :=
  { outbox with events := outbox.events.update id change keeps }

/-- An update that counts a retry aborts where the counter would overflow. -/
def overflows (id : Uuid) : Bool :=
  (outbox.events.lookup id).any fun row => intMax < row.retryCount + 1

/-- A job with the id of a known one is not added again. -/
def addJob (queueName : String) (jobId : Uuid) : Outbox :=
  if (queueName, jobId) ∈ outbox.jobs then outbox
  else { outbox with jobs := outbox.jobs ++ [(queueName, jobId)] }

end Outbox

/-- What the environment decides about one call. -/
inductive OutboxChoice where
  /-- The call takes effect and its answer arrives; other statements hold these rows. -/
  | serve (locked : List Uuid)
  /-- The call takes effect, but the caller sees a rejection. -/
  | lose (error : JsError)
  /-- The call is rejected and has no effect. -/
  | reject (error : JsError)

namespace Outbox

variable (platform : Platform) (outbox : Outbox)

/-- A call that is carried out. -/
def effect : (call : OutboxCall) → List Uuid → Except JsError call.Reply × Outbox
  | .randomUUID, _ => (.ok outbox.nextUuid, { outbox with nextUuid := outbox.nextUuid + 1 })
  | .insert id event, _ =>
      match outbox.events.insert (Database.outboxRow platform outbox.clock id event) with
      | some events => (.ok (), { outbox with events := events, clock := outbox.clock + 1 })
      | none => (.error uniqueViolation, outbox)
  | .getPending limit, locked => (.ok (outbox.getPending locked limit), outbox)
  | .markPublished id, _ => (.ok (), outbox.update id (publishedRow outbox.clock) fun _ => rfl)
  | .markFailed id incrementRetry, _ =>
      if incrementRetry && outbox.overflows id then (.error outOfRange, outbox)
      else (.ok (), outbox.update id (failedRow outbox.clock incrementRetry) fun _ => rfl)
  | .resetForRetry id, _ =>
      if outbox.overflows id then (.error outOfRange, outbox)
      else (.ok (), outbox.update id retriedRow fun _ => rfl)
  | .createQueue _, _ => (.ok (), outbox)
  | .add queueName _ _ jobId, _ => (.ok (), outbox.addJob queueName jobId)

def perform (call : OutboxCall) : OutboxChoice → Except JsError call.Reply × Outbox
  | .serve locked => outbox.effect platform call locked
  | .lose error => (.error error, (outbox.effect platform call []).2)
  | .reject error => (.error error, outbox)

end Outbox

/-- What can be asked of the outbox. -/
inductive OutboxTask where
  | processBatch
  /-- A service commits an event. -/
  | write (aggregateType : String) (aggregateId : Uuid) (eventType : String) (payload headers : Json)

/-- The services write every event as PENDING and without retries. -/
def OutboxTask.program (outboxMaxRetries : Int) : OutboxTask → OutboxRoutine Unit
  | .processBatch => OutboxProcessor.processBatch outboxMaxRetries
  | .write aggregateType aggregateId eventType payload headers => do
      let id ← Program.call (S := outboxPorts) .randomUUID
      Program.call (S := outboxPorts) (.insert id {
        aggregateType, aggregateId, eventType, payload, headers, status := .pending, retryCount := 0 })

def publication (platform : Platform) (outboxMaxRetries : Int) :
    System outboxPorts JsError Outbox OutboxTask OutboxChoice Unit where
  program := OutboxTask.program outboxMaxRetries
  perform := Outbox.perform platform

/-- A state of the outbox and its processors. -/
abbrev Publishing := Config outboxPorts JsError Outbox OutboxTask Unit

/-- One batch or one write. -/
abbrev Publisher := Thread outboxPorts JsError Outbox OutboxTask Unit

abbrev OutboxEventCall := Event outboxPorts JsError Outbox

abbrev OutboxLog := Log outboxPorts JsError Outbox

/-! ## A small outbox

Concrete states for the runs that later modules look at. -/

def orderCreated (id : Uuid) : OutboxEvent where
  id := id
  aggregateType := "order"
  aggregateId := 0
  eventType := "order.created"
  payload := .obj [("queue", .str "webhook-delivery")]
  headers := .obj []
  status := .pending
  retryCount := 0
  createdAt := 0
  processedAt := none

/-- One pending event. -/
def smallOutbox : Outbox where
  events := ⟨[orderCreated 0], by decide⟩

/-- Answer the calls of a batch, so many of them, with nothing locked elsewhere. -/
def poll (index calls : Nat) : List (Move OutboxTask OutboxChoice) :=
  List.replicate calls (.advance index (.serve []))

/-- A run of some processors over the small outbox. -/
def publishing (moves : List (Move OutboxTask OutboxChoice)) : Publishing :=
  (publication postgresJs 5).run { shared := smallOutbox } moves

/-- The status of the small outbox's event. -/
def publishedStatus (config : Publishing) : Option OutboxStatus :=
  (config.shared.events.lookup 0).map OutboxEvent.status

example : publishedStatus (publishing (.start .processBatch :: poll 0 4)) = some .published := by
  decide +kernel

end Orderly
