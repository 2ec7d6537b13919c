import Orderly.Events.WebhookDispatcher

/-!
# What a finished notification job has reached

A delivery tells by its outcome whether the subscriber has accepted the event.
The dispatcher settles all deliveries and drops their outcomes, so once the
subscriptions are read the processor always resolves, and the queue never
retries.  A job has reached every subscriber exactly when every request was
accepted at the first try.
-/

namespace Orderly

open Process (Config Event Log Move Program System Thread)

/-! ## The deliveries -/

/-- How the environment answers one call of a delivery.  A rejected insert may
have been carried out. -/
structure DeliveryChoice where
  http : Except JsError Nat
  text : Except JsError String
  insert : Except JsError Unit
  inserted : Bool

/-- The table `webhook_deliveries`, oldest row first. -/
abbrev Deliveries := List WebhookDelivery

def performDelivery (rows : Deliveries) : (call : DeliveryCall) → DeliveryChoice →
    Except JsError call.Reply × Deliveries
  | .fetch _, choice => (choice.http, rows)
  | .text, choice => (choice.text, rows)
  | .insertDelivery row, choice =>
      match choice.insert with
      | .ok () => (.ok (), rows ++ [row])
      | .error error => (.error error, if choice.inserted then rows ++ [row] else rows)

abbrev DeliverySystem := System deliveryPorts JsError Deliveries (Delivering Unit) DeliveryChoice Unit

/-- Any routines over the delivery calls, on one table. -/
def deliveries : DeliverySystem where
  program routine := routine
  perform rows call choice := performDelivery rows call choice

abbrev DeliveryConfig := Config deliveryPorts JsError Deliveries (Delivering Unit) Unit

abbrev DeliveryLog := Log deliveryPorts JsError Deliveries

abbrev DeliveryThread := Thread deliveryPorts JsError Deliveries (Delivering Unit) Unit

/-- The deliveries are answered in any order; what comes of the request of each
is given. -/
inductive GivenAt (http : Nat → Except JsError Nat) : DeliveryConfig → Move (Delivering Unit) DeliveryChoice → Prop
  | answer (config : DeliveryConfig) (index : Nat) (choice : DeliveryChoice) (request : choice.http = http index) :
      GivenAt http config (.advance index choice)

/-- A 2xx response. -/
def Accepted : Except JsError Nat → Prop
  | .ok status => responseOk status = true
  | .error _ => False

/-- The subscriber has answered a request that carries the event with a 2xx response. -/
def Delivered (config : WebhookConfig) (sub : SubscriptionRow) (job : NotificationJob) (log : DeliveryLog) : Prop :=
  ∃ timestamp status before after,
    (⟨.fetch (WebhookDispatcher.requestOf config sub
        { eventType := job.eventType, aggregateId := job.aggregateId, payload := job.payload, timestamp }),
      .ok status, before, after⟩ : Event deliveryPorts JsError Deliveries) ∈ log ∧ responseOk status = true

/-- A request has been made, and this came of it. -/
def Requested (request : WebhookRequest) (outcome : Except JsError Nat) (log : DeliveryLog) : Prop :=
  ∃ before after,
    (⟨.fetch request, outcome, before, after⟩ : Event deliveryPorts JsError Deliveries) ∈ log

theorem Requested.later {request : WebhookRequest} {outcome : Except JsError Nat} {log : DeliveryLog}
    (requested : Requested request outcome log) (event : Event deliveryPorts JsError Deliveries) :
    Requested request outcome (event :: log) := by
  rcases requested with ⟨before, after, member⟩
  exact ⟨before, after, List.mem_cons_of_mem _ member⟩

/-- What comes of the request is given; anything else may be answered. -/
def Given (http : Except JsError Nat) (_ : DeliveryLog) : Event deliveryPorts JsError Deliveries → Prop
  | ⟨.fetch _, reply, _, _⟩ => reply = http
  | _ => True

namespace WebhookDispatcher

variable {config : WebhookConfig} {sub : SubscriptionRow} {webhookPayload : WebhookPayload}
  {subscriptionId aggregateId : Uuid} {status : Int} {responseBody : String} {log : DeliveryLog}
  {Answers : DeliveryLog → Event deliveryPorts JsError Deliveries → Prop} {Throws : JsError → DeliveryLog → Prop}

/-- A delivery may issue any call. -/
abbrev AnyCall (_ : DeliveryLog) (_ : deliveryPorts.Call) : Prop := True

/-- Recording a delivery never fails, and takes nothing out of the log. -/
theorem recordDelivery_meets {request : WebhookRequest} {outcome : Except JsError Nat}
    (requested : Requested request outcome log) :
    (recordDelivery subscriptionId aggregateId status responseBody).Meets Answers AnyCall
      (fun _ log => Requested request outcome log) Throws log := by
  refine Program.Meets.attempt_call trivial ?_
  intro reply before after _
  cases reply with
  | ok value => exact requested.later _
  | error error => exact requested.later _

/-- Nor does reading the body. -/
theorem responseText_meets {request : WebhookRequest} {outcome : Except JsError Nat}
    (requested : Requested request outcome log) :
    (tryCatch responseText fun _ => return "" : Delivering String).Meets Answers AnyCall
      (fun _ log => Requested request outcome log) Throws log := by
  refine Program.Meets.attempt_call trivial ?_
  intro reply before after _
  cases reply with
  | ok value => exact requested.later _
  | error error => exact requested.later _

/-- The `try` block ends well exactly when the request was accepted. -/
theorem attemptDelivery_meets {http : Except JsError Nat} :
    (attemptDelivery config sub webhookPayload).Meets (Given http) AnyCall
      (fun ended log => Requested (requestOf config sub webhookPayload) http log ∧
        (ended.2.2 = .ok () ↔ Accepted http)) Throws log := by
  refine Program.Meets.attempt_call trivial ?_
  intro reply before after given
  have requested : Requested (requestOf config sub webhookPayload) reply
      (⟨.fetch (requestOf config sub webhookPayload), reply, before, after⟩ :: log) :=
    ⟨before, after, List.mem_cons_self⟩
  have same : reply = http := given
  subst same
  cases reply with
  | error err => exact ⟨requested, by simp [Accepted]⟩
  | ok status =>
      refine Program.Meets.bind (responseText_meets requested) ?_
      intro responseBody log requested
      refine Program.Meets.bind (recordDelivery_meets requested) ?_
      intro _ log requested
      split
      · next accepted => exact ⟨requested, by simpa [Accepted] using accepted⟩
      · next refused => exact ⟨requested, by simpa [Accepted] using refused⟩

/-- The promise of a delivery tells whether the request was accepted. -/
theorem deliver_meets {http : Except JsError Nat} (unblocked : isBlockedUrl sub.url = false) :
    (deliver config sub webhookPayload).Meets (Given http) AnyCall
      (fun _ log => Requested (requestOf config sub webhookPayload) http log ∧ Accepted http)
      (fun _ log => Requested (requestOf config sub webhookPayload) http log ∧ ¬Accepted http) log := by
  unfold deliver
  rw [unblocked]
  refine Program.Meets.bind attemptDelivery_meets ?_
  rintro ⟨httpStatus, responseBody, ended⟩ log ⟨requested, told⟩
  cases ended with
  | ok value => exact ⟨requested, told.mp rfl⟩
  | error err =>
      have refused : ¬Accepted http := fun accepted => by cases told.mpr accepted
      have again : (recordDelivery sub.id webhookPayload.aggregateId httpStatus responseBody).Meets (Given http) AnyCall
          (fun _ log => Requested (requestOf config sub webhookPayload) http log) (fun _ _ => False) log :=
        recordDelivery_meets requested
      refine Program.Meets.bind (again.tryCatch ?_) ?_
      · exact fun _ _ failed => failed.elim
      · exact fun _ log requested => ⟨requested, refused⟩

theorem recordDelivery_endsWithin :
    (recordDelivery subscriptionId aggregateId status responseBody).EndsWithin 1 :=
  (Program.EndsWithin.call (S := deliveryPorts) _).tryCatch fun _ => .done 0 ()

theorem attemptDelivery_endsWithin : (attemptDelivery config sub webhookPayload).EndsWithin 3 := by
  refine Program.EndsWithin.bind (Program.EndsWithin.call (S := deliveryPorts) _).attempt ?_
  intro fetched
  cases fetched with
  | error err => exact .done 2 _
  | ok status =>
      refine Program.EndsWithin.bind ((Program.EndsWithin.call (S := deliveryPorts) _).tryCatch fun _ => .done 0 "") ?_
      intro responseBody
      refine Program.EndsWithin.bind recordDelivery_endsWithin ?_
      intro _
      split
      · exact .done 0 _
      · exact .done 0 _

/-- A delivery awaits at most four answers. -/
theorem deliver_endsWithin : (deliver config sub webhookPayload).EndsWithin 4 := by
  unfold deliver
  split
  · exact .done 4 ()
  · refine Program.EndsWithin.bind attemptDelivery_endsWithin ?_
    rintro ⟨httpStatus, responseBody, ended⟩
    cases ended with
    | ok value => exact .done 1 value
    | error err =>
        have again : (tryCatch (recordDelivery sub.id webhookPayload.aggregateId httpStatus responseBody)
            fun _ => return ()).EndsWithin 1 := recordDelivery_endsWithin.tryCatch fun _ => .done 0 ()
        exact again.bind fun _ => .thrown 0 err

end WebhookDispatcher

/-! ## A run of the processor -/

/-- What is given to a run of the processor: the answer of the `SELECT`, and
what comes of the request to each of its rows. -/
structure NotificationOutcomes where
  subscriptions : Except JsError (List SubscriptionRow)
  http : Nat → Except JsError Nat

abbrev DispatchEvent := Event dispatchPorts JsError DeliveryConfig

abbrev DispatchLog := Log dispatchPorts JsError DeliveryConfig

/-- `Promise.allSettled` answers when all its routines have ended, after any
interleaving of them. -/
def NotificationOutcomes.Answers (outcomes : NotificationOutcomes) (_ : DispatchLog) : DispatchEvent → Prop
  | ⟨.selectSubscriptions _, reply, _, _⟩ => reply = outcomes.subscriptions
  | ⟨.newDate, reply, _, _⟩ => ∃ now, reply = .ok now
  | ⟨.allSettled routines, reply, before, after⟩ =>
      ∃ settled, reply = .ok settled ∧ after.Settled settled ∧
        deliveries.Reaches (GivenAt outcomes.http) (deliveries.launch before.shared routines) after

/-- Every unblocked subscription the job has found has been delivered to. -/
def ReachedAll (config : WebhookConfig) (job : NotificationJob) (log : DispatchLog) : Prop :=
  ∀ (subscriptions : List SubscriptionRow) before after,
    (⟨.selectSubscriptions job.eventType, .ok subscriptions, before, after⟩ : DispatchEvent) ∈ log →
    ∀ (index : Nat) (sub : SubscriptionRow), subscriptions[index]? = some sub → isBlockedUrl sub.url = false →
      ∃ routines settled start, ∃ (ended : DeliveryConfig) (thread : DeliveryThread),
        (⟨.allSettled routines, .ok settled, start, ended⟩ : DispatchEvent) ∈ log ∧
          ended.threads[index]? = some thread ∧ Delivered config sub job thread.log

/-! ## The job -/

namespace NotificationOutcomes

variable {config : WebhookConfig} {outcomes : NotificationOutcomes} {subscriptions : List SubscriptionRow}
  {webhookPayload : WebhookPayload} {rows : Deliveries} {settled : List (Except JsError Unit)}

/-- The deliveries of a job. -/
abbrev routines (config : WebhookConfig) (subscriptions : List SubscriptionRow) (webhookPayload : WebhookPayload) :
    List (Delivering Unit) :=
  subscriptions.map fun sub => WebhookDispatcher.deliver config sub webhookPayload

/-- When all deliveries have settled, a request has been made to each unblocked
subscriber, and what was given came of it. -/
theorem settled_requested {ended : DeliveryConfig}
    (reached : deliveries.Reaches (GivenAt outcomes.http)
      (deliveries.launch rows (routines config subscriptions webhookPayload)) ended)
    (allEnded : ended.Settled settled) {index : Nat} {sub : SubscriptionRow}
    (listed : subscriptions[index]? = some sub) (unblocked : isBlockedUrl sub.url = false) :
    ∃ thread, ended.threads[index]? = some thread ∧
      Requested (WebhookDispatcher.requestOf config sub webhookPayload) (outcomes.http index) thread.log ∧
      ∀ request outcome, Requested request outcome thread.log → outcome = outcomes.http index := by
  have found : (deliveries.launch rows (routines config subscriptions webhookPayload)).threads[index]? =
      some ⟨WebhookDispatcher.deliver config sub webhookPayload,
        WebhookDispatcher.deliver config sub webhookPayload, [], false⟩ := by
    simp only [System.launch, routines, List.getElem?_map, listed]
    rfl
  have given : ∀ config choice log call, GivenAt outcomes.http config (.advance index choice) →
      Given (outcomes.http index) log (deliveries.answer config.shared call choice) := by
    intro config choice log call legal
    cases legal with
    | answer _ _ request =>
        cases call with
        | fetch made => exact request
        | text => trivial
        | insertDelivery row => trivial
  rcases reached.contract_at found (WebhookDispatcher.deliver_meets unblocked) trivial given with
    ⟨thread, later, ahead, behind⟩
  refine ⟨thread, later, ?_, ?_⟩
  · have outcome : thread.code ∈ ended.threads.map Thread.code :=
      List.mem_map_of_mem (List.mem_of_getElem? later)
    rw [allEnded] at outcome
    rcases List.mem_map.mp outcome with ⟨result, _, same⟩
    rw [← same] at ahead
    cases result with
    | ok value => exact ahead.1
    | error error => exact ahead.1
  · intro request outcome ⟨before, after, member⟩
    rcases behind.admitted member with ⟨_, _, _, _, told⟩
    exact told

/-- The deliveries of a job settle in some order. -/
theorem settles (http : Nat → Except JsError Nat) (rows : Deliveries) (config : WebhookConfig)
    (subscriptions : List SubscriptionRow) (webhookPayload : WebhookPayload) :
    ∃ ended, deliveries.Reaches (GivenAt http)
      (deliveries.launch rows (routines config subscriptions webhookPayload)) ended ∧
        ∃ settled, ended.Settled settled := by
  have bounded : ∀ routine ∈ routines config subscriptions webhookPayload,
      (deliveries.program routine).EndsWithin 4 := by
    intro routine member
    rcases List.mem_map.mp member with ⟨sub, _, rfl⟩
    exact WebhookDispatcher.deliver_endsWithin
  apply System.launch_settles _ rows _ bounded
  exact fun index config => ⟨⟨http index, .ok "", .ok (), true⟩, .answer config index _ rfl⟩

end NotificationOutcomes

/-- Every request to an unblocked subscriber of the job is accepted. -/
def NotificationOutcomes.AllAccepted (outcomes : NotificationOutcomes) : Prop :=
  ∀ subscriptions, outcomes.subscriptions = .ok subscriptions →
    ∀ (index : Nat) (sub : SubscriptionRow), subscriptions[index]? = some sub →
      isBlockedUrl sub.url = false → Accepted (outcomes.http index)

/-- Whenever the processor resolves, every unblocked subscriber has been delivered to. -/
def FinishedReached (config : WebhookConfig) (outcomes : NotificationOutcomes) (job : NotificationJob) : Prop :=
  (notificationWorkerProcessor config job).Meets outcomes.Answers (fun _ _ => True)
    (fun _ log => ReachedAll config job log) (fun _ _ => True) []

variable {config : WebhookConfig} {outcomes : NotificationOutcomes} {job : NotificationJob}
  {subscriptions : List SubscriptionRow}

/-- A job whose requests are all accepted reaches every subscriber. -/
theorem reached_of_accepted (accepted : outcomes.AllAccepted) : FinishedReached config outcomes job := by
  have body : (WebhookDispatcher.dispatch config job.eventType job.aggregateId job.payload).Meets outcomes.Answers
      (fun _ _ => True) (fun _ log => ReachedAll config job log) (fun _ _ => True) [] := by
    refine Program.Meets.call_bind trivial (fun _ _ _ _ => trivial) ?_
    intro subscriptions before after found
    have given : outcomes.subscriptions = .ok subscriptions := Eq.symm found
    split
    · next none =>
        intro selected _ _ member index sub listed
        cases List.mem_singleton.mp member
        rw [List.length_eq_zero_iff.mp none] at listed
        cases listed
    · refine Program.Meets.call_bind trivial (fun _ _ _ _ => trivial) ?_
      intro timestamp before after _
      refine Program.Meets.call_bind trivial (fun _ _ _ _ => trivial) ?_
      intro settled start ended admitted
      rcases admitted with ⟨_, same, allEnded, reached⟩
      cases same
      intro selected _ _ member index sub listed unblocked
      rcases List.mem_cons.mp member with same | member
      · cases same
      rcases List.mem_cons.mp member with same | member
      · cases same
      have same : selected = subscriptions := by cases List.mem_singleton.mp member; rfl
      subst same
      rcases NotificationOutcomes.settled_requested reached allEnded listed unblocked with
        ⟨thread, later, ⟨before, after, requested⟩, _⟩
      refine ⟨_, _, _, _, thread, List.mem_cons_self, later, ?_⟩
      have fine := accepted selected given index sub listed unblocked
      cases outcome : outcomes.http index with
      | error error =>
          rw [outcome] at fine
          exact fine.elim
      | ok status =>
          rw [outcome] at requested fine
          exact ⟨timestamp, status, before, after, requested, fine⟩
  rw [FinishedReached, notificationWorkerProcessor, Program.tryCatch_throw]
  exact body

/-- A finished job whose subscribers were all reached had all requests accepted. -/
theorem accepted_of_reached (reached : FinishedReached config outcomes job) : outcomes.AllAccepted := by
  intro subscriptions given index sub listed unblocked
  have some : subscriptions.length ≠ 0 := by
    intro none
    rw [List.length_eq_zero_iff.mp none] at listed
    cases listed
  let timestamp : Date := 0
  let webhookPayload : WebhookPayload :=
    { eventType := job.eventType, aggregateId := job.aggregateId, payload := job.payload, timestamp }
  rcases NotificationOutcomes.settles outcomes.http [] config subscriptions webhookPayload with
    ⟨ended, run, settled, allEnded⟩
  let idle : DeliveryConfig := { shared := [] }
  rw [FinishedReached, notificationWorkerProcessor, Program.tryCatch_throw] at reached
  have selected := reached.2 (.ok subscriptions) idle idle given.symm
  change Program.Meets _ _ _ _ (if _ then _ else _) _ at selected
  rw [if_neg some] at selected
  have dated := selected.2 (.ok timestamp) idle idle ⟨timestamp, rfl⟩
  have finished := dated.2 (.ok settled) idle ended ⟨settled, rfl, allEnded, run⟩
  rcases finished subscriptions idle idle (List.mem_cons_of_mem _ (List.mem_cons_of_mem _ List.mem_cons_self))
      index sub listed unblocked with
    ⟨_, _, _, _, thread, member, found, sent, status, before, after, delivered, fine⟩
  rcases List.mem_cons.mp member with same | member
  · cases same
    rcases NotificationOutcomes.settled_requested run allEnded listed unblocked with ⟨thread', later, _, told⟩
    cases found.symm.trans later
    rw [← told _ _ ⟨before, after, delivered⟩]
    exact fine
  · rcases List.mem_cons.mp member with same | member
    · cases same
    · cases List.mem_singleton.mp member

/-- A finished job has reached every subscriber exactly when every request was
accepted. -/
theorem finished_reached_iff (config : WebhookConfig) (outcomes : NotificationOutcomes) (job : NotificationJob) :
    FinishedReached config outcomes job ↔ outcomes.AllAccepted :=
  ⟨accepted_of_reached, reached_of_accepted⟩

/-- Once the subscriptions are read, the processor resolves. -/
theorem processor_resolves (read : outcomes.subscriptions = .ok subscriptions) :
    (notificationWorkerProcessor config job).Meets outcomes.Answers (fun _ _ => True) (fun _ _ => True)
      (fun _ _ => False) [] := by
  rw [notificationWorkerProcessor, Program.tryCatch_throw]
  refine Program.Meets.call_bind trivial ?_ ?_
  · intro error before after failed
    cases read.symm.trans (Eq.symm failed)
  intro found before after _
  split
  · exact trivial
  refine Program.Meets.call_bind trivial ?_ ?_
  · intro error before after ⟨now, answered⟩
    cases answered
  intro timestamp before after _
  refine Program.Meets.call_bind trivial ?_ fun _ _ _ _ => trivial
  intro error before after ⟨settled, answered, _⟩
  cases answered

/-- One subscriber answers 500: the processor resolves all the same. -/
theorem server_error_ignored :
    ¬FinishedReached
      { webhookSecretHeader := "X-Webhook-Signature", uuidText := fun _ => "", toISOString := fun _ => "",
        signPayload := fun _ _ => "" }
      { subscriptions := .ok [{ id := 1, url := "https://hooks.example.com/orders", eventTypes := ["order.paid"],
                                secret := "s" }]
        http := fun _ => .ok 500 }
      { aggregateType := "order", aggregateId := 7, eventType := "order.paid", payload := .obj [],
        headers := .obj [] } := by
  intro reached
  have accepted := accepted_of_reached reached _ rfl 0 _ rfl (by decide +kernel)
  cases accepted

end Orderly
