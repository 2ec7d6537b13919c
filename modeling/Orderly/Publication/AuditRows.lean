import Orderly.Publication.Notifications
import Mathlib.Data.List.Perm.Basic

/-!
# The rows of a dispatch

A delivery records its attempt once the response is there, and again in its
`catch` block.  A response outside 2xx makes the first recording throw
afterwards, so its attempt is recorded twice; every other attempt once.
-/

namespace Orderly

open Process (Config Event Log Move Program System Thread)

/-- A row without the text of the response. -/
abbrev AuditRow := Uuid × Uuid × Int

/-- The row that an answered insert has added. -/
def insertedBy : Event deliveryPorts JsError Deliveries → Option AuditRow
  | ⟨.insertDelivery row, .ok _, _, _⟩ => some (row.subscriptionId, row.eventId, row.status)
  | _ => none

/-- The rows that a delivery has added. -/
def recordedRows (log : DeliveryLog) : List AuditRow := log.filterMap insertedBy

/-- The status of a row: the response's, or -1 if none arrived. -/
def auditStatus : Except JsError Nat → Int
  | .ok status => status
  | .error _ => -1

/-- One row for each subscription that is not blocked. -/
def expectedRows (http : Nat → Except JsError Nat) (aggregateId : Uuid) (subscriptions : List SubscriptionRow) :
    List AuditRow :=
  subscriptions.zipIdx.flatMap fun (sub, index) =>
    if isBlockedUrl sub.url then [] else [(sub.id, aggregateId, auditStatus (http index))]

/-- A response outside 2xx. -/
def Refused : Except JsError Nat → Bool
  | .ok status => !responseOk status
  | .error _ => false

/-- The rows of one delivery. -/
def deliveredRows (http : Except JsError Nat) (aggregateId : Uuid) (sub : SubscriptionRow) : List AuditRow :=
  if isBlockedUrl sub.url then []
  else if Refused http then List.replicate 2 (sub.id, aggregateId, auditStatus http)
  else [(sub.id, aggregateId, auditStatus http)]

/-- The deliveries are answered in any order, and every insert succeeds. -/
inductive RecordedAt (http : Nat → Except JsError Nat) :
    DeliveryConfig → Move (Delivering Unit) DeliveryChoice → Prop
  | answer (config : DeliveryConfig) (index : Nat) (choice : DeliveryChoice) (request : choice.http = http index)
      (inserted : choice.insert = .ok ()) : RecordedAt http config (.advance index choice)

/-- What comes of the request is given, and inserts succeed. -/
def Recording (http : Except JsError Nat) (_ : DeliveryLog) : Event deliveryPorts JsError Deliveries → Prop
  | ⟨.fetch _, reply, _, _⟩ => reply = http
  | ⟨.insertDelivery _, reply, _, _⟩ => reply = .ok ()
  | _ => True

namespace WebhookDispatcher

variable {config : WebhookConfig} {sub : SubscriptionRow} {webhookPayload : WebhookPayload}
  {subscriptionId aggregateId : Uuid} {status : Int} {responseBody : String} {log : DeliveryLog}
  {http : Except JsError Nat} {Throws : JsError → DeliveryLog → Prop} {rows : List AuditRow}

theorem recordDelivery_rows (so : recordedRows log = rows) :
    (recordDelivery subscriptionId aggregateId status responseBody).Meets (Recording http) AnyCall
      (fun _ log => recordedRows log = (subscriptionId, aggregateId, status) :: rows) Throws log := by
  refine Program.Meets.attempt_call trivial ?_
  intro reply before after inserted
  have succeeded : reply = .ok () := inserted
  subst succeeded
  exact congrArg _ so

theorem responseText_rows (so : recordedRows log = rows) :
    (tryCatch responseText fun _ => return "" : Delivering String).Meets (Recording http) AnyCall
      (fun _ log => recordedRows log = rows) Throws log := by
  refine Program.Meets.attempt_call trivial ?_
  intro reply before after _
  cases reply with
  | ok value => exact so
  | error error => exact so

/-- The `try` block records a response, and throws at one outside 2xx. -/
theorem attemptDelivery_rows :
    (attemptDelivery config sub webhookPayload).Meets (Recording http) AnyCall
      (fun ended log => ended.1 = auditStatus http ∧
        recordedRows log = (match http with
          | .ok _ => [(sub.id, webhookPayload.aggregateId, auditStatus http)]
          | .error _ => []) ∧
        (ended.2.2 = .ok () ↔ Accepted http)) Throws [] := by
  refine Program.Meets.attempt_call trivial ?_
  intro reply before after given
  have same : reply = http := given
  subst same
  cases reply with
  | error err => exact ⟨rfl, rfl, by simp [Accepted]⟩
  | ok status =>
      refine Program.Meets.bind (responseText_rows rfl) ?_
      intro responseBody log so
      refine Program.Meets.bind (recordDelivery_rows so) ?_
      intro _ log so
      by_cases accepted : responseOk status = true
      · rw [if_pos accepted]
        exact ⟨rfl, so, by simpa [Accepted] using accepted⟩
      · rw [if_neg accepted]
        exact ⟨rfl, so, by simpa [Accepted] using accepted⟩

/-- A delivery records a refused attempt twice, and any other once. -/
theorem deliver_rows :
    (deliver config sub webhookPayload).Meets (Recording http) AnyCall
      (fun _ log => recordedRows log = deliveredRows http webhookPayload.aggregateId sub)
      (fun _ log => recordedRows log = deliveredRows http webhookPayload.aggregateId sub) [] := by
  unfold deliver deliveredRows
  split
  · exact rfl
  · refine Program.Meets.bind attemptDelivery_rows ?_
    rintro ⟨httpStatus, responseBody, ended⟩ log ⟨same, so, told⟩
    replace same : httpStatus = auditStatus http := same
    subst same
    cases ended with
    | ok value =>
        have accepted := told.mp rfl
        cases http with
        | error err => exact accepted.elim
        | ok status =>
            have fine : Refused (.ok status) = false := by simpa [Refused, Accepted] using accepted
            rw [fine]
            exact so
    | error err =>
        have again : (recordDelivery sub.id webhookPayload.aggregateId (auditStatus http) responseBody).Meets
            (Recording http) AnyCall (fun _ log => recordedRows log = (sub.id, webhookPayload.aggregateId,
              auditStatus http) :: match http with
                | .ok _ => [(sub.id, webhookPayload.aggregateId, auditStatus http)]
                | .error _ => []) (fun _ _ => False) log := recordDelivery_rows so
        refine Program.Meets.bind (again.tryCatch ?_) ?_
        · exact fun _ _ failed => failed.elim
        · intro _ log rows
          cases http with
          | error error => exact rows
          | ok status =>
              have refused : Refused (.ok status) = true := by
                simpa [Refused, Accepted] using told
              rw [refused]
              exact rows

end WebhookDispatcher

/-! ## All deliveries -/

section Deliveries

variable {http : Nat → Except JsError Nat} {start config next : DeliveryConfig}
  {move : Move (Delivering Unit) DeliveryChoice}

/-- The rows that the deliveries of a configuration have added. -/
def DeliveryConfig.recorded (config : DeliveryConfig) : List AuditRow :=
  config.threads.flatMap fun thread => recordedRows thread.log

/-- The columns of a row that do not hold the response's text. -/
def WebhookDelivery.columns (row : WebhookDelivery) : AuditRow := (row.subscriptionId, row.eventId, row.status)

/-- The rows added since the start are those of the deliveries, in some order. -/
structure RowsAdded (start config : DeliveryConfig) : Prop where
  threads : config.threads.length = start.threads.length
  rows : ∃ added, config.shared = start.shared ++ added ∧
    (added.map WebhookDelivery.columns).Perm (DeliveryConfig.recorded config)

theorem flatMap_set {X Y : Type} {items : List X} {index : Nat} {old new : X} (listed : items[index]? = some old)
    (value : X → List Y) (more : List Y) (grown : value new = more ++ value old) :
    ((items.set index new).flatMap value).Perm (more ++ items.flatMap value) := by
  induction items generalizing index with
  | nil => cases listed
  | cons item items inductionHypothesis =>
      cases index with
      | zero =>
          cases listed
          rw [List.set_cons_zero, List.flatMap_cons, List.flatMap_cons, grown, List.append_assoc]
      | succ index =>
          rw [List.set_cons_succ, List.flatMap_cons, List.flatMap_cons]
          have later := inductionHypothesis listed
          refine (later.append_left (value item)).trans ?_
          rw [← List.append_assoc, ← List.append_assoc]
          exact List.perm_append_comm.append_right _

/-- An answer adds the row it has inserted, if any. -/
theorem recorded_answered {index : Nat} {thread : DeliveryThread} (listed : config.threads[index]? = some thread)
    (event : Event deliveryPorts JsError Deliveries) (rest : Delivering Unit) :
    (DeliveryConfig.recorded
      { shared := event.after, threads := config.threads.set index (thread.answered event rest) }).Perm
      ((insertedBy event).toList ++ config.recorded) := by
  refine flatMap_set listed (fun thread => recordedRows thread.log) _ ?_
  change (event :: thread.log).filterMap insertedBy = _
  rw [List.filterMap_cons]
  cases insertedBy event with
  | none => rfl
  | some row => rfl

theorem RowsAdded.step (adds : RowsAdded start config) (legal : RecordedAt http config move)
    (stepped : deliveries.Stepped config move next) : RowsAdded start next := by
  cases stepped with
  | idle => exact adds
  | started task => cases legal
  | stopped index => cases legal
  | answered index choice thread call resume listed pending live =>
      rcases adds.rows with ⟨added, shared, same⟩
      refine ⟨(List.length_set ..).trans adds.threads, ?_⟩
      have grown := recorded_answered listed (deliveries.answer config.shared call choice)
        (resume (deliveries.perform config.shared call choice).1)
      cases legal with
      | answer _ _ request inserted =>
          cases call with
          | fetch request => exact ⟨added, shared, same.trans grown.symm⟩
          | text => exact ⟨added, shared, same.trans grown.symm⟩
          | insertDelivery row =>
              have performed : deliveries.perform config.shared (.insertDelivery row) choice =
                  (.ok (), config.shared ++ [row]) := by
                simp only [deliveries, performDelivery, inserted]
                rfl
              have after : (deliveries.answer config.shared (.insertDelivery row) choice).after =
                  config.shared ++ [row] := congrArg Prod.snd performed
              have recorded : insertedBy (deliveries.answer config.shared (.insertDelivery row) choice) =
                  some row.columns := by
                change insertedBy ⟨.insertDelivery row, (deliveries.perform config.shared (.insertDelivery row)
                  choice).1, _, _⟩ = _
                rw [performed]
                rfl
              rw [recorded] at grown
              refine ⟨added ++ [row], ?_, ?_⟩
              · rw [← List.append_assoc, ← shared]
                exact after
              · rw [List.map_append]
                refine (List.perm_append_comm.trans ?_).trans grown.symm
                exact same.cons row.columns

theorem adds_reached (reached : deliveries.Reaches (RecordedAt http) start config) (fresh : start.recorded = []) :
    RowsAdded start config := by
  refine reached.induct ?_ ?_
  · refine ⟨rfl, [], (List.append_nil _).symm, ?_⟩
    rw [fresh]
    exact List.Perm.refl _
  · intro config move next _ legal stepped adds
    exact adds.step legal stepped

/-- The rows of a dispatch, one delivery after the other. -/
def allRows (http : Nat → Except JsError Nat) (aggregateId : Uuid) (subscriptions : List SubscriptionRow) :
    List AuditRow :=
  subscriptions.zipIdx.flatMap fun (sub, index) => deliveredRows (http index) aggregateId sub

variable {config : WebhookConfig} {subscriptions : List SubscriptionRow} {webhookPayload : WebhookPayload}
  {rows : Deliveries} {settled : List (Except JsError Unit)} {ended : DeliveryConfig}

/-- A delivery that has ended has added its rows. -/
theorem thread_rows
    (reached : deliveries.Reaches (RecordedAt http)
      (deliveries.launch rows (NotificationOutcomes.routines config subscriptions webhookPayload)) ended)
    (allEnded : ended.Settled settled) {index : Nat} {sub : SubscriptionRow}
    (listed : subscriptions[index]? = some sub) :
    ∃ thread, ended.threads[index]? = some thread ∧
      recordedRows thread.log = deliveredRows (http index) webhookPayload.aggregateId sub := by
  have found : (deliveries.launch rows (NotificationOutcomes.routines config subscriptions
      webhookPayload)).threads[index]? = some ⟨WebhookDispatcher.deliver config sub webhookPayload,
        WebhookDispatcher.deliver config sub webhookPayload, [], false⟩ := by
    simp only [System.launch, NotificationOutcomes.routines, List.getElem?_map, listed]
    rfl
  have given : ∀ config choice log call, RecordedAt http config (.advance index choice) →
      Recording (http index) log (deliveries.answer config.shared call choice) := by
    intro config choice log call legal
    cases legal with
    | answer _ _ request inserted =>
        cases call with
        | fetch made => exact request
        | text => trivial
        | insertDelivery row =>
            have performed : (deliveries.perform config.shared (.insertDelivery row) choice).1 = .ok () := by
              simp only [deliveries, performDelivery, inserted]
              rfl
            exact performed
  rcases reached.contract_at found WebhookDispatcher.deliver_rows trivial given with ⟨thread, later, ahead, _⟩
  refine ⟨thread, later, ?_⟩
  have outcome : thread.code ∈ ended.threads.map Thread.code :=
    List.mem_map_of_mem (List.mem_of_getElem? later)
  rw [allEnded] at outcome
  rcases List.mem_map.mp outcome with ⟨result, _, same⟩
  rw [← same] at ahead
  cases result with
  | ok value => exact ahead
  | error error => exact ahead

/-- When all deliveries have settled, they have added all their rows. -/
theorem settled_rows
    (reached : deliveries.Reaches (RecordedAt http)
      (deliveries.launch rows (NotificationOutcomes.routines config subscriptions webhookPayload)) ended)
    (allEnded : ended.Settled settled) :
    ∃ added, ended.shared = rows ++ added ∧
      (added.map WebhookDelivery.columns).Perm (allRows http webhookPayload.aggregateId subscriptions) := by
  have fresh : DeliveryConfig.recorded
      (deliveries.launch rows (NotificationOutcomes.routines config subscriptions webhookPayload)) = [] := by
    refine List.flatMap_eq_nil_iff.mpr ?_
    intro thread member
    rcases List.mem_map.mp member with ⟨routine, _, rfl⟩
    rfl
  have adds := adds_reached reached fresh
  rcases adds.rows with ⟨added, shared, same⟩
  refine ⟨added, shared, ?_⟩
  have each : ended.threads.map (fun thread => recordedRows thread.log) =
      subscriptions.zipIdx.map fun (sub, index) => deliveredRows (http index) webhookPayload.aggregateId sub := by
    apply List.ext_getElem?
    intro index
    rw [List.getElem?_map, List.getElem?_map, List.getElem?_zipIdx]
    cases listed : subscriptions[index]? with
    | some sub =>
        rcases thread_rows reached allEnded listed with ⟨thread, found, recorded⟩
        rw [found, Option.map_some, recorded]
        simp
    | none =>
        have outside := List.getElem?_eq_none_iff.mp listed
        have none : ended.threads[index]? = none := by
          refine List.getElem?_eq_none_iff.mpr ?_
          rw [adds.threads]
          simpa [System.launch, NotificationOutcomes.routines] using outside
        rw [none]
        rfl
  unfold DeliveryConfig.recorded at same
  rw [List.flatMap_def, each] at same
  unfold allRows
  rw [List.flatMap_def]
  exact same

/-- The deliveries settle in some order. -/
theorem recorded_settles (http : Nat → Except JsError Nat) (rows : Deliveries) (config : WebhookConfig)
    (subscriptions : List SubscriptionRow) (webhookPayload : WebhookPayload) :
    ∃ ended, deliveries.Reaches (RecordedAt http)
      (deliveries.launch rows (NotificationOutcomes.routines config subscriptions webhookPayload)) ended ∧
        ∃ settled, ended.Settled settled := by
  have bounded : ∀ routine ∈ NotificationOutcomes.routines config subscriptions webhookPayload,
      (deliveries.program routine).EndsWithin 4 := by
    intro routine member
    rcases List.mem_map.mp member with ⟨sub, _, rfl⟩
    exact WebhookDispatcher.deliver_endsWithin
  apply System.launch_settles _ rows _ bounded
  exact fun index config => ⟨⟨http index, .ok "", .ok (), true⟩, .answer config index _ rfl rfl⟩

end Deliveries

/-! ## A dispatch -/

/-- The rows that a dispatch has added when its deliveries have settled. -/
def rowsAddedBy : DispatchEvent → Deliveries
  | ⟨.allSettled _, .ok _, before, after⟩ => after.shared.drop before.shared.length
  | _ => []

/-- As `Answers`, where every insert succeeds. -/
def NotificationOutcomes.Records (outcomes : NotificationOutcomes) (_ : DispatchLog) : DispatchEvent → Prop
  | ⟨.selectSubscriptions _, reply, _, _⟩ => reply = outcomes.subscriptions
  | ⟨.newDate, reply, _, _⟩ => ∃ now, reply = .ok now
  | ⟨.allSettled routines, reply, before, after⟩ =>
      ∃ settled, reply = .ok settled ∧ after.Settled settled ∧
        deliveries.Reaches (RecordedAt outcomes.http) (deliveries.launch before.shared routines) after

/-- There is one row for each subscription found that is not blocked, and no other row. -/
def OneRowEach (http : Nat → Except JsError Nat) (aggregateId : Uuid) (log : DispatchLog) : Prop :=
  ∀ (eventType : String) (subscriptions : List SubscriptionRow) before after,
    (⟨.selectSubscriptions eventType, .ok subscriptions, before, after⟩ : DispatchEvent) ∈ log →
      ((log.flatMap rowsAddedBy).map WebhookDelivery.columns).Perm (expectedRows http aggregateId subscriptions)

/-- Every dispatch that returns has added one row for each attempt. -/
def AuditedOnce (config : WebhookConfig) (outcomes : NotificationOutcomes) (eventType : String) (aggregateId : Uuid)
    (payload : Json) : Prop :=
  (WebhookDispatcher.dispatch config eventType aggregateId payload).Meets outcomes.Records (fun _ _ => True)
    (fun _ log => OneRowEach outcomes.http aggregateId log) (fun _ _ => True) []

/-- No unblocked subscriber answers with a response outside 2xx. -/
def NotificationOutcomes.NoneRefuses (outcomes : NotificationOutcomes) : Prop :=
  ∀ subscriptions, outcomes.subscriptions = .ok subscriptions →
    ∀ (index : Nat) (sub : SubscriptionRow), subscriptions[index]? = some sub →
      isBlockedUrl sub.url = false → Refused (outcomes.http index) = false

section Dispatch

variable {config : WebhookConfig} {outcomes : NotificationOutcomes} {eventType : String} {aggregateId : Uuid}
  {payload : Json} {http : Nat → Except JsError Nat} {subscriptions : List SubscriptionRow}

theorem length_flatMap_le {X Y : Type} {items : List X} {few many : X → List Y}
    (fewer : ∀ item ∈ items, (few item).length ≤ (many item).length) :
    (items.flatMap few).length ≤ (items.flatMap many).length := by
  induction items with
  | nil => exact Nat.le_refl _
  | cons item items inductionHypothesis =>
      have first := fewer item List.mem_cons_self
      have rest := inductionHypothesis fun other member => fewer other (List.mem_cons_of_mem _ member)
      rw [List.flatMap_cons, List.flatMap_cons, List.length_append, List.length_append]
      omega

/-- Where nowhere fewer and on the whole as many, everywhere as many. -/
theorem length_flatMap_eq {X Y : Type} {items : List X} {few many : X → List Y}
    (fewer : ∀ item ∈ items, (few item).length ≤ (many item).length)
    (same : (items.flatMap many).length = (items.flatMap few).length) :
    ∀ item ∈ items, (many item).length = (few item).length := by
  induction items with
  | nil =>
      intro item none
      cases none
  | cons first items inductionHypothesis =>
      have head := fewer first List.mem_cons_self
      have tail := fun other member => fewer other (List.mem_cons_of_mem first member)
      have rest := length_flatMap_le tail
      rw [List.flatMap_cons, List.flatMap_cons, List.length_append, List.length_append] at same
      intro item member
      rcases List.mem_cons.mp member with rfl | later
      · omega
      · exact inductionHypothesis tail (by omega) item later

/-- The rows are those expected exactly when nobody has refused. -/
theorem allRows_perm_iff :
    (allRows http aggregateId subscriptions).Perm (expectedRows http aggregateId subscriptions) ↔
      ∀ (index : Nat) (sub : SubscriptionRow), subscriptions[index]? = some sub →
        isBlockedUrl sub.url = false → Refused (http index) = false := by
  constructor
  · intro same index sub listed unblocked
    have member : (sub, index) ∈ subscriptions.zipIdx := List.mem_zipIdx_iff_getElem?.mpr listed
    have fewer : ∀ item ∈ subscriptions.zipIdx,
        (if isBlockedUrl item.1.url then [] else [(item.1.id, aggregateId, auditStatus (http item.2))]).length ≤
          (deliveredRows (http item.2) aggregateId item.1).length := by
      intro item _
      unfold deliveredRows
      split
      · exact Nat.le_refl _
      · split
        · exact Nat.le_succ 1
        · exact Nat.le_refl _
    have each := length_flatMap_eq fewer same.length_eq (sub, index) member
    simp only [deliveredRows, unblocked] at each
    cases refused : Refused (http index) with
    | false => rfl
    | true =>
        rw [refused] at each
        cases each
  · intro accepted
    have same : allRows http aggregateId subscriptions = expectedRows http aggregateId subscriptions := by
      unfold allRows expectedRows
      rw [List.flatMap_def, List.flatMap_def]
      refine congrArg List.flatten (List.map_congr_left ?_)
      rintro ⟨sub, index⟩ member
      have listed := List.mem_zipIdx_iff_getElem?.mp member
      simp only [deliveredRows]
      split
      · rfl
      · next unblocked =>
          rw [if_neg]
          rw [accepted index sub listed (Bool.not_eq_true _ ▸ unblocked)]
          exact Bool.false_ne_true
    rw [same]

/-- Without refusals there is one row each. -/
theorem audited_of_accepted (accepted : outcomes.NoneRefuses) :
    AuditedOnce config outcomes eventType aggregateId payload := by
  refine Program.Meets.call_bind trivial (fun _ _ _ _ => trivial) ?_
  intro subscriptions before after found
  have given : outcomes.subscriptions = .ok subscriptions := Eq.symm found
  split
  · next none =>
      intro asked selected _ _ member
      cases List.mem_singleton.mp member
      rw [List.length_eq_zero_iff.mp none]
      exact List.Perm.refl _
  · refine Program.Meets.call_bind trivial (fun _ _ _ _ => trivial) ?_
    intro timestamp before after _
    refine Program.Meets.call_bind trivial (fun _ _ _ _ => trivial) ?_
    intro settled start ended admitted
    rcases admitted with ⟨_, same, allEnded, reached⟩
    cases same
    rcases settled_rows reached allEnded with ⟨added, grown, rows⟩
    intro asked selected _ _ member
    rcases List.mem_cons.mp member with same | member
    · cases same
    rcases List.mem_cons.mp member with same | member
    · cases same
    have same : selected = subscriptions := by
      cases List.mem_singleton.mp member
      rfl
    subst same
    change ((ended.shared.drop start.shared.length ++ []).map WebhookDelivery.columns).Perm _
    rw [List.append_nil, grown, List.drop_left]
    exact rows.trans (allRows_perm_iff.mpr (accepted selected given))

/-- With a refusal there are two for that attempt. -/
theorem accepted_of_audited (audited : AuditedOnce config outcomes eventType aggregateId payload) :
    outcomes.NoneRefuses := by
  intro subscriptions given index sub listed unblocked
  have some : subscriptions.length ≠ 0 := by
    intro none
    rw [List.length_eq_zero_iff.mp none] at listed
    cases listed
  let timestamp : Date := 0
  let webhookPayload : WebhookPayload := { eventType, aggregateId, payload, timestamp }
  rcases recorded_settles outcomes.http [] config subscriptions webhookPayload with ⟨ended, run, settled, allEnded⟩
  let idle : DeliveryConfig := { shared := [] }
  have selected := audited.2 (.ok subscriptions) idle idle given.symm
  change Program.Meets _ _ _ _ (if _ then _ else _) _ at selected
  rw [if_neg some] at selected
  have dated := selected.2 (.ok timestamp) idle idle ⟨timestamp, rfl⟩
  have finished := dated.2 (.ok settled) idle ended ⟨settled, rfl, allEnded, run⟩
  have rows := finished eventType subscriptions idle idle
    (List.mem_cons_of_mem _ (List.mem_cons_of_mem _ List.mem_cons_self))
  rcases settled_rows run allEnded with ⟨added, grown, all⟩
  change ((ended.shared.drop 0 ++ []).map WebhookDelivery.columns).Perm _ at rows
  rw [List.append_nil, List.drop_zero, grown, List.nil_append] at rows
  exact allRows_perm_iff.mp (all.symm.trans rows) index sub listed unblocked

/-- A dispatch adds one row for each attempt exactly when no response is outside 2xx. -/
theorem audited_once_iff (config : WebhookConfig) (outcomes : NotificationOutcomes) (eventType : String)
    (aggregateId : Uuid) (payload : Json) :
    AuditedOnce config outcomes eventType aggregateId payload ↔ outcomes.NoneRefuses :=
  ⟨accepted_of_audited, audited_of_accepted⟩

/-- One subscriber answers 500, and its attempt is recorded twice. -/
theorem refusal_recorded_twice :
    ¬AuditedOnce
      { webhookSecretHeader := "X-Webhook-Signature", uuidText := fun _ => "", toISOString := fun _ => "",
        signPayload := fun _ _ => "" }
      { subscriptions := .ok [{ id := 1, url := "https://hooks.example.com/orders", eventTypes := ["order.paid"],
                                secret := "s" }]
        http := fun _ => .ok 500 } "order.paid" 7 (.obj []) := by
  intro audited
  have accepted := accepted_of_audited audited _ rfl 0 _ rfl (by decide +kernel)
  cases accepted

end Dispatch

end Orderly
