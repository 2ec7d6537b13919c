import Orderly.Ordering.Replays
import Orderly.Process.Coupling

/-!
# What a client observes

Requests arrive one after the other, each at its date, and every call is
served.  What a client can observe of the backend are its rate-limit counters,
the records under its keys in the idempotency store, and whether its keys are
taken in the database.  A request of another client leaves that alone, unless
it carries one of the client's idempotency keys or has the same key in the
store.
-/

namespace Orderly

open Process (Program System)

/-! ## Sequences of requests -/

/-- A request and the date of its arrival. -/
structure Arrival where
  date : Date
  post : PostOrder

def Backend.arriving (backend : Backend) (date : Date) : Backend := { backend with world.clock := date }

/-- Serve one request to its end. -/
def serveOne (platform : Platform) (config : ApiConfig) (backend : Backend) (arrival : Arrival) :
    Except JsError ApiResponse × Backend :=
  (api platform config).complete .serve (postOrder config arrival.post) (backend.arriving arrival.date)

/-- Serve all requests, and keep their answers. -/
def serveAll (platform : Platform) (config : ApiConfig) : Backend → List Arrival →
    List (Arrival × Except JsError ApiResponse)
  | _, [] => []
  | backend, arrival :: rest =>
      (arrival, (serveOne platform config backend arrival).1) ::
        serveAll platform config (serveOne platform config backend arrival).2 rest

/-! ## Up to generated ids and timestamps -/

def OrderItemResponse.blank (item : OrderItemResponse) : OrderItemResponse := { item with id := 0 }

def OrderResponse.blank (response : OrderResponse) : OrderResponse :=
  { response with id := 0, items := response.items.map OrderItemResponse.blank, createdAt := 0, updatedAt := 0 }

def ResponseBody.blank : ResponseBody → ResponseBody
  | .order response => .order response.blank
  | .problem details => .problem details

def ApiResponse.blank (response : ApiResponse) : ApiResponse := { response with body := response.body.blank }

def IdempotencyRecord.blank (record : IdempotencyRecord) : IdempotencyRecord :=
  { record with response := record.response.blank, createdAt := 0 }

def OrderItem.blank (item : OrderItem) : OrderItem := { item with id := 0, orderId := 0 }

/-- What a client is answered, in order. -/
def answersTo (client : String) (served : List (Arrival × Except JsError ApiResponse)) :
    List (Except JsError ApiResponse) :=
  (served.filter fun entry => entry.1.post.clientId = some client).map fun entry => entry.2.map ApiResponse.blank

/-! ## What a client observes -/

/-- The records under a key, oldest last, with their expiry. -/
def recordsUnder (backend : Backend) (key : String) : List (IdempotencyRecord × Date) :=
  (backend.records.filter fun entry => entry.1 = key).map fun entry => (entry.2.1.blank, entry.2.2)

/-- A client with these idempotency keys cannot tell two backends apart. -/
structure Alike (client : String) (keys : String → Prop) (backend other : Backend) : Prop where
  taken : ∀ key, keys key → backend.world.db.keyTaken (some key) = other.world.db.keyTaken (some key)
  records : ∀ key, keys key → recordsUnder backend (IdempotencyStore.key client key) =
    recordsUnder other (IdempotencyStore.key client key)
  counters : ∀ windowStart, backend.counter (RateLimiter.key client windowStart) =
    other.counter (RateLimiter.key client windowStart)

section Observations

variable {client : String} {keys : String → Prop} {first second third : Backend}

theorem Alike.refl (backend : Backend) : Alike client keys backend backend :=
  ⟨fun _ _ => rfl, fun _ _ => rfl, fun _ => rfl⟩

theorem Alike.symm (alike : Alike client keys first second) : Alike client keys second first where
  taken key mine := (alike.taken key mine).symm
  records key mine := (alike.records key mine).symm
  counters windowStart := (alike.counters windowStart).symm

theorem Alike.trans (one : Alike client keys first second) (two : Alike client keys second third) :
    Alike client keys first third where
  taken key mine := (one.taken key mine).trans (two.taken key mine)
  records key mine := (one.records key mine).trans (two.records key mine)
  counters windowStart := (one.counters windowStart).trans (two.counters windowStart)

/-- The same orders, records and counters look the same. -/
theorem Alike.of_same (orders : second.world.db.orders.rows = first.world.db.orders.rows)
    (records : second.records = first.records) (counters : second.counters = first.counters) :
    Alike client keys first second where
  taken key _ := by
    unfold Database.keyTaken
    rw [orders]
  records key _ := by
    unfold recordsUnder
    rw [records]
  counters windowStart := by
    unfold Backend.counter
    rw [counters]

/-- A record is found among those under its key. -/
theorem record_under (backend : Backend) (key : String) : (backend.record key).map IdempotencyRecord.blank =
    ((recordsUnder backend key).find? fun entry => backend.world.clock < entry.2).map Prod.fst := by
  have both : (fun entry : String × IdempotencyRecord × Date =>
      decide (decide (entry.1 = key) = true ∧ decide (backend.world.clock < entry.2.2) = true)) =
      fun entry => decide (entry.1 = key ∧ backend.world.clock < entry.2.2) := by
    funext entry
    simp only [decide_eq_true_eq]
  unfold Backend.record recordsUnder
  rw [List.find?_map, List.find?_filter, Option.map_map, Option.map_map, ← both]
  rfl

/-- Setting a record leaves those under other keys alone. -/
theorem recordsUnder_set (backend : Backend) (key other : String) (record : IdempotencyRecord) (ttlSeconds : Nat) :
    recordsUnder (backend.setRecord key record ttlSeconds) other =
      if other = key then [(record.blank, backend.world.clock + 1000 * ttlSeconds)]
      else recordsUnder backend other := by
  unfold recordsUnder Backend.setRecord Backend.forget
  by_cases same : other = key
  · subst same
    simp [List.filter_filter]
  · have rest : (backend.records.filter fun entry => entry.1 ≠ key).filter (fun entry => entry.1 = other) =
        backend.records.filter fun entry => entry.1 = other := by
      rw [List.filter_filter]
      apply List.filter_congr
      intro entry _
      by_cases named : entry.1 = other
      · simp [named, same]
      · simp [named]
    rw [if_neg same, List.filter_cons_of_neg (by simp [Ne.symm same]), rest]

theorem counter_set (backend : Backend) (key other : String) (count : Nat) :
    (backend.setCounter key count).counter other = if other = key then count else backend.counter other := by
  unfold Backend.counter Backend.setCounter
  by_cases same : other = key
  · subst same
    simp
  · have rest : (backend.counters.filter fun entry => entry.1 ≠ key).find? (fun entry => entry.1 = other) =
        backend.counters.find? fun entry => entry.1 = other := by
      rw [List.find?_filter]
      congr 1
      funext entry
      by_cases named : entry.1 = other
      · simp [named, same]
      · simp [named]
    rw [if_neg same, List.find?_cons_of_neg (by simp [Ne.symm same]), rest]

end Observations

/-! ## Keys -/

/-- What stands before the last colon. -/
theorem before_lastColon {left right left' right' : List Char} (plain : ':' ∉ right) (plain' : ':' ∉ right')
    (same : left ++ ':' :: right = left' ++ ':' :: right') : left = left' := by
  rcases List.append_eq_append_iff.mp same with ⟨middle, rfl, rest⟩ | ⟨middle, rfl, rest⟩
  · cases middle with
    | nil => simp
    | cons head middle =>
        injection rest with _ tail
        rw [tail] at plain
        exact absurd (by simp) plain
  · cases middle with
    | nil => simp
    | cons head middle =>
        injection rest with _ tail
        rw [tail] at plain'
        exact absurd (by simp) plain'

/-- Clients do not share a rate-limit counter, whatever their ids are. -/
theorem RateLimiter.key_client {client other : String} {windowStart windowStart' : Date}
    (same : RateLimiter.key client windowStart = RateLimiter.key other windowStart') : client = other := by
  have digits : ∀ number : Nat, ':' ∉ (toString number).toList := by
    intro number member
    rw [Nat.toString_eq_ofList_toDigits, String.toList_ofList] at member
    exact absurd (Nat.isDigit_of_mem_toDigits (by decide) (by decide) member) (by decide)
  have chars := congrArg String.toList same
  unfold RateLimiter.key at chars
  simp only [String.toList_append, List.append_assoc] at chars
  have rest := List.append_cancel_left chars
  exact String.toList_inj.mp (before_lastColon (digits windowStart) (digits windowStart') rest)

/-! ## Requests of other clients -/

section Strangers

variable {platform : Platform} {config : ApiConfig} {client stranger : String} {keys : String → Prop}
  {post : PostOrder} {backend : Backend}

/-- A request that orders nothing under a client's keys. -/
def Strange (config : ApiConfig) (client : String) (keys : String → Prop) (post : PostOrder) : Prop :=
  Orderable config post → ∀ key, keys key →
    post.idempotencyKey ≠ some key ∧ lookupKey post ≠ some (IdempotencyStore.key client key)

/-- A call of another client's request changes nothing a client observes. -/
theorem alike_served {log : IntakeLog} {call : IntakeCall} (intended : PostIntends config post log call)
    (given : post.clientId = some stranger) (other : stranger ≠ client) (strange : Strange config client keys post) :
    Alike client keys backend (backend.perform platform call .serve).2 := by
  cases call with
  | commit transaction =>
      rcases perform_commit platform backend transaction .serve with done | ⟨same, _⟩
      · rcases intended with ⟨valid, key, request, keyed, carried, _, order, eventId, ordered, _, rfl⟩
        have adds := (commit_adds done).1
        have untouched := commit_untouched done
        have named : order.idempotencyKey = some key := by
          rcases createOrder_spec ordered.made with ⟨total, _, made⟩
          rw [made]
          exact carried
        constructor
        · intro own mine
          have different : (Database.orderRow order).idempotencyKey ≠ some own := by
            intro same
            exact (strange valid own mine).1 (keyed.trans (named.symm.trans same))
          unfold Database.keyTaken
          rw [adds.orders, List.any_append]
          simp [different]
        · intro own _
          unfold recordsUnder
          rw [untouched.records]
        · intro windowStart
          unfold Backend.counter
          rw [untouched.counters]
      · rw [same]
        exact .refl backend
  | addJob jobId data =>
      change Alike client keys backend (backend.addJob jobId data)
      unfold Backend.addJob
      split
      · exact .refl backend
      · exact .of_same rfl rfl rfl
  | incr key =>
      rcases intended with ⟨windowStart, rfl⟩
      change Alike client keys backend (backend.setCounter (RateLimiter.key (post.clientId.getD post.ip) windowStart)
        (backend.counter (RateLimiter.key (post.clientId.getD post.ip) windowStart) + 1))
      rw [given]
      constructor
      · exact fun _ _ => rfl
      · exact fun _ _ => rfl
      · intro windowStart'
        rw [counter_set, if_neg]
        intro same
        exact other (RateLimiter.key_client same).symm
  | set key record ttlSeconds =>
      change Alike client keys backend (backend.setRecord key record ttlSeconds)
      constructor
      · exact fun _ _ => rfl
      · intro own mine
        rw [recordsUnder_set, if_neg]
        intro same
        exact (strange intended.valid own mine).2 (intended.key.trans (congrArg some same.symm))
      · exact fun _ => rfl
  | _ => exact .of_same rfl rfl rfl

theorem Alike.arriving (date : Date) : Alike client keys backend (backend.arriving date) := .of_same rfl rfl rfl

/-- A request of another client changes nothing a client observes. -/
theorem alike_serveOne (arrival : Arrival) (given : arrival.post.clientId = some stranger) (other : stranger ≠ client)
    (strange : Strange config client keys arrival.post) :
    Alike client keys backend (serveOne platform config backend arrival).2 := by
  have meets : (postOrder config arrival.post).Meets (api platform config).Admits (PostIntends config arrival.post)
      (fun response log => Answered config arrival.post response log) (fun _ _ => False) [] := postOrder_meets
  refine System.complete_keeps meets ?_ ?_
  · exact .arriving arrival.date
  · intro log call state intended alike
    exact alike.trans (alike_served intended given other strange)

end Strangers

end Orderly
