import Orderly.Ordering.Tables

/-!
# Requests

The contract of a POST.  Its answer is that of the order it has created, the
replay of the record that the idempotency store has recalled, a conflict with
that record, or a refusal, and only a request without such a record commits
anything.
-/

namespace Orderly

open Process (Program System)

def recalledBy : IntakeEvent → Option IdempotencyRecord
  | ⟨.get _, .ok record, _, _⟩ => record
  | _ => none

/-- The record that the idempotency store has recalled. -/
def recalled (log : IntakeLog) : Option IdempotencyRecord := log.findSome? recalledBy

/-- The key of a request in the idempotency store. -/
def lookupKey (post : PostOrder) : Option String :=
  match post.clientId, post.idempotencyKey with
  | some clientId, some key => some (IdempotencyStore.key clientId key)
  | _, _ => none

/-- The hash of a request's body. -/
def hashOf (config : ApiConfig) (post : PostOrder) : Option String :=
  match config.validateSchema post.body with
  | .ok body => some (hashBody config body)
  | .error _ => none

/-- The body passes both validations. -/
def Orderable (config : ApiConfig) (post : PostOrder) : Prop :=
  ∃ body input, config.validateSchema post.body = .ok body ∧ CreateOrderSchema.parse body = .ok input

/-- The record of the order a request has created. -/
structure Stores (config : ApiConfig) (post : PostOrder) (log : IntakeLog) (key : String) (record : IdempotencyRecord) :
    Prop where
  key : lookupKey post = some key
  order : ∃ request order, Placed request order log ∧ record.response = .order (orderResponse order)
  status : record.status = 201
  hash : hashOf config post = some record.requestHash
  valid : Orderable config post

/-- The calls a request may issue. -/
def PostIntends (config : ApiConfig) (post : PostOrder) (log : IntakeLog) : intake.Call → Prop
  | .commit transaction => Orderable config post ∧ ∃ key request, post.idempotencyKey = some key ∧
      request.idempotencyKey = some key ∧ Intends request log (.commit transaction)
  | .addJob jobId data => ∃ request, Intends request log (.addJob jobId data)
  | .incr key => ∃ windowStart, key = RateLimiter.key (post.clientId.getD post.ip) windowStart
  | .get key => lookupKey post = some key
  | .set key record _ => Stores config post log key record
  | _ => True

/-- Nothing has been done for the request yet. -/
structure Entering (log : IntakeLog) : Prop where
  quiet : Quiet log
  undrawn : orderId log = none
  unrecalled : recalled log = none

/-- Statuses that neither report success nor a conflict. -/
def Refusal (response : ApiResponse) : Prop :=
  response.status ≠ 409 ∧ ¬ (200 ≤ response.status ∧ response.status < 300)

/-- How a request has been answered. -/
inductive Answered (config : ApiConfig) (post : PostOrder) (response : ApiResponse) (log : IntakeLog) : Prop where
  | created (request : CreateOrderRequest) (order : Order) (placed : Placed request order log)
      (unrecalled : recalled log = none)
      (same : response = { status := 201, body := .order (orderResponse order) })
  | replayed (body : Json) (record : IdempotencyRecord) (valid : config.validateSchema post.body = .ok body)
      (found : recalled log = some record) (hash : record.requestHash = hashBody config body)
      (same : response = { status := record.status, body := record.response, replayed := true })
  | mismatched (body : Json) (record : IdempotencyRecord) (valid : config.validateSchema post.body = .ok body)
      (found : recalled log = some record) (hash : record.requestHash ≠ hashBody config body)
      (same : response = .ofProblem idempotencyMismatch)
  | refused (unrecalled : recalled log = none) (unconfirmed : Unconfirmed log) (refusal : Refusal response)

section Contract

variable {platform : Platform} {config : ApiConfig} {post : PostOrder} {log : IntakeLog} {event : IntakeEvent}

theorem recalled_cons (aside : recalledBy event = none) : recalled (event :: log) = recalled log := by
  unfold recalled
  rw [List.findSome?_cons, aside]

theorem Entering.cons (entering : Entering log) (aside : commits event = false ∧ enqueues event = false)
    (undrawn : drawnBy event = none) (unrecalled : recalledBy event = none) : Entering (event :: log) where
  quiet := entering.quiet.cons aside
  undrawn := (orderId_aside undrawn).trans entering.undrawn
  unrecalled := (recalled_cons unrecalled).trans entering.unrecalled

theorem Entering.refused {response : ApiResponse} (entering : Entering log) (refusal : Refusal response) :
    Answered config post response log := .refused entering.unrecalled entering.quiet.unconfirmed refusal

/-- A problem with an error status is a refusal, but for the conflict. -/
theorem Refusal.ofProblem {problem : ProblemDetails} (error : 400 ≤ problem.status) (other : problem.status ≠ 409) :
    Refusal (.ofProblem problem) := by
  refine ⟨other, fun success => ?_⟩
  have below : problem.status < 300 := success.2
  omega

theorem count_meets {windowStart resetTime : Date} (entering : Entering log) :
    (RateLimiter.count config (post.clientId.getD post.ip) windowStart resetTime).Meets (api platform config).Admits
      (PostIntends config post)
      (fun _ => Entering) (fun _ => Entering) log := by
  unfold RateLimiter.count
  apply Program.Meets.call_bind ⟨windowStart, rfl⟩
  · intro error before after _
    exact entering.cons ⟨rfl, rfl⟩ rfl rfl
  · intro current before after _
    have counted : Entering
        (⟨.incr (RateLimiter.key (post.clientId.getD post.ip) windowStart), .ok current, before, after⟩ :: log) :=
      entering.cons ⟨rfl, rfl⟩ rfl rfl
    split
    · apply Program.Meets.call_bind trivial
      · intro error before after _
        exact counted.cons ⟨rfl, rfl⟩ rfl rfl
      · intro value before after _
        exact counted.cons ⟨rfl, rfl⟩ rfl rfl
    · exact counted

theorem isAllowed_meets (entering : Entering log) :
    (RateLimiter.isAllowed config (post.clientId.getD post.ip)).Meets (api platform config).Admits
      (PostIntends config post)
      (fun _ => Entering) (fun _ _ => False) log := by
  unfold RateLimiter.isAllowed
  apply Program.Meets.call_bind trivial
  · intro error before after admitted
    exact date_answered admitted
  · intro now before after _
    have dated : Entering (⟨.newDate, .ok now, before, after⟩ :: log) := entering.cons ⟨rfl, rfl⟩ rfl rfl
    apply Program.Meets.tryCatch (count_meets dated)
    intro error log entering
    exact entering

/-- The tag names what `onSend` stores the record under and by. -/
structure Tagged (config : ApiConfig) (post : PostOrder) (tag : IdempotencyMeta) : Prop where
  key : lookupKey post = some (IdempotencyStore.key tag.clientId tag.key)
  hash : hashOf config post = some tag.hash
  given : post.idempotencyKey.isSome = true

/-- What looking up a record tells. -/
def Looked (existing : Option IdempotencyRecord) (log : IntakeLog) : Prop :=
  match existing with
  | some record => recalled log = some record
  | none => Entering log

/-- A request with the headers goes on with a tag, unless a record answers it. -/
theorem idempotencyMiddleware_meets {body : Json} (valid : config.validateSchema post.body = .ok body)
    (entering : Entering log) :
    (idempotencyMiddleware config post body).Meets (api platform config).Admits (PostIntends config post)
      (fun outcome log => match outcome with
        | .error response => Answered config post response log
        | .ok tag => Entering log ∧ Tagged config post tag) (fun _ _ => False) log := by
  unfold idempotencyMiddleware
  split
  · next key clientId given given' =>
      have looks : lookupKey post = some (IdempotencyStore.key clientId key) := by
        unfold lookupKey
        rw [given, given']
      have hashed : hashOf config post = some (hashBody config body) := by
        unfold hashOf
        rw [valid]
      split
      · exact entering.refused (.ofProblem (by decide) (by decide))
      · have looked : (IdempotencyStore.get clientId key).Meets (api platform config).Admits (PostIntends config post)
            Looked (fun _ _ => False) log := by
          have got : (Intake.get (IdempotencyStore.key clientId key)).Meets (api platform config).Admits
              (PostIntends config post) Looked (fun _ => Entering) log := by
            refine ⟨looks, fun reply before after _ => ?_⟩
            rcases reply with error | _ | record
            · exact entering.cons ⟨rfl, rfl⟩ rfl rfl
            · exact entering.cons ⟨rfl, rfl⟩ rfl rfl
            · have found : recalled (⟨.get (IdempotencyStore.key clientId key), .ok (some record), before, after⟩ ::
                  log) = some record := rfl
              exact found
          apply Program.Meets.tryCatch got
          intro error log entering
          exact entering
        apply Program.Meets.bind looked
        intro existing log known
        cases existing with
        | none =>
            refine ⟨known, looks, hashed, ?_⟩
            rw [given]
            rfl
        | some record =>
            by_cases hash : record.requestHash = hashBody config body
            · simp only [hash, ne_eq, not_true_eq_false, if_false]
              exact .replayed body record valid known hash rfl
            · simp only [hash, ne_eq, not_false_eq_true, if_true]
              exact .mismatched body record valid known hash rfl
  · exact entering.refused (.ofProblem (by decide) (by decide))

/-- A created order keeps being the answer. -/
theorem Placed.cons {request : CreateOrderRequest} {order : Order} (placed : Placed request order log) :
    Placed request order (event :: log) := ⟨placed.1, orderId_cons placed.2.1, placed.2.2.cons⟩

/-- Only a success is stored. -/
theorem onSend_other {tag : IdempotencyMeta} {response : ApiResponse}
    (status : ¬ (200 ≤ response.status ∧ response.status < 300)) :
    onSend config post tag response = .done response := by
  unfold onSend
  rw [if_neg status]
  rfl

/-- The answer that reports a created order. -/
def accepted (order : Order) : ApiResponse := { status := 201, body := .order (orderResponse order) }

/-- Created for the request, which has been recalled no record. -/
def Fresh (request : CreateOrderRequest) (order : Order) (log : IntakeLog) : Prop :=
  Placed request order log ∧ recalled log = none

theorem Fresh.cons {request : CreateOrderRequest} {order : Order} (fresh : Fresh request order log)
    (unrecalled : recalledBy event = none) : Fresh request order (event :: log) :=
  ⟨fresh.1.cons, (recalled_cons unrecalled).trans fresh.2⟩

theorem onSend_created {tag : IdempotencyMeta} {request : CreateOrderRequest} {order : Order}
    (tagged : Tagged config post tag) (valid : Orderable config post) (fresh : Fresh request order log) :
    (onSend config post tag (accepted order)).Meets (api platform config).Admits (PostIntends config post)
      (fun response log => Answered config post response log) (fun _ _ => False) log := by
  have success : 200 ≤ (accepted order).status ∧ (accepted order).status < 300 := by
    change 200 ≤ 201 ∧ 201 < 300
    decide
  have stored : ∀ createdAt log, Fresh request order log →
      (IdempotencyStore.set config tag.clientId tag.key {
        requestId := post.requestId
        status := (accepted order).status
        response := (accepted order).body
        requestHash := tag.hash
        createdAt := createdAt }).Meets (api platform config).Admits (PostIntends config post)
        (fun _ => Fresh request order) (fun _ _ => False) log := by
    intro createdAt log fresh
    have sent : (Intake.set (IdempotencyStore.key tag.clientId tag.key) {
        requestId := post.requestId
        status := (accepted order).status
        response := (accepted order).body
        requestHash := tag.hash
        createdAt := createdAt } config.idempotencyTtlSeconds).Meets (api platform config).Admits (PostIntends config post)
        (fun _ => Fresh request order) (fun _ => Fresh request order) log := by
      refine ⟨⟨tagged.key, ⟨request, order, fresh.1, rfl⟩, rfl, tagged.hash, valid⟩, fun reply before after _ => ?_⟩
      cases reply with
      | ok value => exact fresh.cons rfl
      | error error => exact fresh.cons rfl
    apply Program.Meets.tryCatch sent
    intro error log fresh
    exact fresh
  unfold onSend
  rw [if_pos success]
  apply Program.Meets.call_bind trivial
  · intro error before after admitted
    exact date_answered admitted
  · intro createdAt before after _
    have dated : Fresh request order (⟨.newDate, .ok createdAt, before, after⟩ :: log) := fresh.cons rfl
    apply Program.Meets.bind (stored createdAt _ dated)
    intro _ log fresh
    exact .created request order fresh.1 fresh.2 rfl

/-- What the handler's order stands in when nothing of it has been confirmed. -/
def Untaken (log : IntakeLog) : Prop := Unconfirmed log ∧ recalled log = none

/-- Creating an order reads no record. -/
theorem unrecalled_of_intends {request : CreateOrderRequest} (intended : Intends request log event.call)
    (unrecalled : recalled log = none) : recalled (event :: log) = none := by
  refine (recalled_cons ?_).trans unrecalled
  rcases event with ⟨call, reply, before, after⟩
  cases call with
  | get key => exact intended.elim
  | _ => rfl

/-- The handler creates an order under the request's key, or refuses. -/
theorem createOrderHandler_meets {body : Json} (given : post.idempotencyKey.isSome = true)
    (valid : Orderable config post) (entering : Entering log) :
    (createOrderHandler post body).Meets (api platform config).Admits (PostIntends config post)
      (fun response log => (∃ request order, Fresh request order log ∧ response = accepted order) ∨
        Untaken log ∧ Refusal response) (fun _ => Untaken) log := by
  unfold createOrderHandler
  split
  · exact Or.inr ⟨⟨entering.quiet.unconfirmed, entering.unrecalled⟩,
      .ofProblem (by simp [unparsedBody]) (by simp [unparsedBody])⟩
  · next parsed _ =>
      have created : (OrderService.createOrder (createOrderRequest post parsed)).Meets (api platform config).Admits
          (Intends (createOrderRequest post parsed))
          (fun result => Placed (createOrderRequest post parsed) result.order) (fun _ => Unconfirmed) log :=
        createOrder_meets entering.quiet entering.undrawn
      have unread := created.keeping entering.unrecalled
        fun log event intended _ unrecalled => unrecalled_of_intends intended unrecalled
      have intends : ∀ log call, Intends (createOrderRequest post parsed) log call → PostIntends config post log call := by
        intro log call intended
        rcases Option.isSome_iff_exists.mp given with ⟨key, known⟩
        cases call with
        | commit transaction => exact ⟨valid, key, _, known, known, intended⟩
        | addJob jobId data => exact ⟨_, intended⟩
        | incr key => exact intended.elim
        | get key => exact intended.elim
        | set key record ttl => exact intended.elim
        | _ => trivial
      apply Program.Meets.bind (unread.widen intends)
      rintro result log ⟨placed, unrecalled⟩
      exact Or.inl ⟨_, result.order, ⟨placed, unrecalled⟩, rfl⟩

theorem postTagged_meets {body : Json} {tag : IdempotencyMeta} (tagged : Tagged config post tag)
    (valid : config.validateSchema post.body = .ok body) (entering : Entering log) :
    (postTagged config post body tag).Meets (api platform config).Admits (PostIntends config post)
      (fun response log => Answered config post response log) (fun _ _ => False) log := by
  unfold postTagged
  split
  · next issues _ =>
      rw [onSend_other]
      · exact entering.refused (.ofProblem (by simp [validationError]) (by simp [validationError]))
      · change ¬ (200 ≤ 422 ∧ 422 < 300)
        decide
  · next input parsed =>
      have orderable : Orderable config post := ⟨body, input, valid, parsed⟩
      have handled : (tryCatch (createOrderHandler post input.toJson) fun error =>
          return ApiResponse.ofProblem (internalError post.url error)).Meets (api platform config).Admits
          (PostIntends config post)
          (fun response log => (∃ request order, Fresh request order log ∧ response = accepted order) ∨
            Untaken log ∧ Refusal response) (fun _ _ => False) log := by
        apply Program.Meets.tryCatch (createOrderHandler_meets tagged.given orderable entering)
        intro error log untaken
        exact Or.inr ⟨untaken, .ofProblem (by simp [internalError]) (by simp [internalError])⟩
      apply Program.Meets.bind handled
      rintro response log (⟨request, order, fresh, rfl⟩ | ⟨untaken, refusal⟩)
      · exact onSend_created tagged orderable fresh
      · rw [onSend_other refusal.2]
        exact .refused untaken.2 untaken.1 refusal

/-- The contract of a POST. -/
theorem postOrder_meets :
    (postOrder config post).Meets (api platform config).Admits (PostIntends config post)
      (fun response log => Answered config post response log) (fun _ _ => False) [] := by
  have quiet : Quiet [] := by
    intro event member
    cases member
  have entering : Entering [] := ⟨quiet, rfl, rfl⟩
  unfold postOrder
  split
  · exact entering.refused (.ofProblem (by simp [clientError]) (by simp [clientError]))
  · next body valid =>
      apply Program.Meets.bind (isAllowed_meets entering)
      intro limit log entering
      split
      · exact entering.refused (.ofProblem (by decide) (by decide))
      · apply Program.Meets.bind (idempotencyMiddleware_meets valid entering)
        intro outcome log known
        cases outcome with
        | error response => exact known
        | ok tag => exact postTagged_meets known.2 valid known.1

end Contract

/-- A request that keeps its contract. -/
abbrev Posting.Keeping (platform : Platform) (config : ApiConfig) (thread : Posting) : Prop :=
  (api platform config).Keeps (PostIntends config) (fun post response log => Answered config post response log)
    (fun _ _ _ => False) thread

theorem reaches_posting {platform : Platform} {config : ApiConfig} {start : Backend} {reached : Serving}
    {Legal : Serving → Process.Move PostOrder Choice → Prop}
    (reaches : (api platform config).Reaches Legal { shared := start } reached) :
    ∀ thread ∈ reached.threads, Posting.Keeping platform config thread := by
  apply reaches.contract
  · intro thread member
    cases member
  · intro config' post _
    exact postOrder_meets

end Orderly
