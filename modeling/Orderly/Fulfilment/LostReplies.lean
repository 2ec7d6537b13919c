import Orderly.Infrastructure.StripeAdapter
import Orderly.Process.Execution

/-!
# Payment calls whose replies may be lost

A rejected `fetch` says nothing about the request: it may have been applied.
The adapter rethrows, the policy posts the same charge again, and after the last
attempt the service reports a failure.  Between two attempts as many charges
have been applied as replies about them have gone missing, and a resolved
attempt adds one charge exactly when it reports success.  So a payment call
charges at most once, and not at all when it reports a failure, exactly when it
has learnt of every charge that was applied.
-/

namespace Orderly

open Process (Program System Event Log)

/-- An answered call of a payment. -/
abbrev HttpEvent := Event http JsError Ledger

abbrev HttpLog := Log http JsError Ledger

/-- The event has applied a request. -/
def applies (event : HttpEvent) : Bool :=
  event.before.applied.length < event.after.applied.length

/-- The body of a response arrives and has members to read. -/
def readable : Except JsError Json → Bool
  | .error _ => false
  | .ok .null => false
  | .ok _ => true

/-- A request was applied and its reply did not arrive: `fetch` rejected, or the
body of the OK response was lost or `null`. -/
def unlearned (event : HttpEvent) : Bool :=
  match event.call, event.reply with
  | .fetch _, .error _ => applies event
  | .json response, reply => response.ok && !readable reply
  | _, _ => false

/-- So many more requests have been applied than replies to them were lost. -/
def Ahead (extra : Nat) (log : HttpLog) : Prop :=
  log.countP applies = log.countP unlearned + extra

/-- The charges a result accounts for. -/
def accounted (result : PaymentResult) : Nat := if result.success then 1 else 0

variable {config : GatewayConfig} {maxAttempts : Nat} {log : HttpLog} {before after : Ledger}

/-! ## What an answered call says -/

/-- A call's part of an exchange with the gateway. -/
theorem admits_exchange {call : HttpCall} {reply : Except JsError call.Reply} :
    (payments config maxAttempts).Admits log ⟨call, reply, before, after⟩ ↔
      ∃ exchange, before.perform call exchange = (reply, after) :=
  System.admits_iff

/-- A reply that arrives is OK exactly when the request was applied. -/
theorem fetch_answered {request : HttpRequest} {response : HttpResponse}
    (admitted : (payments config maxAttempts).Admits log ⟨.fetch request, .ok response, before, after⟩) :
    applies ⟨.fetch request, .ok response, before, after⟩ = response.ok := by
  rcases admits_exchange.mp admitted with ⟨exchange, performed⟩
  rcases Prod.ext_iff.mp performed with ⟨replied, rfl⟩
  simp only [Ledger.perform] at replied
  cases lost : exchange.lost with
  | some error =>
      rw [lost] at replied
      cases replied
  | none =>
      rw [lost] at replied
      cases replied
      cases applied : exchange.applied with
      | true => simp [applies, Ledger.perform, applied]
      | false => simp [applies, Ledger.perform, applied]

/-- Only a request is ever applied. -/
theorem applies_fetch {event : HttpEvent} (admitted : (payments config maxAttempts).Admits log event)
    (other : ∀ request, event.call ≠ .fetch request) : applies event = false := by
  rcases event with ⟨call, reply, before, after⟩
  rcases admits_exchange.mp admitted with ⟨exchange, performed⟩
  cases call with
  | fetch request => exact absurd rfl (other request)
  | _ =>
      rcases Prod.ext_iff.mp performed with ⟨_, rfl⟩
      simp [applies, Ledger.perform]

theorem Ahead.step {event : HttpEvent} {extra extra' : Nat} (ahead : Ahead extra log)
    (changes : extra + (applies event).toNat = extra' + (unlearned event).toNat) :
    Ahead extra' (event :: log) := by
  unfold Ahead at *
  rw [List.countP_cons, List.countP_cons]
  cases applied : applies event <;> cases missed : unlearned event <;>
    simp only [applied, missed, Bool.toNat_true, Bool.toNat_false] at changes ⊢ <;> simp <;> omega

/-- An event that is no request and no reply to one. -/
theorem aside {event : HttpEvent} (admitted : (payments config maxAttempts).Admits log event)
    (request : ∀ request, event.call ≠ .fetch request) (reply : ∀ response, event.call ≠ .json response) :
    applies event = false ∧ unlearned event = false := by
  refine ⟨applies_fetch admitted request, ?_⟩
  unfold unlearned
  split
  · next same _ => exact absurd same (request _)
  · next same _ => exact absurd same (reply _)
  · rfl

theorem Ahead.body {response : HttpResponse} {reply : Except JsError Json}
    (ahead : Ahead response.ok.toNat log)
    (admitted : (payments config maxAttempts).Admits log ⟨.json response, reply, before, after⟩) :
    Ahead (response.ok && readable reply).toNat (⟨.json response, reply, before, after⟩ :: log) := by
  apply ahead.step
  rw [applies_fetch admitted (fun request same => by cases same)]
  simp only [unlearned]
  cases response.ok <;> cases readable reply <;> rfl

/-! ## The adapter -/

/-- Whatever is fetched is that request. -/
def OnlyPosts (posted : Except JsError HttpRequest) (_ : HttpLog) (call : http.Call) : Prop :=
  ∀ request, call = HttpCall.fetch request → posted = .ok request

section Adapter

variable {posted : Except JsError HttpRequest}

/-- Reading a body tells of the request behind it unless the body is lost. -/
theorem json_meets {response : HttpResponse} (ahead : Ahead response.ok.toNat log) :
    response.json.Meets (payments config maxAttempts).Admits (OnlyPosts posted)
      (fun body => Ahead (response.ok && readable (.ok body)).toNat) (fun _ => Ahead 0) log := by
  refine ⟨fun request same => (by cases same), fun reply before after admitted => ?_⟩
  have told := ahead.body admitted
  cases reply with
  | ok body => exact told
  | error error =>
      change Ahead (response.ok && false).toNat _ at told
      rwa [Bool.and_false] at told

theorem property_cases (key : String) (body : Json) :
    (∃ member, StripeAdapter.property key body = .ok member ∧ readable (.ok body) = true) ∨
      ∃ error, StripeAdapter.property key body = .error error ∧ readable (.ok body) = false := by
  cases body with
  | null => exact Or.inr ⟨_, rfl, rfl⟩
  | _ => exact Or.inl ⟨_, rfl, rfl⟩

/-- An attempt that resolves adds the charge it reports; one that throws adds
none that has been learnt of. -/
theorem post_meets {errorCode errorMessage : String} (level : Ahead 0 log) :
    (StripeAdapter.post posted errorCode errorMessage).Meets (payments config maxAttempts).Admits
      (OnlyPosts posted) (fun result => Ahead (accounted result)) (fun _ => Ahead 0) log := by
  unfold StripeAdapter.post
  cases posted with
  | error error => exact level
  | ok request =>
      apply Program.Meets.call_bind
      · intro other same
        cases same
        rfl
      · intro error before after admitted
        exact level.step (by simp [unlearned])
      · intro response before after admitted
        have ahead : Ahead response.ok.toNat (⟨.fetch request, .ok response, before, after⟩ :: log) := by
          refine level.step ?_
          rw [fetch_answered admitted]
          simp [unlearned]
        rcases response with ⟨ok⟩
        have body : (HttpResponse.json ⟨ok⟩).Meets (payments config maxAttempts).Admits (OnlyPosts (.ok request))
            (fun body => Ahead (ok && readable (.ok body)).toNat) (fun _ => Ahead 0)
            (⟨.fetch request, .ok ⟨ok⟩, before, after⟩ :: log) :=
          json_meets ahead
        cases ok with
        | false =>
            have caught : (tryCatch (HttpResponse.json ⟨false⟩) fun _ => return .obj []).Meets
                (payments config maxAttempts).Admits (OnlyPosts (.ok request)) (fun _ => Ahead 0) (fun _ => Ahead 0)
                (⟨.fetch request, .ok ⟨false⟩, before, after⟩ :: log) :=
              Program.Meets.tryCatch body fun error log level => level
            refine Program.Meets.bind caught fun error log level => ?_
            rcases property_cases "error" error with ⟨member, found, _⟩ | ⟨failure, thrown, _⟩
            · rw [found]
              exact level
            · rw [thrown]
              exact level
        | true =>
            refine Program.Meets.bind body fun data log ahead => ?_
            rcases property_cases "id" data with ⟨member, found, arrived⟩ | ⟨failure, thrown, missed⟩
            · rw [found]
              rw [arrived] at ahead
              exact ahead
            · rw [thrown]
              rw [missed] at ahead
              exact ahead

theorem exchange_meets {errorCode errorMessage : String} (level : Ahead 0 log) :
    (StripeAdapter.exchange posted errorCode errorMessage).Meets (payments config maxAttempts).Admits
      (OnlyPosts posted) (fun result => Ahead (accounted result)) (fun _ => Ahead 0) log :=
  Program.Meets.tryCatch (post_meets level) fun _ _ level => level

end Adapter

/-! ## The resilience policy and the service -/

section Policy

variable {S : Process.Signature} {State : Type} {Admits : Log S JsError State → Event S JsError State → Prop}
  {Allowed : Log S JsError State → S.Call → Prop} {Returns : PaymentResult → Log S JsError State → Prop}
  {Ready : Log S JsError State → Prop}

/-- A function that can be called again wherever it throws can be retried. -/
theorem retry_meets {fn : Program S JsError PaymentResult}
    (meets : ∀ log, Ready log → fn.Meets Admits Allowed Returns (fun _ => Ready) log)
    (maxAttempts : Nat) {log : Log S JsError State} (ready : Ready log) :
    (CircuitBreaker.retry maxAttempts fn).Meets Admits Allowed Returns (fun _ => Ready) log := by
  induction maxAttempts generalizing log with
  | zero => exact meets log ready
  | succ maxAttempts inductionHypothesis =>
      apply Program.Meets.tryCatch
      · exact meets log ready
      · intro error log ready
        exact inductionHypothesis ready

theorem execute_meets {admits : Program S JsError Bool} {fn : Program S JsError PaymentResult}
    (asks : ∀ log, Ready log → admits.Meets Admits Allowed (fun _ => Ready) (fun _ => Ready) log)
    (meets : ∀ log, Ready log → fn.Meets Admits Allowed Returns (fun _ => Ready) log)
    (maxAttempts : Nat) {log : Log S JsError State} (ready : Ready log) :
    (CircuitBreaker.execute admits maxAttempts fn).Meets Admits Allowed Returns (fun _ => Ready) log := by
  apply Program.Meets.bind (asks log ready)
  intro closed log ready
  cases closed with
  | true => exact retry_meets meets maxAttempts ready
  | false => exact ready

/-- The service turns what the policy throws into a result without success. -/
theorem charge_meets {gateway : PaymentGateway S} {resilience : ResiliencePolicy S} {request : PaymentChargeRequest}
    {log : Log S JsError State}
    (meets : (resilience (gateway.charge request.orderId request.amount request.paymentToken)).Meets Admits Allowed
      Returns (fun _ => Ready) log)
    (failed : ∀ result log, result.success = false → Ready log → Returns result log) :
    (PaymentService.charge gateway resilience request).Meets Admits Allowed Returns (fun _ _ => False) log := by
  apply Program.Meets.tryCatch meets
  intro error log ready
  exact failed _ log rfl ready

end Policy

/-- The request a payment posts. -/
def posted (config : GatewayConfig) (request : PaymentChargeRequest) : Except JsError HttpRequest :=
  StripeAdapter.chargeRequest config request.orderId request.amount request.paymentToken

/-- A call beside the exchange keeps what only the exchange changes. -/
theorem aside_meets {posted : Except JsError HttpRequest} {Ready : HttpLog → Prop} {call : http.Call}
    (request : ∀ request, call ≠ HttpCall.fetch request) (reply : ∀ response, call ≠ HttpCall.json response)
    (kept : ∀ log event, Ready log → applies event = false ∧ unlearned event = false → Ready (event :: log))
    (ready : Ready log) :
    (Program.call call).Meets (payments config maxAttempts).Admits (OnlyPosts posted) (fun _ => Ready)
      (fun _ => Ready) log := by
  apply Program.Meets.call
  · intro posting same
    exact absurd same (request posting)
  · intro error before after admitted
    exact kept log _ ready (aside admitted request reply)
  · intro value before after admitted
    exact kept log _ ready (aside admitted request reply)

theorem Ahead.kept {extra : Nat} (log : HttpLog) (event : HttpEvent) (ahead : Ahead extra log)
    (silent : applies event = false ∧ unlearned event = false) : Ahead extra (event :: log) :=
  ahead.step (by rw [silent.1, silent.2])

/-- With an API key, a payment has applied one charge for each reply that was
lost, and one more when it reports success. -/
theorem payment_meets (key : config.paymentGatewayApiKey ≠ "") (request : PaymentChargeRequest) :
    ((payments config maxAttempts).program request).Meets (payments config maxAttempts).Admits
      (OnlyPosts (posted config request)) (fun result => Ahead (accounted result)) (fun _ _ => False) [] := by
  have resilient : (CircuitBreaker.execute (Program.call (S := http) .breakerAdmits) maxAttempts
      (StripeAdapter.charge config request.orderId request.amount request.paymentToken)).Meets
      (payments config maxAttempts).Admits (OnlyPosts (posted config request))
      (fun result => Ahead (accounted result)) (fun _ => Ahead 0) [] := by
    apply execute_meets
    · intro log level
      exact aside_meets (fun request same => by cases same) (fun response same => by cases same) Ahead.kept level
    · intro log level
      rw [StripeAdapter.charge, if_neg key]
      exact exchange_meets level
    · rfl
  apply charge_meets resilient
  intro result log failed level
  rw [accounted, failed]
  exact level

/-- Nothing has been posted. -/
def Idle (log : HttpLog) : Prop := ∀ event ∈ log, applies event = false ∧ unlearned event = false

theorem Idle.kept (log : HttpLog) (event : HttpEvent) (idle : Idle log)
    (silent : applies event = false ∧ unlearned event = false) : Idle (event :: log) := by
  intro other member
  rcases List.mem_cons.mp member with rfl | earlier
  · exact silent
  · exact idle other earlier

/-- Without an API key nothing is posted. -/
theorem simulated_meets (key : config.paymentGatewayApiKey = "") (request : PaymentChargeRequest) :
    ((payments config maxAttempts).program request).Meets (payments config maxAttempts).Admits
      (OnlyPosts (posted config request)) (fun _ => Idle) (fun _ _ => False) [] := by
  have resilient : (CircuitBreaker.execute (Program.call (S := http) .breakerAdmits) maxAttempts
      (StripeAdapter.charge config request.orderId request.amount request.paymentToken)).Meets
      (payments config maxAttempts).Admits (OnlyPosts (posted config request)) (fun _ => Idle) (fun _ => Idle) [] := by
    apply execute_meets
    · intro log idle
      exact aside_meets (fun request same => by cases same) (fun response same => by cases same) Idle.kept idle
    · intro log idle
      have drawn : randomUUID.Meets (payments config maxAttempts).Admits (OnlyPosts (posted config request))
          (fun _ => Idle) (fun _ => Idle) log :=
        aside_meets (fun request same => by cases same) (fun response same => by cases same) Idle.kept idle
      rw [StripeAdapter.charge, if_pos key]
      apply Program.Meets.bind drawn
      intro id log idle
      exact idle
    · intro event member
      cases member
  apply charge_meets resilient
  intro result log failed idle
  exact idle

/-! ## Whole payments -/

section Payments

variable {request : PaymentChargeRequest} {rest : Client PaymentResult} {start state : Ledger}

theorem applies_grows {event : HttpEvent} (admitted : (payments config maxAttempts).Admits log event) :
    event.after.applied.length = event.before.applied.length + (applies event).toNat := by
  rcases event with ⟨call, reply, before, after⟩
  rcases admits_exchange.mp admitted with ⟨exchange, performed⟩
  rcases Prod.ext_iff.mp performed with ⟨_, rfl⟩
  cases call with
  | fetch request => cases applied : exchange.applied <;> simp [applies, Ledger.perform, applied]
  | _ => simp [applies, Ledger.perform]

/-- The ledger has grown by what the log applies. -/
theorem applied_count (chained : System.Chained start log state)
    (admitted : ∀ event ∈ log, (payments config maxAttempts).Admits [] event) :
    state.applied.length = start.applied.length + log.countP applies := by
  induction log generalizing state with
  | nil =>
      cases chained
      rfl
  | cons event log inductionHypothesis =>
      rcases chained with ⟨rfl, chained⟩
      have earlier := inductionHypothesis chained fun event member => admitted event (List.mem_cons_of_mem _ member)
      rw [applies_grows (admitted event List.mem_cons_self), earlier, List.countP_cons]
      cases applies event <;> rfl

/-- Every request of a payment call is the POST of its charge. -/
theorem posts_charge
    (executes : (payments config maxAttempts).Executes ((payments config maxAttempts).program request) start log rest
      state) {event : HttpEvent} (member : event ∈ log) {charge : HttpRequest} (posts : event.call = .fetch charge) :
    posted config request = .ok charge := by
  have lawful : System.Lawful (payments config maxAttempts).Admits (OnlyPosts (posted config request)) log := by
    by_cases key : config.paymentGatewayApiKey = ""
    · exact (executes.meets (simulated_meets key request)).2
    · exact (executes.meets (payment_meets key request)).2
  rcases lawful.admitted member with ⟨_, _, _, allowed, _⟩
  exact allowed charge posts

/-- At most one request has been applied, and none if a failure is reported. -/
def ChargedAtMostOnce (start state : Ledger) (rest : Client PaymentResult) : Prop :=
  state.applied.length ≤ start.applied.length + 1 ∧
    ∀ result, rest = .done result → result.success = false → state.applied.length = start.applied.length

theorem chargedAtMostOnce_done {result : PaymentResult} {charges : Nat}
    (grown : state.applied.length = start.applied.length + charges) :
    ChargedAtMostOnce start state (.done result) ↔ charges ≤ 1 ∧ (result.success = false → charges = 0) := by
  unfold ChargedAtMostOnce
  rw [grown]
  constructor
  · rintro ⟨atMost, failed⟩
    refine ⟨by omega, fun reported => ?_⟩
    have none := failed result rfl reported
    omega
  · rintro ⟨atMost, failed⟩
    refine ⟨by omega, fun other same reported => ?_⟩
    cases same
    have none := failed reported
    omega

/-- A payment call that has ended returns, and accounts for what was applied. -/
theorem finished_accounted
    (executes : (payments config maxAttempts).Executes ((payments config maxAttempts).program request) start log rest
      state) (finished : rest.finished = true) :
    ∃ result, rest = .done result ∧ (Ahead (accounted result) log ∨ Idle log) := by
  by_cases key : config.paymentGatewayApiKey = ""
  · have ends := (executes.meets (simulated_meets key request)).1
    cases rest with
    | done result => exact ⟨result, rfl, Or.inr ends⟩
    | thrown error => exact ends.elim
    | await call resume => cases finished
  · have ends := (executes.meets (payment_meets key request)).1
    cases rest with
    | done result => exact ⟨result, rfl, Or.inl ends⟩
    | thrown error => exact ends.elim
    | await call resume => cases finished

/-- A payment call that has ended has charged at most once, and not at all where it
reports a failure, exactly when no reply to an applied charge was lost. -/
theorem charged_at_most_once_iff
    (executes : (payments config maxAttempts).Executes ((payments config maxAttempts).program request) start log rest
      state) (finished : rest.finished = true) :
    ChargedAtMostOnce start state rest ↔ ∀ event ∈ log, unlearned event = false := by
  have grown := applied_count executes.chained executes.admits
  rcases finished_accounted executes finished with ⟨result, rfl, ahead | idle⟩
  · have missed : (∀ event ∈ log, unlearned event = false) ↔ log.countP unlearned = 0 := by
      simp [List.countP_eq_zero]
    rw [chargedAtMostOnce_done grown, missed]
    unfold Ahead accounted at ahead
    cases reported : result.success with
    | true =>
        rw [if_pos reported] at ahead
        constructor
        · rintro ⟨atMost, _⟩
          omega
        · intro learned
          exact ⟨by omega, fun failed => by cases failed⟩
    | false =>
        rw [if_neg (by rw [reported]; exact Bool.false_ne_true)] at ahead
        constructor
        · rintro ⟨_, none⟩
          have none := none rfl
          omega
        · intro learned
          exact ⟨by omega, fun _ => by omega⟩
  · have none : log.countP applies = 0 := by
      rw [List.countP_eq_zero]
      intro event member
      rw [(idle event member).1]
      exact Bool.false_ne_true
    rw [chargedAtMostOnce_done grown, none]
    constructor
    · intro _ event member
      exact (idle event member).2
    · intro _
      exact ⟨by omega, fun _ => rfl⟩

end Payments

/-! ## A reply that is lost -/

/-- Whatever becomes of requests and replies, a payment call charges at most once,
and not at all where it reports a failure. -/
def PaymentsChargeOnce (config : GatewayConfig) (maxAttempts : Nat) (start : Ledger) : Prop :=
  ∀ request log rest state,
    (payments config maxAttempts).Executes ((payments config maxAttempts).program request) start log rest state →
      rest.finished = true → ChargedAtMostOnce start state rest

def stripeConfig : GatewayConfig where
  paymentGatewayApiKey := "sk_live"
  paymentGatewayBaseUrl := "https://api.stripe.com"

def tenDollars : PaymentChargeRequest where
  orderId := 0
  amount := { amount := "10.00", currency := "USD" }
  paymentToken := "tok"

/-- The gateway's reply to an applied charge. -/
def delivered (id : String) : List Exchange := [{}, { body := .obj [("id", .str id)] }]

/-- Answer the calls of the payment in turn. -/
def pay (exchanges : List Exchange) : HttpLog × Client PaymentResult × Ledger :=
  (payments stripeConfig CircuitBreaker.maxAttempts).execute
    ((payments stripeConfig CircuitBreaker.maxAttempts).program tenDollars) {} [] exchanges

example : (pay (List.replicate 9 { lost := some .other })).2.1.finished = true := by decide +kernel

/-- The connection fails before the first request arrives; the second is applied. -/
def lostOnTheWay : List Exchange :=
  {} :: { applied := false, lost := some (.error "fetch failed") } :: delivered "ch_1"

theorem charged_at_most_once_delivered :
    ChargedAtMostOnce {} (pay lostOnTheWay).2.2 (pay lostOnTheWay).2.1 :=
  (charged_at_most_once_iff (System.executes_execute _ _ _ _) (by decide +kernel)).mpr (by decide +kernel)

/-- The first charge is applied, its reply is lost, and the policy posts again. -/
def lostThenRetried : List Exchange :=
  {} :: { lost := some (.error "fetch failed") } :: delivered "ch_2"

theorem retry_charges_twice :
    ¬ PaymentsChargeOnce stripeConfig CircuitBreaker.maxAttempts {} := by
  intro claimed
  have once := claimed tenDollars _ _ _ (System.executes_execute _ _ _ lostThenRetried) (by decide +kernel)
  have twice : ¬ (pay lostThenRetried).2.2.applied.length ≤ 1 := by decide +kernel
  exact twice once.1

end Orderly
