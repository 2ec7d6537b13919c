import Orderly.System

/-!
# Footprints

The part of a routine's log that other routines, the customer or the stock can
notice: writes of the saga row, inventory statements, charges, refunds and
commits.  An issued call and an answered one are listed separately, because a
rejected call may have taken effect.  Reading, locking, and writing step rows
leave no footprint, unless a compensation status is written or the write was
to follow an approved charge and was rejected.

A footprint is compositional: what a routine did is what it had done before a
call to a subroutine, followed by what the subroutine did.  `Follows` states a
routine's contract on its footprint alone.
-/

namespace Orderly

open Process (Program)

/-- What a routine has done, each list oldest first. -/
@[ext] structure Footprint where
  /-- saga rows sent by `create` -/
  createCalls : List SagaInstance := []
  /-- those whose insert was answered -/
  created : List SagaInstance := []
  /-- saga rows sent by `update` -/
  updateCalls : List SagaInstance := []
  /-- those whose update was answered -/
  updated : List SagaInstance := []
  reserveCalls : List InventoryReservation := []
  /-- reservations that answered `true` -/
  reserved : List InventoryReservation := []
  releaseCalls : List InventoryReservation := []
  /-- releases that answered `true` -/
  released : List InventoryReservation := []
  /-- inventory statements that were rejected -/
  faults : List InventoryReservation := []
  /-- charges asked of the gateway -/
  chargeCalls : List PaymentChargeRequest := []
  /-- those whose approval was answered: transaction id and amount -/
  charges : List (Option String × Money) := []
  /-- rejected calls between an approved charge and the commit it calls for -/
  setbacks : List Call := []
  refundCalls : List (String × Money) := []
  /-- refunds whose approval was answered -/
  refunds : List (String × Money) := []
  commitCalls : List Transaction := []
  /-- transactions whose commit was answered -/
  commits : List Transaction := []
  /-- step rows sent with a compensation status -/
  compensated : List SagaStep := []

namespace Footprint

/-- First one footprint, then another. -/
def append (first second : Footprint) : Footprint where
  createCalls := first.createCalls ++ second.createCalls
  created := first.created ++ second.created
  updateCalls := first.updateCalls ++ second.updateCalls
  updated := first.updated ++ second.updated
  reserveCalls := first.reserveCalls ++ second.reserveCalls
  reserved := first.reserved ++ second.reserved
  releaseCalls := first.releaseCalls ++ second.releaseCalls
  released := first.released ++ second.released
  faults := first.faults ++ second.faults
  chargeCalls := first.chargeCalls ++ second.chargeCalls
  charges := first.charges ++ second.charges
  setbacks := first.setbacks ++ second.setbacks
  refundCalls := first.refundCalls ++ second.refundCalls
  refunds := first.refunds ++ second.refunds
  commitCalls := first.commitCalls ++ second.commitCalls
  commits := first.commits ++ second.commits
  compensated := first.compensated ++ second.compensated

instance : Append Footprint := ⟨append⟩

theorem append_def (first second : Footprint) : first ++ second = first.append second := rfl

@[simp] theorem append_empty (footprint : Footprint) : footprint ++ ({} : Footprint) = footprint := by
  simp [append_def, append]

@[simp] theorem empty_append (footprint : Footprint) : ({} : Footprint) ++ footprint = footprint := by
  simp [append_def, append]

@[simp] theorem append_assoc (first second third : Footprint) :
    first ++ second ++ third = first ++ (second ++ third) := by
  simp [append_def, append]

@[simp] theorem mk_append_mk {a b c d e f g h i j k l m n o p q a' b' c' d' e' f' g' h' i' j' k' l' m' n' o' p' q'} :
    mk a b c d e f g h i j k l m n o p q ++ mk a' b' c' d' e' f' g' h' i' j' k' l' m' n' o' p' q' =
      mk (a ++ a') (b ++ b') (c ++ c') (d ++ d') (e ++ e') (f ++ f') (g ++ g') (h ++ h')
        (i ++ i') (j ++ j') (k ++ k') (l ++ l') (m ++ m') (n ++ n') (o ++ o') (p ++ p') (q ++ q') := rfl

end Footprint

/-- The calls that follow an approved charge, up to the statements of the
transaction that confirms the order.  When one of them is rejected, the charge
stands and nothing has been confirmed. -/
def Call.strands : Call → Bool
  | .updateStep step =>
      step.stepName = .processPayment && step.status = .completed && step.compensationStatus = .pending
  | .createStep step =>
      (step.stepName = .confirmOrder || step.stepName = .emitEvents) && step.compensationStatus = .pending
  | .execute (.updateOrderStatus _ status) => status = .paid
  | .execute (.insertOutboxEvent _ event) => event.eventType = "order.paid"
  | _ => false

/-- The footprint of a rejected call that writes no row others can notice. -/
def setbackOf (call : Call) : Footprint := if call.strands then { setbacks := [call] } else {}

/-- The footprint of one answered call. -/
def eventFootprint : CallEvent → Footprint
  | ⟨.createSaga saga, .ok _, _, _⟩ => { createCalls := [saga], created := [saga] }
  | ⟨.createSaga saga, .error _, _, _⟩ => { createCalls := [saga] }
  | ⟨.updateSaga saga, .ok _, _, _⟩ => { updateCalls := [saga], updated := [saga] }
  | ⟨.updateSaga saga, .error _, _, _⟩ => { updateCalls := [saga] }
  | ⟨.reserve sku quantity, .ok true, _, _⟩ =>
      { reserveCalls := [⟨sku, quantity⟩], reserved := [⟨sku, quantity⟩] }
  | ⟨.reserve sku quantity, .ok false, _, _⟩ => { reserveCalls := [⟨sku, quantity⟩] }
  | ⟨.reserve sku quantity, .error _, _, _⟩ =>
      { reserveCalls := [⟨sku, quantity⟩], faults := [⟨sku, quantity⟩] }
  | ⟨.release sku quantity, .ok true, _, _⟩ =>
      { releaseCalls := [⟨sku, quantity⟩], released := [⟨sku, quantity⟩] }
  | ⟨.release sku quantity, .ok false, _, _⟩ => { releaseCalls := [⟨sku, quantity⟩] }
  | ⟨.release sku quantity, .error _, _, _⟩ =>
      { releaseCalls := [⟨sku, quantity⟩], faults := [⟨sku, quantity⟩] }
  | ⟨.charge orderId amount paymentToken, .ok result, _, _⟩ =>
      if result.success then
        { chargeCalls := [⟨orderId, amount, paymentToken⟩], charges := [(result.transactionId, amount)] }
      else { chargeCalls := [⟨orderId, amount, paymentToken⟩] }
  | ⟨.charge orderId amount paymentToken, .error _, _, _⟩ =>
      { chargeCalls := [⟨orderId, amount, paymentToken⟩] }
  | ⟨.refund transactionId amount, .ok result, _, _⟩ =>
      if result.success then
        { refundCalls := [(transactionId, amount)], refunds := [(transactionId, amount)] }
      else { refundCalls := [(transactionId, amount)] }
  | ⟨.refund transactionId amount, .error _, _, _⟩ => { refundCalls := [(transactionId, amount)] }
  | ⟨.commit transaction, .ok _, _, _⟩ => { commitCalls := [transaction], commits := [transaction] }
  | ⟨.commit transaction, .error _, _, _⟩ => { commitCalls := [transaction] }
  | ⟨.updateStep step, .ok _, _, _⟩ =>
      if step.compensationStatus = .pending then {} else { compensated := [step] }
  | ⟨.updateStep step, .error _, _, _⟩ =>
      if step.compensationStatus = .pending then setbackOf (.updateStep step)
      else { compensated := [step] }
  | ⟨.createStep step, .ok _, _, _⟩ =>
      if step.compensationStatus = .pending then {} else { compensated := [step] }
  | ⟨.createStep step, .error _, _, _⟩ =>
      if step.compensationStatus = .pending then setbackOf (.createStep step)
      else { compensated := [step] }
  | ⟨.execute statement, .error _, _, _⟩ => setbackOf (.execute statement)
  | _ => {}

/-- The footprint of a log. -/
def footprint : CallLog → Footprint
  | [] => {}
  | event :: log => footprint log ++ eventFootprint event

@[simp] theorem footprint_nil : footprint [] = {} := rfl

@[simp] theorem footprint_cons (event : CallEvent) (log : CallLog) :
    footprint (event :: log) = footprint log ++ eventFootprint event := rfl

theorem footprint_append (since log : CallLog) :
    footprint (since ++ log) = footprint log ++ footprint since := by
  induction since with
  | nil => simp
  | cons event since inductionHypothesis =>
      rw [List.cons_append, footprint_cons, inductionHypothesis, footprint_cons,
        Footprint.append_assoc]

/-- The footprint of every event of a log is part of its own. -/
theorem footprint_member {log : CallLog} {event : CallEvent} (member : event ∈ log) :
    ∃ before after, footprint log = before ++ (eventFootprint event ++ after) := by
  rcases List.append_of_mem member with ⟨later, earlier, rfl⟩
  exact ⟨footprint earlier, footprint later, by rw [footprint_append, footprint_cons, Footprint.append_assoc]⟩

/-! ## Contracts on footprints -/

/-- An answered call was rejected. -/
def Rejected (event : CallEvent) : Prop := ∃ error, event.reply = .error error

section Contracts

variable (platform : Platform) (Fine : CallEvent → Prop) (Good : Footprint → Prop)
  {α : Type} (Returns : α → Footprint → Prop) (Throws : Footprint → Prop)

/-- Whatever the other routines do, the routine's footprint is good whenever it
awaits an answer, and it ends as the postconditions say.  `Fine` restricts the
answers taken into account. -/
def Follows (program : Service α) (log : CallLog) : Prop :=
  program.Meets (fun log event => (orderly platform).Admits log event ∧ Fine event)
    (fun log _ => Good (footprint log))
    (fun value log => Returns value (footprint log)) (fun _ log => Throws (footprint log)) log

end Contracts

/-- A call whose answer is never noticed. -/
def Silent (request : Call) : Prop :=
  ∀ reply before after, eventFootprint ⟨request, reply, before, after⟩ = {}

/-- Drawing an id and reading the clock cannot fail. -/
theorem local_answered (platform : Platform) {request : Call} (isLocal : request.isLocal = true)
    (world : World) (choice : Choice) :
    ∃ value, (world.perform platform request choice).1 = .ok value := by
  cases request with
  | uuidv4 => cases choice <;> exact ⟨_, rfl⟩
  | newDate => cases choice <;> exact ⟨_, rfl⟩
  | _ => cases isLocal

namespace Follows

variable {platform : Platform} {Fine : CallEvent → Prop} {Good : Footprint → Prop} {α β : Type}
  {Returns : α → Footprint → Prop} {Throws : Footprint → Prop} {log : CallLog}
  {done : Footprint}

theorem pure {value : α} (now : footprint log = done) (returns : Returns value done) :
    Follows platform Fine Good Returns Throws (Program.done value) log := by
  rw [← now] at returns
  exact returns

theorem thrown {error : JsError} (now : footprint log = done) (throws : Throws done) :
    Follows platform Fine Good Returns Throws (Program.thrown error : Service α) log := by
  rw [← now] at throws
  exact throws

theorem bind {Middle : α → Footprint → Prop} {Returns : β → Footprint → Prop}
    {program : Service α} {next : α → Service β}
    (first : Follows platform Fine Good Middle Throws program log)
    (second : ∀ value log, Middle value (footprint log) →
      Follows platform Fine Good Returns Throws (next value) log) :
    Follows platform Fine Good Returns Throws (program >>= next) log :=
  Program.Meets.bind first second

theorem weaken {Returns' : α → Footprint → Prop} {Throws' : Footprint → Prop} {program : Service α}
    (follows : Follows platform Fine Good Returns Throws program log)
    (returns : ∀ value done, Returns value done → Returns' value done)
    (throws : ∀ done, Throws done → Throws' done) :
    Follows platform Fine Good Returns' Throws' program log :=
  Program.Meets.weaken follows (fun value _ => returns value _) (fun _ _ => throws _)

theorem tryCatch (Caught : Footprint → Prop) {program : Service α} {handler : JsError → Service α}
    (body : Follows platform Fine Good Returns Caught program log)
    (handled : ∀ error log, Caught (footprint log) →
      Follows platform Fine Good Returns Throws (handler error) log) :
    Follows platform Fine Good Returns Throws (MonadExcept.tryCatch program handler) log :=
  Program.Meets.tryCatch body handled

theorem attempt {Returned : α → Footprint → Prop} (Thrown : Footprint → Prop) {program : Service α}
    (body : Follows platform Fine Good Returned Thrown program log) :
    Follows platform Fine Good
      (fun outcome done => match outcome with
        | .ok value => Returned value done
        | .error _ => Thrown done) Throws program.attempt log :=
  Program.Meets.attempt body

/-- One call: the footprint grows by that of the answered call. -/
theorem call_bind {request : Call} {next : request.Reply → Service α}
    (now : footprint log = done) (good : Good done)
    (failed : ∀ error before after, Fine ⟨request, .error error, before, after⟩ →
      Throws (done ++ eventFootprint ⟨request, .error error, before, after⟩))
    (answered : ∀ value before after log',
      (orderly platform).Admits log ⟨request, .ok value, before, after⟩ →
      footprint log' = done ++ eventFootprint ⟨request, .ok value, before, after⟩ →
      Follows platform Fine Good Returns Throws (next value) log') :
    Follows platform Fine Good Returns Throws (Program.call (S := ports) request >>= next) log := by
  subst now
  refine Program.Meets.call_bind good ?_ ?_
  · intro error before after admitted
    exact failed error before after admitted.2
  · intro value before after admitted
    exact answered value before after _ admitted.1 rfl

/-- A call whose answer is the routine's result. -/
theorem call (request : Call) {Returns : request.Reply → Footprint → Prop}
    (now : footprint log = done) (good : Good done)
    (failed : ∀ error before after, Fine ⟨request, .error error, before, after⟩ →
      Throws (done ++ eventFootprint ⟨request, .error error, before, after⟩))
    (answered : ∀ value before after,
      Returns value (done ++ eventFootprint ⟨request, .ok value, before, after⟩)) :
    Follows platform Fine Good Returns Throws (Program.call (S := ports) request) log := by
  subst now
  refine Program.Meets.call good ?_ ?_
  · intro error before after admitted
    exact failed error before after admitted.2
  · intro value before after _
    exact answered value before after

/-- The same as a first step whose rejection is caught at once. -/
theorem attempt_bind {request : Call} {next : Except JsError request.Reply → Service α}
    (now : footprint log = done) (good : Good done)
    (replied : ∀ reply before after log', Fine ⟨request, reply, before, after⟩ →
      footprint log' = done ++ eventFootprint ⟨request, reply, before, after⟩ →
      Follows platform Fine Good Returns Throws (next reply) log') :
    Follows platform Fine Good Returns Throws
      ((Program.call (S := ports) request).attempt >>= next) log := by
  subst now
  refine ⟨good, fun reply before after admitted => ?_⟩
  cases reply with
  | ok value => exact replied (.ok value) before after _ admitted.2 rfl
  | error error => exact replied (.error error) before after _ admitted.2 rfl

/-- A call that nobody notices, whatever the answer. -/
theorem silent_bind {request : Call} {next : request.Reply → Service α} (silent : Silent request)
    (now : footprint log = done) (good : Good done)
    (failed : (∃ event, Fine event ∧ Rejected event) → Throws done)
    (answered : ∀ value log', footprint log' = done →
      Follows platform Fine Good Returns Throws (next value) log') :
    Follows platform Fine Good Returns Throws (Program.call (S := ports) request >>= next) log := by
  refine call_bind now good ?_ ?_
  · intro error before after fine
    rw [silent, Footprint.append_empty]
    exact failed ⟨_, fine, error, rfl⟩
  · intro value before after log' _ later
    rw [silent, Footprint.append_empty] at later
    exact answered value log' later

/-- A call that nobody notices and that cannot fail. -/
theorem local_bind {request : Call} {next : request.Reply → Service α}
    (isLocal : request.isLocal = true) (now : footprint log = done) (good : Good done)
    (answered : ∀ value log', footprint log' = done →
      Follows platform Fine Good Returns Throws (next value) log') :
    Follows platform Fine Good Returns Throws (Program.call (S := ports) request >>= next) log := by
  have silent : Silent request := by
    intro reply before after
    cases request <;> first | rfl | cases isLocal
  subst now
  refine ⟨good, fun reply before after admitted => ?_⟩
  rcases admitted.1 with ⟨choice, same⟩
  rcases local_answered platform isLocal before choice with ⟨value, ok⟩
  have replied : reply = .ok value := by
    have heads : reply = (World.perform platform before request choice).1 := by
      injection same
    exact heads.trans ok
  subst replied
  exact answered value _ (by rw [footprint_cons, silent, Footprint.append_empty])

end Follows

end Orderly
