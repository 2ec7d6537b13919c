import Orderly.Fulfilment.OrderRows

/-!
# Order statuses and the transition table

The table of `order.ts` is consulted by nobody who writes `orders.status`.  The
two transactions set PAID and CANCELLED over whatever they find.  They respect the
table as long as an order is taken up only while it is PENDING and no other routine
is at work on it: each routine commits once at most, for an order it has taken up.
-/

namespace Orderly

open Process (Move Program System)

/-- Executions of saga jobs and admin requests, scheduled in any way. -/
def servesOrders (_ : Running) : Move Task Choice → Bool
  | .start (.startSaga _) => false
  | _ => true

/-- Every change of a persisted order status is a transition of the table. -/
def FollowsTransitions (platform : Platform) (world : World) : Prop :=
  ∀ config, (orderly platform).Reaches (fun config move => servesOrders config move = true)
      { shared := world } config →
    ∀ move, servesOrders config move = true → ∀ id status status',
      orderStatus config.shared id = some status →
      orderStatus ((orderly platform).step config move).shared id = some status' → status ≠ status' →
      ∀ order : Order, order.status = status → canTransitionTo order status' = true

/-! ## One routine for an order at a time -/

/-- The routine awaits an answer and has not been stopped. -/
def atWork (thread : Routine) : Bool :=
  match thread.code with
  | .await _ _ => !thread.stopped
  | _ => false

/-- The routine has taken up the order: it has inserted a saga for it, or read one as
RUNNING. -/
def tookUp (id : Uuid) (log : CallLog) : Bool := log.any fun event => (shows event).any (·.orderId = id)

/-- The order is still PENDING, if it is there at all, and nobody is at work on it. -/
def freeToTake (config : Running) (id : Uuid) : Bool :=
  (orderStatus config.shared id).all (· = .pending) &&
    config.threads.all fun thread => !(atWork thread && tookUp id thread.log)

/-- The order that a routine takes up with the call it is about to have answered. -/
def takesUp (world : World) (thread : Routine) : Option Uuid :=
  match thread.code with
  | .await (.createSaga saga) _ => some saga.orderId
  | .await (.findSagaById id) _ =>
      match world.db.findSagaById id with
      | some saga => if saga.status = .running then some saga.orderId else none
      | none => none
  | _ => none

/-- An order is taken up only while it is free. -/
def takesFreeOrders (config : Running) : Move Task Choice → Bool
  | .advance index _ =>
      match config.threads[index]? with
      | some thread => (takesUp config.shared thread).all (freeToTake config)
      | none => true
  | _ => true

theorem tookUp_iff {id : Uuid} {log : CallLog} : tookUp id log = true ↔ KnowsOrder id log := by
  unfold tookUp KnowsOrder
  rw [List.any_eq_true]
  constructor
  · rintro ⟨event, member, shown⟩
    cases found : shows event with
    | none =>
        rw [found] at shown
        cases shown
    | some saga =>
        rw [found] at shown
        exact ⟨event, member, saga, found, of_decide_eq_true shown⟩
  · rintro ⟨event, member, saga, shown, about⟩
    exact ⟨event, member, by rw [shown]; exact decide_eq_true about⟩

/-- What an answer shows is what the routine takes up. -/
theorem takesUp_of_shown {platform : Platform} {world : World} {thread : Routine} {call : Call}
    {resume : Except JsError call.Reply → Service Outcome} {choice : Choice} {saga : SagaInstance}
    (pending : thread.code = .await call resume)
    (shown : shows ((orderly platform).answer world call choice) = some saga) :
    takesUp world thread = some saga.orderId := by
  unfold takesUp
  rw [pending]
  unfold System.answer at shown
  generalize performed : (orderly platform).perform world call choice = result at shown
  rcases result with ⟨reply, after⟩
  cases call with
  | createSaga row =>
      cases reply with
      | error error => cases shown
      | ok value => exact congrArg (fun saga => some saga.orderId) (Option.some.inj shown)
  | findSagaById id =>
      cases reply with
      | error error => cases shown
      | ok found =>
          rcases World.findSagaById_answered performed with ⟨rfl, _⟩
          change (match world.db.findSagaById id with
            | some saga => if saga.status = .running then some saga.orderId else none
            | none => none) = some saga.orderId
          cases read : world.db.findSagaById id with
          | none =>
              rw [read] at shown
              cases shown
          | some row =>
              rw [read] at shown
              change (if row.status = .running then some row else none) = some saga at shown
              split at shown
              · next running =>
                  cases Option.some.inj shown
                  exact if_pos running
              · cases shown
  | _ => cases shown

theorem freeToTake_iff {config : Running} {id : Uuid} : freeToTake config id = true ↔
    (∀ status, orderStatus config.shared id = some status → status = .pending) ∧
      ∀ thread ∈ config.threads, atWork thread = true → ¬ KnowsOrder id thread.log := by
  unfold freeToTake
  rw [Bool.and_eq_true, Option.all_eq_true, List.all_eq_true]
  refine and_congr ?_ ?_
  · exact forall₂_congr fun status _ => decide_eq_true_iff
  · refine forall₂_congr fun thread _ => ?_
    rw [Bool.not_eq_true', Bool.and_eq_false_imp]
    refine forall_congr' fun _ => ?_
    rw [← tookUp_iff, Bool.not_eq_true]

/-! ## One commit for each routine -/

section Commits

variable {platform : Platform} {context : SagaContext} {done : Footprint}

theorem compensating_single {saga : SagaInstance} (compensating : Compensating platform context saga done) :
    done.commitCalls.length ≤ 1 := by
  cases compensating with
  | entered => exact Nat.zero_le _
  | announcing => exact Nat.zero_le _
  | undoing _ undoing =>
      cases undoing with
      | refunding => exact Nat.zero_le _
      | releasing => exact Nat.zero_le _
      | cancelling => exact Nat.le_refl _
      | failing now _ _ _ attempted =>
          rcases attempted with rfl | ⟨eventId, rfl⟩
          · exact Nat.zero_le _
          · exact Nat.le_refl _

theorem fulfilling_single (fulfilling : Fulfilling platform context done) : done.commitCalls.length ≤ 1 := by
  cases fulfilling with
  | confirming => exact Nat.le_refl _
  | completing => exact Nat.le_refl _
  | compensating _ _ _ compensating =>
      change ([] ++ _ : List Transaction).length ≤ 1
      exact compensating_single compensating
  | _ => exact Nat.zero_le _

/-- A routine commits once at most. -/
theorem conduct_single {task : Task} (conduct : Conduct platform task done) : done.commitCalls.length ≤ 1 := by
  cases task with
  | startSaga context => exact fulfilling_single conduct
  | sagaJob job => exact fulfilling_single conduct
  | compensateSaga id =>
      cases conduct with
      | asked => exact Nat.zero_le _
      | handling _ compensating => exact compensating_single compensating

/-- What a request for a saga knows about the orders it commits for. -/
def Informs (task : Task) (log : CallLog) : Prop := ∀ id, task = .compensateSaga id → CommitsKnown log

theorem task_informs (task : Task) :
    (task.program platform).Meets (orderly platform).Admits (fun log _ => Informs task log) (fun _ => Informs task)
      (fun _ => Informs task) [] := by
  have others : (∀ id, task ≠ .compensateSaga id) → (task.program platform).Meets (orderly platform).Admits
      (fun log _ => Informs task log) (fun _ => Informs task) (fun _ => Informs task) [] := by
    intro other
    have informs : ∀ log, Informs task log := fun log id same => absurd same (other id)
    exact Program.Meets.widen (fun log _ _ => informs log)
      ((Program.Meets.anything _ _).weaken (fun _ log _ => informs log) fun _ log _ => informs log)
  cases task with
  | startSaga context => exact others fun _ same => by cases same
  | sagaJob job => exact others fun _ same => by cases same
  | compensateSaga id =>
      have known := Program.Meets.narrow (fun _ _ admitted => ⟨admitted, trivial⟩) (compensateSaga_known platform id)
      refine Program.Meets.bind (Program.Meets.widen ?_ (known.weaken (fun _ _ returned => returned) ?_)) ?_
      · exact fun log call commits other _ => commits
      · exact fun _ _ thrown _ _ => thrown
      · exact fun _ _ returned _ _ => returned

end Commits

section Runs

variable {platform : Platform} {world : World} {config : Running} {Legal : Running → Move Task Choice → Prop}

/-- A routine has taken up the orders it commits for. -/
theorem conduct_known {task : Task} {log : CallLog} (conduct : Conduct platform task (footprint log))
    (informs : Informs task log) : CommitsKnown log := by
  cases task with
  | startSaga context => exact fulfilling_known conduct
  | sagaJob job => exact fulfilling_known conduct
  | compensateSaga id => exact informs id rfl

/-- What an answered call leaves of a routine that is at work in a reached state. -/
theorem answered_known (reached : (orderly platform).Reaches Legal { shared := world } config) {thread : Routine}
    (member : thread ∈ config.threads) {call : Call} {resume : Except JsError call.Reply → Service Outcome}
    (pending : thread.code = .await call resume) (choice : Choice) :
    Conduct platform thread.task (footprint ((orderly platform).answer config.shared call choice :: thread.log)) ∧
      CommitsKnown ((orderly platform).answer config.shared call choice :: thread.log) := by
  have conduct := Keeping.conduct ((reaches_keeping reached thread member).answered pending config.shared choice).2
  have keeps := (reached.contract (fun _ none => by cases none) fun _ task _ => task_informs task) thread member
  have informs := System.Keeps.standing (keeps.answered pending config.shared choice).2
  exact ⟨conduct, conduct_known conduct informs⟩

/-- No two routines are at work on one order, and who has committed nothing finds its
order PENDING. -/
structure OneAtWork (config : Running) : Prop where
  alone : ∀ (index other : Nat) (thread fellow : Routine), config.threads[index]? = some thread →
    config.threads[other]? = some fellow → atWork thread = true → atWork fellow = true → ∀ id,
      KnowsOrder id thread.log → KnowsOrder id fellow.log → index = other
  pending : ∀ thread ∈ config.threads, atWork thread = true → (footprint thread.log).commitCalls = [] → ∀ id,
    KnowsOrder id thread.log → ∀ status, orderStatus config.shared id = some status → status = .pending

/-- A routine that commits for an order, alone at work on it, finds it PENDING. -/
theorem OneAtWork.commit_pending (one : OneAtWork config) {thread : Routine} (member : thread ∈ config.threads)
    (working : atWork thread = true) {event : CallEvent} {transaction : Transaction} {id : Uuid} {set : OrderStatus}
    (conduct : Conduct platform thread.task (footprint (event :: thread.log)))
    (known : CommitsKnown (event :: thread.log)) (call : event.call = .commit transaction)
    (outcome : transaction.outcome = some (id, set)) :
    KnowsOrder id thread.log ∧ ∀ status, orderStatus config.shared id = some status → status = .pending := by
  rcases event with ⟨_, reply, before, after⟩
  cases call
  have listed : transaction ∈ (footprint (⟨.commit transaction, reply, before, after⟩ :: thread.log)).commitCalls :=
    commit_listed rfl _
  have knows : KnowsOrder id thread.log := by
    rcases known transaction listed id set outcome with ⟨seen, among, saga, shown, about⟩
    rcases List.mem_cons.mp among with rfl | earlier
    · cases shown
    · exact ⟨seen, earlier, saga, shown, about⟩
  have fresh : (footprint thread.log).commitCalls = [] := by
    have calls : (footprint (⟨.commit transaction, reply, before, after⟩ :: thread.log)).commitCalls =
        (footprint thread.log).commitCalls ++ [transaction] := by
      cases reply <;> rfl
    have single := conduct_single conduct
    rw [calls, List.length_append] at single
    exact List.eq_nil_of_length_eq_zero (by simpa using single)
  exact ⟨knows, one.pending thread member working fresh id knows⟩

/-- What a routine has taken up after an answer, it had taken up before or it was free. -/
theorem knows_answered {thread : Routine} {index : Nat} {call : Call} {choice : Choice}
    {resume : Except JsError call.Reply → Service Outcome} {id : Uuid} (listed : config.threads[index]? = some thread)
    (pending : thread.code = .await call resume) (free : takesFreeOrders config (.advance index choice) = true)
    (knows : KnowsOrder id ((orderly platform).answer config.shared call choice :: thread.log)) :
    KnowsOrder id thread.log ∨ freeToTake config id = true := by
  rcases knows with ⟨seen, member, saga, shown, about⟩
  rcases List.mem_cons.mp member with rfl | earlier
  · right
    have takes := takesUp_of_shown pending shown
    simp only [takesFreeOrders, listed, takes, Option.all_some] at free
    exact about ▸ free
  · exact Or.inl ⟨seen, earlier, saga, shown, about⟩

/-- An answer keeps routines apart. -/
theorem OneAtWork.answered (one : OneAtWork config) (reached : (orderly platform).Reaches Legal { shared := world } config)
    {thread : Routine} {index : Nat} {call : Call} {choice : Choice}
    {resume : Except JsError call.Reply → Service Outcome} (listed : config.threads[index]? = some thread)
    (pending : thread.code = .await call resume) (live : thread.stopped = false)
    (free : takesFreeOrders config (.advance index choice) = true) :
    OneAtWork
      { shared := ((orderly platform).answer config.shared call choice).after
        threads := config.threads.set index (thread.answered ((orderly platform).answer config.shared call choice)
          (resume ((orderly platform).perform config.shared call choice).1)) } := by
  have member := List.mem_of_getElem? listed
  have working : atWork thread = true := by
    unfold atWork
    rw [pending, live]
    rfl
  rcases answered_known reached member pending choice with ⟨conduct, known⟩
  have taken := fun id => @knows_answered platform config thread index call choice resume id listed pending free
  -- nobody else is at work on an order that the routine has taken up by now
  have others : ∀ id, KnowsOrder id ((orderly platform).answer config.shared call choice :: thread.log) →
      ∀ other fellow, config.threads[other]? = some fellow → atWork fellow = true → KnowsOrder id fellow.log →
        index = other := by
    intro id knows other fellow found at_work shares
    rcases taken id knows with before | open_
    · exact one.alone index other thread fellow listed found working at_work id before shares
    · exact absurd shares ((freeToTake_iff.mp open_).2 fellow (List.mem_of_getElem? found) at_work)
  constructor
  · intro position other first second found found' firstWorks secondWorks id knows knows'
    rcases System.getElem?_set_cases listed found with ⟨rfl, rfl⟩ | ⟨different, before⟩
    · rcases System.getElem?_set_cases listed found' with ⟨rfl, rfl⟩ | ⟨different', before'⟩
      · rfl
      · exact others id knows other second before' secondWorks knows'
    · rcases System.getElem?_set_cases listed found' with ⟨rfl, rfl⟩ | ⟨different', before'⟩
      · exact (others id knows' position first before firstWorks knows).symm
      · exact one.alone position other first second before before' firstWorks secondWorks id knows knows'
  · intro routine among works quiet id knows status now
    rcases List.mem_iff_getElem?.mp among with ⟨position, found⟩
    have change : OrderChange platform ((orderly platform).answer config.shared call choice) id :=
      orderChange ⟨choice, rfl⟩ conduct id
    rcases System.getElem?_set_cases listed found with ⟨rfl, rfl⟩ | ⟨different, before⟩
    · cases change with
      | unchanged same =>
          have was : orderStatus config.shared id = some status := same.symm.trans now
          rcases taken id knows with earlier | open_
          · have silent : (footprint thread.log).commitCalls = [] := (List.append_eq_nil_iff.mp quiet).1
            exact one.pending thread member working silent id earlier status was
          · exact (freeToTake_iff.mp open_).1 status was
      | committed context transaction set call' =>
          have calls := commit_listed call' thread.log
          change transaction ∈ (footprint (_ :: thread.log)).commitCalls at calls
          rw [show (footprint (_ :: thread.log)).commitCalls = [] from quiet] at calls
          cases calls
    · cases change with
      | unchanged same =>
          exact one.pending routine (List.mem_of_getElem? before) works quiet id knows status (same.symm.trans now)
      | committed context transaction set call' shape outcome =>
          have shares := (one.commit_pending member working conduct known call' outcome).1
          exact absurd (one.alone index position thread routine listed before working works id shares knows).symm different

/-- Where nobody new is at work on an order, routines stay apart. -/
theorem OneAtWork.shrink {next : Running} (one : OneAtWork config) (shared : next.shared = config.shared)
    (shrinks : ∀ (position : Nat) (thread : Routine), next.threads[position]? = some thread → atWork thread = true →
      ∀ id, KnowsOrder id thread.log → config.threads[position]? = some thread) : OneAtWork next := by
  constructor
  · intro index other thread fellow found found' works works' id knows knows'
    exact one.alone index other thread fellow (shrinks index thread found works id knows)
      (shrinks other fellow found' works' id knows') works works' id knows knows'
  · intro thread member works quiet id knows status now
    rcases List.mem_iff_getElem?.mp member with ⟨position, found⟩
    have before := List.mem_of_getElem? (shrinks position thread found works id knows)
    exact one.pending thread before works quiet id knows status (shared ▸ now)

theorem reaches_one (free : ∀ config move, Legal config move → takesFreeOrders config move = true)
    (reached : (orderly platform).Reaches Legal { shared := world } config) : OneAtWork config := by
  refine reached.induct ?_ ?_
  · constructor
    · intro index other thread fellow found
      cases found
    · intro thread member
      cases member
  · intro earlier move next reached' legal stepped one
    cases stepped with
    | idle => exact one
    | started task =>
        -- the new routine has taken up nothing yet
        refine one.shrink rfl ?_
        intro position thread found _ id knows
        rcases Nat.lt_or_ge position earlier.threads.length with inside | outside
        · exact (List.getElem?_append_left inside).symm.trans found
        · rw [List.getElem?_append_right outside] at found
          rw [List.mem_singleton.mp (List.mem_of_getElem? found)] at knows
          rcases knows with ⟨_, impossible, _⟩
          cases impossible
    | stopped index =>
        refine one.shrink rfl ?_
        intro position thread found works id _
        rcases System.getElem?_of_stop found with ⟨old, listed, rfl | rfl⟩
        · exact listed
        · unfold atWork at works
          split at works <;> cases works
    | answered index choice thread call resume listed pending live =>
        exact one.answered reached' listed pending live (free _ _ legal)

/-- Where orders are taken up only while they are free, every status change is in the
table. -/
theorem order_transitions {move : Move Task Choice} {id : Uuid} {status status' : OrderStatus} {order : Order}
    (reached : (orderly platform).Reaches
      (fun config move => (servesOrders config move && takesFreeOrders config move) = true)
      { shared := world } config)
    (legal : (servesOrders config move && takesFreeOrders config move) = true)
    (old : orderStatus config.shared id = some status)
    (new : orderStatus ((orderly platform).step config move).shared id = some status')
    (different : status ≠ status') (entity : order.status = status) :
    canTransitionTo order status' = true := by
  have one := reaches_one (fun _ _ legal => (Bool.and_eq_true_iff.mp legal).2) reached
  have stepped := (orderly platform).step_stepped config move
  generalize (orderly platform).step config move = next at new stepped
  cases stepped with
  | idle => exact absurd (Option.some.inj (old.symm.trans new)) different
  | started task => exact absurd (Option.some.inj (old.symm.trans new)) different
  | stopped index => exact absurd (Option.some.inj (old.symm.trans new)) different
  | answered index choice thread call resume listed pending live =>
      have member := List.mem_of_getElem? listed
      rcases answered_known reached member pending choice with ⟨conduct, known⟩
      have change : OrderChange platform ((orderly platform).answer config.shared call choice) id :=
        orderChange ⟨choice, rfl⟩ conduct id
      cases change with
      | unchanged same =>
          have kept := same.symm.trans new
          exact absurd (Option.some.inj (old.symm.trans kept)) different
      | committed context transaction set call' shape outcome takes present now =>
          have same : set = status' := Option.some.inj (now.symm.trans new)
          subst same
          have working : atWork thread = true := by
            unfold atWork
            rw [pending, live]
            rfl
          have found := (one.commit_pending member working conduct known call' outcome).2 status old
          rw [canTransitionTo, entity, found]
          -- the two transactions set PAID and CANCELLED, and PENDING may become either
          cases shape with
          | confirmation => cases outcome; rfl
          | cancellation => cases outcome; rfl

end Runs

/-- An attempt that is cut off once it has reserved, and another that is about to confirm
the order. -/
def secondAttempt : Running :=
  (orderly postgresJs).run { shared := smallShop 10 }
    (.start (.sagaJob (orderOf 0 5)) :: serve 0 12 ++ .advance 0 (.reject (.error "connection lost")) ::
      .start (.sagaJob (orderOf 0 5)) :: serve 1 29)

theorem order_transitions_retried :
    secondAttempt.threads.map (fun thread => (thread.code.finished, (footprint thread.log).reserved.length)) =
      [(true, 1), (false, 1)] ∧
    canTransitionTo
      { id := 0, customerId := "customer", status := .pending, totalAmount := ⟨"10.00", "USD"⟩,
        currency := "USD", idempotencyKey := none, items := [], createdAt := 0, updatedAt := 0 }
      .paid = true := by
  have reached : (orderly postgresJs).Reaches
      (fun config move => (servesOrders config move && takesFreeOrders config move) = true)
      { shared := smallShop 10 } secondAttempt := System.reaches_run (by decide +kernel)
  have old : orderStatus secondAttempt.shared 0 = some .pending := by decide +kernel
  have new : orderStatus ((orderly postgresJs).step secondAttempt (.advance 1 .serve)).shared 0 = some .paid := by
    decide +kernel
  exact ⟨by decide +kernel, order_transitions reached (by decide +kernel) old new (by decide) rfl⟩

/-- The order is paid, a later write of the same attempt is rejected, and the
attempt that follows finds no stock and cancels the paid order. -/
theorem cancels_paid_order : ¬ FollowsTransitions postgresJs (smallShop 5) := by
  intro claimed
  have reached : (orderly postgresJs).Reaches (fun config move => servesOrders config move = true)
      { shared := smallShop 5 }
      ((orderly postgresJs).run { shared := smallShop 5 }
        (.start (.sagaJob (orderOf 0 5)) :: serve 0 31 ++ .advance 0 (.reject (.error "connection lost")) ::
          .start (.sagaJob (orderOf 0 5)) :: serve 1 21)) :=
    System.reaches_run (by decide +kernel)
  have paid : orderStatus ((orderly postgresJs).run { shared := smallShop 5 }
      (.start (.sagaJob (orderOf 0 5)) :: serve 0 31 ++ .advance 0 (.reject (.error "connection lost")) ::
        .start (.sagaJob (orderOf 0 5)) :: serve 1 21)).shared 0 = some .paid := by decide +kernel
  have cancelled : orderStatus ((orderly postgresJs).step ((orderly postgresJs).run { shared := smallShop 5 }
      (.start (.sagaJob (orderOf 0 5)) :: serve 0 31 ++ .advance 0 (.reject (.error "connection lost")) ::
        .start (.sagaJob (orderOf 0 5)) :: serve 1 21)) (.advance 1 .serve)).shared 0 = some .cancelled := by
    decide +kernel
  have accepted := claimed _ reached (.advance 1 .serve) rfl 0 .paid .cancelled paid cancelled (by decide)
    { id := 0, customerId := "customer", status := .paid, totalAmount := ⟨"10.00", "USD"⟩,
      currency := "USD", idempotencyKey := none, items := [], createdAt := 0, updatedAt := 0 } rfl
  revert accepted
  decide

end Orderly
