import Orderly.Fulfilment.Stock

/-!
# Running a saga job again

The queue runs a job again when its processor threw or its process stopped.
`startSaga` looks at nothing an earlier attempt has left: it creates a new saga
row, reserves and charges again.  A second attempt is therefore safe only after
attempts whose charges have been refunded and whose stock has been given back.
-/

namespace Orderly

open Process (Program System Move)

/-! ## What the attempts have left -/

/-- A refund of that charge has been approved in one of the attempts. -/
def refundedIn (logs : List CallLog) (charge : Option String × Money) : Bool :=
  logs.any fun log => (footprint log).refunds.any fun refund => (some refund.1, refund.2) = charge

/-- The approved charges of all attempts that no attempt has refunded. -/
def unrefunded (logs : List CallLog) : List (Option String × Money) :=
  (logs.flatMap fun log => (footprint log).charges).filter fun charge => !refundedIn logs charge

/-- The stock all attempts hold together. -/
def heldByAll (logs : List CallLog) (sku : String) : Int := (logs.map fun log => held log sku).sum

def attempts (config : Running) : List CallLog := config.threads.map fun thread => thread.log

/-- An attempt that threw or whose process has stopped. -/
def ended (thread : Routine) : Bool :=
  thread.stopped || match thread.code with
    | .thrown _ => true
    | _ => false

/-- The queue runs one job, and again once every earlier attempt has ended. -/
def runsAgain (job : SagaContext) (config : Running) : Move Task Choice → Bool
  | .start task => task = .sagaJob job && config.threads.all ended
  | _ => true

/-- In every run of a job, at most one charge is not refunded, and the stock held
for the order is at most the quantities of its items. -/
def ChargedOnce (platform : Platform) (world : World) (job : SagaContext) : Prop :=
  ∀ config, (orderly platform).Reaches (fun config move => runsAgain job config move = true)
      { shared := world } config →
    (unrefunded (attempts config)).length ≤ 1 ∧
      ∀ sku, heldByAll (attempts config) sku ≤ quantityOf job.items sku

/-- An attempt starts only where the earlier ones have left no charge and hold no
stock. -/
def startsClean (job : SagaContext) (config : Running) : Move Task Choice → Bool
  | .start _ => (unrefunded (attempts config)).isEmpty &&
      job.items.all fun item => heldByAll (attempts config) item.sku ≤ 0
  | _ => true

/-! ## One attempt -/

section Attempt

variable {platform : Platform} {context : SagaContext} {done : Footprint}

theorem compensating_reserves {saga : SagaInstance} (compensating : Compensating platform context saga done) :
    done.reserveCalls = [] := by
  cases compensating with
  | entered => rfl
  | announcing => rfl
  | undoing _ undoing => cases undoing <;> rfl

/-- A run charges at most once and asks for each item at most once. -/
theorem fulfilling_bounds (fulfilling : Fulfilling platform context done) :
    done.charges.length ≤ 1 ∧ done.reserveCalls <+: InventoryService.sortItems platform context.items := by
  cases fulfilling with
  | idle => exact ⟨Nat.zero_le _, List.nil_prefix⟩
  | creating => exact ⟨Nat.zero_le _, List.nil_prefix⟩
  | created => exact ⟨Nat.zero_le _, List.nil_prefix⟩
  | starting => exact ⟨Nat.zero_le _, List.nil_prefix⟩
  | reserving _ called => exact ⟨Nat.zero_le _, called⟩
  | charging => exact ⟨Nat.zero_le _, List.prefix_refl _⟩
  | charged => exact ⟨Nat.le_refl _, List.prefix_refl _⟩
  | confirming => exact ⟨Nat.le_refl _, List.prefix_refl _⟩
  | completing => exact ⟨Nat.le_refl _, List.prefix_refl _⟩
  | compensating _ called _ compensating =>
      constructor
      · change ([] ++ _ : List _).length ≤ 1
        rw [(compensating_charges compensating).2]
        exact Nat.zero_le _
      · change _ ++ _ <+: _
        rw [compensating_reserves compensating, List.append_nil]
        exact called

end Attempt

/-! ## All attempts -/

theorem refundedIn_append (earlier : List CallLog) (latest : CallLog) (charge : Option String × Money)
    (refunded : refundedIn earlier charge = true) : refundedIn (earlier ++ [latest]) charge = true := by
  unfold refundedIn at refunded ⊢
  rw [List.any_append, refunded, Bool.true_or]

/-- After attempts that have left nothing, only the latest can have charged. -/
theorem unrefunded_append {earlier : List CallLog} {latest : CallLog} (clean : unrefunded earlier = []) :
    (unrefunded (earlier ++ [latest])).length ≤ (footprint latest).charges.length := by
  have none : (earlier.flatMap fun log => (footprint log).charges).filter
      (fun charge => !refundedIn (earlier ++ [latest]) charge) = [] := by
    rw [List.filter_eq_nil_iff]
    intro charge member outstanding
    have refunded : refundedIn earlier charge = true := by
      by_contra other
      have listed : charge ∈ unrefunded earlier :=
        List.mem_filter.mpr ⟨member, by simpa using other⟩
      rw [clean] at listed
      cases listed
    rw [refundedIn_append earlier latest charge refunded] at outstanding
    cases outstanding
  unfold unrefunded
  rw [List.flatMap_append, List.filter_append, none, List.nil_append]
  simpa using List.length_filter_le _ (footprint latest).charges

theorem heldByAll_append (earlier : List CallLog) (latest : CallLog) (sku : String) :
    heldByAll (earlier ++ [latest]) sku = heldByAll earlier sku + held latest sku := by
  simp [heldByAll]

/-- All attempts but the last have ended and have left nothing. -/
structure LeftNothing (config : Running) : Prop where
  ended : ∀ (index : Nat) (thread : Routine), config.threads[index]? = some thread →
    index + 1 < config.threads.length → ended thread = true
  charges : unrefunded (attempts config).dropLast = []
  stock : ∀ sku, heldByAll (attempts config).dropLast sku ≤ 0

section Runs

variable {platform : Platform} {world : World} {job : SagaContext} {config : Running}

theorem attempt_bounds
    (reached : (orderly platform).Reaches (fun config move => runsAgain job config move = true)
      { shared := world } config) {log : CallLog} (member : log ∈ attempts config) :
    (footprint log).charges.length ≤ 1 ∧ ∀ sku, held log sku ≤ quantityOf job.items sku := by
  rcases List.mem_map.mp member with ⟨thread, listed, rfl⟩
  have keeping := reaches_keeping reached thread listed
  have tasks : ∀ thread ∈ config.threads, thread.task = .sagaJob job := by
    refine reached.eachThread ?_ ?_ ?_ ?_
    · intro thread member
      cases member
    · intro config task legal
      exact of_decide_eq_true (Bool.and_eq_true_iff.mp legal).1
    · exact fun thread holds => holds
    · intro config index choice thread call resume _ _ _ holds
      exact holds
  have conduct := keeping.conduct
  rw [tasks thread listed] at conduct
  rcases fulfilling_bounds conduct with ⟨once, called⟩
  refine ⟨once, fun sku => ?_⟩
  have asked := held_le keeping.admitted sku
  have most := quantityOf_prefix called sku
  rw [quantityOf_sortItems] at most
  omega

theorem sum_le_zero {items : List Int} (nonpositive : ∀ item ∈ items, item ≤ 0) : items.sum ≤ 0 := by
  induction items with
  | nil => exact Int.le_refl _
  | cons head tail inductionHypothesis =>
      have first := nonpositive head List.mem_cons_self
      have rest := inductionHypothesis fun item member => nonpositive item (List.mem_cons_of_mem _ member)
      rw [List.sum_cons]
      omega

theorem quantityOf_eq_zero {items : List InventoryReservation} {sku : String}
    (absent : ∀ item ∈ items, item.sku ≠ sku) : quantityOf items sku = 0 := by
  have none : items.filter (·.sku = sku) = [] := by simpa using absent
  rw [quantityOf, none]
  rfl

/-- A clean start is clean for every SKU, also those the order does not name. -/
theorem clean_stock
    (reached : (orderly platform).Reaches (fun config move => runsAgain job config move = true)
      { shared := world } config)
    (clean : ∀ item ∈ job.items, heldByAll (attempts config) item.sku ≤ 0) (sku : String) :
    heldByAll (attempts config) sku ≤ 0 := by
  by_cases named : ∃ item ∈ job.items, item.sku = sku
  · rcases named with ⟨item, member, rfl⟩
    exact clean item member
  · have zero : quantityOf job.items sku = 0 :=
      quantityOf_eq_zero fun item member same => named ⟨item, member, same⟩
    apply sum_le_zero
    intro units member
    rcases List.mem_map.mp member with ⟨log, listed, rfl⟩
    have bound := (attempt_bounds reached listed).2 sku
    omega

theorem dropLast_set_last {X : Type} {items : List X} {index : Nat} (item : X)
    (last : items.length ≤ index + 1) : (items.set index item).dropLast = items.dropLast := by
  rw [List.dropLast_eq_take, List.dropLast_eq_take, List.length_set, List.take_set_of_le (by omega)]

theorem LeftNothing.step {move : Move Task Choice} {next : Running}
    (reached : (orderly platform).Reaches (fun config move => runsAgain job config move = true)
      { shared := world } config)
    (legal : (runsAgain job config move && startsClean job config move) = true)
    (stepped : (orderly platform).Stepped config move next) (left : LeftNothing config) :
    LeftNothing next := by
  cases stepped with
  | idle => exact left
  | started task =>
      have parts := Bool.and_eq_true_iff.mp legal
      have finished := (Bool.and_eq_true_iff.mp parts.1).2
      have clean := Bool.and_eq_true_iff.mp parts.2
      have earlier : (attempts { config with
          threads := config.threads ++ [{ task, code := (orderly platform).program task }] }).dropLast =
            attempts config := by
        simp [attempts]
      refine ⟨?_, ?_, ?_⟩
      · intro index thread found inside
        have bound : index < config.threads.length := by
          simpa using inside
        rw [List.getElem?_append_left bound] at found
        exact List.all_eq_true.mp finished thread (List.mem_of_getElem? found)
      · rw [earlier]
        exact List.isEmpty_iff.mp clean.1
      · intro sku
        rw [earlier]
        exact clean_stock reached (by simpa using clean.2) sku
  | stopped index =>
      have same : attempts { config with
          threads := config.threads.modify index ({ · with stopped := true }) } = attempts config := by
        unfold attempts
        apply List.ext_getElem?
        intro position
        simp only [List.getElem?_map, List.getElem?_modify]
        cases config.threads[position]? with
        | none => simp
        | some thread => by_cases here : index = position <;> simp [here]
      refine ⟨?_, same ▸ left.charges, same ▸ left.stock⟩
      intro position thread found inside
      rw [List.getElem?_modify] at found
      cases old : config.threads[position]? with
      | none => simp [old] at found
      | some old' =>
          by_cases here : index = position
          · simp only [old, if_pos here, Option.map_eq_map, Option.map_some, Option.some.injEq] at found
            rw [← found]
            rfl
          · simp only [old, if_neg here, Option.map_eq_map, Option.map_some, Option.some.injEq] at found
            rw [← found]
            exact left.ended position old' old (by simpa using inside)
  | answered index choice thread call resume listed pending live =>
      have last : config.threads.length ≤ index + 1 := by
        by_contra inside
        have finished := left.ended index thread listed (by omega)
        simp [Orderly.ended, pending, live] at finished
      have same : ∀ (shared : World) (moved : Routine),
          (attempts { shared, threads := config.threads.set index moved }).dropLast =
            (attempts config).dropLast := by
        intro shared moved
        unfold attempts
        rw [List.map_set]
        exact dropLast_set_last _ (by simpa using last)
      refine ⟨?_, ?_, ?_⟩
      · intro position other found inside
        rcases System.getElem?_set_cases listed found with ⟨rfl, _⟩ | ⟨_, found⟩
        · simp only [List.length_set] at inside
          omega
        · exact left.ended position other found (by simpa using inside)
      · rw [same]
        exact left.charges
      · intro sku
        rw [same]
        exact left.stock sku

end Runs

/-- When every attempt starts clean, at most one charge is not refunded, and no
more is held than the order asks for. -/
theorem charged_once {platform : Platform} {world : World} {job : SagaContext} {config : Running}
    (reached : (orderly platform).Reaches
      (fun config move => (runsAgain job config move && startsClean job config move) = true)
      { shared := world } config) :
    (unrefunded (attempts config)).length ≤ 1 ∧
      ∀ sku, heldByAll (attempts config) sku ≤ quantityOf job.items sku := by
  have weaker : ∀ {config : Running}, (orderly platform).Reaches
      (fun config move => (runsAgain job config move && startsClean job config move) = true)
      { shared := world } config →
      (orderly platform).Reaches (fun config move => runsAgain job config move = true)
        { shared := world } config :=
    fun reached => reached.weaken fun config move legal => (Bool.and_eq_true_iff.mp legal).1
  have left : LeftNothing config := by
    refine reached.induct ?_ ?_
    · exact ⟨fun index thread found => (by cases found), rfl, fun sku => Int.le_refl _⟩
    · intro config move next earlier legal stepped left
      exact left.step (weaker earlier) legal stepped
  by_cases none : attempts config = []
  · rw [none]
    exact ⟨Nat.zero_le _, fun sku => Int.natCast_nonneg _⟩
  · have split := List.dropLast_concat_getLast none
    have latest := attempt_bounds (weaker reached) (List.getLast_mem none)
    rw [← split]
    refine ⟨(unrefunded_append left.charges).trans latest.1, fun sku => ?_⟩
    rw [heldByAll_append]
    have stock := left.stock sku
    have bound := latest.2 sku
    omega

/-- An attempt that stops before it has charged, and a second one that succeeds. -/
theorem charged_once_after_retry :
    (unrefunded (attempts ((orderly postgresJs).run { shared := smallShop 5 }
      (.start (.sagaJob (orderOf 0 5)) :: serve 0 6 ++ .stop 0 ::
        .start (.sagaJob (orderOf 0 5)) :: serve 1 40)))).length ≤ 1 :=
  have reached : (orderly postgresJs).Reaches
      (fun config move =>
        (runsAgain (orderOf 0 5) config move && startsClean (orderOf 0 5) config move) = true)
      { shared := smallShop 5 }
      ((orderly postgresJs).run { shared := smallShop 5 }
        (.start (.sagaJob (orderOf 0 5)) :: serve 0 6 ++ .stop 0 ::
          .start (.sagaJob (orderOf 0 5)) :: serve 1 40)) :=
    System.reaches_run (by decide +kernel)
  (charged_once reached).1

/-- The gateway approves a charge, the write that records it is rejected, and the
queue runs the job again. -/
theorem charges_twice : ¬ ChargedOnce postgresJs (smallShop 10) (orderOf 0 5) := by
  intro claimed
  have reached : (orderly postgresJs).Reaches
      (fun config move => runsAgain (orderOf 0 5) config move = true) { shared := smallShop 10 }
      ((orderly postgresJs).run { shared := smallShop 10 }
        (.start (.sagaJob (orderOf 0 5)) :: serve 0 19 ++ .advance 0 (.reject (.error "connection lost")) ::
          .start (.sagaJob (orderOf 0 5)) :: serve 1 40)) :=
    System.reaches_run (by decide +kernel)
  have bounded := (claimed _ reached).1
  revert bounded
  decide +kernel

end Orderly
