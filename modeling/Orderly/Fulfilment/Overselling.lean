import Orderly.Fulfilment.Stock
import Orderly.Fulfilment.SagaRows
import Orderly.Store.Pool

/-!
# Zero overselling

`compensate` releases every item of the context, also when `reserveInventory`
has reserved only some of them or none.  Such a release adds units that nobody
has given up, and later orders can sell them.

As long as every release finds the units among those its own run has taken, the
stock of a SKU behaves as a pool whose holders are the routines: each statement
is a take, a return or nothing.  A COMPLETED saga still holds its order's
quantity, so the completed orders fit into the stock the SKU started with.
-/

namespace Orderly

open Process (Program System Move)
open Store (Pool)

/-- The quantity of a SKU in a run's order, once the persisted status of its
saga is COMPLETED. -/
def soldBy (world : World) (thread : Routine) (sku : String) : Nat :=
  match thread.task, createdSaga thread.log with
  | .startSaga context, some saga =>
      if sagaStatus world saga.id = some .completed then quantityOf context.items sku else 0
  | _, _ => 0

/-- The quantity of a SKU over all orders whose saga is COMPLETED. -/
def sold (config : Running) (sku : String) : Nat :=
  (config.threads.map fun thread => soldBy config.shared thread sku).sum

/-- Saga runs of any contexts with positive quantities, scheduled in any way. -/
def startsOrders (_ : Running) : Move Task Choice → Bool
  | .start (.startSaga context) => context.items.all fun item => 0 < item.quantity
  | .start _ => false
  | _ => true

/-- No overselling from a given seed, in any run of `startSaga`. -/
def ZeroOverselling (platform : Platform) (world : World) : Prop :=
  ∀ config, (orderly platform).Reaches (fun config move => startsOrders config move = true)
      { shared := world } config →
    ∀ sku, sold config sku ≤ world.db.quantityAvailable sku

/-- A release about to be answered gives back no more than its run has taken. -/
def releasesOwnUnits (config : Running) : Move Task Choice → Bool
  | .advance index _ =>
      match config.threads[index]? with
      | some thread =>
          match thread.code with
          | .await (.release sku quantity) _ => quantity ≤ held thread.log sku
          | _ => true
      | none => true
  | _ => true

/-! ## The stock of a SKU is a pool -/

section Refinement

variable {platform : Platform} {world : World} {config : Running}

/-- The account of the routines and that of a pool with one holder each. -/
structure Mirrors (config : Running) (sku : String) {capacity : Nat} (pool : Pool capacity) : Prop where
  free : pool.free = config.shared.db.quantityAvailable sku
  holders : pool.held.length = config.threads.length
  accounts : ∀ (index : Nat) (thread : Routine), config.threads[index]? = some thread →
    ∃ own, pool.held[index]? = some own ∧ (own : Int) = held thread.log sku

namespace Mirrors

variable {sku : String} {capacity : Nat} {pool : Pool capacity}

/-- Starting or stopping a routine moves no units. -/
theorem of_logs (mirrors : Mirrors config sku pool) {move : Move Task Choice} {next : Running}
    (stepped : (orderly platform).Stepped config move next)
    (other : ∀ index choice, move ≠ .advance index choice) :
    ∃ pool' : Pool capacity, Mirrors next sku pool' := by
  cases stepped with
  | idle => exact ⟨pool, mirrors⟩
  | answered index choice => exact absurd rfl (other index choice)
  | started task =>
      refine ⟨pool.join, mirrors.free, by simp [Pool.join, mirrors.holders], ?_⟩
      intro index thread found
      rcases Nat.lt_or_ge index config.threads.length with inside | outside
      · rw [List.getElem?_append_left inside] at found
        rcases mirrors.accounts index thread found with ⟨own, known, same⟩
        exact ⟨own, by simpa [Pool.join, List.getElem?_append_left, mirrors.holders, inside] using known, same⟩
      · rw [List.getElem?_append_right outside] at found
        have last : index = config.threads.length := by
          have bound := (List.getElem?_eq_some_iff.mp found).1
          simp only [List.length_singleton] at bound
          omega
        rw [List.mem_singleton.mp (List.mem_of_getElem? found)]
        exact ⟨0, by simp [Pool.join, last, ← mirrors.holders], rfl⟩
  | stopped index =>
      refine ⟨pool, mirrors.free, by simpa using mirrors.holders, ?_⟩
      intro position thread found
      rw [List.getElem?_modify] at found
      cases old : config.threads[position]? with
      | none => simp [old] at found
      | some old' =>
          rcases mirrors.accounts position old' old with ⟨own, known, same⟩
          refine ⟨own, known, same.trans ?_⟩
          by_cases here : index = position
          · simp only [old, if_pos here, Option.map_eq_map, Option.map_some, Option.some.injEq] at found
            rw [← found]
          · simp only [old, if_neg here, Option.map_eq_map, Option.map_some, Option.some.injEq] at found
            rw [← found]

/-- An answered call is a take, a return, or leaves the pool alone. -/
theorem answered (mirrors : Mirrors config sku pool) {index : Nat} {thread : Routine}
    {event : CallEvent} {rest : Service Outcome} (listed : config.threads[index]? = some thread)
    (start : event.before = config.shared) (admitted : (orderly platform).Admits [] event)
    (owned : ∀ quantity, event.call = .release sku quantity → quantity ≤ held thread.log sku) :
    ∃ pool' : Pool capacity, Mirrors
      { shared := event.after, threads := config.threads.set index (thread.answered event rest) }
      sku pool' := by
  rcases config with ⟨shared, threads⟩
  subst start
  rcases mirrors.accounts index thread listed with ⟨own, known, same⟩
  have grown : held (event :: thread.log) sku =
      held thread.log sku - changeOf Database.quantityAvailable sku event := by
    simp only [held, netAvailable_cons]
    omega
  -- the moved routine's account decides; the others keep theirs
  have settle : ∀ (pool' : Pool capacity) (own' : Nat), pool'.held = pool.held.set index own' →
      pool'.free = event.after.db.quantityAvailable sku →
      (own' : Int) = held thread.log sku - changeOf Database.quantityAvailable sku event →
      ∃ pool' : Pool capacity, Mirrors
        { shared := event.after, threads := threads.set index (thread.answered event rest) }
        sku pool' := by
    intro pool' own' moved free same'
    refine ⟨pool', free, by simpa [moved] using mirrors.holders, ?_⟩
    intro position other found
    rcases System.getElem?_set_cases listed found with ⟨rfl, rfl⟩ | ⟨different, found⟩
    · refine ⟨own', ?_, same'.trans grown.symm⟩
      rw [moved, List.getElem?_set_self (List.getElem?_eq_some_iff.mp known).1]
    · rcases mirrors.accounts position other found with ⟨own, known, same⟩
      refine ⟨own, ?_, same⟩
      rw [moved, List.getElem?_set_ne (Ne.symm different)]
      exact known
  have kept : event.after.db.quantityAvailable sku = event.before.db.quantityAvailable sku →
      changeOf Database.quantityAvailable sku event = 0 → ∃ pool' : Pool capacity, Mirrors
        { shared := event.after, threads := threads.set index (thread.answered event rest) }
        sku pool' := by
    intro stock nothing
    refine settle pool own ?_ (mirrors.free.trans stock.symm) (by rw [nothing]; omega)
    rcases List.getElem?_eq_some_iff.mp known with ⟨bound, here⟩
    rw [← here, List.set_getElem_self]
  rcases event with ⟨call, reply, before, after⟩
  rcases admits_iff.mp admitted with ⟨choice, performed⟩
  by_cases inventory : call.area = .inventory
  · have change : changeOf Database.quantityAvailable sku ⟨call, reply, before, after⟩ =
        (after.db.quantityAvailable sku : Int) - before.db.quantityAvailable sku := by
      simp [changeOf, inventory]
    have free : pool.free = before.db.quantityAvailable sku := mirrors.free
    cases call with
    | reserve other quantity =>
        rcases World.reserve_answered performed with ⟨still, _⟩ | ⟨_, enough, moved⟩
        · exact kept (by rw [still]) (by rw [change, still]; omega)
        · have available := (moved sku).1
          by_cases named : sku = other
          · subst named
            rw [if_pos rfl] at available
            refine settle (pool.take quantity known (by omega)) (own + quantity) rfl ?_ ?_
            · change pool.free - quantity = after.db.quantityAvailable sku
              omega
            · rw [change]
              omega
          · rw [if_neg named] at available
            exact kept available (by rw [change]; omega)
    | release other quantity =>
        rcases World.release_answered performed with ⟨still, _⟩ | ⟨_, moved⟩
        · exact kept (by rw [still]) (by rw [change, still]; omega)
        · have available := (moved sku).1
          by_cases named : sku = other
          · subst named
            rw [if_pos rfl] at available
            have backed := owned quantity rfl
            refine settle (pool.giveBack quantity known (by omega)) (own - quantity) rfl ?_ ?_
            · change pool.free + quantity = after.db.quantityAvailable sku
              omega
            · rw [change]
              omega
          · rw [if_neg named] at available
            exact kept available (by rw [change]; omega)
    | _ => cases inventory
  · have still := (World.perform_frame performed).inventory inventory
    refine kept ?_ (by simp [changeOf, inventory])
    change after.db.quantityAvailable sku = before.db.quantityAvailable sku
    unfold Database.quantityAvailable
    rw [still]

end Mirrors

/-- Runs that release only their own units refine a pool of the seeded size. -/
theorem stock_refines_pool
    (reached : (orderly platform).Reaches
      (fun config move => (startsOrders config move && releasesOwnUnits config move) = true)
      { shared := world } config) (sku : String) :
    ∃ pool : Pool (world.db.quantityAvailable sku), Mirrors config sku pool := by
  refine reached.induct ?_ ?_
  · refine ⟨Pool.full _, rfl, rfl, ?_⟩
    intro index thread found
    cases found
  · rintro config move next earlier legal stepped ⟨pool, mirrors⟩
    cases move with
    | start task => exact mirrors.of_logs stepped fun _ _ same => by cases same
    | stop index => exact mirrors.of_logs stepped fun _ _ same => by cases same
    | advance index choice =>
        cases stepped with
        | idle => exact ⟨pool, mirrors⟩
        | answered index choice thread call resume listed pending live =>
            refine mirrors.answered listed rfl ⟨choice, rfl⟩ ?_
            rintro quantity named
            cases named
            have guarded := (Bool.and_eq_true_iff.mp legal).2
            simpa [releasesOwnUnits, listed, pending] using guarded

/-! ## Completed orders are backed -/

/-- A run that has sent its COMPLETED row holds its order's quantity. -/
theorem completed_holds {context : SagaContext} {log : CallLog} {row : SagaInstance}
    (fulfilling : Fulfilling platform context (footprint log))
    (admitted : ∀ event ∈ log, (orderly platform).Admits [] event)
    (sent : row ∈ (footprint log).updateCalls) (completed : row.status = .completed) (sku : String) :
    held log sku = quantityOf context.items sku := by
  have finished : (footprint log).faults = [] ∧ (footprint log).released = [] ∧
      (footprint log).reserved = InventoryService.sortItems platform context.items := by
    generalize footprint log = done at fulfilling sent
    cases fulfilling with
    | completing => exact ⟨rfl, rfl, rfl⟩
    | compensating new called answered compensating =>
        exfalso
        rcases List.mem_append.mp sent with first | later
        · cases List.mem_singleton.mp first
          cases completed
        · rcases (compensating_updates compensating).2 row later with ⟨_, status | status⟩ <;>
            rw [status] at completed <;> cases completed
    | idle => cases sent
    | creating => cases sent
    | created => cases sent
    | starting => cases List.mem_singleton.mp sent; cases completed
    | reserving => cases List.mem_singleton.mp sent; cases completed
    | charging => cases List.mem_singleton.mp sent; cases completed
    | charged => cases List.mem_singleton.mp sent; cases completed
    | confirming => cases List.mem_singleton.mp sent; cases completed
  rcases finished with ⟨served, released, reserved⟩
  rw [held, netAvailable_footprint admitted served, released, reserved, quantityOf_sortItems]
  simp

/-- Completed orders are sold from units their runs still hold. -/
theorem soldBy_le (reached : (orderly platform).Reaches
      (fun config move => (startsOrders config move && releasesOwnUnits config move) = true)
      { shared := world } config) {index : Nat} {thread : Routine}
    (listed : config.threads[index]? = some thread) {sku : String} {own : Nat}
    (account : (own : Int) = held thread.log sku) : soldBy config.shared thread sku ≤ own := by
  have keeping := reaches_keeping reached thread (List.mem_of_getElem? listed)
  unfold soldBy
  split
  · next context saga task created =>
      split
      · next status =>
          rcases (reaches_owned reached).completed index thread saga listed created status with
            ⟨row, sent, completed⟩
          have conduct := keeping.conduct
          rw [task] at conduct
          have backed := completed_holds conduct keeping.admitted sent completed sku
          omega
      · exact Nat.zero_le _
  · exact Nat.zero_le _

end Refinement

/-- No overselling in any run in which every release finds the units among those
its own saga has taken. -/
theorem sold_le_seeded {platform : Platform} {world : World} {config : Running}
    (reached : (orderly platform).Reaches
      (fun config move => (startsOrders config move && releasesOwnUnits config move) = true)
      { shared := world } config) (sku : String) :
    sold config sku ≤ world.db.quantityAvailable sku := by
  rcases stock_refines_pool reached sku with ⟨pool, mirrors⟩
  apply pool.owed_le
  intro index units found
  rw [List.getElem?_map] at found
  rcases Option.map_eq_some_iff.mp found with ⟨thread, listed, rfl⟩
  rcases mirrors.accounts index thread listed with ⟨own, known, account⟩
  exact ⟨own, known, soldBy_le reached listed account⟩

/-- The payment of the first order is declined, so its unit is given back, and the second
order is sold. -/
def declinedThenSold : Running :=
  (orderly postgresJs).run { shared := smallShop 1 }
    (.start (.startSaga (orderOf 0 1)) :: (serve 0 17 ++ .advance 0 .refuse :: serve 0 40) ++
      .start (.startSaga (orderOf 1 1)) :: serve 1 40)

/-- The bound applied to a run that gives a unit back and sells it again. -/
theorem sold_le_seeded_released : declinedThenSold.threads.map (fun thread => (footprint thread.log).released) =
      [[⟨"X", 1⟩], []] ∧ sold declinedThenSold "X" = 1 ∧ sold declinedThenSold "X" ≤ 1 :=
  ⟨by decide +kernel, by decide +kernel, sold_le_seeded (System.reaches_run (by decide +kernel)) "X"⟩

/-- One unit is seeded.  An order of five fails, and its compensation puts five
units on the shelf; the next order of five is sold from them. -/
theorem oversells : ¬ ZeroOverselling postgresJs (smallShop 1) := by
  intro claimed
  have reached : (orderly postgresJs).Reaches (fun config move => startsOrders config move = true)
      { shared := smallShop 1 }
      ((orderly postgresJs).run { shared := smallShop 1 }
        (.start (.startSaga (orderOf 0 5)) :: serve 0 40 ++
          .start (.startSaga (orderOf 1 5)) :: serve 1 40)) :=
    System.reaches_run (by decide +kernel)
  have bounded := claimed _ reached "X"
  revert bounded
  decide +kernel

end Orderly
