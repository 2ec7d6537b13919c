import Orderly.Fulfilment.Stock

/-!
# The net effect of a failed saga

A reservation may stop after any number of items, and so may the release that
follows it, because it goes along the whole list again.  The two cancel out
exactly when they have come equally far, and `GREATEST(0, …)` has cut nothing
off.
-/

namespace Orderly

open Process (Program System Move)

/-- A routine's own statements add up to nothing, for every SKU. -/
def NoNetEffect (log : CallLog) : Prop := ∀ sku, netAvailable log sku = 0 ∧ netReserved log sku = 0

/-- The status of the saga that a run has returned. -/
def returnedStatus (thread : Routine) : Option SagaStatus :=
  match thread.code with
  | .done (.saga row) => some row.status
  | _ => none

/-- In every run, a saga run that returns FAILED leaves the stock as if it had
not run. -/
def FailedSagasLeaveStock (platform : Platform) (world : World) : Prop :=
  ∀ config, (orderly platform).Reaches (fun _ _ => True) { shared := world } config →
    ∀ thread ∈ config.threads, ∀ context, thread.task = .startSaga context →
      (∀ item ∈ context.items, 0 < item.quantity) → returnedStatus thread = some .failed →
      NoNetEffect thread.log

/-- A release that took effect found its units in `quantity_reserved`. -/
def unclamped : CallEvent → Bool
  | ⟨.release sku quantity, .ok true, before, _⟩ => quantity ≤ before.db.quantityReserved sku
  | _ => true

/-! ## Prefixes of one list of items -/

/-- A longer prefix has more of some SKU. -/
theorem quantityOf_lt_of_prefix {first second : List InventoryReservation}
    (positive : ∀ item ∈ second, 0 < item.quantity) (initial : first <+: second)
    (shorter : first.length < second.length) : ∃ sku, quantityOf first sku < quantityOf second sku := by
  rcases initial with ⟨rest, rfl⟩
  cases rest with
  | nil => simp at shorter
  | cons item rest =>
      refine ⟨item.sku, ?_⟩
      have some := positive item (by simp)
      simp only [quantityOf_append, quantityOf_cons, if_true]
      omega

/-- Two prefixes of a list of positive quantities agree on every SKU exactly when
they are equally long. -/
theorem quantityOf_prefixes {first second items : List InventoryReservation}
    (positive : ∀ item ∈ items, 0 < item.quantity) (initial : first <+: items)
    (initial' : second <+: items) :
    (∀ sku, quantityOf first sku = quantityOf second sku) ↔ first.length = second.length := by
  constructor
  · intro same
    rcases Nat.lt_trichotomy first.length second.length with shorter | equal | longer
    · have nested := List.prefix_of_prefix_length_le initial initial' (Nat.le_of_lt shorter)
      rcases quantityOf_lt_of_prefix (fun item member => positive item (initial'.subset member)) nested
        shorter with ⟨sku, less⟩
      have equal := same sku
      omega
    · exact equal
    · have nested := List.prefix_of_prefix_length_le initial' initial (Nat.le_of_lt longer)
      rcases quantityOf_lt_of_prefix (fun item member => positive item (initial.subset member)) nested
        longer with ⟨sku, less⟩
      have equal := same sku
      omega
  · intro equal sku
    have nested := List.prefix_of_prefix_length_le initial initial' (Nat.le_of_eq equal)
    rw [nested.eq_of_length equal]

/-! ## Failed runs -/

section Failed

variable {platform : Platform} {log : CallLog}

/-- What a run that returns FAILED has done to the stock. -/
theorem failed_footprint {context : SagaContext} {row : SagaInstance} {done : Footprint}
    (fulfilled : Fulfilled platform context row done) (failed : row.status = .failed) :
    done.faults = [] ∧ done.reserved <+: InventoryService.sortItems platform context.items ∧
      done.released <+: InventoryService.sortItems platform context.items := by
  cases fulfilled with
  | completed new money same =>
      rw [same] at failed
      cases failed
  | failed new called answered compensated =>
      rcases compensated with ⟨_, steps, undone, undoing, written, rfl⟩
      cases undoing with
      | failing now _ called' answered' =>
          refine ⟨rfl, ?_, ?_⟩
          · change (_ ++ ([] ++ [])) <+: _
            rw [List.append_nil, List.append_nil]
            exact answered.trans called
          · exact answered'.trans called'
      | refunding => cases written
      | releasing => cases written
      | cancelling => cases written

theorem clampOf_eq_zero {event : CallEvent} :
    unclamped event = true ↔ ∀ sku, clampOf sku event = 0 := by
  rcases event with ⟨call, reply, before, after⟩
  cases call with
  | release other quantity =>
      rcases reply with error | (_ | _)
      · exact ⟨fun _ _ => rfl, fun _ => rfl⟩
      · exact ⟨fun _ _ => rfl, fun _ => rfl⟩
      · simp only [unclamped, clampOf, decide_eq_true_eq]
        constructor
        · intro enough sku
          split
          · next same =>
              subst same
              omega
          · rfl
        · intro zero
          have none := zero other
          rw [if_pos rfl] at none
          omega
  | _ => exact ⟨fun _ _ => rfl, fun _ => rfl⟩

theorem unclamped_iff :
    (∀ event ∈ log, unclamped event = true) ↔ ∀ sku, (log.map (clampOf sku)).sum = 0 := by
  simp only [List.sum_eq_zero_iff_forall_eq_nat, List.forall_mem_map, clampOf_eq_zero]
  exact ⟨fun none sku event member => none event member sku,
    fun none event member sku => none sku event member⟩

end Failed

/-- A run that returns FAILED has no net effect exactly when as many releases as
reservations have taken effect, and no release was clamped. -/
theorem failed_noNetEffect_iff {platform : Platform} {world : World} {config : Running}
    {thread : Routine} {context : SagaContext}
    (reached : (orderly platform).Reaches (fun _ _ => True) { shared := world } config)
    (member : thread ∈ config.threads) (task : thread.task = .startSaga context)
    (positive : ∀ item ∈ context.items, 0 < item.quantity)
    (failed : returnedStatus thread = some .failed) :
    NoNetEffect thread.log ↔
      (footprint thread.log).released.length = (footprint thread.log).reserved.length ∧
        ∀ event ∈ thread.log, unclamped event = true := by
  have keeping := reaches_keeping reached thread member
  have ended : ∃ row, thread.code = .done (.saga row) ∧ row.status = .failed := by
    unfold returnedStatus at failed
    split at failed
    · next row code => exact ⟨row, code, Option.some.inj failed⟩
    · cases failed
  rcases ended with ⟨row, returned, status⟩
  have ahead := keeping.ahead
  rw [task, returned] at ahead
  rcases failed_footprint ahead status with ⟨served, reserved, released⟩
  have sorted : ∀ item ∈ InventoryService.sortItems platform context.items, 0 < item.quantity :=
    fun item listed => positive item
      ((InventoryService.sortItems_perm platform context.items).mem_iff.mp listed)
  rw [unclamped_iff, ← quantityOf_prefixes sorted released reserved]
  have available := netAvailable_footprint keeping.admitted served
  have reservations := netReserved_footprint keeping.admitted served
  constructor
  · intro nothing
    have same : ∀ sku, quantityOf (footprint thread.log).released sku =
        quantityOf (footprint thread.log).reserved sku := by
      intro sku
      have zero := (nothing sku).1
      rw [available] at zero
      omega
    refine ⟨same, fun sku => ?_⟩
    have zero := (nothing sku).2
    rw [reservations, same sku] at zero
    omega
  · rintro ⟨same, unclamped⟩ sku
    have equal := same sku
    have clamp := unclamped sku
    rw [available, reservations]
    omega

/-- A payment declined after a complete reservation leaves nothing behind. -/
theorem failed_noNetEffect_declined :
    ∃ thread, ((orderly postgresJs).run { shared := smallShop 5 }
        (.start (.startSaga (orderOf 0 5)) :: serve 0 17 ++ .advance 0 .refuse :: serve 0 40)).threads[0]? =
          some thread ∧ NoNetEffect thread.log := by
  have ended : (((orderly postgresJs).run { shared := smallShop 5 }
      (.start (.startSaga (orderOf 0 5)) :: serve 0 17 ++ .advance 0 .refuse :: serve 0 40)).threads[0]?).any
        (fun thread => thread.task = .startSaga (orderOf 0 5) ∧ returnedStatus thread = some .failed ∧
          (footprint thread.log).released.length = (footprint thread.log).reserved.length ∧
          ∀ event ∈ thread.log, unclamped event = true) = true := by
    decide +kernel
  rcases Option.any_eq_true _ _ |>.mp ended with ⟨thread, listed, holds⟩
  rcases of_decide_eq_true holds with ⟨task, failed, condition⟩
  exact ⟨thread, listed, (failed_noNetEffect_iff (System.run_reaches _ _) (List.mem_of_getElem? listed) task
    (by decide) failed).mpr condition⟩

/-- Nothing can be reserved, and the compensation still adds five units. -/
theorem failed_sagas_move_stock : ¬ FailedSagasLeaveStock postgresJs (smallShop 1) := by
  intro claimed
  have ended : (((orderly postgresJs).run { shared := smallShop 1 }
      (.start (.startSaga (orderOf 0 5)) :: serve 0 40)).threads[0]?).any
        (fun thread => thread.task = .startSaga (orderOf 0 5) ∧ returnedStatus thread = some .failed ∧
          netAvailable thread.log "X" = 5) = true := by
    decide +kernel
  rcases Option.any_eq_true _ _ |>.mp ended with ⟨thread, listed, holds⟩
  rcases of_decide_eq_true holds with ⟨task, failed, five⟩
  have nothing := claimed _ (System.run_reaches _ _) thread (List.mem_of_getElem? listed) _ task
    (by decide) failed "X"
  rw [five] at nothing
  exact absurd nothing.1 (by decide)

end Orderly
