import Orderly.Inventory.Locks
import Orderly.Process.Waiting
import Mathlib.Data.String.Basic

/-!
# The order of the SKU locks

Both methods of `InventoryService` go through their items in the order of
`localeCompare`, and take the locks on the way.  A call that is about to take a
lock therefore holds only locks of SKUs that come no later, and no two calls
can wait for each other, even if `acquire` waited for a lock to become free.
-/

namespace Orderly

open Process (Config Program System Thread WaitCycle)

/-- `localeCompare` is a total order on strings that takes only equal strings
for equal. -/
structure LocaleOrder (platform : Platform) : Prop where
  zero : ∀ a b, platform.localeCompare a b = 0 ↔ a = b
  flip : ∀ a b, platform.localeCompare a b < 0 ↔ 0 < platform.localeCompare b a
  trans : ∀ a b c, platform.localeCompare a b ≤ 0 → platform.localeCompare b c ≤ 0 → platform.localeCompare a c ≤ 0

/-! ## Calls of the service -/

inductive InventoryTask where
  | reserveInventory (items : List InventoryReservation)
  | releaseInventory (items : List InventoryReservation)

def InventoryTask.program (platform : Platform) : InventoryTask → Service Bool
  | reserveInventory items => InventoryService.reserveInventory platform items
  | releaseInventory items => InventoryService.releaseInventory platform items

/-- Any number of calls, on one state. -/
def inventoryCalls (platform : Platform) : System ports JsError World InventoryTask Choice Bool where
  program := InventoryTask.program platform
  perform := World.perform platform

abbrev InventoryCalls := Config ports JsError World InventoryTask Bool

namespace InventoryCalls

/-- The call holds the lock of a SKU. -/
def Holds (config : InventoryCalls) (index : Nat) (sku : String) : Prop :=
  ∃ thread, config.threads[index]? = some thread ∧ LockHeld thread.log ("inventory:" ++ sku)

/-- The call is about to acquire the lock of a SKU. -/
def Acquires (config : InventoryCalls) (index : Nat) (sku : String) : Prop :=
  ∃ (thread : Thread ports JsError World InventoryTask Bool) (ttlMs : Nat) (resume : _),
    config.threads[index]? = some thread ∧
      thread.code = .await (.acquire ("inventory:" ++ sku) ttlMs) resume

/-- No two calls hold the lock of a SKU. -/
def ExclusiveLocks (config : InventoryCalls) : Prop :=
  ∀ index other sku, config.Holds index sku → config.Holds other sku → index = other

end InventoryCalls

/-! ## The order within one call -/

variable {platform : Platform}

theorem LocaleOrder.refl (order : LocaleOrder platform) (sku : String) : platform.localeCompare sku sku ≤ 0 :=
  le_of_eq ((order.zero sku sku).mpr rfl)

theorem LocaleOrder.antisymm (order : LocaleOrder platform) (a b : String) (first : platform.localeCompare a b ≤ 0)
    (second : platform.localeCompare b a ≤ 0) : a = b := by
  rcases lt_or_eq_of_le first with less | same
  · exact absurd ((order.flip a b).mp less) (not_lt.mpr second)
  · exact (order.zero a b).mp same

/-- The items are gone through in order. -/
theorem LocaleOrder.sorted (order : LocaleOrder platform) (items : List InventoryReservation) :
    (InventoryService.sortItems platform items).Pairwise fun a b => platform.localeCompare a.sku b.sku ≤ 0 := by
  have total : Std.Total fun a b : InventoryReservation => platform.localeCompare a.sku b.sku ≤ 0 := by
    constructor
    intro a b
    rcases lt_trichotomy (platform.localeCompare a.sku b.sku) 0 with less | same | greater
    · exact Or.inl less.le
    · exact Or.inl same.le
    · exact Or.inr ((order.flip b.sku a.sku).mpr greater).le
  have trans : IsTrans InventoryReservation fun a b => platform.localeCompare a.sku b.sku ≤ 0 :=
    ⟨fun a b c => order.trans a.sku b.sku c.sku⟩
  exact List.pairwise_insertionSort _ items

/-- A lock is taken only when no later one is held. -/
def InOrder (platform : Platform) (log : CallLog) : Call → Prop
  | .acquire resourceId _ => ∀ sku, resourceId = "inventory:" ++ sku →
      ∀ held, LockHeld log ("inventory:" ++ held) → platform.localeCompare held sku ≤ 0
  | _ => True

/-- The locks obtained so far are of SKUs no later than those to come. -/
def Onward (platform : Platform) (log : CallLog) (items : List InventoryReservation) : Prop :=
  ∀ sku release, ("inventory:" ++ sku, release) ∈ obtained log →
    ∀ item ∈ items, platform.localeCompare sku item.sku ≤ 0

namespace Onward

variable {log : CallLog} {item : InventoryReservation} {rest : List InventoryReservation}

/-- The next lock comes no earlier than those obtained. -/
theorem inOrder (ahead : Onward platform log (item :: rest)) (ttlMs : Nat) :
    InOrder platform log (.acquire ("inventory:" ++ item.sku) ttlMs) := by
  rintro sku named held ⟨release, member, _⟩
  rw [← (String.append_right_inj _).mp named]
  exact ahead held release member item List.mem_cons_self

theorem tail (ahead : Onward platform log (item :: rest)) : Onward platform log rest :=
  fun sku release member other later => ahead sku release member other (List.mem_cons_of_mem _ later)

/-- A call that brings no lock. -/
theorem aside (ahead : Onward platform log rest) {event : CallEvent} (nothing : acquisition event = []) :
    Onward platform (event :: log) rest := by
  intro sku release member
  rw [obtained, nothing, List.append_nil] at member
  exact ahead sku release member

/-- The lock of the item before the remaining ones. -/
theorem granted (ahead : Onward platform log rest) (first : ∀ other ∈ rest, platform.localeCompare item.sku other.sku ≤ 0)
    (ttlMs : Nat) (release : LockRelease) (before after : World) :
    Onward platform (⟨.acquire ("inventory:" ++ item.sku) ttlMs, .ok (some release), before, after⟩ :: log) rest := by
  intro sku granted member
  rcases List.mem_append.mp member with earlier | new
  · exact ahead sku granted earlier
  · have named := congrArg Prod.fst (List.mem_singleton.mp new)
    rw [(String.append_right_inj _).mp named]
    exact first

end Onward

/-- The loop of `reserveInventory` takes its locks in order. -/
theorem reserveLoop_inOrder {items : List InventoryReservation} {releases : List LockRelease} {log : CallLog}
    (sorted : items.Pairwise fun a b => platform.localeCompare a.sku b.sku ≤ 0) (ahead : Onward platform log items) :
    (InventoryService.reserveLoop items releases).Meets AnyAnswer (InOrder platform) (fun _ _ => True)
      (fun _ _ => True) log := by
  induction items generalizing releases log with
  | nil => trivial
  | cons item rest inductionHypothesis =>
      rcases List.pairwise_cons.mp sorted with ⟨first, later⟩
      refine Program.Meets.attempt_call (ahead.inOrder _) ?_
      intro reply before after _
      rcases reply with error | (_ | release)
      · trivial
      · trivial
      · have locked := ahead.tail.granted first InventoryService.lockTtlMs release before after
        refine Program.Meets.attempt_call trivial ?_
        intro reply start found _
        rcases reply with error | inventory
        · trivial
        · change Program.Meets _ _ _ _ (if _ then _ else _) _
          split
          · trivial
          · refine Program.Meets.attempt_call trivial ?_
            intro reply _ _ _
            rcases reply with error | (_ | _)
            · trivial
            · trivial
            · exact inductionHypothesis later ((locked.aside rfl).aside rfl)

/-- The loop of `releaseInventory`. -/
theorem releaseLoop_inOrder {items : List InventoryReservation} {releases : List LockRelease} {log : CallLog}
    (sorted : items.Pairwise fun a b => platform.localeCompare a.sku b.sku ≤ 0) (ahead : Onward platform log items) :
    (InventoryService.releaseLoop items releases).Meets AnyAnswer (InOrder platform) (fun _ _ => True)
      (fun _ _ => True) log := by
  induction items generalizing releases log with
  | nil => trivial
  | cons item rest inductionHypothesis =>
      rcases List.pairwise_cons.mp sorted with ⟨first, later⟩
      refine Program.Meets.attempt_call (ahead.inOrder _) ?_
      intro reply before after _
      rcases reply with error | (_ | release)
      · trivial
      · trivial
      · have locked := ahead.tail.granted first InventoryService.lockTtlMs release before after
        refine Program.Meets.attempt_call trivial ?_
        intro reply _ _ _
        rcases reply with error | (_ | _)
        · trivial
        · trivial
        · exact inductionHypothesis later (locked.aside rfl)

/-- The `finally` block takes no lock. -/
theorem allSettled_inOrder (releases : List LockRelease) (log : CallLog) :
    (LockManager.allSettled releases).Meets AnyAnswer (InOrder platform) (fun _ _ => True) (fun _ _ => True) log := by
  induction releases generalizing log with
  | nil => trivial
  | cons release rest inductionHypothesis =>
      refine Program.Meets.attempt_call trivial ?_
      intro reply before after _
      exact inductionHypothesis _

/-- A loop with its `finally` block. -/
theorem finally_inOrder {loop : Service (List LockRelease × Except JsError Bool)}
    (body : loop.Meets AnyAnswer (InOrder platform) (fun _ _ => True) (fun _ _ => True) []) :
    (do
      let (releases, outcome) ← loop
      LockManager.allSettled releases
      Program.ofExcept outcome : Service Bool).Meets AnyAnswer (InOrder platform) (fun _ _ => True)
        (fun _ _ => True) [] := by
  refine Program.Meets.bind body ?_
  rintro ⟨releases, outcome⟩ log _
  refine Program.Meets.bind (allSettled_inOrder releases log) ?_
  intro _ log _
  exact Program.Meets.ofExcept (fun _ _ => trivial) (fun _ _ => trivial)

/-- Every call takes its locks in order. -/
theorem inventoryTask_inOrder (order : LocaleOrder platform) (task : InventoryTask) :
    (task.program platform).Meets AnyAnswer (InOrder platform) (fun _ _ => True) (fun _ _ => True) [] := by
  have start : ∀ items, Onward platform [] items := fun items sku release member => by cases member
  cases task with
  | reserveInventory items => exact finally_inOrder (reserveLoop_inOrder (order.sorted items) (start _))
  | releaseInventory items => exact finally_inOrder (releaseLoop_inOrder (order.sorted items) (start _))

/-! ## All calls -/

/-- A call that is about to take a lock holds no later one. -/
theorem acquires_in_order (order : LocaleOrder platform) {world : World} {config : InventoryCalls}
    {Legal : InventoryCalls → Process.Move InventoryTask Choice → Prop}
    (reached : (inventoryCalls platform).Reaches Legal { shared := world } config) {index : Nat} {held asked : String}
    (holds : config.Holds index held) (acquires : config.Acquires index asked) :
    platform.localeCompare held asked ≤ 0 := by
  rcases holds with ⟨thread, listed, lock⟩
  rcases acquires with ⟨_, ttlMs, resume, same, pending⟩
  cases listed.symm.trans same
  have keeps : ∀ thread ∈ config.threads, (inventoryCalls platform).Keeps (fun _ => InOrder platform)
      (fun _ _ _ => True) (fun _ _ _ => True) thread := by
    refine reached.contract ?_ ?_
    · intro thread member
      cases member
    · intro config task _
      exact (inventoryTask_inOrder order task).narrow fun _ _ _ => trivial
  have ahead := (keeps thread (List.mem_of_getElem? listed)).ahead
  rw [pending] at ahead
  exact ahead.1 asked rfl held lock

/-- As long as no two calls hold one lock, no calls wait for each other around a
cycle. -/
theorem no_lock_cycle (order : LocaleOrder platform) {world : World} {config : InventoryCalls}
    (reached : (inventoryCalls platform).Reaches (fun _ _ => True) { shared := world } config)
    (exclusive : config.ExclusiveLocks) {length : Nat} (call : Fin (length + 2) → Nat) :
    ¬ WaitCycle config.Holds config.Acquires call := by
  refine Process.no_waitCycle order.refl order.trans order.antisymm ?_ exclusive call
  intro index held asked holds acquires
  exact acquires_in_order order reached holds acquires

theorem postgresJs_order : LocaleOrder postgresJs := by
  have cases : ∀ a b : String, postgresJs.localeCompare a b = if a < b then -1 else if a = b then 0 else 1 :=
    fun _ _ => rfl
  have atMost : ∀ a b : String, postgresJs.localeCompare a b ≤ 0 ↔ a ≤ b := by
    intro a b
    rw [cases]
    rcases lt_trichotomy a b with less | same | greater
    · simp [less, less.le]
    · simp [same]
    · simp [greater.not_gt, greater.ne', greater]
  constructor
  · intro a b
    rw [cases]
    rcases lt_trichotomy a b with less | same | greater
    · simp [less, less.ne]
    · simp [same]
    · simp [greater.not_gt, greater.ne']
  · intro a b
    rw [cases a b, cases b a]
    rcases lt_trichotomy a b with less | same | greater
    · simp [less, less.not_gt, less.ne']
    · simp [same]
    · simp [greater, greater.not_gt, greater.ne']
  · intro a b c
    rw [atMost, atMost, atMost]
    exact le_trans

/-- Two calls for one SKU, the first of which has its lock. -/
def contending : InventoryCalls :=
  (inventoryCalls postgresJs).run { shared := smallShop 5 }
    [.start (.reserveInventory [⟨"X", 1⟩]), .start (.releaseInventory [⟨"X", 1⟩]), .advance 0 .serve]

theorem no_lock_cycle_contending :
    ¬ WaitCycle contending.Holds contending.Acquires (fun position : Fin (0 + 2) => position.val) := by
  refine no_lock_cycle postgresJs_order (System.run_reaches _ _) ?_ _
  have first : ∀ index sku, contending.Holds index sku → index = 0 := by
    rintro index sku ⟨thread, listed, release, member, _⟩
    match index with
    | 0 => rfl
    | 1 =>
        cases listed
        cases member
    | index + 2 => cases listed
  intro index other sku holds holds'
  rw [first index sku holds, first other sku holds']

end Orderly
