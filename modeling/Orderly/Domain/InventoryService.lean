import Orderly.Domain.Ports

/-!
# InventoryService

Reservation and release of an order's items under per-SKU locks.  Both methods
sort the items, then go through them one by one inside `try { … } finally`,
where the `finally` block calls every release function pushed so far.  The loop
of the `try` block is written as a recursion that hands its outcome, returned
or thrown, to the `finally` block together with those release functions.
-/

namespace Orderly
namespace InventoryService

open Process (Program)

/-- `[...items].sort((a, b) => a.sku.localeCompare(b.sku))`, a stable sort. -/
def sortItems (platform : Platform) (items : List InventoryReservation) :
    List InventoryReservation :=
  items.insertionSort fun a b => platform.localeCompare a.sku b.sku ≤ 0

/-- Ten seconds, the TTL both methods ask for. -/
def lockTtlMs : Nat := 10000

/-- `!inventory || inventory.available < item.quantity`. -/
def insufficient (inventory : Option InventoryRecord) (item : InventoryReservation) : Bool :=
  match inventory with
  | none => true
  | some record => record.available < item.quantity

/-- The `try` block of `reserveInventory`. -/
def reserveLoop : List InventoryReservation → List LockRelease →
    Service (List LockRelease × Except JsError Bool)
  | [], releases => return (releases, .ok true)
  | item :: rest, releases => do
      match ← (LockManager.acquire ("inventory:" ++ item.sku) lockTtlMs).attempt with
      | .error error => return (releases, .error error)
      | .ok none => return (releases, .ok false)
      | .ok (some release) =>
          let releases := releases ++ [release]
          match ← (InventoryRepository.findBySku item.sku).attempt with
          | .error error => return (releases, .error error)
          | .ok inventory =>
              if insufficient inventory item then return (releases, .ok false)
              else match ← (InventoryRepository.reserve item.sku item.quantity).attempt with
                | .error error => return (releases, .error error)
                | .ok false => return (releases, .ok false)
                | .ok true => reserveLoop rest releases

/-- Reserve every item; `false` on missing stock or lock contention. -/
def reserveInventory (platform : Platform) (items : List InventoryReservation) : Service Bool := do
  let (releases, outcome) ← reserveLoop (sortItems platform items) []
  LockManager.allSettled releases
  Program.ofExcept outcome

/-- The `try` block of `releaseInventory`. -/
def releaseLoop : List InventoryReservation → List LockRelease →
    Service (List LockRelease × Except JsError Bool)
  | [], releases => return (releases, .ok true)
  | item :: rest, releases => do
      match ← (LockManager.acquire ("inventory:" ++ item.sku) lockTtlMs).attempt with
      | .error error => return (releases, .error error)
      | .ok none => return (releases, .ok false)
      | .ok (some release) =>
          let releases := releases ++ [release]
          match ← (InventoryRepository.release item.sku item.quantity).attempt with
          | .error error => return (releases, .error error)
          | .ok false => return (releases, .ok false)
          | .ok true => releaseLoop rest releases

/-- Give back every item (saga compensation). -/
def releaseInventory (platform : Platform) (items : List InventoryReservation) : Service Bool := do
  let (releases, outcome) ← releaseLoop (sortItems platform items) []
  LockManager.allSettled releases
  Program.ofExcept outcome

theorem sortItems_perm (platform : Platform) (items : List InventoryReservation) :
    (sortItems platform items).Perm items :=
  List.perm_insertionSort _ items

end InventoryService
end Orderly
