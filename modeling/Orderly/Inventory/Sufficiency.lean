import Orderly.Inventory.Reservation

/-!
# Repeated SKUs

`reserveInventory` takes one lock per line and keeps it to the end of the call.
A lock manager answers `null` for a resource that is already held, also when
the call that asks is the one that holds it.  An order that names a SKU in two
lines is therefore refused, whatever is in stock.
-/

namespace Orderly

open Process (Program System)

/-- Every SKU of the lines has a row with enough units for all lines that name it. -/
def Suffices (db : Database) (items : List InventoryReservation) : Prop :=
  ∀ item ∈ items, ∃ row, db.inventory.lookup item.sku = some row ∧ quantityOf items item.sku ≤ row.available

instance (log : CallLog) (resourceId : String) : Decidable (LockHeld log resourceId) :=
  decidable_of_iff (∃ pair ∈ obtained log, pair.1 = resourceId ∧ pair.2 ∉ unlocked log) <| by
    constructor
    · rintro ⟨⟨named, release⟩, member, rfl, kept⟩
      exact ⟨release, member, kept⟩
    · rintro ⟨release, member, kept⟩
      exact ⟨_, member, rfl, kept⟩

/-- The contract of `LockManager.acquire` for a call that runs alone: a free
resource is granted, and a held one is refused. -/
def lockContract (log : CallLog) : Call → Choice
  | .acquire resourceId _ => if LockHeld log resourceId then .refuse else .serve
  | _ => .serve

/-- A call of `reserveInventory` that nobody competes with. -/
def uncontended (platform : Platform) (world : World) (items : List InventoryReservation) :
    Except JsError Bool × World × CallLog :=
  (orderly platform).play lockContract (InventoryService.reserveInventory platform items) world []

/-! ## The loop -/

/-- A line's update leaves the rows of other SKUs alone. -/
theorem takes_other {db after : Database} {item : InventoryReservation} (taken : takes db item = some after)
    {sku : String} (other : sku ≠ item.sku) : after.inventory.lookup sku = db.inventory.lookup sku := by
  unfold takes at taken
  split at taken
  · next result =>
      cases taken
      rcases (Database.reserve_ok result).2 with ⟨impossible, _⟩ | ⟨_, row, found, enough, update⟩
      · cases impossible
      · rw [update, Store.Table.lookup_update, if_neg other]
  · cases taken

/-- The lines whose lock the call already holds. -/
structure Holding (done : List String) (log : CallLog) : Prop where
  locks : (obtained log).map Prod.fst = done.map ("inventory:" ++ ·)
  unreleased : unlocked log = []

theorem Holding.held_iff {done : List String} {log : CallLog} (holding : Holding done log) (sku : String) :
    LockHeld log ("inventory:" ++ sku) ↔ sku ∈ done := by
  have named : "inventory:" ++ sku ∈ (obtained log).map Prod.fst ↔ sku ∈ done := by
    rw [holding.locks, List.mem_map]
    constructor
    · rintro ⟨other, member, same⟩
      rw [String.append_right_inj] at same
      exact same ▸ member
    · exact fun member => ⟨sku, member, rfl⟩
  rw [← named, List.mem_map]
  constructor
  · rintro ⟨release, member, _⟩
    exact ⟨_, member, rfl⟩
  · rintro ⟨⟨resourceId, release⟩, member, rfl⟩
    refine ⟨release, member, ?_⟩
    rw [holding.unreleased]
    exact List.not_mem_nil

/-- Without database errors the loop succeeds exactly when no SKU is locked
twice and every line passes its check. -/
theorem reserveLoop_uncontended (platform : Platform) (items : List InventoryReservation) {done : List String}
    (releases : List LockRelease) (world : World) {log : CallLog} (holding : Holding done log) :
    ∃ releases' outcome after log',
      (orderly platform).play lockContract (InventoryService.reserveLoop items releases) world log =
          (.ok (releases', outcome), after, log') ∧
        ((∀ event ∈ log', event.reply.isOk = true) → (outcome = .ok true ↔ (items.map (·.sku)).Nodup ∧ (∀ item ∈ items, item.sku ∉ done) ∧
          ∀ item ∈ items, InventoryService.insufficient (world.db.inventory.lookup item.sku) item = false)) := by
  induction items generalizing done releases world log with
  | nil => exact ⟨releases, .ok true, world, log, rfl, fun _ => by simp⟩
  | cons item rest inductionHypothesis =>
      generalize ended : (orderly platform).play lockContract
        (InventoryService.reserveLoop (item :: rest) releases) world log = result
      have goes : LineGoes platform lockContract item rest releases world.db log
          (if LockHeld log ("inventory:" ++ item.sku) then .refuse else .serve) .serve .serve result :=
        reserveLoop_line ended.symm rfl (fun _ => rfl) (fun _ _ => rfl)
      have failing : ∀ {log' : CallLog}, (∀ event ∈ log', event.reply.isOk = true) →
          ¬ ∃ event ∈ log', ∃ error, event.reply = .error error := by
        rintro log' served ⟨event, member, error, failed⟩
        have answered := served event member
        rw [failed] at answered
        cases answered
      cases goes with
      | spared releases' outcome after log' failed same untaken reason =>
          refine ⟨releases', outcome, after, log', rfl, fun served => ⟨fun succeeded => absurd succeeded failed, ?_⟩⟩
          rintro ⟨_, free, enough⟩
          exfalso
          rcases reason with denied | short | error
          · have absent := free item List.mem_cons_self
            rw [← holding.held_iff] at absent
            rw [if_neg absent] at denied
            cases denied
          · rw [enough item List.mem_cons_self] at short
            cases short
          · exact failing served error
      | lost releases' outcome after log' failed taken landed unanswered reason => cases unanswered
      | reserved release after log' taken answered calls locks kept =>
          have absent : item.sku ∉ done := by
            rw [← holding.held_iff]
            intro held
            rw [if_pos held] at answered
            cases answered.1
          have later : Holding (done ++ [item.sku]) log' := by
            refine ⟨?_, kept.trans holding.unreleased⟩
            rw [locks, List.map_append, holding.locks, List.map_append]
            rfl
          rcases inductionHypothesis (releases ++ [release]) after later with
            ⟨releases', outcome, final, log'', played, succeeds⟩
          refine ⟨releases', outcome, final, log'', played, fun served => (succeeds served).trans ?_⟩
          constructor
          · rintro ⟨distinct, free, enough⟩
            have other : ∀ line ∈ rest, line.sku ≠ item.sku := fun line member same =>
              free line member (List.mem_append_right _ (List.mem_singleton.mpr same))
            refine ⟨?_, ?_, ?_⟩
            · rw [List.map_cons, List.nodup_cons, List.mem_map]
              refine ⟨?_, distinct⟩
              rintro ⟨line, member, same⟩
              exact other line member same
            · intro line member
              rcases List.mem_cons.mp member with rfl | member
              · exact absent
              · exact fun known => free line member (List.mem_append_left _ known)
            · intro line member
              rcases List.mem_cons.mp member with rfl | member
              · exact (takes_sufficient taken).1
              · rw [← takes_other taken (other line member)]
                exact enough line member
          · rintro ⟨distinct, free, enough⟩
            rw [List.map_cons, List.nodup_cons, List.mem_map] at distinct
            have other : ∀ line ∈ rest, line.sku ≠ item.sku := fun line member same => distinct.1 ⟨line, member, same⟩
            refine ⟨distinct.2, ?_, ?_⟩
            · intro line member known
              rcases List.mem_append.mp known with known | same
              · exact free line (List.mem_cons_of_mem _ member) known
              · exact other line member (List.mem_singleton.mp same)
            · intro line member
              rw [takes_other taken (other line member)]
              exact enough line (List.mem_cons_of_mem _ member)

/-! ## The claim of sufficiency -/

/-- Where no SKU is named twice, the units of a line are those of its SKU. -/
theorem quantityOf_distinct {items : List InventoryReservation} (distinct : (items.map (·.sku)).Nodup)
    {item : InventoryReservation} (member : item ∈ items) : quantityOf items item.sku = item.quantity := by
  induction items with
  | nil => cases member
  | cons head rest inductionHypothesis =>
      rw [List.map_cons, List.nodup_cons] at distinct
      have none_of : ∀ {sku : String}, sku ∉ rest.map (·.sku) → quantityOf rest sku = 0 := by
        intro sku absent
        unfold quantityOf
        rw [List.filter_eq_nil_iff.mpr]
        · rfl
        · intro line member same
          exact absent (List.mem_map.mpr ⟨line, member, of_decide_eq_true same⟩)
      rw [quantityOf_cons]
      rcases List.mem_cons.mp member with rfl | later
      · rw [if_pos rfl, none_of distinct.1, Nat.add_zero]
      · have other : head.sku ≠ item.sku := fun same => distinct.1 (same ▸ List.mem_map_of_mem later)
        rw [if_neg other, Nat.zero_add]
        exact inductionHypothesis distinct.2 later

/-- Where no SKU is named twice, the check of every line is the check of every SKU. -/
theorem suffices_distinct {db : Database} {items : List InventoryReservation} (distinct : (items.map (·.sku)).Nodup) :
    Suffices db items ↔
      ∀ item ∈ items, InventoryService.insufficient (db.inventory.lookup item.sku) item = false := by
  refine forall₂_congr fun item member => ?_
  rw [quantityOf_distinct distinct member]
  cases db.inventory.lookup item.sku with
  | none => simp [InventoryService.insufficient]
  | some row => simp [InventoryService.insufficient]

/-- Without database errors, a call that nobody competes with succeeds exactly
when the stock suffices and no SKU is named twice. -/
theorem uncontended_succeeds {platform : Platform} {world : World} {items : List InventoryReservation}
    (served : ∀ event ∈ (uncontended platform world items).2.2, event.reply.isOk = true) :
    (uncontended platform world items).1 = .ok true ↔ (items.map (·.sku)).Nodup ∧ Suffices world.db items := by
  have sorted := InventoryService.sortItems_perm platform items
  have start : Holding [] ([] : CallLog) := ⟨rfl, rfl⟩
  rcases reserveLoop_uncontended platform (InventoryService.sortItems platform items) [] world start with
    ⟨releases, outcome, after, log, looped, succeeds⟩
  rcases reserveInventory_play looped with ⟨log', played, later⟩
  have settled : uncontended platform world items = (outcome, after, log') := played
  rw [settled] at served ⊢
  rw [succeeds fun event member => served event (later event member), (sorted.map _).nodup_iff]
  constructor
  · rintro ⟨distinct, _, enough⟩
    exact ⟨distinct, (suffices_distinct distinct).mpr fun item member => enough item (sorted.mem_iff.mpr member)⟩
  · rintro ⟨distinct, enough⟩
    refine ⟨distinct, fun _ _ => List.not_mem_nil, fun item member => ?_⟩
    exact (suffices_distinct distinct).mp enough item (sorted.mem_iff.mp member)

/-- A reservation succeeds exactly when the stock suffices, or else the order
names a SKU twice. -/
theorem reserves_iff_sufficient_iff (platform : Platform) (world : World) (items : List InventoryReservation)
    (served : ∀ event ∈ (uncontended platform world items).2.2, event.reply.isOk = true) :
    ((uncontended platform world items).1 = .ok true ↔ Suffices world.db items) ↔
      (items.map (·.sku)).Nodup ∨ ¬ Suffices world.db items := by
  rw [uncontended_succeeds served]
  constructor
  · intro exactly
    by_cases enough : Suffices world.db items
    · exact Or.inl (exactly.mpr enough).1
    · exact Or.inr enough
  · rintro (distinct | short)
    · exact ⟨fun both => both.2, fun enough => ⟨distinct, enough⟩⟩
    · exact ⟨fun both => both.2, fun enough => absurd enough short⟩

/-- The rule applied to an order of two SKUs, of which one is not stocked. -/
theorem reserves_sufficient_missing :
    ((uncontended postgresJs (smallShop 1) [⟨"X", 1⟩, ⟨"Y", 1⟩]).1 = .ok true ↔
        Suffices (smallShop 1).db [⟨"X", 1⟩, ⟨"Y", 1⟩]) ↔
      (["X", "Y"] : List String).Nodup ∨ ¬ Suffices (smallShop 1).db [⟨"X", 1⟩, ⟨"Y", 1⟩] :=
  reserves_iff_sufficient_iff postgresJs (smallShop 1) [⟨"X", 1⟩, ⟨"Y", 1⟩] (by decide +kernel)

/-- Two units are stocked.  An order that names the SKU twice, for one unit
each, is refused by its own lock. -/
theorem contends_with_itself : ¬ ∀ items : List InventoryReservation,
    (∀ event ∈ (uncontended postgresJs (smallShop 2) items).2.2, event.reply.isOk = true) →
      ((uncontended postgresJs (smallShop 2) items).1 = .ok true ↔ Suffices (smallShop 2).db items) := by
  intro claimed
  have exactly := claimed [⟨"X", 1⟩, ⟨"X", 1⟩] (by decide +kernel)
  have enough : Suffices (smallShop 2).db [⟨"X", 1⟩, ⟨"X", 1⟩] := by
    intro item member
    refine ⟨⟨"X", 2, 0, 1⟩, ?_⟩
    revert item
    decide
  have refused : (uncontended postgresJs (smallShop 2) [⟨"X", 1⟩, ⟨"X", 1⟩]).1 = .ok false := rfl
  rw [refused] at exactly
  cases exactly.mpr enough

end Orderly
