import Orderly.Fulfilment.Conduct

/-!
# A routine's account of the stock

What a routine's own inventory statements have changed, read off its log, and
how that follows from its footprint.  Statements of other routines that run in
between do not enter, because each event carries the state immediately before
and after it.
-/

namespace Orderly

open Process (Program)

/-! ## Quantities of a SKU -/

/-- The units of one SKU among some items. -/
def quantityOf (items : List InventoryReservation) (sku : String) : Nat :=
  ((items.filter (·.sku = sku)).map InventoryReservation.quantity).sum

@[simp] theorem quantityOf_nil (sku : String) : quantityOf [] sku = 0 := rfl

@[simp] theorem quantityOf_cons (item : InventoryReservation) (items : List InventoryReservation)
    (sku : String) :
    quantityOf (item :: items) sku = (if item.sku = sku then item.quantity else 0) + quantityOf items sku := by
  unfold quantityOf
  by_cases same : item.sku = sku
  · simp [same]
  · simp [same]

@[simp] theorem quantityOf_append (first second : List InventoryReservation) (sku : String) :
    quantityOf (first ++ second) sku = quantityOf first sku + quantityOf second sku := by
  simp [quantityOf]

theorem quantityOf_prefix {first second : List InventoryReservation} (initial : first <+: second)
    (sku : String) : quantityOf first sku ≤ quantityOf second sku := by
  rcases initial with ⟨rest, rfl⟩
  rw [quantityOf_append]
  exact Nat.le_add_right _ _

theorem quantityOf_sortItems (platform : Platform) (items : List InventoryReservation) (sku : String) :
    quantityOf (InventoryService.sortItems platform items) sku = quantityOf items sku :=
  (((InventoryService.sortItems_perm platform items).filter _).map _).sum_eq

/-! ## Changes of one event -/

/-- What an event of a routine has changed in a quantity of a SKU, if it is an
inventory statement. -/
def changeOf (quantity : Database → String → Nat) (sku : String) (event : CallEvent) : Int :=
  if event.call.area = .inventory then
    (quantity event.after.db sku : Int) - quantity event.before.db sku
  else 0

/-- What a routine's statements have changed in `quantity_available`. -/
def netAvailable (log : CallLog) (sku : String) : Int :=
  (log.map (changeOf Database.quantityAvailable sku)).sum

/-- What a routine's statements have changed in `quantity_reserved`. -/
def netReserved (log : CallLog) (sku : String) : Int :=
  (log.map (changeOf Database.quantityReserved sku)).sum

/-- The units a routine has taken from the stock and not given back. -/
def held (log : CallLog) (sku : String) : Int := -netAvailable log sku

@[simp] theorem netAvailable_cons (event : CallEvent) (log : CallLog) (sku : String) :
    netAvailable (event :: log) sku =
      changeOf Database.quantityAvailable sku event + netAvailable log sku := by
  simp [netAvailable]

@[simp] theorem netReserved_cons (event : CallEvent) (log : CallLog) (sku : String) :
    netReserved (event :: log) sku =
      changeOf Database.quantityReserved sku event + netReserved log sku := by
  simp [netReserved]

/-! ## Changes and footprints -/

section Footprints

variable {platform : Platform} {event : CallEvent} {log : CallLog}

/-- Only inventory statements leave inventory footprints. -/
theorem eventFootprint_stock (other : event.call.area ≠ .inventory) :
    (eventFootprint event).reserveCalls = [] ∧ (eventFootprint event).reserved = [] ∧
      (eventFootprint event).released = [] ∧ (eventFootprint event).faults = [] := by
  rcases event with ⟨call, reply, before, after⟩
  cases call with
  | reserve sku quantity => exact absurd rfl other
  | release sku quantity => exact absurd rfl other
  | createSaga saga => cases reply <;> exact ⟨rfl, rfl, rfl, rfl⟩
  | updateSaga saga => cases reply <;> exact ⟨rfl, rfl, rfl, rfl⟩
  | commit transaction => cases reply <;> exact ⟨rfl, rfl, rfl, rfl⟩
  | createStep step =>
      cases reply with
      | ok value => simp only [eventFootprint]; split <;> exact ⟨rfl, rfl, rfl, rfl⟩
      | error error =>
          simp only [eventFootprint, setbackOf]
          split
          · split <;> exact ⟨rfl, rfl, rfl, rfl⟩
          · exact ⟨rfl, rfl, rfl, rfl⟩
  | execute statement =>
      cases reply with
      | ok value => exact ⟨rfl, rfl, rfl, rfl⟩
      | error error => simp only [eventFootprint, setbackOf]; split <;> exact ⟨rfl, rfl, rfl, rfl⟩
  | updateStep step =>
      cases reply with
      | ok value => simp only [eventFootprint]; split <;> exact ⟨rfl, rfl, rfl, rfl⟩
      | error error =>
          simp only [eventFootprint, setbackOf]
          split
          · split <;> exact ⟨rfl, rfl, rfl, rfl⟩
          · exact ⟨rfl, rfl, rfl, rfl⟩
  | charge orderId amount token =>
      cases reply with
      | ok result => simp only [eventFootprint]; split <;> exact ⟨rfl, rfl, rfl, rfl⟩
      | error error => exact ⟨rfl, rfl, rfl, rfl⟩
  | refund transactionId amount =>
      cases reply with
      | ok result => simp only [eventFootprint]; split <;> exact ⟨rfl, rfl, rfl, rfl⟩
      | error error => exact ⟨rfl, rfl, rfl, rfl⟩
  | uuidv4 => exact ⟨rfl, rfl, rfl, rfl⟩
  | newDate => exact ⟨rfl, rfl, rfl, rfl⟩
  | findSagaById id => exact ⟨rfl, rfl, rfl, rfl⟩
  | getSteps sagaId => exact ⟨rfl, rfl, rfl, rfl⟩
  | acquire resourceId ttlMs => exact ⟨rfl, rfl, rfl, rfl⟩
  | unlock release => exact ⟨rfl, rfl, rfl, rfl⟩
  | findBySku sku => exact ⟨rfl, rfl, rfl, rfl⟩
  | breakerAdmits => exact ⟨rfl, rfl, rfl, rfl⟩

/-- How far a release falls short of reducing `quantity_reserved` by what it
gives back. -/
def clampOf (sku : String) : CallEvent → Nat
  | ⟨.release other quantity, .ok true, before, _⟩ =>
      if other = sku then quantity - before.db.quantityReserved sku else 0
  | _ => 0

/-- An event that was not rejected changes what its footprint says, up to the
clamp of `quantity_reserved`. -/
theorem changeOf_footprint (admitted : (orderly platform).Admits [] event)
    (served : (eventFootprint event).faults = []) (sku : String) :
    changeOf Database.quantityAvailable sku event =
        (quantityOf (eventFootprint event).released sku : Int) -
          quantityOf (eventFootprint event).reserved sku ∧
      changeOf Database.quantityReserved sku event =
        (quantityOf (eventFootprint event).reserved sku : Int) -
          quantityOf (eventFootprint event).released sku + clampOf sku event := by
  by_cases inventory : event.call.area = .inventory
  · rcases event with ⟨call, reply, before, after⟩
    rcases admits_iff.mp admitted with ⟨choice, performed⟩
    simp only [changeOf, inventory, if_true]
    cases call with
    | reserve other quantity =>
        rcases World.reserve_answered performed with ⟨same, refused⟩ | ⟨answered, enough, moved⟩
        · rcases reply with error | (_ | _)
          · cases served
          · simp [eventFootprint, clampOf, same]
          · exact absurd rfl refused
        · rcases reply with error | (_ | _)
          · cases served
          · exact absurd rfl answered
          · rcases moved sku with ⟨available, reserved⟩
            simp only [eventFootprint, clampOf, quantityOf_cons, quantityOf_nil, available, reserved]
            by_cases named : sku = other
            · subst named
              simp only [if_true]
              constructor <;> omega
            · simp only [named, Ne.symm named, if_false]
              constructor <;> omega
    | release other quantity =>
        rcases World.release_answered performed with ⟨same, refused⟩ | ⟨answered, moved⟩
        · rcases reply with error | (_ | _)
          · cases served
          · simp [eventFootprint, clampOf, same]
          · exact absurd rfl refused
        · rcases reply with error | (_ | _)
          · cases served
          · exact absurd rfl answered
          · rcases moved sku with ⟨available, reserved⟩
            simp only [eventFootprint, clampOf, quantityOf_cons, quantityOf_nil, available, reserved]
            by_cases named : sku = other
            · subst named
              simp only [if_true]
              constructor <;> omega
            · simp only [named, Ne.symm named, if_false]
              constructor <;> omega
    | _ => cases inventory
  · rcases eventFootprint_stock inventory with ⟨_, reserved, released, _⟩
    have unclamped : clampOf sku event = 0 := by
      rcases event with ⟨call, reply, before, after⟩
      cases call <;> first | rfl | exact absurd rfl inventory
    simp [changeOf, inventory, reserved, released, unclamped]

/-- An event takes no more than it asked to reserve. -/
theorem changeOf_ge (admitted : (orderly platform).Admits [] event) (sku : String) :
    -changeOf Database.quantityAvailable sku event ≤ quantityOf (eventFootprint event).reserveCalls sku := by
  by_cases inventory : event.call.area = .inventory
  · rcases event with ⟨call, reply, before, after⟩
    rcases admits_iff.mp admitted with ⟨choice, performed⟩
    simp only [changeOf, inventory, if_true]
    cases call with
    | reserve other quantity =>
        have asked : (eventFootprint ⟨.reserve other quantity, reply, before, after⟩).reserveCalls =
            [⟨other, quantity⟩] := by
          rcases reply with error | (_ | _) <;> rfl
        rw [asked]
        rcases World.reserve_answered performed with ⟨same, _⟩ | ⟨_, enough, moved⟩
        · rw [same]
          omega
        · rcases moved sku with ⟨available, _⟩
          simp only [quantityOf_cons, quantityOf_nil, available]
          by_cases named : sku = other
          · subst named
            simp only [if_true]
            omega
          · simp only [named, Ne.symm named, if_false]
            omega
    | release other quantity =>
        rcases World.release_answered performed with ⟨same, _⟩ | ⟨_, moved⟩
        · rw [same]
          omega
        · rcases moved sku with ⟨available, _⟩
          omega
    | _ => cases inventory
  · simp [changeOf, inventory]

theorem netAvailable_footprint (admitted : ∀ event ∈ log, (orderly platform).Admits [] event)
    (served : (footprint log).faults = []) (sku : String) :
    netAvailable log sku =
      (quantityOf (footprint log).released sku : Int) - quantityOf (footprint log).reserved sku := by
  induction log with
  | nil => rfl
  | cons event log inductionHypothesis =>
      have parts : (footprint log).faults = [] ∧ (eventFootprint event).faults = [] :=
        List.append_eq_nil_iff.mp served
      have earlier := inductionHypothesis (fun other member => admitted other (List.mem_cons_of_mem _ member))
        parts.1
      have latest := (changeOf_footprint (admitted event List.mem_cons_self) parts.2 sku).1
      change netAvailable (event :: log) sku =
        (quantityOf ((footprint log).released ++ (eventFootprint event).released) sku : Int) -
          quantityOf ((footprint log).reserved ++ (eventFootprint event).reserved) sku
      rw [netAvailable_cons, earlier, latest, quantityOf_append, quantityOf_append]
      omega

theorem netReserved_footprint (admitted : ∀ event ∈ log, (orderly platform).Admits [] event)
    (served : (footprint log).faults = []) (sku : String) :
    netReserved log sku =
      (quantityOf (footprint log).reserved sku : Int) - quantityOf (footprint log).released sku +
        (log.map (clampOf sku)).sum := by
  induction log with
  | nil => rfl
  | cons event log inductionHypothesis =>
      have parts : (footprint log).faults = [] ∧ (eventFootprint event).faults = [] :=
        List.append_eq_nil_iff.mp served
      have earlier := inductionHypothesis (fun other member => admitted other (List.mem_cons_of_mem _ member))
        parts.1
      have latest := (changeOf_footprint (admitted event List.mem_cons_self) parts.2 sku).2
      change netReserved (event :: log) sku =
        (quantityOf ((footprint log).reserved ++ (eventFootprint event).reserved) sku : Int) -
          quantityOf ((footprint log).released ++ (eventFootprint event).released) sku +
            (List.map (clampOf sku) (event :: log)).sum
      rw [netReserved_cons, earlier, latest, quantityOf_append, quantityOf_append, List.map_cons,
        List.sum_cons]
      omega

/-- A routine holds no more than it asked to reserve. -/
theorem held_le (admitted : ∀ event ∈ log, (orderly platform).Admits [] event) (sku : String) :
    held log sku ≤ quantityOf (footprint log).reserveCalls sku := by
  induction log with
  | nil => simp [held, netAvailable]
  | cons event log inductionHypothesis =>
      have earlier := inductionHypothesis fun other member => admitted other (List.mem_cons_of_mem _ member)
      have latest := changeOf_ge (admitted event List.mem_cons_self) sku
      change held (event :: log) sku ≤
        (quantityOf ((footprint log).reserveCalls ++ (eventFootprint event).reserveCalls) sku : Int)
      rw [quantityOf_append]
      simp only [held, netAvailable_cons] at earlier ⊢
      omega

end Footprints

/-- The events of a routine that keeps its contract are events of the system. -/
theorem Keeping.admitted {platform : Platform} {thread : Routine} (keeping : Keeping platform thread) :
    ∀ event ∈ thread.log, (orderly platform).Admits [] event := by
  intro event member
  rcases keeping.behind.admitted member with ⟨_, _, _, _, admitted⟩
  exact admitted

end Orderly
