import Orderly.System

/-!
# The inventory locks of one call

Each method of `InventoryService` takes one lock per item and gives all of them
back in a `finally` block.  What a call has obtained and what it has given back
is read off its log, so the rule is a contract of the two methods.  It is
claimed for every answer a call can receive, in any state: a lock may be
granted, refused or fail, and a statement may answer anything or fail.
-/

namespace Orderly

open Process (Program)

/-- The SKU a repository statement on the inventory is about. -/
def Call.statementOn : Call → Option String
  | .findBySku sku => some sku
  | .reserve sku _ => some sku
  | .release sku _ => some sku
  | _ => none

/-- The release function an answered call has brought, with the resource it was
acquired for. -/
def acquisition : CallEvent → List (String × LockRelease)
  | ⟨.acquire resourceId _, .ok (some release), _, _⟩ => [(resourceId, release)]
  | _ => []

/-- The release functions obtained so far, oldest first. -/
def obtained : CallLog → List (String × LockRelease)
  | [] => []
  | event :: log => obtained log ++ acquisition event

/-- The release functions called so far, oldest first.  A rejected unlock was
called all the same. -/
def unlocked : CallLog → List LockRelease
  | [] => []
  | event :: log => unlocked log ++ match event.call with
      | .unlock release => [release]
      | _ => []

/-- A granted lock is among those obtained. -/
theorem obtained_granted (log : CallLog) (resourceId : String) (ttlMs : Nat) (release : LockRelease)
    (before after : World) : (resourceId, release) ∈
      obtained (⟨.acquire resourceId ttlMs, .ok (some release), before, after⟩ :: log) := by
  simp [obtained, acquisition]

/-- A lock on the resource has been obtained and not been given back. -/
def LockHeld (log : CallLog) (resourceId : String) : Prop :=
  ∃ release, (resourceId, release) ∈ obtained log ∧ release ∉ unlocked log

/-- A statement on a SKU is issued under its lock, and before any lock is given back. -/
def TwoPhase (log : CallLog) (call : Call) : Prop :=
  ∀ sku, call.statementOn = some sku → LockHeld log ("inventory:" ++ sku) ∧ unlocked log = []

/-- Every release function obtained has been called, once for each time it was
obtained. -/
def GivenBack (log : CallLog) : Prop :=
  unlocked log = (obtained log).map Prod.snd

/-- Whatever a call may be answered, in whatever state. -/
def AnyAnswer (_ : CallLog) (_ : CallEvent) : Prop := True

/-! ## The two loops -/

/-- Inside the `try` block: these locks have been obtained and none was given back. -/
structure Growing (releases : List LockRelease) (log : CallLog) : Prop where
  locks : (obtained log).map Prod.snd = releases
  unreleased : unlocked log = []

namespace Growing

variable {releases : List LockRelease} {log : CallLog}

/-- A call that neither brings a lock nor gives one back. -/
theorem aside (growing : Growing releases log) {event : CallEvent} (nothing : acquisition event = [])
    (other : ∀ release, event.call ≠ .unlock release) : Growing releases (event :: log) where
  locks := by simpa [obtained, nothing] using growing.locks
  unreleased := by
    rcases event with ⟨call, reply, before, after⟩
    cases call with
    | unlock release => exact absurd rfl (other release)
    | _ => simpa [unlocked] using growing.unreleased

/-- A granted lock is one more. -/
theorem granted (growing : Growing releases log) (resourceId : String) (ttlMs : Nat) (release : LockRelease)
    (before after : World) :
    Growing (releases ++ [release]) (⟨.acquire resourceId ttlMs, .ok (some release), before, after⟩ :: log) where
  locks := by simp [obtained, acquisition, growing.locks]
  unreleased := by simpa [unlocked] using growing.unreleased

/-- As long as no lock was given back, an obtained one is held. -/
theorem held (growing : Growing releases log) {resourceId : String} {release : LockRelease}
    (member : (resourceId, release) ∈ obtained log) : LockHeld log resourceId := by
  refine ⟨release, member, ?_⟩
  rw [growing.unreleased]
  exact List.not_mem_nil

/-- A statement under a lock of the call. -/
theorem twoPhase (growing : Growing releases log) {call : Call} {item : String} {release : LockRelease}
    (member : ("inventory:" ++ item, release) ∈ obtained log)
    (about : ∀ sku, call.statementOn = some sku → sku = item) : TwoPhase log call := by
  intro sku named
  rw [about sku named]
  exact ⟨growing.held member, growing.unreleased⟩

end Growing

/-- A call that is no statement on the inventory may always be issued. -/
theorem twoPhase_other {log : CallLog} {call : Call} (other : call.statementOn = none) : TwoPhase log call := by
  intro sku named
  rw [other] at named
  cases named

variable {Throws : JsError → CallLog → Prop}

/-- The loop of `reserveInventory` ends with the locks it hands to the `finally` block. -/
theorem reserveLoop_locks (items : List InventoryReservation) {releases : List LockRelease} {log : CallLog}
    (growing : Growing releases log) :
    (InventoryService.reserveLoop items releases).Meets AnyAnswer TwoPhase
      (fun ended log => Growing ended.1 log) Throws log := by
  induction items generalizing releases log with
  | nil => exact growing
  | cons item rest inductionHypothesis =>
      refine Program.Meets.attempt_call (twoPhase_other rfl) ?_
      intro reply before after _
      rcases reply with error | (_ | release)
      · exact growing.aside rfl fun _ same => by cases same
      · exact growing.aside rfl fun _ same => by cases same
      · have locked := growing.granted ("inventory:" ++ item.sku) InventoryService.lockTtlMs release before after
        have member := obtained_granted log ("inventory:" ++ item.sku) InventoryService.lockTtlMs release before after
        refine Program.Meets.attempt_call (locked.twoPhase member ?_) ?_
        · intro sku named
          exact (Option.some.inj named).symm
        intro reply start found _
        have read : Growing (releases ++ [release]) (⟨.findBySku item.sku, reply, start, found⟩ :: _) :=
          locked.aside rfl fun _ same => by cases same
        rcases reply with error | inventory
        · exact read
        · change Program.Meets _ _ _ _ (if _ then _ else _) _
          split
          · exact read
          · refine Program.Meets.attempt_call (read.twoPhase (List.mem_append_left _ member) ?_) ?_
            · intro sku named
              exact (Option.some.inj named).symm
            intro reply _ _ _
            rcases reply with error | (_ | _)
            · exact read.aside rfl fun _ same => by cases same
            · exact read.aside rfl fun _ same => by cases same
            · exact inductionHypothesis (read.aside rfl fun _ same => by cases same)

/-- The loop of `releaseInventory`. -/
theorem releaseLoop_locks (items : List InventoryReservation) {releases : List LockRelease} {log : CallLog}
    (growing : Growing releases log) :
    (InventoryService.releaseLoop items releases).Meets AnyAnswer TwoPhase
      (fun ended log => Growing ended.1 log) Throws log := by
  induction items generalizing releases log with
  | nil => exact growing
  | cons item rest inductionHypothesis =>
      refine Program.Meets.attempt_call (twoPhase_other rfl) ?_
      intro reply before after _
      rcases reply with error | (_ | release)
      · exact growing.aside rfl fun _ same => by cases same
      · exact growing.aside rfl fun _ same => by cases same
      · have locked := growing.granted ("inventory:" ++ item.sku) InventoryService.lockTtlMs release before after
        have member := obtained_granted log ("inventory:" ++ item.sku) InventoryService.lockTtlMs release before after
        refine Program.Meets.attempt_call (locked.twoPhase member ?_) ?_
        · intro sku named
          exact (Option.some.inj named).symm
        intro reply _ _ _
        rcases reply with error | (_ | _)
        · exact locked.aside rfl fun _ same => by cases same
        · exact locked.aside rfl fun _ same => by cases same
        · exact inductionHypothesis (locked.aside rfl fun _ same => by cases same)

/-! ## The `finally` block -/

/-- Calling the remaining release functions gives everything back. -/
theorem allSettled_locks (releases : List LockRelease) {log : CallLog}
    (remaining : (obtained log).map Prod.snd = unlocked log ++ releases) :
    (LockManager.allSettled releases).Meets AnyAnswer TwoPhase (fun _ log => GivenBack log) Throws log := by
  induction releases generalizing log with
  | nil =>
      rw [List.append_nil] at remaining
      exact remaining.symm
  | cons release rest inductionHypothesis =>
      refine Program.Meets.attempt_call (twoPhase_other rfl) ?_
      intro reply before after _
      apply inductionHypothesis
      simp [obtained, acquisition, unlocked, remaining]

/-- `try { loop } finally { … }` gives back what the loop has obtained. -/
theorem finally_locks {loop : Service (List LockRelease × Except JsError Bool)}
    (body : ∀ {Throws}, loop.Meets AnyAnswer TwoPhase (fun ended log => Growing ended.1 log) Throws []) :
    (do
      let (releases, outcome) ← loop
      LockManager.allSettled releases
      Program.ofExcept outcome : Service Bool).Meets AnyAnswer TwoPhase (fun _ log => GivenBack log)
        (fun _ log => GivenBack log) [] := by
  refine Program.Meets.bind body ?_
  rintro ⟨releases, outcome⟩ log growing
  have remaining : (obtained log).map Prod.snd = unlocked log ++ releases := by
    rw [growing.unreleased]
    exact growing.locks
  refine Program.Meets.bind (allSettled_locks releases remaining) ?_
  intro _ log given
  exact Program.Meets.ofExcept (fun _ _ => given) (fun _ _ => given)

/-- However a call of the inventory service goes, it is two-phase and gives back
every lock it has obtained. -/
theorem inventory_two_phase (platform : Platform) (items : List InventoryReservation) :
    (InventoryService.reserveInventory platform items).Meets AnyAnswer TwoPhase
        (fun _ log => GivenBack log) (fun _ log => GivenBack log) [] ∧
      (InventoryService.releaseInventory platform items).Meets AnyAnswer TwoPhase
        (fun _ log => GivenBack log) (fun _ log => GivenBack log) [] := by
  have start : Growing [] ([] : CallLog) := ⟨rfl, rfl⟩
  constructor
  · exact finally_locks (reserveLoop_locks _ start)
  · exact finally_locks (releaseLoop_locks _ start)

end Orderly
