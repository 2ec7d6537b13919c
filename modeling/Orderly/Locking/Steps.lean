import Orderly.Infrastructure.PostgresAdvisoryLock

/-!
# What a step does to the locks

The number of callers that hold a lock, and of release functions that have not
reached the database yet, is counted over any set of resources.  One lemma says
how each step changes the two counts and the lock table; what the pool
guarantees follows from it.
-/

namespace Orderly

open Process (Config Program System sum_map_set)
open PostgresAdvisoryLock

variable {sha256 : String → List UInt8} {sessions : Nat}

/-! ## Counting -/

/-- One for a resource of the set. -/
def unitOf (about : String → Bool) (resourceId : String) : Int := if about resourceId then 1 else 0

/-- The lock has been handed out and not been released. -/
def LockClosure.held (about : String → Bool) (closure : LockClosure) : Int :=
  if closure.released then 0 else unitOf about closure.resourceId

/-- The lock has been granted and is about to be handed out. -/
def granting (about : String → Bool) : Locking (Option LockId) → Int
  | .await (.setTimeout resourceId _) _ => unitOf about resourceId
  | _ => 0

/-- A called release function whose statement has not been served. -/
def returning (about : String → Bool) : LockTask → Locking (Option LockId) → Int
  | .release _ resourceId, .await (.advisoryUnlock _) _ => unitOf about resourceId
  | _, _ => 0

namespace LockConfig

/-- The locks of a set of resources that callers hold. -/
def holders (config : LockConfig sessions) (about : String → Bool) : Int :=
  (config.shared.closures.map (LockClosure.held about)).sum + (config.threads.map fun thread => granting about thread.code).sum

/-- The locks that are being given back. -/
def owed (config : LockConfig sessions) (about : String → Bool) : Int :=
  (config.threads.map fun thread => returning about thread.task thread.code).sum

/-- A call of `acquire` for the resource awaits its lock. -/
def Requests (sha256 : String → List UInt8) (config : LockConfig sessions) (index : Nat) (resourceId : String) :
    Prop :=
  ∃ thread ttlMs resume, config.threads[index]? = some thread ∧ thread.task = .acquire resourceId ttlMs ∧
    thread.code = .await (.tryAdvisoryLock (toInt64 sha256 resourceId)) resume

/-- A routine awaits the unlock of a key. -/
def Unlocks (config : LockConfig sessions) (index : Nat) (key : Int) : Prop :=
  ∃ (thread : LockThread sessions) (resume : _), config.threads[index]? = some thread ∧
    thread.code = .await (.advisoryUnlock key) resume

/-- A release function is called by somebody who has it, and a timer that was
not cleared fires once. -/
def Startable (config : LockConfig sessions) : LockMove sessions → Prop
  | .start (.acquire _ _) => True
  | .start (.release lock resourceId) =>
      ∃ closure, config.shared.closures[lock]? = some closure ∧ closure.resourceId = resourceId
  | .start (.expire lock resourceId) =>
      (∃ closure, config.shared.closures[lock]? = some closure ∧ closure.resourceId = resourceId ∧
        closure.released = false) ∧
      ∀ thread ∈ config.threads, thread.task ≠ .expire lock resourceId
  | .advance _ _ => True
  | .stop _ => False

end LockConfig

/-! ## The stages of a routine -/

/-- `acquire` behind its last call. -/
def afterGrant : Except JsError LockId → Locking (Option LockId)
  | .error error => .thrown error
  | .ok lock => .done (some lock)

/-- `acquire` behind its statement. -/
def afterRequest (resourceId : String) (ttlMs : Nat) : Except JsError Bool → Locking (Option LockId)
  | .error error => .thrown error
  | .ok false => .done none
  | .ok true => .await (.setTimeout resourceId ttlMs) afterGrant

/-- A release function behind its first piece. -/
def afterClaim (key : Int) : Except JsError Bool → Locking (Option LockId)
  | .error error => .thrown error
  | .ok false => .done none
  | .ok true => .await (.advisoryUnlock key) fun _ => .done none

/-- How far a routine has got. -/
inductive LockStage (sha256 : String → List UInt8) : LockTask → Locking (Option LockId) → Prop
  | requesting (resourceId : String) (ttlMs : Nat) :
      LockStage sha256 (.acquire resourceId ttlMs)
        (.await (.tryAdvisoryLock (toInt64 sha256 resourceId)) (afterRequest resourceId ttlMs))
  | granted (resourceId : String) (ttlMs : Nat) :
      LockStage sha256 (.acquire resourceId ttlMs) (.await (.setTimeout resourceId ttlMs) afterGrant)
  | claiming (lock : LockId) (resourceId : String) :
      LockStage sha256 (.release lock resourceId) (.await (.claim lock) (afterClaim (toInt64 sha256 resourceId)))
  | checking (lock : LockId) (resourceId : String) :
      LockStage sha256 (.expire lock resourceId)
        (.await (.isReleased lock) fun reply => afterClaim (toInt64 sha256 resourceId) (reply.map Bool.not))
  | releasing (lock : LockId) (resourceId : String) :
      LockStage sha256 (.release lock resourceId)
        (.await (.advisoryUnlock (toInt64 sha256 resourceId)) fun _ => .done none)
  | expiring (lock : LockId) (resourceId : String) :
      LockStage sha256 (.expire lock resourceId)
        (.await (.advisoryUnlock (toInt64 sha256 resourceId)) fun _ => .done none)
  | returned (task : LockTask) (result : Option LockId) : LockStage sha256 task (.done result)
  | rejected (task : LockTask) (error : JsError) : LockStage sha256 task (.thrown error)

/-- The unlock never fails for its caller. -/
theorem release_bind (key : Int) :
    (do release key; return none : Locking (Option LockId)) = .await (.advisoryUnlock key) fun _ => .done none := by
  refine congrArg (Program.await _) ?_
  funext reply
  cases reply with
  | ok value => rfl
  | error error => rfl

/-- A routine begins at its first stage. -/
theorem LockStage.called (task : LockTask) : LockStage sha256 task (task.program sha256) := by
  cases task with
  | acquire resourceId ttlMs =>
      have calls : LockTask.program sha256 (.acquire resourceId ttlMs) =
          .await (.tryAdvisoryLock (toInt64 sha256 resourceId)) (afterRequest resourceId ttlMs) := by
        refine congrArg (Program.await _) ?_
        funext reply
        rcases reply with error | (_ | _)
        · rfl
        · rfl
        · refine congrArg (Program.await _) ?_
          funext reply
          cases reply with
          | ok lock => rfl
          | error error => rfl
      exact calls ▸ .requesting resourceId ttlMs
  | release lock resourceId =>
      have calls : LockTask.program sha256 (.release lock resourceId) =
          .await (.claim lock) (afterClaim (toInt64 sha256 resourceId)) := by
        refine congrArg (Program.await _) ?_
        funext reply
        rcases reply with error | (_ | _)
        · rfl
        · rfl
        · exact release_bind _
      exact calls ▸ .claiming lock resourceId
  | expire lock resourceId =>
      have calls : LockTask.program sha256 (.expire lock resourceId) =
          .await (.isReleased lock) fun reply => afterClaim (toInt64 sha256 resourceId) (reply.map Bool.not) := by
        refine congrArg (Program.await _) ?_
        funext reply
        rcases reply with error | (_ | _)
        · rfl
        · exact release_bind _
        · rfl
      exact calls ▸ .checking lock resourceId

/-- Every routine is at one of its stages, and a release function belongs to a lock. -/
structure Staged (sha256 : String → List UInt8) (config : LockConfig sessions) : Prop where
  stage : ∀ thread ∈ config.threads, LockStage sha256 thread.task thread.code
  closure : ∀ thread ∈ config.threads, ∀ lock resourceId, thread.task = .release lock resourceId →
    ∃ closure, config.shared.closures[lock]? = some closure ∧ closure.resourceId = resourceId

/-! ## One step -/

/-- What a move does to the lock table and to the counts. -/
inductive LockStep (sha256 : String → List UInt8) (config : LockConfig sessions) (move : LockMove sessions)
    (next : LockConfig sessions) : Prop
  /-- Nothing that counts. -/
  | quiet (table : next.shared.table = config.shared.table)
      (holders : ∀ about, next.holders about = config.holders about)
      (owed : ∀ about, next.owed about = config.owed about)
  /-- A request was served and granted. -/
  | granted (index : Nat) (session : Fin sessions) (resourceId : String)
      (served : move = .advance index (.serve session)) (requests : config.Requests sha256 index resourceId)
      (grants : (config.shared.table.tryLock session (toInt64 sha256 resourceId)).1 = true)
      (table : next.shared.table = (config.shared.table.tryLock session (toInt64 sha256 resourceId)).2)
      (holders : ∀ about, next.holders about = config.holders about + unitOf about resourceId)
      (owed : ∀ about, next.owed about = config.owed about)
  /-- The answer to a request got lost. -/
  | lost (index : Nat) (session : Fin sessions) (error : JsError) (resourceId : String)
      (lost : move = .advance index (.lose session error)) (requests : config.Requests sha256 index resourceId)
      (table : next.shared.table = (config.shared.table.tryLock session (toInt64 sha256 resourceId)).2)
      (holders : ∀ about, next.holders about = config.holders about)
      (owed : ∀ about, next.owed about = config.owed about)
  /-- A release function was called for the first time. -/
  | claimed (resourceId : String) (table : next.shared.table = config.shared.table)
      (holders : ∀ about, next.holders about = config.holders about - unitOf about resourceId)
      (owed : ∀ about, next.owed about = config.owed about + unitOf about resourceId)
  /-- The statement of a release function was carried out, or of a timer. -/
  | unlocked (index : Nat) (choice : LockChoice sessions) (session : Fin sessions) (resourceId : String)
      (returned : Bool) (moved : move = .advance index choice)
      (by_session : choice = .serve session ∨ ∃ error, choice = .lose session error)
      (unlocks : config.Unlocks index (toInt64 sha256 resourceId))
      (timer : returned = false → ∃ thread ∈ config.threads, ∃ lock, thread.task = .expire lock resourceId)
      (table : next.shared.table = (config.shared.table.unlock session (toInt64 sha256 resourceId)).2)
      (holders : ∀ about, next.holders about = config.holders about)
      (owed : ∀ about, next.owed about = config.owed about - if returned then unitOf about resourceId else 0)
  /-- It failed. -/
  | failed (index : Nat) (error : JsError) (resourceId : String) (returned : Bool)
      (moved : move = .advance index (.reject error))
      (unlocks : config.Unlocks index (toInt64 sha256 resourceId))
      (table : next.shared.table = config.shared.table)
      (holders : ∀ about, next.holders about = config.holders about)
      (owed : ∀ about, next.owed about = config.owed about - if returned then unitOf about resourceId else 0)

/-- The counts after a routine has moved on. -/
theorem holders_moved {config : LockConfig sessions} {index : Nat} {thread later : LockThread sessions}
    {shared : LockState sessions} (listed : config.threads[index]? = some thread) (about : String → Bool) :
    LockConfig.holders { shared, threads := config.threads.set index later } about =
      config.holders about + ((shared.closures.map (LockClosure.held about)).sum -
        (config.shared.closures.map (LockClosure.held about)).sum) +
        (granting about later.code - granting about thread.code) := by
  have moved := sum_map_set config.threads index thread later (fun thread => granting about thread.code) listed
  simp only [LockConfig.holders]
  omega

theorem owed_moved {config : LockConfig sessions} {index : Nat} {thread later : LockThread sessions}
    {shared : LockState sessions} (listed : config.threads[index]? = some thread) (about : String → Bool) :
    LockConfig.owed { shared, threads := config.threads.set index later } about =
      config.owed about + (returning about later.task later.code - returning about thread.task thread.code) :=
  sum_map_set _ _ _ _ _ listed

/-- Releasing a lock takes it from its holder. -/
theorem held_released {closures : List LockClosure} {lock : LockId} {closure : LockClosure}
    (found : closures[lock]? = some closure) (about : String → Bool) :
    ((closures.modify lock ({ · with released := true })).map (LockClosure.held about)).sum =
      (closures.map (LockClosure.held about)).sum - closure.held about := by
  rw [List.modify_eq_set_getElem?, found]
  refine (sum_map_set _ _ _ _ _ found).trans ?_
  simp only [LockClosure.held, if_true]
  omega

/-- The configuration after a routine's call has been answered. -/
def LockConfig.answered (sha256 : String → List UInt8) (config : LockConfig sessions) (index : Nat)
    (choice : LockChoice sessions) (thread : LockThread sessions) (call : LockCall)
    (resume : Except JsError call.Reply → Locking (Option LockId)) : LockConfig sessions :=
  { shared := (config.shared.perform call choice).2
    threads := config.threads.set index
      (thread.answered ((lockSystem sha256 sessions).answer config.shared call choice)
        (resume (config.shared.perform call choice).1)) }

/-- A lock that is no longer open. -/
theorem held_closed {closure : LockClosure} (closed : closure.released = true) (about : String → Bool) :
    closure.held about = 0 := if_pos closed

theorem held_open {closure : LockClosure} (opened : closure.released = false) (about : String → Bool) :
    closure.held about = unitOf about closure.resourceId := if_neg (by simp [opened])

variable {config : LockConfig sessions} {index : Nat} {choice : LockChoice sessions} {thread : LockThread sessions}
  {call : LockCall} {resume : Except JsError call.Reply → Locking (Option LockId)}

theorem holders_answered (listed : config.threads[index]? = some thread) (about : String → Bool) :
    (config.answered sha256 index choice thread call resume).holders about =
      config.holders about + (((config.shared.perform call choice).2.closures.map (LockClosure.held about)).sum -
        (config.shared.closures.map (LockClosure.held about)).sum) +
        (granting about (resume (config.shared.perform call choice).1) - granting about thread.code) :=
  holders_moved listed about

theorem owed_answered (listed : config.threads[index]? = some thread) (about : String → Bool) :
    (config.answered sha256 index choice thread call resume).owed about =
      config.owed about + (returning about thread.task (resume (config.shared.perform call choice).1) -
        returning about thread.task thread.code) :=
  owed_moved listed about

/-- A routine whose next stage counts for nothing, as its last one did. -/
theorem quiet_answered (listed : config.threads[index]? = some thread)
    (table : (config.shared.perform call choice).2.table = config.shared.table)
    (closures : (config.shared.perform call choice).2.closures = config.shared.closures)
    (granted : ∀ about, granting about (resume (config.shared.perform call choice).1) = granting about thread.code)
    (returned : ∀ about, returning about thread.task (resume (config.shared.perform call choice).1) =
      returning about thread.task thread.code) :
    LockStep sha256 config (.advance index choice) (config.answered sha256 index choice thread call resume) := by
  refine .quiet table ?_ ?_
  · intro about
    rw [holders_answered listed, closures, granted about]
    omega
  · intro about
    rw [owed_answered listed, returned about]
    omega

/-- What comes of the statement of a release function, or of a timer. -/
theorem unlock_answered {resourceId : String} (listed : config.threads[index]? = some thread)
    (code : thread.code = .await (.advisoryUnlock (toInt64 sha256 resourceId)) fun _ => .done none)
    (returned : Bool)
    (owes : ∀ about, returning about thread.task thread.code = if returned then unitOf about resourceId else 0)
    (timer : returned = false → ∃ thread ∈ config.threads, ∃ lock, thread.task = .expire lock resourceId) :
    LockStep sha256 config (.advance index choice) (config.answered sha256 index choice thread
      (.advisoryUnlock (toInt64 sha256 resourceId)) fun _ => .done none) := by
  have unlocks : config.Unlocks index (toInt64 sha256 resourceId) := ⟨thread, _, listed, code⟩
  have nothing (about : String → Bool) (task : LockTask) : returning about task (.done none) = 0 := by
    cases task with
    | _ => rfl
  have owed (about : String → Bool) : (config.answered sha256 index choice thread
      (.advisoryUnlock (toInt64 sha256 resourceId)) fun _ => .done none).owed about =
        config.owed about - if returned then unitOf about resourceId else 0 := by
    rw [owed_answered listed, owes about, nothing about]
    omega
  cases choice with
  | serve session =>
      refine .unlocked index _ session resourceId returned rfl (Or.inl rfl) unlocks timer rfl ?_ owed
      intro about
      rw [holders_answered listed, code]
      simp [LockState.perform, LockState.statement, granting]
  | lose session error =>
      refine .unlocked index _ session resourceId returned rfl (Or.inr ⟨error, rfl⟩) unlocks timer rfl ?_ owed
      intro about
      rw [holders_answered listed, code]
      simp [LockState.perform, LockState.statement, granting]
  | reject error =>
      refine .failed index error resourceId returned rfl unlocks rfl ?_ owed
      intro about
      rw [holders_answered listed, code]
      simp [LockState.perform, LockState.statement, granting]

/-- What an answer does, by the stage of the routine. -/
theorem Staged.answered (staged : Staged sha256 config) (listed : config.threads[index]? = some thread)
    (pending : thread.code = .await call resume) :
    LockStep sha256 config (.advance index choice) (config.answered sha256 index choice thread call resume) := by
  have stage := staged.stage thread (List.mem_of_getElem? listed)
  have closure := staged.closure thread (List.mem_of_getElem? listed)
  rcases thread with ⟨task, code, log, stopped⟩
  cases pending
  cases stage with
  | requesting resourceId ttlMs =>
      have requests : config.Requests sha256 index resourceId := ⟨_, ttlMs, _, listed, rfl, rfl⟩
      cases choice with
      | serve session =>
          rcases config.shared.table.tryLock_cases session (toInt64 sha256 resourceId) with
            ⟨grants, _⟩ | ⟨refused, _⟩
          · have replied : (config.shared.perform (.tryAdvisoryLock (toInt64 sha256 resourceId)) (.serve session)).1 =
                .ok true := congrArg Except.ok grants
            refine .granted index session resourceId rfl requests grants rfl ?_ ?_
            · intro about
              rw [holders_answered listed, replied]
              simp [LockState.perform, LockState.statement, afterRequest, granting]
            · intro about
              rw [owed_answered listed]
              simp [returning]
          · have replied : config.shared.perform (.tryAdvisoryLock (toInt64 sha256 resourceId)) (.serve session) =
                (.ok false, config.shared) := by simp [LockState.perform, LockState.statement, refused]
            apply quiet_answered listed
            · rw [replied]
            · rw [replied]
            · intro about
              rw [replied]
              rfl
            · exact fun about => rfl
      | lose session error =>
          refine .lost index session error resourceId rfl requests rfl ?_ ?_
          · intro about
            rw [holders_answered listed]
            simp [LockState.perform, LockState.statement, afterRequest, granting]
          · intro about
            rw [owed_answered listed]
            simp [returning]
      | reject error =>
          apply quiet_answered listed
          · rfl
          · rfl
          · exact fun about => rfl
          · exact fun about => rfl
  | granted resourceId ttlMs =>
      refine .quiet rfl ?_ ?_
      · intro about
        rw [holders_answered listed]
        simp [LockState.perform, afterGrant, granting, LockClosure.held]
      · intro about
        rw [owed_answered listed]
        simp [returning]
  | claiming lock resourceId =>
      rcases closure lock resourceId rfl with ⟨own, found, named⟩
      have released := held_released found
      cases known : own.released with
      | true =>
          refine .quiet rfl ?_ ?_
          · intro about
            rw [holders_answered listed]
            simp [LockState.perform, found, known, afterClaim, granting, released, held_closed known]
          · intro about
            rw [owed_answered listed]
            simp [LockState.perform, found, known, afterClaim, returning]
      | false =>
          refine .claimed resourceId rfl ?_ ?_
          · intro about
            rw [holders_answered listed]
            simp only [LockState.perform, found, known, Bool.not_false, afterClaim, granting, released,
              held_open known, named]
            omega
          · intro about
            rw [owed_answered listed]
            simp [LockState.perform, found, known, afterClaim, returning]
  | checking lock resourceId =>
      apply quiet_answered listed
      · rfl
      · rfl
      · intro about
        rcases (config.shared.perform (.isReleased lock) choice).1 with error | (_ | _)
        · rfl
        · rfl
        · rfl
      · exact fun about => rfl
  | releasing lock resourceId =>
      exact unlock_answered listed rfl true (fun about => rfl) fun timer => by cases timer
  | expiring lock resourceId =>
      refine unlock_answered listed rfl false (fun about => rfl) ?_
      exact fun _ => ⟨_, List.mem_of_getElem? listed, lock, rfl⟩

/-- An answer takes a routine to its next stage. -/
theorem LockStage.next {task : LockTask} (stage : LockStage sha256 task (.await call resume))
    (reply : Except JsError call.Reply) : LockStage sha256 task (resume reply) := by
  cases stage with
  | requesting resourceId ttlMs =>
      rcases reply with error | (_ | _)
      · exact .rejected _ error
      · exact .returned _ none
      · exact .granted resourceId ttlMs
  | granted resourceId ttlMs =>
      cases reply with
      | error error => exact .rejected _ error
      | ok lock => exact .returned _ (some lock)
  | claiming lock resourceId =>
      rcases reply with error | (_ | _)
      · exact .rejected _ error
      · exact .returned _ none
      · exact .releasing lock resourceId
  | checking lock resourceId =>
      rcases reply with error | (_ | _)
      · exact .rejected _ error
      · exact .expiring lock resourceId
      · exact .returned _ none
  | releasing lock resourceId => exact .returned _ none
  | expiring lock resourceId => exact .returned _ none

/-- A closure stays, and stays about its resource. -/
theorem LockState.closure_kept {state : LockState sessions} {lock : LockId} {closure : LockClosure}
    (found : state.closures[lock]? = some closure) (call : LockCall) (choice : LockChoice sessions) :
    ∃ later, (state.perform call choice).2.closures[lock]? = some later ∧ later.resourceId = closure.resourceId := by
  cases call with
  | tryAdvisoryLock key =>
      cases choice with
      | _ => exact ⟨closure, found, rfl⟩
  | advisoryUnlock key =>
      cases choice with
      | _ => exact ⟨closure, found, rfl⟩
  | setTimeout resourceId ttlMs =>
      have inside := (List.getElem?_eq_some_iff.mp found).1
      exact ⟨closure, (List.getElem?_append_left inside).trans found, rfl⟩
  | claim other =>
      refine ⟨_, (List.getElem?_modify _ _ _ _).trans (congrArg _ found), ?_⟩
      split
      · rfl
      · rfl
  | isReleased other => exact ⟨closure, found, rfl⟩

/-- The stages are kept, and a step does one of the things listed. -/
theorem Staged.step (staged : Staged sha256 config) {move : LockMove sessions} {next : LockConfig sessions}
    (startable : config.Startable move) (stepped : (lockSystem sha256 sessions).Stepped config move next) :
    Staged sha256 next ∧ LockStep sha256 config move next := by
  cases stepped with
  | idle => exact ⟨staged, .quiet rfl (fun _ => rfl) (fun _ => rfl)⟩
  | stopped index => exact startable.elim
  | started task =>
      refine ⟨⟨?_, ?_⟩, .quiet rfl ?_ ?_⟩
      · intro thread member
        rcases List.mem_append.mp member with earlier | new
        · exact staged.stage thread earlier
        · rw [List.mem_singleton.mp new]
          exact .called task
      · intro thread member lock resourceId releases
        rcases List.mem_append.mp member with earlier | new
        · exact staged.closure thread earlier lock resourceId releases
        · rw [List.mem_singleton.mp new] at releases
          cases releases
          exact startable
      · intro about
        have nothing : granting about (task.program sha256) = 0 := by
          cases task with
          | _ => rfl
        rw [LockConfig.holders, List.map_append, List.sum_append]
        simp [lockSystem, nothing, LockConfig.holders]
      · intro about
        have nothing : returning about task (task.program sha256) = 0 := by
          cases task with
          | _ => rfl
        rw [LockConfig.owed, List.map_append, List.sum_append]
        simp [lockSystem, nothing, LockConfig.owed]
  | answered index choice thread call resume listed pending live =>
      refine ⟨⟨?_, ?_⟩, staged.answered listed pending⟩
      · intro other member
        rcases List.mem_or_eq_of_mem_set member with earlier | rfl
        · exact staged.stage other earlier
        · have stage := staged.stage thread (List.mem_of_getElem? listed)
          rw [pending] at stage
          exact stage.next _
      · intro other member lock resourceId releases
        have known : ∃ closure, config.shared.closures[lock]? = some closure ∧ closure.resourceId = resourceId := by
          rcases List.mem_or_eq_of_mem_set member with earlier | rfl
          · exact staged.closure other earlier lock resourceId releases
          · exact staged.closure thread (List.mem_of_getElem? listed) lock resourceId releases
        rcases known with ⟨closure, found, named⟩
        rcases LockState.closure_kept found call choice with ⟨later, kept, same⟩
        exact ⟨later, kept, same.trans named⟩

end Orderly
