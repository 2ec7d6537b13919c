import Orderly.Locking.Exclusion

/-!
# Released locks

An unlock has no effect unless the session that holds the key serves it.  Where
it always does, the key is held no more often than there are callers that hold
the lock or are about to give it back; so when all of them have, it is free.
-/

namespace Orderly

open Process (System)
open PostgresAdvisoryLock

variable {sha256 : String → List UInt8} {sessions : Nat} {config : LockConfig sessions} {resourceId : String}

/-- Every query is served by some session. -/
def Served (config : LockConfig sessions) (move : LockMove sessions) : Prop :=
  config.Startable move ∧ ∀ index choice, move = .advance index choice → ∃ session, choice = .serve session

/-- An unlock of the resource's key is served by the session that holds it, if
any does, and no other resource with that key is asked for. -/
structure OwnSession (sha256 : String → List UInt8) (resourceId : String) (config : LockConfig sessions)
    (move : LockMove sessions) : Prop where
  served : Served config move
  alone : ∀ index choice other, move = .advance index choice → config.Requests sha256 index other →
    toInt64 sha256 other = toInt64 sha256 resourceId → other = resourceId
  own : ∀ index session, move = .advance index (.serve session) →
    config.Unlocks index (toInt64 sha256 resourceId) →
      config.shared.table.depth (toInt64 sha256 resourceId) = 0 ∨
        0 < config.shared.table.count session (toInt64 sha256 resourceId)

/-- A call of a release function of the resource. -/
def LockTask.releases (resourceId : String) : LockTask → Bool
  | release _ name => name = resourceId
  | _ => false

/-- Every caller that acquired the resource has awaited its release function:
each lock has been released, and no release or hand-out is under way. -/
structure AllReturned (config : LockConfig sessions) (resourceId : String) : Prop where
  handed : ∀ thread ∈ config.threads, granting (only resourceId) thread.code = 0
  released : ∀ closure ∈ config.shared.closures, closure.resourceId = resourceId → closure.released = true
  awaited : ∀ thread ∈ config.threads, thread.task.releases resourceId = true → thread.code.finished = true

/-- No session holds the resource's key, and whoever asks for it gets it. -/
def KeyFree (sha256 : String → List UInt8) (config : LockConfig sessions) (resourceId : String) : Prop :=
  ∀ session, config.shared.table.count session (toInt64 sha256 resourceId) = 0 ∧
    (config.shared.table.tryLock session (toInt64 sha256 resourceId)).1 = true

/-- Then nobody holds the lock, and nobody is giving it back. -/
theorem AllReturned.nothing (returned : AllReturned config resourceId) :
    config.holders (only resourceId) = 0 ∧ config.owed (only resourceId) = 0 := by
  constructor
  · have closures : (config.shared.closures.map (LockClosure.held (only resourceId))).sum = 0 := by
      refine List.sum_eq_zero ?_
      intro value member
      rcases List.mem_map.mp member with ⟨closure, listed, rfl⟩
      unfold LockClosure.held
      split
      · rfl
      · next opened =>
          rw [unitOf_only]
          exact if_neg fun named => opened (returned.released closure listed named)
    have threads : (config.threads.map fun thread => granting (only resourceId) thread.code).sum = 0 := by
      refine List.sum_eq_zero ?_
      intro value member
      rcases List.mem_map.mp member with ⟨thread, listed, rfl⟩
      exact returned.handed thread listed
    rw [LockConfig.holders, closures, threads]
    rfl
  · refine List.sum_eq_zero ?_
    intro value member
    rcases List.mem_map.mp member with ⟨thread, listed, rfl⟩
    unfold returning
    split
    · next lock name key resume task code =>
        rw [unitOf_only]
        refine if_neg fun named => ?_
        subst named
        have finished := returned.awaited thread listed (by rw [task]; exact decide_eq_true rfl)
        rw [code] at finished
        cases finished
    · rfl

/-- The key is held no more often than somebody will give it back. -/
structure KeyCovered (sha256 : String → List UInt8) (resourceId : String) (config : LockConfig sessions) : Prop where
  staged : Staged sha256 config
  covered : config.shared.table.depth (toInt64 sha256 resourceId) ≤
    config.holders (only resourceId) + config.owed (only resourceId)

theorem KeyCovered.step (before : KeyCovered sha256 resourceId config) {move : LockMove sessions}
    {next : LockConfig sessions} (own : OwnSession sha256 resourceId config move) (staged : Staged sha256 next)
    (step : LockStep sha256 config move next) : KeyCovered sha256 resourceId next := by
  refine ⟨staged, ?_⟩
  have covered := before.covered
  cases step with
  | quiet table holders owed =>
      rw [table, holders, owed]
      exact covered
  | granted index session asked served requests grants table holders owed =>
      rcases config.shared.table.tryLock_cases session (toInt64 sha256 asked) with ⟨_, _, deeper⟩ | ⟨refused, _⟩
      · rw [table, holders, owed, deeper, unitOf_only]
        by_cases same : asked = resourceId
        · rw [if_pos same, if_pos (congrArg _ same.symm)]
          push_cast
          omega
        · rw [if_neg same, if_neg fun key => same (own.alone index _ asked served requests key.symm)]
          push_cast
          omega
      · rw [refused] at grants
        cases grants
  | lost index session error asked lost requests table holders owed =>
      rcases own.served.2 index _ lost with ⟨_, same⟩
      cases same
  | claimed released table holders owed =>
      rw [table, holders, owed]
      omega
  | unlocked index choice session released returned moved served unlocks timer table holders owed =>
      have nonneg := next.holders_nonneg (only resourceId)
      have nonneg' := next.owed_nonneg (only resourceId)
      rcases own.served.2 index choice moved with ⟨_, rfl⟩
      rcases served with same | ⟨error, same⟩
      · cases same
        rw [table, config.shared.table.unlock_depth]
        by_cases same : toInt64 sha256 resourceId = toInt64 sha256 released
        · rw [← same] at unlocks ⊢
          have atMost : (if returned then unitOf (only resourceId) released else 0) ≤ 1 := by
            rw [unitOf_only]
            split
            · split
              · exact Int.le_refl 1
              · exact Int.one_nonneg
            · exact Int.one_nonneg
          have least := owed (only resourceId)
          rw [holders] at nonneg ⊢
          rcases own.own index session moved unlocks with free | holds
          · rw [free, Nat.zero_sub]
            exact Int.add_nonneg nonneg nonneg'
          · rw [if_pos ⟨rfl, holds⟩]
            omega
        · have other : unitOf (only resourceId) released = 0 := by
            rw [unitOf_only]
            exact if_neg fun named => same (congrArg _ named.symm)
          rw [holders, owed, other, if_neg fun both => same both.1]
          split
          · omega
          · omega
      · cases same
  | failed index error released returned moved unlocks table holders owed =>
      rcases own.served.2 index _ moved with ⟨_, same⟩
      cases same

theorem covered_reached
    (reached : (lockSystem sha256 sessions).Reaches (OwnSession sha256 resourceId) (LockConfig.initial sessions)
      config) : KeyCovered sha256 resourceId config := by
  refine reached.induct ?_ ?_
  · refine ⟨⟨?_, ?_⟩, Int.le_refl 0⟩
    · intro thread member
      cases member
    · intro thread member
      cases member
  · intro config move next _ legal stepped covered
    rcases covered.staged.step legal.served.1 stepped with ⟨staged, step⟩
    exact covered.step legal staged step

/-- As long as every unlock is served by the session that holds the key, a lock
that all its callers have released is free. -/
theorem released_free_in_own_session (sha256 : String → List UInt8) (sessions : Nat) (resourceId : String)
    {config : LockConfig sessions}
    (reached : (lockSystem sha256 sessions).Reaches (OwnSession sha256 resourceId) (LockConfig.initial sessions)
      config) (returned : AllReturned config resourceId) : KeyFree sha256 config resourceId := by
  have covered := (covered_reached reached).covered
  rcases returned.nothing with ⟨holders, owed⟩
  have free : config.shared.table.depth (toInt64 sha256 resourceId) = 0 := by omega
  intro session
  exact ⟨Store.SessionLocks.depth_eq_zero_iff.mp free session, Store.SessionLocks.tryLock_free free⟩

/-- One caller, whose two statements are served by the second of two sessions. -/
theorem released_free_second_session : ∃ config : LockConfig 2,
    config.shared.closures.length = 1 ∧ KeyFree (fun _ => []) config "inventory:A" := by
  let system := lockSystem (fun _ => []) 2
  let asks : LockTask → Bool := fun
    | .acquire name _ => name = "inventory:A"
    | _ => true
  have served : ∀ (config : LockConfig 2) (index : Nat),
      (config.shared.table.depth 0 = 0 ∨ 0 < config.shared.table.count 1 0) →
      (∀ thread ∈ config.threads, asks thread.task = true) →
      OwnSession (fun _ => []) "inventory:A" config (.advance index (.serve 1)) := by
    intro config index own alone
    refine ⟨⟨trivial, fun _ _ same => ⟨1, by cases same; rfl⟩⟩, ?_, ?_⟩
    · rintro _ _ other same ⟨thread, ttlMs, _, listed, task, _⟩ _
      have asked := alone thread (List.mem_of_getElem? listed)
      rw [task] at asked
      exact of_decide_eq_true asked
    · intro _ _ same _
      cases same
      exact own
  have started : ∀ (config : LockConfig 2) (task : LockTask), config.Startable (.start task) →
      OwnSession (fun _ => []) "inventory:A" config (.start task) := by
    intro config task startable
    refine ⟨⟨startable, fun _ _ same => by cases same⟩, ?_, ?_⟩
    · exact fun _ _ _ same => by cases same
    · exact fun _ _ same => by cases same
  have asked : system.Reaches (OwnSession (fun _ => []) "inventory:A") (LockConfig.initial 2) _ :=
    .step (.start (.acquire "inventory:A" 5000)) .refl (started _ (.acquire "inventory:A" 5000) trivial)
  have granted := System.Reaches.step (.advance 0 (.serve 1)) asked (served _ 0 (by decide +kernel) (by decide +kernel))
  have handed := System.Reaches.step (.advance 0 (.serve 1)) granted (served _ 0 (by decide +kernel) (by decide +kernel))
  have called := System.Reaches.step (.start (.release 0 "inventory:A")) handed
    (started _ (.release 0 "inventory:A") ⟨_, rfl, rfl⟩)
  have claimed := System.Reaches.step (.advance 1 (.serve 1)) called (served _ 1 (by decide +kernel) (by decide +kernel))
  have unlocked := System.Reaches.step (.advance 1 (.serve 1)) claimed (served _ 1 (by decide +kernel) (by decide +kernel))
  refine ⟨_, ?_, released_free_in_own_session _ 2 _ unlocked ⟨?_, ?_, ?_⟩⟩
  · decide +kernel
  · decide +kernel
  · decide +kernel
  · decide +kernel

/-- The unlock goes through the other session, and the lock stays. -/
theorem unlock_misses_session : ¬∀ (sha256 : String → List UInt8) (sessions : Nat) (resourceId : String)
    (config : LockConfig sessions),
    (lockSystem sha256 sessions).Reaches Served (LockConfig.initial sessions) config →
      AllReturned config resourceId → KeyFree sha256 config resourceId := by
  intro frees
  let system := lockSystem (fun _ => []) 2
  have served : ∀ (config : LockConfig 2) (index : Nat) (session : Fin 2),
      Served config (.advance index (.serve session)) :=
    fun config index session => ⟨trivial, fun _ _ same => ⟨session, by cases same; rfl⟩⟩
  have started : ∀ (config : LockConfig 2) (task : LockTask), config.Startable (.start task) →
      Served config (.start task) := fun config task startable => ⟨startable, fun _ _ same => by cases same⟩
  have asked : system.Reaches Served (LockConfig.initial 2) _ :=
    .step (.start (.acquire "inventory:A" 5000)) .refl (started _ (.acquire "inventory:A" 5000) trivial)
  have granted := System.Reaches.step (.advance 0 (.serve 0)) asked (served _ 0 0)
  have handed := System.Reaches.step (.advance 0 (.serve 0)) granted (served _ 0 0)
  have called := System.Reaches.step (.start (.release 0 "inventory:A")) handed
    (started _ (.release 0 "inventory:A") ⟨_, rfl, rfl⟩)
  have claimed := System.Reaches.step (.advance 1 (.serve 1)) called (served _ 1 1)
  have missed := System.Reaches.step (.advance 1 (.serve 1)) claimed (served _ 1 1)
  have free := frees (fun _ => []) 2 "inventory:A" _ missed
    ⟨by decide +kernel, by decide +kernel, by decide +kernel⟩ 0
  have held := free.1
  revert held
  decide +kernel

end Orderly
