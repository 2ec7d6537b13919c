import Orderly.Locking.Steps
import Mathlib.Algebra.Order.BigOperators.Group.List

/-!
# Exclusion and release through a pool

A session may take a lock it holds once more.  Through a pool of sessions, a
second caller therefore gets a lock that is held whenever its request is served
by the session that holds it, and a released lock stays taken whenever its
unlock is served by another session than the one that took it.

Where no request meets the lock's own session, the lock is exclusive.  Where
each unlock meets the lock's own session, a released lock is free.
-/

namespace Orderly

open Process (System)
open PostgresAdvisoryLock

variable {sha256 : String → List UInt8} {sessions : Nat} {config : LockConfig sessions} {resourceId : String}

/-- The resources that have a key. -/
def withKey (sha256 : String → List UInt8) (key : Int) (resourceId : String) : Bool := toInt64 sha256 resourceId = key

/-- One resource. -/
def only (resourceId other : String) : Bool := other = resourceId

theorem unitOf_mono {narrow wide : String → Bool} (within : ∀ name, narrow name = true → wide name = true)
    (name : String) : unitOf narrow name ≤ unitOf wide name := by
  unfold unitOf
  by_cases inside : narrow name = true
  · rw [if_pos inside, if_pos (within name inside)]
  · rw [if_neg inside]
    split
    · exact Int.one_nonneg
    · exact Int.le_refl 0

theorem unitOf_nonneg (about : String → Bool) (name : String) : 0 ≤ unitOf about name := by
  unfold unitOf
  split
  · exact Int.one_nonneg
  · exact Int.le_refl 0

theorem unitOf_withKey (key : Int) (name : String) :
    unitOf (withKey sha256 key) name = if key = toInt64 sha256 name then 1 else 0 := by
  by_cases same : key = toInt64 sha256 name
  · simp [unitOf, withKey, same]
  · simp [unitOf, withKey, same, Ne.symm same]

theorem unitOf_only (name : String) : unitOf (only resourceId) name = if name = resourceId then 1 else 0 := by
  simp [unitOf, only]

namespace LockConfig

/-- More resources have more holders. -/
theorem holders_mono {narrow wide : String → Bool} (within : ∀ name, narrow name = true → wide name = true) :
    config.holders narrow ≤ config.holders wide := by
  refine Int.add_le_add (List.sum_le_sum ?_) (List.sum_le_sum ?_)
  · intro closure _
    unfold LockClosure.held
    split
    · exact Int.le_refl 0
    · exact unitOf_mono within _
  · intro thread _
    unfold granting
    split
    · exact unitOf_mono within _
    · exact Int.le_refl 0

theorem owed_nonneg (about : String → Bool) : 0 ≤ config.owed about := by
  refine List.sum_nonneg ?_
  intro value member
  rcases List.mem_map.mp member with ⟨thread, _, rfl⟩
  unfold returning
  split
  · exact unitOf_nonneg _ _
  · exact Int.le_refl 0

theorem granting_nonneg (about : String → Bool) :
    0 ≤ (config.threads.map fun thread => granting about thread.code).sum := by
  refine List.sum_nonneg ?_
  intro value member
  rcases List.mem_map.mp member with ⟨thread, _, rfl⟩
  unfold granting
  split
  · exact unitOf_nonneg _ _
  · exact Int.le_refl 0

theorem holders_nonneg (about : String → Bool) : 0 ≤ config.holders about := by
  refine Int.add_nonneg (List.sum_nonneg ?_) (config.granting_nonneg about)
  intro value member
  rcases List.mem_map.mp member with ⟨closure, _, rfl⟩
  unfold LockClosure.held
  split
  · exact Int.le_refl 0
  · exact unitOf_nonneg _ _

/-- The locks on a resource that callers have acquired and not yet released. -/
def held (config : LockConfig sessions) (resourceId : String) : List LockClosure :=
  config.shared.closures.filter fun closure => closure.resourceId = resourceId ∧ closure.released = false

/-- Who holds a lock counts as a holder. -/
theorem held_le_holders : ((config.held resourceId).length : Int) ≤ config.holders (only resourceId) := by
  have closures : ∀ closures : List LockClosure,
      ((closures.filter fun closure => closure.resourceId = resourceId ∧ closure.released = false).length : Int) =
        (closures.map (LockClosure.held (only resourceId))).sum := by
    intro closures
    induction closures with
    | nil => rfl
    | cons closure closures inductionHypothesis =>
        rw [List.map_cons, List.sum_cons, ← inductionHypothesis, List.filter_cons]
        by_cases named : closure.resourceId = resourceId
        · cases known : closure.released with
          | true => simp [LockClosure.held, known]
          | false =>
              simp [LockClosure.held, known, unitOf, only, named]
              omega
        · simp [LockClosure.held, unitOf, only, named]
  have granted := config.granting_nonneg (only resourceId)
  have held := closures config.shared.closures
  unfold holders LockConfig.held
  omega

end LockConfig

/-! ## Exclusion -/

/-- No timer fires. -/
def Untimed (config : LockConfig sessions) (move : LockMove sessions) : Prop :=
  config.Startable move ∧ ∀ lock resourceId, move ≠ .start (.expire lock resourceId)

/-- As long as a lock on the resource is held, no request for it is served by a
session that holds its key. -/
def OtherSession (sha256 : String → List UInt8) (resourceId : String) (config : LockConfig sessions)
    (move : LockMove sessions) : Prop :=
  ∀ index session, move = .advance index (.serve session) → config.Requests sha256 index resourceId →
    0 < config.shared.table.count session (toInt64 sha256 resourceId) → config.holders (only resourceId) = 0

/-- No timer fires, and no request meets the session of a held lock. -/
def BetweenSessions (sha256 : String → List UInt8) (resourceId : String) (config : LockConfig sessions)
    (move : LockMove sessions) : Prop :=
  Untimed config move ∧ OtherSession sha256 resourceId config move

/-- At most one caller holds a lock on the resource. -/
def LockExclusive (config : LockConfig sessions) (resourceId : String) : Prop := (config.held resourceId).length ≤ 1

/-- Without timers no routine is one. -/
theorem no_timer {Legal : LockConfig sessions → LockMove sessions → Prop}
    (untimed : ∀ config move, Legal config move → Untimed config move)
    (reached : (lockSystem sha256 sessions).Reaches Legal (LockConfig.initial sessions) config) :
    ∀ thread ∈ config.threads, ∀ lock resourceId, thread.task ≠ .expire lock resourceId := by
  refine reached.eachThread ?_ ?_ ?_ ?_
  · intro thread member
    cases member
  · intro config task legal lock resourceId same
    exact (untimed config _ legal).2 lock resourceId (congrArg _ same)
  · exact fun thread other => other
  · exact fun _ _ _ _ _ _ _ _ _ other => other

/-- Every lock that is held, or being given back, is held in the table, and at
most one on the resource is held. -/
structure Backed (sha256 : String → List UInt8) (resourceId : String) (config : LockConfig sessions) : Prop where
  staged : Staged sha256 config
  backed : ∀ key, config.holders (withKey sha256 key) + config.owed (withKey sha256 key) ≤
    config.shared.table.depth key
  single : config.holders (only resourceId) ≤ 1

/-- A request is granted only while nobody holds a lock on the resource. -/
theorem Backed.unheld (backed : Backed sha256 resourceId config) {session : Fin sessions}
    (free : config.shared.table.depth (toInt64 sha256 resourceId) = 0 ∨
      0 < config.shared.table.count session (toInt64 sha256 resourceId))
    (other : 0 < config.shared.table.count session (toInt64 sha256 resourceId) →
      config.holders (only resourceId) = 0) : config.holders (only resourceId) ≤ 0 := by
  rcases free with free | own
  · have within : ∀ name, only resourceId name = true → withKey sha256 (toInt64 sha256 resourceId) name = true := by
      intro name same
      rw [of_decide_eq_true same]
      exact decide_eq_true rfl
    have fewer := config.holders_mono within
    have nonneg := config.owed_nonneg (withKey sha256 (toInt64 sha256 resourceId))
    have least := backed.backed (toInt64 sha256 resourceId)
    omega
  · exact Int.le_of_eq (other own)

theorem Backed.step (backed : Backed sha256 resourceId config) {move : LockMove sessions}
    {next : LockConfig sessions} (other : OtherSession sha256 resourceId config move)
    (untimed : ∀ thread ∈ config.threads, ∀ lock resourceId, thread.task ≠ .expire lock resourceId)
    (staged : Staged sha256 next) (step : LockStep sha256 config move next) : Backed sha256 resourceId next := by
  have kept := backed.backed
  have single := backed.single
  cases step with
  | quiet table holders owed =>
      refine ⟨staged, ?_, ?_⟩
      · intro key
        rw [table, holders, owed]
        exact kept key
      · rw [holders]
        exact single
  | granted index session asked served requests grants table holders owed =>
      rcases config.shared.table.tryLock_cases session (toInt64 sha256 asked) with ⟨_, free, deeper⟩ | ⟨refused, _⟩
      · refine ⟨staged, ?_, ?_⟩
        · intro key
          have before := kept key
          rw [table, holders, owed, deeper, unitOf_withKey]
          split
          · push_cast
            omega
          · push_cast
            omega
        · rw [holders, unitOf_only]
          split
          · next same =>
              subst same
              have unheld := backed.unheld free (other index session served requests)
              omega
          · omega
      · rw [refused] at grants
        cases grants
  | lost index session error asked lost requests table holders owed =>
      refine ⟨staged, ?_, ?_⟩
      · intro key
        have before := kept key
        rw [holders, owed, table]
        rcases config.shared.table.tryLock_cases session (toInt64 sha256 asked) with ⟨_, _, deeper⟩ | ⟨refused, _⟩
        · rw [deeper]
          push_cast
          split
          · omega
          · omega
        · rw [refused]
          exact before
      · rw [holders]
        exact single
  | claimed released table holders owed =>
      refine ⟨staged, ?_, ?_⟩
      · intro key
        have before := kept key
        rw [table, holders, owed]
        omega
      · have nonneg := unitOf_nonneg (only resourceId) released
        rw [holders]
        omega
  | unlocked index choice session released returned moved served unlocks timer table holders owed =>
      refine ⟨staged, ?_, ?_⟩
      · intro key
        have before := kept key
        cases returned with
        | false =>
            rcases timer rfl with ⟨thread, member, lock, timed⟩
            exact absurd timed (untimed thread member lock released)
        | true =>
            rw [table, holders, owed, config.shared.table.unlock_depth, if_pos rfl, unitOf_withKey]
            by_cases same : key = toInt64 sha256 released
            · rw [if_pos same]
              split
              · omega
              · omega
            · rw [if_neg same, if_neg fun both => same both.1]
              omega
      · rw [holders]
        exact single
  | failed index error released returned moved unlocks table holders owed =>
      refine ⟨staged, ?_, ?_⟩
      · intro key
        have before := kept key
        have nonneg := unitOf_nonneg (withKey sha256 key) released
        rw [table, holders, owed]
        split
        · omega
        · omega
      · rw [holders]
        exact single

theorem backed_reached
    (reached : (lockSystem sha256 sessions).Reaches (BetweenSessions sha256 resourceId)
      (LockConfig.initial sessions) config) : Backed sha256 resourceId config := by
  refine reached.induct ?_ ?_
  · refine ⟨⟨?_, ?_⟩, ?_, ?_⟩
    · intro thread member
      cases member
    · intro thread member
      cases member
    · exact fun key => Int.le_refl 0
    · exact Int.zero_le_ofNat 1
  · intro config move next earlier legal stepped backed
    have timeless := no_timer (fun _ _ legal => legal.1) earlier
    rcases backed.staged.step legal.1.1 stepped with ⟨staged, step⟩
    exact backed.step legal.2 timeless staged step

/-- As long as no request for a held lock is served by the session that holds
it, the lock is exclusive. -/
theorem exclusive_between_sessions (sha256 : String → List UInt8) (sessions : Nat) (resourceId : String)
    {config : LockConfig sessions}
    (reached : (lockSystem sha256 sessions).Reaches (BetweenSessions sha256 resourceId)
      (LockConfig.initial sessions) config) : LockExclusive config resourceId := by
  have single := (backed_reached reached).single
  have held : ((config.held resourceId).length : Int) ≤ config.holders (only resourceId) := config.held_le_holders
  unfold LockExclusive
  omega

/-- Two callers ask for one resource, the second through the other session. -/
theorem exclusive_between_two : ∃ config : LockConfig 2,
    (config.held "inventory:A").length = 1 ∧ LockExclusive config "inventory:A" := by
  let system := lockSystem (fun _ => []) 2
  have apart : ∀ (config : LockConfig 2) (index : Nat) (session : Fin 2),
      config.shared.table.count session 0 = 0 →
      BetweenSessions (fun _ => []) "inventory:A" config (.advance index (.serve session)) := by
    intro config index session none
    refine ⟨⟨trivial, fun _ _ same => by cases same⟩, fun _ _ same _ own => ?_⟩
    cases same
    exact absurd none (Nat.ne_of_gt own)
  have asked : ∀ config : LockConfig 2,
      BetweenSessions (fun _ => []) "inventory:A" config (.start (.acquire "inventory:A" 5000)) :=
    fun config => ⟨⟨trivial, fun _ _ same => by cases same⟩, fun _ _ same => by cases same⟩
  have first : system.Reaches (BetweenSessions (fun _ => []) "inventory:A") (LockConfig.initial 2) _ :=
    .step (.start _) .refl (asked _)
  have granted := System.Reaches.step (.advance 0 (.serve 0)) first (apart _ 0 0 (by decide +kernel))
  have handed := System.Reaches.step (.advance 0 (.serve 1)) granted (apart _ 0 1 (by decide +kernel))
  have second := System.Reaches.step (.start (.acquire "inventory:A" 5000)) handed (asked _)
  have refused := System.Reaches.step (.advance 1 (.serve 1)) second (apart _ 1 1 (by decide +kernel))
  exact ⟨_, by decide +kernel, exclusive_between_sessions _ 2 _ refused⟩

/-- A pool of one session grants a lock to everybody. -/
theorem granted_twice : ¬∀ (sha256 : String → List UInt8) (sessions : Nat) (resourceId : String)
    (config : LockConfig sessions),
    (lockSystem sha256 sessions).Reaches Untimed (LockConfig.initial sessions) config →
      LockExclusive config resourceId := by
  intro exclusive
  let system := lockSystem (fun _ => []) 1
  have legal : ∀ (config : LockConfig 1) (index : Nat) (choice : LockChoice 1), Untimed config (.advance index choice) :=
    fun config index choice => ⟨trivial, fun _ _ same => by cases same⟩
  have asked : ∀ config : LockConfig 1, Untimed config (.start (.acquire "inventory:A" 5000)) :=
    fun config => ⟨trivial, fun _ _ same => by cases same⟩
  have first : system.Reaches Untimed (LockConfig.initial 1) _ := .step (.start _) .refl (asked _)
  have granted := System.Reaches.step (.advance 0 (.serve 0)) first (legal _ 0 _)
  have handed := System.Reaches.step (.advance 0 (.serve 0)) granted (legal _ 0 _)
  have second := System.Reaches.step (.start (.acquire "inventory:A" 5000)) handed (asked _)
  have again := System.Reaches.step (.advance 1 (.serve 0)) second (legal _ 1 _)
  have both := System.Reaches.step (.advance 1 (.serve 0)) again (legal _ 1 _)
  have atMostOne := exclusive (fun _ => []) 1 "inventory:A" _ both
  revert atMostOne
  unfold LockExclusive
  decide +kernel

end Orderly
