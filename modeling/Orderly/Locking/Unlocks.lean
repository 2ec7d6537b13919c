import Orderly.Locking.Steps
import Mathlib.Algebra.Order.BigOperators.Group.List

/-!
# The unlocks of one acquisition

The release function and the timer of a lock each look at the variable
`released` before they send an unlock, but only the release function sets it.
A timer that has fired leaves it as it was, so a release function that is called
later sends a second unlock.  Where no release function is called for the first
time after its timer has fired, each acquisition is undone at most once.
-/

namespace Orderly

open Process (Program System sum_map_set)
open PostgresAdvisoryLock

variable {sha256 : String → List UInt8} {sessions : Nat} {config : LockConfig sessions}

/-! ## Counting unlocks -/

def LockCall.isUnlock : LockCall → Bool
  | advisoryUnlock _ => true
  | _ => false

/-- A routine is waiting for its unlock. -/
def unlocking : Locking (Option LockId) → Int
  | .await call _ => if call.isUnlock then 1 else 0
  | _ => 0

/-- The unlocks a routine has issued, with the one it is waiting for. -/
def LockThread.issued (thread : LockThread sessions) : Int :=
  (thread.log.countP fun event => event.call.isUnlock) + unlocking thread.code

/-- The lock that a release function or a timer is about. -/
def LockTask.lock? : LockTask → Option LockId
  | acquire _ _ => none
  | release lock _ => some lock
  | expire lock _ => some lock

/-- Those it has issued for one acquisition. -/
def LockThread.issuedFor (lock : LockId) (thread : LockThread sessions) : Int :=
  if thread.task.lock? = some lock then LockThread.issued thread else 0

/-- The unlocks issued for one acquisition. -/
def LockConfig.unlocksFor (config : LockConfig sessions) (lock : LockId) : Int :=
  (config.threads.map (LockThread.issuedFor lock)).sum

/-- The timer of a lock has fired and found it unreleased. -/
def LockConfig.Fired (config : LockConfig sessions) (lock : LockId) : Prop :=
  ∃ thread ∈ config.threads, ∃ resourceId,
    thread.task = .expire lock resourceId ∧ LockThread.issued thread ≠ 0

/-- The routine is the first call of a lock's release function. -/
def LockConfig.Releases (config : LockConfig sessions) (index : Nat) (lock : LockId) : Prop :=
  ∃ (thread : LockThread sessions) (resume : _), config.threads[index]? = some thread ∧
    thread.code = .await (.claim lock) resume ∧
      ∃ closure, config.shared.closures[lock]? = some closure ∧ closure.released = false

/-- No release function is called for the first time after its timer has fired. -/
def Prompt (config : LockConfig sessions) (move : LockMove sessions) : Prop :=
  config.Startable move ∧ ∀ index choice lock, move = .advance index choice → config.Releases index lock →
    ¬ config.Fired lock

/-- Only an unlock that comes next adds to what a routine has issued. -/
theorem LockThread.issued_answered {thread : LockThread sessions} {call : LockCall}
    {resume : Except JsError call.Reply → Locking (Option LockId)} (pending : thread.code = .await call resume)
    (event : Process.Event lockPorts JsError (LockState sessions)) (same : event.call = call)
    (rest : Locking (Option LockId)) :
    LockThread.issued (thread.answered event rest) = LockThread.issued thread + unlocking rest := by
  have grown : (event :: thread.log).countP (fun event => event.call.isUnlock) =
      thread.log.countP (fun event => event.call.isUnlock) + if call.isUnlock then 1 else 0 := by
    rw [List.countP_cons, same]
  have waited : unlocking thread.code = if call.isUnlock then 1 else 0 := by
    rw [pending]
    rfl
  unfold LockThread.issued
  rw [waited]
  change ((event :: thread.log).countP (fun event => event.call.isUnlock) : Int) + unlocking rest = _
  rw [grown]
  split
  · push_cast
    omega
  · push_cast
    omega

/-! ## What the routines have done -/

/-- What the number of unlocks rests on. -/
structure Unlocking (sha256 : String → List UInt8) (config : LockConfig sessions) : Prop where
  staged : Staged sha256 config
  /-- nothing follows an unlock -/
  last : ∀ thread ∈ config.threads, thread.code.finished = false →
    thread.log.countP (fun event => event.call.isUnlock) = 0
  /-- a release function that has issued its unlock has released the lock -/
  released : ∀ thread ∈ config.threads, ∀ lock resourceId, thread.task = .release lock resourceId →
    LockThread.issued thread ≠ 0 → ∃ closure, config.shared.closures[lock]? = some closure ∧ closure.released = true
  /-- a timer belongs to its lock -/
  timers : ∀ thread ∈ config.threads, ∀ lock resourceId, thread.task = .expire lock resourceId →
    ∃ closure, config.shared.closures[lock]? = some closure ∧ closure.resourceId = resourceId
  /-- and fires once -/
  single : ∀ (index other : Nat) (thread thread' : LockThread sessions) (lock : LockId) (resourceId : String),
    config.threads[index]? = some thread → config.threads[other]? = some thread' →
    thread.task = .expire lock resourceId → thread'.task = .expire lock resourceId → index = other
  once : ∀ lock, config.unlocksFor lock ≤ 1

namespace Unlocking

/-- A routine before its unlock has issued none. -/
theorem issued_none (unlocking' : Unlocking sha256 config) {thread : LockThread sessions}
    (member : thread ∈ config.threads) {call : LockCall}
    {resume : Except JsError call.Reply → Locking (Option LockId)} (pending : thread.code = .await call resume)
    (other : call.isUnlock = false) : LockThread.issued thread = 0 := by
  unfold LockThread.issued
  rw [unlocking'.last thread member (by rw [pending]; rfl), pending]
  change (0 : Int) + (if call.isUnlock then 1 else 0) = 0
  rw [other]
  rfl

/-- No unlock has been issued for a lock that is open and whose timer has not fired. -/
theorem unlocksFor_open (unlocking' : Unlocking sha256 config) {lock : LockId} {closure : LockClosure}
    (found : config.shared.closures[lock]? = some closure) (opened : closure.released = false)
    (unfired : ¬ config.Fired lock) : config.unlocksFor lock = 0 := by
  refine List.sum_eq_zero ?_
  intro value member
  rcases List.mem_map.mp member with ⟨thread, listed, rfl⟩
  unfold LockThread.issuedFor
  split
  · next about =>
      by_contra issued
      cases task : thread.task with
      | acquire resourceId ttlMs =>
          rw [task] at about
          cases about
      | release other resourceId =>
          rw [task] at about
          cases about
          rcases unlocking'.released thread listed lock resourceId task issued with ⟨known, same, closed⟩
          cases found.symm.trans same
          rw [opened] at closed
          cases closed
      | expire other resourceId =>
          rw [task] at about
          cases about
          exact unfired ⟨thread, listed, resourceId, task, issued⟩
  · rfl

end Unlocking

/-- The count after an answer. -/
theorem unlocksFor_answered {index : Nat} {thread : LockThread sessions} {choice : LockChoice sessions}
    {call : LockCall} {resume : Except JsError call.Reply → Locking (Option LockId)}
    (listed : config.threads[index]? = some thread) (pending : thread.code = .await call resume) (lock : LockId) :
    (config.answered sha256 index choice thread call resume).unlocksFor lock = config.unlocksFor lock +
      if thread.task.lock? = some lock then unlocking (resume (config.shared.perform call choice).1) else 0 := by
  have issued := LockThread.issued_answered pending ((lockSystem sha256 sessions).answer config.shared call choice) rfl
    (resume (config.shared.perform call choice).1)
  refine (sum_map_set _ _ _ _ _ listed).trans ?_
  have grown : LockThread.issuedFor lock (thread.answered
      ((lockSystem sha256 sessions).answer config.shared call choice) (resume (config.shared.perform call choice).1)) -
        LockThread.issuedFor lock thread =
      if thread.task.lock? = some lock then unlocking (resume (config.shared.perform call choice).1) else 0 := by
    unfold LockThread.issuedFor
    rw [issued]
    change (if thread.task.lock? = some lock then _ else _) - _ = _
    split
    · omega
    · rfl
  rw [grown]
  rfl

/-- A released lock stays released. -/
theorem LockState.released_kept {state : LockState sessions} {lock : LockId} {closure : LockClosure}
    (found : state.closures[lock]? = some closure) (closed : closure.released = true) (call : LockCall)
    (choice : LockChoice sessions) :
    ∃ later, (state.perform call choice).2.closures[lock]? = some later ∧ later.released = true := by
  cases call with
  | tryAdvisoryLock key =>
      cases choice with
      | _ => exact ⟨closure, found, closed⟩
  | advisoryUnlock key =>
      cases choice with
      | _ => exact ⟨closure, found, closed⟩
  | setTimeout resourceId ttlMs =>
      have inside := (List.getElem?_eq_some_iff.mp found).1
      exact ⟨closure, (List.getElem?_append_left inside).trans found, closed⟩
  | claim other =>
      refine ⟨_, (List.getElem?_modify _ _ _ _).trans (congrArg _ found), ?_⟩
      split
      · rfl
      · exact closed
  | isReleased other => exact ⟨closure, found, closed⟩

/-- Which answers an unlock follows: a first claim, and a timer that finds its lock
open. -/
inductive Sends (config : LockConfig sessions) : LockTask → LockCall → Prop where
  | claimed (lock : LockId) (resourceId : String) (closure : LockClosure)
      (found : config.shared.closures[lock]? = some closure) (opened : closure.released = false) :
      Sends config (.release lock resourceId) (.claim lock)
  | fired (lock : LockId) (resourceId : String) (closure : LockClosure)
      (found : config.shared.closures[lock]? = some closure) (opened : closure.released = false) :
      Sends config (.expire lock resourceId) (.isReleased lock)

/-- Any other answer is followed by no unlock. -/
theorem LockStage.sends (config : LockConfig sessions) {task : LockTask} {call : LockCall}
    {resume : Except JsError call.Reply → Locking (Option LockId)}
    (stage : LockStage sha256 task (.await call resume)) (choice : LockChoice sessions) :
    (unlocking (resume (config.shared.perform call choice).1) = 1 ∧ Sends config task call) ∨
      unlocking (resume (config.shared.perform call choice).1) = 0 := by
  cases stage with
  | requesting resourceId ttlMs =>
      rcases (config.shared.perform (.tryAdvisoryLock (toInt64 sha256 resourceId)) choice).1 with error | (_ | _)
      · exact Or.inr rfl
      · exact Or.inr rfl
      · exact Or.inr rfl
  | granted resourceId ttlMs => exact Or.inr rfl
  | claiming lock resourceId =>
      cases found : config.shared.closures[lock]? with
      | none =>
          refine Or.inr ?_
          simp [LockState.perform, found, afterClaim, unlocking]
      | some closure =>
          cases opened : closure.released with
          | false =>
              refine Or.inl ⟨?_, .claimed lock resourceId closure found opened⟩
              simp [LockState.perform, found, opened, afterClaim, unlocking, LockCall.isUnlock]
          | true =>
              refine Or.inr ?_
              simp [LockState.perform, found, opened, afterClaim, unlocking]
  | checking lock resourceId =>
      cases found : config.shared.closures[lock]? with
      | none =>
          refine Or.inr ?_
          simp [LockState.perform, found, Except.map, afterClaim, unlocking]
      | some closure =>
          cases opened : closure.released with
          | false =>
              refine Or.inl ⟨?_, .fired lock resourceId closure found opened⟩
              simp [LockState.perform, found, opened, Except.map, afterClaim, unlocking, LockCall.isUnlock]
          | true =>
              refine Or.inr ?_
              simp [LockState.perform, found, opened, Except.map, afterClaim, unlocking]
  | releasing lock resourceId => exact Or.inr rfl
  | expiring lock resourceId => exact Or.inr rfl

/-- After an unlock nothing is left to do. -/
theorem LockStage.after_unlock {task : LockTask} {call : LockCall}
    {resume : Except JsError call.Reply → Locking (Option LockId)}
    (stage : LockStage sha256 task (.await call resume)) (unlock : call.isUnlock = true) (reply : _) :
    (resume reply).finished = true := by
  cases stage with
  | requesting => cases unlock
  | granted => cases unlock
  | claiming => cases unlock
  | checking => cases unlock
  | releasing => rfl
  | expiring => rfl

namespace Unlocking

variable {index : Nat} {thread : LockThread sessions} {choice : LockChoice sessions} {call : LockCall}
  {resume : Except JsError call.Reply → Locking (Option LockId)}

/-- A timer that has not looked yet is the only one of its lock. -/
theorem unfired (unlocking' : Unlocking sha256 config) (listed : config.threads[index]? = some thread)
    {lock : LockId} {resourceId : String} (task : thread.task = .expire lock resourceId)
    (none : LockThread.issued thread = 0) : ¬ config.Fired lock := by
  rintro ⟨other, member, name, task', issued⟩
  rcases unlocking'.timers thread (List.mem_of_getElem? listed) lock resourceId task with ⟨closure, found, named⟩
  rcases unlocking'.timers other member lock name task' with ⟨closure', found', named'⟩
  cases found.symm.trans found'
  rw [named] at named'
  subst named'
  rcases List.getElem?_of_mem member with ⟨position, listed'⟩
  have same := unlocking'.single index position thread other lock resourceId listed listed' task task'
  subst same
  cases listed.symm.trans listed'
  exact issued none

/-- An answer adds at most the first unlock of an acquisition. -/
theorem once_answered (unlocking' : Unlocking sha256 config) (prompt : Prompt config (.advance index choice))
    (listed : config.threads[index]? = some thread) (pending : thread.code = .await call resume) (lock : LockId) :
    (config.answered sha256 index choice thread call resume).unlocksFor lock ≤ 1 := by
  have member := List.mem_of_getElem? listed
  have stage := unlocking'.staged.stage thread member
  rw [pending] at stage
  rw [unlocksFor_answered listed pending]
  split
  · next about =>
      rcases stage.sends config choice with ⟨sent, sends⟩ | nothing
      · have before : config.unlocksFor lock = 0 := by
          generalize same : thread.task = task at sends about
          cases sends with
          | claimed other resourceId closure found opened =>
              cases about
              refine unlocking'.unlocksFor_open found opened ?_
              exact prompt.2 index choice lock rfl ⟨thread, resume, listed, pending, closure, found, opened⟩
          | fired other resourceId closure found opened =>
              cases about
              refine unlocking'.unlocksFor_open found opened ?_
              exact unlocking'.unfired listed same (unlocking'.issued_none member pending rfl)
        rw [before, sent]
        exact Int.le_refl 1
      · rw [nothing, Int.add_zero]
        exact unlocking'.once lock
  · rw [Int.add_zero]
    exact unlocking'.once lock

theorem answered (unlocking' : Unlocking sha256 config) (prompt : Prompt config (.advance index choice))
    (listed : config.threads[index]? = some thread) (pending : thread.code = .await call resume)
    (staged : Staged sha256 (config.answered sha256 index choice thread call resume)) :
    Unlocking sha256 (config.answered sha256 index choice thread call resume) := by
  have member := List.mem_of_getElem? listed
  have stage := unlocking'.staged.stage thread member
  rw [pending] at stage
  -- the routine that moved, or one that was there before
  have routines : ∀ other ∈ (config.answered sha256 index choice thread call resume).threads,
      other ∈ config.threads ∨ other = thread.answered ((lockSystem sha256 sessions).answer config.shared call choice)
        (resume (config.shared.perform call choice).1) :=
    fun other listed => List.mem_or_eq_of_mem_set listed
  constructor
  · exact staged
  · intro other found unfinished
    rcases routines other found with earlier | rfl
    · exact unlocking'.last other earlier unfinished
    · have quiet : call.isUnlock = false := by
        by_contra unlock
        have finished := stage.after_unlock (Bool.eq_true_of_not_eq_false unlock)
          (config.shared.perform call choice).1
        change (resume (config.shared.perform call choice).1).finished = false at unfinished
        rw [finished] at unfinished
        cases unfinished
      have none := unlocking'.last thread member (by rw [pending]; rfl)
      change (_ :: thread.log).countP (fun event => event.call.isUnlock) = 0
      rw [List.countP_cons, none]
      change 0 + (if call.isUnlock = true then 1 else 0) = 0
      rw [quiet]
      rfl
  · intro other found lock resourceId task issued
    have kept : ∀ earlier ∈ config.threads, earlier.task = .release lock resourceId →
        LockThread.issued earlier ≠ 0 → ∃ closure, (config.shared.perform call choice).2.closures[lock]? =
          some closure ∧ closure.released = true := by
      intro earlier known task issued
      rcases unlocking'.released earlier known lock resourceId task issued with ⟨closure, present, closed⟩
      exact LockState.released_kept present closed call choice
    rcases routines other found with earlier | rfl
    · exact kept other earlier task issued
    · by_cases before : LockThread.issued thread = 0
      · rcases stage.sends config choice with ⟨_, sends⟩ | nothing
        · change thread.task = _ at task
          rw [task] at sends
          cases sends with
          | claimed _ _ closure present opened =>
              refine ⟨_, (List.getElem?_modify _ _ _ _).trans (congrArg _ present), ?_⟩
              simp
        · rw [LockThread.issued_answered pending _ rfl, before, nothing] at issued
          exact absurd rfl issued
      · exact kept thread member task before
  · intro other found lock resourceId task
    have known : ∃ closure, config.shared.closures[lock]? = some closure ∧ closure.resourceId = resourceId := by
      rcases routines other found with earlier | rfl
      · exact unlocking'.timers other earlier lock resourceId task
      · exact unlocking'.timers thread member lock resourceId task
    rcases known with ⟨closure, present, named⟩
    rcases LockState.closure_kept present call choice with ⟨later, there, same⟩
    exact ⟨later, there, same.trans named⟩
  · intro first second other other' lock resourceId found found' task task'
    have earlier : ∀ {position : Nat} {routine : LockThread sessions},
        (config.answered sha256 index choice thread call resume).threads[position]? = some routine →
          ∃ old : LockThread sessions, config.threads[position]? = some old ∧ old.task = routine.task := by
      intro position routine found
      rcases System.getElem?_set_cases listed found with ⟨rfl, rfl⟩ | ⟨_, found⟩
      · exact ⟨thread, listed, rfl⟩
      · exact ⟨routine, found, rfl⟩
    rcases earlier found with ⟨old, known, same⟩
    rcases earlier found' with ⟨old', known', same'⟩
    exact unlocking'.single first second old old' lock resourceId known known' (same.trans task) (same'.trans task')
  · exact unlocking'.once_answered prompt listed pending

/-- A new routine has issued nothing. -/
theorem started (unlocking' : Unlocking sha256 config) {task : LockTask} (startable : config.Startable (.start task))
    (staged : Staged sha256 { config with threads := config.threads ++ [{ task, code := task.program sha256 }] }) :
    Unlocking sha256 { config with threads := config.threads ++ [{ task, code := task.program sha256 }] } := by
  have nothing : unlocking (task.program sha256) = 0 := by
    cases task with
    | _ => rfl
  have routines : ∀ thread ∈ config.threads ++ [{ task, code := task.program sha256 }],
      thread ∈ config.threads ∨ thread = { task, code := task.program sha256 } := by
    intro thread member
    rcases List.mem_append.mp member with earlier | new
    · exact Or.inl earlier
    · exact Or.inr (List.mem_singleton.mp new)
  constructor
  · exact staged
  · intro thread member unfinished
    rcases routines thread member with earlier | rfl
    · exact unlocking'.last thread earlier unfinished
    · rfl
  · intro thread member lock resourceId same issued
    rcases routines thread member with earlier | rfl
    · exact unlocking'.released thread earlier lock resourceId same issued
    · refine absurd ?_ issued
      change (0 : Int) + unlocking (task.program sha256) = 0
      rw [nothing]
      rfl
  · intro thread member lock resourceId same
    rcases routines thread member with earlier | rfl
    · exact unlocking'.timers thread earlier lock resourceId same
    · change task = _ at same
      subst same
      rcases startable with ⟨⟨closure, found, named, _⟩, _⟩
      exact ⟨closure, found, named⟩
  · have known : ∀ {position : Nat} {thread : LockThread sessions},
        (config.threads ++ [{ task, code := task.program sha256 }])[position]? = some thread →
          config.threads[position]? = some thread ∨ (position = config.threads.length ∧ thread.task = task) := by
      intro position thread found
      rcases Nat.lt_trichotomy position config.threads.length with inside | last | outside
      · rw [List.getElem?_append_left inside] at found
        exact Or.inl found
      · subst last
        rw [List.getElem?_append_right (Nat.le_refl _), Nat.sub_self] at found
        cases found
        exact Or.inr ⟨rfl, rfl⟩
      · rw [List.getElem?_eq_none (by simp; omega)] at found
        cases found
    intro first second thread thread' lock resourceId found found' same same'
    rcases known found with earlier | ⟨last, own⟩
    · rcases known found' with earlier' | ⟨_, own'⟩
      · exact unlocking'.single first second thread thread' lock resourceId earlier earlier' same same'
      · rw [same'] at own'
        subst own'
        exact absurd same (startable.2 thread (List.mem_of_getElem? earlier))
    · rcases known found' with earlier' | ⟨last', _⟩
      · rw [same] at own
        subst own
        exact absurd same' (startable.2 thread' (List.mem_of_getElem? earlier'))
      · rw [last, last']
  · intro lock
    have empty : LockThread.issuedFor lock ({ task, code := task.program sha256 } : LockThread sessions) = 0 := by
      unfold LockThread.issuedFor
      split
      · change (0 : Int) + unlocking (task.program sha256) = 0
        rw [nothing]
        rfl
      · rfl
    have same : LockConfig.unlocksFor
        { config with threads := config.threads ++ [{ task, code := task.program sha256 }] } lock =
          config.unlocksFor lock := by
      unfold LockConfig.unlocksFor
      rw [List.map_append, List.sum_append, List.map_singleton, List.sum_singleton, empty, Int.add_zero]
    rw [same]
    exact unlocking'.once lock

theorem step (unlocking' : Unlocking sha256 config) {move : LockMove sessions} {next : LockConfig sessions}
    (prompt : Prompt config move) (stepped : (lockSystem sha256 sessions).Stepped config move next) :
    Unlocking sha256 next := by
  have staged := (unlocking'.staged.step prompt.1 stepped).1
  cases stepped with
  | idle => exact unlocking'
  | stopped index => exact prompt.1.elim
  | started task => exact unlocking'.started prompt.1 staged
  | answered index choice thread call resume listed pending live =>
      exact unlocking'.answered prompt listed pending staged

end Unlocking

/-- Where no release function is called for the first time after its timer has
fired, each acquisition is undone at most once. -/
theorem unlocked_once (sha256 : String → List UInt8) (sessions : Nat) {config : LockConfig sessions}
    (reached : (lockSystem sha256 sessions).Reaches Prompt (LockConfig.initial sessions) config) (lock : LockId) :
    config.unlocksFor lock ≤ 1 := by
  have unlocking' : Unlocking sha256 config := by
    refine reached.induct ?_ ?_
    · constructor
      · constructor
        · intro thread member
          cases member
        · intro thread member
          cases member
      · intro thread member
        cases member
      · intro thread member
        cases member
      · intro thread member
        cases member
      · intro index other thread thread' lock resourceId found
        cases found
      · intro lock
        exact Int.one_nonneg
    · intro config move next _ prompt stepped unlocking'
      exact unlocking'.step prompt stepped
  exact unlocking'.once lock

/-- A caller gives its lock back, and its timer finds it released. -/
theorem unlocked_once_released : ∃ config : LockConfig 1,
    config.shared.closures.length = 1 ∧ config.unlocksFor 0 = 1 ∧ ∀ lock, config.unlocksFor lock ≤ 1 := by
  let system := lockSystem (fun _ => []) 1
  have started : ∀ (config : LockConfig 1) (task : LockTask), config.Startable (.start task) →
      Prompt config (.start task) := fun config task startable => ⟨startable, fun _ _ _ same => by cases same⟩
  let called : LockTask → Bool := fun
    | .expire _ _ => false
    | _ => true
  have advanced : ∀ (config : LockConfig 1) (index : Nat), (∀ thread ∈ config.threads, called thread.task = true) →
      Prompt config (.advance index (.serve 0)) := by
    intro config index untimed
    refine ⟨trivial, ?_⟩
    rintro _ _ lock _ _ ⟨thread, member, resourceId, task, _⟩
    have same := untimed thread member
    rw [task] at same
    cases same
  have asked : system.Reaches Prompt (LockConfig.initial 1) _ :=
    .step (.start (.acquire "inventory:A" 10000)) .refl (started _ (.acquire "inventory:A" 10000) trivial)
  have granted := System.Reaches.step (.advance 0 (.serve 0)) asked (advanced _ 0 (by decide +kernel))
  have handed := System.Reaches.step (.advance 0 (.serve 0)) granted (advanced _ 0 (by decide +kernel))
  have calling := System.Reaches.step (.start (.release 0 "inventory:A")) handed
    (started _ (.release 0 "inventory:A") ⟨_, rfl, rfl⟩)
  have claimed := System.Reaches.step (.advance 1 (.serve 0)) calling (advanced _ 1 (by decide +kernel))
  have unlocked := System.Reaches.step (.advance 1 (.serve 0)) claimed (advanced _ 1 (by decide +kernel))
  exact ⟨_, by decide +kernel, by decide +kernel, unlocked_once _ 1 unlocked⟩

/-- The timer fires, another caller gets the lock in the same session, and the
late release function gives that one back. -/
theorem unlocked_twice : ¬∀ (sha256 : String → List UInt8) (sessions : Nat) (config : LockConfig sessions),
    (lockSystem sha256 sessions).Reaches LockConfig.Startable (LockConfig.initial sessions) config →
      ∀ lock, config.unlocksFor lock ≤ 1 := by
  intro once
  let system := lockSystem (fun _ => []) 1
  let called : LockTask → Bool := fun
    | .expire _ _ => false
    | _ => true
  have acquires : ∀ config : LockConfig 1, config.Startable (.start (.acquire "inventory:A" 10000)) :=
    fun _ => trivial
  have fires : ∀ config : LockConfig 1, config.shared.closures[0]? = some ⟨"inventory:A", 10000, false⟩ →
      (∀ thread ∈ config.threads, called thread.task = true) →
      config.Startable (.start (.expire 0 "inventory:A")) := by
    intro config found untimed
    refine ⟨⟨_, found, rfl, rfl⟩, ?_⟩
    intro thread member timer
    have same := untimed thread member
    rw [timer] at same
    cases same
  have releases : ∀ config : LockConfig 1, config.shared.closures[0]? = some ⟨"inventory:A", 10000, false⟩ →
      config.Startable (.start (.release 0 "inventory:A")) := fun _ found => ⟨_, found, rfl⟩
  have asked : system.Reaches LockConfig.Startable (LockConfig.initial 1) _ := .step (.start _) .refl (acquires _)
  have granted := System.Reaches.step (.advance 0 (.serve 0)) asked trivial
  have handed := System.Reaches.step (.advance 0 (.serve 0)) granted trivial
  have fired := System.Reaches.step (.start _) handed (fires _ (by decide +kernel) (by decide +kernel))
  have checked := System.Reaches.step (.advance 1 (.serve 0)) fired trivial
  have expired := System.Reaches.step (.advance 1 (.serve 0)) checked trivial
  have second := System.Reaches.step (.start _) expired (acquires _)
  have regranted := System.Reaches.step (.advance 2 (.serve 0)) second trivial
  have rehanded := System.Reaches.step (.advance 2 (.serve 0)) regranted trivial
  have calling := System.Reaches.step (.start _) rehanded (releases _ (by decide +kernel))
  have claimed := System.Reaches.step (.advance 3 (.serve 0)) calling trivial
  have unlocked := System.Reaches.step (.advance 3 (.serve 0)) claimed trivial
  have atMostOne := once (fun _ => []) 1 _ unlocked 0
  revert atMostOne
  decide +kernel

end Orderly
