import Orderly.Domain.DecimalTexts
import Orderly.Ordering.Observations
import Orderly.Process.Tally

/-!
# The rate limiter and its counters

Any number of calls of `isAllowed`, from any number of instances, on one Redis
that is available.  A command is carried out at once, some time after the one
before, and the instances and Redis read the same clock.  A counter lives until
the time `PEXPIREAT` has set; setting a time that has come removes it.
-/

namespace Orderly

open Process (Config Event Log Move Program System Thread)

/-! ## Redis -/

/-- A counter, and when it expires. -/
structure RedisCounter where
  count : Nat
  expiresAt : Option Date := none

structure Redis where
  clock : Date
  counters : String → Option RedisCounter := fun _ => none

namespace Redis

/-- The counter that a command finds under a key. -/
def find (redis : Redis) (key : String) : Option RedisCounter :=
  (redis.counters key).filter fun counter => counter.expiresAt.all fun time => redis.clock ≤ time

def store (redis : Redis) (key : String) (counter : Option RedisCounter) : Redis :=
  { redis with counters := Function.update redis.counters key counter }

def incr (redis : Redis) (key : String) : Nat × Redis :=
  let counter := (redis.find key).getD { count := 0 }
  (counter.count + 1, redis.store key (some { counter with count := counter.count + 1 }))

def pexpireat (redis : Redis) (key : String) (time : Nat) : Redis :=
  match redis.find key with
  | none => redis
  | some counter => redis.store key (if time ≤ redis.clock then none else some { counter with expiresAt := some time })

/-- So many milliseconds later. -/
def later (redis : Redis) (elapsed : Nat) : Redis := { redis with clock := redis.clock + elapsed }

/-- A call that is carried out.  The limiter makes no others than the first three. -/
def effect (redis : Redis) : (call : IntakeCall) → Except JsError call.Reply × Redis
  | .newDate => (.ok redis.clock, redis)
  | .incr key => (.ok (redis.incr key).1, (redis.incr key).2)
  | .pexpireat key time => (.ok (), redis.pexpireat key time)
  | .uuidv4 => (.ok (0 : Nat), redis)
  | .get _ => (.ok none, redis)
  | .execute _ => (.ok (), redis)
  | .commit _ => (.ok (), redis)
  | .addJob _ _ => (.ok (), redis)
  | .set _ _ _ => (.ok (), redis)

/-- A call, so many milliseconds after the one before. -/
def perform (redis : Redis) (call : IntakeCall) (elapsed : Nat) : Except JsError call.Reply × Redis :=
  (redis.later elapsed).effect call

end Redis

/-- The calls of `isAllowed`, by the client they are made for. -/
def limiter (config : ApiConfig) : System intake JsError Redis String Nat RateLimitResult where
  program := RateLimiter.isAllowed config
  perform := Redis.perform

abbrev RateLog := Log intake JsError Redis

abbrev RateCalls := Config intake JsError Redis String RateLimitResult

namespace RateLimiter

variable (config : ApiConfig)

/-- The start of the window in which a time lies. -/
def windowOf (now : Nat) : Nat := now / config.rateLimitWindowMs * config.rateLimitWindowMs

/-- Its end, when its counter is reset. -/
def resetOf (now : Nat) : Nat := windowOf config now + config.rateLimitWindowMs

/-- What a request that is counted at this number is told. -/
def outcome (now : Nat) (current : Nat) : RateLimitResult where
  allowed := decide (current ≤ config.rateLimitMax)
  remaining := config.rateLimitMax - current
  resetTime := resetOf config now

/-- The time that a call has read. -/
def timeOf (log : RateLog) : Option Nat := log.findSome? fun event =>
  match event with
  | ⟨.newDate, .ok now, _, _⟩ => some now
  | _ => none

/-- The number at which it has been counted. -/
def numberOf (log : RateLog) : Option Nat := log.findSome? fun event =>
  match event with
  | ⟨.incr _, .ok current, _, _⟩ => some current
  | _ => none

/-! ## One call -/

/-- What is left once the window's counter has been created. -/
structure Limits (now : Nat) (resume : Except JsError Unit → Intake RateLimitResult) : Prop where
  limited : resume (.ok ()) = .done (outcome config now 1)

/-- What is left once the request has been counted. -/
structure Counts (client : String) (now : Nat) (resume : Except JsError Nat → Intake RateLimitResult) : Prop where
  counted : ∀ current, current ≠ 1 → resume (.ok current) = .done (outcome config now current)
  created : ∃ resume', resume (.ok 1) =
    .await (.pexpireat (key client (windowOf config now)) (resetOf config now)) resume' ∧ Limits config now resume'

/-- How far a call has come. -/
inductive Stage (client : String) : RateLog → Intake RateLimitResult → Prop where
  | arrived {resume}
      (timed : ∀ now, ∃ resume', resume (.ok now) = .await (.incr (key client (windowOf config now))) resume' ∧
        Counts config client now resume') :
      Stage client [] (.await .newDate resume)
  | timed {now before after resume} (counts : Counts config client now resume) :
      Stage client [⟨.newDate, .ok now, before, after⟩] (.await (.incr (key client (windowOf config now))) resume)
  | creating {now before after before' after' resume} (limits : Limits config now resume) :
      Stage client
        [⟨.incr (key client (windowOf config now)), .ok (1 : Nat), before', after'⟩, ⟨.newDate, .ok now, before, after⟩]
        (.await (.pexpireat (key client (windowOf config now)) (resetOf config now)) resume)
  | counted {now current log} (time : timeOf log = some now) (number : numberOf log = some current) :
      Stage client log (.done (outcome config now current))

variable {config} {client : String} {log : RateLog}

theorem stage_start (config : ApiConfig) (client : String) : Stage config client [] (isAllowed config client) := by
  refine .arrived ?_
  intro now
  refine ⟨_, rfl, ?_, _, rfl, ?_⟩
  · intro current other
    change ((if current = 1 then _ else _ : Intake RateLimitResult).attempt >>= _) = _
    rw [if_neg other]
    rfl
  · constructor
    rfl

/-- One call further. -/
theorem Stage.advance {call : IntakeCall} {resume : Except JsError call.Reply → Intake RateLimitResult}
    (stage : Stage config client log (.await call resume)) (redis : Redis) (elapsed : Nat) :
    Stage config client ((limiter config).answer redis call elapsed :: log)
      (resume ((limiter config).perform redis call elapsed).1) := by
  cases stage with
  | @arrived resume timed =>
      rcases timed (redis.later elapsed).clock with ⟨resume', same, counts⟩
      change Stage config client [⟨.newDate, .ok (redis.later elapsed).clock, redis, _⟩]
        (resume (.ok (redis.later elapsed).clock))
      rw [same]
      exact .timed counts
  | @timed now before after resume counts =>
      change Stage config client
        [⟨.incr (key client (windowOf config now)), .ok ((redis.later elapsed).incr (key client (windowOf config now))).1,
          redis, _⟩, _] (resume (.ok ((redis.later elapsed).incr (key client (windowOf config now))).1))
      generalize ((redis.later elapsed).incr (key client (windowOf config now))).1 = current
      by_cases first : current = 1
      · subst first
        rcases counts.created with ⟨resume', same, limits⟩
        rw [same]
        exact .creating limits
      · rw [counts.counted current first]
        exact .counted rfl rfl
  | @creating now before after before' after' resume limits =>
      change Stage config client _ (resume (.ok ()))
      rw [limits.limited]
      exact .counted rfl rfl

theorem reaches_stages {Legal : RateCalls → Move String Nat → Prop} {redis : Redis} {reached : RateCalls}
    (reaches : (limiter config).Reaches Legal { shared := redis } reached) :
    ∀ thread ∈ reached.threads, Stage config thread.task thread.log thread.code := by
  refine reaches.induct ?_ ?_
  · intro thread member
    cases member
  · intro earlier move next _ _ stepped stages
    cases stepped with
    | idle => exact stages
    | started task =>
        intro thread member
        rcases List.mem_append.mp member with present | new
        · exact stages thread present
        · cases List.mem_singleton.mp new
          exact stage_start config task
    | stopped index =>
        intro thread member
        rcases List.mem_iff_getElem?.mp member with ⟨position, found⟩
        rcases System.getElem?_of_stop found with ⟨old, listed, rfl | rfl⟩
        · exact stages _ (List.mem_of_getElem? listed)
        · exact stages old (List.mem_of_getElem? listed)
    | answered index elapsed thread call resume listed pending live =>
        intro other member
        rcases List.mem_or_eq_of_mem_set member with present | rfl
        · exact stages other present
        · have stage := stages thread (List.mem_of_getElem? listed)
          rw [pending] at stage
          exact stage.advance earlier.shared elapsed

end RateLimiter

/-! ## Commands -/

namespace Redis

variable {redis : Redis} {key other : String}

theorem incr_other (different : other ≠ key) : (redis.incr key).2.counters other = redis.counters other :=
  Function.update_of_ne different _ _

theorem pexpireat_other (different : other ≠ key) (time : Nat) :
    (redis.pexpireat key time).counters other = redis.counters other := by
  unfold pexpireat
  split
  · rfl
  · exact Function.update_of_ne different _ _

theorem pexpireat_clock (time : Nat) : (redis.pexpireat key time).clock = redis.clock := by
  unfold pexpireat
  split <;> rfl

/-- A counter that has reached this number and does not expire before its window is over. -/
inductive Stored (reset : Nat) : Nat → Option RedisCounter → Prop where
  | absent : Stored reset 0 none
  | present {count : Nat} {expiresAt : Option Nat} (counted : 0 < count) (kept : ∀ time ∈ expiresAt, time = reset) :
      Stored reset count (some ⟨count, expiresAt⟩)

namespace Stored

variable {reset : Nat} {count : Nat}

/-- Until then it is found. -/
theorem find (stored : Stored reset count (redis.counters key)) (ahead : redis.clock < reset) :
    redis.find key = redis.counters key := by
  unfold Redis.find
  generalize redis.counters key = counter at *
  cases stored with
  | absent => rfl
  | @present _ expiresAt _ kept =>
      apply Option.filter_eq_some_iff.mpr
      refine ⟨rfl, ?_⟩
      cases expiresAt with
      | none => rfl
      | some time =>
          rw [kept time rfl]
          exact decide_eq_true (Nat.le_of_lt ahead)

theorem incr (stored : Stored reset count (redis.counters key)) (ahead : redis.clock < reset) :
    (redis.incr key).1 = count + 1 ∧ Stored reset (count + 1) ((redis.incr key).2.counters key) := by
  have found := stored.find ahead
  unfold Redis.incr
  rw [found]
  change _ ∧ Stored reset (count + 1) (Function.update redis.counters key _ key)
  rw [Function.update_self]
  generalize redis.counters key = counter at *
  cases stored with
  | absent => exact ⟨rfl, .present (Nat.succ_pos 0) fun time none => nomatch none⟩
  | present counted kept => exact ⟨rfl, .present (Nat.succ_pos count) kept⟩

theorem pexpireat (stored : Stored reset count (redis.counters key)) (ahead : redis.clock < reset) :
    Stored reset count ((redis.pexpireat key reset).counters key) := by
  have found := stored.find ahead
  unfold Redis.pexpireat
  rw [found]
  generalize held : redis.counters key = counter at *
  cases stored with
  | absent =>
      dsimp only
      rw [held]
      exact .absent
  | present counted kept =>
      change Stored reset count (Function.update redis.counters key _ key)
      rw [Function.update_self, if_neg (Nat.not_le.mpr ahead)]
      refine .present counted ?_
      intro time same
      cases same
      rfl

end Stored
end Redis

namespace RateLimiter

/-- Every client has its own key for each window. -/
theorem key_inj {client client' : String} {start start' : Nat} (same : key client start = key client' start') :
    client = client' ∧ start = start' := by
  obtain rfl := key_client same
  exact ⟨rfl, Decimal.toString_inj ((String.append_right_inj _).mp same)⟩

/-! ## Counting requests -/

/-- A request of the client has been counted, and this holds of its time and of its number. -/
def counts (client : String) (holds : Nat → Nat → Bool) (task : String) (log : RateLog) : Bool :=
  decide (task = client) && match timeOf log, numberOf log with
    | some now, some current => holds now current
    | _, _ => false

/-- The number of such requests. -/
def requests (client : String) (holds : Nat → Nat → Bool) (reached : RateCalls) : Nat :=
  System.tally (counts client holds) reached

section Requests

variable {client : String} {reached : RateCalls}

theorem requests_split {holds first second : Nat → Nat → Bool}
    (split : ∀ now current, (holds now current).toNat = (first now current).toNat + (second now current).toNat) :
    requests client holds reached = requests client first reached + requests client second reached := by
  apply System.tally_split
  intro task log
  unfold counts
  cases decide (task = client) with
  | false => rfl
  | true =>
      rw [Bool.true_and, Bool.true_and, Bool.true_and]
      split
      · exact split _ _
      · rfl

theorem requests_le {holds wider : Nat → Nat → Bool}
    (less : ∀ now current, holds now current = true → wider now current = true) :
    requests client holds reached ≤ requests client wider reached := by
  apply List.countP_mono_left
  intro thread _
  unfold counts
  rw [Bool.and_eq_true, Bool.and_eq_true]
  rintro ⟨same, holds'⟩
  refine ⟨same, ?_⟩
  split at holds'
  · exact less _ _ holds'
  · cases holds'

theorem requests_eq_zero {holds : Nat → Nat → Bool} (never : ∀ now current, holds now current = false) :
    requests client holds reached = 0 := by
  apply List.countP_eq_zero.mpr
  intro thread _
  unfold counts
  rw [Bool.and_eq_true]
  rintro ⟨_, counted⟩
  split at counted
  · exact Bool.false_ne_true ((never _ _).symm.trans counted)
  · cases counted

end Requests

/-- The call is about to be counted. -/
def isCounting : Intake RateLimitResult → Bool
  | .await (.incr _) _ => true
  | _ => false

/-- The client's requests are counted in the order of their times, before their window is over. -/
def punctual (config : ApiConfig) (client : String) (reached : RateCalls) : Move String Nat → Bool
  | .advance index elapsed =>
      match reached.threads[index]? with
      | some thread =>
          match timeOf thread.log with
          | some now => !(decide (thread.task = client) && isCounting thread.code) ||
              (decide (reached.shared.clock + elapsed < resetOf config now) && decide (requests client
                (fun time _ => windowOf config time = windowOf config now && now < time) reached = 0))
          | none => true
      | none => true
  | _ => true

/-! ## One step -/

/-- What a step does to the client's counters and requests. -/
inductive RateStep (config : ApiConfig) (client : String) (reached next : RateCalls) : Prop where
  | aside
      (same : ∀ holds, requests client holds next = requests client holds reached)
      (forward : reached.shared.clock ≤ next.shared.clock)
      (stored : ∀ start count, next.shared.clock < start + config.rateLimitWindowMs →
        Redis.Stored (start + config.rateLimitWindowMs) count (reached.shared.counters (key client start)) →
        Redis.Stored (start + config.rateLimitWindowMs) count (next.shared.counters (key client start)))
  | counted (elapsed : Nat) (now : Nat)
      (shared : next.shared = ((reached.shared.later elapsed).incr (key client (windowOf config now))).2)
      (grown : ∀ holds, requests client holds next = requests client holds reached +
        (holds now ((reached.shared.later elapsed).incr (key client (windowOf config now))).1).toNat)
      (open' : reached.shared.clock + elapsed < resetOf config now)
      (last : requests client (fun time _ => windowOf config time = windowOf config now && now < time) reached = 0)

section Steps

variable {config : ApiConfig} {client : String} {reached next : RateCalls} {move : Move String Nat}

theorem counts_uncounted {holds : Nat → Nat → Bool} {task : String} {log : RateLog} (uncounted : numberOf log = none) :
    counts client holds task log = false := by
  unfold counts
  rw [uncounted]
  cases decide (task = client) with
  | false => rfl
  | true => cases timeOf log <;> rfl

theorem counts_other {holds : Nat → Nat → Bool} {task : String} {log : RateLog} (other : task ≠ client) :
    counts client holds task log = false := by
  unfold counts
  rw [decide_eq_false other, Bool.false_and]

theorem counts_own {holds : Nat → Nat → Bool} {log : RateLog} {now : Nat} {current : Nat}
    (time : timeOf log = some now) (number : numberOf log = some current) :
    counts client holds client log = holds now current := by
  unfold counts
  rw [time, number, decide_eq_true rfl, Bool.true_and]

theorem requests_answer {holds : Nat → Nat → Bool} {index : Nat}
    {thread : Thread intake JsError Redis String RateLimitResult} (event : Event intake JsError Redis)
    (rest : Intake RateLimitResult) (shared : Redis) (listed : reached.threads[index]? = some thread) :
    requests client holds { shared, threads := reached.threads.set index (thread.answered event rest) } +
        (counts client holds thread.task thread.log).toNat =
      requests client holds reached + (counts client holds thread.task (event :: thread.log)).toNat :=
  System.tally_answer event rest shared listed

theorem rateStep (stages : ∀ thread ∈ reached.threads, Stage config thread.task thread.log thread.code)
    (legal : punctual config client reached move = true) (stepped : (limiter config).Stepped reached move next) :
    RateStep config client reached next := by
  cases stepped with
  | idle => exact .aside (fun _ => rfl) (Nat.le_refl _) fun _ _ _ stored => stored
  | started task =>
      refine .aside (fun holds => ?_) (Nat.le_refl _) fun _ _ _ stored => stored
      exact System.tally_start (fun task => counts_uncounted rfl) task
  | stopped index =>
      refine .aside (fun holds => ?_) (Nat.le_refl _) fun _ _ _ stored => stored
      exact System.tally_stop index
  | answered index elapsed thread call resume listed pending live =>
      have stage := stages thread (List.mem_of_getElem? listed)
      have moved : ∀ holds, _ := fun holds => @requests_answer client reached holds index thread
        ((limiter config).answer reached.shared call elapsed)
        (resume ((limiter config).perform reached.shared call elapsed).1)
        ((limiter config).answer reached.shared call elapsed).after listed
      unfold punctual at legal
      dsimp only at legal
      rw [listed] at legal
      dsimp only at legal
      rw [pending] at stage legal
      generalize past : thread.log = log at stage
      rw [past] at moved legal
      cases stage with
      | arrived timed =>
          refine .aside (fun holds => ?_) (Nat.le_add_right _ _) fun _ _ _ stored => stored
          have tallied := moved holds
          rw [counts_uncounted rfl, counts_uncounted rfl] at tallied
          exact tallied
      | @timed now before after resume counted =>
          by_cases own : thread.task = client
          · rw [decide_eq_true own] at legal
            have within := Bool.and_eq_true_iff.mp legal
            refine .counted elapsed now ?_ (fun holds => ?_) (of_decide_eq_true within.1) (of_decide_eq_true within.2)
            · rw [← own]
              rfl
            · have tallied := moved holds
              rw [counts_uncounted rfl, own, counts_own rfl rfl] at tallied
              rw [own]
              exact tallied
          · refine .aside (fun holds => ?_) (Nat.le_add_right _ _) ?_
            · have tallied := moved holds
              rw [counts_other own, counts_other own] at tallied
              exact tallied
            · intro start count ahead stored
              have different : key client start ≠ key thread.task (windowOf config now) :=
                fun same => own (key_inj same).1.symm
              change Redis.Stored _ count (((reached.shared.later elapsed).incr _).2.counters _)
              rw [Redis.incr_other different]
              exact stored
      | @creating now before after before' after' resume limits =>
          have clock : ((reached.shared.later elapsed).pexpireat (key thread.task (windowOf config now))
              (resetOf config now)).clock = reached.shared.clock + elapsed := Redis.pexpireat_clock _
          refine .aside (fun holds => Nat.add_right_cancel (moved holds)) ?_ ?_
          · exact clock.symm ▸ Nat.le_add_right _ _
          · intro start count ahead stored
            change Redis.Stored _ count (((reached.shared.later elapsed).pexpireat (key thread.task (windowOf config now))
              (resetOf config now)).counters _)
            by_cases same : key client start = key thread.task (windowOf config now)
            · obtain ⟨rfl, rfl⟩ := key_inj same
              exact Redis.Stored.pexpireat stored (lt_of_eq_of_lt clock.symm ahead)
            · rw [Redis.pexpireat_other same]
              exact stored

end Steps

/-! ## Whole runs -/

/-- The client's requests that have been counted in the window from `start`. -/
def inWindow (config : ApiConfig) (client : String) (start : Nat) (reached : RateCalls) : Nat :=
  requests client (fun now _ => windowOf config now = start) reached

/-- Those of them that come before a time. -/
def inWindowBefore (config : ApiConfig) (client : String) (start time : Nat) (reached : RateCalls) : Nat :=
  requests client (fun now _ => windowOf config now = start && now < time) reached

/-- The others. -/
def inWindowFrom (config : ApiConfig) (client : String) (start time : Nat) (reached : RateCalls) : Nat :=
  requests client (fun now _ => windowOf config now = start && time ≤ now) reached

/-- Those of the others that are not more than the limit allows. -/
def admittedFrom (config : ApiConfig) (client : String) (start time : Nat) (reached : RateCalls) : Nat :=
  requests client (fun now current => windowOf config now = start && time ≤ now && current ≤ config.rateLimitMax) reached

/-- Until a window is over its counter has counted the client's requests, and from any time on those are admitted
that the limit leaves room for. -/
structure Accurate (config : ApiConfig) (client : String) (reached : RateCalls) : Prop where
  stored : ∀ start, reached.shared.clock < start + config.rateLimitWindowMs →
    Redis.Stored (start + config.rateLimitWindowMs) (inWindow config client start reached)
      (reached.shared.counters (key client start))
  admitted : ∀ start time, admittedFrom config client start time reached +
      min (inWindowBefore config client start time reached) config.rateLimitMax =
    min (inWindow config client start reached) config.rateLimitMax

section Runs

variable {config : ApiConfig} {client : String} {reached next : RateCalls}

theorem inWindow_split (start time : Nat) : inWindow config client start reached =
    inWindowBefore config client start time reached + inWindowFrom config client start time reached := by
  apply requests_split
  intro now current
  by_cases before : now < time
  · rw [decide_eq_true before, decide_eq_false (Nat.not_le.mpr before), Bool.and_true, Bool.and_false]
    rfl
  · rw [decide_eq_false before, decide_eq_true (Nat.not_lt.mp before), Bool.and_true, Bool.and_false,
      Bool.toNat_false, Nat.zero_add]

theorem Accurate.step (accurate : Accurate config client reached) (step : RateStep config client reached next) :
    Accurate config client next := by
  cases step with
  | aside same forward stored =>
      constructor
      · intro start ahead
        unfold inWindow
        rw [same]
        exact stored start _ ahead (accurate.stored start (Nat.lt_of_le_of_lt forward ahead))
      · intro start time
        unfold admittedFrom inWindowBefore inWindow
        rw [same, same, same]
        exact accurate.admitted start time
  | counted elapsed now shared grown open' last =>
      have found := accurate.stored (windowOf config now) (Nat.lt_of_le_of_lt (Nat.le_add_right _ elapsed) open')
      rcases @Redis.Stored.incr (reached.shared.later elapsed) _ _ _ found open' with ⟨number, stored⟩
      have total : ∀ start, inWindow config client start next =
          inWindow config client start reached + (decide (windowOf config now = start)).toNat := fun start => grown _
      have early : ∀ start time, inWindowBefore config client start time next =
          inWindowBefore config client start time reached + (windowOf config now = start && now < time).toNat :=
        fun start time => grown _
      have taken : ∀ start time, admittedFrom config client start time next =
          admittedFrom config client start time reached + (windowOf config now = start && time ≤ now &&
            inWindow config client (windowOf config now) reached + 1 ≤ config.rateLimitMax).toNat := by
        intro start time
        rw [← number]
        exact grown _
      constructor
      · intro start ahead
        rw [total, shared]
        by_cases same : windowOf config now = start
        · subst same
          rw [decide_eq_true rfl]
          exact stored
        · have different : key client start ≠ key client (windowOf config now) := fun equal => same (key_inj equal).2.symm
          rw [decide_eq_false same, Redis.incr_other different]
          refine accurate.stored start (Nat.lt_of_le_of_lt (Nat.le_add_right _ elapsed) ?_)
          rw [shared] at ahead
          exact ahead
      · intro start time
        have admitted := accurate.admitted start time
        rw [total, early, taken]
        by_cases same : windowOf config now = start
        · subst same
          rw [decide_eq_true rfl, Bool.true_and, Bool.true_and]
          by_cases before : now < time
          · have none : inWindowFrom config client (windowOf config now) time reached = 0 := by
              refine Nat.le_zero.mp (Nat.le_trans (requests_le ?_) (Nat.le_of_eq last))
              intro other _ later
              rw [Bool.and_eq_true, decide_eq_true_iff, decide_eq_true_iff] at later ⊢
              exact ⟨later.1, Nat.lt_of_lt_of_le before later.2⟩
            have split := @inWindow_split config client reached (windowOf config now) time
            rw [decide_eq_true before, decide_eq_false (Nat.not_le.mpr before)]
            simp only [Bool.false_and, Bool.toNat_false, Bool.toNat_true]
            omega
          · rw [decide_eq_false before, decide_eq_true (Nat.not_lt.mp before), Bool.true_and]
            by_cases room : inWindow config client (windowOf config now) reached + 1 ≤ config.rateLimitMax
            · rw [decide_eq_true room]
              simp only [Bool.toNat_false, Bool.toNat_true]
              omega
            · rw [decide_eq_false room]
              simp only [Bool.toNat_false, Bool.toNat_true]
              omega
        · rw [decide_eq_false same, Bool.false_and, Bool.false_and]
          exact admitted

theorem reaches_accurate {redis : Redis} (fresh : ∀ start, redis.counters (key client start) = none)
    (reaches : (limiter config).Reaches (fun reached move => punctual config client reached move = true)
      { shared := redis } reached) : Accurate config client reached := by
  refine reaches.induct ?_ ?_
  · constructor
    · intro start _
      change Redis.Stored _ 0 (redis.counters (key client start))
      rw [fresh]
      exact .absent
    · exact fun start time => rfl
  · intro earlier move next reaches' legal stepped accurate
    exact accurate.step (rateStep (reaches_stages reaches') legal stepped)

end Runs

/-! ## Any interval of the length of a window -/

/-- The call has answered that its request is allowed. -/
def isAllowing : Intake RateLimitResult → Bool
  | .done result => result.allowed
  | _ => false

/-- The client's requests with a time in the interval from `start` that have been allowed. -/
def allowedWithin (config : ApiConfig) (client : String) (start : Nat) (reached : RateCalls) : Nat :=
  reached.threads.countP fun thread => decide (thread.task = client) && isAllowing thread.code &&
    (timeOf thread.log).any fun now => start ≤ now && now < start + config.rateLimitWindowMs

/-- All requests of the client that have been counted have been answered. -/
def Answered (client : String) (reached : RateCalls) : Prop :=
  ∀ thread ∈ reached.threads, thread.task = client → (numberOf thread.log).isSome → thread.code.finished = true

/-- The interval takes no more requests than the limit from its two windows: those of the first that the limit leaves
room for behind the earlier ones, and those of the second. -/
def Fits (config : ApiConfig) (client : String) (start : Nat) (reached : RateCalls) : Prop :=
  config.rateLimitWindowMs = 0 ∨
    min (inWindowFrom config client (windowOf config start) start reached)
        (config.rateLimitMax - inWindowBefore config client (windowOf config start) start reached) +
      min (inWindowBefore config client (resetOf config start) (start + config.rateLimitWindowMs) reached)
        config.rateLimitMax ≤ config.rateLimitMax

section Intervals

variable {config : ApiConfig} {client : String} {reached : RateCalls}

theorem windowOf_eq_iff (positive : 0 < config.rateLimitWindowMs) (index now : Nat) :
    windowOf config now = index * config.rateLimitWindowMs ↔
      index * config.rateLimitWindowMs ≤ now ∧ now < index * config.rateLimitWindowMs + config.rateLimitWindowMs := by
  unfold windowOf
  rw [Nat.mul_left_inj (Nat.ne_of_gt positive), Nat.div_eq_iff positive]
  omega

/-- A time lies in its own window. -/
theorem windowOf_bounds (positive : 0 < config.rateLimitWindowMs) (start : Nat) :
    windowOf config start ≤ start ∧ start < resetOf config start :=
  (windowOf_eq_iff positive (start / config.rateLimitWindowMs) start).mp rfl

/-- The times of a window. -/
theorem windowOf_eq_windowOf (positive : 0 < config.rateLimitWindowMs) (start now : Nat) :
    windowOf config now = windowOf config start ↔ windowOf config start ≤ now ∧ now < resetOf config start :=
  windowOf_eq_iff positive (start / config.rateLimitWindowMs) now

/-- The times of the next one. -/
theorem windowOf_eq_resetOf (positive : 0 < config.rateLimitWindowMs) (start now : Nat) :
    windowOf config now = resetOf config start ↔
      resetOf config start ≤ now ∧ now < resetOf config start + config.rateLimitWindowMs := by
  have next : resetOf config start = (start / config.rateLimitWindowMs + 1) * config.rateLimitWindowMs :=
    (Nat.succ_mul _ _).symm
  rw [next]
  exact windowOf_eq_iff positive _ now

/-- A call in which a request has been allowed has counted it within the limit. -/
theorem Stage.allowing {log : RateLog} {code : Intake RateLimitResult} (stage : Stage config client log code) :
    (isAllowing code = true → ∃ now current, timeOf log = some now ∧ numberOf log = some current ∧
      current ≤ config.rateLimitMax) ∧
    (code.finished = true → ∀ current, numberOf log = some current → current ≤ config.rateLimitMax →
      isAllowing code = true) := by
  cases stage with
  | arrived => exact ⟨fun allowing => (by cases allowing), fun _ current none => (by cases none)⟩
  | timed => exact ⟨fun allowing => (by cases allowing), fun _ current none => (by cases none)⟩
  | creating => exact ⟨fun allowing => (by cases allowing), fun unfinished => (by cases unfinished)⟩
  | @counted now current log time number =>
      refine ⟨fun allowing => ⟨now, current, time, number, of_decide_eq_true allowing⟩, ?_⟩
      intro _ other number' room
      cases number.symm.trans number'
      exact decide_eq_true room

/-- The client's requests in the interval that are not more than the limit allows. -/
def admittedWithin (config : ApiConfig) (client : String) (start : Nat) (reached : RateCalls) : Nat :=
  requests client (fun now current => start ≤ now && now < start + config.rateLimitWindowMs &&
    current ≤ config.rateLimitMax) reached

/-- An interval of length zero has no times. -/
theorem allowedWithin_empty (none : config.rateLimitWindowMs = 0) (start : Nat) :
    allowedWithin config client start reached = 0 := by
  apply List.countP_eq_zero.mpr
  intro thread _ allowed
  rw [Bool.and_eq_true, Option.any_eq_true] at allowed
  rcases allowed with ⟨_, now, _, within⟩
  rw [Bool.and_eq_true, decide_eq_true_iff, decide_eq_true_iff, none] at within
  exact Nat.not_lt.mpr within.1 within.2

theorem allowedWithin_le (stages : ∀ thread ∈ reached.threads, Stage config thread.task thread.log thread.code)
    (start : Nat) : allowedWithin config client start reached ≤ admittedWithin config client start reached := by
  apply List.countP_mono_left
  intro thread member allowed
  rw [Bool.and_eq_true, Bool.and_eq_true, decide_eq_true_iff] at allowed
  rcases allowed with ⟨⟨rfl, allowing⟩, within⟩
  rcases (stages thread member).allowing.1 allowing with ⟨now, current, time, number, room⟩
  rw [time] at within
  rw [counts_own time number, decide_eq_true room, Bool.and_true]
  exact within

theorem allowedWithin_eq (stages : ∀ thread ∈ reached.threads, Stage config thread.task thread.log thread.code)
    (answered : Answered client reached) (start : Nat) :
    allowedWithin config client start reached = admittedWithin config client start reached := by
  apply Nat.le_antisymm (allowedWithin_le stages start)
  apply List.countP_mono_left
  intro thread member admitted
  unfold counts at admitted
  rw [Bool.and_eq_true, decide_eq_true_iff] at admitted
  rcases admitted with ⟨rfl, admitted⟩
  split at admitted
  · next now current time number =>
      rw [Bool.and_eq_true, decide_eq_true_iff] at admitted
      have finished := answered thread member rfl (by rw [number]; rfl)
      rw [decide_eq_true rfl, (stages thread member).allowing.2 finished current number admitted.2, time]
      exact admitted.1
  · cases admitted

theorem toNat_split {whole first second : Bool} (covers : whole = (first || second))
    (apart : (first && second) = false) : whole.toNat = first.toNat + second.toNat := by
  subst covers
  cases first
  · exact (Nat.zero_add _).symm
  · cases second
    · rfl
    · cases apart

/-- Two windows meet in the interval. -/
theorem admittedWithin_split (positive : 0 < config.rateLimitWindowMs) (start : Nat) :
    admittedWithin config client start reached = admittedFrom config client (windowOf config start) start reached +
      requests client (fun now current => windowOf config now = resetOf config start &&
        now < start + config.rateLimitWindowMs && current ≤ config.rateLimitMax) reached := by
  have bounds := windowOf_bounds positive start
  have window : resetOf config start = windowOf config start + config.rateLimitWindowMs := rfl
  apply requests_split
  intro now current
  apply toNat_split
  · apply Bool.eq_iff_iff.mpr
    simp only [Bool.or_eq_true, Bool.and_eq_true, decide_eq_true_eq, windowOf_eq_windowOf positive,
      windowOf_eq_resetOf positive]
    omega
  · apply Bool.eq_false_iff.mpr
    simp only [ne_eq, Bool.and_eq_true, decide_eq_true_eq, windowOf_eq_windowOf positive, windowOf_eq_resetOf positive]
    omega

/-- In an accurate state the limit leaves in each window what it has room for. -/
theorem admittedWithin_eq (accurate : Accurate config client reached) (positive : 0 < config.rateLimitWindowMs)
    (start : Nat) : admittedWithin config client start reached =
      min (inWindowFrom config client (windowOf config start) start reached)
          (config.rateLimitMax - inWindowBefore config client (windowOf config start) start reached) +
        min (inWindowBefore config client (resetOf config start) (start + config.rateLimitWindowMs) reached)
          config.rateLimitMax := by
  have first := accurate.admitted (windowOf config start) start
  have parts := @inWindow_split config client reached (windowOf config start) start
  have all := accurate.admitted (resetOf config start) 0
  have later := accurate.admitted (resetOf config start) (start + config.rateLimitWindowMs)
  have none : inWindowBefore config client (resetOf config start) 0 reached = 0 := by
    apply requests_eq_zero
    intro now _
    exact (congrArg _ (decide_eq_false (Nat.not_lt_zero now))).trans (Bool.and_false _)
  have second : admittedFrom config client (resetOf config start) 0 reached =
      requests client (fun now current => windowOf config now = resetOf config start &&
        now < start + config.rateLimitWindowMs && current ≤ config.rateLimitMax) reached +
      admittedFrom config client (resetOf config start) (start + config.rateLimitWindowMs) reached := by
    apply requests_split
    intro now current
    apply toNat_split
    · apply Bool.eq_iff_iff.mpr
      simp only [Bool.or_eq_true, Bool.and_eq_true, decide_eq_true_eq]
      omega
    · apply Bool.eq_false_iff.mpr
      simp only [ne_eq, Bool.and_eq_true, decide_eq_true_eq]
      omega
  rw [admittedWithin_split positive]
  omega

/-- An interval that begins where a window does has no other window in it. -/
theorem fits_aligned (index : Nat) : Fits config client (index * config.rateLimitWindowMs) reached := by
  rcases Nat.eq_zero_or_pos config.rateLimitWindowMs with none | positive
  · exact .inl none
  · have start : windowOf config (index * config.rateLimitWindowMs) = index * config.rateLimitWindowMs := by
      unfold windowOf
      rw [Nat.mul_div_cancel _ positive]
    right
    have later : inWindowBefore config client (resetOf config (index * config.rateLimitWindowMs))
        (index * config.rateLimitWindowMs + config.rateLimitWindowMs) reached = 0 := by
      apply requests_eq_zero
      intro now _
      apply Bool.eq_false_iff.mpr
      rw [ne_eq, Bool.and_eq_true, decide_eq_true_iff, decide_eq_true_iff, windowOf_eq_resetOf positive]
      unfold resetOf
      omega
    rw [later]
    omega

/-- **A client gets more requests allowed in an interval of one window's length than the limit exactly when the two
windows that meet in it take more between them.**  Its requests are counted in the order of their times, before their
window is over, and some of them may not have been answered yet. -/
theorem limit_over_window (config : ApiConfig) (client : String) (redis : Redis)
    (fresh : ∀ start, redis.counters (key client start) = none)
    (reaches : (limiter config).Reaches (fun reached move => punctual config client reached move = true)
      { shared := redis } reached) (start : Nat) :
    (Fits config client start reached → allowedWithin config client start reached ≤ config.rateLimitMax) ∧
    (Answered client reached → allowedWithin config client start reached ≤ config.rateLimitMax →
      Fits config client start reached) := by
  have stages := reaches_stages reaches
  have accurate := reaches_accurate fresh reaches
  constructor
  · intro fits
    rcases Nat.eq_zero_or_pos config.rateLimitWindowMs with none | positive
    · rw [allowedWithin_empty none]
      exact Nat.zero_le _
    · rcases fits with none | fits
      · exact absurd none (Nat.ne_of_gt positive)
      · rw [← admittedWithin_eq accurate positive] at fits
        exact Nat.le_trans (allowedWithin_le stages start) fits
  · intro answered limited
    rcases Nat.eq_zero_or_pos config.rateLimitWindowMs with none | positive
    · exact .inl none
    · right
      rw [← admittedWithin_eq accurate positive, ← allowedWithin_eq stages answered]
      exact limited

end Intervals

/-- One request a minute is allowed. -/
def singleApi : ApiConfig := { plainApi with rateLimitMax := 1 }

def beforeRequests : RateCalls := { shared := { clock := 0 } }

/-- One request at the end of the first minute and one at the beginning of the second. -/
def twoRequests : List (Move String Nat) :=
  [.start "client", .advance 0 59900, .advance 0 0, .advance 0 0,
   .start "client", .advance 1 200, .advance 1 0, .advance 1 0]

theorem twoRequests_reached : (limiter singleApi).Reaches
    (fun reached move => punctual singleApi "client" reached move = true) beforeRequests
    ((limiter singleApi).run beforeRequests twoRequests) :=
  System.reaches_run (by decide +kernel)

theorem limit_over_second_minute :
    allowedWithin singleApi "client" 60000 ((limiter singleApi).run beforeRequests twoRequests) ≤ 1 :=
  (limit_over_window singleApi "client" { clock := 0 } (fun _ => rfl) twoRequests_reached 60000).1 (fits_aligned 1)

/-- **A limit of one request a minute allows two of them within one minute.** -/
theorem twice_within_one_minute : ∃ (reached : RateCalls) (start : Nat),
    (limiter singleApi).Reaches (fun reached move => punctual singleApi "client" reached move = true)
      beforeRequests reached ∧
    singleApi.rateLimitMax = 1 ∧ allowedWithin singleApi "client" start reached = 2 :=
  ⟨_, 59900, twoRequests_reached, rfl, by decide +kernel⟩

end RateLimiter
end Orderly
