import Orderly.Pipeline.Accounting
import Orderly.Process.Tally

/-!
# How often a job is taken

The queue hands a job over when it waits.  It waits anew only after an attempt has
been counted against it, or after it has stalled, so it is handed over no more often
than that.
-/

namespace Orderly

open Process (Move Program System)

/-- The worker has been handed this job. -/
def takesJob (jobId : String) : PipelineTask → PipelineLog → Bool
  | .sagaJob other, log => decide (other = jobId) && (taken log).isSome
  | _, _ => false

/-- The job has been found stalled, if it was active. -/
def stallsJob (jobId : String) : PipelineTask → PipelineLog → Bool
  | .stalled other, log => decide (other = jobId) && !log.isEmpty
  | _, _ => false

/-! ## One job -/

namespace SagaJob

/-- How often a job may have been handed over, stalls apart. -/
def credit (job : SagaJob) : Nat :=
  job.attemptsMade + if job.state = .active ∨ job.state = .completed then 1 else 0

/-- A job that may still be tried has attempts left. -/
def Within (job : SagaJob) : Prop :=
  job.attemptsMade ≤ sagaAttempts ∧ (job.state ≠ .failed → job.attemptsMade < sagaAttempts)

variable {job : SagaJob}

theorem Within.credit_le (within : job.Within) : job.credit ≤ sagaAttempts := by
  unfold credit
  split
  · next open_ =>
      apply within.2
      intro failed
      rw [failed] at open_
      rcases open_ with impossible | impossible <;> cases impossible
  · exact within.1

/-- What the queue makes of a job. -/
inductive Transition : QueueCall → String → (SagaJob → SagaJob) → Prop where
  | activated (jobId : String) : Transition (.moveToActive jobId) jobId activated
  | finished (jobId : String) : Transition (.moveToCompleted jobId) jobId finished
  | retried (jobId : String) : Transition (.moveToFailed jobId) jobId retried
  | recovered (jobId : String) (tooOften : Bool) : Transition (.moveStalledJobsToWait jobId) jobId (recovered tooOften)

variable {call : QueueCall} {jobId : String} {change : SagaJob → SagaJob}

theorem Transition.id (transition : Transition call jobId change) (job : SagaJob) : (change job).id = job.id := by
  cases transition with
  | activated =>
      unfold SagaJob.activated
      split <;> rfl
  | finished =>
      unfold SagaJob.finished
      split <;> rfl
  | retried =>
      unfold SagaJob.retried
      split <;> rfl
  | recovered =>
      unfold SagaJob.recovered
      split <;> rfl

theorem Transition.within (transition : Transition call jobId change) (within : job.Within) : (change job).Within := by
  cases transition with
  | activated =>
      unfold SagaJob.activated
      split
      · next waits =>
          refine ⟨within.1, fun _ => within.2 fun failed => ?_⟩
          rw [failed] at waits
          rcases waits with impossible | impossible <;> cases impossible
      · exact within
  | finished =>
      unfold SagaJob.finished
      split
      · next active =>
          refine ⟨within.1, fun _ => within.2 fun failed => ?_⟩
          rw [failed] at active
          cases active
      · exact within
  | retried =>
      unfold SagaJob.retried
      split
      · next active =>
          have left : job.attemptsMade < sagaAttempts := within.2 fun failed => by
            rw [failed] at active
            cases active
          refine ⟨left, fun kept => ?_⟩
          by_contra used
          exact kept (if_neg used)
      · exact within
  | recovered =>
      unfold SagaJob.recovered
      split
      · next active =>
          refine ⟨within.1, fun _ => within.2 fun failed => ?_⟩
          rw [failed] at active
          cases active
      · exact within

/-- Nothing but a stall takes credit away, and no more than the current attempt. -/
theorem Transition.credit_le (transition : Transition call jobId change) (job : SagaJob) :
    job.credit ≤ (change job).credit ∨ call = .moveStalledJobsToWait jobId ∧ job.credit ≤ (change job).credit + 1 := by
  cases transition with
  | activated =>
      left
      unfold SagaJob.activated
      split
      · next waits => rcases waits with state | state <;> simp [credit, state]
      · exact Nat.le_refl _
  | finished =>
      left
      unfold SagaJob.finished
      split
      · next active => simp [credit, active]
      · exact Nat.le_refl _
  | retried =>
      left
      unfold SagaJob.retried
      split
      · next active => simp [credit, active]
      · exact Nat.le_refl _
  | recovered =>
      refine Or.inr ⟨rfl, ?_⟩
      unfold SagaJob.recovered
      split
      · next active => simp [credit, active]
      · exact Nat.le_succ _

/-- A job that waits gains credit when it is handed over. -/
theorem activated_credit (waits : job.state = .waiting ∨ job.state = .delayed) :
    (activated job).credit = job.credit + 1 := by
  unfold activated
  rw [if_pos waits]
  rcases waits with state | state
  · simp [credit, state]
  · simp [credit, state]

end SagaJob

/-! ## One event -/

/-- What the queue keeps of its jobs. -/
structure Queued (backend : Backend) : Prop where
  single : (backend.jobs.map SagaJob.id).Nodup
  within : ∀ job ∈ backend.jobs, job.Within
  named : ∀ job ∈ backend.jobs, job.id = Intake.SagaEnqueuer.jobId job.data.orderId

theorem Queued.same {backend : Backend} (queued : Queued backend) {job other : SagaJob} (member : job ∈ backend.jobs)
    (member' : other ∈ backend.jobs) (same : job.id = other.id) : job = other :=
  List.inj_on_of_nodup_map queued.single member member' same

/-- What an event makes of the jobs. -/
inductive JobChange (event : PipelineEvent) (job : SagaJob) : Prop where
  | known (old : SagaJob) (member : old ∈ event.before.jobs) (id : job.id = old.id) (within : old.Within → job.Within)
      (credit : old.credit ≤ job.credit ∨
        event.call = .queue (.moveStalledJobsToWait job.id) ∧ old.credit ≤ job.credit + 1)
  | added (fresh : ∀ old ∈ event.before.jobs, old.id ≠ job.id) (within : job.Within)
      (called : ∃ jobId data, event.call = .intake (.addJob jobId data))

section Events

variable {platform : Platform} {stage : Stage} {event : PipelineEvent} {log : PipelineLog} {before after : Backend}
  {call : QueueCall}

/-- A call of the queue that gets there changes one job. -/
theorem queueEffect_transition (backend : Backend) (call : QueueCall) (choice : Choice) :
    ∃ jobId change, (backend.queueEffect call choice).2 = backend.changeJob jobId change ∧
      SagaJob.Transition call jobId change := by
  cases call with
  | moveToActive jobId => exact ⟨jobId, _, rfl, .activated jobId⟩
  | moveToCompleted jobId => exact ⟨jobId, _, rfl, .finished jobId⟩
  | moveToFailed jobId => exact ⟨jobId, _, rfl, .retried jobId⟩
  | moveStalledJobsToWait jobId =>
      cases choice with
      | refuse => exact ⟨jobId, _, rfl, .recovered jobId true⟩
      | _ => exact ⟨jobId, _, rfl, .recovered jobId false⟩

theorem queue_transition {reply : Except JsError call.Reply}
    (admitted : (pipeline platform).Admits log ⟨.queue call, reply, before, after⟩) :
    after = before ∨ ∃ jobId change, after = before.changeJob jobId change ∧ SagaJob.Transition call jobId change := by
  rcases System.admits_iff.mp admitted with ⟨choice, performed⟩
  rcases Prod.ext_iff.mp performed with ⟨_, rfl⟩
  cases choice with
  | reject error => exact Or.inl rfl
  | lose error => exact Or.inr (queueEffect_transition before call .serve)
  | serve => exact Or.inr (queueEffect_transition before call .serve)
  | refuse => exact Or.inr (queueEffect_transition before call .refuse)
  | answer result => exact Or.inr (queueEffect_transition before call (.answer result))

/-- The job that is handed over has waited, and is active now. -/
theorem handed_over {jobId : String} {context : SagaContext}
    (admitted : (pipeline platform).Admits log ⟨.queue (.moveToActive jobId), .ok (some context), before, after⟩) :
    after = before.changeJob jobId SagaJob.activated ∧
      ∃ job ∈ before.jobs, job.id = jobId ∧ (job.state = .waiting ∨ job.state = .delayed) := by
  rcases System.admits_iff.mp admitted with ⟨choice, performed⟩
  rcases Prod.ext_iff.mp performed with ⟨replied, rfl⟩
  have found : before.waitingJob jobId = some context ∧
      (before.performQueue (.moveToActive jobId) choice).2 = before.changeJob jobId SagaJob.activated := by
    cases choice with
    | reject error => cases replied
    | lose error => cases replied
    | _ => exact ⟨Except.ok.inj replied, rfl⟩
  rcases Option.map_eq_some_iff.mp found.1 with ⟨job, search, _⟩
  have chosen := List.find?_some search
  simp only [decide_eq_true_eq] at chosen
  exact ⟨found.2, job, List.mem_of_find?_eq_some search, chosen⟩

theorem jobChange (issued : Issues platform stage.task stage.log event.call)
    (admitted : (pipeline platform).Admits stage.log event) {job : SagaJob} (member : job ∈ event.after.jobs) :
    JobChange event job := by
  rcases event with ⟨call, reply, before, after⟩
  have same : ∀ {jobs}, jobs = before.jobs → job ∈ jobs → JobChange ⟨call, reply, before, after⟩ job := by
    rintro _ rfl known
    exact .known job known rfl id (Or.inl (Nat.le_refl _))
  cases call with
  | intake call =>
      have admitted' : (api platform plainApi).Admits (intakeLog stage.log) ⟨call, reply, before, after⟩ :=
        seen_by_intake admitted _
      cases intake_admits admitted' with
      | committed transaction called done =>
          cases called
          rcases issued.of_intake with ⟨request, _, _, order, eventId, _, _, rfl⟩
          exact same (commit_adds done).2 member
      | queued jobId data called done =>
          cases called
          replace done : after = before.addJob jobId data := done
          subst done
          unfold Backend.addJob at member
          split at member
          · exact same rfl member
          · next absent =>
              rcases List.mem_append.mp member with old | new
              · exact same rfl old
              · rw [List.mem_singleton.mp new]
                refine .added (fun old known named => absent ?_) ⟨Nat.zero_le _, fun _ => Nat.zero_lt_succ _⟩ ⟨jobId, data, rfl⟩
                exact List.any_eq_true.mpr ⟨old, known, decide_eq_true named⟩
      | aside unchanged _ => exact same unchanged.jobs member
  | ports call =>
      refine same ?_ member
      rw [(seen_by_ports admitted []).2]
  | queue call =>
      rcases queue_transition admitted with unchanged | ⟨jobId, change, rfl, transition⟩
      · exact same (congrArg Backend.jobs unchanged) member
      · rcases List.mem_map.mp member with ⟨old, known, rfl⟩
        by_cases named : old.id = jobId
        · rw [if_pos named]
          have id := transition.id old
          refine .known old known id transition.within ?_
          rcases transition.credit_le old with kept | ⟨rfl, lost⟩
          · exact Or.inl kept
          · right
            rw [id, named]
            exact ⟨rfl, lost⟩
        · rw [if_neg named]
          exact .known old known rfl (fun within => within) (Or.inl (Nat.le_refl _))

/-- An event adds at most one job, with a new id, and keeps the ids of the others. -/
theorem jobIds (issued : Issues platform stage.task stage.log event.call)
    (admitted : (pipeline platform).Admits stage.log event) :
    event.after.jobs.map SagaJob.id = event.before.jobs.map SagaJob.id ∨
      ∃ jobId, jobId ∉ event.before.jobs.map SagaJob.id ∧
        event.after.jobs.map SagaJob.id = event.before.jobs.map SagaJob.id ++ [jobId] := by
  rcases event with ⟨call, reply, before, after⟩
  cases call with
  | intake call =>
      have admitted' : (api platform plainApi).Admits (intakeLog stage.log) ⟨call, reply, before, after⟩ :=
        seen_by_intake admitted _
      cases intake_admits admitted' with
      | committed transaction called done =>
          cases called
          rcases issued.of_intake with ⟨request, _, _, order, eventId, _, _, rfl⟩
          exact Or.inl (congrArg (List.map SagaJob.id) (commit_adds done).2)
      | queued jobId data called done =>
          replace done : after = before.addJob jobId data := done
          subst done
          change (before.addJob jobId data).jobs.map SagaJob.id = before.jobs.map SagaJob.id ∨ _
          unfold Backend.addJob
          split
          · exact Or.inl rfl
          · next absent =>
              refine Or.inr ⟨jobId, fun known => absent ?_, List.map_append⟩
              rcases List.mem_map.mp known with ⟨job, member, named⟩
              exact List.any_eq_true.mpr ⟨job, member, decide_eq_true named⟩
      | aside unchanged _ => exact Or.inl (congrArg (List.map SagaJob.id) unchanged.jobs)
  | ports call =>
      left
      rw [(seen_by_ports admitted []).2]
  | queue call =>
      left
      rcases queue_changes admitted with ⟨change, rfl, changes⟩
      rw [List.map_map]
      exact List.map_congr_left fun job _ => changes.id job

/-- No event takes a job away. -/
theorem jobs_stay (issued : Issues platform stage.task stage.log event.call)
    (admitted : (pipeline platform).Admits stage.log event) {old : SagaJob} (member : old ∈ event.before.jobs) :
    ∃ job ∈ event.after.jobs, job.id = old.id := by
  have known : old.id ∈ event.before.jobs.map SagaJob.id := List.mem_map_of_mem member
  have kept : old.id ∈ event.after.jobs.map SagaJob.id := by
    rcases jobIds issued admitted with same | ⟨jobId, _, added⟩
    · rw [same]
      exact known
    · rw [added]
      exact List.mem_append_left _ known
  exact List.mem_map.mp kept

/-- The job that is handed over gains what that costs. -/
theorem handed_credit {jobId : String} {context : SagaContext} (queued : Queued before)
    (admitted : (pipeline platform).Admits log ⟨.queue (.moveToActive jobId), .ok (some context), before, after⟩)
    {job : SagaJob} (member : job ∈ after.jobs) (named : job.id = jobId) :
    ∃ old ∈ before.jobs, old.id = jobId ∧ job.credit = old.credit + 1 := by
  rcases handed_over admitted with ⟨rfl, waiting, listed, id, waits⟩
  rcases List.mem_map.mp member with ⟨old, known, changed⟩
  by_cases about : old.id = jobId
  · rw [if_pos about] at changed
    have same : old = waiting := queued.same known listed (about.trans id.symm)
    refine ⟨old, known, about, ?_⟩
    rw [← changed]
    exact SagaJob.activated_credit (same ▸ waits)
  · rw [if_neg about] at changed
    rw [changed] at about
    exact absurd named about

/-- The queue keeps to its rules, and jobs to their names. -/
theorem Queued.moved (queued : Queued event.before) (issued : Issues platform stage.task stage.log event.call)
    (admitted : (pipeline platform).Admits stage.log event) : Queued event.after where
  single := by
    rcases jobIds issued admitted with same | ⟨jobId, absent, added⟩
    · rw [same]
      exact queued.single
    · rw [added, List.nodup_append]
      refine ⟨queued.single, List.nodup_singleton _, ?_⟩
      rintro known member _ new rfl
      rw [List.mem_singleton.mp new] at member
      exact absent member
  within job member := by
    cases jobChange issued admitted member with
    | known old earlier id within credit => exact within (queued.within old earlier)
    | added fresh within => exact within
  named job member := by
    cases jobStep issued admitted member with
    | known old earlier id data =>
        rw [id, data]
        exact queued.named old earlier
    | enqueued request order drawn confirmed same called =>
        rw [same]
        rfl

/-! ## One count -/

/-- A job that is taken now has not been taken before. -/
theorem taken_now {context : SagaContext} (issued : Issues platform stage.task stage.log event.call)
    (now : takenBy event = some context) : ∃ jobId before after,
      event = ⟨.queue (.moveToActive jobId), .ok (some context), before, after⟩ ∧ stage.task = .sagaJob jobId ∧
        stage.log = [] := by
  rcases event with ⟨call, reply, before, after⟩
  cases call with
  | intake call => cases now
  | ports call => cases now
  | queue call =>
      cases call with
      | moveToActive jobId =>
          cases reply with
          | error error => cases now
          | ok value =>
              cases now
              exact ⟨jobId, before, after, rfl, issued.of_taking⟩
      | moveToCompleted jobId => cases now
      | moveToFailed jobId => cases now
      | moveStalledJobsToWait jobId => cases now

/-- A job counts as taken from the moment it has been handed over. -/
theorem takes_cons (issued : Issues platform stage.task stage.log event.call) (jobId : String) :
    takesJob jobId stage.task (event :: stage.log) = takesJob jobId stage.task stage.log ∨
      takesJob jobId stage.task stage.log = false ∧ ∃ context before after,
        event = ⟨.queue (.moveToActive jobId), .ok (some context), before, after⟩ := by
  cases now : takenBy event with
  | none =>
      left
      have same : taken (event :: stage.log) = taken stage.log := by
        unfold taken
        rw [List.findSome?_cons, now]
      cases stage.task with
      | sagaJob other =>
          change (decide (other = jobId) && _) = (decide (other = jobId) && _)
          rw [same]
      | createOrder request => rfl
      | stalled other => rfl
      | compensateSaga id => rfl
  | some context =>
      rcases taken_now issued now with ⟨other, before, after, rfl, task, first⟩
      rw [task, first]
      by_cases named : other = jobId
      · subst named
        exact Or.inr ⟨Bool.and_false _, context, before, after, rfl⟩
      · left
        change (decide (other = jobId) && _) = (decide (other = jobId) && _)
        rw [decide_eq_false named, Bool.false_and, Bool.false_and]

end Events

/-! ## Stalls -/

/-- A check for stalled jobs has not been made before it is made. -/
def Unchecked (task : PipelineTask) (log : PipelineLog) : Prop := ∀ jobId, task = .stalled jobId → log = []

theorem unchecked_meets {platform : Platform} (task : PipelineTask) :
    (task.program platform).Meets (pipeline platform).Admits (fun log _ => Unchecked task log)
      (fun _ _ => True) (fun _ _ => True) [] := by
  have others : ∀ task : PipelineTask, (∀ jobId, task ≠ .stalled jobId) →
      (task.program platform).Meets (pipeline platform).Admits (fun log _ => Unchecked task log)
        (fun _ _ => True) (fun _ _ => True) [] := by
    intro task other
    refine Program.Meets.widen ?_ (.anything _ _)
    intro log call _ jobId same
    exact absurd same (other jobId)
  cases task with
  | stalled jobId =>
      apply Program.Meets.call_bind fun _ _ => rfl
      · exact fun _ _ _ _ => trivial
      · exact fun _ _ _ _ => trivial
  | createOrder request => exact others _ fun jobId same => by cases same
  | sagaJob jobId => exact others _ fun jobId same => by cases same
  | compensateSaga id => exact others _ fun jobId same => by cases same

section Stalls

variable {platform : Platform} {stage : Stage} {event : PipelineEvent}

/-- A check stays counted. -/
theorem stalls_cons (jobId : String) (counted : stallsJob jobId stage.task stage.log = true) :
    stallsJob jobId stage.task (event :: stage.log) = true := by
  cases task : stage.task with
  | stalled other =>
      rw [task] at counted
      exact Bool.and_eq_true_iff.mpr ⟨(Bool.and_eq_true_iff.mp counted).1, rfl⟩
  | createOrder request =>
      rw [task] at counted
      cases counted
  | sagaJob other =>
      rw [task] at counted
      cases counted
  | compensateSaga id =>
      rw [task] at counted
      cases counted

/-- A job that is found stalled is counted as such. -/
theorem stalls_now {jobId : String} (issued : Issues platform stage.task stage.log event.call)
    (unchecked : Unchecked stage.task stage.log) (called : event.call = .queue (.moveStalledJobsToWait jobId)) :
    stallsJob jobId stage.task stage.log = false ∧ stallsJob jobId stage.task (event :: stage.log) = true := by
  rw [called] at issued
  cases task : stage.task with
  | stalled other =>
      rw [task] at issued
      cases issued
      rw [unchecked jobId task]
      exact ⟨Bool.and_false _, Bool.and_eq_true_iff.mpr ⟨decide_eq_true rfl, rfl⟩⟩
  | createOrder request =>
      rw [task] at issued
      rcases issued with ⟨_, impossible, _⟩
      cases impossible
  | sagaJob other =>
      rw [task] at issued
      cases issued
  | compensateSaga id =>
      rw [task] at issued
      rcases issued with ⟨_, impossible⟩
      cases impossible

end Stalls

/-! ## All runs -/

/-- No job has been handed over more often than it has waited. -/
structure Metered (config : Flowing) : Prop where
  queued : Queued config.shared
  known : ∀ job ∈ config.shared.jobs,
    System.tally (takesJob job.id) config ≤ job.credit + System.tally (stallsJob job.id) config
  unknown : ∀ jobId, (∀ job ∈ config.shared.jobs, job.id ≠ jobId) → System.tally (takesJob jobId) config = 0

section Runs

variable {platform : Platform} {Legal : Flowing → Move PipelineTask Choice → Prop} {start : Backend}
  {config next : Flowing}

section Moved

variable {index : Nat} {stage : Stage} (event : PipelineEvent) (rest : Pipeline PipelineOutcome) (shared : Backend)
  (listed : config.threads[index]? = some stage) (issued : Issues platform stage.task stage.log event.call)

include listed

theorem tally_moved (counts : PipelineTask → PipelineLog → Bool) :
    System.tally counts { shared, threads := config.threads.set index (stage.answered event rest) } +
        (counts stage.task stage.log).toNat =
      System.tally counts config + (counts stage.task (event :: stage.log)).toNat :=
  System.tally_answer event rest shared listed

theorem stalls_kept (jobId : String) : System.tally (stallsJob jobId) config ≤
    System.tally (stallsJob jobId) { shared, threads := config.threads.set index (stage.answered event rest) } := by
  have counted := tally_moved event rest shared listed (stallsJob jobId)
  cases before : stallsJob jobId stage.task stage.log with
  | false =>
      rw [before] at counted
      simp only [Bool.toNat_false] at counted
      omega
  | true =>
      rw [before, stalls_cons jobId before] at counted
      omega

include issued

theorem stalls_grow (unchecked : Unchecked stage.task stage.log) {jobId : String}
    (called : event.call = .queue (.moveStalledJobsToWait jobId)) :
    System.tally (stallsJob jobId) { shared, threads := config.threads.set index (stage.answered event rest) } =
      System.tally (stallsJob jobId) config + 1 := by
  have counted := tally_moved event rest shared listed (stallsJob jobId)
  rcases stalls_now issued unchecked called with ⟨before, after⟩
  rw [before, after] at counted
  exact counted

/-- A job has been handed over no more often, or it is handed over now. -/
theorem takes_moved (jobId : String) :
    System.tally (takesJob jobId) { shared, threads := config.threads.set index (stage.answered event rest) } =
        System.tally (takesJob jobId) config ∨
      System.tally (takesJob jobId) { shared, threads := config.threads.set index (stage.answered event rest) } ≤
          System.tally (takesJob jobId) config + 1 ∧
        ∃ context before after, event = ⟨.queue (.moveToActive jobId), .ok (some context), before, after⟩ := by
  have counted := tally_moved event rest shared listed (takesJob jobId)
  rcases takes_cons issued jobId with same | ⟨before, handed⟩
  · rw [same] at counted
    exact Or.inl (Nat.add_right_cancel counted)
  · rw [before] at counted
    refine Or.inr ⟨?_, handed⟩
    have bit := Bool.toNat_le (takesJob jobId stage.task (event :: stage.log))
    simp only [Bool.toNat_false] at counted
    omega

end Moved

theorem Metered.moved {index : Nat} {stage : Stage} {event : PipelineEvent} (rest : Pipeline PipelineOutcome)
    (listed : config.threads[index]? = some stage) (here : event.before = config.shared)
    (admitted : (pipeline platform).Admits stage.log event) (issued : Issues platform stage.task stage.log event.call)
    (unchecked : Unchecked stage.task stage.log) (metered : Metered config) :
    Metered { shared := event.after, threads := config.threads.set index (stage.answered event rest) } := by
  have queued := metered.queued
  rw [← here] at queued
  have stalled := stalls_kept event rest event.after listed
  constructor
  · exact queued.moved issued admitted
  · intro job member
    rcases takes_moved event rest event.after listed issued job.id with same | ⟨once, context, before, after, rfl⟩
    · rw [same]
      cases jobChange issued admitted member with
      | known old earlier id within credit =>
          rw [here] at earlier
          have known := metered.known old earlier
          rw [← id] at known
          rcases credit with kept | ⟨called, lost⟩
          · have grown := stalled job.id
            omega
          · rw [stalls_grow event rest event.after listed issued unchecked called]
            omega
      | added fresh within called =>
          rw [here] at fresh
          rw [metered.unknown job.id fresh]
          exact Nat.zero_le _
    · rcases handed_credit queued admitted member rfl with ⟨old, earlier, named, gained⟩
      replace here : before = config.shared := here
      rw [here] at earlier
      have known := metered.known old earlier
      have grown := stalled job.id
      rw [named] at known
      omega
  · intro jobId absent
    have unknown : ∀ job ∈ event.before.jobs, job.id ≠ jobId := by
      intro old earlier named
      rcases jobs_stay issued admitted earlier with ⟨job, member, same⟩
      exact absent job member (same.trans named)
    rcases takes_moved event rest event.after listed issued jobId with same | ⟨once, context, before, after, rfl⟩
    · rw [same]
      rw [here] at unknown
      exact metered.unknown jobId unknown
    · rcases handed_over admitted with ⟨_, waiting, earlier, named, _⟩
      exact absurd named (unknown waiting earlier)

/-- A run counts from a queue in any state. -/
theorem reaches_metered (queued : Queued start) (reached : (pipeline platform).Reaches Legal { shared := start } config) :
    Metered config := by
  refine reached.induct ⟨queued, fun _ _ => Nat.zero_le _, fun _ _ => rfl⟩ ?_
  intro config move next earlier legal stepped metered
  have unmoved : (∀ index choice, move ≠ .advance index choice) → Metered next := by
    intro other
    have taken : ∀ jobId, System.tally (takesJob jobId) next = System.tally (takesJob jobId) config :=
      fun jobId => stepped.tally_unmoved other fun task => by cases task <;> first | rfl | exact Bool.and_false _
    have stalled : ∀ jobId, System.tally (stallsJob jobId) next = System.tally (stallsJob jobId) config :=
      fun jobId => stepped.tally_unmoved other fun task => by cases task <;> first | rfl | exact Bool.and_false _
    have shared := (stepped.unmoved other).shared
    constructor
    · rw [shared]
      exact metered.queued
    · intro job member
      rw [shared] at member
      rw [taken, stalled]
      exact metered.known job member
    · intro jobId absent
      rw [shared] at absent
      rw [taken]
      exact metered.unknown jobId absent
  cases stepped with
  | idle => exact metered
  | started task => exact unmoved fun _ _ same => by cases same
  | stopped index => exact unmoved fun _ _ same => by cases same
  | answered index choice stage call resume listed pending live =>
      have member := List.mem_of_getElem? listed
      have answered := (reaches_stages earlier stage member).answered pending config.shared choice
      have unchecked := ((earlier.contract (fun _ none => by cases none) fun _ task _ => unchecked_meets task) stage member).answered
        pending config.shared choice
      exact metered.moved _ listed rfl ⟨choice, rfl⟩ answered.1.2 unchecked.1

/-- The worker takes jobs that are named after their orders. -/
def TakenByName (config : Flowing) : Prop :=
  ∀ stage ∈ config.threads, ∀ context, taken stage.log = some context →
    stage.task = .sagaJob (Intake.SagaEnqueuer.jobId context.orderId)

theorem reaches_named (queued : Queued start) (reached : (pipeline platform).Reaches Legal { shared := start } config) :
    TakenByName config := by
  refine reached.moving ?_ ?_ ?_
  · exact fun stage none => by cases none
  · intro earlier next unmoved named stage member context took
    rcases unmoved.mem member with ⟨old, listed, same, log⟩ | nothing
    · rw [← same]
      exact named old listed context (log ▸ took)
    · rw [nothing] at took
      cases took
  · intro earlier index choice stage call resume reached' _ listed pending named other among context took
    have member := List.mem_of_getElem? listed
    rcases List.mem_or_eq_of_mem_set among with before | rfl
    · exact named other before context took
    · rcases taken_cons took with before | ⟨jobId, before, after, event⟩
      · exact named stage member context before
      · have answered := (reaches_stages reached' stage member).answered pending earlier.shared choice
        have admitted : (pipeline platform).Admits stage.log ((pipeline platform).answer earlier.shared call choice) :=
          ⟨choice, rfl⟩
        have here : ((pipeline platform).answer earlier.shared call choice).before = earlier.shared := rfl
        have issued : Issues platform stage.task stage.log ((pipeline platform).answer earlier.shared call choice).call :=
          answered.1.2
        rw [event] at admitted here issued
        rcases taken_known admitted with ⟨job, queuedJob, id, rfl⟩
        replace here : before = earlier.shared := here
        rw [here] at queuedJob
        have known := (reaches_metered queued reached').queued.named job queuedJob
        rw [← known, id]
        exact issued.of_taking.1

end Runs

end Orderly
