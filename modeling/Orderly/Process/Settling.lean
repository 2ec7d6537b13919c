import Orderly.Process.System

/-!
# Routines awaited together

A caller that awaits a list of routines as one, and takes an error of any of
them as its outcome, sees nothing of how they interleave.  `launch` starts the
list, and `Settled` says that each routine has ended, and how.

Routines whose length is bounded whatever they are answered can always be
settled, one after another if in no other order, provided that a call may be
answered at any time.
-/

namespace Orderly
namespace Process

variable {S : Signature} {Err State Task Choice α β : Type}

namespace Program

/-- The program ends after at most this many calls, whatever they are answered. -/
def EndsWithin : Nat → Program S Err α → Prop
  | _, done _ => True
  | _, thrown _ => True
  | 0, await _ _ => False
  | bound + 1, await _ resume => ∀ reply, (resume reply).EndsWithin bound

namespace EndsWithin

variable {program : Program S Err α} {bound : Nat}

theorem done (bound : Nat) (value : α) : (Program.done value : Program S Err α).EndsWithin bound := by
  cases bound with
  | zero => trivial
  | succ bound => trivial

theorem thrown (bound : Nat) (error : Err) : (Program.thrown error : Program S Err α).EndsWithin bound := by
  cases bound with
  | zero => trivial
  | succ bound => trivial

theorem weaken {wider : Nat} (ends : program.EndsWithin bound) (within : bound ≤ wider) :
    program.EndsWithin wider := by
  induction program generalizing bound wider with
  | done value => exact done wider value
  | thrown error => exact thrown wider error
  | await call resume inductionHypothesis =>
      cases bound with
      | zero => exact ends.elim
      | succ bound =>
          cases wider with
          | zero => exact absurd within (Nat.not_succ_le_zero bound)
          | succ wider => exact fun reply => inductionHypothesis reply (ends reply) (Nat.le_of_succ_le_succ within)

/-- What follows a program adds its own calls. -/
theorem bind {next : α → Program S Err β} {further : Nat} (first : program.EndsWithin bound)
    (second : ∀ value, (next value).EndsWithin further) : (program >>= next).EndsWithin (further + bound) := by
  induction program generalizing bound with
  | done value => exact (second value).weaken (Nat.le_add_right further bound)
  | thrown error => exact thrown _ error
  | await call resume inductionHypothesis =>
      cases bound with
      | zero => exact first.elim
      | succ bound => exact fun reply => inductionHypothesis reply (first reply)

theorem attempt (ends : program.EndsWithin bound) : program.attempt.EndsWithin bound := by
  induction program generalizing bound with
  | done value => exact done bound _
  | thrown error => exact done bound _
  | await call resume inductionHypothesis =>
      cases bound with
      | zero => exact ends.elim
      | succ bound => exact fun reply => inductionHypothesis reply (ends reply)

/-- `try … catch`, with a handler that issues no calls. -/
theorem tryCatch {handler : Err → Program S Err α} (body : program.EndsWithin bound)
    (handled : ∀ error, (handler error).EndsWithin 0) :
    (MonadExcept.tryCatch program handler).EndsWithin bound := by
  have whole : (MonadExcept.tryCatch program handler).EndsWithin (0 + bound) := by
    refine bind body.attempt ?_
    intro outcome
    cases outcome with
    | ok value => trivial
    | error error => exact handled error
  rw [Nat.zero_add] at whole
  exact whole

theorem call (request : S.Call) : (Program.call request : Program S Err (S.Reply request)).EndsWithin 1 := by
  intro reply
  cases reply with
  | ok value => exact done 0 value
  | error error => exact thrown 0 error

/-- A program that has no call left has ended. -/
theorem ended (ends : program.EndsWithin 0) : ∃ outcome, program = Program.ofExcept outcome := by
  cases program with
  | done value => exact ⟨.ok value, rfl⟩
  | thrown error => exact ⟨.error error, rfl⟩
  | await call resume => exact ends.elim

end EndsWithin

end Program

/-- How far each routine has got. -/
def Config.Settled (config : Config S Err State Task α) (outcomes : List (Except Err α)) : Prop :=
  config.threads.map Thread.code = outcomes.map Program.ofExcept

namespace System

variable (system : System S Err State Task Choice α)

/-- All routines of a list, none of which has been answered yet. -/
def launch (shared : State) (tasks : List Task) : Config S Err State Task α :=
  { shared, threads := tasks.map fun task => { task, code := system.program task } }

variable {system} {Legal : Config S Err State Task α → Move Task Choice → Prop}
  {start config : Config S Err State Task α} {bound : Nat}

/-- Calls of this routine may be answered at any time. -/
def Serviceable (Legal : Config S Err State Task α → Move Task Choice → Prop) (index : Nat) : Prop :=
  ∀ config : Config S Err State Task α, ∃ choice, Legal config (.advance index choice)

/-- A routine has ended in a later configuration, and the others have not moved. -/
def Finishes (system : System S Err State Task Choice α)
    (Legal : Config S Err State Task α → Move Task Choice → Prop) (config : Config S Err State Task α)
    (index : Nat) : Prop :=
  ∃ final ended outcome, system.Reaches Legal config final ∧
    final.threads = config.threads.set index ended ∧ ended.code = Program.ofExcept outcome

theorem finishes_ended {index : Nat} {thread : Thread S Err State Task α}
    (listed : config.threads[index]? = some thread) {outcome : Except Err α}
    (ended : thread.code = Program.ofExcept outcome) : system.Finishes Legal config index := by
  refine ⟨config, thread, outcome, .refl, ?_, ended⟩
  rw [← (List.getElem?_eq_some_iff.mp listed).2, List.set_getElem_self]

/-- One routine can be run to its end while the others wait. -/
theorem Serviceable.finishes {index : Nat} (serviceable : Serviceable Legal index)
    {thread : Thread S Err State Task α} (listed : config.threads[index]? = some thread)
    (live : thread.stopped = false) (ends : thread.code.EndsWithin bound) :
    system.Finishes Legal config index := by
  induction bound generalizing config thread with
  | zero =>
      rcases ends.ended with ⟨outcome, ended⟩
      exact finishes_ended listed ended
  | succ bound inductionHypothesis =>
      rcases thread with ⟨task, code, log, stopped⟩
      cases code with
      | done value =>
          have ended : (Program.done value : Program S Err α) = Program.ofExcept (.ok value) := rfl
          exact finishes_ended listed ended
      | thrown error =>
          have ended : (Program.thrown error : Program S Err α) = Program.ofExcept (.error error) := rfl
          exact finishes_ended listed ended
      | await call resume =>
          cases live
          rcases serviceable config with ⟨choice, legal⟩
          let rest := resume (system.perform config.shared call choice).1
          let event := system.answer config.shared call choice
          let next : Config S Err State Task α :=
            { shared := event.after, threads := config.threads.set index ⟨task, rest, event :: log, false⟩ }
          have stepped : system.step config (.advance index choice) = next := by
            simp only [step, listed, next, event, rest]
          have inside := (List.getElem?_eq_some_iff.mp listed).1
          have found : next.threads[index]? = some ⟨task, rest, event :: log, false⟩ :=
            List.getElem?_set_self inside
          have shorter : rest.EndsWithin bound := ends _
          rcases inductionHypothesis found rfl shorter with ⟨final, ended, outcome, later, threads, finished⟩
          have moved : system.Reaches Legal config next := stepped ▸ .step _ .refl legal
          refine ⟨final, ended, outcome, moved.trans later, ?_, finished⟩
          rw [threads, List.set_set]

/-- Routines that still run can all be run to their ends. -/
theorem settle_rest (serviceable : ∀ index, Serviceable Legal index)
    (ended ahead : List (Thread S Err State Task α)) (threads : config.threads = ended ++ ahead)
    (finished : ∃ outcomes : List (Except Err α), ended.map Thread.code = outcomes.map Program.ofExcept)
    (running : ∀ thread ∈ ahead, thread.stopped = false ∧ thread.code.EndsWithin bound) :
    ∃ final, system.Reaches Legal config final ∧ ∃ outcomes, final.Settled outcomes := by
  induction ahead generalizing config ended with
  | nil =>
      rcases finished with ⟨outcomes, finished⟩
      refine ⟨config, .refl, outcomes, ?_⟩
      rw [Config.Settled, threads, List.append_nil, finished]
  | cons thread ahead inductionHypothesis =>
      have listed : config.threads[ended.length]? = some thread := by simp [threads]
      have first := running thread List.mem_cons_self
      rcases (serviceable ended.length).finishes listed first.1 first.2 with
        ⟨middle, last, outcome, earlier, changed, done⟩
      rcases finished with ⟨outcomes, finished⟩
      have next : middle.threads = (ended ++ [last]) ++ ahead := by simp [changed, threads]
      rcases inductionHypothesis (ended ++ [last]) next ⟨outcomes ++ [outcome], by simp [finished, done]⟩
          (fun other member => running other (List.mem_cons_of_mem _ member)) with ⟨final, later, settled⟩
      exact ⟨final, earlier.trans later, settled⟩

/-- A list of bounded routines can be settled. -/
theorem launch_settles (serviceable : ∀ index, Serviceable Legal index) (shared : State) (tasks : List Task)
    (bounded : ∀ task ∈ tasks, (system.program task).EndsWithin bound) :
    ∃ final, system.Reaches Legal (system.launch shared tasks) final ∧ ∃ outcomes, final.Settled outcomes := by
  apply settle_rest serviceable [] _ rfl ⟨[], rfl⟩
  intro thread member
  rcases List.mem_map.mp member with ⟨task, listed, rfl⟩
  exact ⟨rfl, bounded task listed⟩

/-- A routine keeps the contract of its program for the answers it may get at
its place, whatever the others do. -/
theorem Reaches.contract_at {Answers : Log S Err State → Event S Err State → Prop}
    {Allowed : Log S Err State → S.Call → Prop} {Returns : α → Log S Err State → Prop}
    {Throws : Err → Log S Err State → Prop} {position : Nat} {thread : Thread S Err State Task α}
    (reached : system.Reaches Legal start config) (found : start.threads[position]? = some thread)
    (meets : thread.code.Meets Answers Allowed Returns Throws thread.log)
    (lawful : Lawful Answers Allowed thread.log)
    (answers : ∀ config choice log call, Legal config (.advance position choice) →
      Answers log (system.answer config.shared call choice)) :
    ∃ later, config.threads[position]? = some later ∧
      later.code.Meets Answers Allowed Returns Throws later.log ∧ Lawful Answers Allowed later.log := by
  refine reached.induct ?_ ?_
  · exact ⟨thread, found, meets, lawful⟩
  · intro config move next _ legal stepped kept
    rcases kept with ⟨current, listed, ahead, behind⟩
    cases stepped with
    | idle => exact ⟨current, listed, ahead, behind⟩
    | started task =>
        have inside : position < config.threads.length := (List.getElem?_eq_some_iff.mp listed).1
        exact ⟨current, (List.getElem?_append_left inside).trans listed, ahead, behind⟩
    | stopped index =>
        refine ⟨_, getElem?_stop index listed, ?_⟩
        split
        · exact ⟨ahead, behind⟩
        · exact ⟨ahead, behind⟩
    | answered index choice moved call resume held pending live =>
        by_cases same : index = position
        · subst same
          cases held.symm.trans listed
          have inside : index < config.threads.length := (List.getElem?_eq_some_iff.mp listed).1
          have admitted := answers config choice current.log call legal
          rw [pending] at ahead
          exact ⟨_, List.getElem?_set_self inside, ahead.2 _ _ _ admitted, ahead.1, admitted, behind⟩
        · refine ⟨current, ?_, ahead, behind⟩
          rw [List.getElem?_set_ne same, listed]

end System
end Process
end Orderly
