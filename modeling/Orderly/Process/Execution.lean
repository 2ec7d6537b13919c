import Orderly.Process.System

/-!
# A routine running alone

An execution answers the calls of one routine from a state that nothing else
changes, so each event starts in the state the previous one left.  It may be
looked at after any number of answers, which is also what a process that stops
at that point leaves behind.
-/

namespace Orderly
namespace Process
namespace System

variable {S : Signature} {Err State Task Choice α β γ : Type}
  (system : System S Err State Task Choice α)

/-- From `start`, with `log` answered, `rest` is left to run in `state`. -/
inductive Executes (program : Program S Err β) (start : State) :
    Log S Err State → Program S Err β → State → Prop where
  | begun : Executes program start [] program start
  | answered {log : Log S Err State} {call : S.Call}
      {resume : Except Err (S.Reply call) → Program S Err β} {state : State} (choice : Choice) :
      Executes program start log (.await call resume) state →
      Executes program start (system.answer state call choice :: log)
        (resume (system.perform state call choice).1) (system.answer state call choice).after

/-- Answer calls with the given choices until the choices or the calls run
out. -/
def execute (program : Program S Err β) (state : State) (log : Log S Err State) :
    List Choice → Log S Err State × Program S Err β × State
  | [] => (log, program, state)
  | choice :: choices =>
      match program with
      | .await call resume =>
          execute (resume (system.perform state call choice).1) (system.answer state call choice).after
            (system.answer state call choice :: log) choices
      | program => (log, program, state)

/-- Run to the end against an environment that chooses each answer by what has
happened so far. -/
def play (strategy : Log S Err State → S.Call → Choice) :
    Program S Err β → State → Log S Err State → Except Err β × State × Log S Err State
  | .done value, state, log => (.ok value, state, log)
  | .thrown error, state, log => (.error error, state, log)
  | .await call resume, state, log =>
      play strategy (resume (system.perform state call (strategy log call)).1)
        (system.answer state call (strategy log call)).after
        (system.answer state call (strategy log call) :: log)

/-- The events of a log follow one another from `start` to the given state. -/
def Chained (start : State) : Log S Err State → State → Prop
  | [], state => state = start
  | event :: log, state => state = event.after ∧ Chained start log event.before

variable {system} {program rest : Program S Err β} {start state : State} {log : Log S Err State}

/-- The events up to a certain one lead to the state it has left. -/
theorem Chained.upTo {since earlier : Log S Err State} {event : Event S Err State}
    (chained : Chained start (since ++ event :: earlier) state) :
    Chained start (event :: earlier) event.after := by
  induction since generalizing state with
  | nil => exact ⟨rfl, chained.2⟩
  | cons later since inductionHypothesis => exact inductionHypothesis chained.2

namespace Executes

/-- Before the first answer, everything is left to run. -/
theorem unanswered (executes : system.Executes program start [] rest state) : rest = program := by
  cases executes
  rfl

theorem execute (executes : system.Executes program start log rest state) (choices : List Choice) :
    system.Executes program start (system.execute rest state log choices).1
      (system.execute rest state log choices).2.1 (system.execute rest state log choices).2.2 := by
  induction choices generalizing log rest state with
  | nil => simpa [System.execute] using executes
  | cons choice choices inductionHypothesis =>
      cases rest with
      | done value => simpa [System.execute] using executes
      | thrown error => simpa [System.execute] using executes
      | await call resume =>
          rw [System.execute]
          exact inductionHypothesis (.answered choice executes)

theorem chained (executes : system.Executes program start log rest state) :
    Chained start log state := by
  induction executes with
  | begun => rfl
  | answered choice _ inductionHypothesis => exact ⟨rfl, inductionHypothesis⟩

theorem admits (executes : system.Executes program start log rest state) :
    ∀ event ∈ log, system.Admits [] event := by
  induction executes with
  | begun =>
      intro event member
      cases member
  | answered choice earlier inductionHypothesis =>
      intro event member
      rcases List.mem_cons.mp member with rfl | known
      · exact ⟨choice, rfl⟩
      · exact inductionHypothesis event known

/-- An execution keeps the contract its routine meets, for all events that
occur in it. -/
theorem contract {Fine : Event S Err State → Prop} {Allowed : Log S Err State → S.Call → Prop}
    {Returns : β → Log S Err State → Prop} {Throws : Err → Log S Err State → Prop}
    (executes : system.Executes program start log rest state) (fine : ∀ event ∈ log, Fine event)
    (meets : program.Meets (fun log event => system.Admits log event ∧ Fine event) Allowed Returns
      Throws []) :
    rest.Meets (fun log event => system.Admits log event ∧ Fine event) Allowed Returns Throws log ∧
      Lawful system.Admits Allowed log := by
  induction executes with
  | begun => exact ⟨meets, trivial⟩
  | answered choice _ inductionHypothesis =>
      rcases inductionHypothesis fun event member => fine event (List.mem_cons_of_mem _ member) with
        ⟨ahead, behind⟩
      refine ⟨?_, ahead.1, ⟨choice, rfl⟩, behind⟩
      exact ahead.2 _ _ _ ⟨⟨choice, rfl⟩, fine _ List.mem_cons_self⟩

/-- The contract for whatever may be answered. -/
theorem meets {Allowed : Log S Err State → S.Call → Prop} {Returns : β → Log S Err State → Prop}
    {Throws : Err → Log S Err State → Prop} (executes : system.Executes program start log rest state)
    (meets : program.Meets system.Admits Allowed Returns Throws []) :
    rest.Meets system.Admits Allowed Returns Throws log ∧ Lawful system.Admits Allowed log := by
  have fine : ∀ event ∈ log, (fun _ => True) event := fun _ _ => trivial
  rcases executes.contract fine (meets.narrow fun _ _ admitted => admitted.1) with ⟨ahead, behind⟩
  exact ⟨ahead.narrow fun _ _ admitted => ⟨admitted, trivial⟩, behind⟩

/-- What every allowed call of a routine keeps holds wherever its execution stands. -/
theorem invariant {Allowed : Log S Err State → S.Call → Prop} {Returns : β → Log S Err State → Prop}
    {Throws : Err → Log S Err State → Prop} {Invariant : Log S Err State → State → Prop}
    (executes : system.Executes program start log rest state)
    (meets : program.Meets system.Admits Allowed Returns Throws []) (initial : Invariant [] start)
    (preserved : ∀ log event, Allowed log event.call → system.Admits log event → Invariant log event.before →
      Invariant (event :: log) event.after) : Invariant log state := by
  induction executes with
  | begun => exact initial
  | answered choice earlier inductionHypothesis =>
      have allowed := (earlier.meets meets).1.1
      exact preserved _ (system.answer _ _ choice) allowed ⟨choice, rfl⟩ inductionHypothesis

/-- An execution of a routine that awaits an answer either has not got it yet
or is, from then on, an execution of the continuation. -/
theorem first {call : S.Call} {resume : Except Err (S.Reply call) → Program S Err β}
    (executes : system.Executes (.await call resume) start log rest state) :
    (log = [] ∧ rest = .await call resume) ∨
      ∃ choice since, log = since ++ [system.answer start call choice] ∧
        system.Executes (resume (system.perform start call choice).1)
          (system.answer start call choice).after since rest state := by
  induction executes with
  | begun => exact Or.inl ⟨rfl, rfl⟩
  | answered choice earlier inductionHypothesis =>
      rcases inductionHypothesis with ⟨rfl, same⟩ | ⟨choice', since, rfl, later⟩
      · cases same
        cases earlier
        exact Or.inr ⟨choice, [], rfl, .begun⟩
      · exact Or.inr ⟨choice', _ :: since, rfl, .answered choice later⟩

end Executes

/-! ## Environments -/

variable {strategy : Log S Err State → S.Call → Choice}

/-- What follows a routine starts where that has returned, or not at all. -/
theorem play_bind {next : β → Program S Err γ} :
    system.play strategy (program >>= next) state log =
      match system.play strategy program state log with
      | (.ok value, state, log) => system.play strategy (next value) state log
      | (.error error, state, log) => (.error error, state, log) := by
  induction program generalizing state log with
  | done value => rfl
  | thrown error => rfl
  | await call resume inductionHypothesis =>
      rw [Program.await_bind, play, play]
      exact inductionHypothesis _

/-- An attempted call hands its reply on. -/
theorem play_attempt_call {call : S.Call} {next : Except Err (S.Reply call) → Program S Err β}
    {reply : Except Err (S.Reply call)} {after : State}
    (performed : system.perform state call (strategy log call) = (reply, after)) :
    system.play strategy ((Program.call call).attempt >>= next) state log =
      system.play strategy (next reply) after (⟨call, reply, state, after⟩ :: log) := by
  change system.play strategy (.await call fun reply => (Program.ofExcept reply).attempt >>= next) state log = _
  rw [play, answer, performed]
  cases reply with
  | ok value => rfl
  | error error => rfl

/-- An attempt hands over the outcome it would otherwise have ended with. -/
theorem play_attempt :
    system.play strategy program.attempt state log =
      (.ok (system.play strategy program state log).1, (system.play strategy program state log).2.1,
        (system.play strategy program state log).2.2) := by
  induction program generalizing state log with
  | done value => rfl
  | thrown error => rfl
  | await call resume inductionHypothesis =>
      rw [Program.attempt, play, play]
      exact inductionHypothesis _

/-- Every event of a run is the environment's answer to its call. -/
theorem play_answers {event : Event S Err State} (member : event ∈ (system.play strategy program state log).2.2) :
    event ∈ log ∨ ∃ earlier, event = system.answer event.before event.call (strategy earlier event.call) := by
  induction program generalizing state log with
  | done value => exact Or.inl member
  | thrown error => exact Or.inl member
  | await call resume inductionHypothesis =>
      rw [play] at member
      rcases inductionHypothesis _ member with known | later
      · rcases List.mem_cons.mp known with rfl | earlier
        · exact Or.inr ⟨log, rfl⟩
        · exact Or.inl earlier
      · exact Or.inr later

@[simp] theorem play_ofExcept (result : Except Err β) :
    system.play strategy (Program.ofExcept result) state log = (result, state, log) := by
  cases result with
  | ok value => rfl
  | error error => rfl

variable (system) in
/-- Against this environment the routine returns, wherever it starts. -/
def Returning (strategy : Log S Err State → S.Call → Choice) (program : Program S Err β) : Prop :=
  ∀ state log, ∃ value ended, system.play strategy program state log = (.ok value, ended)

namespace Returning

theorem done (value : β) : system.Returning strategy (.done value) := fun state log => ⟨value, (state, log), rfl⟩

theorem bind {next : β → Program S Err γ} (first : system.Returning strategy program)
    (second : ∀ value, system.Returning strategy (next value)) : system.Returning strategy (program >>= next) := by
  intro state log
  rcases first state log with ⟨value, ⟨middle, log'⟩, played⟩
  rw [play_bind, played]
  exact second value middle log'

/-- A call that this environment always answers. -/
theorem call {call : S.Call}
    (served : ∀ state log, ∃ value, (system.perform state call (strategy log call)).1 = .ok value) :
    system.Returning strategy (Program.call call) := by
  intro state log
  rcases served state log with ⟨value, answered⟩
  rw [Program.call, play, answered]
  exact ⟨value, _, rfl⟩

/-- `try … catch` around anything, with a handler that returns. -/
theorem tryCatch (body : Program S Err β) {handler : Err → Program S Err β}
    (handled : ∀ error, system.Returning strategy (handler error)) :
    system.Returning strategy (MonadExcept.tryCatch body handler) := by
  intro state log
  change ∃ value ended, system.play strategy (body.attempt >>= _) state log = (.ok value, ended)
  rw [play_bind, play_attempt]
  cases (system.play strategy body state log).1 with
  | ok value => exact ⟨value, _, rfl⟩
  | error error => exact handled error _ _

end Returning

/-- A run against an environment is an execution that has ended. -/
theorem Executes.play (executes : system.Executes program start log rest state) :
    system.Executes program start (system.play strategy rest state log).2.2
      (Program.ofExcept (system.play strategy rest state log).1) (system.play strategy rest state log).2.1 := by
  induction rest generalizing state log with
  | done value => exact executes
  | thrown error => exact executes
  | await call resume inductionHypothesis =>
      rw [System.play]
      exact inductionHypothesis _ (.answered _ executes)

/-- Evaluating a routine gives an execution. -/
theorem executes_execute (system : System S Err State Task Choice α) (program : Program S Err β)
    (start : State) (choices : List Choice) :
    system.Executes program start (system.execute program start [] choices).1
      (system.execute program start [] choices).2.1 (system.execute program start [] choices).2.2 :=
  Executes.begun.execute choices

/-! ## What holds throughout -/

section Throughout

variable (system) in
/-- However the calls of a routine are answered from here on, the state satisfies this before and after each. -/
def Throughout (Holds : State → Prop) : Program S Err β → State → Prop
  | .done _, state => Holds state
  | .thrown _, state => Holds state
  | .await call resume, state => Holds state ∧ ∀ choice,
      Throughout Holds (resume (system.perform state call choice).1) (system.perform state call choice).2

variable {Holds : State → Prop} {state : State}

namespace Throughout

theorem now {program : Program S Err β} (throughout : system.Throughout Holds program state) : Holds state := by
  cases program with
  | done value => exact throughout
  | thrown error => exact throughout
  | await call resume => exact throughout.1

/-- That is what holds wherever an execution stands. -/
theorem iff_executes {program : Program S Err β} : system.Throughout Holds program state ↔
    ∀ log rest reached, system.Executes program state log rest reached → Holds reached := by
  constructor
  · intro throughout log rest reached executes
    have ahead : system.Throughout Holds rest reached := by
      induction executes with
      | begun => exact throughout
      | answered choice _ inductionHypothesis => exact inductionHypothesis.2 choice
    exact ahead.now
  · intro holds
    have ahead : ∀ (rest : Program S Err β) log reached, system.Executes program state log rest reached →
        system.Throughout Holds rest reached := by
      intro rest
      induction rest with
      | done value => exact fun log reached executes => holds log _ reached executes
      | thrown error => exact fun log reached executes => holds log _ reached executes
      | await call resume inductionHypothesis =>
          intro log reached executes
          exact ⟨holds log _ reached executes, fun choice => inductionHypothesis _ _ _ (.answered choice executes)⟩
    exact ahead program [] state .begun

/-- A call that changes nothing and can be answered in one way only. -/
theorem reading_iff {call : S.Call} {next : S.Reply call → Program S Err β} {value : S.Reply call}
    (unchanged : ∀ choice, (system.perform state call choice).2 = state)
    (only : ∀ choice other, (system.perform state call choice).1 = .ok other → other = value)
    (answered : ∃ choice, (system.perform state call choice).1 = .ok value) :
    system.Throughout Holds (Program.call (S := S) call >>= next) state ↔
      system.Throughout Holds (next value) state := by
  constructor
  · rintro ⟨_, throughout⟩
    rcases answered with ⟨choice, served⟩
    have ahead := throughout choice
    rw [unchanged choice, served] at ahead
    exact ahead
  · intro throughout
    refine ⟨throughout.now, fun choice => ?_⟩
    rw [unchanged choice]
    cases reply : (system.perform state call choice).1 with
    | ok other =>
        obtain rfl := only choice other reply
        exact throughout
    | error error => exact throughout.now

/-- A call that may take effect. -/
theorem acting_iff {call : S.Call} {next : S.Reply call → Program S Err β} {effect : State}
    (either : ∀ choice, (system.perform state call choice).2 = state ∨ (system.perform state call choice).2 = effect)
    (takes : ∃ choice, (system.perform state call choice).2 = effect)
    (ends : ∀ value reached, system.Throughout Holds (next value) reached ↔ Holds reached) :
    system.Throughout Holds (Program.call (S := S) call >>= next) state ↔ Holds state ∧ Holds effect := by
  have after : ∀ (reply : Except Err (S.Reply call)) reached,
      system.Throughout Holds (Program.ofExcept reply >>= next) reached ↔ Holds reached := by
    intro reply reached
    cases reply with
    | ok value => exact ends value reached
    | error error => exact Iff.rfl
  constructor
  · rintro ⟨holds, throughout⟩
    rcases takes with ⟨choice, rfl⟩
    exact ⟨holds, (after _ _).mp (throughout choice)⟩
  · rintro ⟨holds, holds'⟩
    refine ⟨holds, fun choice => (after _ _).mpr ?_⟩
    rcases either choice with same | same
    · rw [same]
      exact holds
    · rw [same]
      exact holds'

end Throughout
end Throughout
end System
end Process
end Orderly
