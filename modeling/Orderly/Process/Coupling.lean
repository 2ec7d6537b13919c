import Orderly.Process.Execution

/-!
# Two routines side by side

Where the environment makes the same choice for every call, a routine runs to
its end and determines an outcome and a state.  Two such runs are coupled when
both return, with values and states that one relation connects, or both throw
and another relation connects their errors and states.  The rules follow the
syntax of programs, so two runs of one program from related states are compared
call by call, without computing either.
-/

namespace Orderly
namespace Process
namespace System

variable {S : Signature} {Err State Task Choice α β γ δ : Type}

/-- Run a routine to its end, with one choice for all of its calls. -/
def complete (system : System S Err State Task Choice γ) (choice : Choice) :
    Program S Err α → State → Except Err α × State
  | .done value, state => (.ok value, state)
  | .thrown error, state => (.error error, state)
  | .await call resume, state =>
      complete system choice (resume (system.perform state call choice).1) (system.perform state call choice).2

variable {system : System S Err State Task Choice γ} {choice : Choice}

/-- What every allowed call keeps holds at the end. -/
theorem complete_keeps {Allowed : Log S Err State → S.Call → Prop} {Returns : α → Log S Err State → Prop}
    {Throws : Err → Log S Err State → Prop} {Kept : State → Prop} {program : Program S Err α} {log : Log S Err State}
    {state : State} (meets : program.Meets system.Admits Allowed Returns Throws log) (initial : Kept state)
    (preserved : ∀ log call state, Allowed log call → Kept state → Kept (system.perform state call choice).2) :
    Kept (system.complete choice program state).2 := by
  induction program generalizing log state with
  | done value => exact initial
  | thrown error => exact initial
  | await call resume inductionHypothesis =>
      have next := meets.2 (system.perform state call choice).1 state (system.perform state call choice).2 ⟨choice, rfl⟩
      exact inductionHypothesis _ next (preserved log call state meets.1 initial)

/-- What connects the ends of two runs. -/
def Coupled (Returns : α → β → State → State → Prop) (Throws : Err → Err → State → State → Prop) :
    Except Err α × State → Except Err β × State → Prop
  | (.ok value, state), (.ok value', state') => Returns value value' state state'
  | (.error error, state), (.error error', state') => Throws error error' state state'
  | _, _ => False

/-- Two runs whose ends are connected. -/
def Couples (system : System S Err State Task Choice γ) (choice : Choice)
    (Returns : α → β → State → State → Prop) (Throws : Err → Err → State → State → Prop)
    (program : Program S Err α) (program' : Program S Err β) (state state' : State) : Prop :=
  Coupled Returns Throws (system.complete choice program state) (system.complete choice program' state')

namespace Couples

variable {Returns : α → β → State → State → Prop} {Throws : Err → Err → State → State → Prop}
  {program : Program S Err α} {program' : Program S Err β} {state state' : State}

/-- Both routines get their next call answered. -/
theorem await {call call' : S.Call} {resume : Except Err (S.Reply call) → Program S Err α}
    {resume' : Except Err (S.Reply call') → Program S Err β}
    (next : system.Couples choice Returns Throws (resume (system.perform state call choice).1)
      (resume' (system.perform state' call' choice).1) (system.perform state call choice).2
      (system.perform state' call' choice).2) :
    system.Couples choice Returns Throws (.await call resume) (.await call' resume') state state' := next

theorem complete_bind (program : Program S Err α) (next : α → Program S Err δ) (state : State) :
    system.complete choice (program >>= next) state =
      match system.complete choice program state with
      | (.ok value, state) => system.complete choice (next value) state
      | (.error error, state) => (.error error, state) := by
  induction program generalizing state with
  | done value => rfl
  | thrown error => rfl
  | await call resume inductionHypothesis => exact inductionHypothesis _ _

theorem complete_attempt (program : Program S Err α) (state : State) :
    system.complete choice program.attempt state =
      (.ok (system.complete choice program state).1, (system.complete choice program state).2) := by
  induction program generalizing state with
  | done value => rfl
  | thrown error => rfl
  | await call resume inductionHypothesis => exact inductionHypothesis _ _

/-- One part after the other. -/
theorem bind {ε : Type} {Middle : α → β → State → State → Prop} {Returns : δ → ε → State → State → Prop}
    {next : α → Program S Err δ} {next' : β → Program S Err ε}
    (first : system.Couples choice Middle Throws program program' state state')
    (second : ∀ value value' state state', Middle value value' state state' →
      system.Couples choice Returns Throws (next value) (next' value') state state') :
    system.Couples choice Returns Throws (program >>= next) (program' >>= next') state state' := by
  unfold Couples at *
  rw [complete_bind, complete_bind]
  rcases one : system.complete choice program state with ⟨outcome, final⟩
  rcases two : system.complete choice program' state' with ⟨outcome', final'⟩
  rw [one, two] at first
  cases outcome with
  | ok value =>
      cases outcome' with
      | ok value' => exact second _ _ _ _ first
      | error error' => exact first.elim
  | error error =>
      cases outcome' with
      | ok value' => exact first.elim
      | error error' => exact first

/-- A caught error is handed to the handler. -/
theorem tryCatch {Caught : Err → Err → State → State → Prop} {handler : Err → Program S Err α}
    {handler' : Err → Program S Err β}
    (body : system.Couples choice Returns Caught program program' state state')
    (handled : ∀ error error' state state', Caught error error' state state' →
      system.Couples choice Returns Throws (handler error) (handler' error') state state') :
    system.Couples choice Returns Throws (MonadExcept.tryCatch program handler)
      (MonadExcept.tryCatch program' handler') state state' := by
  change system.Couples choice Returns Throws (program.attempt >>= _) (program'.attempt >>= _) state state'
  unfold Couples at *
  rw [complete_bind, complete_bind, complete_attempt, complete_attempt]
  rcases one : system.complete choice program state with ⟨outcome, final⟩
  rcases two : system.complete choice program' state' with ⟨outcome', final'⟩
  rw [one, two] at body
  cases outcome with
  | ok value =>
      cases outcome' with
      | ok value' => exact body
      | error error' => exact body.elim
  | error error =>
      cases outcome' with
      | ok value' => exact body.elim
      | error error' => exact handled _ _ _ _ body

end Couples

end System
end Process
end Orderly
