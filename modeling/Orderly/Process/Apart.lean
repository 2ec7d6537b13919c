import Orderly.Process.Execution

/-!
# A routine with a part of the state to itself

Between two answers of a routine the state may change in any way that leaves
one part of it alone.  The routine then finds that part as its last answered
call has left it, so a contract may speak of the part as the log knows it.
-/

namespace Orderly
namespace Process

variable {S : Signature} {Err State Task Choice Part α β : Type}

namespace System

variable (system : System S Err State Task Choice α) (part : State → Part)

/-- What a routine has left behind: the state after its last answered call. -/
def latest (start : State) : Log S Err State → State
  | [] => start
  | event :: _ => event.after

/-- From `start`, with `log` answered, `rest` is left to run in `state`, where
others have left the part alone. -/
inductive ExecutesAmid (program : Program S Err β) (start : State) :
    Log S Err State → Program S Err β → State → Prop where
  | begun : ExecutesAmid program start [] program start
  | disturbed {log : Log S Err State} {rest : Program S Err β} {state next : State} :
      ExecutesAmid program start log rest state → part next = part state → ExecutesAmid program start log rest next
  | answered {log : Log S Err State} {call : S.Call}
      {resume : Except Err (S.Reply call) → Program S Err β} {state : State} (choice : Choice) :
      ExecutesAmid program start log (.await call resume) state →
      ExecutesAmid program start (system.answer state call choice :: log)
        (resume (system.perform state call choice).1) (system.answer state call choice).after

/-- The events a routine can see when others leave the part alone. -/
def AdmitsAmid (start : State) (log : Log S Err State) (event : Event S Err State) : Prop :=
  system.Admits log event ∧ part event.before = part (latest start log)

variable {system part} {program rest : Program S Err β} {start state : State} {log : Log S Err State}

/-- A routine that runs alone is undisturbed. -/
theorem Executes.amid (executes : system.Executes program start log rest state) :
    system.ExecutesAmid part program start log rest state := by
  induction executes with
  | begun => exact .begun
  | answered choice _ inductionHypothesis => exact .answered choice inductionHypothesis

namespace ExecutesAmid

/-- The part is as the routine has left it. -/
theorem found (executes : system.ExecutesAmid part program start log rest state) :
    part state = part (latest start log) := by
  induction executes with
  | begun => rfl
  | disturbed _ same inductionHypothesis => exact same.trans inductionHypothesis
  | answered => rfl

/-- Who leaves a larger part alone leaves alone what it determines. -/
theorem coarser {Larger : Type} {larger : State → Larger}
    (executes : system.ExecutesAmid larger program start log rest state)
    (determines : ∀ state next, larger next = larger state → part next = part state) :
    system.ExecutesAmid part program start log rest state := by
  induction executes with
  | begun => exact .begun
  | disturbed _ same inductionHypothesis => exact .disturbed inductionHypothesis (determines _ _ same)
  | answered choice _ inductionHypothesis => exact .answered choice inductionHypothesis

/-- An execution keeps the contract its routine meets, for all events that occur
in it. -/
theorem contract {Fine : Event S Err State → Prop} {Allowed : Log S Err State → S.Call → Prop}
    {Returns : β → Log S Err State → Prop} {Throws : Err → Log S Err State → Prop}
    (executes : system.ExecutesAmid part program start log rest state) (fine : ∀ event ∈ log, Fine event)
    (meets : program.Meets (fun log event => system.AdmitsAmid part start log event ∧ Fine event) Allowed Returns
      Throws []) :
    rest.Meets (fun log event => system.AdmitsAmid part start log event ∧ Fine event) Allowed Returns Throws log ∧
      Lawful (system.AdmitsAmid part start) Allowed log := by
  induction executes with
  | begun => exact ⟨meets, trivial⟩
  | disturbed _ _ inductionHypothesis => exact inductionHypothesis fine
  | @answered log call _ state choice earlier inductionHypothesis =>
      rcases inductionHypothesis fun event member => fine event (List.mem_cons_of_mem _ member) with
        ⟨ahead, behind⟩
      have admitted : system.AdmitsAmid part start log (system.answer state call choice) :=
        ⟨⟨choice, rfl⟩, earlier.found⟩
      exact ⟨ahead.2 _ _ _ ⟨admitted, fine _ List.mem_cons_self⟩, ahead.1, admitted, behind⟩

/-- What a contract asks for before each call and at both ends holds wherever an
execution stands. -/
theorem standing {Fine : Event S Err State → Prop} {Holds : Log S Err State → Prop}
    (executes : system.ExecutesAmid part program start log rest state) (fine : ∀ event ∈ log, Fine event)
    (meets : program.Meets (fun log event => system.AdmitsAmid part start log event ∧ Fine event) (fun log _ => Holds log)
      (fun _ => Holds) (fun _ => Holds) []) : Holds log := by
  have ahead := (executes.contract fine meets).1
  cases rest with
  | done value => exact ahead
  | thrown error => exact ahead
  | await call resume => exact ahead.1

end ExecutesAmid
end System
end Process
end Orderly
