import Orderly.Process.Program

/-!
# Contracts over call logs

A routine's log lists the calls it has issued so far, newest first, with the
answer each received and the shared state immediately before and after.  A
contract says, for every log a routine can have, which call it may issue next
and what must hold when it returns or throws.  Everything a routine promises
about the order of its effects can be read off its log, so no separate ghost
state is needed.

The relation `Admits` fixes which events may be appended to a log.  The weakest
useful choice is "every answer the call can receive in some shared state":
then the contract holds under arbitrary interference by other routines.  A
stronger choice, where each event starts in the state the previous one left,
describes a routine running alone.
-/

namespace Orderly
namespace Process

/-- One answered call, with the shared state around it. -/
structure Event (S : Signature) (Err State : Type) where
  call : S.Call
  reply : Except Err (S.Reply call)
  before : State
  after : State

/-- Newest first. -/
abbrev Log (S : Signature) (Err State : Type) := List (Event S Err State)

namespace Program

variable {S : Signature} {Err State α β : Type}

/-- `program` meets a contract from a given log: each call it may still issue
is allowed when it is issued, and its outcome satisfies the postconditions. -/
def Meets (Admits : Log S Err State → Event S Err State → Prop)
    (Allowed : Log S Err State → S.Call → Prop)
    (Returns : α → Log S Err State → Prop) (Throws : Err → Log S Err State → Prop) :
    Program S Err α → Log S Err State → Prop
  | done value, log => Returns value log
  | thrown error, log => Throws error log
  | await call resume, log =>
      Allowed log call ∧ ∀ reply before after,
        Admits log ⟨call, reply, before, after⟩ →
          Meets Admits Allowed Returns Throws (resume reply) (⟨call, reply, before, after⟩ :: log)

variable {Admits : Log S Err State → Event S Err State → Prop}
  {Allowed : Log S Err State → S.Call → Prop}
  {Returns : α → Log S Err State → Prop} {Throws : Err → Log S Err State → Prop}

namespace Meets

@[simp] theorem done_iff (value : α) (log : Log S Err State) :
    Meets Admits Allowed Returns Throws (done value) log ↔ Returns value log := Iff.rfl

@[simp] theorem thrown_iff (error : Err) (log : Log S Err State) :
    Meets Admits Allowed Returns Throws (thrown error : Program S Err α) log ↔ Throws error log :=
  Iff.rfl

/-- Postconditions may be weakened. -/
theorem weaken {Returns' : α → Log S Err State → Prop} {Throws' : Err → Log S Err State → Prop}
    {program : Program S Err α} {log : Log S Err State}
    (meets : Meets Admits Allowed Returns Throws program log)
    (returns : ∀ value log, Returns value log → Returns' value log)
    (throws : ∀ error log, Throws error log → Throws' error log) :
    Meets Admits Allowed Returns' Throws' program log := by
  induction program generalizing log with
  | done value => exact returns value log meets
  | thrown error => exact throws error log meets
  | await call resume inductionHypothesis =>
      refine ⟨meets.1, fun reply before after admitted => ?_⟩
      exact inductionHypothesis reply (meets.2 reply before after admitted)

/-- A contract for more possible events is one for fewer. -/
theorem narrow {Fewer : Log S Err State → Event S Err State → Prop} {program : Program S Err α}
    {log : Log S Err State} (fewer : ∀ log event, Fewer log event → Admits log event)
    (meets : Meets Admits Allowed Returns Throws program log) :
    Meets Fewer Allowed Returns Throws program log := by
  induction program generalizing log with
  | done value => exact meets
  | thrown error => exact meets
  | await call resume inductionHypothesis =>
      refine ⟨meets.1, fun reply before after admitted => ?_⟩
      exact inductionHypothesis reply (meets.2 reply before after (fewer _ _ admitted))

/-- A contract that allows fewer calls is one that allows more. -/
theorem widen {Wider : Log S Err State → S.Call → Prop} {program : Program S Err α} {log : Log S Err State}
    (wider : ∀ log call, Allowed log call → Wider log call)
    (meets : Meets Admits Allowed Returns Throws program log) : Meets Admits Wider Returns Throws program log := by
  induction program generalizing log with
  | done value => exact meets
  | thrown error => exact meets
  | await call resume inductionHypothesis =>
      refine ⟨wider _ _ meets.1, fun reply before after admitted => ?_⟩
      exact inductionHypothesis reply (meets.2 reply before after admitted)

/-- A contract that asks for nothing. -/
theorem anything (program : Program S Err α) (log : Log S Err State) :
    Meets Admits (fun _ _ => True) (fun _ _ => True) (fun _ _ => True) program log := by
  induction program generalizing log with
  | done value => exact trivial
  | thrown error => exact trivial
  | await call resume inductionHypothesis => exact ⟨trivial, fun reply _ _ _ => inductionHypothesis reply _⟩

/-- Two contracts for the same events are one. -/
theorem both {Allowed' : Log S Err State → S.Call → Prop} {Returns' : α → Log S Err State → Prop}
    {Throws' : Err → Log S Err State → Prop} {program : Program S Err α} {log : Log S Err State}
    (first : Meets Admits Allowed Returns Throws program log)
    (second : Meets Admits Allowed' Returns' Throws' program log) :
    Meets Admits (fun log call => Allowed log call ∧ Allowed' log call)
      (fun value log => Returns value log ∧ Returns' value log)
      (fun error log => Throws error log ∧ Throws' error log) program log := by
  induction program generalizing log with
  | done value => exact ⟨first, second⟩
  | thrown error => exact ⟨first, second⟩
  | await call resume inductionHypothesis =>
      refine ⟨⟨first.1, second.1⟩, fun reply before after admitted => ?_⟩
      exact inductionHypothesis reply (first.2 reply before after admitted) (second.2 reply before after admitted)

/-- What every allowed call keeps holds at every call and at the end. -/
theorem guarding {Kept : Log S Err State → Prop} {program : Program S Err α} {log : Log S Err State}
    (meets : Meets Admits Allowed Returns Throws program log) (initial : Kept log)
    (preserved : ∀ log event, Allowed log event.call → Admits log event → Kept log → Kept (event :: log)) :
    Meets Admits (fun log call => Allowed log call ∧ Kept log) (fun value log => Returns value log ∧ Kept log)
      (fun error log => Throws error log ∧ Kept log) program log := by
  induction program generalizing log with
  | done value => exact ⟨meets, initial⟩
  | thrown error => exact ⟨meets, initial⟩
  | await call resume inductionHypothesis =>
      refine ⟨⟨meets.1, initial⟩, fun reply before after admitted => ?_⟩
      have kept := preserved log ⟨call, reply, before, after⟩ meets.1 admitted initial
      exact inductionHypothesis reply (meets.2 reply before after admitted) kept

/-- What every allowed call keeps still holds at the end. -/
theorem keeping {Kept : Log S Err State → Prop} {program : Program S Err α} {log : Log S Err State}
    (meets : Meets Admits Allowed Returns Throws program log) (initial : Kept log)
    (preserved : ∀ log event, Allowed log event.call → Admits log event → Kept log → Kept (event :: log)) :
    Meets Admits Allowed (fun value log => Returns value log ∧ Kept log) (fun error log => Throws error log ∧ Kept log)
      program log :=
  (meets.guarding initial preserved).widen fun _ _ allowed => allowed.1

/-- Sequential composition: the first part may return only where the second
part's contract starts, and what it throws is thrown by the whole. -/
theorem bind {Middle : α → Log S Err State → Prop} {Returns : β → Log S Err State → Prop}
    {program : Program S Err α} {next : α → Program S Err β} {log : Log S Err State}
    (first : Meets Admits Allowed Middle Throws program log)
    (second : ∀ value log, Middle value log →
      Meets Admits Allowed Returns Throws (next value) log) :
    Meets Admits Allowed Returns Throws (program >>= next) log := by
  induction program generalizing log with
  | done value => exact second value log first
  | thrown error => exact first
  | await call resume inductionHypothesis =>
      refine ⟨first.1, fun reply before after admitted => ?_⟩
      exact inductionHypothesis reply (first.2 reply before after admitted)

/-- A single call followed by a continuation. -/
theorem call_bind {request : S.Call} {next : S.Reply request → Program S Err α}
    {log : Log S Err State} (allowed : Allowed log request)
    (failed : ∀ error before after, Admits log ⟨request, .error error, before, after⟩ →
      Throws error (⟨request, .error error, before, after⟩ :: log))
    (answered : ∀ value before after, Admits log ⟨request, .ok value, before, after⟩ →
      Meets Admits Allowed Returns Throws (next value)
        (⟨request, .ok value, before, after⟩ :: log)) :
    Meets Admits Allowed Returns Throws (call request >>= next) log := by
  refine ⟨allowed, fun reply before after admitted => ?_⟩
  cases reply with
  | ok value => exact answered value before after admitted
  | error error => exact failed error before after admitted

/-- The same for a call whose answer is the routine's result. -/
theorem call {request : S.Call} {Returns : S.Reply request → Log S Err State → Prop}
    {log : Log S Err State} (allowed : Allowed log request)
    (failed : ∀ error before after, Admits log ⟨request, .error error, before, after⟩ →
      Throws error (⟨request, .error error, before, after⟩ :: log))
    (answered : ∀ value before after, Admits log ⟨request, .ok value, before, after⟩ →
      Returns value (⟨request, .ok value, before, after⟩ :: log)) :
    Meets Admits Allowed Returns Throws (Program.call request) log := by
  refine ⟨allowed, fun reply before after admitted => ?_⟩
  cases reply with
  | ok value => exact answered value before after admitted
  | error error => exact failed error before after admitted

/-- Catching turns both outcomes into a returned value. -/
theorem attempt {Outcome : Except Err α → Log S Err State → Prop}
    {program : Program S Err α} {log : Log S Err State}
    (meets : Meets Admits Allowed (fun value => Outcome (.ok value))
      (fun error => Outcome (.error error)) program log) :
    Meets Admits Allowed Outcome Throws program.attempt log := by
  induction program generalizing log with
  | done value => exact meets
  | thrown error => exact meets
  | await call resume inductionHypothesis =>
      refine ⟨meets.1, fun reply before after admitted => ?_⟩
      exact inductionHypothesis reply (meets.2 reply before after admitted)

/-- What is known after an outcome. -/
def Ended (Middle : α → Log S Err State → Prop) (Caught : Err → Log S Err State → Prop) :
    Except Err α → Log S Err State → Prop
  | .ok value => Middle value
  | .error error => Caught error

/-- What follows a routine that was attempted starts wherever it may have ended. -/
theorem attempt_bind {Middle : α → Log S Err State → Prop} {Caught : Err → Log S Err State → Prop}
    {Returns : β → Log S Err State → Prop} {program : Program S Err α} {next : Except Err α → Program S Err β}
    {log : Log S Err State} (body : Meets Admits Allowed Middle Caught program log)
    (returned : ∀ value log, Middle value log → Meets Admits Allowed Returns Throws (next (.ok value)) log)
    (caught : ∀ error log, Caught error log → Meets Admits Allowed Returns Throws (next (.error error)) log) :
    Meets Admits Allowed Returns Throws (program.attempt >>= next) log := by
  have decided : Meets Admits Allowed (Ended Middle Caught) Throws program.attempt log := attempt body
  refine bind decided ?_
  intro outcome log reached
  cases outcome with
  | ok value => exact returned value log reached
  | error error => exact caught error log reached

/-- A single call whose outcome, answered or failed, goes to a continuation. -/
theorem attempt_call {Returns : β → Log S Err State → Prop} {request : S.Call}
    {next : Except Err (S.Reply request) → Program S Err β} {log : Log S Err State}
    (allowed : Allowed log request)
    (answered : ∀ reply before after, Admits log ⟨request, reply, before, after⟩ →
      Meets Admits Allowed Returns Throws (next reply) (⟨request, reply, before, after⟩ :: log)) :
    Meets Admits Allowed Returns Throws ((Program.call request).attempt >>= next) log := by
  refine ⟨allowed, fun reply before after admitted => ?_⟩
  cases reply with
  | ok value => exact answered (.ok value) before after admitted
  | error error => exact answered (.error error) before after admitted

/-- `try … catch`: the handler starts wherever the body may have thrown. -/
theorem tryCatch {Caught : Err → Log S Err State → Prop}
    {program : Program S Err α} {handler : Err → Program S Err α} {log : Log S Err State}
    (body : Meets Admits Allowed Returns Caught program log)
    (handled : ∀ error log, Caught error log →
      Meets Admits Allowed Returns Throws (handler error) log) :
    Meets Admits Allowed Returns Throws (MonadExcept.tryCatch program handler) log :=
  attempt_bind body (fun _ _ returned => returned) handled

theorem ofExcept {result : Except Err α} {log : Log S Err State}
    (ok : ∀ value, result = .ok value → Returns value log)
    (error : ∀ error, result = .error error → Throws error log) :
    Meets Admits Allowed Returns Throws (ofExcept result : Program S Err α) log := by
  cases result with
  | ok value => exact ok value rfl
  | error failure => exact error failure rfl

end Meets

/-! ## The calls a routine can issue -/

/-- Whatever a routine is answered, it issues no other calls than these. -/
def Issues (Only : S.Call → Prop) : Program S Err α → Prop
  | done _ => True
  | thrown _ => True
  | await call resume => Only call ∧ ∀ reply, (resume reply).Issues Only

namespace Issues

variable {Only : S.Call → Prop} {program : Program S Err α}

theorem weaken {Wider : S.Call → Prop} (issues : program.Issues Only) (wider : ∀ call, Only call → Wider call) :
    program.Issues Wider := by
  induction program with
  | done value => trivial
  | thrown error => trivial
  | await call resume inductionHypothesis =>
      exact ⟨wider call issues.1, fun reply => inductionHypothesis reply (issues.2 reply)⟩

theorem bind {next : α → Program S Err β} (first : program.Issues Only) (second : ∀ value, (next value).Issues Only) :
    (program >>= next).Issues Only := by
  induction program with
  | done value => exact second value
  | thrown error => trivial
  | await call resume inductionHypothesis =>
      exact ⟨first.1, fun reply => inductionHypothesis reply (first.2 reply)⟩

theorem ofExcept (result : Except Err α) : (ofExcept result : Program S Err α).Issues Only := by
  cases result with
  | ok value => trivial
  | error error => trivial

theorem call {request : S.Call} (only : Only request) : (Program.call request : Program S Err _).Issues Only :=
  ⟨only, ofExcept⟩

theorem attempt (issues : program.Issues Only) : program.attempt.Issues Only := by
  induction program with
  | done value => trivial
  | thrown error => trivial
  | await call resume inductionHypothesis =>
      exact ⟨issues.1, fun reply => inductionHypothesis reply (issues.2 reply)⟩

theorem tryCatch {handler : Err → Program S Err α} (body : program.Issues Only)
    (handled : ∀ error, (handler error).Issues Only) : (MonadExcept.tryCatch program handler).Issues Only := by
  refine bind body.attempt ?_
  intro outcome
  cases outcome with
  | ok value => trivial
  | error error => exact handled error

/-- What all of its calls keep is kept by the routine. -/
theorem meets {Kept : Log S Err State → Prop} {log : Log S Err State} (issues : program.Issues Only)
    (kept : Kept log) (allowed : ∀ log call, Kept log → Only call → Allowed log call)
    (preserved : ∀ log event, Kept log → Only event.call → Admits log event → Kept (event :: log)) :
    program.Meets Admits Allowed (fun _ => Kept) (fun _ => Kept) log := by
  induction program generalizing log with
  | done value => exact kept
  | thrown error => exact kept
  | await call resume inductionHypothesis =>
      refine ⟨allowed log call kept issues.1, ?_⟩
      intro reply before after admitted
      exact inductionHypothesis reply (issues.2 reply) (preserved log _ kept issues.1 admitted)

end Issues

end Program

end Process
end Orderly
