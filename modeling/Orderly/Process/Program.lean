import Mathlib.Logic.Function.Basic

/-!
# Programs that await answers

An asynchronous routine is a tree.  It is finished with a value, it is
finished with an error, or it has issued one call and carries a continuation
for every answer that call may receive.  A failed call answers with an error,
so the same continuation also describes what an exception handler sees.

Nothing here says which answers are possible, or what a call does to the
state it acts on.  A program only fixes the calls it issues and the order in
which it issues them.  The tree branches at every suspension point, so
stopping a routine between two awaits, or letting another routine run there,
needs no further syntax.
-/

namespace Orderly
namespace Process

/-- The calls a family of programs may issue, with the type of each answer. -/
structure Signature where
  Call : Type
  Reply : Call → Type

/-- A routine over a signature.  `thrown` is an exception nobody caught. -/
inductive Program (S : Signature) (Err α : Type) : Type where
  | done (value : α)
  | thrown (error : Err)
  | await (call : S.Call) (resume : Except Err (S.Reply call) → Program S Err α)

namespace Program

variable {S : Signature} {Err α β : Type}

/-- Continue a finished computation, or let its exception pass through. -/
protected def bind : Program S Err α → (α → Program S Err β) → Program S Err β
  | done value, next => next value
  | thrown error, _ => thrown error
  | await call resume, next => await call (fun reply => (resume reply).bind next)

instance : Monad (Program S Err) where
  pure := done
  bind := Program.bind

@[simp] theorem pure_eq (value : α) : (pure value : Program S Err α) = done value := rfl

@[simp] theorem done_bind (value : α) (next : α → Program S Err β) :
    (done value : Program S Err α) >>= next = next value := rfl

@[simp] theorem thrown_bind (error : Err) (next : α → Program S Err β) :
    (thrown error : Program S Err α) >>= next = thrown error := rfl

@[simp] theorem await_bind (call : S.Call) (resume : Except Err (S.Reply call) → Program S Err α)
    (next : α → Program S Err β) :
    await call resume >>= next = await call (fun reply => resume reply >>= next) := rfl

/-- A computation that has already been decided. -/
def ofExcept : Except Err α → Program S Err α
  | .ok value => done value
  | .error error => thrown error

instance : MonadLift (Except Err) (Program S Err) where
  monadLift := ofExcept

@[simp] theorem monadLift_eq (result : Except Err α) :
    (monadLift result : Program S Err α) = ofExcept result := rfl

@[simp] theorem liftM_eq (result : Except Err α) :
    (liftM result : Program S Err α) = ofExcept result := rfl

/-- Issue one call.  An error answer is rethrown at the call's place. -/
def call (request : S.Call) : Program S Err (S.Reply request) :=
  await request ofExcept

/-- Run to the end and hand over the outcome instead of throwing it. -/
def attempt : Program S Err α → Program S Err (Except Err α)
  | done value => done (.ok value)
  | thrown error => done (.error error)
  | await request resume => await request (fun reply => (resume reply).attempt)

/-- Run a handler on the error of a computation that threw. -/
def recover (program : Program S Err α) (handler : Err → Program S Err α) : Program S Err α := do
  match ← program.attempt with
  | .ok value => done value
  | .error error => handler error

instance : MonadExceptOf Err (Program S Err) where
  throw := thrown
  tryCatch := recover

@[simp] theorem throw_eq (error : Err) : (throw error : Program S Err α) = thrown error := rfl

/-- Rethrowing what was caught changes nothing. -/
theorem tryCatch_throw (program : Program S Err α) :
    (tryCatch program fun error => throw error) = program := by
  induction program with
  | done value => rfl
  | thrown error => rfl
  | await request resume inductionHypothesis => exact congrArg (await request) (funext inductionHypothesis)

/-- The routine has nothing left to do. -/
def finished : Program S Err α → Bool
  | await _ _ => false
  | _ => true

end Program

end Process
end Orderly
