import Orderly.Process.System
import Orderly.Store.SessionLocks
import Orderly.Domain.Values

/-!
# PostgresAdvisoryLock

`acquire` asks for a session-level advisory lock through the connection pool,
and the release function it returns gives the lock back through the same pool.
Any session of the pool may serve either statement.  What the release function
and the timer share is the variable `released` of their closure.

Three routines run over one state: calls of `acquire`, calls of a returned
release function, and the callback of the timer.  A piece of code without an
`await` is one call here.
-/

namespace Orderly

open Process (Config Log Move Program Signature System Thread)

/-- The index of a granted lock's closure. -/
abbrev LockId := Nat

inductive LockCall where
  /-- `SELECT pg_try_advisory_lock(key)`. -/
  | tryAdvisoryLock (key : Int)
  /-- `SELECT pg_advisory_unlock(key)`. -/
  | advisoryUnlock (key : Int)
  /-- `let released = false` and `setTimeout`. -/
  | setTimeout (resourceId : String) (ttlMs : Nat)
  /-- `if (released) return; released = true; clearTimeout(timer)`. -/
  | claim (lock : LockId)
  /-- `if (!released)`. -/
  | isReleased (lock : LockId)

abbrev LockCall.Reply : LockCall → Type
  | setTimeout _ _ => LockId
  | _ => Bool

/-- The signature of the lock manager. -/
abbrev lockPorts : Signature where
  Call := LockCall
  Reply := LockCall.Reply

abbrev Locking (α : Type) := Program lockPorts JsError α

namespace PostgresAdvisoryLock

/-- Four bytes, the most significant one first. -/
def readUInt32BE (hash : List UInt8) (offset : Nat) : Nat :=
  ((hash.drop offset).take 4).foldl (fun value byte => 256 * value + byte.toNat) 0

/-- `BigInt.asIntN(64, value)`. -/
def asIntN64 (value : Nat) : Int :=
  if value % 2 ^ 64 < 2 ^ 63 then (value % 2 ^ 64 : Nat) else (value % 2 ^ 64 : Nat) - 2 ^ 64

/-- The lock's key, from the SHA-256 digest of the resource's name. -/
def toInt64 (sha256 : String → List UInt8) (resourceId : String) : Int :=
  let hash := sha256 resourceId
  let high := readUInt32BE hash 0
  let low := readUInt32BE hash 4
  asIntN64 (high * 2 ^ 32 + low)

example : toInt64 (fun _ => [255, 255, 255, 255, 255, 255, 255, 254]) "inventory:A" = -2 := by decide +kernel

def tryAdvisoryLock (key : Int) : Locking Bool := Program.call (S := lockPorts) (.tryAdvisoryLock key)

def advisoryUnlock (key : Int) : Locking Bool := Program.call (S := lockPorts) (.advisoryUnlock key)

def setTimeout (resourceId : String) (ttlMs : Nat) : Locking LockId :=
  Program.call (S := lockPorts) (.setTimeout resourceId ttlMs)

def claim (lock : LockId) : Locking Bool := Program.call (S := lockPorts) (.claim lock)

def isReleased (lock : LockId) : Locking Bool := Program.call (S := lockPorts) (.isReleased lock)

variable (sha256 : String → List UInt8)

/-- The lock's closure, if it is granted. -/
def acquire (resourceId : String) (ttlMs : Nat) : Locking (Option LockId) := do
  let lockId := toInt64 sha256 resourceId
  let result ← tryAdvisoryLock lockId
  if !result then return none
  else return some (← setTimeout resourceId ttlMs)

/-- A failed unlock is logged, and its result is not read. -/
def release (lockId : Int) : Locking Unit :=
  tryCatch (do let _ ← advisoryUnlock lockId) fun _ => return ()

/-- The function `acquire` returns. -/
def releaseFunction (lock : LockId) (resourceId : String) : Locking Unit := do
  if ← claim lock then release (toInt64 sha256 resourceId)

/-- The callback of the timer. -/
def expire (lock : LockId) (resourceId : String) : Locking Unit := do
  if !(← isReleased lock) then release (toInt64 sha256 resourceId)

end PostgresAdvisoryLock

/-! ## The pool and the closures -/

/-- The variables a release function and a timer have in common. -/
structure LockClosure where
  resourceId : String
  ttlMs : Nat
  released : Bool := false
  deriving DecidableEq, Repr

/-- The lock table of the server, and the closures in the process. -/
structure LockState (sessions : Nat) where
  table : Store.SessionLocks (Fin sessions) Int := .empty
  closures : List LockClosure := []

/-- A statement is served by some session.  Its answer may get lost, and it may
fail without effect. -/
inductive LockChoice (sessions : Nat) where
  | serve (session : Fin sessions)
  | lose (session : Fin sessions) (error : JsError)
  | reject (error : JsError)

namespace LockState

variable {sessions : Nat}

/-- What a statement does to the lock table. -/
def statement (state : LockState sessions)
    (result : Fin sessions → Bool × Store.SessionLocks (Fin sessions) Int) :
    LockChoice sessions → Except JsError Bool × LockState sessions
  | .serve session => (.ok (result session).1, { state with table := (result session).2 })
  | .lose session error => (.error error, { state with table := (result session).2 })
  | .reject error => (.error error, state)

/-- One call. -/
def perform (state : LockState sessions) : (call : LockCall) → LockChoice sessions →
    Except JsError call.Reply × LockState sessions
  | .tryAdvisoryLock key, choice => state.statement (fun session => state.table.tryLock session key) choice
  | .advisoryUnlock key, choice => state.statement (fun session => state.table.unlock session key) choice
  | .setTimeout resourceId ttlMs, _ =>
      (.ok state.closures.length, { state with closures := state.closures ++ [{ resourceId, ttlMs }] })
  | .claim lock, _ =>
      (.ok (match state.closures[lock]? with
        | some closure => !closure.released
        | none => false),
        { state with closures := state.closures.modify lock ({ · with released := true }) })
  | .isReleased lock, _ =>
      (.ok (match state.closures[lock]? with
        | some closure => closure.released
        | none => true), state)

end LockState

/-- What runs over the pool. -/
inductive LockTask where
  | acquire (resourceId : String) (ttlMs : Nat)
  | release (lock : LockId) (resourceId : String)
  | expire (lock : LockId) (resourceId : String)
  deriving DecidableEq, Repr

/-- The release function a call of `acquire` returns, if any. -/
def LockTask.program (sha256 : String → List UInt8) : LockTask → Locking (Option LockId)
  | acquire resourceId ttlMs => PostgresAdvisoryLock.acquire sha256 resourceId ttlMs
  | release lock resourceId => do
      PostgresAdvisoryLock.releaseFunction sha256 lock resourceId
      return none
  | expire lock resourceId => do
      PostgresAdvisoryLock.expire sha256 lock resourceId
      return none

/-- Any number of callers over a pool of sessions. -/
def lockSystem (sha256 : String → List UInt8) (sessions : Nat) :
    System lockPorts JsError (LockState sessions) LockTask (LockChoice sessions) (Option LockId) where
  program := LockTask.program sha256
  perform state call choice := state.perform call choice

abbrev LockConfig (sessions : Nat) := Config lockPorts JsError (LockState sessions) LockTask (Option LockId)

abbrev LockThread (sessions : Nat) := Thread lockPorts JsError (LockState sessions) LockTask (Option LockId)

abbrev LockMove (sessions : Nat) := Move LockTask (LockChoice sessions)

/-- Nobody has asked for a lock. -/
def LockConfig.initial (sessions : Nat) : LockConfig sessions := { shared := {} }

end Orderly
